import Mathlib.Data.List.Induction
import Mathlib.Tactic.Common

/-!
# Histories: what has held since

A list is read as a history, the newest entry last.

* `AtEach` says of each entry what it has to do with those before it;
* `Since` says that an entry met a condition when it came, and that every later
  one suits it.

Both are unfolded one entry at the end at a time.
-/

namespace MoxaDrivers.History

variable {β : Type*}

/-- Each entry, with the history before it. -/
def AtEach (Q : List β → β → Prop) (l : List β) : Prop :=
  ∀ before x after, l = before ++ x :: after → Q before x

/-- `x` came after a history as `P` says, and the entries since suit it. -/
def Since (P : List β → β → Prop) (R : β → β → Prop) (l : List β) (x : β) : Prop :=
  ∃ before held, l = before ++ x :: held ∧ P before x ∧ ∀ y ∈ held, R x y

/-- An entry of a list with one more at the end. -/
theorem concat_eq_append_cons {l : List β} {z x : β} {before after : List β} :
    l ++ [z] = before ++ x :: after ↔
      (after = [] ∧ l = before ∧ z = x) ∨ ∃ rest, after = rest ++ [z] ∧ l = before ++ x :: rest := by
  constructor
  · intro h
    obtain rfl | ⟨rest, w, rfl⟩ := List.eq_nil_or_concat after
    · obtain ⟨hl, hz⟩ := List.append_inj' h rfl
      exact .inl ⟨rfl, hl, List.cons.inj hz |>.1⟩
    · rw [List.concat_eq_append] at h ⊢
      have hsplit : l ++ [z] = (before ++ x :: rest) ++ [w] := by
        rw [h, List.append_assoc, List.cons_append]
      obtain ⟨hl, hz⟩ := List.append_inj' hsplit rfl
      obtain rfl : z = w := List.cons.inj hz |>.1
      exact .inr ⟨rest, rfl, hl⟩
  · rintro (⟨rfl, rfl, rfl⟩ | ⟨rest, rfl, rfl⟩)
    · rfl
    · rw [List.append_assoc, List.cons_append]

theorem atEach_nil (Q : List β → β → Prop) : AtEach Q [] := by
  intro before x after h
  simp at h

theorem atEach_concat (Q : List β → β → Prop) (l : List β) (z : β) :
    AtEach Q (l ++ [z]) ↔ AtEach Q l ∧ Q l z := by
  constructor
  · intro h
    constructor
    · intro before x after hl
      exact h before x (after ++ [z]) (concat_eq_append_cons.mpr (.inr ⟨after, rfl, hl⟩))
    · exact h l z [] rfl
  · rintro ⟨hbefore, hlast⟩ before x after hl
    obtain ⟨-, rfl, rfl⟩ | ⟨rest, -, hbody⟩ := concat_eq_append_cons.mp hl
    · exact hlast
    · exact hbefore before x rest hbody

theorem not_since_nil (P : List β → β → Prop) (R : β → β → Prop) (x : β) : ¬ Since P R [] x := by
  rintro ⟨before, held, h, -⟩
  simp at h

theorem since_concat (P : List β → β → Prop) (R : β → β → Prop) (l : List β) (z x : β) :
    Since P R (l ++ [z]) x ↔ (x = z ∧ P l z) ∨ (Since P R l x ∧ R x z) := by
  constructor
  · rintro ⟨before, held, hl, hcame, hheld⟩
    obtain ⟨-, rfl, rfl⟩ | ⟨rest, rfl, hbody⟩ := concat_eq_append_cons.mp hl
    · exact .inl ⟨rfl, hcame⟩
    · refine .inr ⟨⟨before, rest, hbody, hcame, fun y hy => hheld y ?_⟩, hheld z ?_⟩
      · exact List.mem_append_left _ hy
      · exact List.mem_append_right _ (List.mem_singleton_self z)
  · rintro (⟨rfl, hcame⟩ | ⟨⟨before, held, rfl, hcame, hheld⟩, hz⟩)
    · exact ⟨l, [], rfl, hcame, by simp⟩
    · refine ⟨before, held ++ [z], by simp, hcame, ?_⟩
      intro y hy
      obtain hy | hy := List.mem_append.mp hy
      · exact hheld y hy
      · rw [List.mem_singleton.mp hy]
        exact hz

end MoxaDrivers.History

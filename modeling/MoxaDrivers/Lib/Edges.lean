import Mathlib.Data.List.Destutter
import Mathlib.Data.List.ReduceOption

/-!
# Edges: changes seen through failed readings

A value is read again and again, and a reading may fail. Over the list of
readings, `none` for a failed one:

* `changes` are the values that a sequence changes to;
* `edges` is what a detector reports that compares each reading with the one
  before it;
* `lost` counts the changes that it misses, those right after a failed reading;
* `Settled` says that there are none.
-/

namespace MoxaDrivers.Edges

variable {α : Type*}

section Detector

variable [DecidableEq α]

/-! ## The changes of a sequence -/

/-- The values that a sequence changes to, after `last`. -/
def changes (last : α) (l : List α) : List α := (l.destutter' (· ≠ ·) last).tail

@[simp] theorem changes_nil (last : α) : changes last [] = [] := rfl

theorem cons_changes (last : α) (l : List α) :
    last :: changes last l = l.destutter' (· ≠ ·) last := by
  induction l with
  | nil => rfl
  | cons x l ih =>
      by_cases h : last ≠ x
      · rw [changes, List.destutter'_cons_pos _ h, List.tail_cons]
      · rw [changes, List.destutter'_cons_neg _ h]
        exact ih

@[simp] theorem changes_cons_self (last : α) (l : List α) :
    changes last (last :: l) = changes last l := by
  rw [changes, List.destutter'_cons_neg _ (not_not.mpr rfl)]
  rfl

theorem changes_cons_of_ne {last x : α} (h : last ≠ x) (l : List α) :
    changes last (x :: l) = x :: changes x l := by
  rw [changes, List.destutter'_cons_pos _ h, List.tail_cons, cons_changes]

/-- No two changes in a row are to the same value. -/
theorem isChain_cons_changes (last : α) (l : List α) :
    (last :: changes last l).IsChain (· ≠ ·) := by
  rw [cons_changes]
  exact List.isChain_destutter' _ l last

/-! ## The detector -/

/-- What a reading shows next to the one before it. -/
def edge (prev x : Option α) : List α :=
  match prev, x with
  | some a, some b => if a = b then [] else [b]
  | _, _ => []

/-- What is reported along a list of readings. -/
def edges (prev : Option α) : List (Option α) → List α
  | [] => []
  | x :: xs => edge prev x ++ edges x xs

/-- The changes that are missed: those seen right after a failed reading. -/
def lost (last : α) (prev : Option α) : List (Option α) → Nat
  | [] => 0
  | none :: xs => lost last none xs
  | some b :: xs => (if prev = none ∧ last ≠ b then 1 else 0) + lost b (some b) xs

/-- Each change is either reported or missed. -/
theorem length_edges_add_lost {last : α} {prev : Option α} (h : prev = none ∨ prev = some last)
    (xs : List (Option α)) :
    (edges prev xs).length + lost last prev xs = (changes last xs.reduceOption).length := by
  induction xs generalizing last prev with
  | nil => rfl
  | cons x xs ih =>
      cases x with
      | none =>
          have hedge : edge prev none = [] := by cases prev <;> rfl
          rw [edges, hedge, lost, List.reduceOption_cons_of_none]
          exact ih (.inl rfl)
      | some b =>
          rw [edges, lost, List.reduceOption_cons_of_some, List.length_append]
          have hrest : (edges (some b) xs).length + lost b (some b) xs =
              (changes b xs.reduceOption).length := ih (.inr rfl)
          by_cases hb : last = b
          · subst hb
            have hedge : edge prev (some last) = [] := by
              obtain rfl | rfl := h
              · rfl
              · simp [edge]
            rw [changes_cons_self, hedge, if_neg (fun hc => hc.2 rfl), List.length_nil]
            omega
          · rw [changes_cons_of_ne hb, List.length_cons]
            obtain rfl | rfl := h
            · rw [if_pos ⟨rfl, hb⟩, show edge none (some b) = [] from rfl, List.length_nil]
              omega
            · rw [if_neg (fun hc => nomatch hc.1), show edge (some last) (some b) = [b] from if_neg hb,
                List.length_singleton]
              omega

/-- With none missed, what is reported are the changes. -/
theorem edges_eq_changes {last : α} {prev : Option α} (h : prev = none ∨ prev = some last)
    {xs : List (Option α)} (hlost : lost last prev xs = 0) :
    edges prev xs = changes last xs.reduceOption := by
  induction xs generalizing last prev with
  | nil => rfl
  | cons x xs ih =>
      cases x with
      | none =>
          have hedge : edge prev none = [] := by cases prev <;> rfl
          rw [edges, hedge, List.reduceOption_cons_of_none]
          exact ih (.inl rfl) hlost
      | some b =>
          rw [lost, Nat.add_eq_zero_iff] at hlost
          obtain ⟨hnow, hrest⟩ := hlost
          rw [edges, List.reduceOption_cons_of_some, ih (.inr rfl) hrest]
          by_cases hb : last = b
          · subst hb
            rw [changes_cons_self]
            obtain rfl | rfl := h
            · rfl
            · simp [edge]
          · rw [changes_cons_of_ne hb]
            obtain rfl | rfl := h
            · rw [if_pos ⟨rfl, hb⟩] at hnow
              cases hnow
            · rw [show edge (some last) (some b) = [b] from if_neg hb]
              rfl

end Detector

/-! ## When nothing is missed -/

/-- A reading right after a failed one is that before it, or `last` if there is
none. -/
def Settled (last : α) (xs : List (Option α)) : Prop :=
  ∀ before x after, xs = before ++ none :: some x :: after → before.reduceOption.getLastD last = x

theorem getLastD_reduceOption_cons (last : α) (x : Option α) (xs : List (Option α)) :
    (x :: xs).reduceOption.getLastD last = xs.reduceOption.getLastD (x.getD last) := by
  cases x with
  | none => rw [List.reduceOption_cons_of_none, Option.getD_none]
  | some a => rw [List.reduceOption_cons_of_some, List.getLastD_cons, Option.getD_some]

theorem settled_cons (last : α) (x : Option α) (xs : List (Option α)) :
    Settled last (x :: xs) ↔
      (∀ b after, x = none → xs = some b :: after → last = b) ∧ Settled (x.getD last) xs := by
  constructor
  · intro h
    refine ⟨fun b after hx hxs => h [] b after (by rw [hx, hxs]; rfl), ?_⟩
    intro before b after hxs
    rw [← getLastD_reduceOption_cons]
    exact h (x :: before) b after (by rw [hxs]; rfl)
  · rintro ⟨hhead, htail⟩ before b after heq
    cases before with
    | nil =>
        obtain ⟨hx, hxs⟩ := List.cons.inj heq
        exact hhead b after hx hxs
    | cons y before =>
        obtain ⟨hxy, hxs⟩ := List.cons.inj heq
        rw [← hxy, getLastD_reduceOption_cons]
        exact htail before b after hxs

@[simp] theorem settled_cons_some (last a : α) (xs : List (Option α)) :
    Settled last (some a :: xs) ↔ Settled a xs := by
  rw [settled_cons]
  simp

variable [DecidableEq α]

/-- **Nothing is missed** exactly if no change is seen right after a failed
reading. -/
theorem lost_eq_zero_iff {last : α} {prev : Option α} (h : prev = none ∨ prev = some last)
    (xs : List (Option α)) : lost last prev xs = 0 ↔ Settled last (prev :: xs) := by
  induction xs generalizing last prev with
  | nil =>
      have hnil (a : α) : Settled a [] := by
        intro before b after heq
        simp at heq
      simp [lost, settled_cons, hnil]
  | cons x xs ih =>
      have hlast : prev.getD last = last := by
        obtain rfl | rfl := h
        · rfl
        · rfl
      rw [settled_cons, hlast]
      cases x with
      | none =>
          rw [lost, ih (.inl rfl)]
          simp
      | some b =>
          rw [lost, Nat.add_eq_zero_iff, ih (.inr rfl), settled_cons_some, settled_cons_some]
          simp

/-- The reports are as many as the changes exactly if none is missed. -/
theorem length_edges_iff {last : α} {prev : Option α} (h : prev = none ∨ prev = some last)
    (xs : List (Option α)) :
    (edges prev xs).length = (changes last xs.reduceOption).length ↔ Settled last (prev :: xs) := by
  rw [← lost_eq_zero_iff h, ← length_edges_add_lost h]
  omega

end MoxaDrivers.Edges

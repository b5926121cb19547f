import Mathlib.Data.List.MinMax

/-!
# Loops that keep the best candidate

A loop goes through a list of candidates with a record of the best one so far,
and replaces the record only by something strictly better. It ends with the
record of the candidate that `List.argmin` picks, provided that one is better
than what the loop started with.
-/

namespace MoxaDrivers.Argmin

variable {α β κ : Type*} [LinearOrder κ] {cost : α → κ} {worth : β → κ} {record : α → β}
  {step : β → α → β}

/-- One turn of the loop: `worth` is what the record says of the best so far. -/
structure KeepsBest (cost : α → κ) (worth : β → κ) (record : α → β) (step : β → α → β) : Prop where
  worth_record : ∀ a, worth (record a) = cost a
  step_eq : ∀ b a, step b a = if cost a < worth b then record a else b

/-- What is left of the record `b` once the best of the candidates is known. -/
def settle (cost : α → κ) (worth : β → κ) (record : α → β) (b : β) : Option α → β
  | none => b
  | some a => if cost a < worth b then record a else b

theorem settle_of_lt {b : β} {a : α} (h : cost a < worth b) :
    settle cost worth record b (some a) = record a := if_pos h

theorem settle_of_le {b : β} {a : α} (h : worth b ≤ cost a) :
    settle cost worth record b (some a) = b := if_neg (not_lt.mpr h)

theorem KeepsBest.foldl_eq (h : KeepsBest cost worth record step) (l : List α) (b : β) :
    l.foldl step b = settle cost worth record b (l.argmin cost) := by
  induction l using List.reverseRecOn with
  | nil => rfl
  | append_singleton l a ih =>
      rw [List.foldl_append, List.foldl_cons, List.foldl_nil, ih, List.argmin_concat, h.step_eq]
      cases l.argmin cost with
      | none => rfl
      | some c =>
          simp only []
          rcases lt_or_ge (cost c) (worth b) with hc | hc
          · -- the record is that of `c`
            simp only [settle_of_lt hc, h.worth_record]
            by_cases ha : cost a < cost c
            · rw [if_pos ha, if_pos ha, settle_of_lt (ha.trans hc)]
            · rw [if_neg ha, if_neg ha, settle_of_lt hc]
          · -- no candidate so far is better than the start
            simp only [settle_of_le hc]
            by_cases ha : cost a < cost c
            · rw [if_pos ha]
              rfl
            · rw [if_neg ha, settle_of_le hc, if_neg (not_lt.mpr (hc.trans (not_lt.mp ha)))]

/-- With a candidate that is better than the start, the loop ends with a best
one. -/
theorem KeepsBest.foldl_of_lt (h : KeepsBest cost worth record step) {l : List α} {b : β} {a₀ : α}
    (ha₀ : a₀ ∈ l) (hlt : cost a₀ < worth b) :
    ∃ a ∈ l, l.foldl step b = record a ∧ ∀ a' ∈ l, cost a ≤ cost a' := by
  cases hm : l.argmin cost with
  | none =>
      rw [List.argmin_eq_none.mp hm] at ha₀
      cases ha₀
  | some a =>
      have hbest : ∀ a' ∈ l, cost a ≤ cost a' := fun a' ha' => List.le_of_mem_argmin ha' hm
      refine ⟨a, List.argmin_mem hm, ?_, hbest⟩
      rw [h.foldl_eq, hm, settle_of_lt ((hbest a₀ ha₀).trans_lt hlt)]

/-- Without one it ends with what it started with. -/
theorem KeepsBest.foldl_of_le (h : KeepsBest cost worth record step) {l : List α} {b : β}
    (hle : ∀ a ∈ l, worth b ≤ cost a) : l.foldl step b = b := by
  rw [h.foldl_eq]
  cases hm : l.argmin cost with
  | none => rfl
  | some a => exact settle_of_le (hle a (List.argmin_mem hm))

end MoxaDrivers.Argmin

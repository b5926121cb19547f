import Mathlib.Data.List.Basic

/-!
# Tallies over a list of slots

How the number of elements with a property moves when one element is added at
the end, one is replaced, or all are changed at once.
-/

namespace MoxaDrivers.Tally

variable {α : Type*} (f : α → Bool)

theorem countP_cons_toNat (a : α) (l : List α) :
    (a :: l).countP f = l.countP f + (f a).toNat := by
  cases h : f a with
  | false => simp [h]
  | true => simp [h]

theorem countP_append_one (l : List α) (a : α) :
    (l ++ [a]).countP f = l.countP f + (f a).toNat := by
  rw [List.countP_append, countP_cons_toNat, List.countP_nil, Nat.zero_add]

/-- Replacing one element moves the tally by what the two elements differ. -/
theorem countP_set_add {l : List α} {i : Nat} {a b : α} (h : l[i]? = some a) :
    (l.set i b).countP f + (f a).toNat = l.countP f + (f b).toNat := by
  induction l generalizing i with
  | nil => simp at h
  | cons c l ih =>
      cases i with
      | zero =>
          have hca : c = a := by simpa using h
          rw [List.set_cons_zero, countP_cons_toNat, countP_cons_toNat, hca]
          omega
      | succ i =>
          have hrest := ih (by simpa using h)
          rw [List.set_cons_succ, countP_cons_toNat, countP_cons_toNat]
          omega

/-- A change that leaves the property alone leaves the tally alone. -/
theorem countP_map_same {g : α → α} (l : List α) (h : ∀ a, f (g a) = f a) :
    (l.map g).countP f = l.countP f := by
  rw [List.countP_map]
  exact List.countP_congr fun a _ => by simp [h a]

/-- A change that takes the property away leaves nothing to count. -/
theorem countP_map_none {g : α → α} (l : List α) (h : ∀ a, f (g a) = false) :
    (l.map g).countP f = 0 := by
  rw [List.countP_map, List.countP_eq_zero]
  intro a _
  simp [h a]

/-- The tally of a weaker property, where the stronger one holds somewhere. -/
theorem countP_eq_of_one {g : α → Bool} {l : List α} (hle : ∀ a, f a = true → g a = true)
    (hg : l.countP g = 1) (hf : ∃ a ∈ l, f a = true) : l.countP f = 1 := by
  have hpos : 0 < l.countP f := List.countP_pos_iff.mpr hf
  have hmono : l.countP f ≤ l.countP g := List.countP_mono_left fun a _ => hle a
  omega

/-- Where at most one element has the weaker property, and one has it without the
stronger one, none has the stronger one. -/
theorem countP_eq_zero_of_alone {g : α → Bool} {l : List α} {i : Nat} {a : α} (h : l[i]? = some a)
    (hga : g a = true) (hfa : f a = false) (hle : ∀ b, f b = true → g b = true)
    (hone : l.countP g ≤ 1) : l.countP f = 0 := by
  induction l generalizing i with
  | nil => simp at h
  | cons c l ih =>
      rw [countP_cons_toNat] at hone ⊢
      have hmono : l.countP f ≤ l.countP g := List.countP_mono_left fun b _ => hle b
      cases i with
      | zero =>
          have hca : c = a := by simpa using h
          rw [hca, hga, Bool.toNat_true] at hone
          rw [hca, hfa, Bool.toNat_false]
          omega
      | succ i =>
          have hrest := ih (by simpa using h) (by omega)
          have hpos : 0 < l.countP g := List.countP_pos_iff.mpr
            ⟨a, List.mem_of_getElem? (by simpa using h), hga⟩
          have hc : f c = false := by
            cases hfc : f c with
            | false => rfl
            | true =>
                rw [hle c hfc, Bool.toNat_true] at hone
                omega
          rw [hrest, hc, Bool.toNat_false]

/-! ## Elements that contribute a list -/

variable {β : Type*} {f} {g : α → List β}

/-- Nothing is contributed where nothing is counted. -/
theorem flatMap_of_countP_zero {l : List α} (hg : ∀ a, f a = false → g a = [])
    (h : l.countP f = 0) : l.flatMap g = [] := by
  rw [List.countP_eq_zero] at h
  rw [List.flatMap_eq_nil_iff]
  intro a ha
  exact hg a (by simpa using h a ha)

/-- Where only one element is counted, it contributes everything. -/
theorem flatMap_of_countP_one {l : List α} {i : Nat} {a : α} (hg : ∀ a, f a = false → g a = [])
    (hi : l[i]? = some a) (ha : f a = true) (h : l.countP f ≤ 1) : l.flatMap g = g a := by
  induction l generalizing i with
  | nil => simp at hi
  | cons b l ih =>
      rw [countP_cons_toNat] at h
      cases i with
      | zero =>
          have hba : b = a := by simpa using hi
          rw [hba, ha, Bool.toNat_true] at h
          rw [hba, List.flatMap_cons, flatMap_of_countP_zero hg (by omega), List.append_nil]
      | succ i =>
          have hi' : l[i]? = some a := by simpa using hi
          have hpos : 0 < l.countP f :=
            List.countP_pos_iff.mpr ⟨a, List.mem_of_getElem? hi', ha⟩
          have hb : f b = false := by
            cases hfb : f b with
            | false => rfl
            | true =>
                rw [hfb, Bool.toNat_true] at h
                omega
          rw [List.flatMap_cons, hg b hb, List.nil_append]
          exact ih hi' (by omega)

/-- Replacing an element by one that contributes the same. -/
theorem flatMap_set_same {l : List α} {i : Nat} {a b : α} (hi : l[i]? = some a)
    (h : g b = g a) : (l.set i b).flatMap g = l.flatMap g := by
  induction l generalizing i with
  | nil => simp at hi
  | cons c l ih =>
      cases i with
      | zero =>
          have hca : c = a := by simpa using hi
          rw [List.set_cons_zero, List.flatMap_cons, List.flatMap_cons, h, hca]
      | succ i =>
          rw [List.set_cons_succ, List.flatMap_cons, List.flatMap_cons, ih (by simpa using hi)]

end MoxaDrivers.Tally

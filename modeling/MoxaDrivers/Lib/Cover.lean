import Mathlib.Data.List.Basic

/-!
# Ranges that follow each other without a gap

Each member of a list stands for a range of integers, both ends included. The
list covers what lies between two integers if its first range reaches down to
the lower one, each next range begins at most one above the end of the one
before it, and the last reaches up to the upper one. That can be decided, and
gives for every integer in between a member that it lies in.
-/

namespace MoxaDrivers.Cover

variable {α : Type*} {lo hi : α → Int}

def Covers (lo hi : α → Int) : List α → Int → Int → Prop
  | [], first, last => last < first
  | a :: l, first, last => lo a ≤ first ∧ Covers lo hi l (hi a + 1) last

instance decidableCovers (lo hi : α → Int) :
    (l : List α) → (first last : Int) → Decidable (Covers lo hi l first last)
  | [], first, last => inferInstanceAs (Decidable (last < first))
  | a :: l, first, last =>
      have : Decidable (Covers lo hi l (hi a + 1) last) := decidableCovers lo hi l (hi a + 1) last
      inferInstanceAs (Decidable (lo a ≤ first ∧ Covers lo hi l (hi a + 1) last))

theorem Covers.exists_mem {l : List α} {first last n : Int} (h : Covers lo hi l first last)
    (hfirst : first ≤ n) (hlast : n ≤ last) : ∃ a ∈ l, lo a ≤ n ∧ n ≤ hi a := by
  induction l generalizing first with
  | nil => exact absurd (Int.le_trans hfirst hlast) (Int.not_le.mpr h)
  | cons a l ih =>
      obtain ⟨hlo, hrest⟩ := h
      by_cases hn : n ≤ hi a
      · exact ⟨a, List.mem_cons_self, Int.le_trans hlo hfirst, hn⟩
      · obtain ⟨c, hc, hin⟩ := ih hrest (by omega)
        exact ⟨c, List.mem_cons_of_mem a hc, hin⟩

end MoxaDrivers.Cover

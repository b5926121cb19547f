import Mathlib.Data.List.Basic
import Mathlib.Tactic.Ring

/-!
# Circular buffers and the queue they implement

The memory of a circular buffer of size `n` is a function from cells to
values; only the cells below `n` are used. `window n mem tail cnt` reads the
`cnt` cells from `tail` on, oldest first, wrapping at `n`; `block` reads without
wrapping and `blit` writes a block. The lemmas say how a block written at the
head, and values taken at the tail, show in the window.

`Ledger` is the queue the buffer stands for: the values accepted so far less
the flushed segments, and how many of them have left the queue.
-/

namespace MoxaDrivers.Ring

variable {α : Type*} {n : Nat} {mem : Nat → α}

/-- The `cnt` cells from `tail` on, oldest first. -/
def window (n : Nat) (mem : Nat → α) (tail cnt : Nat) : List α :=
  (List.range cnt).map fun i => mem ((tail + i) % n)

/-- The `len` cells from `start` on, with no wrap. -/
def block (mem : Nat → α) (start len : Nat) : List α :=
  (List.range len).map fun i => mem (start + i)

/-- A block copied to the cells from `at` on. -/
def blit (mem : Nat → α) (start : Nat) (xs : List α) : Nat → α := fun i =>
  if start ≤ i then (xs[i - start]?).getD (mem i) else mem i

@[simp] theorem window_length (tail cnt : Nat) :
    (window n mem tail cnt).length = cnt := by
  simp [window]

@[simp] theorem window_zero (tail : Nat) : window n mem tail 0 = [] := rfl

theorem window_getElem {tail cnt i : Nat} (h : i < (window n mem tail cnt).length) :
    (window n mem tail cnt)[i] = mem ((tail + i) % n) := by
  simp [window]

theorem window_mod (tail cnt : Nat) :
    window n mem (tail % n) cnt = window n mem tail cnt := by
  simp [window, Nat.mod_add_mod]

theorem window_add (tail a b : Nat) :
    window n mem tail (a + b) = window n mem tail a ++ window n mem (tail + a) b := by
  simp [window, List.range_add, Function.comp_def, Nat.add_assoc]

theorem window_take {tail cnt k : Nat} (h : k ≤ cnt) :
    (window n mem tail cnt).take k = window n mem tail k := by
  obtain ⟨rest, rfl⟩ := Nat.exists_eq_add_of_le h
  rw [window_add]
  simp

theorem window_drop {tail cnt k : Nat} (h : k ≤ cnt) :
    (window n mem tail cnt).drop k = window n mem (tail + k) (cnt - k) := by
  obtain ⟨rest, rfl⟩ := Nat.exists_eq_add_of_le h
  rw [window_add]
  simp

@[simp] theorem block_length (start len : Nat) : (block mem start len).length = len := by
  simp [block]

/-- Short of the end, reading without wrapping reads the window. -/
theorem block_eq_window {start len : Nat} (h : start + len ≤ n) :
    block mem start len = window n mem start len := by
  apply List.map_congr_left
  intro i hi
  rw [Nat.mod_eq_of_lt (by have := List.mem_range.mp hi; omega)]

theorem window_congr {mem' : Nat → α} {tail cnt : Nat}
    (h : ∀ i < cnt, mem ((tail + i) % n) = mem' ((tail + i) % n)) :
    window n mem tail cnt = window n mem' tail cnt := by
  apply List.map_congr_left
  intro i hi
  exact h i (List.mem_range.mp hi)

/-! ## Where a wrapped position lies -/

/-- A sum below two rounds wraps at most once. -/
theorem mod_of_lt_two {a n : Nat} (h : a < 2 * n) :
    a % n = if a < n then a else a - n := by
  split
  · exact Nat.mod_eq_of_lt ‹_›
  · rw [Nat.mod_eq_sub_mod (by omega), Nat.mod_eq_of_lt (by omega)]

/-- The cells of a window never meet the free block that starts at its head. -/
theorem mod_not_mem_block {tail cnt i len : Nat} (ht : tail < n) (hi : i < cnt)
    (hroom : cnt + len ≤ n) (hend : (tail + cnt) % n + len ≤ n) :
    (tail + i) % n < (tail + cnt) % n ∨ (tail + cnt) % n + len ≤ (tail + i) % n := by
  rw [mod_of_lt_two (show tail + i < 2 * n by omega)]
  by_cases hfull : tail + cnt < 2 * n
  · rw [mod_of_lt_two hfull] at hend ⊢
    split at hend <;> split <;> omega
  · omega

/-- Two positions less than a round apart wrap to the same cell only if equal. -/
theorem mod_inj {tail i j : Nat} (ht : tail < n) (hi : i < n) (hj : j < n)
    (h : (tail + i) % n = (tail + j) % n) : i = j := by
  rw [mod_of_lt_two (by omega), mod_of_lt_two (by omega)] at h
  split at h <;> split at h <;> omega

/-! ## Writing a block at the head -/

theorem blit_of_mem {start i : Nat} {xs : List α} (h1 : start ≤ i)
    (h2 : i - start < xs.length) : blit mem start xs i = xs[i - start] := by
  simp [blit, h1, h2]

theorem blit_of_not_mem {start i : Nat} {xs : List α}
    (h : i < start ∨ start + xs.length ≤ i) : blit mem start xs i = mem i := by
  simp only [blit]
  split
  · rw [List.getElem?_eq_none (by omega)]
    rfl
  · rfl

/-- The block itself, read back. -/
theorem window_blit_self {start : Nat} {xs : List α} (h : start + xs.length ≤ n) :
    window n (blit mem start xs) start xs.length = xs := by
  apply List.ext_getElem
  · simp
  · intro i h1 h2
    rw [window_getElem, Nat.mod_eq_of_lt (by omega)]
    rw [blit_of_mem (by omega) (by omega)]
    congr 1
    omega

/-- A block written in the free cells after the head extends the window by it. -/
theorem window_blit {tail cnt : Nat} {xs : List α} (ht : tail < n)
    (hroom : cnt + xs.length ≤ n) (hend : (tail + cnt) % n + xs.length ≤ n) :
    window n (blit mem ((tail + cnt) % n) xs) tail (cnt + xs.length)
      = window n mem tail cnt ++ xs := by
  rw [window_add]
  congr 1
  · apply window_congr
    intro i hi
    exact blit_of_not_mem (mod_not_mem_block ht hi hroom hend)
  · rw [← window_mod (tail + cnt), window_blit_self hend]

/-! ## The queue -/

/-- What has been accepted and not flushed, oldest first, and how much of it
has left the queue. -/
structure Ledger (α : Type*) where
  kept : List α
  sent : Nat
  sent_le : sent ≤ kept.length

namespace Ledger

variable (L : Ledger α)

/-- What has left the queue. -/
def output : List α := L.kept.take L.sent

/-- What is still in it. -/
def queued : List α := L.kept.drop L.sent

/-- A queue whose whole past is `xs`, all of it sent. -/
def start (xs : List α) : Ledger α := ⟨xs, xs.length, Nat.le_refl _⟩

def accept (xs : List α) : Ledger α :=
  ⟨L.kept ++ xs, L.sent, by
    have := L.sent_le
    simp only [List.length_append]
    omega⟩

/-- The oldest `k` queued values leave. -/
def send (k : Nat) : Ledger α :=
  ⟨L.kept, min (L.sent + k) L.kept.length, Nat.min_le_right _ _⟩

/-- The queued segment is removed from what was accepted. -/
def flush : Ledger α :=
  ⟨L.kept.take L.sent, L.sent, by
    have := L.sent_le
    simp only [List.length_take]
    omega⟩

@[simp] theorem output_append_queued : L.output ++ L.queued = L.kept :=
  List.take_append_drop _ _

@[simp] theorem output_start (xs : List α) : (start xs).output = xs := by
  simp [start, output]

@[simp] theorem queued_start (xs : List α) : (start xs).queued = [] := by
  simp [start, queued]

@[simp] theorem output_accept (xs : List α) : (L.accept xs).output = L.output := by
  have := L.sent_le
  simp [accept, output, List.take_append_of_le_length this]

@[simp] theorem queued_accept (xs : List α) : (L.accept xs).queued = L.queued ++ xs := by
  have := L.sent_le
  simp [accept, queued, List.drop_append_of_le_length this]

@[simp] theorem output_flush : L.flush.output = L.output := by
  simp [flush, output, List.take_take]

@[simp] theorem queued_flush : L.flush.queued = [] := by
  simp [flush, queued]

@[simp] theorem queued_send (k : Nat) : (L.send k).queued = L.queued.drop k := by
  simp only [send, queued, List.drop_drop]
  by_cases h : L.sent + k ≤ L.kept.length
  · rw [Nat.min_eq_left h]
  · rw [Nat.min_eq_right (by omega), List.drop_length,
      List.drop_of_length_le (by omega)]

@[simp] theorem output_send (k : Nat) :
    (L.send k).output = L.output ++ L.queued.take k := by
  simp only [send, output, queued]
  rw [← List.take_add]
  by_cases h : L.sent + k ≤ L.kept.length
  · rw [Nat.min_eq_left h]
  · rw [Nat.min_eq_right (by omega), List.take_length,
      List.take_of_length_le (by omega)]

end Ledger

end MoxaDrivers.Ring

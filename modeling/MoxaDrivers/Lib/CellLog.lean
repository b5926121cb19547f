import MoxaDrivers.Lib.Ring

/-!
# The history of the cells of a circular buffer

A log records what happens to the cells of a circular buffer of size `n`: a
value is stored in a cell, taken from a cell, or the cells of a window are
dropped. `live` is the value a cell holds that was stored and neither taken nor
dropped since; a log is `Sound` when every value taken was live. `LiveWindow`
says that a window of the memory holds live values only, and each operation on
the buffer has the lemma that keeps it.
-/

namespace MoxaDrivers.CellLog

variable {α : Type*} {n : Nat} {mem : Nat → α}

inductive Event (α : Type*) where
  | stored (pos : Nat) (v : α)
  | taken (pos : Nat) (v : α)
  | dropped (start cnt : Nat)
  deriving DecidableEq, Repr

/-- The cell `pos` is one of the `cnt` cells from `start` on. -/
def InWindow (n start cnt pos : Nat) : Prop :=
  ∃ i < cnt, (start + i) % n = pos

instance (n start cnt pos : Nat) : Decidable (InWindow n start cnt pos) :=
  inferInstanceAs (Decidable (∃ i < cnt, (start + i) % n = pos))

/-- What an event makes of the live value of the cell `pos`. -/
def after (n pos : Nat) (cur : Option α) : Event α → Option α
  | .stored q v => if q = pos then some v else cur
  | .taken q _ => if q = pos then none else cur
  | .dropped start cnt => if InWindow n start cnt pos then none else cur

/-- The value that was stored in the cell last, unless it was taken or dropped
since. -/
def live (n pos : Nat) (log : List (Event α)) : Option α :=
  log.foldl (after n pos) none

/-- Every value taken was live when it was taken. -/
def Sound (n : Nat) (log : List (Event α)) : Prop :=
  ∀ pre pos v, pre ++ [.taken pos v] <+: log → live n pos pre = some v

/-- The `cnt` cells from `tail` on hold live values. -/
def LiveWindow (n : Nat) (log : List (Event α)) (mem : Nat → α) (tail cnt : Nat) : Prop :=
  ∀ i < cnt, live n ((tail + i) % n) log = some (mem ((tail + i) % n))

/-- A block is stored in the cells from `start` on. -/
def storeBlock (start : Nat) : List α → List (Event α)
  | [] => []
  | x :: xs => .stored start x :: storeBlock (start + 1) xs

theorem live_append (pos : Nat) (log log' : List (Event α)) :
    live n pos (log ++ log') = log'.foldl (after n pos) (live n pos log) :=
  List.foldl_append

theorem live_snoc (pos : Nat) (log : List (Event α)) (e : Event α) :
    live n pos (log ++ [e]) = after n pos (live n pos log) e :=
  live_append pos log [e]

/-! ## Soundness -/

theorem sound_nil : Sound n ([] : List (Event α)) := by
  intro pre pos v h
  simp at h

/-- One more event keeps a log sound if it takes a live value, or takes none. -/
theorem Sound.snoc {log : List (Event α)} {e : Event α} (h : Sound n log)
    (he : ∀ pos v, e = .taken pos v → live n pos log = some v) :
    Sound n (log ++ [e]) := by
  intro pre pos v hpre
  rcases List.prefix_concat_iff.mp hpre with heq | hold
  · obtain ⟨rfl, hlast⟩ := List.append_inj' heq rfl
    cases hlast
    exact he pos v rfl
  · exact h pre pos v hold

theorem Sound.storeBlock {log : List (Event α)} (h : Sound n log) (start : Nat)
    (xs : List α) : Sound n (log ++ CellLog.storeBlock start xs) := by
  induction xs generalizing log start with
  | nil => simpa [CellLog.storeBlock] using h
  | cons x xs ih =>
      have hx : Sound n (log ++ [.stored start x]) := h.snoc nofun
      have := ih hx (start + 1)
      rwa [List.append_assoc] at this

/-! ## What the operations do to the live cells -/

/-- A stored block shows in its own cells and nowhere else. -/
theorem live_storeBlock (pos : Nat) :
    ∀ (xs : List α) (start : Nat) (log : List (Event α)),
      live n pos (log ++ storeBlock start xs)
        = if start ≤ pos ∧ pos < start + xs.length then xs[pos - start]? else live n pos log := by
  intro xs
  induction xs with
  | nil =>
      intro start log
      simp only [storeBlock, List.append_nil, List.length_nil]
      rw [if_neg (by omega)]
  | cons x xs ih =>
      intro start log
      have hsplit : log ++ storeBlock start (x :: xs)
          = (log ++ [.stored start x]) ++ storeBlock (start + 1) xs := by
        simp [storeBlock]
      rw [hsplit, ih, live_snoc]
      simp only [after, List.length_cons]
      by_cases hfirst : start = pos
      · rw [if_neg (by omega), if_pos hfirst, if_pos (by omega)]
        simp [hfirst]
      · by_cases hin : start + 1 ≤ pos ∧ pos < start + 1 + xs.length
        · rw [if_pos hin, if_pos (by omega), show pos - start = (pos - (start + 1)) + 1 by omega,
            List.getElem?_cons_succ]
        · rw [if_neg hin, if_neg hfirst, if_neg (by omega)]

theorem liveWindow_zero (log : List (Event α)) (tail : Nat) : LiveWindow n log mem tail 0 :=
  fun i hi => absurd hi (Nat.not_lt_zero i)

theorem LiveWindow.mono {log : List (Event α)} {tail cnt cnt' : Nat}
    (h : LiveWindow n log mem tail cnt) (hle : cnt' ≤ cnt) : LiveWindow n log mem tail cnt' :=
  fun i hi => h i (by omega)

/-- Whether the tail is wrapped makes no difference. -/
theorem liveWindow_mod {log : List (Event α)} {tail cnt : Nat} :
    LiveWindow n log mem (tail % n) cnt ↔ LiveWindow n log mem tail cnt := by
  simp only [LiveWindow, Nat.mod_add_mod]

/-- The value at the tail is taken: the rest of the window stays live. -/
theorem LiveWindow.take {log : List (Event α)} {tail cnt : Nat} (ht : tail < n)
    (hle : cnt + 1 ≤ n) (h : LiveWindow n log mem tail (cnt + 1)) :
    LiveWindow n (log ++ [.taken tail (mem tail)]) mem ((tail + 1) % n) cnt := by
  rw [liveWindow_mod]
  intro i hi
  have hne : tail ≠ (tail + 1 + i) % n := by
    intro heq
    have h0 : (tail + 0) % n = (tail + (1 + i)) % n := by
      rw [Nat.add_zero, Nat.mod_eq_of_lt ht, ← Nat.add_assoc]
      exact heq
    have := Ring.mod_inj ht (by omega) (by omega) h0
    omega
  rw [live_snoc, after, if_neg hne]
  have := h (1 + i) (by omega)
  rwa [← Nat.add_assoc] at this

/-- A block is stored in the free cells at the head: the window grows by it. -/
theorem LiveWindow.store {log : List (Event α)} {tail cnt : Nat} {xs : List α}
    (ht : tail < n) (hroom : cnt + xs.length ≤ n) (hend : (tail + cnt) % n + xs.length ≤ n)
    (h : LiveWindow n log mem tail cnt) :
    LiveWindow n (log ++ storeBlock ((tail + cnt) % n) xs)
      (Ring.blit mem ((tail + cnt) % n) xs) tail (cnt + xs.length) := by
  intro i hi
  rw [live_storeBlock]
  by_cases hold : i < cnt
  · have hout := Ring.mod_not_mem_block ht hold hroom hend
    rw [if_neg (by omega), Ring.blit_of_not_mem hout]
    exact h i hold
  · -- the `i - cnt`-th cell of the block
    have hpos : (tail + i) % n = (tail + cnt) % n + (i - cnt) := by
      rw [← Nat.mod_eq_of_lt (show (tail + cnt) % n + (i - cnt) < n by omega), Nat.mod_add_mod]
      congr 1
      omega
    rw [hpos, if_pos (by omega), Ring.blit_of_mem (by omega) (by omega)]
    exact List.getElem?_eq_getElem (by omega)

/-- The window is dropped while a block behind it is kept. -/
theorem LiveWindow.drop {log : List (Event α)} {tail cnt k : Nat} (ht : tail < n)
    (hle : cnt + k ≤ n) (h : LiveWindow n log mem tail (cnt + k)) :
    LiveWindow n (log ++ [.dropped tail cnt]) mem (tail + cnt) k := by
  intro i hi
  have hout : ¬ InWindow n tail cnt ((tail + cnt + i) % n) := by
    rintro ⟨j, hj, heq⟩
    rw [Nat.add_assoc] at heq
    have := Ring.mod_inj ht (by omega) (by omega) heq
    omega
  rw [live_snoc, after, if_neg hout]
  have := h (cnt + i) (by omega)
  rwa [← Nat.add_assoc] at this

end MoxaDrivers.CellLog

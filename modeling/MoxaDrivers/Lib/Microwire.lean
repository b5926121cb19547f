import Mathlib.Data.List.GetD

/-!
# A serial memory on three wires

A memory of `2 ^ a` words of `w` bits that is read over a chip select, a clock and a data
line. While it is selected it takes the data line at each rising edge of the clock. A
command starts with a 1, then come two bits of operation code and the address, the
highest bit first. Asked to read, the memory puts out a 0, and at the edges that follow
the bits of the word, the highest first. Deselecting it ends any command. Of the
commands only the reading one is here; any other keeps the memory waiting until it is
deselected.
-/

namespace MoxaDrivers.Microwire

/-- What the host drives. -/
structure Pins where
  select : Bool
  clock : Bool
  input : Bool
  deriving DecidableEq, Repr

/-- What the memory is at. -/
inductive Phase where
  /-- It waits for a start bit. -/
  | idle
  /-- The bits after the start bit so far. -/
  | command (bits : List Bool)
  /-- The bits that are still to come out. -/
  | output (bits : List Bool)
  | other
  deriving DecidableEq, Repr

structure Memory (a w : Nat) where
  words : BitVec a → BitVec w
  phase : Phase
  clock : Bool
  /-- The output line. -/
  out : Bool

section

variable {a w : Nat}

/-- The bits of a word, the highest first. -/
def msbBits (v : BitVec w) : List Bool := (List.range w).map v.getMsbD

/-- The word of some bits, the highest first. -/
def ofMsbBits (bits : List Bool) : BitVec w := bits.foldl BitVec.shiftConcat 0

/-- A command is complete. -/
def Memory.decode (m : Memory a w) : List Bool → Memory a w
  | true :: false :: address =>
      { m with phase := .output (msbBits (m.words (ofMsbBits address))), out := false }
  | _ => { m with phase := .other }

/-- A rising edge of the clock. -/
def Memory.edge (m : Memory a w) (input : Bool) : Memory a w :=
  match m.phase with
  | .idle => if input then { m with phase := .command [] } else m
  | .command bits =>
      if bits.length + 1 = a + 2 then m.decode (bits ++ [input])
      else { m with phase := .command (bits ++ [input]) }
  | .output [] => { m with phase := .other }
  | .output (b :: bits) => { m with phase := .output bits, out := b }
  | .other => m

/-- The host drives the wires. -/
def Memory.drive (m : Memory a w) (p : Pins) : Memory a w :=
  if !p.select then { m with phase := .idle, clock := p.clock }
  else if p.clock && !m.clock then { m.edge p.input with clock := true }
  else { m with clock := p.clock }

/-- A cycle of the clock with a bit. -/
def Memory.cycle (m : Memory a w) (input : Bool) : Memory a w :=
  (m.drive ⟨true, false, input⟩).drive ⟨true, true, input⟩

/-- The command that reads a word. -/
def readCommand (address : BitVec a) : List Bool := true :: true :: false :: msbBits address

/-! ## Bits -/

theorem msbBits_length (v : BitVec w) : (msbBits v).length = w := by
  rw [msbBits, List.length_map, List.length_range]

/-- Shifted in one after the other, the bits push out what was there. -/
theorem getLsbD_foldl_shiftConcat (bits : List Bool) (v : BitVec w) (i : Nat) :
    (bits.foldl BitVec.shiftConcat v).getLsbD i =
      (decide (i < w) && if i < bits.length then bits.getD (bits.length - 1 - i) false
        else v.getLsbD (i - bits.length)) := by
  induction bits generalizing v with
  | nil =>
      by_cases hi : i < w
      · simp [hi]
      · simp [hi, BitVec.getLsbD_of_ge v i (by omega)]
  | cons b bits ih =>
      rw [List.foldl_cons, ih]
      by_cases hlt : i < bits.length
      · have hget : (b :: bits).getD (bits.length + 1 - 1 - i) false =
            bits.getD (bits.length - 1 - i) false := by
          rw [show bits.length + 1 - 1 - i = bits.length - 1 - i + 1 by omega,
            List.getD_cons_succ]
        rw [List.length_cons, if_pos hlt, if_pos (by omega), hget]
      · rw [List.length_cons, if_neg hlt, BitVec.getLsbD_shiftConcat]
        by_cases heq : i = bits.length
        · subst heq
          by_cases hi : bits.length < w
          · simp [hi, show 0 < w by omega]
          · simp [hi]
        · rw [if_neg (show ¬ i - bits.length = 0 by omega),
            if_neg (show ¬ i < bits.length + 1 by omega),
            show i - (bits.length + 1) = i - bits.length - 1 by omega]
          by_cases hi : i < w
          · simp [hi, show i - bits.length < w by omega]
          · simp [hi]

theorem ofMsbBits_msbBits (v : BitVec w) : ofMsbBits (msbBits v) = v := by
  apply BitVec.eq_of_getLsbD_eq
  intro i hi
  rw [ofMsbBits, getLsbD_foldl_shiftConcat, msbBits_length, if_pos hi]
  have hmsb : (msbBits v).getD (w - 1 - i) false = v.getMsbD (w - 1 - i) := by
    rw [msbBits, List.getD_eq_getElem _ _ (by simp; omega), List.getElem_map, List.getElem_range]
  rw [hmsb, BitVec.getMsbD_eq_getLsbD]
  simp [hi, show w - 1 - i < w by omega, show w - 1 - (w - 1 - i) = i by omega]

/-! ## The wires -/

theorem Memory.edge_clock (m : Memory a w) (clock input : Bool) :
    ({ m with clock := clock } : Memory a w).edge input = { m.edge input with clock := clock } := by
  obtain ⟨words, phase, old, out⟩ := m
  unfold Memory.edge
  cases phase with
  | idle => cases input <;> rfl
  | command bits =>
      simp only
      split
      · unfold Memory.decode
        split <;> rfl
      · rfl
  | output bits => cases bits <;> rfl
  | other => rfl

theorem Memory.cycle_eq (m : Memory a w) (input : Bool) :
    m.cycle input = { m.edge input with clock := true } := by
  show ({ ({ m with clock := false } : Memory a w).edge input with clock := true } :
    Memory a w) = _
  rw [Memory.edge_clock]

/-- What is driven while the clock is low does not matter. -/
theorem Memory.drive_low_cycle (m : Memory a w) (input b : Bool) :
    (m.drive ⟨true, false, b⟩).cycle input = m.cycle input := by
  rw [Memory.cycle_eq, Memory.cycle_eq]
  show ({ ({ m with clock := false } : Memory a w).edge input with clock := true } :
    Memory a w) = _
  rw [Memory.edge_clock]

/-! ## Reading -/

theorem Memory.foldl_command (bits : List Bool) (m : Memory a w) (taken : List Bool)
    (hphase : m.phase = .command taken) (hlen : taken.length + bits.length = a + 2)
    (hne : bits ≠ []) :
    bits.foldl Memory.cycle m = { m.decode (taken ++ bits) with clock := true } := by
  induction bits generalizing m taken with
  | nil => exact absurd rfl hne
  | cons b bits ih =>
      rw [List.length_cons] at hlen
      rw [List.foldl_cons, Memory.cycle_eq]
      cases bits with
      | nil =>
          have hedge : m.edge b = m.decode (taken ++ [b]) := by
            unfold Memory.edge
            rw [hphase]
            exact if_pos (by simpa using hlen)
          rw [hedge]
          rfl
      | cons c bits =>
          rw [List.length_cons] at hlen
          have hedge : m.edge b = { m with phase := .command (taken ++ [b]) } := by
            unfold Memory.edge
            rw [hphase]
            exact if_neg (by omega)
          rw [hedge, ih _ (taken ++ [b]) rfl (by simp; omega) (List.cons_ne_nil c bits),
            List.append_assoc]
          unfold Memory.decode
          simp only [List.singleton_append]
          split <;> rfl

/-- **A read**: after the command the memory is about to put the word out. -/
theorem Memory.readCommand_output (m : Memory a w) (hidle : m.phase = .idle) (address : BitVec a) :
    (readCommand address).foldl Memory.cycle m =
      { m with phase := .output (msbBits (m.words address)), clock := true, out := false } := by
  have hstart : m.cycle true = { m with phase := .command [], clock := true } := by
    rw [Memory.cycle_eq]
    unfold Memory.edge
    rw [hidle]
    rfl
  rw [readCommand, List.foldl_cons, hstart,
    Memory.foldl_command (true :: false :: msbBits address) _ [] rfl
      (by simp [msbBits_length]) (List.cons_ne_nil _ _)]
  show ({ m with
    phase := .output (msbBits (m.words (ofMsbBits (msbBits address)))), clock := true,
    out := false } : Memory a w) = _
  rw [ofMsbBits_msbBits]

theorem Memory.cycle_output (m : Memory a w) {b : Bool} {bits : List Bool}
    (hphase : m.phase = .output (b :: bits)) (input : Bool) :
    m.cycle input = { m with phase := .output bits, clock := true, out := b } := by
  rw [Memory.cycle_eq]
  unfold Memory.edge
  rw [hphase]

end

end MoxaDrivers.Microwire

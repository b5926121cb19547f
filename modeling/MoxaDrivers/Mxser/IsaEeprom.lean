import Mathlib.Tactic.IntervalCases
import MoxaDrivers.Lib.Microwire
import MoxaDrivers.Mxser.Probe

/-!
# The configuration of an ISA board

`mxser_program_mode` looks for the ASIC, `mxser_read_register` clocks 14 words out of the
serial memory of the board, and `mxser_get_ISA_conf` takes the configuration from them.
The memory is a `Microwire` one of 64 words of 16 bits, on the wires that the code calls
`CHIP_CS`, `CHIP_SK`, `CHIP_DO` (to the memory) and `CHIP_DI` (from it).
-/

namespace MoxaDrivers.Mxser.Probe

open MoxaDrivers.Bits MoxaDrivers.Microwire

def chipSk : Byte := 0x01
def chipDo : Byte := 0x02
def chipCs : Byte := 0x04

abbrev Eeprom := Memory 6 16

/-- An ISA board: what offset 1 reads and what offset 2 reads at each turn in program
mode, the memory on the wires at offset 0, and the `UART_IIR` of its first UART. -/
structure IsaBoard where
  asic : Byte
  signature : Nat → Byte
  eeprom : Eeprom
  iir : Byte

/-! ## The code -/

/-- The loop of `mxser_program_mode`, with the turns left: `j` after it. -/
def signatureLoop : Nat → Nat → (Nat → Byte) → Nat
  | 0, j, _ => j
  | turns + 1, j, n =>
      if n 0 = 0x4D then signatureLoop turns 1 fun k => n (k + 1)     -- 'M'
      else if j = 1 ∧ n 0 = 1 then 2
      else signatureLoop turns 0 fun k => n (k + 1)

def mxserProgramMode (b : IsaBoard) : Int :=
  let id : Int := (b.asic &&& 0x1F).toNat
  if isaBoard id = none then -1
  else if signatureLoop 4 0 b.signature ≠ 2 then -2
  else id

/-- `outb(v, port)` in program mode. -/
def outbWires (m : Eeprom) (v : Byte) : Eeprom :=
  m.drive ⟨test v chipCs, test v chipSk, test v chipDo⟩

/-- A turn of the loop over the bits of the command. -/
def sendBit (m : Eeprom) (bit : Bool) : Eeprom :=
  let m := outbWires m chipCs
  if bit then outbWires (outbWires m (chipCs ||| chipDo)) (chipCs ||| chipDo ||| chipSk)
  else outbWires (outbWires m chipCs) (chipCs ||| chipSk)

/-- `k & j` for each `j` of that loop. -/
def commandBits (i : Nat) : List Bool :=
  (List.range 9).map fun n => ((i &&& 0x3F) ||| 0x180) &&& (0x100 >>> n) != 0

/-- The loop over the bits of `value`, with the turns left. -/
def readValue : Nat → BitVec 16 → Eeprom → BitVec 16 × Eeprom
  | 0, value, m => (value, m)
  | turns + 1, value, m =>
      let m := outbWires (outbWires m chipCs) (chipCs ||| chipSk)
      readValue turns (if m.out then value ||| (1 : BitVec 16) <<< turns else value) m

/-- A turn of `mxser_read_register`. -/
def readTurn (s : (Nat → BitVec 16) × Eeprom) (i : Nat) : (Nat → BitVec 16) × Eeprom :=
  let r := readValue 16 0 ((commandBits i).foldl sendBit s.2)
  (Function.update s.1 i r.1, outbWires r.2 0)

/-- `mxser_read_register`: what it returns, and `regs` and the memory after it. -/
def mxserReadRegister (b : IsaBoard) (regs : Nat → BitVec 16) :
    Int × (Nat → BitVec 16) × Eeprom :=
  let id := mxserProgramMode b
  if id < 0 then (id, regs, b.eeprom)
  else (id, (List.range 14).foldl readTurn (regs, b.eeprom))

/-- What the rest of `mxser_get_ISA_conf` sees; `regs` is what was on the stack. -/
def IsaBoard.chip (b : IsaBoard) (regs : Nat → BitVec 16) : IsaChip :=
  ⟨(mxserReadRegister b regs).1, (mxserReadRegister b regs).2.1, b.iir⟩

/-! ## The memory is read -/

/-- Word `i` of the memory. -/
def Eeprom.word (m : Eeprom) (i : Nat) : BitVec 16 := m.words (BitVec.ofNat 6 i)

theorem sendBit_eq (m : Eeprom) (bit : Bool) : sendBit m bit = m.cycle bit := by
  rw [← Memory.drive_low_cycle m bit false]
  cases bit with
  | true => rfl
  | false => rfl

theorem foldl_sendBit (bits : List Bool) (m : Eeprom) :
    bits.foldl sendBit m = bits.foldl Memory.cycle m := by
  induction bits generalizing m with
  | nil => rfl
  | cons b bits ih => rw [List.foldl_cons, List.foldl_cons, sendBit_eq, ih]

/-- The command of the code is that of a read. -/
theorem commandBits_eq {i : Nat} (h : i < 14) : commandBits i = readCommand (BitVec.ofNat 6 i) := by
  have hall : ∀ i < 14, commandBits i = readCommand (BitVec.ofNat 6 i) := by decide
  exact hall i h

theorem getLsbD_setBit (value : BitVec 16) (n i : Nat) (hn : n < 16) :
    (value ||| (1 : BitVec 16) <<< n).getLsbD i = (value.getLsbD i || decide (i = n)) := by
  rw [BitVec.getLsbD_or, getLsbD_bit hn]

/-- Turn by turn the bits of `value` are those of the word. -/
theorem readValue_word (word : BitVec 16) (turns : Nat) (value : BitVec 16) (m : Eeprom)
    (hturns : turns ≤ 16) (hphase : m.phase = .output ((msbBits word).drop (16 - turns)))
    (hvalue : ∀ i < 16, value.getLsbD i = (decide (turns ≤ i) && word.getLsbD i)) :
    (readValue turns value m).1 = word ∧ (readValue turns value m).2.words = m.words := by
  induction turns generalizing value m with
  | zero =>
      refine ⟨BitVec.eq_of_getLsbD_eq fun i hi => ?_, rfl⟩
      show value.getLsbD i = word.getLsbD i
      rw [hvalue i hi, decide_eq_true (Nat.zero_le i), Bool.true_and]
  | succ turns ih =>
      have hlt : 16 - (turns + 1) < (msbBits word).length := by
        rw [msbBits_length]
        omega
      have hbit : (msbBits word)[16 - (turns + 1)] = word.getLsbD turns := by
        simp only [msbBits, List.getElem_map, List.getElem_range, BitVec.getMsbD_eq_getLsbD]
        rw [show 16 - 1 - (16 - (turns + 1)) = turns by omega,
          decide_eq_true (show 16 - (turns + 1) < 16 by omega), Bool.true_and]
      rw [List.drop_eq_getElem_cons hlt, hbit,
        show 16 - (turns + 1) + 1 = 16 - turns by omega] at hphase
      have hcycle : outbWires (outbWires m chipCs) (chipCs ||| chipSk) =
          { m with
            phase := .output ((msbBits word).drop (16 - turns))
            clock := true
            out := word.getLsbD turns } := Memory.cycle_output m hphase false
      rw [readValue, hcycle]
      refine ih _ _ (by omega) rfl ?_
      intro i hi
      have hold := hvalue i hi
      show (if word.getLsbD turns then value ||| (1 : BitVec 16) <<< turns else value).getLsbD i = _
      by_cases heq : i = turns
      · subst heq
        rw [decide_eq_false (by omega), Bool.false_and] at hold
        rw [decide_eq_true (Nat.le_refl i), Bool.true_and]
        cases hword : word.getLsbD i with
        | true => rw [if_pos rfl, getLsbD_setBit _ _ _ (by omega), decide_eq_true rfl, Bool.or_true]
        | false => rw [if_neg Bool.false_ne_true, hold]
      · have hsame : decide (turns ≤ i) = decide (turns + 1 ≤ i) := by
          rw [decide_eq_decide]
          omega
        rw [hsame, ← hold]
        split
        · rw [getLsbD_setBit _ _ _ (by omega), decide_eq_false heq, Bool.or_false]
        · rfl

theorem outbWires_zero (m : Eeprom) :
    outbWires m 0 = { m with phase := .idle, clock := false } := rfl

theorem sendCommand_output (m : Eeprom) (hidle : m.phase = .idle) {i : Nat} (hi : i < 14) :
    (commandBits i).foldl sendBit m =
      { m with phase := .output (msbBits (m.word i)), clock := true, out := false } := by
  rw [foldl_sendBit, commandBits_eq hi, Memory.readCommand_output m hidle, Eeprom.word]

theorem readValue_sent (m : Eeprom) (hidle : m.phase = .idle) {i : Nat} (hi : i < 14) :
    (readValue 16 0 ((commandBits i).foldl sendBit m)).1 = m.word i ∧
      (readValue 16 0 ((commandBits i).foldl sendBit m)).2.words = m.words := by
  rw [sendCommand_output m hidle hi]
  apply readValue_word (m.word i) 16 0 _ (Nat.le_refl 16)
  · rfl
  · intro j hj
    rw [decide_eq_false (by omega), Bool.false_and]
    exact BitVec.getLsbD_zero

/-- A turn reads its word, and leaves the memory deselected. -/
theorem readTurn_word {s : (Nat → BitVec 16) × Eeprom} (hidle : s.2.phase = .idle) {i : Nat}
    (hi : i < 14) :
    (readTurn s i).1 = Function.update s.1 i (s.2.word i) ∧
      (readTurn s i).2.phase = .idle ∧ (readTurn s i).2.words = s.2.words := by
  obtain ⟨hword, hwords⟩ := readValue_sent s.2 hidle hi
  have hturn : readTurn s i = (Function.update s.1 i
      (readValue 16 0 ((commandBits i).foldl sendBit s.2)).1,
      outbWires (readValue 16 0 ((commandBits i).foldl sendBit s.2)).2 0) := rfl
  rw [hturn, outbWires_zero, hword]
  exact ⟨rfl, rfl, hwords⟩

theorem foldl_readTurn_words (n : Nat) (hn : n ≤ 14) {regs : Nat → BitVec 16} {m : Eeprom}
    (hidle : m.phase = .idle) :
    let r := (List.range n).foldl readTurn (regs, m)
    (∀ i < n, r.1 i = m.word i) ∧ r.2.phase = .idle ∧ r.2.words = m.words := by
  induction n with
  | zero => exact ⟨fun i hi => absurd hi (Nat.not_lt_zero i), hidle, rfl⟩
  | succ n ih =>
      obtain ⟨hregs, hphase, hwords⟩ := ih (by omega)
      obtain ⟨hturn, hphase', hwords'⟩ := readTurn_word hphase (show n < 14 by omega)
      rw [List.range_succ, List.foldl_append]
      simp only [List.foldl_cons, List.foldl_nil]
      refine ⟨?_, hphase', hwords'.trans hwords⟩
      intro i hi
      rw [hturn]
      by_cases heq : i = n
      · subst heq
        rw [Function.update_self, Eeprom.word, hwords, Eeprom.word]
      · rw [Function.update_of_ne heq]
        exact hregs i (by omega)

/-! ## The board is found -/

/-- The signature is an 'M' and then a 1. -/
theorem signatureLoop_eq_two_iff (turns j : Nat) (n : Nat → Byte) (hj : j ≤ 1) :
    signatureLoop turns j n = 2 ↔ (j = 1 ∧ 0 < turns ∧ n 0 = 1) ∨
      ∃ k, k + 1 < turns ∧ n k = 0x4D ∧ n (k + 1) = 1 := by
  induction turns generalizing j n with
  | zero =>
      rw [signatureLoop]
      omega
  | succ turns ih =>
      rw [signatureLoop]
      split
      · next hm =>
          rw [ih 1 _ (Nat.le_refl 1)]
          constructor
          · rintro (⟨-, hturns, hone⟩ | ⟨k, hk, hsig⟩)
            · exact .inr ⟨0, by omega, hm, hone⟩
            · exact .inr ⟨k + 1, by omega, hsig⟩
          · rintro (⟨-, -, hone⟩ | ⟨k, hk, hsig⟩)
            · rw [hm] at hone
              exact absurd hone (by decide)
            · cases k with
              | zero => exact .inl ⟨rfl, by omega, hsig.2⟩
              | succ k => exact .inr ⟨k, by omega, hsig⟩
      · next hm =>
          split
          · next hone => exact iff_of_true rfl (.inl ⟨hone.1, Nat.succ_pos turns, hone.2⟩)
          · next hone =>
              rw [ih 0 _ (Nat.zero_le 1)]
              constructor
              · rintro (⟨hzero, -⟩ | ⟨k, hk, hsig⟩)
                · exact absurd hzero Nat.zero_ne_one
                · exact .inr ⟨k + 1, by omega, hsig⟩
              · rintro (⟨hj1, -, h1⟩ | ⟨k, hk, hsig⟩)
                · exact absurd ⟨hj1, h1⟩ hone
                · cases k with
                  | zero => exact absurd hsig.1 hm
                  | succ k => exact .inr ⟨k, by omega, hsig⟩

/-- The ASIC of the board, as far as the driver looks at it. -/
def IsaBoard.id (b : IsaBoard) : Int := (b.asic &&& 0x1F).toNat

/-- The board shows a known ASIC and the signature. -/
def IsaBoard.Answers (b : IsaBoard) (type : Int) (ports : Nat) : Prop :=
  isaBoard b.id = some (type, ports) ∧ ∃ k < 3, b.signature k = 0x4D ∧ b.signature (k + 1) = 1

theorem mxserProgramMode_of_answers {b : IsaBoard} {type : Int} {ports : Nat}
    (h : b.Answers type ports) : mxserProgramMode b = b.id := by
  obtain ⟨hid, k, hk, hsig⟩ := h
  have hloop : signatureLoop 4 0 b.signature = 2 :=
    (signatureLoop_eq_two_iff 4 0 b.signature (Nat.zero_le 1)).mpr (.inr ⟨k, by omega, hsig⟩)
  unfold mxserProgramMode
  simp only [IsaBoard.id] at hid ⊢
  rw [if_neg (by rw [hid]; exact Option.some_ne_none _), if_neg (not_not.mpr hloop)]

theorem mxserProgramMode_neg {b : IsaBoard} (h : ∀ type ports, ¬ b.Answers type ports) :
    mxserProgramMode b < 0 := by
  unfold mxserProgramMode
  simp only
  split
  · decide
  · next hid =>
      split
      · decide
      · next hloop =>
          obtain ⟨⟨type, ports⟩, hboard⟩ := Option.ne_none_iff_exists'.mp hid
          rcases (signatureLoop_eq_two_iff 4 0 b.signature (Nat.zero_le 1)).mp
            (not_not.mp hloop) with ⟨hzero, -⟩ | ⟨k, hk, hsig⟩
          · exact absurd hzero Nat.zero_ne_one
          · exact absurd ⟨hboard, k, by omega, hsig⟩ (h type ports)

/-! ## The interrupt of the ports -/

/-- The interrupt number of port `j`: four bits for each port, those of the first on
top. -/
def portIrq (regs : Nat → BitVec 16) (j : Nat) : BitVec 4 :=
  (regs (9 + j / 4)).extractLsb' (12 - 4 * (j % 4)) 4

/-- All ports have the interrupt of the first. -/
def OneIrq (ports : Nat) (regs : Nat → BitVec 16) : Prop :=
  ∀ j < ports, portIrq regs j = portIrq regs 0

instance (ports : Nat) (regs : Nat → BitVec 16) : Decidable (OneIrq ports regs) :=
  inferInstanceAs (Decidable (∀ j < ports, _))

/-- `irq` of a board with two ports, and of one with more. -/
def repeatTwice (x : BitVec 16) : BitVec 16 := x &&& 0xF000 ||| (x &&& 0xF000) >>> 4

def repeatOften (x : BitVec 16) : BitVec 16 := repeatTwice x ||| repeatTwice x >>> 8

theorem getLsbD_repeatTwice (x : BitVec 16) {i : Nat} (hi : i < 16) :
    (repeatTwice x).getLsbD i = (decide (8 ≤ i) && x.getLsbD (12 + i % 4)) := by
  unfold repeatTwice
  interval_cases i <;> simp

theorem getLsbD_repeatOften (x : BitVec 16) {i : Nat} (hi : i < 16) :
    (repeatOften x).getLsbD i = x.getLsbD (12 + i % 4) := by
  unfold repeatOften repeatTwice
  interval_cases i <;> simp

theorem repeatTwice_eq_iff (x : BitVec 16) :
    repeatTwice x = x &&& 0xFF00 ↔ x.extractLsb' 8 4 = x.extractLsb' 12 4 := by
  constructor
  · intro h
    apply BitVec.eq_of_getLsbD_eq
    intro i hi
    have hbit := congrArg (fun y => y.getLsbD (8 + i)) h
    simp only [getLsbD_repeatTwice x (show 8 + i < 16 by omega)] at hbit
    interval_cases i <;> simpa using hbit.symm
  · intro h
    apply BitVec.eq_of_getLsbD_eq
    intro i hi
    rw [getLsbD_repeatTwice x hi]
    rcases (by omega : i < 8 ∨ (8 ≤ i ∧ i < 12) ∨ 12 ≤ i) with hlow | ⟨hle, hlt⟩ | hhigh
    · interval_cases i <;> simp
    · have hbit := congrArg (fun y => y.getLsbD (i - 8)) h
      interval_cases i <;> simpa using hbit.symm
    · interval_cases i <;> simp

theorem repeatOften_eq_iff (x z : BitVec 16) :
    repeatOften x = z ↔ ∀ k < 4, z.extractLsb' (12 - 4 * k) 4 = x.extractLsb' 12 4 := by
  constructor
  · rintro rfl k hk
    apply BitVec.eq_of_getLsbD_eq
    intro i hi
    rw [BitVec.getLsbD_extractLsb', BitVec.getLsbD_extractLsb',
      getLsbD_repeatOften x (by omega), show (12 - 4 * k + i) % 4 = i by omega]
  · intro h
    apply BitVec.eq_of_getLsbD_eq
    intro i hi
    have hbit := congrArg (fun y => y.getLsbD (i % 4)) (h (3 - i / 4) (by omega))
    rw [getLsbD_repeatOften x hi]
    simp only [BitVec.getLsbD_extractLsb'] at hbit
    rw [show 12 - 4 * (3 - i / 4) + i % 4 = i by omega,
      decide_eq_true (show i % 4 < 4 by omega), Bool.true_and, Bool.true_and] at hbit
    exact hbit.symm

def repeatedIrq (ports : Nat) (x : BitVec 16) : BitVec 16 :=
  if ports = 2 then repeatTwice x else repeatOften x

/-- `mxser_get_ISA_conf` takes an interrupt if all ports have it. -/
theorem isaIrq_eq {ports : Nat} (hports : ports = 2 ∨ ports = 4 ∨ ports = 8)
    (regs : Nat → BitVec 16) :
    isaIrq ports regs = if OneIrq ports regs then some (repeatedIrq ports (regs 9)) else none := by
  rcases hports with rfl | rfl | rfl
  · have hiff : repeatTwice (regs 9) = regs 9 &&& 0xFF00 ↔ OneIrq 2 regs := by
      rw [repeatTwice_eq_iff]
      constructor
      · intro h j hj
        interval_cases j
        · rfl
        · exact h
      · intro h
        exact h 1 (by decide)
    show (if repeatTwice (regs 9) ≠ regs 9 &&& 0xFF00 then none else some (repeatTwice (regs 9))) = _
    rw [ite_not]
    exact if_congr hiff rfl rfl
  · have hiff : repeatOften (regs 9) = regs 9 ↔ OneIrq 4 regs := by
      rw [repeatOften_eq_iff]
      constructor
      · intro h j hj
        have hport := h j hj
        interval_cases j <;> exact hport
      · intro h k hk
        have hport := h k hk
        interval_cases k <;> exact hport
    show (if repeatOften (regs 9) ≠ regs 9 then none else some (repeatOften (regs 9))) = _
    rw [ite_not]
    exact if_congr hiff rfl rfl
  · have hiff : (repeatOften (regs 9) = regs 9 ∧ repeatOften (regs 9) = regs 10) ↔
        OneIrq 8 regs := by
      rw [repeatOften_eq_iff, repeatOften_eq_iff]
      constructor
      · rintro ⟨h, h'⟩ j hj
        by_cases hlow : j < 4
        · have hport := h j hlow
          interval_cases j <;> exact hport
        · have hport := h' (j - 4) (by omega)
          interval_cases j <;> exact hport
      · intro h
        constructor
        · intro k hk
          have hport := h k (by omega)
          interval_cases k <;> exact hport
        · intro k hk
          have hport := h (k + 4) (by omega)
          interval_cases k <;> exact hport
    show (if repeatOften (regs 9) ≠ regs 9 ∨ repeatOften (regs 9) ≠ regs 10 then none
      else some (repeatOften (regs 9))) = _
    by_cases hall : OneIrq 8 regs
    · obtain ⟨h9, h10⟩ := hiff.mpr hall
      rw [if_pos hall, if_neg (not_or.mpr ⟨not_not.mpr h9, not_not.mpr h10⟩)]
      rfl
    · rw [if_neg hall, if_pos (not_and_or.mp fun hboth => hall (hiff.mp hboth))]

/-- The number that is taken out of it again. -/
theorem repeatedIrq_top (ports : Nat) (regs : Nat → BitVec 16) :
    (repeatedIrq ports (regs 9) &&& 0xF000) >>> 12 = (portIrq regs 0).setWidth 16 := by
  apply BitVec.eq_of_getLsbD_eq
  intro i hi
  unfold repeatedIrq portIrq
  split
  · unfold repeatTwice
    interval_cases i <;> simp
  · unfold repeatOften repeatTwice
    interval_cases i <;> simp

theorem repeatedIrq_eq_zero_iff (ports : Nat) (regs : Nat → BitVec 16) :
    repeatedIrq ports (regs 9) = 0 ↔ portIrq regs 0 = 0 := by
  constructor
  · intro h
    have htop := repeatedIrq_top ports regs
    rw [h] at htop
    apply BitVec.eq_of_getLsbD_eq
    intro i hi
    have hbit := congrArg (fun y => y.getLsbD i) htop
    interval_cases i <;> simpa using hbit.symm
  · intro h
    have hzero : ∀ k < 4, (regs 9).getLsbD (12 + k) = false := by
      intro k hk
      have hbit := congrArg (fun y => y.getLsbD k) h
      simpa [portIrq, BitVec.getLsbD_extractLsb', hk] using hbit
    apply BitVec.eq_of_getLsbD_eq
    intro i hi
    have hbit := hzero (i % 4) (by omega)
    unfold repeatedIrq
    split
    · rw [getLsbD_repeatTwice _ hi, hbit, Bool.and_false]
      exact BitVec.getLsbD_zero.symm
    · rw [getLsbD_repeatOften _ hi, hbit]
      exact BitVec.getLsbD_zero.symm

/-! ## The configuration -/

theorem isaBoard_ports {id type : Int} {ports : Nat} (h : isaBoard id = some (type, ports)) :
    (ports = 2 ∨ ports = 4 ∨ ports = 8) ∧ (ports = 8 → id = 1) := by
  unfold isaBoard at h
  split at h
  · cases h
    exact ⟨.inr (.inr rfl), fun _ => ‹_›⟩
  all_goals
    grind

/-- What `mxser_get_ISA_conf` returns for a board with these words. -/
def isaResult (ports : Nat) (word : Nat → BitVec 16) : Int :=
  if ¬ OneIrq ports word then mxserErrIrqConflit
  else if portIrq word 0 = 0 then mxserErrIrq
  else if (word 12).getLsbD 7 = false then mxserErrVector
  else ports

/-- `hw` is the configuration that the words hold. -/
structure IsaConfigured (type : Int) (ports : Nat) (word : Nat → BitVec 16) (iir : Byte)
    (hw : MxserHwconf) : Prop where
  boardType : hw.boardType = type
  ports_eq : hw.ports = ports
  irq : ∀ j < ports, hw.irq = (portIrq word j).toNat
  irq_pos : 0 < hw.irq
  ioaddr : ∀ i < 8, hw.ioaddr i = (word (i + 1) &&& 0xFFF8).toNat
  vector : hw.vector = (word 11).toNat
  vectorMask : ∀ j, hw.vectorMask.testBit j = true ↔ j < max ports 4
  baudBase : ∀ i < 8, hw.baudBase i = if (word 12).getLsbD (15 - i) then 921600 else 115200
  maxCanSetBaudRate : hw.maxCanSetBaudRate = hw.baudBase
  uartType : hw.uartType = if test iir 0xC0 then port16550A else port16450
  plain : hw.isMoxaMustChipFlag = moxaOtherUart

theorem isaBaud_eq (regs : Nat → BitVec 16) {i : Nat} (hi : i < 8) :
    isaBaud regs i = if (regs 12).getLsbD (15 - i) then 921600 else 115200 := by
  have hmask : ((0x0100 <<< (7 - i) : Nat) : BitVec 16) = (1 : BitVec 16) <<< (15 - i) := by
    interval_cases i <;> decide
  rw [isaBaud, hmask, test_bit _ (show 15 - i < 16 by omega)]

theorem testBit_isaMask {ports : Nat} (hports : ports = 2 ∨ ports = 4 ∨ ports = 8) (j : Nat) :
    (if ports = 8 then 0x00FF else 0x000F : Nat).testBit j = true ↔ j < max ports 4 := by
  have hones (n : Nat) : (2 ^ n - 1).testBit j = true ↔ j < n := by
    rw [Nat.testBit_two_pow_sub_one, decide_eq_true_iff]
  rcases hports with rfl | rfl | rfl
  · exact hones 4
  · exact hones 4
  · exact hones 8

/-- The words decide, and only the first 14 of them. -/
theorem mxserGetIsaConf_eq (chip : IsaChip) (hw : MxserHwconf) {type : Int} {ports : Nat}
    (hboard : isaBoard chip.id = some (type, ports)) :
    (mxserGetIsaConf chip hw).1 = isaResult ports chip.regs ∧
      (0 < (mxserGetIsaConf chip hw).1 →
        IsaConfigured type ports chip.regs chip.iir (mxserGetIsaConf chip hw).2) := by
  obtain ⟨hports, hmask⟩ := isaBoard_ports hboard
  have hone : chip.id = 1 ↔ ports = 8 := by
    refine ⟨fun hid => ?_, hmask⟩
    rw [hid] at hboard
    cases hboard
    rfl
  have hvalid : test (chip.regs 12) 0x80 = (chip.regs 12).getLsbD 7 :=
    test_bit (chip.regs 12) (show 7 < 16 by decide)
  unfold mxserGetIsaConf isaResult
  by_cases hirq : OneIrq ports chip.regs
  · have htaken : isaIrq ports chip.regs = some (repeatedIrq ports (chip.regs 9)) := by
      rw [isaIrq_eq hports, if_pos hirq]
    rw [if_neg (not_not.mpr hirq)]
    simp only [hboard, htaken, repeatedIrq_eq_zero_iff, hvalid]
    by_cases hzero : portIrq chip.regs 0 = 0
    · rw [if_pos hzero, if_pos hzero]
      exact ⟨rfl, fun h => absurd h (show ¬ (0 : Int) < -2 by decide)⟩
    · rw [if_neg hzero, if_neg hzero]
      by_cases hbit : (chip.regs 12).getLsbD 7 = false
      · rw [if_pos hbit, if_pos hbit]
        exact ⟨rfl, fun h => absurd h (show ¬ (0 : Int) < -4 by decide)⟩
      · rw [if_neg hbit, if_neg hbit]
        refine ⟨rfl, fun _ => ?_⟩
        have htop : ((repeatedIrq ports (chip.regs 9) &&& 0xF000) >>> 12).toNat =
            (portIrq chip.regs 0).toNat := by
          rw [repeatedIrq_top, BitVec.toNat_setWidth, Nat.mod_eq_of_lt]
          exact Nat.lt_trans (portIrq chip.regs 0).isLt (by decide)
        constructor
        · rfl
        · rfl
        · intro j hj
          rw [hirq j hj]
          exact congrArg Int.ofNat htop
        · show (0 : Int) < (((repeatedIrq ports (chip.regs 9) &&& 0xF000) >>> 12).toNat : Nat)
          rw [htop]
          have hne : (portIrq chip.regs 0).toNat ≠ 0 := fun h0 =>
            hzero (BitVec.eq_of_toNat_eq h0)
          omega
        · exact fun i _ => rfl
        · rfl
        · intro j
          show (if chip.id = 1 then 0x00FF else 0x000F : Nat).testBit j = true ↔ _
          rw [if_congr hone rfl rfl]
          exact testBit_isaMask hports j
        · exact fun i hi => isaBaud_eq chip.regs hi
        · rfl
        · rfl
        · rfl
  · have hrefused : isaIrq ports chip.regs = none := by
      rw [isaIrq_eq hports, if_neg hirq]
    rw [if_pos hirq]
    simp only [hboard, hrefused]
    exact ⟨trivial, fun h => absurd h (by decide)⟩

/-- What reading a board comes to. -/
structure IsaRead (b : IsaBoard) (regs : Nat → BitVec 16) (hw : MxserHwconf) : Prop where
  /-- Without a known ASIC and the signature there is no board. -/
  absent : (∀ type ports, ¬ b.Answers type ports) →
    (mxserGetIsaConf (b.chip regs) hw).1 = 0
  /-- The words come off the wires as they are in the memory, and it is deselected. -/
  words : ∀ type ports, b.Answers type ports →
    (∀ i < 14, (b.chip regs).regs i = b.eeprom.word i) ∧
      (mxserReadRegister b regs).2.2.phase = .idle ∧
      (mxserReadRegister b regs).2.2.words = b.eeprom.words
  result : ∀ type ports, b.Answers type ports →
    (mxserGetIsaConf (b.chip regs) hw).1 = isaResult ports b.eeprom.word
  configured : ∀ type ports, b.Answers type ports → 0 < isaResult ports b.eeprom.word →
    IsaConfigured type ports b.eeprom.word b.iir (mxserGetIsaConf (b.chip regs) hw).2

/-- Only registers 1 to 12 are looked at. -/
theorem portIrq_congr {regs word : Nat → BitVec 16} (h : ∀ i < 14, regs i = word i) {j : Nat}
    (hj : j < 8) : portIrq regs j = portIrq word j := by
  rw [portIrq, h _ (by omega), portIrq]

theorem isaResult_congr {regs word : Nat → BitVec 16} (h : ∀ i < 14, regs i = word i)
    {ports : Nat} (hports : ports ≤ 8) : isaResult ports regs = isaResult ports word := by
  have hirq : OneIrq ports regs ↔ OneIrq ports word := by
    unfold OneIrq
    refine forall_congr' fun j => ?_
    refine imp_congr_right fun hj => ?_
    rw [portIrq_congr h (show j < 8 by omega), portIrq_congr h (show 0 < 8 by decide)]
  unfold isaResult
  rw [portIrq_congr h (show 0 < 8 by decide), h 12 (by decide)]
  exact if_congr (not_congr hirq) rfl rfl

theorem IsaConfigured.congr {regs word : Nat → BitVec 16} (h : ∀ i < 14, regs i = word i)
    {type : Int} {ports : Nat} (hports : ports ≤ 8) {iir : Byte} {hw : MxserHwconf}
    (hconf : IsaConfigured type ports regs iir hw) : IsaConfigured type ports word iir hw :=
  { hconf with
    irq := fun j hj => by rw [← portIrq_congr h (show j < 8 by omega), hconf.irq j hj]
    ioaddr := fun i hi => by rw [← h (i + 1) (by omega), hconf.ioaddr i hi]
    vector := by rw [← h 11 (by decide), hconf.vector]
    baudBase := fun i hi => by rw [← h 12 (by decide), hconf.baudBase i hi] }

/-- **An ISA board is configured as its memory says**, whatever it says. -/
theorem isa_board_read (b : IsaBoard) (hidle : b.eeprom.phase = .idle) (regs : Nat → BitVec 16)
    (hw : MxserHwconf) : IsaRead b regs hw := by
  have hread : ∀ type ports, b.Answers type ports →
      isaBoard (b.chip regs).id = some (type, ports) ∧
        ((∀ i < 14, (b.chip regs).regs i = b.eeprom.word i) ∧
          (mxserReadRegister b regs).2.2.phase = .idle ∧
          (mxserReadRegister b regs).2.2.words = b.eeprom.words) := by
    intro type ports hanswers
    have hmode := mxserProgramMode_of_answers hanswers
    have hid : ¬ mxserProgramMode b < 0 := by
      rw [hmode]
      exact Int.not_lt.mpr (Int.natCast_nonneg _)
    have hregister : mxserReadRegister b regs =
        (mxserProgramMode b, (List.range 14).foldl readTurn (regs, b.eeprom)) := if_neg hid
    refine ⟨?_, ?_⟩
    · show isaBoard (mxserReadRegister b regs).1 = _
      rw [hregister, hmode]
      exact hanswers.1
    · show (∀ i < 14, (mxserReadRegister b regs).2.1 i = b.eeprom.word i) ∧ _
      rw [hregister]
      exact foldl_readTurn_words 14 (Nat.le_refl 14) hidle
  have hports : ∀ {type : Int} {ports : Nat}, b.Answers type ports → ports ≤ 8 := by
    intro type ports hanswers
    have hcases := (isaBoard_ports hanswers.1).1
    omega
  constructor
  · intro hnone
    have hneg := mxserProgramMode_neg hnone
    have hid : (b.chip regs).id = mxserProgramMode b := by
      show (mxserReadRegister b regs).1 = _
      rw [mxserReadRegister, if_pos hneg]
    have hunknown : isaBoard (b.chip regs).id = none := by
      rw [hid]
      unfold isaBoard
      grind
    unfold mxserGetIsaConf
    simp only [hunknown]
  · exact fun type ports hanswers => (hread type ports hanswers).2
  · intro type ports hanswers
    obtain ⟨hboard, hwords, -⟩ := hread type ports hanswers
    rw [(mxserGetIsaConf_eq (b.chip regs) hw hboard).1]
    exact isaResult_congr hwords (hports hanswers)
  · intro type ports hanswers hpos
    obtain ⟨hboard, hwords, -⟩ := hread type ports hanswers
    obtain ⟨hresult, hconf⟩ := mxserGetIsaConf_eq (b.chip regs) hw hboard
    refine IsaConfigured.congr hwords (hports hanswers) (hconf ?_)
    rw [hresult, isaResult_congr hwords (hports hanswers)]
    exact hpos

/-- A C168 at 0x180 with interrupt 12, whose signature comes with the second read. -/
def c168Board : IsaBoard where
  asic := 0xE1
  signature := fun k => if k = 1 then 0x4D else if k = 2 then 1 else 0xFF
  eeprom := {
    words := fun a =>
      if a = 9 ∨ a = 10 then 0xCCCC
      else if a = 11 then 0x01C0
      else if a = 12 then 0xF080
      else 0x0178 + 8 * a.setWidth 16
    phase := .idle
    clock := false
    out := true }
  iir := 0xC1

theorem isa_board_read_c168 :
    IsaRead c168Board (fun _ => 0) zeroHwconf ∧ c168Board.Answers 1 8 ∧
      isaResult 8 c168Board.eeprom.word = 8 :=
  ⟨isa_board_read c168Board rfl _ _, ⟨by decide, 1, by decide, by decide, by decide⟩, by decide⟩

end MoxaDrivers.Mxser.Probe

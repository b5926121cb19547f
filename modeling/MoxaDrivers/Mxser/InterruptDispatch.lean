import Mathlib.Data.Nat.Bitwise
import MoxaDrivers.Mxser.SectionLock
import MoxaDrivers.Mxser.Probe

/-!
# The interrupt handler of a board

`mxser_interrupt` reads the vector register of the board until no port is pending,
and goes through the ports in each pass. The bit of a port is set in the value it
goes by as soon as it has been there, and equality with the mask ends the pass.
What the registers have is in `InterruptReads`: the vector register by the pass,
and the registers of a port by the pass, the port and the turn of the inner loop.
-/

namespace MoxaDrivers.Mxser.Dispatch

open MoxaDrivers.Bits MoxaDrivers.Sections MoxaDrivers.Mxser.Probe

def mxserIsrPassLimit : Nat := 99999

def nppiNotifyParity : Byte := 0x01
def nppiNotifyFraming : Byte := 0x02
def nppiNotifyHwOverrun : Byte := 0x04
def nppiNotifyBreak : Byte := 0x10

/-- A port of the board with its `err_shadow`. -/
structure IsrPort where
  line : Line
  errShadow : Byte

structure IsrDriver where
  /-- `mxsercfg[i].board_type`. -/
  boardType : Nat → Nat
  mxvarTable : Nat → MxvarEntry
  ports : Nat → IsrPort

structure InterruptReads where
  vector : Nat → Byte
  port : Nat → Nat → Nat → PassReads

/-- A pass: the vector value at its start, and the ports whose `UART_IIR` is read, a
port once for each read. -/
structure Pass where
  vector : Byte
  polled : List Nat

/-- What a call of the handler returns and has done; `stopped` when it has found no
port pending. -/
structure Isr where
  handled : Bool
  passes : List Pass
  stopped : Bool
  ports : Nat → IsrPort

/-! ## The code -/

def noteErrors (status errShadow : Byte) : Byte :=
  let note (bit flag errShadow : Byte) := if test status bit then errShadow ||| flag else errShadow
  note uartLsrBi nppiNotifyBreak (note uartLsrOe nppiNotifyHwOverrun
    (note uartLsrFe nppiNotifyFraming (note uartLsrPe nppiNotifyParity errShadow)))

/-- A turn of the inner loop at a port. The loop is left when there is no interrupt, or
no tty. -/
def portTurn (r : PassReads) (p : IsrPort) : IsrPort × Bool :=
  let line := (mxserInterruptCode [r]).exec p.line
  if test r.iir uartIirNoInt || !p.line.port.infoTty then ({ p with line := line }, true)
  else ({ line := line, errShadow := noteErrors r.receive.status p.errShadow }, false)

/-- The turns that the inner loop may still take, and how often it reads `UART_IIR`. -/
def servePort : Nat → (Nat → PassReads) → IsrPort → Nat × IsrPort
  | 0, _, p => (0, p)
  | turns + 1, reads, p =>
      let (p, left) := portTurn (reads 0) p
      if left then (1, p)
      else
        let (polls, p) := servePort turns (fun k => reads (k + 1)) p
        (polls + 1, p)

/-- The ports from `i` on, of which there are `n`. -/
def portLoop (limit mask : Nat) (reads : Nat → Nat → PassReads) :
    Nat → Nat → Nat → (Nat → IsrPort) → List Nat × (Nat → IsrPort)
  | 0, _, _, ports => ([], ports)
  | n + 1, i, irqbits, ports =>
      if irqbits = mask then ([], ports)
      else if 1 <<< i &&& irqbits ≠ 0 then
        portLoop limit mask reads n (i + 1) (irqbits ||| 1 <<< i) ports
      else
        -- `int_cnt++ < MXSER_ISR_PASS_LIMIT` is tested after the turn
        let (polls, p) := servePort (limit + 1) (reads i) (ports i)
        let (polled, ports) :=
          portLoop limit mask reads n (i + 1) (irqbits ||| 1 <<< i) (Function.update ports i p)
        (List.replicate polls i ++ polled, ports)

/-- `limit` is `MXSER_ISR_PASS_LIMIT`, for the passes as for the turns at a port. -/
def interruptLoop (limit max mask : Nat) (reads : InterruptReads) (passCounter : Nat)
    (ports : Nat → IsrPort) : Isr :=
  let vector := reads.vector passCounter
  let irqbits := vector.toNat &&& mask
  if irqbits = mask then ⟨false, [], true, ports⟩
  else
    let (polled, ports) := portLoop limit mask (reads.port passCounter) max 0 irqbits ports
    if passCounter > limit then ⟨true, [⟨vector, polled⟩], false, ports⟩
    else
      let rest := interruptLoop limit max mask reads (passCounter + 1) ports
      { rest with handled := true, passes := ⟨vector, polled⟩ :: rest.passes }
termination_by limit + 1 - passCounter

/-- The slot whose first port `dev_id` is. -/
def findBoard (dev : Nat) : Option Nat :=
  (List.range mxserBoards).find? fun i => dev == i * mxserPortsPerBoard

/-- `max` of the board in slot `i`. -/
def IsrDriver.max (d : IsrDriver) (i : Nat) : Nat := mxserNumports.getD (d.boardType i - 1) 0

/-- The ports are those from `dev` on. -/
def mxserInterrupt (d : IsrDriver) (reads : InterruptReads) (dev : Nat) : Isr :=
  match findBoard dev with
  | none => ⟨false, [], true, fun i => d.ports (dev + i)⟩
  | some i =>
      interruptLoop mxserIsrPassLimit (d.max i) (d.mxvarTable dev).vectormask reads 0
        fun i => d.ports (dev + i)

/-! ## What the handler is to do -/

/-- No port is pending, as far as the mask goes. -/
def AllSet (mask : Nat) (vector : Byte) : Prop := vector.toNat &&& mask = mask

/-- How often the vector register is read. -/
def Isr.vectorReads (r : Isr) : Nat := r.passes.length + if r.stopped then 1 else 0

/-- The ports served in each pass are those that are pending when it starts, the
handler stops when none is or after the last pass, and returns whether it found one. -/
structure Dispatches (limit max mask : Nat) (reads : InterruptReads) (r : Isr) : Prop where
  polled : ∀ k pass, r.passes[k]? = some pass → pass.vector = reads.vector k ∧
    ∀ i, i ∈ pass.polled ↔ i < max ∧ (reads.vector k).getLsbD i = false
  pending : ∀ k < r.passes.length, ¬ AllSet mask (reads.vector k)
  stopped : r.stopped = true → AllSet mask (reads.vector r.passes.length)
  bounded : r.passes.length ≤ limit + 2
  last : r.stopped = false → r.passes.length = limit + 2
  handled : r.handled = true ↔ ∃ k < r.vectorReads, ¬ AllSet mask (reads.vector k)

/-! ## One pass -/

theorem servePort_polls (turns : Nat) (reads : Nat → PassReads) (p : IsrPort) :
    0 < (servePort (turns + 1) reads p).1 := by
  rw [servePort]
  simp only
  split
  · exact Nat.one_pos
  · exact Nat.succ_pos _

theorem shift_and_ne_zero_iff (i x : Nat) : 1 <<< i &&& x ≠ 0 ↔ x.testBit i = true := by
  rw [Nat.one_shiftLeft, Nat.two_pow_and]
  cases x.testBit i with
  | true => simp
  | false => simp

theorem testBit_or_shift (x i j : Nat) :
    (x ||| 1 <<< i).testBit j = (x.testBit j || decide (i = j)) := by
  rw [Nat.one_shiftLeft, Nat.testBit_or, Nat.testBit_two_pow]

section PortLoop

variable {limit mask vector : Nat} {reads : Nat → Nat → PassReads}

/-- `irqbits` when the ports before `i` have been gone by. -/
structure GoneBy (mask vector i irqbits : Nat) : Prop where
  before : ∀ j < i, irqbits.testBit j = true
  from_here : ∀ j ≥ i, irqbits.testBit j = (vector &&& mask).testBit j

theorem goneBy_start (mask vector : Nat) : GoneBy mask vector 0 (vector &&& mask) :=
  ⟨fun _ h => absurd h (Nat.not_lt_zero _), fun _ _ => rfl⟩

theorem GoneBy.next {i irqbits : Nat} (h : GoneBy mask vector i irqbits) :
    GoneBy mask vector (i + 1) (irqbits ||| 1 <<< i) := by
  constructor
  · intro j hj
    rw [testBit_or_shift]
    by_cases hij : i = j
    · simp [hij]
    · rw [h.before j (by omega), Bool.true_or]
  · intro j hj
    have hij : i ≠ j := by omega
    rw [testBit_or_shift, h.from_here j (by omega), decide_eq_false hij, Bool.or_false]

/-- From a port on, with a mask that has its bit, the value still has the vector's. -/
theorem GoneBy.testBit {i irqbits : Nat} (h : GoneBy mask vector i irqbits) {j : Nat} (hj : i ≤ j)
    (hmask : mask.testBit j = true) : irqbits.testBit j = vector.testBit j := by
  rw [h.from_here j hj, Nat.testBit_and, hmask, Bool.and_true]

/-- **No pending port is skipped**: the early exit finds that there is none left. -/
theorem mem_portLoop {n i irqbits : Nat} (h : GoneBy mask vector i irqbits)
    (hmask : ∀ j < i + n, mask.testBit j = true) (ports : Nat → IsrPort) (j : Nat) :
    j ∈ (portLoop limit mask reads n i irqbits ports).1 ↔
      i ≤ j ∧ j < i + n ∧ vector.testBit j = false := by
  induction n generalizing i irqbits ports with
  | zero =>
      rw [portLoop]
      simp
      omega
  | succ n ih =>
      have hbit : irqbits.testBit i = vector.testBit i :=
        h.testBit (Nat.le_refl i) (hmask i (by omega))
      have hrest := ih h.next fun j hj => hmask j (by omega)
      rw [portLoop]
      split
      · next hall =>
          refine iff_of_false List.not_mem_nil ?_
          rintro ⟨hle, hlt, hpending⟩
          have hset := h.testBit hle (hmask j hlt)
          rw [hall, hmask j hlt, hpending] at hset
          cases hset
      · split
        · next hset =>
            rw [shift_and_ne_zero_iff, hbit] at hset
            rw [hrest]
            constructor
            · rintro ⟨hle, hlt, hpending⟩
              exact ⟨by omega, by omega, hpending⟩
            · rintro ⟨hle, hlt, hpending⟩
              have hne : i ≠ j := by
                rintro rfl
                rw [hset] at hpending
                cases hpending
              exact ⟨by omega, by omega, hpending⟩
        · next hclear =>
            rw [shift_and_ne_zero_iff, hbit, Bool.not_eq_true] at hclear
            have hpolls := servePort_polls limit (reads i) (ports i)
            simp only [List.mem_append, List.mem_replicate, hrest]
            constructor
            · rintro (⟨-, rfl⟩ | ⟨hle, hlt, hpending⟩)
              · exact ⟨Nat.le_refl j, by omega, hclear⟩
              · exact ⟨by omega, by omega, hpending⟩
            · rintro ⟨hle, hlt, hpending⟩
              by_cases hij : j = i
              · exact .inl ⟨by omega, hij⟩
              · exact .inr ⟨by omega, by omega, hpending⟩

end PortLoop

/-! ## All passes -/

/-- What the loop does from a pass on. -/
structure DispatchesFrom (limit max mask : Nat) (reads : InterruptReads) (passCounter : Nat)
    (r : Isr) : Prop where
  passes : ∀ k pass, r.passes[k]? = some pass →
    pass.vector = reads.vector (passCounter + k) ∧
      ¬ AllSet mask (reads.vector (passCounter + k)) ∧
      ∀ i, i ∈ pass.polled ↔ i < max ∧ (reads.vector (passCounter + k)).getLsbD i = false
  stopped : r.stopped = true → AllSet mask (reads.vector (passCounter + r.passes.length))
  bounded : r.passes.length + passCounter ≤ limit + 2
  last : r.stopped = false → r.passes.length + passCounter = limit + 2
  handled : r.handled = true ↔ r.passes ≠ []

theorem polled_iff {limit max mask : Nat} (hmask : ∀ i < max, mask.testBit i = true) (vector : Byte)
    (reads : Nat → Nat → PassReads) (ports : Nat → IsrPort) (i : Nat) :
    i ∈ (portLoop limit mask reads max 0 (vector.toNat &&& mask) ports).1 ↔
      i < max ∧ vector.getLsbD i = false := by
  rw [mem_portLoop (goneBy_start mask vector.toNat) (by simpa using hmask), BitVec.getLsbD]
  simp

section InterruptLoop

variable {limit max mask : Nat} {reads : InterruptReads} {passCounter : Nat}

theorem dispatchesFrom_end (h : passCounter ≤ limit + 2) {stopped : Bool}
    (hset : stopped = true → AllSet mask (reads.vector passCounter))
    (hlast : stopped = false → passCounter = limit + 2) (ports : Nat → IsrPort) :
    DispatchesFrom limit max mask reads passCounter ⟨false, [], stopped, ports⟩ where
  passes := by simp
  stopped := hset
  bounded := by simpa using h
  last := by simpa using hlast
  handled := by simp

/-- One pass more in front. -/
theorem DispatchesFrom.cons {rest : Isr}
    (h : DispatchesFrom limit max mask reads (passCounter + 1) rest) {polled : List Nat}
    (hpending : ¬ AllSet mask (reads.vector passCounter))
    (hpolled : ∀ i, i ∈ polled ↔ i < max ∧ (reads.vector passCounter).getLsbD i = false) :
    DispatchesFrom limit max mask reads passCounter
      { rest with
        handled := true
        passes := ⟨reads.vector passCounter, polled⟩ :: rest.passes } where
  passes := by
    intro k pass hpass
    cases k with
    | zero =>
        cases hpass
        exact ⟨rfl, hpending, hpolled⟩
    | succ k =>
        have hrest := h.passes k pass hpass
        rw [Nat.add_right_comm, Nat.add_assoc] at hrest
        exact hrest
  stopped := by
    intro hstopped
    have hset := h.stopped hstopped
    rw [Nat.add_right_comm, Nat.add_assoc] at hset
    exact hset
  bounded := by
    have hbounded := h.bounded
    rw [List.length_cons]
    omega
  last := by
    intro hstopped
    have hlast := h.last hstopped
    rw [List.length_cons]
    omega
  handled := by simp

theorem interruptLoop_dispatches (hmask : ∀ i < max, mask.testBit i = true)
    (h : passCounter ≤ limit + 1) (ports : Nat → IsrPort) :
    DispatchesFrom limit max mask reads passCounter
      (interruptLoop limit max mask reads passCounter ports) := by
  induction hleft : limit + 1 - passCounter generalizing passCounter ports with
  | zero =>
      rw [interruptLoop]
      simp only
      split
      · next hset =>
          refine dispatchesFrom_end ?_ (fun _ => hset) (by simp) ports
          omega
      · next hpending =>
          rw [if_pos (by omega)]
          have hlast : passCounter + 1 = limit + 2 := by omega
          have hend (ports : Nat → IsrPort) : DispatchesFrom limit max mask reads (passCounter + 1)
              ⟨false, [], false, ports⟩ :=
            dispatchesFrom_end (Nat.le_of_eq hlast) (by simp) (fun _ => hlast) ports
          exact (hend _).cons hpending (polled_iff hmask _ _ ports)
  | succ left ih =>
      rw [interruptLoop]
      simp only
      split
      · next hset =>
          refine dispatchesFrom_end ?_ (fun _ => hset) (by simp) ports
          omega
      · next hpending =>
          rw [if_neg (by omega)]
          exact (ih (by omega) _ (by omega)).cons hpending (polled_iff hmask _ _ ports)

end InterruptLoop

theorem DispatchesFrom.dispatches {limit max mask : Nat} {reads : InterruptReads} {r : Isr}
    (h : DispatchesFrom limit max mask reads 0 r) : Dispatches limit max mask reads r where
  polled := by
    intro k pass hpass
    obtain ⟨hvector, -, hpolled⟩ := h.passes k pass hpass
    rw [Nat.zero_add] at hvector hpolled
    exact ⟨hvector, hpolled⟩
  pending := by
    intro k hk
    obtain ⟨-, hpending, -⟩ := h.passes k _ (List.getElem?_eq_getElem hk)
    rwa [Nat.zero_add] at hpending
  stopped := by
    intro hstopped
    have hset := h.stopped hstopped
    rwa [Nat.zero_add] at hset
  bounded := h.bounded
  last := h.last
  handled := by
    rw [h.handled]
    constructor
    · intro hne
      have hpos := List.length_pos_iff.mpr hne
      obtain ⟨-, hpending, -⟩ := h.passes 0 _ (List.getElem?_eq_getElem hpos)
      exact ⟨0, Nat.lt_add_right _ hpos, hpending⟩
    · rintro ⟨k, hk, hpending⟩ hnil
      rw [Isr.vectorReads, hnil] at hk
      split at hk
      · next hstopped =>
          have hset := h.stopped hstopped
          rw [hnil] at hset
          have hk0 : k = 0 := by
            rw [List.length_nil] at hk
            omega
          rw [hk0] at hpending
          exact hpending hset
      · exact absurd hk (Nat.not_lt_zero k)

/-- The slot is found by its first port. -/
theorem findBoard_eq {i : Nat} (h : i < mxserBoards) :
    findBoard (i * mxserPortsPerBoard) = some i := by
  have hall : ∀ i < mxserBoards, findBoard (i * mxserPortsPerBoard) = some i := by decide
  exact hall i h

/-- **The handler** of a board whose mask has a bit for each of its ports serves the
ports that are pending, and ends. -/
theorem mxserInterrupt_dispatches (d : IsrDriver) (reads : InterruptReads) (i : Nat)
    (hi : i < mxserBoards)
    (hmask : ∀ j < d.max i, (d.mxvarTable (i * mxserPortsPerBoard)).vectormask.testBit j = true) :
    Dispatches mxserIsrPassLimit (d.max i) (d.mxvarTable (i * mxserPortsPerBoard)).vectormask reads
      (mxserInterrupt d reads (i * mxserPortsPerBoard)) := by
  rw [mxserInterrupt, findBoard_eq hi]
  exact (interruptLoop_dispatches hmask (Nat.zero_le _) _).dispatches

/-- A C168, whose second port has an interrupt that is gone when its `UART_IIR` is
read. -/
def c168Driver : IsrDriver where
  boardType := fun _ => 1
  mxvarTable := fun _ => { zeroEntry with vectormask := 0xFF }
  ports := fun _ => ⟨Line.start (c104Port 4 (c104Termios 0)), 0⟩

def secondPortReads : InterruptReads where
  vector := fun k => if k = 0 then 0xFD else 0xFF
  port := fun _ _ _ => ⟨uartIirNoInt, ⟨0, 0, fun _ => 0, fun _ => 0, 0⟩⟩

theorem mxserInterrupt_dispatches_c168 :
    Dispatches mxserIsrPassLimit 8 0xFF secondPortReads
      (mxserInterrupt c168Driver secondPortReads 8) :=
  mxserInterrupt_dispatches c168Driver secondPortReads 1 (by decide) (by decide)

end MoxaDrivers.Mxser.Dispatch

import MoxaDrivers.Lib.Machine
import MoxaDrivers.Mxser.Board
import MoxaDrivers.Mxser.Modem

/-!
# Every change of a modem line is counted once

The counters `icount.cts`, `dsr`, `dcd` and `rng` of an open port against the
values that reads of `UART_MSR` returned. Each delta bit a read returns is gone
from the register, so it has to be counted there and then, and only then.

The interrupt and `mxser_tiocmget` do so. `MOXA_GETMSTATUS` drops what it
reads. `MOXA_ASPP_MON_EXT` leaves what it counted in the sticky copy
`mxser_msr`, where it and `MOXA_ASPP_MON` count it again.
-/

namespace MoxaDrivers.Mxser

open MoxaDrivers.Bits MoxaDrivers.Machine

/-! ## Lines, delta bits and counters -/

inductive ModemLine where
  | cts
  | dsr
  | dcd
  | rng
  deriving DecidableEq, Repr

namespace ModemLine

/-- The delta bit of the line in `UART_MSR`. -/
def delta : ModemLine → Byte
  | .cts => uartMsrDcts
  | .dsr => uartMsrDdsr
  | .dcd => uartMsrDdcd
  | .rng => uartMsrTeri

def counter (c : AsyncIcount) : ModemLine → Word
  | .cts => c.cts
  | .dsr => c.dsr
  | .dcd => c.dcd
  | .rng => c.rng

theorem delta_cover (line : ModemLine) : uartMsrAnyDelta &&& line.delta = line.delta := by
  cases line <;> decide

/-- The four bits are all that `UART_MSR_ANY_DELTA` asks for. -/
theorem anyDelta_false_iff (msr : Byte) :
    test msr uartMsrAnyDelta = false ↔ ∀ line : ModemLine, test msr line.delta = false := by
  have hmask : uartMsrAnyDelta = uartMsrDcts ||| uartMsrDdsr ||| uartMsrDdcd ||| uartMsrTeri := by
    decide
  rw [hmask, test_mask_or, test_mask_or, test_mask_or]
  simp only [Bool.or_eq_false_iff]
  constructor
  · rintro ⟨⟨⟨hcts, hdsr⟩, hdcd⟩, hrng⟩ line
    cases line <;> assumption
  · intro h
    exact ⟨⟨⟨h .cts, h .dsr⟩, h .dcd⟩, h .rng⟩

end ModemLine

theorem countDeltas_counter (p : Port) (status : Byte) (line : ModemLine) :
    line.counter (countDeltas p status).icount
      = if test status line.delta then line.counter p.icount + 1 else line.counter p.icount := by
  cases line <;> rfl

/-! ## Counters and reads -/

/-- Counters that go with a list of reads go with one read more exactly when
those of the bits it returned, and no others, are incremented. -/
theorem ModemLine.count_read_iff {c₀ c d : AsyncIcount} {reads : List Byte} (msr : Byte)
    (h : ∀ line : ModemLine, line.counter c =
      line.counter c₀ + BitVec.ofNat 32 (reads.countP fun msr => test msr line.delta)) :
    (∀ line : ModemLine, line.counter d = line.counter c₀ +
        BitVec.ofNat 32 ((reads ++ [msr]).countP fun msr => test msr line.delta)) ↔
      ∀ line : ModemLine, line.counter d =
        if test msr line.delta then line.counter c + 1 else line.counter c := by
  refine forall_congr' fun line => ?_
  have hstep : line.counter c₀ +
      BitVec.ofNat 32 ((reads ++ [msr]).countP fun msr => test msr line.delta) =
        if test msr line.delta then line.counter c + 1 else line.counter c := by
    rw [h line, List.countP_append, List.countP_singleton]
    split
    · rw [BitVec.ofNat_add, BitVec.add_assoc]
      rfl
    · rfl
  rw [hstep]

/-- No delta is pending in the hardware. -/
def Quiet (p : Port) : Prop := test p.uart.msr uartMsrAnyDelta = false

instance (p : Port) : Decidable (Quiet p) := inferInstanceAs (Decidable (_ = _))

/-- Since `p₀` each counter has grown by the number of reads of `UART_MSR` that
returned its delta bit, in the arithmetic of its 32 bits. -/
def Counted (p₀ p : Port) : Prop :=
  ∃ reads, p.uart.msrReads = p₀.uart.msrReads ++ reads ∧ ∀ line : ModemLine,
    line.counter p.icount
      = line.counter p₀.icount + BitVec.ofNat 32 (reads.countP fun msr => test msr line.delta)

theorem counted_refl (p : Port) : Counted p p :=
  ⟨[], by simp, fun line => by simp⟩

/-- Neither reads nor counts. -/
theorem Counted.congr {p₀ p q : Port} (h : Counted p₀ p)
    (hreads : q.uart.msrReads = p.uart.msrReads) (hcount : q.icount = p.icount) :
    Counted p₀ q := by
  obtain ⟨reads, heq, hcounts⟩ := h
  exact ⟨reads, hreads.trans heq, fun line => by rw [hcount, hcounts line]⟩

/-- After one more read the counters are right exactly when those of the bits it
returned, and no others, have been incremented. -/
theorem Counted.read_iff {p₀ p q : Port} (msr : Byte) (h : Counted p₀ p)
    (hreads : q.uart.msrReads = p.uart.msrReads ++ [msr]) :
    Counted p₀ q ↔ ∀ line : ModemLine, line.counter q.icount
      = if test msr line.delta then line.counter p.icount + 1 else line.counter p.icount := by
  obtain ⟨reads, heq, hcounts⟩ := h
  rw [← ModemLine.count_read_iff msr hcounts]
  constructor
  · rintro ⟨reads', heq', hcounts'⟩
    have hr : reads' = reads ++ [msr] := by
      rw [hreads, heq, List.append_assoc] at heq'
      exact (List.append_cancel_left heq').symm
    rw [← hr]
    exact hcounts'
  · intro hline
    exact ⟨reads ++ [msr], by rw [hreads, heq, List.append_assoc], hline⟩

/-! ## The condition on the requests -/

/-- Every delta bit in the sticky copy is also pending in the register. -/
def StickyFresh (p : Port) : Prop :=
  ∀ line : ModemLine, test p.mxserMsr line.delta = true → test p.uart.msr line.delta = true

/-- `MOXA_GETMSTATUS` is made with no delta pending, and the monitor requests
with no delta in the sticky copy that is not pending as well. -/
def CountsRight (p : Port) (op : ModemOp) : Prop :=
  match op with
  | .getmstatus _ => Quiet p
  | .asppMon _ | .asppMonExt _ => StickyFresh p
  | _ => True

structure CountInv (p₀ p : Port) : Prop where
  online : OnLine p
  counted : Counted p₀ p

/-! ## What the reads do -/

theorem inbMsr_quiet (p : Port) : test p.inbMsr.2.uart.msr uartMsrAnyDelta = false :=
  test_clear_self _ _

/-- What `mxser_check_modem_status` leaves of the read that led to it. -/
theorem mxserCheckModemStatus_frame (p : Port) (status : Byte) :
    (mxserCheckModemStatus p status).icount = (countDeltas p status).icount ∧
      (mxserCheckModemStatus p status).uart.msrReads = p.uart.msrReads ∧
      (mxserCheckModemStatus p status).uart.msr = p.uart.msr ∧
      (OnLine p → OnLine (mxserCheckModemStatus p status)) := by
  obtain ⟨ev, ier, uier, heq⟩ := mxserCheckModemStatus_eq p status
  rw [heq]
  exact ⟨rfl, rfl, rfl, fun h => ⟨h.tty, h.base, h.noError⟩⟩

theorem OnLine.inbMsr {p : Port} (h : OnLine p) : OnLine p.inbMsr.2 :=
  ⟨h.tty, h.base, h.noError⟩

/-- A served read counts what it returned. -/
theorem countInv_served {p₀ p : Port} (h : CountInv p₀ p) : CountInv p₀ (servedMsr p) := by
  simp only [servedMsr]
  by_cases hany : test p.uart.msr uartMsrAnyDelta = true
  · rw [if_pos hany]
    obtain ⟨hicount, hreads, -, honline⟩ := mxserCheckModemStatus_frame p.inbMsr.2 p.uart.msr
    refine ⟨honline h.online.inbMsr, ?_⟩
    rw [h.counted.read_iff p.uart.msr hreads]
    intro line
    rw [hicount, countDeltas_counter]
    rfl
  · rw [if_neg hany]
    refine ⟨h.online.inbMsr, ?_⟩
    rw [h.counted.read_iff p.uart.msr rfl]
    intro line
    have hline := (ModemLine.anyDelta_false_iff p.uart.msr).mp (by simpa using hany) line
    rw [hline]
    rfl

/-- The status that a monitor request works with has the delta bits of the
register and those of the sticky copy. -/
theorem mxserGetMsr_delta (p : Port) (mode : Int) (line : ModemLine) :
    test (mxserGetMsr p mode).1 line.delta
      = (test p.mxserMsr line.delta || test p.uart.msr line.delta) := by
  show test ((p.mxserMsr &&& uartMsrAnyDelta) ||| p.uart.msr) line.delta = _
  rw [test_or, test_and_of_cover line.delta_cover]

/-- A monitor request counts right exactly when the sticky copy adds nothing. -/
theorem counted_getMsr_iff {p₀ p q : Port} (h : Counted p₀ p) (mode : Int)
    (hicount : q.icount = (countDeltas (mxserGetMsr p mode).2 (mxserGetMsr p mode).1).icount)
    (hreads : q.uart.msrReads = p.uart.msrReads ++ [p.uart.msr]) :
    Counted p₀ q ↔ StickyFresh p := by
  rw [h.read_iff p.uart.msr hreads]
  refine forall_congr' fun line => ?_
  rw [hicount, countDeltas_counter, mxserGetMsr_delta]
  show (if _ then line.counter p.icount + 1 else line.counter p.icount) = _ ↔ _
  cases hs : test p.mxserMsr line.delta <;> cases hm : test p.uart.msr line.delta <;> simp

/-- Reading and not counting is right exactly when there was nothing to count. -/
theorem counted_read_iff_quiet {p₀ p : Port} (h : Counted p₀ p) :
    Counted p₀ p.inbMsr.2 ↔ Quiet p := by
  rw [h.read_iff p.uart.msr rfl, Quiet, ModemLine.anyDelta_false_iff]
  refine forall_congr' fun line => ?_
  show line.counter p.icount = (if _ then line.counter p.icount + 1 else _) ↔ _
  cases hm : test p.uart.msr line.delta <;> simp

/-! ## One step -/

theorem countInv_step {p₀ p : Port} {op : ModemOp} (h : CountInv p₀ p)
    (hop : CountsRight p op) : CountInv p₀ (op.apply p) := by
  rcases modemOp_apply h.online op with
    ⟨levels, -, he⟩ | ⟨-, he⟩ | ⟨mcr, reason, rfl, he⟩ | ⟨opmode, rfl, he⟩ | ⟨old, rfl, he⟩
  · rw [he]
    exact ⟨⟨h.online.tty, h.online.base, h.online.noError⟩, h.counted.congr rfl rfl⟩
  · rw [he]
    exact countInv_served h
  · obtain ⟨hicount, hreads, -, honline⟩ :=
      mxserCheckModemStatus_frame (mxserGetMsr p 1).2 (mxserGetMsr p 1).1
    have hon := honline ⟨h.online.tty, h.online.base, h.online.noError⟩
    rw [he]
    refine ⟨⟨hon.tty, hon.base, hon.noError⟩, ?_⟩
    exact (counted_getMsr_iff h.counted 1 hicount hreads).mpr hop
  · rw [he]
    refine ⟨⟨h.online.tty, h.online.base, h.online.noError⟩, ?_⟩
    exact (counted_getMsr_iff h.counted 0 rfl rfl).mpr hop
  · rw [he]
    exact ⟨h.online.inbMsr, (counted_read_iff_quiet h.counted).mpr hop⟩

/-- A request made against the condition leaves nothing pending and the
counters wrong. -/
theorem counted_bad_step {p₀ p : Port} {op : ModemOp} (h : CountInv p₀ p)
    (hop : ¬ CountsRight p op) : Quiet (op.apply p) ∧ ¬ Counted p₀ (op.apply p) := by
  rcases modemOp_apply h.online op with
    ⟨levels, rfl, -⟩ | ⟨rfl | rfl, -⟩ | ⟨mcr, reason, rfl, he⟩ | ⟨opmode, rfl, he⟩ |
    ⟨old, rfl, he⟩
  · exact absurd trivial hop
  · exact absurd trivial hop
  · exact absurd trivial hop
  · obtain ⟨hicount, hreads, hmsr, -⟩ :=
      mxserCheckModemStatus_frame (mxserGetMsr p 1).2 (mxserGetMsr p 1).1
    rw [he]
    constructor
    · show test (mxserCheckModemStatus _ _).uart.msr uartMsrAnyDelta = false
      rw [hmsr]
      exact inbMsr_quiet p
    · intro hc
      exact hop ((counted_getMsr_iff h.counted 1 hicount hreads).mp hc)
  · rw [he]
    refine ⟨inbMsr_quiet p, fun hc => ?_⟩
    exact hop ((counted_getMsr_iff h.counted 0 rfl rfl).mp hc)
  · rw [he]
    refine ⟨inbMsr_quiet p, fun hc => ?_⟩
    exact hop ((counted_read_iff_quiet h.counted).mp hc)

/-! ## Whole runs -/

/-- **The counters are exact in exactly these runs.** From any state of an open
port on, the counters agree with the reads whenever no delta is pending, if and
only if every `MOXA_GETMSTATUS` is made with no delta pending and every monitor
request with no delta in the sticky copy that is not pending as well. -/
theorem modem_counts_exact_iff {p : Port} (hp : OnLine p) (ops : List ModemOp) :
    Always modemStep (fun q => Quiet q → Counted p q) p ops ↔
      Guarded modemStep CountsRight p ops := by
  apply always_iff_guarded (J := CountInv p)
  · exact fun q hq _ => hq.counted
  · intro q op t hq hop ht
    cases ht
    exact countInv_step hq hop
  · intro q op hq hop
    obtain ⟨hquiet, hcounted⟩ := counted_bad_step hq hop
    exact ⟨_, rfl, fun h => hcounted (h hquiet)⟩
  · exact ⟨hp, counted_refl p⟩

theorem c104Started_onLine (uartType : Int) (termios : Termios) :
    OnLine (c104Started uartType termios) :=
  ⟨rfl, Nat.succ_ne_zero _, rfl⟩

/-- A CTS change, served by an interrupt. -/
theorem modem_counts_exact_iff_run :
    Always modemStep (fun q => Quiet q → Counted (c104Started port16450 zeroTermios) q)
      (c104Started port16450 zeroTermios) [.setLines 0x10, .interrupt] ↔
    Guarded modemStep CountsRight (c104Started port16450 zeroTermios)
      [.setLines 0x10, .interrupt] :=
  modem_counts_exact_iff (c104Started_onLine port16450 zeroTermios) _

/-- CTS drops, and `MOXA_ASPP_MON_EXT` is asked for twice: the one change is
counted twice. -/
theorem mon_ext_counts_twice :
    ∃ t, run modemStep (c104Started port16450 zeroTermios)
        [.setLines 0, .asppMonExt 0, .asppMonExt 0] = .ok t ∧
      Quiet t ∧ ¬ Counted (c104Started port16450 zeroTermios) t := by
  refine ⟨_, rfl, by decide, ?_⟩
  rintro ⟨reads, hreads, hcounts⟩
  have hboth : (c104Started port16450 zeroTermios).uart.msrReads ++ [uartMsrDcts, 0]
      = (c104Started port16450 zeroTermios).uart.msrReads ++ reads := hreads
  have hcts := hcounts .cts
  rw [← List.append_cancel_left hboth] at hcts
  exact absurd hcts (by decide)

end MoxaDrivers.Mxser

import MoxaDrivers.Mxupcie.Board
import MoxaDrivers.Mxupcie.FlushFifo
import MoxaDrivers.Mxupcie.RateHistory
import MoxaDrivers.Mxupcie.RateSafety

/-!
# The break in software

The RS-485 modes do not pass the break bit on, so `mx_software_break_signal`
makes a break of a zero divisor, one byte and a transmitter that is forced on.
The end of the break clears the transmit FIFO and has `mx_set_baud` program the
rate again.
-/

namespace MoxaDrivers.Mxupcie

open MoxaDrivers.Bits MoxaDrivers.Machine MoxaDrivers.Mxser

def uartLcrSbc : Byte := 0x40
def moxaSfrForceTx : Byte := 0x01

def mxBreakOn : Byte := 0x01
def mxBreakOff : Byte := 0x00

/-- The writes for `MX_BREAK_ON`. -/
def breakOn (p : Port) : Port :=
  let u := p.uart
  let cval := u.lcr
  let u := { u with lcr := cval ||| uartLcrDlab }
  let u := u.latch 0
  let u := { u with lcr := cval }
  -- the byte is not one of `xmit_buf`, and `MOXA_PUART_TCNT` is not read
  let u := { u with memthr := u.memthr ++ [(⟨0, 0, [0x01]⟩ : Block)] }
  let u := { u with sfr := u.sfr ||| moxaSfrForceTx }
  { p with uart := { u with lcr := u.lcr ||| uartLcrSbc } }

/-- The writes for `MX_BREAK_OFF` before the rate. -/
def breakOff (p : Port) : Port :=
  let u := p.uart
  let u := { u with lcr := u.lcr &&& ~~~uartLcrSbc }
  let u := { u with sfr := u.sfr &&& ~~~moxaSfrForceTx }
  { p with uart := { u with fcr := uartFcrClearXmit } }

/-- `mx_software_break_signal`. -/
def mxSoftwareBreakSignal (HZ : Int) (p : Port) (state : Byte) : Except Fault Port :=
  let originSpeed := p.rate.speed
  let p := if state = mxBreakOn then breakOn p else p
  if state = mxBreakOff then mxSetBaud HZ (breakOff p) originSpeed else .ok p

/-- A break and its end, with nothing in between. -/
def softwareBreak (HZ : Int) (p : Port) : Except Fault Port := do
  let p ← mxSoftwareBreakSignal HZ p mxBreakOn
  mxSoftwareBreakSignal HZ p mxBreakOff

/-! ## What a request for the rate in `info->speed` leaves -/

/-- The divisor that `info->speed` is made with. -/
def speedDivisor (r : RateInfo) : Int :=
  if r.speed ∉ mxvarBaudTable then (searchLinear r.speed).divisor
  else if r.speed = 134 then (2 * r.baudBase).tdiv 269
  else if r.baudBase.tdiv r.speed = 0 then 1 else r.baudBase.tdiv r.speed

theorem baudQuot_eq_speedDivisor {r : RateInfo} {quot : Int} (hstd : r.speed ∈ mxvarBaudTable)
    (h0 : r.speed ≠ 0) (h : baudQuot r r.speed = .ok quot) : quot = speedDivisor r := by
  simp only [baudQuot, not_not.mpr hstd, if_false] at h
  simp only [speedDivisor, not_not.mpr hstd, if_false]
  by_cases h134 : r.speed = 134
  · rw [if_pos h134] at h ⊢
    cases h
    rfl
  · rw [if_neg h134, if_pos h0, cdiv_of_ne _ h0] at h
    rw [if_neg h134]
    cases h
    rfl

/-- Only a rate that is not positive asks for a hangup. -/
theorem baudQuot_eq_zero_iff {r : RateInfo} {quot : Int} (hbase : r.baudBase = 921600)
    (hmax : r.speed ≤ r.maxCanSetBaudRate) (hlimit : r.maxCanSetBaudRate = 921600)
    (h : baudQuot r r.speed = .ok quot) : quot = 0 ↔ r.speed ≤ 0 := by
  by_cases hstd : r.speed ∈ mxvarBaudTable
  · by_cases h0 : r.speed = 0
    · rw [h0] at h
      cases h
      simp [h0]
    · have hne := baudQuot_ne_zero hbase hstd h0 h
      have hrange : ∀ x ∈ mxvarBaudTable, 0 ≤ x := by decide
      have hpos := hrange r.speed hstd
      exact ⟨fun hq => absurd hq hne, fun hle => by omega⟩
  · simp only [baudQuot, if_pos hstd] at h
    obtain ⟨x, hx, h⟩ := bind_ok_iff.mp h
    cases h
    have h0 : r.speed ≠ 0 := fun h0 => hstd (h0 ▸ mxvarBaudTable_of_zero)
    rw [cdiv_of_ne _ h0] at hx
    cases hx
    rw [hlimit] at hmax ⊢
    by_cases hle : r.speed ≤ 0
    · rw [if_pos (.inl hle)]
      exact ⟨fun _ => hle, fun _ => rfl⟩
    · have hone : 1 ≤ r.baudBase.tdiv r.speed := by
        rw [hbase, Int.tdiv_eq_ediv_of_nonneg (by decide)]
        exact (Int.le_ediv_iff_mul_le (by omega)).mpr (by omega)
      rw [if_neg (by omega)]
      exact ⟨fun hq => by omega, fun hno => absurd hno hle⟩

/-- The rate in `info->speed` is one that `mx_set_baud` latches a divisor for. -/
def Latched (r : RateInfo) : Prop := r.speed ≠ 0 ∧ r.speed ≤ r.maxCanSetBaudRate

instance (r : RateInfo) : Decidable (Latched r) := inferInstanceAs (Decidable (_ ∧ _))

/-- The registers after the rate in `info->speed` is asked for again. -/
structure RateWritten (p q : Port) : Prop where
  lcr : q.uart.lcr = p.uart.lcr
  sfr : q.uart.sfr = p.uart.sfr
  fcr : q.uart.fcr = p.uart.fcr
  skipped : p.rate.speed > p.rate.maxCanSetBaudRate → q.uart.mcr = p.uart.mcr
  dtr : p.rate.speed ≤ p.rate.maxCanSetBaudRate →
    test q.uart.mcr uartMcrDtr = decide (0 < p.rate.speed)
  rts : p.rate.speed ≤ p.rate.maxCanSetBaudRate →
    test q.uart.mcr uartMcrRts = test p.mcr uartMcrRts
  latched : Latched p.rate → q.uart.dll = BitVec.ofInt 8 (speedDivisor p.rate) ∧
    q.uart.dlm = BitVec.ofInt 8 (speedDivisor p.rate / 256)
  unlatched : ¬ Latched p.rate → q.uart.dll = p.uart.dll ∧ q.uart.dlm = p.uart.dlm
  speed : q.rate.speed = p.rate.speed
  baudBase : q.rate.baudBase = p.rate.baudBase
  maxRate : q.rate.maxCanSetBaudRate = p.rate.maxCanSetBaudRate
  shadow : test q.mcr uartMcrRts = test p.mcr uartMcrRts

theorem splitSequence_div (best : LinearSearch) (deviation : Int) :
    (splitSequence best deviation).div = best.divisor := by
  unfold splitSequence
  split
  · rfl
  · rfl

/-- What `set_linear_baud` leaves alone, and the divisor that it latches. -/
theorem setLinearBaud_registers {u v : Uart} {newspd : Int} (h : setLinearBaud u newspd = .ok v) :
    v.lcr = u.lcr ∧ v.sfr = u.sfr ∧ v.fcr = u.fcr ∧
      v.dll = BitVec.ofInt 8 (searchLinear newspd).divisor ∧
      v.dlm = BitVec.ofInt 8 ((searchLinear newspd).divisor / 256) := by
  obtain ⟨b, hb, rfl⟩ := setLinearBaud_ok h
  obtain ⟨deviation, -, hb⟩ := bind_ok_iff.mp hb
  have hdiv : b.div = (searchLinear newspd).divisor := by
    rw [← Except.ok.inj hb]
    exact splitSequence_div _ _
  rw [hdiv]
  exact ⟨rfl, rfl, rfl, rfl, rfl⟩

/-- The lines after the last part of `mx_set_baud`. -/
theorem finishBaud_lines (p : Port) (newspd quot : Int) :
    test (finishBaud p newspd quot).uart.mcr uartMcrDtr = decide (quot ≠ 0) ∧
      test (finishBaud p newspd quot).uart.mcr uartMcrRts = test p.mcr uartMcrRts := by
  by_cases hq : quot = 0
  · rw [finishBaud, if_pos hq]
    refine ⟨?_, test_clear_of_disjoint (by decide)⟩
    simp only [Port.setMcr, test_clear_self, hq]
    rfl
  · have hon : test (p.mcr ||| uartMcrDtr) uartMcrDtr = decide (quot ≠ 0) := by
      rw [test_or_self (by decide)]
      simp [hq]
    have hrts : test (p.mcr ||| uartMcrDtr) uartMcrRts = test p.mcr uartMcrRts :=
      test_or_of_disjoint (by decide)
    rw [finishBaud, if_neg hq]
    by_cases hstd : newspd ∈ mxvarBaudTable
    · simp only [if_pos hstd]
      exact ⟨hon, hrts⟩
    · simp only [if_neg hstd]
      exact ⟨hon, hrts⟩

/-- The other registers after it: a standard rate that is not 0 is latched. -/
theorem finishBaud_registers (p : Port) (newspd quot : Int) :
    (finishBaud p newspd quot).uart.lcr = p.uart.lcr ∧
    (finishBaud p newspd quot).uart.sfr = p.uart.sfr ∧
    (finishBaud p newspd quot).uart.fcr = p.uart.fcr ∧
    (quot ≠ 0 ∧ newspd ∈ mxvarBaudTable →
      (finishBaud p newspd quot).uart.dll = BitVec.ofInt 8 quot ∧
      (finishBaud p newspd quot).uart.dlm = BitVec.ofInt 8 (quot / 256)) ∧
    (¬ (quot ≠ 0 ∧ newspd ∈ mxvarBaudTable) →
      (finishBaud p newspd quot).uart.dll = p.uart.dll ∧
      (finishBaud p newspd quot).uart.dlm = p.uart.dlm) := by
  by_cases hq : quot = 0
  · rw [finishBaud, if_pos hq]
    exact ⟨rfl, rfl, rfl, fun h => absurd hq h.1, fun _ => ⟨rfl, rfl⟩⟩
  · rw [finishBaud, if_neg hq]
    by_cases hstd : newspd ∈ mxvarBaudTable
    · simp only [if_pos hstd]
      exact ⟨rfl, rfl, rfl, fun _ => ⟨rfl, rfl⟩, fun hno => absurd ⟨hq, hstd⟩ hno⟩
    · simp only [if_neg hstd]
      exact ⟨rfl, rfl, rfl, fun h => absurd h.2 hstd, fun _ => ⟨rfl, rfl⟩⟩

/-- The rate in `info->speed` stays there, and RTS in its shadow. -/
theorem finishBaud_shadow (p : Port) (newspd quot : Int) :
    (finishBaud p newspd quot).rate = p.rate ∧
      test (finishBaud p newspd quot).mcr uartMcrRts = test p.mcr uartMcrRts := by
  by_cases hq : quot = 0
  · rw [finishBaud, if_pos hq]
    exact ⟨rfl, test_clear_of_disjoint (by decide)⟩
  · have hrts : test (p.mcr ||| uartMcrDtr) uartMcrRts = test p.mcr uartMcrRts :=
      test_or_of_disjoint (by decide)
    rw [finishBaud, if_neg hq]
    by_cases hstd : newspd ∈ mxvarBaudTable
    · simp only [if_pos hstd]
      exact ⟨rfl, hrts⟩
    · simp only [if_neg hstd]
      exact ⟨rfl, hrts⟩

theorem baudRate_speed (r : RateInfo) (timeout : Int) :
    (baudRate r r.speed timeout).speed = r.speed := by
  by_cases h : r.speed = 134
  · simp [baudRate, h]
  · simp [baudRate, h]

theorem mxSetBaud_written {HZ : Int} {p q : Port} (hp : RateReady p)
    (h : mxSetBaud HZ p p.rate.speed = .ok q) : RateWritten p q := by
  by_cases hmax : p.rate.speed > p.rate.maxCanSetBaudRate
  · obtain rfl := Except.ok.inj ((mxSetBaud_skips HZ (.inr (.inr hmax))).symm.trans h)
    exact ⟨rfl, rfl, rfl, fun _ => rfl, fun hle => absurd hmax (Int.not_lt.mpr hle),
      fun hle => absurd hmax (Int.not_lt.mpr hle),
      fun hlatched => absurd hmax (Int.not_lt.mpr hlatched.2), fun _ => ⟨rfl, rfl⟩,
      rfl, rfl, rfl, rfl⟩
  · have hle := Int.not_lt.mp hmax
    obtain ⟨u, quot, timeout, hu, hquot, -, rfl⟩ := mxSetBaud_values hp.tty hp.base hle h
    have hzero := baudQuot_eq_zero_iff hp.baudBase hle hp.maxRate hquot
    obtain ⟨hline, hrts⟩ := finishBaud_lines
      { p with uart := u, rate := baudRate p.rate p.rate.speed timeout } p.rate.speed quot
    obtain ⟨hlcr, hsfr, hfcr, hon, hoff⟩ := finishBaud_registers
      { p with uart := u, rate := baudRate p.rate p.rate.speed timeout } p.rate.speed quot
    obtain ⟨hrate, hshadow⟩ := finishBaud_shadow
      { p with uart := u, rate := baudRate p.rate p.rate.speed timeout } p.rate.speed quot
    have hspeed := (congrArg RateInfo.speed hrate).trans (baudRate_speed p.rate timeout)
    have hbase := congrArg RateInfo.baudBase hrate
    have hlimit := congrArg RateInfo.maxCanSetBaudRate hrate
    have hpos : decide (quot ≠ 0) = decide (0 < p.rate.speed) :=
      decide_eq_decide.mpr ⟨fun hq => by omega, fun hpos => by omega⟩
    have hdtr := hline.trans hpos
    by_cases hstd : p.rate.speed ∈ mxvarBaudTable
    · rw [if_neg (not_not.mpr hstd)] at hu
      cases hu
      refine ⟨hlcr, hsfr, hfcr, fun hgt => absurd hgt hmax, fun _ => hdtr,
        fun _ => hrts, ?_, ?_,
        hspeed, hbase, hlimit, hshadow⟩
      · intro hlatched
        have hne := baudQuot_ne_zero hp.baudBase hstd hlatched.1 hquot
        rw [← baudQuot_eq_speedDivisor hstd hlatched.1 hquot]
        exact hon ⟨hne, hstd⟩
      · intro hno
        refine hoff fun h => hno ⟨fun h0 => ?_, hle⟩
        exact h.1 (hzero.mpr (by omega))
    · rw [if_pos hstd] at hu
      obtain ⟨hulcr, husfr, hufcr, hdll, hdlm⟩ := setLinearBaud_registers hu
      obtain ⟨hsame, hsame'⟩ := hoff fun h => hstd h.2
      refine ⟨hlcr.trans hulcr, hsfr.trans husfr, hfcr.trans hufcr, fun hgt => absurd hgt hmax,
        fun _ => hdtr, fun _ => hrts, ?_, ?_,
        hspeed, hbase, hlimit, hshadow⟩
      · intro _
        rw [speedDivisor, if_pos hstd]
        exact ⟨hsame.trans hdll, hsame'.trans hdlm⟩
      · intro hno
        exact absurd ⟨fun h0 => hstd (h0 ▸ mxvarBaudTable_of_zero), hle⟩ hno

/-! ## A break and its end -/

/-- `q` is `p` again, as far as the line can tell. -/
structure BreakRestored (p q : Port) : Prop where
  lcr : q.uart.lcr = p.uart.lcr
  sfr : q.uart.sfr = p.uart.sfr
  fifo : test q.uart.fcr uartFcrEnableFifo = test p.uart.fcr uartFcrEnableFifo
  dtr : test q.uart.mcr uartMcrDtr = test p.uart.mcr uartMcrDtr
  rts : test q.uart.mcr uartMcrRts = test p.uart.mcr uartMcrRts
  dll : q.uart.dll = p.uart.dll
  dlm : q.uart.dlm = p.uart.dlm

/-- What has to stand before the break. A rate above the maximum is not asked for
again, and neither it nor B0 latches a divisor. -/
structure BreakHarmless (p : Port) : Prop where
  noBreak : test p.uart.lcr uartLcrSbc = false
  notForced : test p.uart.sfr moxaSfrForceTx = false
  fifoOff : test p.uart.fcr uartFcrEnableFifo = false
  dtr : p.rate.speed ≤ p.rate.maxCanSetBaudRate →
    test p.uart.mcr uartMcrDtr = decide (0 < p.rate.speed)
  rts : p.rate.speed ≤ p.rate.maxCanSetBaudRate →
    test p.uart.mcr uartMcrRts = test p.mcr uartMcrRts
  latched : Latched p.rate → p.uart.dll = BitVec.ofInt 8 (speedDivisor p.rate) ∧
    p.uart.dlm = BitVec.ofInt 8 (speedDivisor p.rate / 256)
  unlatched : ¬ Latched p.rate → p.uart.dll = 0 ∧ p.uart.dlm = 0

section Break

variable {HZ : Int} {p q : Port}

theorem breakOff_ready (hp : RateReady p) : RateReady (breakOff (breakOn p)) :=
  hp.congr rfl rfl rfl rfl

/-- What a break and its end come to. -/
theorem softwareBreak_written (hp : RateReady p) (h : softwareBreak HZ p = .ok q) :
    RateWritten (breakOff (breakOn p)) q :=
  mxSetBaud_written (breakOff_ready hp) h

theorem softwareBreak_lcr (hp : RateReady p) (h : softwareBreak HZ p = .ok q) :
    q.uart.lcr = p.uart.lcr &&& ~~~uartLcrSbc :=
  (softwareBreak_written hp h).lcr.trans (or_clear _ _)

theorem softwareBreak_sfr (hp : RateReady p) (h : softwareBreak HZ p = .ok q) :
    q.uart.sfr = p.uart.sfr &&& ~~~moxaSfrForceTx :=
  (softwareBreak_written hp h).sfr.trans (or_clear _ _)

/-- The FIFOs are off afterwards. -/
theorem softwareBreak_fifo (hp : RateReady p) (h : softwareBreak HZ p = .ok q) :
    test q.uart.fcr uartFcrEnableFifo = false := by
  rw [(softwareBreak_written hp h).fcr]
  show test uartFcrClearXmit uartFcrEnableFifo = false
  decide

/-- DTR follows the rate, and RTS its shadow, unless the rate is above the
maximum. -/
theorem softwareBreak_lines (hp : RateReady p) (h : softwareBreak HZ p = .ok q)
    (hmax : p.rate.speed ≤ p.rate.maxCanSetBaudRate) :
    test q.uart.mcr uartMcrDtr = decide (0 < p.rate.speed) ∧
      test q.uart.mcr uartMcrRts = test p.mcr uartMcrRts :=
  ⟨(softwareBreak_written hp h).dtr hmax, (softwareBreak_written hp h).rts hmax⟩

theorem softwareBreak_restored_iff (hp : RateReady p) (h : softwareBreak HZ p = .ok q) :
    BreakRestored p q ↔ BreakHarmless p := by
  have hw := softwareBreak_written hp h
  have hlcr := softwareBreak_lcr hp h
  have hsfr := softwareBreak_sfr hp h
  have hfifo := softwareBreak_fifo hp h
  constructor
  · intro hr
    constructor
    · exact clear_eq_self_iff.mp (hlcr.symm.trans hr.lcr)
    · exact clear_eq_self_iff.mp (hsfr.symm.trans hr.sfr)
    · exact hr.fifo.symm.trans hfifo
    · intro hmax
      exact hr.dtr.symm.trans (softwareBreak_lines hp h hmax).1
    · intro hmax
      exact hr.rts.symm.trans (softwareBreak_lines hp h hmax).2
    · intro hlatched
      obtain ⟨hdll, hdlm⟩ := hw.latched hlatched
      exact ⟨hr.dll.symm.trans hdll, hr.dlm.symm.trans hdlm⟩
    · intro hno
      obtain ⟨hdll, hdlm⟩ := hw.unlatched hno
      exact ⟨hr.dll.symm.trans hdll, hr.dlm.symm.trans hdlm⟩
  · intro hb
    have hlines : test q.uart.mcr uartMcrDtr = test p.uart.mcr uartMcrDtr ∧
        test q.uart.mcr uartMcrRts = test p.uart.mcr uartMcrRts := by
      by_cases hmax : p.rate.speed ≤ p.rate.maxCanSetBaudRate
      · obtain ⟨hdtr, hrts⟩ := softwareBreak_lines hp h hmax
        exact ⟨hdtr.trans (hb.dtr hmax).symm, hrts.trans (hb.rts hmax).symm⟩
      · have hmcr : q.uart.mcr = p.uart.mcr := hw.skipped (Int.not_le.mp hmax)
        rw [hmcr]
        exact ⟨rfl, rfl⟩
    have hlatch : q.uart.dll = p.uart.dll ∧ q.uart.dlm = p.uart.dlm := by
      by_cases hlatched : Latched p.rate
      · obtain ⟨hdll, hdlm⟩ := hw.latched hlatched
        obtain ⟨hdll', hdlm'⟩ := hb.latched hlatched
        exact ⟨hdll.trans hdll'.symm, hdlm.trans hdlm'.symm⟩
      · obtain ⟨hdll, hdlm⟩ := hw.unlatched hlatched
        obtain ⟨hdll', hdlm'⟩ := hb.unlatched hlatched
        exact ⟨hdll.trans hdll'.symm, hdlm.trans hdlm'.symm⟩
    exact ⟨hlcr.trans (clear_eq_self_iff.mpr hb.noBreak),
      hsfr.trans (clear_eq_self_iff.mpr hb.notForced), hfifo.trans hb.fifoOff.symm,
      hlines.1, hlines.2, hlatch.1, hlatch.2⟩

/-- After a break the port is as a break leaves it: another one changes nothing. -/
theorem softwareBreak_again (hp : RateReady p) (h : softwareBreak HZ p = .ok q) :
    BreakHarmless q := by
  have hw := softwareBreak_written hp h
  have hlatched : Latched q.rate ↔ Latched p.rate := by
    rw [Latched, Latched, hw.speed, hw.maxRate]
    rfl
  have hdivisor : speedDivisor q.rate = speedDivisor p.rate := by
    rw [speedDivisor, speedDivisor, hw.speed, hw.baudBase]
    rfl
  constructor
  · rw [softwareBreak_lcr hp h]
    exact test_clear_self _ _
  · rw [softwareBreak_sfr hp h]
    exact test_clear_self _ _
  · exact softwareBreak_fifo hp h
  · intro hmax
    rw [hw.speed, hw.maxRate] at hmax
    rw [hw.speed]
    exact hw.dtr hmax
  · intro hmax
    rw [hw.speed, hw.maxRate] at hmax
    exact (hw.rts hmax).trans hw.shadow.symm
  · intro hq
    rw [hdivisor]
    exact hw.latched (hlatched.mp hq)
  · intro hq
    exact hw.unlatched fun hp' => hq (hlatched.mpr hp')

end Break

/-- A break goes through with any rate that is not negative. -/
theorem softwareBreak_completes (HZ : Int) {p : Port} (hp : RateReady p)
    (h0 : 0 ≤ p.rate.speed) : ∃ q, softwareBreak HZ p = .ok q :=
  mxSetBaud_completes HZ (breakOff_ready hp) rfl h0

/-- The FIFOs are on after every change of speed, so that the next break does not
restore the port. -/
theorem mxChangeSpeed_not_harmless {HZ : Int} {p q : Port} (hp : RateReady p)
    (h : mxChangeSpeed HZ p = .ok q) : ¬ BreakHarmless q := by
  intro hb
  have hoff := hb.fifoOff
  rw [mxChangeSpeed_fcr hp.tty hp.base h] at hoff
  exact absurd hoff (by decide)

/-- **A break** restores the port exactly when the FIFOs were off before, no
break was on, and the registers stood as the rate in `info->speed` has them. -/
theorem softwareBreak_restores_iff (HZ : Int) {p : Port} (hp : RateReady p) :
    (0 ≤ p.rate.speed → ∃ q, softwareBreak HZ p = .ok q) ∧
      ∀ q, softwareBreak HZ p = .ok q → (BreakRestored p q ↔ BreakHarmless p) :=
  ⟨softwareBreak_completes HZ hp, fun _ h => softwareBreak_restored_iff hp h⟩

theorem softwareBreak_restores_iff_cp102 :
    (0 ≤ (cp102Started (cp102Termios 0)).rate.speed →
      ∃ q, softwareBreak 100 (cp102Started (cp102Termios 0)) = .ok q) ∧
    ∀ q, softwareBreak 100 (cp102Started (cp102Termios 0)) = .ok q →
      (BreakRestored (cp102Started (cp102Termios 0)) q ↔
        BreakHarmless (cp102Started (cp102Termios 0))) :=
  softwareBreak_restores_iff 100 cp102_rateOpen.ready

/-- A break at 9600 baud, set by `mx_change_speed`, leaves the FIFOs off. -/
theorem softwareBreak_loses_fifo :
    ∃ p q, mxChangeSpeed 100 (cp102Started (cp102Termios 0)) = .ok p ∧ RateReady p ∧
      p.rate.speed = 9600 ∧ softwareBreak 100 p = .ok q ∧ ¬ BreakRestored p q := by
  obtain ⟨p, hp⟩ : ∃ p, mxChangeSpeed 100 (cp102Started (cp102Termios 0)) = .ok p := ⟨_, rfl⟩
  have hready := mxChangeSpeed_ready cp102_rateOpen.ready hp
  have hspeed : p.rate.speed = 9600 := by
    cases hp
    rfl
  obtain ⟨q, hq⟩ := softwareBreak_completes 100 hready (by omega)
  exact ⟨p, q, hp, hready, hspeed, hq, fun hr =>
    mxChangeSpeed_not_harmless cp102_rateOpen.ready hp ((softwareBreak_restored_iff hready hq).mp hr)⟩

/-! ## `mxupcie_rs_break` -/

/-- `mxupcie_rs_break`, with `info->UIR` the interface: the break bit alone where
the transceiver passes it on. -/
def mxupcieRsBreak (HZ : Int) (uir : Byte) (p : Port) (breakState : Int) : Except Fault Port :=
  let software := uir = Board.moxaUirRs4854w ∨ uir = Board.moxaUirRs4852w
  let hardware := uir = Board.moxaUirRs232 ∨ uir = Board.moxaUirRs422
  if breakState = -1 then
    if software then mxSoftwareBreakSignal HZ p mxBreakOn
    else if hardware then .ok { p with uart := { p.uart with lcr := p.uart.lcr ||| uartLcrSbc } }
    else .ok p
  else
    if software then mxSoftwareBreakSignal HZ p mxBreakOff
    else if hardware then
      .ok { p with uart := { p.uart with lcr := p.uart.lcr &&& ~~~uartLcrSbc } }
    else .ok p

/-- With RS-485 `mxupcie_rs_break` is the break in software. -/
theorem mxupcieRsBreak_software (HZ : Int) {uir : Byte}
    (h : uir = Board.moxaUirRs4854w ∨ uir = Board.moxaUirRs4852w) (p : Port) :
    (mxupcieRsBreak HZ uir p (-1) >>= fun q => mxupcieRsBreak HZ uir q 0) = softwareBreak HZ p := by
  simp only [mxupcieRsBreak, if_pos h]
  rfl

/-- With RS-232 and RS-422 the break bit comes and goes alone. -/
theorem mxupcieRsBreak_hardware (HZ : Int) {uir : Byte}
    (h : uir = Board.moxaUirRs232 ∨ uir = Board.moxaUirRs422) {p : Port}
    (hlcr : test p.uart.lcr uartLcrSbc = false) :
    (mxupcieRsBreak HZ uir p (-1) >>= fun q => mxupcieRsBreak HZ uir q 0) = .ok p := by
  have hno : ¬ (uir = Board.moxaUirRs4854w ∨ uir = Board.moxaUirRs4852w) := by
    rcases h with rfl | rfl
    · decide
    · decide
  have hback : (p.uart.lcr ||| uartLcrSbc) &&& ~~~uartLcrSbc = p.uart.lcr := by
    rw [or_clear, clear_eq_self_iff.mpr hlcr]
  simp only [mxupcieRsBreak, if_neg hno, if_pos h]
  show Except.ok { p with uart := { p.uart with lcr := (p.uart.lcr ||| uartLcrSbc) &&& ~~~uartLcrSbc } }
    = Except.ok p
  rw [hback]

end MoxaDrivers.Mxupcie

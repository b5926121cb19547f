import MoxaDrivers.Mxupcie.Speed
import MoxaDrivers.Mxupcie.Startup

/-!
# Line rate and the history of rates

Four things determine the line rate: the divisor latch, the number of samples
(`MOXA_PUART_SCR`), the prescaler (`MOXA_PUART_CPR`) and the bit of `UART_MCR`
that enables it. `mx_set_baud` programs a standard rate and any other rate in
different ways, and neither way writes all four:

* a standard rate leaves the number of samples of the last rate that was not,
  and rate 0 leaves everything but the enable bit;
* another rate raises the enable bit in the register only, and the write of
  `info->MCR` that follows takes it away again.
-/

namespace MoxaDrivers.Mxupcie

open MoxaDrivers.Bits MoxaDrivers.Machine MoxaDrivers.Mxser

/-- The registers that determine the line rate. -/
structure RateRegs where
  dll : Byte
  dlm : Byte
  scr : Byte
  cpr : Byte
  prescale : Bool
  deriving DecidableEq, Repr

def Port.rateRegs (p : Port) : RateRegs :=
  ⟨p.uart.dll, p.uart.dlm, p.uart.scr, p.uart.cpr, test p.uart.mcr uartMcrPrescale⟩

/-- A request for a rate, as every caller makes it: the rate is in `info->speed`
when `mx_set_baud` is called. -/
def rateStep (HZ : Int) (p : Port) (newspd : Int) : Except Fault Port :=
  mxSetBaud HZ (p.setSpeed newspd) newspd

/-- An open port, of any board. -/
structure RateOpen (p : Port) : Prop where
  tty : p.infoTty = true
  base : p.base ≠ 0
  baudBase : p.rate.baudBase = 921600
  maxRate : p.rate.maxCanSetBaudRate = 921600
  /-- Nothing ever puts the prescaler bit into `info->MCR`. -/
  shadow : test p.mcr uartMcrPrescale = false

theorem RateOpen.ready {p : Port} (h : RateOpen p) : RateReady p :=
  ⟨h.tty, h.base, h.baudBase, h.maxRate⟩

/-- It is what `mx_startup` makes of a port with a tty. -/
theorem Started.rateOpen {p : Port} (hp : Started p) (htty : p.infoTty = true)
    (hbase : p.rate.baudBase = 921600) (hmax : p.rate.maxCanSetBaudRate = 921600) :
    RateOpen p := by
  obtain ⟨p₀, page, haddr, rfl⟩ := hp.eq
  refine ⟨htty, haddr, hbase, hmax, ?_⟩
  show test (uartMcrDtr ||| uartMcrRts) uartMcrPrescale = false
  decide

/-! ## One request -/

/-- DTR comes and goes beside the prescaler bit. -/
theorem finishBaud_prescale {p : Port} (h : test p.mcr uartMcrPrescale = false)
    (newspd quot : Int) :
    test (finishBaud p newspd quot).mcr uartMcrPrescale = false ∧
      test (finishBaud p newspd quot).uart.mcr uartMcrPrescale = false := by
  simp only [finishBaud]
  split
  · have hoff : test (p.mcr &&& ~~~uartMcrDtr) uartMcrPrescale = false := by
      rw [test_clear_of_disjoint (by decide), h]
    exact ⟨hoff, hoff⟩
  · have hon : test (p.mcr ||| uartMcrDtr) uartMcrPrescale = false := by
      rw [test_or_of_disjoint (by decide), h]
    split
    · exact ⟨hon, hon⟩
    · exact ⟨hon, hon⟩

theorem baudQuot_ne_zero {R : RateInfo} (hbase : R.baudBase = 921600) {newspd quot : Int}
    (hstd : newspd ∈ mxvarBaudTable) (h0 : newspd ≠ 0)
    (h : baudQuot R newspd = .ok quot) : quot ≠ 0 := by
  simp only [baudQuot, not_not.mpr hstd, if_false] at h
  by_cases h134 : newspd = 134
  · rw [if_pos h134] at h
    cases h
    rw [hbase]
    decide
  · rw [if_neg h134, if_pos h0, cdiv_of_ne _ h0] at h
    cases h
    split
    · decide
    · assumption

theorem baudQuot_zero (R : RateInfo) : baudQuot R 0 = .ok 0 := rfl

/-- For a standard rate the quotient does not depend on `info->speed`. -/
theorem baudQuot_congr {R R' : RateInfo} (hbase : R.baudBase = R'.baudBase) {newspd : Int}
    (hstd : newspd ∈ mxvarBaudTable) : baudQuot R newspd = baudQuot R' newspd := by
  simp [baudQuot, hstd, hbase]

section Request

variable {HZ : Int} {p q : Port} {newspd : Int}

/-- What an accepted request comes to. -/
theorem rateStep_ok (h : RateOpen p) (hr : newspd ≤ 921600) (hq : rateStep HZ p newspd = .ok q) :
    ∃ uart quot timeout,
      (if newspd ∉ mxvarBaudTable then setLinearBaud p.uart newspd else .ok p.uart) = .ok uart ∧
      baudQuot (p.setSpeed newspd).rate newspd = .ok quot ∧
      q = finishBaud { p with
        uart := uart
        rate := baudRate (p.setSpeed newspd).rate newspd timeout } newspd quot := by
  have hmax : (p.setSpeed newspd).rate.maxCanSetBaudRate = 921600 := h.maxRate
  rcases mxSetBaud_cases hq with ⟨-, hno | hno | hno⟩ | ⟨-, uart, quot, timeout, hu, hquot, heq⟩
  · have htty : p.infoTty = false := hno
    simp [h.tty] at htty
  · exact absurd hno h.base
  · omega
  · exact ⟨uart, quot, timeout, hu, hquot, heq⟩

theorem rateOpen_step (h : RateOpen p) (hr : newspd ≤ 921600)
    (hq : rateStep HZ p newspd = .ok q) : RateOpen q := by
  obtain ⟨uart, quot, timeout, -, -, rfl⟩ := rateStep_ok h hr hq
  have hshadow := (finishBaud_prescale (p := { p with
    uart := uart, rate := baudRate (p.setSpeed newspd).rate newspd timeout })
    h.shadow newspd quot).1
  obtain ⟨mcr, u, hfinish, -⟩ := finishBaud_frame
    { p with uart := uart, rate := baudRate (p.setSpeed newspd).rate newspd timeout } newspd quot
  refine ⟨?_, ?_, ?_, ?_, hshadow⟩
  · rw [hfinish]
    exact h.tty
  · rw [hfinish]
    exact h.base
  · rw [hfinish]
    exact h.baudBase
  · rw [hfinish]
    exact h.maxRate

/-- After any request the prescaler is off. -/
theorem rateStep_prescale (h : RateOpen p) (hr : newspd ≤ 921600)
    (hq : rateStep HZ p newspd = .ok q) : test q.uart.mcr uartMcrPrescale = false := by
  obtain ⟨uart, quot, timeout, -, -, rfl⟩ := rateStep_ok h hr hq
  exact (finishBaud_prescale (p := { p with
    uart := uart, rate := baudRate (p.setSpeed newspd).rate newspd timeout })
    h.shadow newspd quot).2

/-- A request for a rate that is not negative goes through. -/
theorem rateStep_completes (HZ : Int) (h : RateOpen p) (h0 : 0 ≤ newspd) :
    ∃ q, rateStep HZ p newspd = .ok q :=
  mxSetBaud_completes HZ (h.ready.congr rfl rfl rfl rfl) rfl h0

/-- A standard rate other than 0: the number of samples stays. -/
theorem rateStep_standard (h : RateOpen p) (hstd : newspd ∈ mxvarBaudTable) (h0 : newspd ≠ 0)
    (hr : newspd ≤ 921600) (hq : rateStep HZ p newspd = .ok q) :
    ∃ quot, baudQuot (p.setSpeed newspd).rate newspd = .ok quot ∧
      q.rateRegs = ⟨BitVec.ofInt 8 quot, BitVec.ofInt 8 (quot / 256), p.uart.scr, 0x08, false⟩ := by
  have hoff := rateStep_prescale h hr hq
  obtain ⟨uart, quot, timeout, huart, hquot, rfl⟩ := rateStep_ok h hr hq
  rw [if_neg (not_not.mpr hstd)] at huart
  cases huart
  have hbase : (p.setSpeed newspd).rate.baudBase = 921600 := h.baudBase
  have hne : quot ≠ 0 := baudQuot_ne_zero hbase hstd h0 hquot
  refine ⟨quot, hquot, ?_⟩
  rw [Port.rateRegs, hoff]
  simp [finishBaud, hne, hstd, latchStandard, Uart.latch, Port.setMcr]

/-- Any other rate: what the search found, and the prescaler is off. -/
theorem rateStep_linear (h : RateOpen p) (hlin : newspd ∉ mxvarBaudTable) (hr : newspd ≤ 921600)
    (hq : rateStep HZ p newspd = .ok q) :
    ∃ b, linearBaud newspd = .ok b ∧ q.rateRegs
      = ⟨BitVec.ofInt 8 b.div, BitVec.ofInt 8 (b.div / 256), b.scr, b.cpr, false⟩ := by
  have hoff := rateStep_prescale h hr hq
  obtain ⟨uart, quot, timeout, huart, -, rfl⟩ := rateStep_ok h hr hq
  rw [if_pos hlin] at huart
  obtain ⟨b, hb, rfl⟩ := setLinearBaud_ok huart
  refine ⟨b, hb, ?_⟩
  rw [Port.rateRegs, hoff]
  by_cases hzero : quot = 0
  · simp [finishBaud, hzero, Port.setMcr]
  · simp [finishBaud, hzero, hlin, Port.setMcr]

/-- Rate 0: everything stays but the enable bit. -/
theorem rateStep_hangup (h : RateOpen p) (hq : rateStep HZ p 0 = .ok q) :
    q.rateRegs = { p.rateRegs with prescale := false } := by
  have hoff := rateStep_prescale h (by decide) hq
  obtain ⟨uart, quot, timeout, huart, hquot, rfl⟩ := rateStep_ok h (by decide) hq
  rw [baudQuot_zero] at hquot
  cases hquot
  cases huart
  rw [Port.rateRegs, hoff]
  rfl

end Request

/-! ## Two histories -/

/-- The next rate makes the registers of two ports equal: it is a standard rate,
and the ports agree in what it leaves alone. -/
structure SameLeft (s s' : Port) (newspd : Int) : Prop where
  standard : newspd ∈ mxvarBaudTable
  scr : s.uart.scr = s'.uart.scr
  hangup : newspd = 0 →
    s.uart.dll = s'.uart.dll ∧ s.uart.dlm = s'.uart.dlm ∧ s.uart.cpr = s'.uart.cpr

/-- The registers follow from the last rate `newspd`: they are equal after both
requests, and after a rate outside the table the prescaler is on. -/
structure RateDecided (t t' : Port) (newspd : Int) : Prop where
  same : t.rateRegs = t'.rateRegs
  prescaled : newspd ∉ mxvarBaudTable →
    test t.uart.mcr uartMcrPrescale = true ∧ test t'.uart.mcr uartMcrPrescale = true

/-- The registers after a last request on two open ports. -/
theorem rateDecided_iff {HZ : Int} {s s' t t' : Port} {newspd : Int} (hs : RateOpen s)
    (hs' : RateOpen s') (hr : newspd ≤ 921600) (ht : rateStep HZ s newspd = .ok t)
    (ht' : rateStep HZ s' newspd = .ok t') :
    RateDecided t t' newspd ↔ SameLeft s s' newspd := by
  by_cases hstd : newspd ∈ mxvarBaudTable
  · by_cases h0 : newspd = 0
    · -- the registers are those before, and the prescaler is off in both
      subst h0
      have hregs := rateStep_hangup hs ht
      have hregs' := rateStep_hangup hs' ht'
      constructor
      · intro h
        have hsame := h.same
        rw [hregs, hregs'] at hsame
        simp only [Port.rateRegs, RateRegs.mk.injEq] at hsame
        obtain ⟨hdll, hdlm, hscr, hcpr, -⟩ := hsame
        exact ⟨hstd, hscr, fun _ => ⟨hdll, hdlm, hcpr⟩⟩
      · intro h
        obtain ⟨hdll, hdlm, hcpr⟩ := h.hangup rfl
        refine ⟨?_, fun hno => absurd hstd hno⟩
        rw [hregs, hregs']
        simp [Port.rateRegs, hdll, hdlm, hcpr, h.scr]
    · -- only the number of samples comes from before
      obtain ⟨quot, hquot, hregs⟩ := rateStep_standard hs hstd h0 hr ht
      obtain ⟨quot', hquot', hregs'⟩ := rateStep_standard hs' hstd h0 hr ht'
      have hbase : (s.setSpeed newspd).rate.baudBase = (s'.setSpeed newspd).rate.baudBase :=
        hs.baudBase.trans hs'.baudBase.symm
      rw [baudQuot_congr hbase hstd, hquot'] at hquot
      cases hquot
      constructor
      · intro h
        have hsame := h.same
        rw [hregs, hregs'] at hsame
        simp only [RateRegs.mk.injEq] at hsame
        exact ⟨hstd, hsame.2.2.1, fun hzero => absurd hzero h0⟩
      · intro h
        exact ⟨by rw [hregs, hregs', h.scr], fun hno => absurd hstd hno⟩
  · constructor
    · intro h
      have hon := (h.prescaled hstd).1
      rw [rateStep_prescale hs hr ht] at hon
      cases hon
    · intro h
      exact absurd h.standard hstd

/-- A history of accepted rates leaves the port open. -/
theorem rateOpen_run {HZ : Int} {p s : Port} {rates : List Int} (hp : RateOpen p)
    (hrates : ∀ r ∈ rates, r ≤ 921600) (hs : run (rateStep HZ) p rates = .ok s) : RateOpen s := by
  induction rates generalizing p with
  | nil =>
      cases hs
      exact hp
  | cons r rates ih =>
      obtain ⟨q, hq, hrest⟩ := run_cons_ok.mp hs
      exact ih (rateOpen_step hp (hrates r (by simp)) hq) (fun r' hr' => hrates r' (by simp [hr']))
        hrest

/-- The number of samples that a history of rates leaves. -/
def samplesLeft (scr : Byte) : List Int → Byte
  | [] => scr
  | r :: rates =>
      samplesLeft (if r ∈ mxvarBaudTable then scr
        else match linearBaud r with
          | .ok b => b.scr
          | .error _ => scr) rates

/-- It is that of the last rate outside the table, however long ago it was. -/
theorem samples_run {HZ : Int} {p s : Port} {rates : List Int} (hp : RateOpen p)
    (hrates : ∀ r ∈ rates, r ≤ 921600) (hs : run (rateStep HZ) p rates = .ok s) :
    s.uart.scr = samplesLeft p.uart.scr rates := by
  induction rates generalizing p with
  | nil =>
      cases hs
      rfl
  | cons r rates ih =>
      obtain ⟨q, hq, hrest⟩ := run_cons_ok.mp hs
      have hr : r ≤ 921600 := hrates r (by simp)
      have hstep : q.rateRegs.scr = samplesLeft p.uart.scr [r] := by
        by_cases hstd : r ∈ mxvarBaudTable
        · by_cases h0 : r = 0
          · subst h0
            rw [rateStep_hangup hp hq]
            simp [samplesLeft, hstd, Port.rateRegs]
          · obtain ⟨quot, -, hregs⟩ := rateStep_standard hp hstd h0 hr hq
            rw [hregs]
            simp [samplesLeft, hstd]
        · obtain ⟨b, hb, hregs⟩ := rateStep_linear hp hstd hr hq
          rw [hregs]
          simp [samplesLeft, hstd, hb]
      have hrest' := ih (rateOpen_step hp hr hq) (fun r' hr' => hrates r' (by simp [hr'])) hrest
      exact hrest'.trans (congrArg (samplesLeft · rates) hstep)

/-- **When the line rate follows from the last request.** Two histories of
accepted rates, on open ports, that end in the same rate leave the same rate
registers, with the prescaler on after a rate outside the table, if and only if
that rate is in the table and the number of samples, for rate 0 the divisor and
the prescaler as well, was the same before it. -/
theorem line_rate_follows_last_iff {HZ : Int} {p p' s s' t t' : Port} {rates rates' : List Int}
    {newspd : Int} (hp : RateOpen p) (hp' : RateOpen p')
    (hrates : ∀ r ∈ rates, r ≤ 921600) (hrates' : ∀ r ∈ rates', r ≤ 921600)
    (hr : newspd ≤ 921600)
    (hs : run (rateStep HZ) p rates = .ok s) (hs' : run (rateStep HZ) p' rates' = .ok s')
    (ht : rateStep HZ s newspd = .ok t) (ht' : rateStep HZ s' newspd = .ok t') :
    RateDecided t t' newspd ↔ SameLeft s s' newspd :=
  rateDecided_iff (rateOpen_run hp hrates hs) (rateOpen_run hp' hrates' hs') hr ht ht'

theorem cp102_rateOpen : RateOpen (cp102Started (cp102Termios 0)) :=
  (cp102Started_started (cp102Termios 0)).rateOpen rfl rfl rfl

/-- 1200 baud after 9600, and after 19200 and 300. -/
theorem line_rate_follows_last_iff_cp102 :
    ∃ s s' t t', run (rateStep 100) (cp102Started (cp102Termios 0)) [9600] = .ok s ∧
      run (rateStep 100) (cp102Started (cp102Termios 0)) [19200, 300] = .ok s' ∧
      rateStep 100 s 1200 = .ok t ∧ rateStep 100 s' 1200 = .ok t' ∧
      (RateDecided t t' 1200 ↔ SameLeft s s' 1200) := by
  have hrates : ∀ r ∈ [(9600 : Int)], r ≤ 921600 := by decide
  have hrates' : ∀ r ∈ [(19200 : Int), 300], r ≤ 921600 := by decide
  exact ⟨_, _, _, _, rfl, rfl, rfl, rfl,
    line_rate_follows_last_iff cp102_rateOpen cp102_rateOpen hrates hrates' (by decide)
      rfl rfl rfl rfl⟩

/-- At 7777 baud, a rate outside the table, the prescaler is off. -/
theorem linear_rate_loses_prescaler :
    ∃ t, RateOpen (cp102Started (cp102Termios 0)) ∧ 7777 ∉ mxvarBaudTable ∧
      run (rateStep 100) (cp102Started (cp102Termios 0)) [7777] = .ok t ∧
      test t.uart.mcr uartMcrPrescale = false := by
  have hrate : (0 : Int) ≤ 7777 ∧ (7777 : Int) ≤ 921600 := by decide
  obtain ⟨t, ht⟩ := rateStep_completes 100 cp102_rateOpen hrate.1
  exact ⟨t, cp102_rateOpen, by decide, run_single_ok.mpr ht,
    rateStep_prescale cp102_rateOpen (by decide) ht⟩

end MoxaDrivers.Mxupcie

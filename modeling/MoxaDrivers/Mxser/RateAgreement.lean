import MoxaDrivers.Lib.Machine
import MoxaDrivers.Mxser.Speed

/-!
# The reported rate and the latched rate

`info->speed` (which `SMARTIO_GET_SPECIAL_BAUD_RATE` reports), `info->realbaud`
(which `MOXA_ASPP_GETBAUD` reports) and the divisor latch are written in three
places. They agree as long as every rate that is put in `info->speed` gets
through `mxser_set_baud` to a 16-bit divisor, and `MOXA_ASPP_SETBAUD` asks for
no rate but the one that is set.
-/

namespace MoxaDrivers.Mxser

open MoxaDrivers.Bits MoxaDrivers.Machine

/-- The driver's quotient `baud_base / r`, with its two exceptions: 134 stands
for 134.5, and a rate of the table is never divided down to 0. -/
def driverQuot (info : RateInfo) (r : Int) : Int :=
  if r ∈ mxvarBaudTable then
    if r = 134 then (2 * info.baudBase).tdiv 269 else max 1 (info.baudBase.tdiv r)
  else info.baudBase.tdiv r

/-- The rate `r` is the one in the divisor latch and the one that
`MOXA_ASPP_GETBAUD` reports. -/
def Latched (p : Port) (r : Int) : Prop :=
  0 < p.uart.divisor ∧ (p.uart.divisor : Int) = driverQuot p.rate r ∧ p.rate.realbaud = r

/-- The rate that `SMARTIO_GET_SPECIAL_BAUD_RATE` reports, if not zero, is the
latched one. -/
def RateAgrees (p : Port) : Prop :=
  smartioGetSpecialBaudRate p ≠ 0 → Latched p (smartioGetSpecialBaudRate p)

/-- The board can be set to the rate, and its quotient fits the latch. -/
def CanLatch (p : Port) (r : Int) : Prop :=
  r ≤ p.rate.maxCanSetBaudRate ∧ 0 < driverQuot p.rate r ∧ driverQuot p.rate r < 2 ^ 16

instance (p : Port) (r : Int) : Decidable (Latched p r) :=
  inferInstanceAs (Decidable (_ ∧ _))

instance (p : Port) : Decidable (RateAgrees p) := inferInstanceAs (Decidable (_ → _))

instance (p : Port) (r : Int) : Decidable (CanLatch p r) :=
  inferInstanceAs (Decidable (_ ∧ _))

/-! ## `mxser_set_baud` -/

/-- What a quotient leaves in the latch. -/
theorem latchBaud_divisor (p : Port) (quot enum : Int) :
    ((latchBaud p quot enum).uart.divisor : Int) = quot % 2 ^ 16 := by
  simp only [latchBaud, setEnum, Uart.divisor, BitVec.toNat_ofInt]
  omega

/-- For the rate in `info->speed`, `mxser_set_baud` works with the driver's
quotient where that is positive, and with 0 where it is not. -/
theorem baudQuot_eq {p : Port} {r quot : Int} (hr : r ≠ 0)
    (hmax : r ≤ p.rate.maxCanSetBaudRate) (hspeed : p.rate.speed = r ∨ r = 134)
    (h : baudQuot p.rate r = .ok quot) :
    (quot = 0 ∧ driverQuot p.rate r ≤ 0) ∨ (0 < quot ∧ driverQuot p.rate r = quot) := by
  have hbase := p.rate.baudBase_pos
  by_cases htable : r ∈ mxvarBaudTable
  · rw [baudQuot_table p.rate htable] at h
    cases h
    simp only [driverQuot, if_pos htable]
    by_cases h134 : r = 134
    · rw [if_pos h134, if_pos h134]
      have hnonneg : 0 ≤ (2 * p.rate.baudBase).tdiv 269 := Int.tdiv_nonneg (by omega) (by omega)
      omega
    · rw [if_neg h134, if_neg h134, if_neg hr]
      omega
  · have hne : r ≠ 134 := by
      rintro rfl
      exact htable (by decide)
    have hs : p.rate.speed = r := hspeed.resolve_right hne
    rw [baudQuot_other htable (by omega), hs] at h
    cases h
    simp only [driverQuot, if_neg htable]
    -- a negative rate gives no positive quotient on either side
    by_cases hpos : 0 < r
    · have hnonneg : 0 ≤ p.rate.baudBase.tdiv r := Int.tdiv_nonneg (by omega) (by omega)
      rw [if_neg (by omega)]
      omega
    · have hneg : p.rate.baudBase.tdiv r ≤ 0 :=
        Int.tdiv_nonpos_of_nonneg_of_nonpos (by omega) (by omega)
      rw [if_pos (by omega)]
      exact .inl ⟨rfl, hneg⟩

theorem rateAgrees_iff_latched {p : Port} {r : Int} (hr : r ≠ 0) (h : p.rate.speed = r) :
    RateAgrees p ↔ Latched p r := by
  simp only [RateAgrees, smartioGetSpecialBaudRate]
  rw [h]
  exact ⟨fun ha => ha hr, fun hl _ => hl⟩

/-- Handed the rate in `info->speed`, or 134, which it puts there itself,
`mxser_set_baud` brings speed, report and latch together exactly if the rate
can be latched. -/
theorem setBaud_agrees_iff {HZ : Int} {p q : Port} {r : Int} (htty : p.infoTty = true)
    (hbase : p.base ≠ 0) (hr : r ≠ 0) (hmax : r ≤ p.rate.maxCanSetBaudRate)
    (hspeed : p.rate.speed = r ∨ r = 134) (h : mxserSetBaud HZ p r = .ok q) :
    RateAgrees q ↔ CanLatch p r := by
  rcases mxserSetBaud_ok h with ⟨hskip, -⟩ | ⟨-, -, -, quot, timeout, hquot, hcase⟩
  · rcases hskip with hno | hno | hno
    · rw [htty] at hno
      cases hno
    · exact absurd hno hbase
    · omega
  · have hnew : (baudRate p.rate r timeout).speed = r := by
      show (if r = 134 then 134 else p.rate.speed) = r
      split <;> omega
    have hsame : driverQuot (baudRate p.rate r timeout) r = driverQuot p.rate r := rfl
    rcases baudQuot_eq hr hmax hspeed hquot with ⟨hzero, hdriver⟩ | ⟨hpos, hdriver⟩
    · -- nothing is latched
      rcases hcase with ⟨-, rfl⟩ | ⟨hne, -⟩
      · rw [rateAgrees_iff_latched hr hnew]
        constructor
        · rintro ⟨hdivisor, heq, -⟩
          have heq' : ((hangupBaud { p with rate := baudRate p.rate r timeout }).uart.divisor : Int)
              = driverQuot p.rate r := heq
          omega
        · rintro ⟨-, hpos, -⟩
          omega
      · exact absurd hzero hne
    · rcases hcase with ⟨hzero, -⟩ | ⟨-, enum, rfl⟩
      · omega
      · have hlatch := latchBaud_divisor { p with rate := baudRate p.rate r timeout }
          quot enum
        rw [rateAgrees_iff_latched hr hnew]
        -- sixteen bits of the quotient are latched: all of it if it fits
        constructor
        · rintro ⟨hdivisor, heq, -⟩
          have heq' : ((latchBaud { p with rate := baudRate p.rate r timeout }
              quot enum).uart.divisor : Int) = driverQuot p.rate r := heq
          refine ⟨hmax, by omega, ?_⟩
          rw [hdriver] at heq' ⊢
          omega
        · rintro ⟨-, -, hfits⟩
          rw [hdriver] at hfits
          have hexact : ((latchBaud { p with rate := baudRate p.rate r timeout }
              quot enum).uart.divisor : Int) = quot := by
            rw [hlatch]
            omega
          refine ⟨by omega, ?_, rfl⟩
          rw [hexact]
          exact hdriver.symm

/-! ## The operations -/

inductive SpeedOp where
  | setTermios (new : Termios)
  | changeSpeed
  | smartioSet (speed : Int)
  | asppSetbaud (baud : Int)
  deriving DecidableEq, Repr

def speedStep (HZ : Int) (p : Port) : SpeedOp → Except Fault Port
  | .setTermios new =>
      mxserSetTermios HZ { p with tty := { p.tty with termios := new } } p.tty.termios
  | .changeSpeed => mxserChangeSpeed HZ p
  | .smartioSet speed => do
      let r ← smartioSetSpecialBaudRate HZ p speed
      return r.2
  | .asppSetbaud baud => do
      let r ← Mxser.asppSetbaud HZ p baud
      return r.2

/-- A rate is put in `info->speed` that is zero, or that can be latched. -/
def RateSets (p : Port) (r : Int) : Prop := r = 0 ∨ CanLatch p r

instance (p : Port) (r : Int) : Decidable (RateSets p r) := inferInstanceAs (Decidable (_ ∨ _))

/-- When `mxser_change_speed` leaves the rates in agreement: the rate it
resolves can be set, or `mxser_set_baud_method` keeps it from setting any and
they agree already. -/
def ChangeAgrees (p : Port) : Prop :=
  if p.rate.setBaudMethod = 0 then RateSets p (resolveBaud p p.tty.termios.cCflag)
  else RateAgrees p

/-- The rates are left in agreement: by a rate that can be set, or by one that
is refused or changes nothing. -/
def KeepsRate (p : Port) (op : SpeedOp) : Prop :=
  match op with
  | .setTermios new =>
      (new.cCflag ≠ p.tty.termios.cCflag ∨
        relevantIflag new.cIflag ≠ relevantIflag p.tty.termios.cIflag) →
      ChangeAgrees { p with tty := { p.tty with termios := new } }
  | .changeSpeed => ChangeAgrees p
  | .smartioSet speed =>
      speed ≤ 0 ∨ speed > p.rate.maxCanSetBaudRate ∨ ChangeAgrees (requested p speed)
  | .asppSetbaud baud =>
      baud > p.rate.maxCanSetBaudRate ∨ baud = p.rate.speed ∨
        (p.rate.speed = 0 ∧ baud ≠ 134) ∨ (baud = 134 ∧ CanLatch p 134)

/-- What a run keeps besides the agreement: the port is on its hardware, and no
rate above the maximum was ever reported. -/
structure RateKnown (p : Port) : Prop where
  online : OnLine p
  known : p.rate.realbaud ≤ p.rate.maxCanSetBaudRate

theorem RateKnown.setBaud {HZ : Int} {p q : Port} {r : Int} (h : RateKnown p)
    (hq : mxserSetBaud HZ p r = .ok q) : RateKnown q := by
  rcases mxserSetBaud_ok hq with
    ⟨-, rfl⟩ | ⟨-, -, hmax, quot, timeout, -, ⟨-, rfl⟩ | ⟨-, enum, rfl⟩⟩
  · exact h
  · exact ⟨⟨h.online.tty, h.online.base, h.online.noError⟩, hmax⟩
  · exact ⟨⟨h.online.tty, h.online.base, h.online.noError⟩, hmax⟩

theorem RateKnown.congr {p q : Port} (h : RateKnown p) (hrate : q.rate = p.rate)
    (htty : q.infoTty = p.infoTty) (hbase : q.base = p.base)
    (herr : q.tty.ioError = p.tty.ioError) : RateKnown q := by
  refine ⟨⟨htty.trans h.online.tty, ?_, herr.trans h.online.noError⟩, ?_⟩
  · rw [hbase]
    exact h.online.base
  · rw [hrate]
    exact h.known

/-- The agreement is about the rate fields and the divisor latch. -/
theorem rateAgrees_congr {p q : Port} (hrate : q.rate = p.rate)
    (hdivisor : q.uart.divisor = p.uart.divisor) : RateAgrees q ↔ RateAgrees p := by
  simp only [RateAgrees, Latched, smartioGetSpecialBaudRate]
  rw [hrate, hdivisor]

/-- `mxser_set_baud` changes `info->speed` for 134 only. -/
theorem setBaud_speed {HZ : Int} {p q : Port} {r : Int} (hr : r ≠ 134)
    (hq : mxserSetBaud HZ p r = .ok q) : q.rate.speed = p.rate.speed := by
  rcases mxserSetBaud_ok hq with
    ⟨-, rfl⟩ | ⟨-, -, -, quot, timeout, -, ⟨-, rfl⟩ | ⟨-, enum, rfl⟩⟩
  · rfl
  · exact if_neg hr
  · exact if_neg hr

/-- Where the rate may be set, `info->realbaud` is the rate asked for. -/
theorem setBaud_realbaud {HZ : Int} {p q : Port} {r : Int} (hon : OnLine p)
    (hmax : r ≤ p.rate.maxCanSetBaudRate) (hq : mxserSetBaud HZ p r = .ok q) :
    q.rate.realbaud = r := by
  rcases mxserSetBaud_ok hq with
    ⟨hskip, -⟩ | ⟨-, -, -, quot, timeout, -, ⟨-, rfl⟩ | ⟨-, enum, rfl⟩⟩
  · rcases hskip with hno | hno | hno
    · rw [hon.tty] at hno
      cases hno
    · exact absurd hno hon.base
    · omega
  · rfl
  · rfl

/-! ## `mxser_change_speed` -/

/-- The rate that `mxser_change_speed` resolves is put in `info->speed` whether
or not `mxser_set_baud` then takes it. -/
theorem changeSpeedBaud_agrees_iff {HZ : Int} {p q : Port} (h : RateKnown p)
    (hq : changeSpeedBaud HZ p = .ok q) :
    RateKnown q ∧ (RateAgrees q ↔ ChangeAgrees p) := by
  simp only [changeSpeedBaud] at hq
  by_cases hmethod : p.rate.setBaudMethod = 0
  · rw [if_pos hmethod] at hq
    rw [ChangeAgrees, if_pos hmethod]
    have hset : RateKnown (p.setSpeed (resolveBaud p p.tty.termios.cCflag)) :=
      ⟨⟨h.online.tty, h.online.base, h.online.noError⟩, h.known⟩
    refine ⟨hset.setBaud hq, ?_⟩
    by_cases hzero : resolveBaud p p.tty.termios.cCflag = 0
    · -- a rate of 0 asks for nothing
      have hspeed := setBaud_speed (by omega) hq
      have hq0 : q.rate.speed = 0 := hspeed.trans hzero
      exact ⟨fun _ => .inl hzero, fun _ hne => absurd hq0 hne⟩
    · by_cases hmax : resolveBaud p p.tty.termios.cCflag ≤ p.rate.maxCanSetBaudRate
      · have hiff : RateAgrees q ↔ CanLatch p (resolveBaud p p.tty.termios.cCflag) :=
          setBaud_agrees_iff (p := p.setSpeed (resolveBaud p p.tty.termios.cCflag))
            h.online.tty h.online.base hzero hmax (.inl rfl) hq
        rw [hiff]
        exact ⟨.inr, fun hr => hr.resolve_left hzero⟩
      · -- the rate is refused, and `info->speed` keeps it
        have hskip := mxserSetBaud_skips HZ
          (p := p.setSpeed (resolveBaud p p.tty.termios.cCflag)) (.inr (.inr (Int.not_le.mp hmax)))
        rw [hskip] at hq
        cases hq
        constructor
        · intro ha
          have hreal : p.rate.realbaud = resolveBaud p p.tty.termios.cCflag := (ha hzero).2.2
          have := h.known
          omega
        · rintro (hr | ⟨hr, -⟩)
          · exact absurd hr hzero
          · exact absurd hr hmax
  · rw [if_neg hmethod] at hq
    rw [ChangeAgrees, if_neg hmethod]
    cases hq
    exact ⟨h, Iff.rfl⟩

theorem changeSpeed_agrees_iff {HZ : Int} {p q : Port} (h : RateKnown p)
    (hq : mxserChangeSpeed HZ p = .ok q) :
    RateKnown q ∧ (RateAgrees q ↔ ChangeAgrees p) := by
  rcases mxserChangeSpeed_ok hq with ⟨hno | hno, -⟩ | ⟨-, -, r, hr, rfl⟩
  · rw [h.online.tty] at hno
    cases hno
  · exact absurd hno h.online.base
  · obtain ⟨hknown, hiff⟩ := changeSpeedBaud_agrees_iff h hr
    obtain ⟨hrate, hdivisor, htty, hbase, herr⟩ := changeSpeedLine_rate r
    exact ⟨hknown.congr hrate htty hbase herr, (rateAgrees_congr hrate hdivisor).trans hiff⟩

/-- `mxser_set_termios` on a port whose rates agree: the rate is looked at where
the settings have changed. -/
theorem setTermios_agrees_iff {HZ : Int} {p q : Port} {new : Termios} (h : RateKnown p)
    (ha : RateAgrees p)
    (hq : mxserSetTermios HZ { p with tty := { p.tty with termios := new } } p.tty.termios
      = .ok q) :
    RateKnown q ∧ (RateAgrees q ↔ KeepsRate p (.setTermios new)) := by
  obtain ⟨r, hr, hq⟩ := bind_ok_iff.mp hq
  cases hq
  obtain ⟨stopped, hw, ier, uier, must, heq⟩ := startAfterTermios_frame r p.tty.termios
    (new.cCflag != p.tty.termios.cCflag ||
      relevantIflag new.cIflag != relevantIflag p.tty.termios.cIflag)
  have hnew : RateKnown { p with tty := { p.tty with termios := new } } :=
    h.congr rfl rfl rfl rfl
  have hchange : RateKnown r ∧ (RateAgrees r ↔ KeepsRate p (.setTermios new)) := by
    split at hr
    · rename_i hchanged
      obtain ⟨hknown, hiff⟩ := changeSpeed_agrees_iff hnew hr
      have hdiffer : new.cCflag ≠ p.tty.termios.cCflag ∨
          relevantIflag new.cIflag ≠ relevantIflag p.tty.termios.cIflag := by
        simpa using hchanged
      exact ⟨hknown, hiff.trans ⟨fun hc _ => hc, fun hkeep => hkeep hdiffer⟩⟩
    · rename_i hsame
      cases hr
      refine ⟨hnew, fun _ hdiffer => absurd ?_ hsame, fun _ => ha⟩
      simpa using hdiffer
  rw [heq]
  exact ⟨hchange.1.congr rfl rfl rfl rfl, hchange.2⟩

/-! ## One step -/

theorem divisor_lt (u : Uart) : u.divisor < 2 ^ 16 := by
  have hdlm := u.dlm.isLt
  have hdll := u.dll.isLt
  simp only [Uart.divisor]
  omega

theorem Latched.canLatch {p : Port} {r : Int} (h : Latched p r)
    (hmax : r ≤ p.rate.maxCanSetBaudRate) : CanLatch p r := by
  obtain ⟨hpos, heq, -⟩ := h
  have hlt := divisor_lt p.uart
  exact ⟨hmax, by omega, by omega⟩

/-- `MOXA_ASPP_SETBAUD` on a port whose rates agree. -/
theorem asppSetbaud_agrees_iff {HZ : Int} {p q : Port} {baud : Int} (h : RateKnown p)
    (ha : RateAgrees p) (hq : mxserSetBaud HZ p baud = .ok q) :
    RateAgrees q ↔ KeepsRate p (.asppSetbaud baud) := by
  simp only [KeepsRate]
  by_cases hmax : baud ≤ p.rate.maxCanSetBaudRate
  · by_cases hsame : baud = p.rate.speed
    · refine ⟨fun _ => .inr (.inl hsame), fun _ => ?_⟩
      by_cases hzero : baud = 0
      · have hspeed := setBaud_speed (by omega) hq
        intro hne
        exact absurd (hspeed.trans (hsame.symm.trans hzero)) hne
      · rw [setBaud_agrees_iff h.online.tty h.online.base hzero hmax (.inl hsame.symm) hq]
        have hl := (rateAgrees_iff_latched hzero hsame.symm).mp ha
        exact hl.canLatch hmax
    · -- 134 is the one rate that `mxser_set_baud` puts in `info->speed` itself
      by_cases h134 : baud = 134
      · subst h134
        rw [setBaud_agrees_iff h.online.tty h.online.base (by decide) hmax (.inr rfl) hq]
        constructor
        · exact fun hc => .inr (.inr (.inr ⟨rfl, hc⟩))
        · rintro (hno | hno | ⟨-, hno⟩ | ⟨-, hc⟩)
          · omega
          · exact absurd hno hsame
          · exact absurd rfl hno
          · exact hc
      · have hspeed := setBaud_speed h134 hq
        by_cases hzero : p.rate.speed = 0
        · refine ⟨fun _ => .inr (.inr (.inl ⟨hzero, h134⟩)), fun _ hne => ?_⟩
          exact absurd (hspeed.trans hzero) hne
        · -- the report follows the request, and `info->speed` does not
          constructor
          · intro haq
            have hl := (rateAgrees_iff_latched hzero hspeed).mp haq
            exact absurd ((setBaud_realbaud h.online hmax hq).symm.trans hl.2.2) hsame
          · rintro (hno | hno | ⟨hno, -⟩ | ⟨hno, -⟩)
            · omega
            · exact absurd hno hsame
            · exact absurd hno hzero
            · exact absurd hno h134
  · rw [mxserSetBaud_skips HZ (.inr (.inr (Int.not_le.mp hmax)))] at hq
    cases hq
    exact ⟨fun _ => .inl (Int.not_le.mp hmax), fun _ => ha⟩

/-- `SMARTIO_SET_SPECIAL_BAUD_RATE` on a port whose rates agree. -/
theorem smartioSet_agrees_iff {HZ : Int} {p : Port} {r : Option Errno × Port} {speed : Int}
    (h : RateKnown p) (ha : RateAgrees p)
    (hr : smartioSetSpecialBaudRate HZ p speed = .ok r) :
    RateKnown r.2 ∧ (RateAgrees r.2 ↔ KeepsRate p (.smartioSet speed)) := by
  simp only [smartioSetSpecialBaudRate] at hr
  by_cases hrefused : speed ≤ 0 ∨ speed > p.rate.maxCanSetBaudRate
  · rw [if_pos hrefused] at hr
    cases hr
    refine ⟨h, fun _ => ?_, fun _ => ha⟩
    rcases hrefused with hneg | hmax
    · exact .inl hneg
    · exact .inr (.inl hmax)
  · obtain ⟨hpos, hmax⟩ := not_or.mp hrefused
    have hopen : ¬ (!p.infoTty || p.base == 0) = true := by
      simp [h.online.tty, h.online.base]
    rw [if_neg hrefused, if_neg hopen] at hr
    obtain ⟨q, hq, hr⟩ := bind_ok_iff.mp hr
    cases hr
    have hknown : RateKnown (requested p speed) :=
      ⟨⟨h.online.tty, h.online.base, h.online.noError⟩, h.known⟩
    obtain ⟨hq', hiff⟩ := changeSpeed_agrees_iff hknown hq
    refine ⟨hq', hiff.trans ⟨fun hc => .inr (.inr hc), ?_⟩⟩
    rintro (hno | hno | hc)
    · exact absurd hno hpos
    · exact absurd hno hmax
    · exact hc

/-- What a step that completes does to the agreement. -/
theorem speedStep_agrees_iff {HZ : Int} {p q : Port} {op : SpeedOp} (h : RateKnown p)
    (ha : RateAgrees p) (hstep : speedStep HZ p op = .ok q) :
    RateKnown q ∧ (RateAgrees q ↔ KeepsRate p op) := by
  cases op with
  | setTermios new => exact setTermios_agrees_iff h ha hstep
  | changeSpeed => exact changeSpeed_agrees_iff h hstep
  | smartioSet speed =>
      obtain ⟨r, hr, hq⟩ := bind_ok_iff.mp hstep
      cases hq
      exact smartioSet_agrees_iff h ha hr
  | asppSetbaud baud =>
      obtain ⟨r, hr, hq⟩ := bind_ok_iff.mp hstep
      cases hq
      simp only [Mxser.asppSetbaud] at hr
      rw [if_neg (by simp [h.online.noError])] at hr
      obtain ⟨q, hq, hr⟩ := bind_ok_iff.mp hr
      cases hr
      exact ⟨h.setBaud hq, asppSetbaud_agrees_iff h ha hq⟩

/-- A step that breaks the agreement completes. -/
theorem speedStep_completes (HZ : Int) {p : Port} {op : SpeedOp} (h : RateKnown p)
    (hop : ¬ KeepsRate p op) : ∃ q, speedStep HZ p op = .ok q := by
  cases op with
  | setTermios new => exact mxserSetTermios_completes HZ _ _
  | changeSpeed => exact mxserChangeSpeed_completes HZ p
  | smartioSet speed =>
      obtain ⟨hpos, hrest⟩ := not_or.mp hop
      obtain ⟨hmax, -⟩ := not_or.mp hrest
      obtain ⟨q, hq⟩ := mxserChangeSpeed_completes HZ (requested p speed)
      have hopen : ¬ (!p.infoTty || p.base == 0) = true := by
        simp [h.online.tty, h.online.base]
      refine ⟨q, bind_ok_iff.mpr ⟨(none, q), ?_, rfl⟩⟩
      simp only [smartioSetSpecialBaudRate]
      rw [if_neg (not_or.mpr ⟨hpos, hmax⟩), if_neg hopen]
      exact bind_ok_iff.mpr ⟨q, hq, rfl⟩
  | asppSetbaud baud =>
      have hdivides : baud ∈ mxvarBaudTable ∨ p.rate.speed ≠ 0 := by
        by_cases h134 : baud = 134
        · left
          rw [h134]
          decide
        · right
          intro hzero
          exact hop (.inr (.inr (.inl ⟨hzero, h134⟩)))
      obtain ⟨q, hq⟩ := mxserSetBaud_completes HZ hdivides
      refine ⟨q, bind_ok_iff.mpr ⟨(none, q), ?_, rfl⟩⟩
      simp only [Mxser.asppSetbaud]
      rw [if_neg (by simp [h.online.noError])]
      exact bind_ok_iff.mpr ⟨q, hq, rfl⟩

/-! ## Whole runs -/

/-- **The reported rate is the latched one in exactly these runs.** A port is
opened (`mxser_change_speed`) and its rate requested in any way: the rates agree
after the opening and after every operation if and only if each operation puts
a rate in `info->speed` that is 0 or can be latched, is refused, or asks for
the rate that is already set. -/
theorem rates_agree_iff {HZ : Int} {p₀ p : Port} (h₀ : RateKnown p₀)
    (hopen : mxserChangeSpeed HZ p₀ = .ok p) (ops : List SpeedOp) :
    Always (speedStep HZ) RateAgrees p ops ↔
      ChangeAgrees p₀ ∧ Guarded (speedStep HZ) KeepsRate p ops := by
  obtain ⟨hp, hagrees⟩ := changeSpeed_agrees_iff h₀ hopen
  have hruns : RateAgrees p →
      (Always (speedStep HZ) RateAgrees p ops ↔ Guarded (speedStep HZ) KeepsRate p ops) := by
    intro ha
    apply always_iff_guarded (J := fun q => RateKnown q ∧ RateAgrees q)
    · exact fun q hq => hq.2
    · intro q op t hq hop ht
      obtain ⟨hknown, hiff⟩ := speedStep_agrees_iff hq.1 hq.2 ht
      exact ⟨hknown, hiff.mpr hop⟩
    · intro q op hq hop
      obtain ⟨t, ht⟩ := speedStep_completes HZ hq.1 hop
      obtain ⟨-, hiff⟩ := speedStep_agrees_iff hq.1 hq.2 ht
      exact ⟨t, ht, fun hat => hop (hiff.mp hat)⟩
    · exact ⟨hp, ha⟩
  constructor
  · intro halways
    have ha : RateAgrees p := halways [] List.nil_prefix p rfl
    exact ⟨hagrees.mp ha, (hruns ha).mp halways⟩
  · rintro ⟨hchange, hguarded⟩
    exact (hruns (hagrees.mpr hchange)).mpr hguarded

theorem c104Started_rateKnown (uartType : Int) (termios : Termios) :
    RateKnown (c104Started uartType termios) :=
  ⟨⟨rfl, Nat.succ_ne_zero _, rfl⟩, show (0 : Int) ≤ 921600 by decide⟩

/-- Opened at 9600 baud, with a standard and then another rate asked for. -/
theorem rates_agree_iff_run :
    ∃ p, mxserChangeSpeed 100 (c104Started port16450 (c104Termios 0)) = .ok p ∧
      (Always (speedStep 100) RateAgrees p [.smartioSet 38400, .smartioSet 12345] ↔
        ChangeAgrees (c104Started port16450 (c104Termios 0)) ∧
          Guarded (speedStep 100) KeepsRate p [.smartioSet 38400, .smartioSet 12345]) :=
  ⟨_, rfl, rates_agree_iff (c104Started_rateKnown port16450 (c104Termios 0)) rfl _⟩

/-- On a port at 9600 baud `MOXA_ASPP_SETBAUD` sets 57600: the latch and
`MOXA_ASPP_GETBAUD` say 57600, `SMARTIO_GET_SPECIAL_BAUD_RATE` says 9600. -/
theorem setbaud_leaves_speed :
    ∃ p t, RateKnown (c104Started port16450 (c104Termios 0)) ∧
      mxserChangeSpeed 100 (c104Started port16450 (c104Termios 0)) = .ok p ∧
      run (speedStep 100) p [.asppSetbaud 57600] = .ok t ∧
      smartioGetSpecialBaudRate t = 9600 ∧ asppGetbaud t = .ok 57600 ∧
      t.uart.divisor = 16 ∧ ¬ RateAgrees t := by
  refine ⟨_, _, c104Started_rateKnown port16450 (c104Termios 0), rfl, rfl, ?_, ?_, ?_, ?_⟩
  · decide
  · rfl
  · decide
  · decide

end MoxaDrivers.Mxser

import MoxaDrivers.Lib.Machine
import MoxaDrivers.Mxser.SerialInfo

/-!
# Division by zero in the rate code

The requests that set a rate, against the divisors they leave for one another.
`mxser_change_speed` always hands `mxser_set_baud` the rate that it has just put
in `info->speed`, so it never divides by zero. `MOXA_ASPP_SETBAUD` hands over a
rate of its own: outside the table `mxser_set_baud` divides by `info->speed`
before it looks at its sign, and `B0` has left a zero there. A privileged
`TIOCSSERIAL` divides by the `custom_divisor` it is given.
-/

namespace MoxaDrivers.Mxser

open MoxaDrivers.Machine

inductive RateOp where
  | setTermios (new : Termios)
  | changeSpeed
  | asppSetbaud (baud : Int)
  | smartioSet (speed : Int)
  | tiocsserial (new : SerialStruct) (admin : Bool) (page : Option Page) (lsr : Byte)

def rateStep (HZ : Int) (p : Port) : RateOp → Except Fault Port
  | .setTermios new =>
      mxserSetTermios HZ { p with tty := { p.tty with termios := new } } p.tty.termios
  | .changeSpeed => mxserChangeSpeed HZ p
  | .asppSetbaud baud => do
      let r ← Mxser.asppSetbaud HZ p baud
      return r.2
  | .smartioSet speed => do
      let r ← smartioSetSpecialBaudRate HZ p speed
      return r.2
  | .tiocsserial new admin page lsr => do
      let r ← Mxser.tiocsserial HZ p new admin page lsr
      return r.2

/-- `MOXA_ASPP_SETBAUD` gets to the division for a rate outside the table while
`info->speed` is zero. -/
structure SetbaudAtZero (p : Port) (baud : Int) : Prop where
  reached : p.tty.ioError = false ∧ p.infoTty = true ∧ p.base ≠ 0
  settable : baud ≤ p.rate.maxCanSetBaudRate
  odd : baud ∉ mxvarBaudTable
  speed : p.rate.speed = 0

/-- `TIOCSSERIAL` gets to the division with a zero `custom_divisor`. -/
structure DivisorZero (p : Port) (new : SerialStruct) (admin : Bool) : Prop where
  reached : p.tty.ioError = false
  accepted : ¬ SerialInfoRefused p new admin
  divides : SerialInfoDivides p new admin
  divisor : new.customDivisor = 0

/-- The divisor of the step's division, where it has one, is not zero. -/
def DividesSafely (p : Port) (op : RateOp) : Prop :=
  match op with
  | .asppSetbaud baud => ¬ SetbaudAtZero p baud
  | .tiocsserial new admin _ _ => ¬ DivisorZero p new admin
  | _ => True

/-! ## One step -/

theorem smartioSet_completes (HZ : Int) (p : Port) (speed : Int) :
    ∃ r, smartioSetSpecialBaudRate HZ p speed = .ok r := by
  simp only [smartioSetSpecialBaudRate]
  split
  · exact ⟨_, rfl⟩
  · split
    · exact ⟨_, rfl⟩
    · obtain ⟨q, hq⟩ := mxserChangeSpeed_completes HZ (requested p speed)
      exact ⟨_, bind_ok_iff.mpr ⟨q, hq, rfl⟩⟩

theorem asppSetbaud_completes_iff (HZ : Int) (p : Port) (baud : Int) :
    (∃ r, asppSetbaud HZ p baud = .ok r) ↔ ¬ SetbaudAtZero p baud := by
  simp only [asppSetbaud]
  by_cases herr : p.tty.ioError = true
  · rw [if_pos herr]
    refine ⟨fun _ hz => ?_, fun _ => ⟨_, rfl⟩⟩
    exact absurd herr (by simp [hz.reached.1])
  · rw [if_neg herr]
    constructor
    · rintro ⟨r, hr⟩ hz
      obtain ⟨q, hq, -⟩ := bind_ok_iff.mp hr
      rw [mxserSetBaud_fault hz.reached.2.1 hz.reached.2.2 hz.settable hz.odd hz.speed] at hq
      cases hq
    · intro hsafe
      have hcompletes : ∃ q, mxserSetBaud HZ p baud = .ok q := by
        by_cases hskip : p.infoTty = false ∨ p.base = 0 ∨ baud > p.rate.maxCanSetBaudRate
        · exact ⟨p, mxserSetBaud_skips HZ hskip⟩
        · obtain ⟨htty, hrest⟩ := not_or.mp hskip
          obtain ⟨hbase, hmax⟩ := not_or.mp hrest
          apply mxserSetBaud_completes
          by_contra hneither
          obtain ⟨hodd, hspeed⟩ := not_or.mp hneither
          exact hsafe ⟨⟨by simpa using herr, by simpa using htty, hbase⟩, by omega, hodd,
            not_not.mp hspeed⟩
      obtain ⟨q, hq⟩ := hcompletes
      exact ⟨_, bind_ok_iff.mpr ⟨q, hq, rfl⟩⟩

theorem applySerialInfo_completes (HZ : Int) (p : Port) (type : Int) (oldSpd : Word)
    (page : Option Page) (lsr : Byte) (admin : Bool) :
    ∃ r, applySerialInfo HZ p type oldSpd page lsr admin = .ok r := by
  by_cases hinit : p.initialized = true
  · obtain ⟨q, hq, -⟩ := applySerialInfo_initialized HZ hinit type oldSpd page lsr admin
    exact ⟨_, hq⟩
  · exact ⟨_, if_neg hinit⟩

theorem tiocsserial_completes_iff (HZ : Int) (p : Port) (new : SerialStruct) (admin : Bool)
    (page : Option Page) (lsr : Byte) :
    (∃ r, tiocsserial HZ p new admin page lsr = .ok r) ↔ ¬ DivisorZero p new admin := by
  simp only [tiocsserial]
  by_cases herr : p.tty.ioError = true
  · rw [if_pos herr]
    refine ⟨fun _ hz => ?_, fun _ => ⟨_, rfl⟩⟩
    exact absurd herr (by simp [hz.reached])
  · rw [if_neg herr]
    rcases mxserSetSerialInfo_cases HZ p new admin page lsr with
      ⟨hrefused, e, he⟩ | ⟨hacc, hdiv, hzero, he⟩ | ⟨hacc, hdiv, q, -, he⟩
    · rw [he]
      exact ⟨fun _ hz => hz.accepted hrefused, fun _ => ⟨_, rfl⟩⟩
    · rw [he]
      constructor
      · rintro ⟨r, hr⟩
        cases hr
      · intro hsafe
        exact absurd ⟨by simpa using herr, hacc, hdiv, hzero⟩ hsafe
    · rw [he]
      refine ⟨fun _ hz => hdiv hz.divides hz.divisor, fun _ => ?_⟩
      exact applySerialInfo_completes HZ q new.type _ page lsr admin

/-- A request whose error code is dropped completes if the request does. -/
theorem drop_error_completes {x : Except Fault (Option Errno × Port)} :
    (∃ t, (do let r ← x; return r.2) = Except.ok t) ↔ ∃ r, x = .ok r := by
  constructor
  · rintro ⟨t, ht⟩
    obtain ⟨r, hr, -⟩ := bind_ok_iff.mp ht
    exact ⟨r, hr⟩
  · rintro ⟨r, hr⟩
    exact ⟨r.2, bind_ok_iff.mpr ⟨r, hr, rfl⟩⟩

/-- A step completes exactly when the divisor of its division is not zero. -/
theorem rateStep_completes_iff (HZ : Int) (p : Port) (op : RateOp) :
    (∃ q, rateStep HZ p op = .ok q) ↔ DividesSafely p op := by
  cases op with
  | setTermios new =>
      exact ⟨fun _ => trivial, fun _ => mxserSetTermios_completes HZ _ _⟩
  | changeSpeed =>
      exact ⟨fun _ => trivial, fun _ => mxserChangeSpeed_completes HZ p⟩
  | asppSetbaud baud =>
      exact drop_error_completes.trans (asppSetbaud_completes_iff HZ p baud)
  | smartioSet speed =>
      exact ⟨fun _ => trivial, fun _ => drop_error_completes.mpr (smartioSet_completes HZ p speed)⟩
  | tiocsserial new admin page lsr =>
      exact drop_error_completes.trans (tiocsserial_completes_iff HZ p new admin page lsr)

/-! ## Whole runs -/

/-- **No division by zero in exactly these runs.** From any state a sequence of
rate requests goes through without a zero divisor if and only if no
`MOXA_ASPP_SETBAUD` of a rate outside the table comes while `info->speed` is
zero, and no privileged `TIOCSSERIAL` that changes `baud_base` or
`custom_divisor` gives a zero `custom_divisor`. -/
theorem rate_requests_divide_safely_iff (HZ : Int) (p : Port) (ops : List RateOp) :
    (∃ q, run (rateStep HZ) p ops = .ok q) ↔ Guarded (rateStep HZ) DividesSafely p ops :=
  run_ok_iff_guarded (I := fun _ => True) (fun _ _ _ _ _ => trivial)
    (fun q op _ => rateStep_completes_iff HZ q op) trivial

/-- `B0` puts a zero in `info->speed`, and a request for 12345 baud divides by
it. -/
theorem setbaud_after_b0_divides_by_zero :
    run (rateStep 100) (c104Started port16450 (c104Termios 0))
      [.changeSpeed, .setTermios ⟨cs8, 0, 0x11, 0x13⟩, .asppSetbaud 12345]
      = .error .divideByZero := by
  rfl

end MoxaDrivers.Mxser

import Mathlib.Tactic.Ring
import MoxaDrivers.Mxu11x0.UartMode
import MoxaDrivers.Mxu11x0.WaitUntilSent
import MoxaDrivers.Mxu11x0.ZeroRate

/-!
# The rate of the device

`mxu1_set_termios` sends a divisor of 923077 and forgets it. The rest of the
driver goes by the rate of the tty: `mxul_wait_until_sent` reckons with it, and
`TIOCGSERIAL` reports it. Whether the two agree is a matter of a division that
truncates, of a cast to 16 bits, and of the calls that send nothing.
-/

namespace MoxaDrivers.Mxu11x0

open MoxaDrivers.Bits MoxaDrivers.Mxser MoxaDrivers.Machine

/-! ## Rates and divisors -/

/-- `923077 / divisor` is between 97 % and 103 % of the rate. -/
def Within3 (divisor : Half) (rate : Int) : Prop :=
  divisor ≠ 0 ∧ 97 * (rate * divisor.toNat) ≤ 92307700 ∧ 92307700 ≤ 103 * (rate * divisor.toNat)

instance (divisor : Half) (rate : Int) : Decidable (Within3 divisor rate) :=
  inferInstanceAs (Decidable (_ ∧ _))

/-- The rate has a multiple that is 923077 or just below, and is not below 15. -/
def DivisibleRate (baud : Int) : Prop :=
  15 ≤ baud ∧ ∃ m : Nat, 896192 ≤ baud * m ∧ baud * m ≤ 923077

theorem effectiveBaud_of_ne {baud : Int} (h : baud ≠ 0) : effectiveBaud baud = baud := if_neg h

/-- Nothing is near 0, and nothing near a negative rate. -/
theorem Within3.pos {divisor : Half} {rate : Int} (h : Within3 divisor rate) : 0 < rate := by
  obtain ⟨-, -, hhigh⟩ := h
  by_contra hneg
  have hprod : rate * divisor.toNat ≤ 0 :=
    Int.mul_nonpos_of_nonpos_of_nonneg (by omega) (Int.natCast_nonneg _)
  omega

theorem configBaud_natCast {n : Nat} (h : n ≠ 0) :
    configBaud (n : Int) = BitVec.ofNat 16 (923077 / n) := by
  rw [configBaud, if_neg (by omega), ← BitVec.ofInt_natCast]
  rfl

/-- A multiple near 923077 shows in the quotient. -/
theorem multiple_le_quotient {n m : Nat} (h : n * m ≤ 923077) (hn : 0 < n) :
    n * m ≤ n * (923077 / n) := by
  have hm : m ≤ 923077 / n := (Nat.le_div_iff_mul_le hn).mpr (by rw [Nat.mul_comm]; exact h)
  exact Nat.mul_le_mul_left n hm

theorem divisible_of_within {baud : Int} (h : Within3 (configBaud baud) baud)
    (hwhole : ((configBaud baud).toNat : Int) = Int.tdiv 923077 baud) : DivisibleRate baud := by
  have hpos := h.pos
  obtain ⟨n, rfl⟩ := Int.eq_ofNat_of_zero_le (Int.le_of_lt hpos)
  obtain ⟨-, -, hhigh⟩ := h
  have hn : 0 < n := by omega
  have hquot : (configBaud (n : Int)).toNat = 923077 / n := by
    have hcast : Int.tdiv 923077 (n : Int) = ((923077 / n : Nat) : Int) := rfl
    omega
  rw [hquot] at hhigh
  have hfit : 923077 / n < 65536 := hquot ▸ (configBaud (n : Int)).isLt
  have hle : n * (923077 / n) ≤ 923077 := Nat.mul_div_le 923077 n
  refine ⟨?_, 923077 / n, by omega, by exact_mod_cast hle⟩
  -- a smaller rate has a quotient of more than 16 bits
  by_contra hsmall
  have hlarge : 923077 / 14 ≤ 923077 / n := Nat.div_le_div_left (by omega) hn
  omega

theorem within_of_divisible {baud : Int} (h : DivisibleRate baud) :
    Within3 (configBaud baud) baud ∧
      ((configBaud baud).toNat : Int) = Int.tdiv 923077 baud := by
  obtain ⟨hlarge, m, hlow, hhigh⟩ := h
  obtain ⟨n, rfl⟩ := Int.eq_ofNat_of_zero_le (show 0 ≤ baud by omega)
  have hn : 15 ≤ n := by omega
  have hmult := multiple_le_quotient (n := n) (m := m) (by exact_mod_cast hhigh) (by omega)
  have hfit : 923077 / n ≤ 923077 / 15 := Nat.div_le_div_left hn (by decide)
  have htoNat : (configBaud (n : Int)).toNat = 923077 / n := by
    rw [configBaud_natCast (by omega), BitVec.toNat_ofNat, Nat.mod_eq_of_lt (by omega)]
  have hmin : (896192 : Int) ≤ n * (923077 / n : Nat) := hlow.trans (by exact_mod_cast hmult)
  have hmax : (n : Int) * (923077 / n : Nat) ≤ 923077 := by
    exact_mod_cast Nat.mul_div_le 923077 n
  refine ⟨⟨?_, ?_, ?_⟩, congrArg Nat.cast htoNat⟩
  · intro hzero
    have hnone : 923077 / n = 0 := by
      rw [← htoNat, hzero]
      rfl
    rw [hnone] at hmin
    omega
  · rw [htoNat]
    omega
  · rw [htoNat]
    omega

/-- Above that, only the rates that divide one of the upper few. -/
theorem divisibleRate_of_le {baud : Int} (hlow : 15 ≤ baud) (hhigh : baud ≤ 26886) :
    DivisibleRate baud := by
  obtain ⟨n, rfl⟩ := Int.eq_ofNat_of_zero_le (show 0 ≤ baud by omega)
  have hmod := Nat.mod_lt 923077 (show 0 < n by omega)
  have hdiv := Nat.div_add_mod 923077 n
  have hmin : 896192 ≤ n * (923077 / n) := by omega
  have hmax : n * (923077 / n) ≤ 923077 := by omega
  exact ⟨hlow, 923077 / n, by exact_mod_cast hmin, by exact_mod_cast hmax⟩

/-! ## Sequences of calls -/

/-- An open line, with the divisor that the device goes by and the one that the
last call has sent, if it has sent one. -/
structure DeviceRate where
  port : Port
  divisor : Half
  sent : Option Half

/-- What makes the driver call `mxu1_set_termios`. -/
inductive RateCause where
  /-- The tty core has new settings. -/
  | change (termios : Termios) (baudRate : Int)
  /-- `mxu1_open`, `MOXA_SET_INTERFACE`, `TIOCSSERIAL` or a break: the settings that
  there are. -/
  | again
  deriving DecidableEq, Repr

/-- A call, with what the kernel and the device answer: `accepted` says that
`MXU1_SET_CONFIG` does not fail. -/
structure RateCall where
  cause : RateCause
  env : TermiosEnv
  accepted : Bool
  deriving DecidableEq, Repr

/-- The tty that the call finds. -/
def RateCause.tty (tty : TtyStruct) : RateCause → TtyStruct
  | .change termios baudRate => { tty with termios := termios, baudRate := baudRate }
  | .again => tty

/-- Its `old_termios`. -/
def RateCause.old (tty : TtyStruct) : RateCause → Option Termios
  | .change _ _ => some tty.termios
  | .again => none

def deviceRateStep (s : DeviceRate) (c : RateCall) : Except Empty DeviceRate :=
  match s.port.tty with
  | none => .ok s
  | some tty =>
      let r := mxu1SetTermios { s.port with tty := some (c.cause.tty tty) } (c.cause.old tty) c.env
      let sent := r.config.map UartConfig.wBaudRate
      .ok
        { port := r.port
          divisor := if c.accepted then sent.getD s.divisor else s.divisor
          sent := sent }

/-- The device goes by the rate that the driver waits with and `TIOCGSERIAL`
reports, and what was sent for that rate is its whole divisor. -/
structure RatesAgree (s : DeviceRate) (tty : TtyStruct) : Prop where
  waits : Within3 s.divisor (effectiveBaud tty.baudRate)
  reports : Within3 s.divisor (mxu1GetSerialInfo s.port tty).baudBase
  whole : ∀ w, s.sent = some w → (w.toNat : Int) = Int.tdiv 923077 (effectiveBaud tty.baudRate)
  sentWaits : ∀ w, s.sent = some w → Within3 w (effectiveBaud tty.baudRate)
  sentReports : ∀ w, s.sent = some w → Within3 w (mxu1GetSerialInfo s.port tty).baudBase

/-- The rates agree, for the tty that the line has. -/
def DeviceRate.Agrees (s : DeviceRate) : Prop :=
  ∃ tty, s.port.tty = some tty ∧ RatesAgree s tty

/-- A call ends in agreement. -/
def EndsInAgreement (_ : DeviceRate) (_ : RateCall) (t : DeviceRate) : Prop := t.Agrees

/-- What is sent is for a divisible rate. If the device takes no divisor, the one
that it has suits the rate already. -/
def RateServed (s : DeviceRate) (c : RateCall) : Prop :=
  ∀ tty, s.port.tty = some tty →
    let now := c.cause.tty tty
    let sends := TakesEffect now (c.cause.old tty) c.env.alloc
    (sends → DivisibleRate now.baudRate) ∧
      (¬ (sends ∧ c.accepted = true) → Within3 s.divisor now.baudRate)

/-! ## One call -/

theorem ratesAgree_iff (s : DeviceRate) (tty : TtyStruct) :
    RatesAgree s tty ↔ Within3 s.divisor tty.baudRate ∧ ∀ w, s.sent = some w →
      Within3 w tty.baudRate ∧ (w.toNat : Int) = Int.tdiv 923077 tty.baudRate := by
  constructor
  · intro h
    have hreports : Within3 s.divisor tty.baudRate := h.reports
    have hpos := hreports.pos
    refine ⟨hreports, fun w hw => ⟨h.sentReports w hw, ?_⟩⟩
    rw [h.whole w hw, effectiveBaud_of_ne (by omega)]
  · rintro ⟨hwithin, hsent⟩
    have hpos := hwithin.pos
    have heff : effectiveBaud tty.baudRate = tty.baudRate := effectiveBaud_of_ne (by omega)
    exact ⟨heff.symm ▸ hwithin, hwithin, fun w hw => heff.symm ▸ (hsent w hw).2,
      fun w hw => heff.symm ▸ (hsent w hw).1, fun w hw => (hsent w hw).1⟩

theorem restartSection_tty (p : Port) : (restartSection p).1.tty = p.tty := by
  rw [restartSection]
  split
  · rfl
  · split <;> rfl

theorem restartForTermios_tty (p : Port) (t : Termios) :
    (restartForTermios p t).1.tty = p.tty :=
  restartForTermios_keeps (P := fun q => q.tty = p.tty)
    (fun q _ hq => (restartSection_tty q).trans hq) rfl t

theorem mxu1SetMcr_tty (p : Port) (mcr : Byte) (status : Int) :
    (mxu1SetMcr p mcr status).tty = p.tty := by
  rw [mxu1SetMcr]
  split
  · rfl
  · rfl

/-- `mxu1_set_termios` leaves the rate of the tty alone, and sends its divisor if
it takes effect. -/
theorem mxu1SetTermios_rate (p : Port) (tty : TtyStruct) (old : Option Termios)
    (env : TermiosEnv) :
    let r := mxu1SetTermios { p with tty := some tty } old env
    (∃ tty', r.port.tty = some tty' ∧ tty'.baudRate = tty.baudRate) ∧
      r.config.map UartConfig.wBaudRate =
        if TakesEffect tty old env.alloc then some (configBaud tty.baudRate) else none := by
  obtain ⟨alloc, status⟩ := env
  cases alloc with
  | none => exact ⟨⟨tty, rfl, rfl⟩, (if_neg fun h => by simpa using h.1).symm⟩
  | some mem =>
      simp only [mxu1SetTermios]
      cases hsame : sameSettings tty.termios old with
      | true =>
          refine ⟨⟨tty, rfl, rfl⟩, (if_neg fun h => ?_).symm⟩
          exact Bool.false_ne_true (h.2.symm.trans hsame)
      | false =>
          refine ⟨⟨clearStopped tty, ?_, ?_⟩, (if_pos ⟨rfl, hsame⟩).symm⟩
          · exact (mxu1SetMcr_tty _ _ _).trans (restartForTermios_tty _ _)
          · rw [clearStopped]
            split
            · rfl
            · rfl

/-- What a call does to an open line. -/
theorem deviceRateStep_open {s : DeviceRate} {tty : TtyStruct} (h : s.port.tty = some tty)
    (c : RateCall) :
    let now := c.cause.tty tty
    let sent := if TakesEffect now (c.cause.old tty) c.env.alloc then
      some (configBaud now.baudRate) else none
    ∃ port tty', deviceRateStep s c = .ok
        ⟨port, if c.accepted then sent.getD s.divisor else s.divisor, sent⟩ ∧
      port.tty = some tty' ∧ tty'.baudRate = now.baudRate := by
  obtain ⟨⟨tty', htty, hbaud⟩, hsent⟩ :=
    mxu1SetTermios_rate s.port (c.cause.tty tty) (c.cause.old tty) c.env
  refine ⟨_, tty', ?_, htty, hbaud⟩
  simp only [deviceRateStep, h, hsent]

theorem DeviceRate.agrees_iff {s : DeviceRate} {tty : TtyStruct} (h : s.port.tty = some tty) :
    s.Agrees ↔ RatesAgree s tty := by
  constructor
  · rintro ⟨tty', htty', hagree⟩
    obtain rfl := Option.some.inj (h.symm.trans htty')
    exact hagree
  · exact fun hagree => ⟨tty, h, hagree⟩

theorem rateServed_iff {s : DeviceRate} {tty : TtyStruct} (h : s.port.tty = some tty)
    (c : RateCall) :
    RateServed s c ↔
      (TakesEffect (c.cause.tty tty) (c.cause.old tty) c.env.alloc →
        DivisibleRate (c.cause.tty tty).baudRate) ∧
      (¬ (TakesEffect (c.cause.tty tty) (c.cause.old tty) c.env.alloc ∧ c.accepted = true) →
        Within3 s.divisor (c.cause.tty tty).baudRate) := by
  constructor
  · exact fun hserved => hserved tty h
  · intro hserved tty' htty'
    obtain rfl := Option.some.inj (h.symm.trans htty')
    exact hserved

/-- **One call** leaves the line open, and ends in agreement exactly if the rate is
served. -/
theorem deviceRateStep_agrees_iff {s : DeviceRate} {tty : TtyStruct} (htty : s.port.tty = some tty)
    (c : RateCall) :
    ∃ t tty', deviceRateStep s c = .ok t ∧ t.port.tty = some tty' ∧
      (t.Agrees ↔ RateServed s c) := by
  obtain ⟨port, tty', hstep, htty', hbaud⟩ := deviceRateStep_open htty c
  refine ⟨_, tty', hstep, htty', ?_⟩
  rw [DeviceRate.agrees_iff htty', ratesAgree_iff, rateServed_iff htty, hbaud]
  by_cases heffect : TakesEffect (c.cause.tty tty) (c.cause.old tty) c.env.alloc
  · simp only [heffect, if_true, Option.some.injEq, forall_eq', Option.getD_some, forall_const,
      true_and]
    -- what is sent is right exactly if the rate is divisible
    have hsent : (Within3 (configBaud (c.cause.tty tty).baudRate) (c.cause.tty tty).baudRate ∧
        ((configBaud (c.cause.tty tty).baudRate).toNat : Int) =
          Int.tdiv 923077 (c.cause.tty tty).baudRate) ↔
        DivisibleRate (c.cause.tty tty).baudRate :=
      ⟨fun h => divisible_of_within h.1 h.2, within_of_divisible⟩
    rw [hsent]
    cases c.accepted with
    | true =>
        constructor
        · exact fun h => ⟨h.2, fun hnot => absurd rfl hnot⟩
        · exact fun h => ⟨(within_of_divisible h.1).1, h.1⟩
    | false =>
        constructor
        · exact fun h => ⟨h.2, fun _ => h.1⟩
        · exact fun h => ⟨h.2 Bool.false_ne_true, h.1⟩
  · constructor
    · intro h
      refine ⟨fun heffect' => absurd heffect' heffect, fun _ => ?_⟩
      simpa [heffect] using h.1
    · intro h
      have hwithin := h.2 fun hboth => heffect hboth.1
      simpa [heffect] using hwithin

/-! ## Whole sequences -/

/-- **When the device goes by the rate of the tty**: from the opening of a line on,
whatever divisor the device had before, each call ends in agreement exactly if
each of them serves the rate. -/
theorem device_rate_agrees_iff (port : Port) (tty : TtyStruct) (divisor : Half)
    (cs : List RateCall) :
    EachStep deviceRateStep EndsInAgreement ⟨{ port with tty := some tty }, divisor, none⟩ cs ↔
      Guarded deviceRateStep RateServed ⟨{ port with tty := some tty }, divisor, none⟩ cs := by
  refine eachStep_iff_guarded (J := fun s => ∃ tty, s.port.tty = some tty) ?_ ?_ ⟨tty, rfl⟩
  · rintro s c t ⟨tty, htty⟩ - ht
    obtain ⟨t', tty', ht', htty', -⟩ := deviceRateStep_agrees_iff htty c
    cases ht'.symm.trans ht
    exact ⟨tty', htty'⟩
  · rintro s c ⟨tty, htty⟩
    obtain ⟨t, tty', ht, -, hiff⟩ := deviceRateStep_agrees_iff htty c
    rw [← hiff]
    constructor
    · exact fun h => h t ht
    · intro h u hu
      cases ht.symm.trans hu
      exact h

/-- A line that is being opened at 9600 baud. -/
def opening9600 : DeviceRate :=
  ⟨openPort (startupPort .model1110 fun _ => 0) tty9600, 0, none⟩

/-- A call that the kernel and the device serve. -/
def servedCall (cause : RateCause) : RateCall := ⟨cause, ⟨some zeroedConfig, 0⟩, true⟩

/-- A change to a rate with the code `cbaud`. -/
def changeRate (cbaud : Word) (baudRate : Int) : RateCall :=
  servedCall (.change ⟨cs8 ||| cbaud, 0, 0x11, 0x13⟩ baudRate)

/-- A run whose last call ends in disagreement. -/
theorem not_agrees_of_last {s t u : DeviceRate} {tty : TtyStruct} {cs : List RateCall}
    {c : RateCall} (hrun : run deviceRateStep s cs = .ok t) (hlast : deviceRateStep t c = .ok u)
    (htty : u.port.tty = some tty) (hno : ¬ Within3 u.divisor tty.baudRate) :
    ¬ EachStep deviceRateStep EndsInAgreement s (cs ++ [c]) := by
  intro h
  have hagree := (DeviceRate.agrees_iff htty).mp (h cs c (List.prefix_refl _) t hrun u hlast)
  exact hno hagree.reports

/-- At 500000 baud the driver sends 1, which is 923077 baud; at 1000000 it sends
0, at 10 a quotient that is cut down to 16 bits, and at `B0`, which `TIOCGSERIAL`
reports as 0, the divisor of 9600. A second rate with `BOTHER` is not sent. -/
theorem device_rate_disagrees :
    [configBaud 500000, configBaud 1000000, configBaud 10, configBaud 0] = [1, 0, 26771, 96] ∧
    (∀ c ∈ [changeRate 0x1005 500000, changeRate 0x1008 1000000, changeRate 0x1000 10,
        changeRate 0 0],
      ¬ EachStep deviceRateStep EndsInAgreement opening9600 ([servedCall .again] ++ [c])) ∧
    ¬ EachStep deviceRateStep EndsInAgreement opening9600
      ([servedCall .again, changeRate 0x1000 9600] ++ [changeRate 0x1000 19200]) := by
  refine ⟨by decide, ?_, not_agrees_of_last rfl rfl rfl (by decide)⟩
  simp only [List.mem_cons, List.not_mem_nil, or_false]
  rintro c (rfl | rfl | rfl | rfl)
  · exact not_agrees_of_last rfl rfl rfl (by decide)
  · exact not_agrees_of_last rfl rfl rfl (by decide)
  · exact not_agrees_of_last rfl rfl rfl (by decide)
  · exact not_agrees_of_last rfl rfl rfl (by decide)

end MoxaDrivers.Mxu11x0

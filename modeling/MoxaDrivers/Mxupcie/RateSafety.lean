import MoxaDrivers.Mxupcie.SerialInfo

/-!
# Arithmetic in the rate code

Every request for a rate ends in `mx_change_speed`, which hands `mx_set_baud`
the rate that it has just put in `info->speed`. From 1 to the maximum that is
safe, and 0 or a rate above it programs nothing. A negative rate, which a
privileged `TIOCSSERIAL` can leave in `custom_baud_rate` and `B38400` then picks
up, passes the one check that is made and is programmed.
-/

namespace MoxaDrivers.Mxupcie

open MoxaDrivers.Bits MoxaDrivers.Mxser
open MoxaDrivers.Machine

/-! ## What `mx_set_baud` computes and writes -/

/-- The registers that make the rate. -/
inductive RateReg where
  | latch
  | scr
  | cpr
  deriving DecidableEq, Repr

/-- The call comes to `set_linear_baud`. -/
def CallsLinear (p : Port) (newspd : Int) : Prop :=
  p.infoTty = true ∧ p.base ≠ 0 ∧ newspd ≤ p.rate.maxCanSetBaudRate ∧ newspd ∉ mxvarBaudTable

/-- The products of `set_linear_baud`: `i * j` for every pair of its loops, and
those of its accuracy test. -/
def linearProducts (newspd : Int) : List Int :=
  ((List.range maxDivisor).flatMap fun k : Nat => sequences.map fun j => ((k + 1 : Nat) : Int) * j) ++
    [(searchLinear newspd).min * 100, newspd * 100]

/-- The rate registers that `mx_set_baud` writes, in their order. -/
def rateWrites (p : Port) (newspd : Int) : List RateReg :=
  if p.infoTty = false ∨ p.base = 0 ∨ newspd > p.rate.maxCanSetBaudRate then []
  else if newspd ∉ mxvarBaudTable then [.cpr, .scr, .latch]
  else
    match baudQuot p.rate newspd with
    | .ok quot => if quot = 0 then [] else [.latch, .cpr]
    | .error _ => []

/-- The value is one of a 32-bit `int`. -/
def FitsInt (x : Int) : Prop := -2 ^ 31 ≤ x ∧ x < 2 ^ 31

/-- What `mx_set_baud` may do with a rate. -/
structure BaudSafe (p : Port) (newspd : Int) : Prop where
  products : CallsLinear p newspd → ∀ x ∈ linearProducts newspd, FitsInt x
  refused : newspd < 1 ∨ newspd > p.rate.maxCanSetBaudRate → rateWrites p newspd = []

/-! ## The search stays in range -/

theorem int32_eq {x : Int} (h : FitsInt x) : int32 x = x :=
  Int.bmod_eq_of_le (by have := h.1; omega) (by have := h.2; omega)

theorem sequences_bounds {j : Int} (h : j ∈ sequences) : 4 ≤ j ∧ j ≤ 46 := by
  have hall : ∀ j ∈ sequences, 4 ≤ j ∧ j ≤ 46 := by decide
  exact hall j h

/-- The deviation found so far is one that an `int` can hold a hundred times. -/
def SearchOk (b : LinearSearch) : Prop := 0 ≤ b.min ∧ b.min ≤ frequency

theorem considerPair_ok {setValue i j : Int} {b : LinearSearch} (hset : 0 ≤ setValue)
    (hmax : setValue ≤ 921600) (hi : 1 ≤ i) (hj : 4 ≤ j) (hb : SearchOk b) :
    SearchOk (considerPair setValue i b j) := by
  have hpos : 0 ≤ i * j := Int.mul_nonneg (by omega) (by omega)
  have hrate0 : 0 ≤ frequency.tdiv (i * j) := Int.tdiv_nonneg (by decide) hpos
  have hrate1 : frequency.tdiv (i * j) ≤ frequency := Int.tdiv_le_self (i * j) (by decide)
  have hfreq : frequency = 14745600 := rfl
  simp only [considerPair]
  generalize frequency.tdiv (i * j) = rate at hrate0 hrate1
  have hup : int32 (rate - setValue) = rate - setValue :=
    int32_eq ⟨by omega, by omega⟩
  have hdown : int32 (setValue - rate) = setValue - rate :=
    int32_eq ⟨by omega, by omega⟩
  rw [hup, hdown]
  obtain ⟨hb0, hb1⟩ := hb
  by_cases hgt : rate > setValue
  · rw [if_pos hgt]
    split
    · exact ⟨by show 0 ≤ rate - setValue; omega, by show rate - setValue ≤ _; omega⟩
    · exact ⟨hb0, hb1⟩
  · rw [if_neg hgt]
    split
    · exact ⟨by show 0 ≤ setValue - rate; omega, by show setValue - rate ≤ _; omega⟩
    · exact ⟨hb0, hb1⟩

theorem searchLinear_ok {setValue : Int} (hset : 0 ≤ setValue) (hmax : setValue ≤ 921600) :
    SearchOk (searchLinear setValue) := by
  have hinit : SearchOk ⟨frequency, 0, 0⟩ := ⟨by decide, Int.le_refl _⟩
  refine List.foldlRecOn _ _ hinit fun b hb k _ => ?_
  exact List.foldlRecOn _ _ hb fun b hb j hj =>
    considerPair_ok hset hmax (by omega) (sequences_bounds hj).1 hb

theorem linearProducts_fit {newspd : Int} (h0 : 0 ≤ newspd) (hmax : newspd ≤ 921600) :
    ∀ x ∈ linearProducts newspd, FitsInt x := by
  have hfreq : frequency = 14745600 := rfl
  intro x hx
  rcases List.mem_append.mp hx with hpair | haccuracy
  · obtain ⟨k, hk, hpair⟩ := List.mem_flatMap.mp hpair
    obtain ⟨j, hj, rfl⟩ := List.mem_map.mp hpair
    obtain ⟨hj0, hj1⟩ := sequences_bounds hj
    have hk255 : k < 255 := List.mem_range.mp hk
    have hle : ((k + 1 : Nat) : Int) * j ≤ 255 * 46 :=
      Int.mul_le_mul (by omega) hj1 (by omega) (by omega)
    have hge : 0 ≤ ((k + 1 : Nat) : Int) * j := Int.mul_nonneg (by omega) (by omega)
    exact ⟨by omega, by omega⟩
  · have hsearch := searchLinear_ok h0 hmax
    generalize searchLinear newspd = best at haccuracy hsearch
    obtain ⟨hmin0, hmin1⟩ := hsearch
    rcases List.mem_cons.mp haccuracy with hmin | hlast
    · exact ⟨by omega, by omega⟩
    · have hset := List.mem_singleton.mp hlast
      exact ⟨by omega, by omega⟩

/-! ## One call of `mx_set_baud` -/

theorem mxvarBaudTable_range {newspd : Int} (h : newspd ∈ mxvarBaudTable) :
    0 ≤ newspd ∧ newspd ≤ 921600 := by
  have hall : ∀ r ∈ mxvarBaudTable, 0 ≤ r ∧ r ≤ 921600 := by decide
  exact hall newspd h

/-- **One rate** is handled safely exactly when it is not negative. -/
theorem baudSafe_iff {p : Port} (hp : RateReady p) (newspd : Int) :
    BaudSafe p newspd ↔ 0 ≤ newspd := by
  have hmax := hp.maxRate
  constructor
  · intro h
    by_contra hneg
    have hodd : newspd ∉ mxvarBaudTable := fun hstd => hneg (mxvarBaudTable_range hstd).1
    have hno := h.refused (.inl (by omega))
    have hskip : ¬ (p.infoTty = false ∨ p.base = 0 ∨ newspd > p.rate.maxCanSetBaudRate) := by
      rintro (htty | hbase | hgt)
      · rw [hp.tty] at htty
        cases htty
      · exact hp.base hbase
      · omega
    rw [rateWrites, if_neg hskip, if_pos hodd] at hno
    cases hno
  · intro h0
    constructor
    · intro hcall
      obtain ⟨-, -, hle, -⟩ := hcall
      exact linearProducts_fit h0 (by omega)
    · rintro (hlow | hhigh)
      · have hzero : newspd = 0 := by omega
        subst hzero
        rw [rateWrites]
        split
        · rfl
        · rw [if_neg (not_not.mpr mxvarBaudTable_of_zero)]
          rfl
      · rw [rateWrites, if_pos (.inr (.inr hhigh))]

/-! ## What keeps the port ready -/

theorem mxSetBaud_ready {HZ : Int} {p q : Port} {newspd : Int} (hp : RateReady p)
    (h : mxSetBaud HZ p newspd = .ok q) : RateReady q := by
  rcases mxSetBaud_cases h with ⟨rfl, -⟩ | ⟨-, uart, quot, timeout, -, -, rfl⟩
  · exact hp
  · obtain ⟨mcr, u, hfinish, -⟩ := finishBaud_frame
      { p with uart := uart, rate := baudRate p.rate newspd timeout } newspd quot
    rw [hfinish]
    exact hp.congr rfl rfl rfl rfl

theorem mxChangeSpeed_eq (HZ : Int) {p : Port} (hp : RateReady p) :
    mxChangeSpeed HZ p = (mxSetBaud HZ (p.setSpeed (resolveBaud p p.tty.termios.cCflag))
      (resolveBaud p p.tty.termios.cCflag)).map changeSpeedLine := by
  have htty : ¬ (!p.infoTty) = true := by simp [hp.tty]
  simp only [mxChangeSpeed, if_neg htty, if_neg hp.base]
  cases mxSetBaud HZ (p.setSpeed (resolveBaud p p.tty.termios.cCflag))
    (resolveBaud p p.tty.termios.cCflag) with
  | error e => rfl
  | ok q => rfl

theorem mxChangeSpeed_ready {HZ : Int} {p q : Port} (hp : RateReady p)
    (h : mxChangeSpeed HZ p = .ok q) : RateReady q := by
  rw [mxChangeSpeed_eq HZ hp] at h
  have hset : RateReady (p.setSpeed (resolveBaud p p.tty.termios.cCflag)) :=
    hp.congr rfl rfl rfl rfl
  cases hbaud : mxSetBaud HZ (p.setSpeed (resolveBaud p p.tty.termios.cCflag))
    (resolveBaud p p.tty.termios.cCflag) with
  | error e =>
      rw [hbaud] at h
      cases h
  | ok r =>
      rw [hbaud] at h
      cases h
      obtain ⟨flags, ier, rs, is, u, hline, -⟩ := changeSpeedLine_frame r
      rw [hline]
      exact (mxSetBaud_ready hset hbaud).congr rfl rfl rfl rfl

/-- `mx_change_speed` completes with a rate that is not negative. -/
theorem mxChangeSpeed_completes (HZ : Int) {p : Port} (hp : RateReady p)
    (h0 : 0 ≤ resolveBaud p p.tty.termios.cCflag) : ∃ q, mxChangeSpeed HZ p = .ok q := by
  have hset : RateReady (p.setSpeed (resolveBaud p p.tty.termios.cCflag)) :=
    hp.congr rfl rfl rfl rfl
  have hspeed : (p.setSpeed (resolveBaud p p.tty.termios.cCflag)).rate.speed =
      resolveBaud p p.tty.termios.cCflag := rfl
  obtain ⟨q, hq⟩ := mxSetBaud_completes HZ hset hspeed h0
  rw [mxChangeSpeed_eq HZ hp, hq]
  exact ⟨_, rfl⟩

theorem RateReady.withTty {p : Port} (hp : RateReady p) (tty : TtyStruct) :
    RateReady { p with tty := tty } :=
  ⟨hp.tty, hp.base, hp.baudBase, hp.maxRate⟩

theorem mxupcieStart_ready {p : Port} (hp : RateReady p) : RateReady (mxupcieStart p) := by
  simp only [mxupcieStart]
  split
  · exact hp.congr rfl rfl rfl rfl
  · exact hp

theorem startAfterTermios_ready {p : Port} (hp : RateReady p) (old : Termios) (changed : Bool) :
    RateReady (startAfterTermios p old changed) := by
  simp only [startAfterTermios]
  split
  · refine mxupcieStart_ready (RateReady.withTty ?_ _)
    split
    · exact mxupcieStart_ready (hp.withTty _)
    · exact hp
  · split
    · exact mxupcieStart_ready (hp.withTty _)
    · exact hp

theorem mxStartup_ready {p : Port} (hp : RateReady p) (page : Option Page) (lsr : Byte)
    (admin : Bool) : RateReady (mxStartup p page lsr admin).2 := by
  rcases mxStartup_cases p page lsr admin with
    ⟨-, h⟩ | ⟨-, -, h⟩ | ⟨-, -, -, h⟩ | ⟨pg, -, -, -, -, -, h⟩ | ⟨pg, -, -, -, -, -, h⟩
  · rw [h]
    exact hp
  · rw [h]
    exact hp
  · rw [h]
    exact hp.congr rfl rfl rfl rfl
  · rw [h]
    cases admin with
    | true => exact hp.congr rfl rfl rfl rfl
    | false => exact hp.congr rfl rfl rfl rfl
  · rw [h]
    have hpage : RateReady (startupPage p pg) := ⟨hp.tty, hp.base, hp.baudBase, hp.maxRate⟩
    exact hpage.congr (startupUart_infoTty _) (startupUart_base _)
      (by rw [startupUart_rate]) (by rw [startupUart_rate])

/-! ## The requests -/

inductive RateOp where
  | setTermios (new : Termios)
  | smartioSet (speed : Int)
  | tiocsserial (new : SerialStruct) (rbr : Byte) (admin : Bool) (page : Option Page) (lsr : Byte)

/-- The port with new settings, as the tty core leaves it. -/
def withTermios (p : Port) (new : Termios) : Port :=
  { p with tty := { p.tty with termios := new } }

def rateOpStep (HZ : Int) (s : SerialPort) : RateOp → Except Fault SerialPort
  | .setTermios new => do
      let p ← mxupcieSetTermios HZ (withTermios s.port new) s.port.tty.termios
      return { s with port := p }
  | .smartioSet speed => do
      let r ← smartioSetSpecialBaudRate HZ s.port speed
      return { s with port := r.2 }
  | .tiocsserial new rbr admin page lsr => do
      let r ← Mxupcie.tiocsserial HZ s new rbr admin page lsr
      return r.2

/-- `TIOCSSERIAL` passes its checks. -/
def SerialInfoTaken (s : SerialPort) (new : SerialStruct) (rbr : Byte) (admin : Bool) : Prop :=
  s.port.tty.ioError = false ∧ s.port.base ≠ 0 ∧ ¬ SerialInfoDenied s new rbr admin

instance (s : SerialPort) (new : SerialStruct) (rbr : Byte) (admin : Bool) :
    Decidable (SerialInfoTaken s new rbr admin) :=
  inferInstanceAs (Decidable (_ ∧ _))

/-- A privileged call makes the driver divide by `custom_divisor`. -/
def SerialInfoDivides (s : SerialPort) (new : SerialStruct) (admin : Bool) : Prop :=
  admin = true ∧ (new.baudBase ≠ s.port.rate.baudBase ∨ new.customDivisor ≠ s.customDivisor)

/-- What `TIOCSSERIAL` leaves of the port before the rate follows. -/
def serialInfoSet (HZ : Int) (s : SerialPort) (new : SerialStruct) (admin : Bool) :
    Except Fault SerialPort :=
  (if admin then adminSerialInfo HZ s new else .ok (userSerialInfo s new)).map
    fun q => withType q new.type

/-- The port for which a request calls `mx_change_speed`, if it does. -/
def speedCall (HZ : Int) (s : SerialPort) : RateOp → Option Port
  | .setTermios new =>
      if new.cCflag ≠ s.port.tty.termios.cCflag ∨
        relevantIflag new.cIflag ≠ relevantIflag s.port.tty.termios.cIflag
      then some (withTermios s.port new) else none
  | .smartioSet speed =>
      if speed ≤ 0 ∨ speed > s.port.rate.maxCanSetBaudRate ∨ s.port.infoTty = false ∨
        s.port.base = 0
      then none else some (requested s.port speed)
  | .tiocsserial new rbr admin _ _ =>
      if SerialInfoTaken s new rbr admin then
        match serialInfoSet HZ s new admin with
        | .ok q =>
            if q.port.initialized ∧ s.port.flags &&& asyncSpdMask ≠ q.port.flags &&& asyncSpdMask
            then some q.port else none
        | .error _ => none
      else none

/-- The rate that `mx_change_speed` hands to `mx_set_baud`. -/
def callRate (p : Port) : Int := resolveBaud p p.tty.termios.cCflag

/-- **What is asked of a request**: it completes, so that no divisor is zero, and
the rate that it comes to is handled safely. -/
structure RateSafe (HZ : Int) (s : SerialPort) (op : RateOp) : Prop where
  divides : ∃ t, rateOpStep HZ s op = .ok t
  baud : ∀ p, speedCall HZ s op = some p → BaudSafe (p.setSpeed (callRate p)) (callRate p)

/-- The settings stand for a negative rate: the one of an earlier request, or
the custom rate. -/
def NegativeRate (p : Port) : Prop :=
  (p.tty.termios.cCflag &&& cbaudMask = b4000000 ∧ p.rate.speed < 0) ∨
  (p.tty.termios.cCflag &&& cbaudMask ≠ b4000000 ∧
    cbaudRates.lookup (p.tty.termios.cCflag &&& cbaudMask) = some 38400 ∧
    p.flags &&& asyncSpdMask = asyncSpdCust ∧ p.rate.customBaudRate < 0)

/-- The divisor of `TIOCSSERIAL`, where it has one, is not zero. -/
def DivisorOk (s : SerialPort) (op : RateOp) : Prop :=
  ∀ new rbr admin page lsr, op = .tiocsserial new rbr admin page lsr →
    SerialInfoTaken s new rbr admin → SerialInfoDivides s new admin → new.customDivisor ≠ 0

/-- A privileged `TIOCSSERIAL` that divides has a `custom_divisor` other than
zero, and no request asks for a negative rate. -/
structure RateOk (HZ : Int) (s : SerialPort) (op : RateOp) : Prop where
  divisor : DivisorOk s op
  rate : ∀ p, speedCall HZ s op = some p → ¬ NegativeRate p

/-- The custom rate is the only one of `B38400` that can be negative. -/
theorem spdRate_neg_iff (flags : Word) (custom : Int) :
    spdRate flags custom < 0 ↔ flags &&& asyncSpdMask = asyncSpdCust ∧ custom < 0 := by
  have hhi : asyncSpdHi ≠ asyncSpdCust := by decide
  have hvhi : asyncSpdVhi ≠ asyncSpdCust := by decide
  have hshi : asyncSpdShi ≠ asyncSpdCust := by decide
  have hwarp : asyncSpdWarp ≠ asyncSpdCust := by decide
  simp only [spdRate]
  generalize flags &&& asyncSpdMask = spd
  by_cases h1 : spd = asyncSpdHi
  · simp [h1, hhi]
  by_cases h2 : spd = asyncSpdVhi
  · rw [if_neg h1, if_pos h2]
    simp [h2, hvhi]
  by_cases h3 : spd = asyncSpdShi
  · rw [if_neg h1, if_neg h2, if_pos h3]
    simp [h3, hshi]
  by_cases h4 : spd = asyncSpdWarp
  · rw [if_neg h1, if_neg h2, if_neg h3, if_pos h4]
    simp [h4, hwarp]
  rw [if_neg h1, if_neg h2, if_neg h3, if_neg h4]
  by_cases h5 : spd = asyncSpdCust
  · simp [h5]
  · rw [if_neg h5]
    simp [h5]

theorem cbaudRates_nonneg {code : Word} {r : Int} (h : cbaudRates.lookup code = some r) :
    0 ≤ r := by
  have hall : ∀ x ∈ cbaudRates, 0 ≤ x.2 := by decide
  obtain ⟨l, l', heq, -⟩ := List.lookup_eq_some_iff.mp h
  exact hall (code, r) (by rw [heq]; simp)

theorem resolveBaud_38400 {p : Port} {cflag : Word} (hcode : cflag &&& cbaudMask ≠ b4000000)
    (hrate : cbaudRates.lookup (cflag &&& cbaudMask) = some 38400) :
    resolveBaud p cflag = spdRate p.flags p.rate.customBaudRate := by
  rw [resolveBaud, if_neg hcode, hrate]
  rfl

/-- Every other rate is one of the table of codes. -/
theorem resolveBaud_other {p : Port} {cflag : Word} (hcode : cflag &&& cbaudMask ≠ b4000000)
    (hrate : cbaudRates.lookup (cflag &&& cbaudMask) ≠ some 38400) :
    0 ≤ resolveBaud p cflag := by
  rw [resolveBaud, if_neg hcode]
  split
  · rename_i heq
    exact absurd heq hrate
  · rename_i heq
    exact cbaudRates_nonneg heq
  · exact Int.le_refl 0

/-- The rate is negative for these settings alone. -/
theorem callRate_neg_iff (p : Port) : callRate p < 0 ↔ NegativeRate p := by
  simp only [callRate, NegativeRate]
  by_cases hcode : p.tty.termios.cCflag &&& cbaudMask = b4000000
  · rw [resolveBaud, if_pos hcode]
    simp [hcode]
  · by_cases hrate : cbaudRates.lookup (p.tty.termios.cCflag &&& cbaudMask) = some 38400
    · rw [resolveBaud_38400 hcode hrate, spdRate_neg_iff]
      simp [hcode, hrate]
    · have h0 := resolveBaud_other (p := p) hcode hrate
      constructor
      · intro hneg
        omega
      · rintro (⟨habs, -⟩ | ⟨-, habs, -⟩)
        · exact absurd habs hcode
        · exact absurd habs hrate

/-! ## One request -/

/-- A request does nothing to the rate, or calls `mx_change_speed` for one port,
or divides by zero. -/
inductive RateOpCases (HZ : Int) (s : SerialPort) (op : RateOp) : Prop
  | plain (t : SerialPort) (hdiv : DivisorOk s op) (hcall : speedCall HZ s op = none)
      (hstep : rateOpStep HZ s op = .ok t) (hready : RateReady t.port)
  | speed (p : Port) (f : Port → SerialPort) (hdiv : DivisorOk s op)
      (hcall : speedCall HZ s op = some p) (hp : RateReady p)
      (hstep : rateOpStep HZ s op = (mxChangeSpeed HZ p).map f)
      (hf : ∀ q, RateReady q → RateReady (f q).port)
  | zero (hdiv : ¬ DivisorOk s op) (hstep : rateOpStep HZ s op = .error .divideByZero)

theorem setTermios_cases (HZ : Int) {s : SerialPort} (hs : RateReady s.port) (new : Termios) :
    RateOpCases HZ s (.setTermios new) := by
  have hdiv : DivisorOk s (.setTermios new) := nofun
  have hnew : RateReady (withTermios s.port new) := hs.withTty _
  have hstep : rateOpStep HZ s (.setTermios new) = (do
      let p ← mxupcieSetTermios HZ (withTermios s.port new) s.port.tty.termios
      return { s with port := p }) := rfl
  by_cases hch : new.cCflag ≠ s.port.tty.termios.cCflag ∨
      relevantIflag new.cIflag ≠ relevantIflag s.port.tty.termios.cIflag
  · have hbool : (new.cCflag != s.port.tty.termios.cCflag ||
        relevantIflag new.cIflag != relevantIflag s.port.tty.termios.cIflag) = true := by
      simpa using hch
    refine .speed (withTermios s.port new)
      (fun q => { s with port := startAfterTermios q s.port.tty.termios true }) hdiv
      (if_pos hch) hnew ?_ fun q hq => startAfterTermios_ready hq _ _
    rw [hstep, mxupcieSetTermios]
    simp only [withTermios, hbool, if_true]
    cases mxChangeSpeed HZ _ with
    | error e => rfl
    | ok q => rfl
  · have hbool : (new.cCflag != s.port.tty.termios.cCflag ||
        relevantIflag new.cIflag != relevantIflag s.port.tty.termios.cIflag) = false := by
      simpa using hch
    refine .plain
      { s with port := startAfterTermios (withTermios s.port new) s.port.tty.termios false }
      hdiv (if_neg hch) ?_ (startAfterTermios_ready hnew _ _)
    rw [hstep, mxupcieSetTermios]
    simp only [withTermios, hbool, Bool.false_eq_true, if_false]
    rfl

theorem smartioSet_cases (HZ : Int) {s : SerialPort} (hs : RateReady s.port) (speed : Int) :
    RateOpCases HZ s (.smartioSet speed) := by
  have hdiv : DivisorOk s (.smartioSet speed) := nofun
  have hstep : rateOpStep HZ s (.smartioSet speed) = (do
      let r ← smartioSetSpecialBaudRate HZ s.port speed
      return { s with port := r.2 }) := rfl
  have hno : ¬ (s.port.infoTty = false ∨ s.port.base = 0) := by
    rintro (htty | hbase)
    · rw [hs.tty] at htty
      cases htty
    · exact hs.base hbase
  by_cases hrange : speed ≤ 0 ∨ speed > s.port.rate.maxCanSetBaudRate
  · have hcall : speed ≤ 0 ∨ speed > s.port.rate.maxCanSetBaudRate ∨ s.port.infoTty = false ∨
        s.port.base = 0 := by
      rcases hrange with h | h
      · exact .inl h
      · exact .inr (.inl h)
    refine .plain s hdiv (if_pos hcall) ?_ hs
    rw [hstep, smartioSetSpecialBaudRate, if_pos hrange]
    rfl
  · have hcall : ¬ (speed ≤ 0 ∨ speed > s.port.rate.maxCanSetBaudRate ∨ s.port.infoTty = false ∨
        s.port.base = 0) := by
      rintro (h | h | h)
      · exact hrange (.inl h)
      · exact hrange (.inr h)
      · exact hno h
    have hgo : ¬ (!s.port.infoTty || s.port.base == 0) = true := by
      simp [hs.tty, hs.base]
    refine .speed (requested s.port speed) (fun q => { s with port := q }) hdiv (if_neg hcall)
      (hs.congr rfl rfl rfl rfl) ?_ fun q hq => hq
    rw [hstep, smartioSetSpecialBaudRate, if_neg hrange, if_neg hgo]
    cases mxChangeSpeed HZ (requested s.port speed) with
    | error e => rfl
    | ok q => rfl

/-- What `TIOCSSERIAL` sets before the rate follows, unless it divides by zero. -/
theorem serialInfoSet_ok (HZ : Int) {s : SerialPort} {new : SerialStruct} {admin : Bool}
    (hs : RateReady s.port) (hdiv : SerialInfoDivides s new admin → new.customDivisor ≠ 0) :
    ∃ q, serialInfoSet HZ s new admin = .ok q ∧ RateReady q.port := by
  cases admin with
  | false => exact ⟨_, rfl, hs.congr rfl rfl rfl rfl⟩
  | true =>
      by_cases hch : new.baudBase ≠ s.port.rate.baudBase ∨ new.customDivisor ≠ s.customDivisor
      · have hne := hdiv ⟨rfl, hch⟩
        simp only [serialInfoSet, adminSerialInfo, if_pos hch, if_true, cdiv_of_ne _ hne]
        exact ⟨_, rfl, hs.congr rfl rfl rfl rfl⟩
      · simp only [serialInfoSet, adminSerialInfo, if_neg hch, if_true]
        exact ⟨_, rfl, hs.congr rfl rfl rfl rfl⟩

theorem serialInfoSet_zero (HZ : Int) {s : SerialPort} {new : SerialStruct} {admin : Bool}
    (hdiv : SerialInfoDivides s new admin) (hzero : new.customDivisor = 0) :
    serialInfoSet HZ s new admin = .error .divideByZero := by
  obtain ⟨rfl, hch⟩ := hdiv
  have hcdiv : cdiv new.baudBase new.customDivisor = .error .divideByZero := by
    rw [cdiv, if_pos hzero]
  simp only [serialInfoSet, adminSerialInfo, if_pos hch, if_true, hcdiv]
  rfl

/-- `TIOCSSERIAL` as two steps: what it sets, and the rate or the start-up. -/
theorem tiocsserial_eq (HZ : Int) {s : SerialPort} {new : SerialStruct} {rbr : Byte}
    {admin : Bool} (htaken : SerialInfoTaken s new rbr admin) (page : Option Page) (lsr : Byte) :
    Mxupcie.tiocsserial HZ s new rbr admin page lsr = (do
      let q ← serialInfoSet HZ s new admin
      if q.port.initialized then
        if s.port.flags &&& asyncSpdMask ≠ q.port.flags &&& asyncSpdMask then do
          let p ← mxChangeSpeed HZ q.port
          return (none, { q with port := p })
        else .ok (none, q)
      else
        let r := mxStartup q.port page lsr admin
        .ok (r.1, { q with port := r.2 })) := by
  obtain ⟨hio, hbase, hok⟩ := htaken
  have hio' : ¬ s.port.tty.ioError = true := by simp [hio]
  rw [Mxupcie.tiocsserial, if_neg hio', mxSetSerialInfo, if_neg hbase, if_neg hok, serialInfoSet]
  cases (if admin then adminSerialInfo HZ s new else .ok (userSerialInfo s new)) with
  | error e => rfl
  | ok q => rfl

/-- A refused call leaves the port as it is. -/
theorem tiocsserial_refused (HZ : Int) {s : SerialPort} {new : SerialStruct} {rbr : Byte}
    {admin : Bool} (h : ¬ SerialInfoTaken s new rbr admin) (page : Option Page) (lsr : Byte) :
    ∃ e, Mxupcie.tiocsserial HZ s new rbr admin page lsr = .ok (e, s) := by
  by_cases hio : s.port.tty.ioError = true
  · exact ⟨_, if_pos hio⟩
  · rw [Mxupcie.tiocsserial, if_neg hio, mxSetSerialInfo]
    by_cases hbase : s.port.base = 0
    · exact ⟨_, if_pos hbase⟩
    · rw [if_neg hbase]
      by_cases hden : SerialInfoDenied s new rbr admin
      · exact ⟨_, if_pos hden⟩
      · exact absurd ⟨by simpa using hio, hbase, hden⟩ h

theorem tiocsserial_cases (HZ : Int) {s : SerialPort} (hs : RateReady s.port)
    (new : SerialStruct) (rbr : Byte) (admin : Bool) (page : Option Page) (lsr : Byte) :
    RateOpCases HZ s (.tiocsserial new rbr admin page lsr) := by
  have hstep : rateOpStep HZ s (.tiocsserial new rbr admin page lsr) = (do
      let r ← Mxupcie.tiocsserial HZ s new rbr admin page lsr
      return r.2) := rfl
  by_cases htaken : SerialInfoTaken s new rbr admin
  · by_cases hzero : SerialInfoDivides s new admin ∧ new.customDivisor = 0
    · obtain ⟨hdivides, hzero⟩ := hzero
      refine .zero (fun hdiv => hdiv _ _ _ _ _ rfl htaken hdivides hzero) ?_
      rw [hstep, tiocsserial_eq HZ htaken, serialInfoSet_zero HZ hdivides hzero]
      rfl
    · have hne : SerialInfoDivides s new admin → new.customDivisor ≠ 0 :=
        fun hdivides h0 => hzero ⟨hdivides, h0⟩
      have hdiv : DivisorOk s (.tiocsserial new rbr admin page lsr) := by
        rintro new' rbr' admin' page' lsr' heq -
        cases heq
        exact hne
      obtain ⟨q, hq, hready⟩ := serialInfoSet_ok HZ hs hne
      have hcall : speedCall HZ s (.tiocsserial new rbr admin page lsr) =
          if q.port.initialized ∧ s.port.flags &&& asyncSpdMask ≠ q.port.flags &&& asyncSpdMask
          then some q.port else none := by
        rw [speedCall, if_pos htaken, hq]
      rw [tiocsserial_eq HZ htaken, hq] at hstep
      by_cases hinit : q.port.initialized = true
      · by_cases hspd : s.port.flags &&& asyncSpdMask ≠ q.port.flags &&& asyncSpdMask
        · -- the `ASYNC_SPD` flags change: the rate follows
          refine .speed q.port (fun p => { q with port := p }) hdiv
            (hcall.trans (if_pos ⟨hinit, hspd⟩)) hready ?_ fun p hp => hp
          rw [hstep]
          simp only [bind, Except.bind, hinit, if_true, if_pos hspd]
          cases mxChangeSpeed HZ q.port with
          | error e => rfl
          | ok p => rfl
        · refine .plain q hdiv (hcall.trans (if_neg fun h => hspd h.2)) ?_ hready
          rw [hstep]
          simp only [bind, Except.bind, hinit, if_true, if_neg hspd]
          rfl
      · -- the port is started, without a look at the rate
        refine .plain { q with port := (mxStartup q.port page lsr admin).2 } hdiv
          (hcall.trans (if_neg fun h => hinit h.1)) ?_ (mxStartup_ready hready page lsr admin)
        rw [hstep]
        simp only [bind, Except.bind, if_neg hinit]
        rfl
  · obtain ⟨e, he⟩ := tiocsserial_refused HZ htaken page lsr
    have hdiv : DivisorOk s (.tiocsserial new rbr admin page lsr) := by
      rintro new' rbr' admin' page' lsr' heq htaken' -
      cases heq
      exact absurd htaken' htaken
    refine .plain s hdiv (if_neg htaken) ?_ hs
    rw [hstep, he]
    rfl

theorem rateOp_cases (HZ : Int) {s : SerialPort} (hs : RateReady s.port) (op : RateOp) :
    RateOpCases HZ s op := by
  cases op with
  | setTermios new => exact setTermios_cases HZ hs new
  | smartioSet speed => exact smartioSet_cases HZ hs speed
  | tiocsserial new rbr admin page lsr => exact tiocsserial_cases HZ hs new rbr admin page lsr

theorem rateOpStep_ready {HZ : Int} {s t : SerialPort} (hs : RateReady s.port) (op : RateOp)
    (h : rateOpStep HZ s op = .ok t) : RateReady t.port := by
  cases rateOp_cases HZ hs op with
  | plain t' _ _ hstep hready =>
      rw [hstep] at h
      cases h
      exact hready
  | speed p f _ _ hp hstep hf =>
      rw [hstep] at h
      cases hq : mxChangeSpeed HZ p with
      | error e =>
          rw [hq] at h
          cases h
      | ok q =>
          rw [hq] at h
          cases h
          exact hf q (mxChangeSpeed_ready hp hq)
  | zero _ hstep =>
      rw [hstep] at h
      cases h

/-- **One request** is safe exactly under the condition. -/
theorem rateSafe_iff (HZ : Int) {s : SerialPort} (hs : RateReady s.port) (op : RateOp) :
    RateSafe HZ s op ↔ RateOk HZ s op := by
  cases rateOp_cases HZ hs op with
  | plain t hdiv hcall hstep _ =>
      constructor
      · intro _
        exact ⟨hdiv, fun p hp => by rw [hcall] at hp; cases hp⟩
      · intro _
        exact ⟨⟨t, hstep⟩, fun p hp => by rw [hcall] at hp; cases hp⟩
  | speed p f hdiv hcall hp hstep _ =>
      have hset : RateReady (p.setSpeed (callRate p)) := hp.congr rfl rfl rfl rfl
      constructor
      · intro hsafe
        have hnonneg := (baudSafe_iff hset (callRate p)).mp (hsafe.baud p hcall)
        refine ⟨hdiv, fun p' hp' hneg => ?_⟩
        rw [hcall] at hp'
        cases hp'
        have hlt := (callRate_neg_iff p).mpr hneg
        omega
      · intro hok
        have hnonneg : 0 ≤ callRate p := by
          by_contra hneg
          exact hok.rate p hcall ((callRate_neg_iff p).mp (by omega))
        obtain ⟨q, hq⟩ := mxChangeSpeed_completes HZ hp hnonneg
        refine ⟨⟨f q, by rw [hstep, hq]; rfl⟩, fun p' hp' => ?_⟩
        rw [hcall] at hp'
        cases hp'
        exact (baudSafe_iff hset (callRate p)).mpr hnonneg
  | zero hdiv hstep =>
      constructor
      · intro hsafe
        obtain ⟨t, ht⟩ := hsafe.divides
        rw [hstep] at ht
        cases ht
      · intro hok
        exact absurd hok.divisor hdiv

/-! ## Whole runs -/

end MoxaDrivers.Mxupcie

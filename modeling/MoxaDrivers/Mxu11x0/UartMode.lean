import MoxaDrivers.Mxu11x0.SetTermios

/-!
# The interface mode

`MOXA_SET_INTERFACE` and `TIOCSSERIAL` both set the operation mode of a port,
each with its own copy of the checks. `mxp_uart_mode` is what the device is
configured with, and `mxp_user_get_uart_mode` what `TIOCGSERIAL` reports; the
first request sets only the one, and comes out of its `switch` into the error
code for an unknown request.
-/

namespace MoxaDrivers.Mxu11x0

open MoxaDrivers.Bits MoxaDrivers.Mxser
open MoxaDrivers.Machine

/-! ## The requests -/

inductive Errno where
  | einval
  | efault
  | enoioctlcmd
  deriving DecidableEq, Repr

def mxu1SetSerialFlags : Word := asyncLowLatency

/-- UPort 1110 and the USB console have RS-232 alone. -/
def Model.onlyRs232 (m : Model) : Bool := m == .model1110 || m == .model3001

/-- The checks of `MOXA_SET_INTERFACE`, and the mode that it sets. -/
def interfaceMode (m : Model) (p : Port) (arg : Nat) : Except Errno Port :=
  if !m.onlyRs232 then
    if arg = mxu1Rs232.toNat then
      if m.noRs232 then .error .einval else .ok { p with uartMode := mxu1Uart232 }
    else if arg = mxu1Rs422.toNat ∨ arg = mxu1Rs4854w.toNat then
      .ok { p with uartMode := mxu1Uart485ReceiverEnabled }
    else if arg = mxu1Rs4852w.toNat then
      .ok { p with uartMode := mxu1Uart485ReceiverDisabled }
    else .error .einval
  else if arg ≠ mxu1Rs232.toNat then .error .einval
  else .ok p

/-- The request `MOXA_SET_INTERFACE`: its error, and the port. -/
def moxaSetInterface (m : Model) (p : Port) (arg : Nat) (env : TermiosEnv) :
    Option Errno × Port :=
  match interfaceMode m p arg with
  | .error e => (some e, p)
  | .ok q => (some .enoioctlcmd, (mxu1SetTermios q none env).port)

/-- The fields of `struct serial_struct` that the driver takes over. -/
structure SerialStruct where
  port : Nat
  flags : Word
  closingWait : BitVec 16
  deriving DecidableEq, Repr

/-- The checks of `mxu1_set_serial_info`, and the modes that it sets. -/
def serialMode (m : Model) (p : Port) (port : Nat) : Except Errno Port :=
  if !m.onlyRs232 then
    if port = mxu1Rs232.toNat then
      if m.noRs232 then .error .einval
      else .ok { p with uartMode := mxu1Uart232, userGetUartMode := mxu1Rs232 }
    else if port = mxu1Rs422.toNat then
      .ok { p with uartMode := mxu1Uart485ReceiverEnabled, userGetUartMode := mxu1Rs422 }
    else if port = mxu1Rs4854w.toNat then
      .ok { p with uartMode := mxu1Uart485ReceiverEnabled, userGetUartMode := mxu1Rs4854w }
    else if port = mxu1Rs4852w.toNat then
      .ok { p with uartMode := mxu1Uart485ReceiverDisabled, userGetUartMode := mxu1Rs4852w }
    else .error .einval
  else if port ≠ mxu1Rs232.toNat then .error .einval
  else .ok p

/-- `mxu1_set_serial_info`; `none` is an argument that cannot be read. -/
def mxu1SetSerialInfo (m : Model) (p : Port) (new : Option SerialStruct) (env : TermiosEnv) :
    Option Errno × Port :=
  match new with
  | none => (some .efault, p)
  | some new =>
      let p := { p with
        flags := new.flags &&& mxu1SetSerialFlags
        closingWait := new.closingWait.toNat }
      match serialMode m p new.port with
      | .error e => (some e, p)
      | .ok q => (none, (mxu1SetTermios q none env).port)

def port16550A : Int := 4

/-- What `TIOCGSERIAL` reports, but for the line. -/
structure SerialInfo where
  type : Int
  port : Byte
  flags : Word
  xmitFifoSize : Nat
  baudBase : Int
  closingWait : Int
  deriving DecidableEq, Repr

/-- `mxu1_get_serial_info`, for a port with a tty. -/
def mxu1GetSerialInfo (p : Port) (tty : TtyStruct) : SerialInfo where
  type := port16550A
  port := p.userGetUartMode
  flags := p.flags
  xmitFifoSize := mxu1WriteBufSize
  baudBase := tty.baudRate
  closingWait := p.closingWait

inductive ModeRequest where
  | setInterface (arg : Nat) (env : TermiosEnv)
  | tiocsserial (new : Option SerialStruct) (env : TermiosEnv)
  deriving DecidableEq, Repr

/-- A request: its error, and the port. -/
def modeRequest (m : Model) (p : Port) : ModeRequest → Option Errno × Port
  | .setInterface arg env => moxaSetInterface m p arg env
  | .tiocsserial new env => mxu1SetSerialInfo m p new env

def modeStep (m : Model) (p : Port) (r : ModeRequest) : Except Empty Port :=
  .ok (modeRequest m p r).2

/-! ## What is asked -/

/-- The modes of a model, by their user's number. -/
def Model.accepts (m : Model) (mode : Nat) : Prop :=
  (mode = 0 ∧ m.noRs232 = false) ∨ (1 ≤ mode ∧ mode ≤ 3 ∧ m.onlyRs232 = false)

instance (m : Model) (mode : Nat) : Decidable (m.accepts mode) := inferInstanceAs (Decidable (_ ∨ _))

/-- The mode that a request asks for, if its argument can be read. -/
def ModeRequest.mode : ModeRequest → Option Nat
  | .setInterface arg _ => some arg
  | .tiocsserial new _ => new.map SerialStruct.port

/-- The request is for a mode of the model. -/
def ModeRequest.Accepted (m : Model) (r : ModeRequest) : Prop :=
  ∃ mode, r.mode = some mode ∧ m.accepts mode

/-- What the device is configured with for a mode. -/
def uartModeOf (mode : Nat) : Byte :=
  if mode = 0 then mxu1Uart232
  else if mode = 1 then mxu1Uart485ReceiverDisabled
  else mxu1Uart485ReceiverEnabled

/-- **What is asked of a request**: `MOXA_SET_INTERFACE` returns success exactly
when it is accepted, a rejected request changes nothing, and after an accepted
one the device has the mode and `TIOCGSERIAL` reports it. -/
structure ModeAgrees (m : Model) (p : Port) (r : ModeRequest) (q : Port) : Prop where
  success : ∀ arg env, r = .setInterface arg env →
    ((modeRequest m p r).1 = none ↔ r.Accepted m)
  rejected : ¬ r.Accepted m → SameMode p q
  accepted : ∀ mode, r.mode = some mode → m.accepts mode →
    q.uartMode = uartModeOf mode ∧ q.userGetUartMode.toNat = mode

/-- A `MOXA_SET_INTERFACE` is rejected, and so is a `TIOCSSERIAL` only with the
flag and the closing wait that the port has. -/
def ModeOk (m : Model) (p : Port) : ModeRequest → Prop
  | .setInterface arg _ => ¬ m.accepts arg
  | .tiocsserial new _ => ∀ s, new = some s → ¬ m.accepts s.port →
      s.flags &&& mxu1SetSerialFlags = p.flags ∧ (s.closingWait.toNat : Int) = p.closingWait

/-! ## The checks -/

/-- A port with RS-232 alone has it from `mxu1_startup` on. -/
def ModeInit (m : Model) (p : Port) : Prop :=
  m.onlyRs232 = true → p.uartMode = mxu1Uart232 ∧ p.userGetUartMode = mxu1Rs232

theorem startupPort_modeInit (m : Model) (mem : Nat → Byte) : ModeInit m (startupPort m mem) := by
  cases m with
  | model1110 => exact fun _ => ⟨rfl, rfl⟩
  | model1130 => exact fun h => absurd h (by decide)
  | model1150 => exact fun h => absurd h (by decide)
  | model1151 => exact fun h => absurd h (by decide)
  | model1131 => exact fun h => absurd h (by decide)
  | model3001 => exact fun _ => ⟨rfl, rfl⟩

/-- A model with RS-232 alone does have it. -/
theorem onlyRs232_has {m : Model} (h : m.onlyRs232 = true) : m.noRs232 = false := by
  cases m with
  | model1110 => rfl
  | model1130 => cases h
  | model1150 => rfl
  | model1151 => rfl
  | model1131 => cases h
  | model3001 => rfl

theorem accepts_zero_iff (m : Model) : m.accepts 0 ↔ m.noRs232 = false := by
  simp [Model.accepts]

theorem accepts_onlyRs232 {m : Model} (h : m.onlyRs232 = true) (mode : Nat) :
    m.accepts mode ↔ mode = 0 := by
  simp [Model.accepts, h, onlyRs232_has h]

theorem accepts_other {m : Model} {mode : Nat} (h : m.onlyRs232 = false) (h0 : mode ≠ 0) :
    m.accepts mode ↔ mode = 1 ∨ mode = 2 ∨ mode = 3 := by
  simp only [Model.accepts, h, and_true]
  omega

/-- The checks of `TIOCSSERIAL` take the modes of the model. -/
theorem serialMode_accepted {m : Model} {p : Port} {mode : Nat} (hinit : ModeInit m p)
    (h : m.accepts mode) :
    ∃ q, serialMode m p mode = .ok q ∧ q.uartMode = uartModeOf mode ∧
      q.userGetUartMode.toNat = mode := by
  by_cases honly : m.onlyRs232 = true
  · obtain ⟨hmode, huser⟩ := hinit honly
    have h0 := (accepts_onlyRs232 honly mode).mp h
    subst h0
    refine ⟨p, ?_, hmode, by rw [huser]; rfl⟩
    rw [serialMode, honly]
    rfl
  · have honly' : m.onlyRs232 = false := by simpa using honly
    by_cases h0 : mode = 0
    · subst h0
      have hrs := (accepts_zero_iff m).mp h
      refine ⟨{ p with uartMode := mxu1Uart232, userGetUartMode := mxu1Rs232 }, ?_, rfl, rfl⟩
      rw [serialMode, honly', hrs]
      rfl
    · rcases (accepts_other honly' h0).mp h with rfl | rfl | rfl
      · refine ⟨{ p with uartMode := mxu1Uart485ReceiverDisabled, userGetUartMode := mxu1Rs4852w },
          ?_, rfl, rfl⟩
        rw [serialMode, honly']
        rfl
      · refine ⟨{ p with uartMode := mxu1Uart485ReceiverEnabled, userGetUartMode := mxu1Rs422 },
          ?_, rfl, rfl⟩
        rw [serialMode, honly']
        rfl
      · refine ⟨{ p with uartMode := mxu1Uart485ReceiverEnabled, userGetUartMode := mxu1Rs4854w },
          ?_, rfl, rfl⟩
        rw [serialMode, honly']
        rfl

/-- And no others. -/
theorem serialMode_rejected {m : Model} (p : Port) {mode : Nat} (h : ¬ m.accepts mode) :
    serialMode m p mode = .error .einval := by
  by_cases honly : m.onlyRs232 = true
  · have h0 : mode ≠ 0 := fun h0 => h ((accepts_onlyRs232 honly mode).mpr h0)
    rw [serialMode, honly]
    exact if_pos h0
  · have honly' : m.onlyRs232 = false := by simpa using honly
    by_cases h0 : mode = 0
    · subst h0
      have hrs : m.noRs232 = true := by
        cases hrs : m.noRs232 with
        | true => rfl
        | false => exact absurd ((accepts_zero_iff m).mpr hrs) h
      rw [serialMode, honly', hrs]
      rfl
    · have hother : ¬ (mode = 1 ∨ mode = 2 ∨ mode = 3) :=
        fun hmode => h ((accepts_other honly' h0).mpr hmode)
      have h1 : mode ≠ mxu1Rs4852w.toNat := fun heq => hother (.inl heq)
      have h2 : mode ≠ mxu1Rs422.toNat := fun heq => hother (.inr (.inl heq))
      have h3 : mode ≠ mxu1Rs4854w.toNat := fun heq => hother (.inr (.inr heq))
      have h0' : mode ≠ mxu1Rs232.toNat := h0
      rw [serialMode, honly', if_neg h0', if_neg h2, if_neg h3, if_neg h1]
      rfl

/-- `MOXA_SET_INTERFACE` makes the same checks, and sets the same
`mxp_uart_mode`. -/
theorem interfaceMode_eq (m : Model) (p : Port) (mode : Nat) :
    interfaceMode m p mode = (serialMode m p mode).map fun q =>
      { q with userGetUartMode := p.userGetUartMode } := by
  simp only [interfaceMode, serialMode]
  by_cases honly : (!m.onlyRs232) = true
  · simp only [if_pos honly]
    by_cases h0 : mode = mxu1Rs232.toNat
    · simp only [if_pos h0]
      split
      · rfl
      · rfl
    · simp only [if_neg h0]
      by_cases h2 : mode = mxu1Rs422.toNat
      · simp only [h2, true_or, if_true]
        rfl
      · by_cases h3 : mode = mxu1Rs4854w.toNat
        · simp only [h3, or_true, if_true]
          rfl
        · simp only [h2, h3, or_self, if_false]
          split
          · rfl
          · rfl
  · simp only [if_neg honly]
    split
    · rfl
    · rfl

/-! ## One request -/

/-- An accepted `MOXA_SET_INTERFACE` sets the mode, and returns the error of an
unknown request. -/
theorem moxaSetInterface_accepted {m : Model} {p : Port} {arg : Nat} (hinit : ModeInit m p)
    (h : m.accepts arg) (env : TermiosEnv) :
    (moxaSetInterface m p arg env).1 = some .enoioctlcmd := by
  obtain ⟨q, hq, -, -⟩ := serialMode_accepted hinit h
  rw [moxaSetInterface, interfaceMode_eq, hq]
  rfl

theorem moxaSetInterface_rejected {m : Model} (p : Port) {arg : Nat} (h : ¬ m.accepts arg)
    (env : TermiosEnv) : moxaSetInterface m p arg env = (some .einval, p) := by
  rw [moxaSetInterface, interfaceMode_eq, serialMode_rejected p h]
  rfl

/-- The port with the flag and the closing wait of the request. -/
def takenOver (p : Port) (new : SerialStruct) : Port :=
  { p with
    flags := new.flags &&& mxu1SetSerialFlags
    closingWait := new.closingWait.toNat }

theorem mxu1SetSerialInfo_accepted {m : Model} {p : Port} {new : SerialStruct}
    (hinit : ModeInit m p) (h : m.accepts new.port) (env : TermiosEnv) :
    ∃ q, mxu1SetSerialInfo m p (some new) env = (none, q) ∧ q.uartMode = uartModeOf new.port ∧
      q.userGetUartMode.toNat = new.port := by
  have hinit' : ModeInit m (takenOver p new) := hinit
  obtain ⟨q, hq, hmode, huser⟩ := serialMode_accepted hinit' h
  have hsame := mxu1SetTermios_sameMode q none env
  refine ⟨(mxu1SetTermios q none env).port, ?_, ?_, ?_⟩
  · show (match serialMode m (takenOver p new) new.port with
      | .error e => (some e, takenOver p new)
      | .ok q => (none, (mxu1SetTermios q none env).port)) = _
    rw [hq]
  · rw [hsame.uartMode, hmode]
  · rw [hsame.userGetUartMode, huser]

theorem mxu1SetSerialInfo_rejected {m : Model} (p : Port) {new : SerialStruct}
    (h : ¬ m.accepts new.port) (env : TermiosEnv) :
    mxu1SetSerialInfo m p (some new) env = (some .einval, takenOver p new) := by
  show (match serialMode m (takenOver p new) new.port with
    | .error e => (some e, takenOver p new)
    | .ok q => (none, (mxu1SetTermios q none env).port)) = _
  rw [serialMode_rejected (takenOver p new) h]

theorem accepted_setInterface_iff (m : Model) (arg : Nat) (env : TermiosEnv) :
    (ModeRequest.setInterface arg env).Accepted m ↔ m.accepts arg := by
  constructor
  · rintro ⟨mode, hmode, h⟩
    cases hmode
    exact h
  · exact fun h => ⟨arg, rfl, h⟩

theorem accepted_tiocsserial_iff (m : Model) (new : SerialStruct) (env : TermiosEnv) :
    (ModeRequest.tiocsserial (some new) env).Accepted m ↔ m.accepts new.port := by
  constructor
  · rintro ⟨mode, hmode, h⟩
    cases hmode
    exact h
  · exact fun h => ⟨new.port, rfl, h⟩

theorem setInterface_agrees_iff {m : Model} {p : Port} (hinit : ModeInit m p) (arg : Nat)
    (env : TermiosEnv) :
    ModeAgrees m p (.setInterface arg env) (modeRequest m p (.setInterface arg env)).2 ↔
      ModeOk m p (.setInterface arg env) := by
  have hacc := accepted_setInterface_iff m arg env
  constructor
  · intro h haccepts
    have hzero := (h.success arg env rfl).mpr (hacc.mpr haccepts)
    cases (moxaSetInterface_accepted hinit haccepts env).symm.trans hzero
  · intro hno
    have hreq : modeRequest m p (.setInterface arg env) = (some .einval, p) :=
      moxaSetInterface_rejected p hno env
    rw [hreq]
    refine ⟨?_, fun _ => sameMode_refl p, ?_⟩
    · intro arg' env' _
      rw [hreq]
      exact ⟨nofun, fun h => absurd (hacc.mp h) hno⟩
    · intro mode hmode haccepts
      cases hmode
      exact absurd haccepts hno

theorem tiocsserial_agrees_iff {m : Model} {p : Port} (hinit : ModeInit m p)
    (new : Option SerialStruct) (env : TermiosEnv) :
    ModeAgrees m p (.tiocsserial new env) (modeRequest m p (.tiocsserial new env)).2 ↔
      ModeOk m p (.tiocsserial new env) := by
  cases new with
  | none =>
      constructor
      · intro _ s hs
        cases hs
      · intro _
        refine ⟨nofun, fun _ => sameMode_refl p, ?_⟩
        intro mode hmode
        cases hmode
  | some new =>
      have hacc := accepted_tiocsserial_iff m new env
      by_cases haccepts : m.accepts new.port
      · obtain ⟨q, hq, hmode, huser⟩ := mxu1SetSerialInfo_accepted hinit haccepts env
        have hreq : modeRequest m p (.tiocsserial (some new) env) = (none, q) := hq
        rw [hreq]
        constructor
        · intro _ s hs hno
          cases hs
          exact absurd haccepts hno
        · intro _
          refine ⟨nofun, fun hno => absurd (hacc.mpr haccepts) hno, ?_⟩
          intro mode hm _
          cases hm
          exact ⟨hmode, huser⟩
      · have hreq : modeRequest m p (.tiocsserial (some new) env) =
            (some .einval, takenOver p new) := mxu1SetSerialInfo_rejected p haccepts env
        rw [hreq]
        constructor
        · intro h s hs _
          cases hs
          have hsame := h.rejected fun hyes => haccepts (hacc.mp hyes)
          exact ⟨hsame.flags, hsame.closingWait⟩
        · intro hok
          obtain ⟨hflags, hwait⟩ := hok new rfl haccepts
          refine ⟨nofun, fun _ => ⟨rfl, rfl, hflags, hwait⟩, ?_⟩
          intro mode hm hyes
          cases hm
          exact absurd hyes haccepts

theorem modeAgrees_iff {m : Model} {p : Port} (hinit : ModeInit m p) (r : ModeRequest) :
    ModeAgrees m p r (modeRequest m p r).2 ↔ ModeOk m p r := by
  cases r with
  | setInterface arg env => exact setInterface_agrees_iff hinit arg env
  | tiocsserial new env => exact tiocsserial_agrees_iff hinit new env

/-- Such a request keeps what a port with RS-232 alone has. -/
theorem modeAgrees_init {m : Model} {p q : Port} {r : ModeRequest} (hinit : ModeInit m p)
    (h : ModeAgrees m p r q) : ModeInit m q := by
  intro honly
  by_cases hacc : r.Accepted m
  · obtain ⟨mode, hmode, haccepts⟩ := hacc
    obtain ⟨huart, huser⟩ := h.accepted mode hmode haccepts
    have h0 := (accepts_onlyRs232 honly mode).mp haccepts
    rw [h0] at huart huser
    exact ⟨huart, BitVec.eq_of_toNat_eq huser⟩
  · have hsame := h.rejected hacc
    rw [hsame.uartMode, hsame.userGetUartMode]
    exact hinit honly

/-! ## Whole runs -/

/-- **The setters and the getter agree in exactly these runs**: every
`MOXA_SET_INTERFACE` is for a mode that the model does not have, and a
`TIOCSSERIAL` for such a mode repeats the flag and the closing wait of the
port. -/
theorem interface_mode_agrees_iff (m : Model) {p : Port} (hinit : ModeInit m p)
    (rs : List ModeRequest) :
    EachStep (modeStep m) (ModeAgrees m) p rs ↔ Guarded (modeStep m) (ModeOk m) p rs := by
  apply eachStep_iff_guarded (J := ModeInit m)
  · intro p r q hp hok hstep
    cases hstep
    exact modeAgrees_init hp ((modeAgrees_iff hp r).mpr hok)
  · intro p r hp
    constructor
    · intro h
      exact (modeAgrees_iff hp r).mp (h _ rfl)
    · intro hok q hstep
      cases hstep
      exact (modeAgrees_iff hp r).mpr hok
  · exact hinit

/-- The requests that an opened UPort 1150 answers as they should. -/
theorem interface_mode_agrees_iff_1150 :
    EachStep (modeStep .model1150) (ModeAgrees .model1150)
        (openPort (startupPort .model1150 fun _ => 0) tty9600)
        [.setInterface 7 ⟨none, 0⟩, .tiocsserial (some ⟨2, asyncLowLatency, 4000⟩) ⟨none, 0⟩] ↔
      Guarded (modeStep .model1150) (ModeOk .model1150)
        (openPort (startupPort .model1150 fun _ => 0) tty9600)
        [.setInterface 7 ⟨none, 0⟩, .tiocsserial (some ⟨2, asyncLowLatency, 4000⟩) ⟨none, 0⟩] := by
  have hinit : ModeInit .model1150 (openPort (startupPort .model1150 fun _ => 0) tty9600) :=
    startupPort_modeInit .model1150 fun _ => 0
  exact interface_mode_agrees_iff .model1150 hinit _

/-- `MOXA_SET_INTERFACE` for RS-422 configures it, returns an error, and leaves
RS-232 to be reported; a rejected `TIOCSSERIAL` clears the flag and the closing
wait. -/
theorem interface_mode_disagrees :
    let p := openPort (startupPort .model1150 fun _ => 0) tty9600
    let q := modeRequest .model1150 p (.setInterface 2 ⟨some ⟨0, 0, 0, 0, 0, 0, 0, 0⟩, 0⟩)
    let r := modeRequest .model1150 p (.tiocsserial (some ⟨9, 0, 0⟩) ⟨none, 0⟩)
    (q.1 = some .enoioctlcmd ∧ q.2.uartMode = uartModeOf 2 ∧
      (mxu1GetSerialInfo q.2 tty9600).port = mxu1Rs232) ∧
    (r.1 = some .einval ∧ r.2.flags ≠ p.flags ∧ r.2.closingWait ≠ p.closingWait) := by
  refine ⟨⟨rfl, rfl, rfl⟩, rfl, ?_, ?_⟩
  · show (0 : Word) &&& mxu1SetSerialFlags ≠ asyncLowLatency
    decide
  · show ((0 : BitVec 16).toNat : Int) ≠ mxu1DefaultClosingWait
    decide

end MoxaDrivers.Mxu11x0

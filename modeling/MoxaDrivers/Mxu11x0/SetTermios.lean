import MoxaDrivers.Mxu11x0.ReadUrb

/-!
# `mxu1_set_termios`

The configuration that `MXU1_SET_CONFIG` sends, the calls of
`mxu1_restart_read`, and the modem control lines that follow.
-/

namespace MoxaDrivers.Mxu11x0

open MoxaDrivers.Bits MoxaDrivers.Mxser

/-! ## The configuration -/

abbrev Half := BitVec 16

def mxu1UartEnableRtsIn : Half := 0x0001
def mxu1UartEnableParityChecking : Half := 0x0008
def mxu1UartEnableCtsOut : Half := 0x0020
def mxu1UartEnableXOut : Half := 0x0040
def mxu1UartEnableXIn : Half := 0x0100
def mxu1UartEnableMsInts : Half := 0x2000
def mxu1UartEnableAutoStartDma : Half := 0x4000
def mxu1UartSendBreakSignal : Half := 0x8000

def mxu1UartNoParity : Byte := 0x00
def mxu1UartOddParity : Byte := 0x01
def mxu1UartEvenParity : Byte := 0x02

def mxu1Uart1StopBits : Byte := 0x00
def mxu1Uart2StopBits : Byte := 0x02

def mxu1LcrBreak : Byte := 0x40

/-- `struct mxu1_uart_config`; the halves are sent big-endian. -/
structure UartConfig where
  wBaudRate : Half
  wFlags : Half
  bDataBits : Byte
  bParity : Byte
  bStopBits : Byte
  cXon : Byte
  cXoff : Byte
  bUartMode : Byte
  deriving DecidableEq, Repr

/-- The code of a character size. -/
def dataBits (cflag : Word) : Byte :=
  if cflag &&& csize = 0 then 0x00
  else if cflag &&& csize = cs6 then 0x01
  else if cflag &&& csize = cs7 then 0x02
  else 0x03

def parity (cflag : Word) : Byte :=
  if test cflag parenb then if test cflag parodd then mxu1UartOddParity else mxu1UartEvenParity
  else mxu1UartNoParity

/-- The flag where the condition holds. -/
def flagIf (c : Bool) (flag : Half) : Half := if c then flag else 0

/-- The rate is `B0`. -/
def isB0 (cflag : Word) : Bool := cflag &&& cbaudMask == 0

/-- `wFlags`; RTS flow control is off at `B0`. -/
def configFlags (sendBreak : Byte) (t : Termios) : Half :=
  mxu1UartEnableMsInts ||| mxu1UartEnableAutoStartDma |||
  flagIf (sendBreak == mxu1LcrBreak) mxu1UartSendBreakSignal |||
  flagIf (test t.cCflag parenb) mxu1UartEnableParityChecking |||
  flagIf (test t.cCflag crtscts && !isB0 t.cCflag) mxu1UartEnableRtsIn |||
  flagIf (test t.cCflag crtscts) mxu1UartEnableCtsOut |||
  flagIf (test t.cIflag ixoff) mxu1UartEnableXIn |||
  flagIf (test t.cIflag ixon) mxu1UartEnableXOut

/-- `wBaudRate`, from what `tty_get_baud_rate` returned. -/
def configBaud (baud : Int) : Half :=
  BitVec.ofInt 16 (Int.tdiv 923077 (if baud = 0 then 9600 else baud))

/-- The configuration in memory that held `mem`: without software flow control
the flow-control characters stay what they were. -/
def uartConfig (mem : UartConfig) (p : Port) (tty : TtyStruct) : UartConfig where
  wBaudRate := configBaud tty.baudRate
  wFlags := configFlags p.sendBreak tty.termios
  bDataBits := dataBits tty.termios.cCflag
  bParity := parity tty.termios.cCflag
  bStopBits := if test tty.termios.cCflag cstopb then mxu1Uart2StopBits else mxu1Uart1StopBits
  cXon :=
    if test tty.termios.cIflag ixoff || test tty.termios.cIflag ixon then tty.termios.startChar
    else mem.cXon
  cXoff :=
    if test tty.termios.cIflag ixoff || test tty.termios.cIflag ixon then tty.termios.stopChar
    else mem.cXoff
  bUartMode := p.uartMode

/-! ## The function -/

/-- What the kernel and the device answer. -/
structure TermiosEnv where
  /-- The memory of `kmalloc`, if there is any. -/
  alloc : Option UartConfig
  /-- The status of the write of the modem control register; that of
  `MXU1_SET_CONFIG` is only logged. -/
  mcrStatus : Int
  deriving DecidableEq, Repr

/-- What a call has done. -/
structure TermiosRun where
  port : Port
  /-- The submissions of the read URB. -/
  submits : Nat
  /-- The configuration and the modem control register sent to the device. -/
  config : Option UartConfig
  mcr : Option Byte

/-- `mxu1_restart_read`, with nothing in between. -/
def mxu1RestartRead (p : Port) (submits : Nat) : Port × Nat :=
  ((restartSection p).1, submits + (restartSection p).2.toNat)

/-- The calls of `mxu1_restart_read`. -/
def restartForTermios (p : Port) (t : Termios) : Port × Nat :=
  let r := if test t.cCflag crtscts then (p, 0) else mxu1RestartRead p 0
  if test t.cIflag ixon && !test t.cIflag ixoff then mxu1RestartRead r.1 r.2 else r

/-- `mxu1_set_mcr`, given the status of its write. -/
def mxu1SetMcr (p : Port) (mcr : Byte) (status : Int) : Port :=
  if status = 0 then { p with shadowMcr := mcr } else p

/-- DTR and RTS fall at `B0`; when the rate leaves `B0`, DTR rises. -/
def b0Mcr (p : Port) (cflag : Word) : Byte :=
  if isB0 cflag then p.shadowMcr &&& ~~~(mxu1McrDtr ||| mxu1McrRts)
  else if p.setB0 then p.shadowMcr ||| mxu1McrDtr
  else p.shadowMcr

/-- `hw_stopped` is cleared without hardware flow control. -/
def clearStopped (tty : TtyStruct) : TtyStruct :=
  if test tty.termios.cCflag crtscts then tty else { tty with hwStopped := false }

/-- The settings are what they were. -/
def sameSettings (t : Termios) : Option Termios → Bool
  | none => false
  | some old => t.cCflag == old.cCflag && t.cIflag == old.cIflag

/-- The body of `mxu1_set_termios`, with the configuration in `mem`. -/
def applyTermios (p : Port) (tty : TtyStruct) (mem : UartConfig) (mcrStatus : Int) : TermiosRun :=
  let r := restartForTermios { p with tty := some (clearStopped tty) } tty.termios
  let mcr := b0Mcr p tty.termios.cCflag
  { port := mxu1SetMcr { r.1 with setB0 := isB0 tty.termios.cCflag } mcr mcrStatus
    submits := r.2
    config := some (uartConfig mem p tty)
    mcr := some mcr }

/-- `mxu1_set_termios`. -/
def mxu1SetTermios (p : Port) (old : Option Termios) (env : TermiosEnv) : TermiosRun :=
  match p.tty, env.alloc with
  | some tty, some mem =>
      if sameSettings tty.termios old then ⟨p, 0, none, none⟩
      else applyTermios p tty mem env.mcrStatus
  | _, _ => ⟨p, 0, none, none⟩

/-- One call of `mxu1_restart_read` after the other. -/
def restartTimes : Nat → Port × Nat → Port × Nat
  | 0, r => r
  | n + 1, r => restartTimes n (mxu1RestartRead r.1 r.2)

/-- These are the calls that the parties of the read URB see. -/
theorem restartForTermios_eq (p : Port) (t : Termios) :
    restartForTermios p t = restartTimes (restartReads t) (p, 0) := by
  simp only [restartForTermios, restartReads]
  cases test t.cCflag crtscts with
  | true =>
      cases test t.cIflag ixon && !test t.cIflag ixoff with
      | true => rfl
      | false => rfl
  | false =>
      cases test t.cIflag ixon && !test t.cIflag ixoff with
      | true => rfl
      | false => rfl

theorem restartTimes_keeps {P : Port → Prop} (hstep : ∀ p n, P p → P (mxu1RestartRead p n).1)
    (n : Nat) : ∀ r : Port × Nat, P r.1 → P (restartTimes n r).1 := by
  induction n with
  | zero => exact fun _ hr => hr
  | succ n ih => exact fun r hr => ih _ (hstep r.1 r.2 hr)

/-- What one call of `mxu1_restart_read` keeps, the calls for the termios keep. -/
theorem restartForTermios_keeps {P : Port → Prop}
    (hstep : ∀ p n, P p → P (mxu1RestartRead p n).1) {p : Port} (hp : P p) (t : Termios) :
    P (restartForTermios p t).1 := by
  rw [restartForTermios_eq]
  exact restartTimes_keeps hstep (restartReads t) (p, 0) hp

/-! ## What it leaves alone -/

/-- The operation mode and what `TIOCSSERIAL` sets. -/
structure SameMode (p q : Port) : Prop where
  uartMode : q.uartMode = p.uartMode
  userGetUartMode : q.userGetUartMode = p.userGetUartMode
  flags : q.flags = p.flags
  closingWait : q.closingWait = p.closingWait

theorem sameMode_refl (p : Port) : SameMode p p := ⟨rfl, rfl, rfl, rfl⟩

theorem SameMode.trans {p q r : Port} (h : SameMode p q) (h' : SameMode q r) : SameMode p r :=
  ⟨h'.uartMode.trans h.uartMode, h'.userGetUartMode.trans h.userGetUartMode,
    h'.flags.trans h.flags, h'.closingWait.trans h.closingWait⟩

theorem restartSection_sameMode (p : Port) : SameMode p (restartSection p).1 := by
  simp only [restartSection]
  split
  · exact sameMode_refl p
  · cases p.readUrbState with
    | running => exact ⟨rfl, rfl, rfl, rfl⟩
    | stopping => exact ⟨rfl, rfl, rfl, rfl⟩
    | stopped => exact ⟨rfl, rfl, rfl, rfl⟩

theorem restartForTermios_sameMode (p : Port) (t : Termios) :
    SameMode p (restartForTermios p t).1 :=
  restartForTermios_keeps (P := SameMode p)
    (fun q _ hq => hq.trans (restartSection_sameMode q)) (sameMode_refl p) t

theorem mxu1SetMcr_sameMode (p : Port) (mcr : Byte) (status : Int) :
    SameMode p (mxu1SetMcr p mcr status) := by
  simp only [mxu1SetMcr]
  split
  · exact ⟨rfl, rfl, rfl, rfl⟩
  · exact sameMode_refl p

/-- `mxu1_set_termios` leaves the mode and the serial settings alone. -/
theorem mxu1SetTermios_sameMode (p : Port) (old : Option Termios) (env : TermiosEnv) :
    SameMode p (mxu1SetTermios p old env).port := by
  simp only [mxu1SetTermios]
  split
  · rename_i tty mem _ _
    split
    · exact sameMode_refl p
    · have hrestart := restartForTermios_sameMode { p with tty := some (clearStopped tty) }
        tty.termios
      have hstart : SameMode p { p with tty := some (clearStopped tty) } := ⟨rfl, rfl, rfl, rfl⟩
      have hb0 : SameMode (restartForTermios { p with tty := some (clearStopped tty) }
          tty.termios).1 { (restartForTermios { p with tty := some (clearStopped tty) }
          tty.termios).1 with setB0 := isB0 tty.termios.cCflag } := ⟨rfl, rfl, rfl, rfl⟩
      exact ((hstart.trans hrestart).trans hb0).trans (mxu1SetMcr_sameMode _ _ _)
  · exact sameMode_refl p

end MoxaDrivers.Mxu11x0

import MoxaDrivers.Mxu11x0.WriteBuf

/-!
# The state of one port

`Port` is `struct mxu1_port` with the `tty_struct` of its line.
-/

namespace MoxaDrivers.Mxu11x0

open MoxaDrivers.Bits MoxaDrivers.Mxser

/-- What `mxd_model_name` holds. -/
inductive Model where
  | model1110
  | model1130
  | model1150
  | model1151
  | model1131
  | model3001
  deriving DecidableEq, Repr

/-- The status of a URB, as the completion handlers tell them apart. -/
inductive UrbStatus where
  | ok
  | econnreset
  | enoent
  | eshutdown
  | epipe
  | other
  deriving DecidableEq, Repr

/-- The URB is being shut down. -/
def UrbStatus.shutdown : UrbStatus → Bool
  | .econnreset | .enoent | .eshutdown => true
  | .ok | .epipe | .other => false

/-- What the driver counts of `struct async_icount`. -/
structure AsyncIcount where
  cts : Word
  dsr : Word
  rng : Word
  dcd : Word
  rx : Word
  tx : Word
  deriving DecidableEq, Repr

/-- `mxp_read_urb_state`. -/
inductive ReadUrbState where
  | running
  | stopping
  | stopped
  deriving DecidableEq, Repr

/-- The tty of an open line; `baudRate` is what `tty_get_baud_rate` returns. -/
structure TtyStruct where
  termios : Termios
  hwStopped : Bool
  baudRate : Int
  deriving DecidableEq, Repr

structure Port where
  isOpen : Bool
  msr : Byte
  shadowMcr : Byte
  uartMode : Byte
  userGetUartMode : Byte
  flags : Word
  msrWaitFlags : Bool
  closingWait : Int
  icount : AsyncIcount
  readUrbState : ReadUrbState
  writeUrbInUse : Bool
  writeBuf : CircBuf
  sendBreak : Byte
  setB0 : Bool
  /-- `mxp_port->port.tty`. -/
  tty : Option TtyStruct

/-! ## Operation modes -/

def mxu1Uart232 : Byte := 0x00
def mxu1Uart485ReceiverDisabled : Byte := 0x01
def mxu1Uart485ReceiverEnabled : Byte := 0x02

def mxu1Rs232 : Byte := 0
def mxu1Rs4852w : Byte := 1
def mxu1Rs422 : Byte := 2
def mxu1Rs4854w : Byte := 3

def mxu1DefaultClosingWait : Int := 4000

/-- UPort 1130 and 1131 have no RS-232. -/
def Model.noRs232 (m : Model) : Bool := m == .model1130 || m == .model1131

/-- `mxu1_buf_alloc`, over whatever the memory holds. -/
def mxu1BufAlloc (mem : Nat → Byte) : CircBuf := ⟨mem, 0, 0⟩

/-- A port as `mxu1_startup` sets it up. -/
def startupPort (m : Model) (mem : Nat → Byte) : Port where
  isOpen := false
  msr := 0
  shadowMcr := 0
  uartMode := if m.noRs232 then mxu1Uart485ReceiverDisabled else mxu1Uart232
  userGetUartMode := if m.noRs232 then mxu1Rs4852w else 0
  flags := asyncLowLatency
  msrWaitFlags := false
  closingWait := mxu1DefaultClosingWait
  icount := ⟨0, 0, 0, 0, 0, 0⟩
  readUrbState := .running
  writeUrbInUse := false
  writeBuf := mxu1BufAlloc mem
  sendBreak := 0
  setB0 := false
  tty := none

def mxu1McrDtr : Byte := 0x10
def mxu1McrRts : Byte := 0x20

/-- What a successful `mxu1_open` does to the port, beside its call of
`mxu1_set_termios`; the read URB is submitted. -/
def openPort (p : Port) (tty : TtyStruct) : Port :=
  { p with
    icount := ⟨0, 0, 0, 0, 0, 0⟩
    msr := 0
    shadowMcr := p.shadowMcr ||| (mxu1McrRts ||| mxu1McrDtr)
    readUrbState := .running
    isOpen := true
    tty := some tty }

/-- The tty of a line at 9600 baud. -/
def tty9600 : TtyStruct := ⟨⟨cs8 ||| 0x000D, 0, 0x11, 0x13⟩, false, 9600⟩

theorem mxu1BufAlloc_ok (mem : Nat → Byte) : (mxu1BufAlloc mem).Ok :=
  ⟨Int.le_refl _, Int.natCast_pos.mpr (by decide), Int.le_refl _, Int.natCast_pos.mpr (by decide)⟩

theorem mxu1BufAlloc_bytes (mem : Nat → Byte) : (mxu1BufAlloc mem).bytes = [] := rfl

end MoxaDrivers.Mxu11x0

import MoxaDrivers.Mxser.Uart

/-!
# The state of one port

`Port` is `struct mxser_struct` with what belongs to the same port elsewhere:
its line's `tty_struct`, its UART, and its entries of the driver-wide tables
`mxser_msr`, `mxser_set_baud_method` and `mxvar_log`. The fields are grouped by
the part of the driver that owns them; `infoTty` says that `info->tty` is not
`NULL` (it then points to the `tty_struct` of this line).

Counters and sizes that the source keeps in an `int` are integers here, so that
their signs and bounds are results; flag words are words of their width.
-/

namespace MoxaDrivers.Mxser

open MoxaDrivers.Bits

abbrev Word := BitVec 32

/-! ## Flags (`linux/serial.h`, `linux/tty_flags.h`) -/

def asyncHupNotify : Word := 0x0001
def asyncSpdHi : Word := 0x0010
def asyncSpdVhi : Word := 0x0020
def asyncSpdShi : Word := 0x1000
def asyncCalloutNohup : Word := 0x0400
def asyncLowLatency : Word := 0x2000
def asyncSpdCust : Word := asyncSpdHi ||| asyncSpdVhi
def asyncSpdWarp : Word := asyncSpdHi ||| asyncSpdShi
def asyncSpdMask : Word := asyncSpdHi ||| asyncSpdVhi ||| asyncSpdShi
def asyncUsrMask : Word := asyncSpdMask ||| asyncCalloutNohup ||| asyncLowLatency
def asyncFlags : Word := 0x7FFF
def asyncInitialized : Word := 0x80000000
def asyncNormalActive : Word := 0x20000000
def asyncClosing : Word := 0x08000000
def asyncCtsFlow : Word := 0x04000000
def asyncCheckCd : Word := 0x02000000
def asyncShareIrq : Word := 0x01000000

/-- The callout device is gone since 2.6 and `mxser.h` defines its flag away. -/
def asyncCalloutActive : Word := 0

/-! ## UART types and termios bits -/

def port8250 : Int := 1
def port16450 : Int := 2
def port16550A : Int := 4

def cbaudMask : Word := 0x100F
def csize : Word := 0x0030
def cs6 : Word := 0x0010
def cs7 : Word := 0x0020
def cs8 : Word := 0x0030
def cstopb : Word := 0x0040
def parenb : Word := 0x0100
def parodd : Word := 0x0200
def hupcl : Word := 0x0400
def clocal : Word := 0x0800
def cmspar : Word := 0x40000000
def crtscts : Word := 0x80000000

def ignbrk : Word := 0x0001
def brkint : Word := 0x0002
def ignpar : Word := 0x0004
def parmrk : Word := 0x0008
def inpck : Word := 0x0010
def ixon : Word := 0x0400
def ixoff : Word := 0x1000

/-- The page size of the transmit ring (`SERIAL_XMIT_SIZE`). -/
def serialXmitSize : Nat := 4096

/-- The bytes of a page by offset. -/
abbrev Page := Nat → Byte

/-! ## The records -/

structure Termios where
  cCflag : Word
  cIflag : Word
  /-- `c_cc[VSTART]` and `c_cc[VSTOP]`. -/
  startChar : Byte
  stopChar : Byte
  deriving DecidableEq, Repr

structure TtyStruct where
  termios : Termios
  stopped : Bool
  hwStopped : Bool
  /-- The `TTY_IO_ERROR` bit of `tty->flags`. -/
  ioError : Bool
  closing : Bool
  lowLatency : Bool
  deriving DecidableEq, Repr

/-- The transmit ring: `xmit_buf`, `xmit_head`, `xmit_tail`, `xmit_cnt`. -/
structure XmitRing where
  buf : Option Page
  head : Int
  tail : Int
  cnt : Int

/-- Everything the line rate depends on. `baud_base` is 921600 or 115200 from
the set-up of the board on, and nothing changes it. -/
structure RateInfo where
  baudBase : Int
  baudBase_pos : 0 < baudBase
  maxCanSetBaudRate : Int
  speed : Int
  realbaud : Int
  customBaudRate : Int
  customDivisor : Int
  timeout : Int
  setBaudMethod : Int
  deriving DecidableEq, Repr

/-- The FIFO depths that `process_txrx_fifo` derives from the UART type. -/
structure FifoInfo where
  rxTrigger : Int
  rxHighWater : Int
  rxLowWater : Int
  xmitFifoSize : Int
  deriving DecidableEq, Repr

structure OpenInfo where
  count : Int
  blockedOpen : Int
  closeDelay : Int
  /-- An `unsigned short`. -/
  closingWait : BitVec 16
  deriving DecidableEq, Repr

structure AsyncIcount where
  cts : Word
  dsr : Word
  rng : Word
  dcd : Word
  tx : Word
  deriving DecidableEq, Repr

structure MxserMon where
  rxcnt : BitVec 64
  txcnt : BitVec 64
  upRxcnt : BitVec 64
  upTxcnt : BitVec 64
  modemStatus : Byte
  holdReason : Byte
  deriving DecidableEq, Repr

/-- The bits of `info->event`. -/
structure MxserEvent where
  txlow : Bool
  hangup : Bool
  deriving DecidableEq, Repr

structure Port where
  port : Nat
  base : Nat
  irq : Int
  isMoxaMustChipFlag : Nat
  type : Int
  flags : Word
  infoTty : Bool
  ier : Byte
  mcr : Byte
  xChar : Byte
  ldiscStopRx : Bool
  readStatusMask : Byte
  ignoreStatusMask : Byte
  ring : XmitRing
  rate : RateInfo
  fifo : FifoInfo
  opens : OpenInfo
  icount : AsyncIcount
  mon : MxserMon
  event : MxserEvent
  normalTermios : Termios
  mxserMsr : Byte
  logTxcnt : BitVec 64
  tty : TtyStruct
  uart : Uart

/-- What the processor traps on: a division by zero, and an access through a
`NULL` pointer. -/
inductive Fault where
  | divideByZero
  | nullPointer
  deriving DecidableEq, Repr

/-- C's division of two `int`s. -/
def cdiv (a b : Int) : Except Fault Int :=
  if b = 0 then .error .divideByZero else .ok (a.tdiv b)

/-- C's remainder of two `int`s. -/
def cmod (a b : Int) : Except Fault Int :=
  if b = 0 then .error .divideByZero else .ok (a.tmod b)

theorem cdiv_of_ne (a : Int) {b : Int} (h : b ≠ 0) : cdiv a b = .ok (a.tdiv b) :=
  if_neg h

theorem cmod_of_ne (a : Int) {b : Int} (h : b ≠ 0) : cmod a b = .ok (a.tmod b) :=
  if_neg h

theorem cdiv_zero (a : Int) : cdiv a 0 = .error .divideByZero := rfl

namespace Port

/-- The UART is a 16550A or a MUST chip: it holds its transmitter on CTS by
itself, which the flow-control guards of the driver ask for. -/
def autoCts (p : Port) : Bool := p.type == port16550A || p.isMoxaMustChipFlag != 0

def initialized (p : Port) : Bool := test p.flags asyncInitialized

theorem initialized_congr {p q : Port} (h : p.flags = q.flags) :
    p.initialized = q.initialized := by
  rw [initialized, h, initialized]

/-- `info->IER = v; outb(info->IER, info->base + UART_IER)`. -/
def setIer (p : Port) (v : Byte) : Port :=
  { p with ier := v, uart := { p.uart with ier := v } }

/-- `info->MCR = v; outb(info->MCR, info->base + UART_MCR)`. -/
def setMcr (p : Port) (v : Byte) : Port :=
  { p with mcr := v, uart := { p.uart with mcr := v } }

/-- `info->IER &= ~UART_IER_THRI` and the write of it. -/
def thriOff (p : Port) : Port := p.setIer (p.ier &&& ~~~uartIerThri)

/-- `info->IER |= UART_IER_THRI` and the write of it. -/
def thriOn (p : Port) : Port := p.setIer (p.ier ||| uartIerThri)

/-- The transmit interrupt is enabled in the shadow `info->IER`. -/
def thri (p : Port) : Bool := test p.ier uartIerThri

/-- A read of `UART_MSR`. -/
def inbMsr (p : Port) : Byte × Port :=
  (p.uart.inbMsr.1, { p with uart := p.uart.inbMsr.2 })

/-- `info->tty->hw_stopped = b`. -/
def setHwStopped (p : Port) (b : Bool) : Port := { p with tty := { p.tty with hwStopped := b } }

/-- `set_bit(MXSER_EVENT_TXLOW, &info->event)`. -/
def setTxlow (p : Port) : Port := { p with event := { p.event with txlow := true } }

end Port

/-! ## What the register updates leave alone -/

namespace Port

variable (p : Port) (v : Byte)

@[simp] theorem setIer_ier : (p.setIer v).ier = v := rfl

@[simp] theorem thriOff_thri : p.thriOff.thri = false := by
  simp [thriOff, thri]

@[simp] theorem thriOn_thri : p.thriOn.thri = true :=
  test_or_self (by decide)

@[simp] theorem thriOff_ring : p.thriOff.ring = p.ring := rfl
@[simp] theorem thriOff_tty : p.thriOff.tty = p.tty := rfl
@[simp] theorem thriOff_autoCts : p.thriOff.autoCts = p.autoCts := rfl

end Port

end MoxaDrivers.Mxser

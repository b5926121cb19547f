import MoxaDrivers.Mxser.Port

/-!
# The UART and the state of one port of a PCIe board

`Uart` holds what was last written to the registers of one UART as `mxupcie.c`
uses them. `UART_DLL` and `UART_DLM`, and also `MOXA_PUART_LSB` and
`MOXA_PUART_MSB`, stand for the two bytes of the divisor latch: the driver
writes either pair only while it has set `UART_LCR_DLAB`. `memthr` and
`msrReads` record what passed over the bus.

`Port` is `struct mxupcie_struct` with the `tty_struct` of its line, its UART
and its entry of `mxvar_log`. What the two drivers take from the kernel alike
(flag words, termios, the transmit ring) is that of `Mxser`.
-/

namespace MoxaDrivers.Mxupcie

open MoxaDrivers.Bits MoxaDrivers.Mxser

/-! ## Register bits (`mxupcie.h`) -/

def uartLcrDlab : Byte := 0x80

def moxaSfr950 : Byte := 0x20
def moxaSfrEnableTcnt : Byte := 0x80

def moxaEfrTxSw : Byte := 0x02
def moxaEfrRxSw : Byte := 0x08
def moxaEfrEnhance : Byte := 0x10
def moxaEfrAutoRts : Byte := 0x40
def moxaEfrAutoCts : Byte := 0x80

def mxTxFifoSize : Nat := 128

/-- `WAKEUP_CHARS`. -/
def wakeupChars : Int := 256

/-! ## The UART -/

/-- One `memcpy` to `MOXA_PUART_MEMTHR`: what `MOXA_PUART_TCNT` read before it,
where in `xmit_buf` it started, and the bytes. -/
structure Block where
  tcnt : Byte
  pos : Nat
  data : List Byte
  deriving DecidableEq, Repr

structure Uart where
  ier : Byte
  fcr : Byte
  lcr : Byte
  mcr : Byte
  msr : Byte
  /-- The divisor latch. -/
  dll : Byte
  dlm : Byte
  sfr : Byte
  efr : Byte
  xon1 : Byte
  xon2 : Byte
  xoff1 : Byte
  xoff2 : Byte
  ttl : Byte
  rtl : Byte
  fcl : Byte
  fch : Byte
  cpr : Byte
  scr : Byte
  memthr : List Block
  msrReads : List Byte
  deriving DecidableEq, Repr

namespace Uart

/-- The bytes copied to the transmit memory, in order. -/
def dataOut (u : Uart) : List Byte := u.memthr.flatMap Block.data

theorem dataOut_congr {u v : Uart} (h : u.memthr = v.memthr) : u.dataOut = v.dataOut := by
  rw [dataOut, h, dataOut]

/-- A read of `UART_MSR` clears the delta bits. -/
def readMsr (u : Uart) : Byte × Uart :=
  (u.msr, { u with
    msr := u.msr &&& ~~~uartMsrAnyDelta, msrReads := u.msrReads ++ [u.msr] })

/-- The divisor latch takes the low and the high byte of `div`. -/
def latch (u : Uart) (div : Int) : Uart :=
  { u with dll := BitVec.ofInt 8 div, dlm := BitVec.ofInt 8 (div / 256) }

end Uart

/-! ## The port -/

/-- What the processor traps on: a division by zero, and a `memcpy` with a
negative length, which runs off the page. -/
inductive Fault where
  | divideByZero
  | wildCopy
  deriving DecidableEq, Repr

/-- C's division of two `int`s. -/
def cdiv (a b : Int) : Except Fault Int :=
  if b = 0 then .error .divideByZero else .ok (a.tdiv b)

theorem cdiv_of_ne (a : Int) {b : Int} (h : b ≠ 0) : cdiv a b = .ok (a.tdiv b) :=
  if_neg h

/-- Everything the line rate depends on. `baud_base` is 921600 from the set-up
of the board on, and nothing changes it. -/
structure RateInfo where
  baudBase : Int
  baudBase_pos : 0 < baudBase
  maxCanSetBaudRate : Int
  speed : Int
  realbaud : Int
  customBaudRate : Int
  timeout : Int
  deriving Repr

structure MxupcieMon where
  txcnt : BitVec 64
  upTxcnt : BitVec 64
  modemStatus : Byte
  deriving DecidableEq, Repr

/-- The bits of `info->event`. -/
structure MxupcieEvent where
  txlow : Bool
  hangup : Bool
  deriving DecidableEq, Repr

structure Port where
  port : Nat
  base : Nat
  irq : Int
  type : Int
  flags : Word
  infoTty : Bool
  ier : Byte
  mcr : Byte
  readStatusMask : Byte
  ignoreStatusMask : Byte
  ring : XmitRing
  rate : RateInfo
  fifo : FifoInfo
  icount : AsyncIcount
  mon : MxupcieMon
  event : MxupcieEvent
  logTxcnt : BitVec 64
  tty : TtyStruct
  uart : Uart

namespace Port

def initialized (p : Port) : Bool := test p.flags asyncInitialized

theorem initialized_congr {p q : Port} (h : p.flags = q.flags) :
    p.initialized = q.initialized := by
  rw [initialized, h, initialized]

/-- `info->IER = v` and the write of it to `UART_IER`. -/
def setIer (p : Port) (v : Byte) : Port :=
  { p with ier := v, uart := { p.uart with ier := v } }

/-- `info->MCR = v` and the write of it to `UART_MCR`. -/
def setMcr (p : Port) (v : Byte) : Port :=
  { p with mcr := v, uart := { p.uart with mcr := v } }

/-- `info->IER &= ~UART_IER_THRI` and the write of it. -/
def thriOff (p : Port) : Port := p.setIer (p.ier &&& ~~~uartIerThri)

/-- `info->IER |= UART_IER_THRI` and the write of it. -/
def thriOn (p : Port) : Port := p.setIer (p.ier ||| uartIerThri)

/-- The transmit interrupt is enabled in the shadow `info->IER`. -/
def thri (p : Port) : Bool := test p.ier uartIerThri

/-- A read of `UART_MSR`. -/
def readMsr (p : Port) : Byte × Port :=
  (p.uart.readMsr.1, { p with uart := p.uart.readMsr.2 })

/-- `info->tty->hw_stopped = b`. -/
def setHwStopped (p : Port) (b : Bool) : Port := { p with tty := { p.tty with hwStopped := b } }

/-- `set_bit(MXUPCIE_EVENT_TXLOW, &info->event)`. -/
def setTxlow (p : Port) : Port := { p with event := { p.event with txlow := true } }

@[simp] theorem thriOff_ring (p : Port) : p.thriOff.ring = p.ring := rfl

@[simp] theorem thriOn_thri (p : Port) : p.thriOn.thri = true :=
  test_or_self (by decide)

end Port

end MoxaDrivers.Mxupcie

import MoxaDrivers.Lib.Bits

/-!
# The UART behind a port

The registers of one UART as `mxser.c` uses them, by the names the source
gives them (`UART_IER`, `UART_DLL` and so on): what was last written to each,
the modem status register, what `UART_IIR` reads, and the bytes handed to
`UART_TX`. The MUST chips' banked registers are kept apart, with one function
for each macro of `mxser.h`.

Two components are not registers but records of the bus: `tx`, the bytes
written to `UART_TX`, and `msrReads`, the values that reads of `UART_MSR`
returned.
-/

namespace MoxaDrivers.Mxser

open MoxaDrivers.Bits

abbrev Byte := BitVec 8

/-! ## Register bits (`linux/serial_reg.h`) -/

def uartIerMsi : Byte := 0x08
def uartIerRlsi : Byte := 0x04
def uartIerThri : Byte := 0x02
def uartIerRdi : Byte := 0x01

def uartMcrRts : Byte := 0x02
def uartMcrDtr : Byte := 0x01
def uartMcrAfe : Byte := 0x20

def uartMsrDcd : Byte := 0x80
def uartMsrRi : Byte := 0x40
def uartMsrDsr : Byte := 0x20
def uartMsrCts : Byte := 0x10
def uartMsrDdcd : Byte := 0x08
def uartMsrTeri : Byte := 0x04
def uartMsrDdsr : Byte := 0x02
def uartMsrDcts : Byte := 0x01
def uartMsrAnyDelta : Byte := 0x0F

def uartLsrThre : Byte := 0x20
def uartLsrBi : Byte := 0x10
def uartLsrFe : Byte := 0x08
def uartLsrPe : Byte := 0x04
def uartLsrOe : Byte := 0x02
def uartLsrDr : Byte := 0x01

def uartIirNoInt : Byte := 0x01

def uartFcrEnableFifo : Byte := 0x01
def uartFcrClearRcvr : Byte := 0x02
def uartFcrClearXmit : Byte := 0x04
def uartFcrTrigger1 : Byte := 0x00
def uartFcrTrigger4 : Byte := 0x40
def uartFcrTrigger8 : Byte := 0x80
def uartFcrTrigger14 : Byte := 0xC0

def uartLcrSpar : Byte := 0x20
def uartLcrEpar : Byte := 0x10
def uartLcrParity : Byte := 0x08
def uartLcrWlen8 : Byte := 0x03

/-! ## The MUST chips (`mxser.h`) -/

def moxaOtherUart : Nat := 0x00
def moxaMustMu150Hwid : Nat := 0x01
def moxaMustMu860Hwid : Nat := 0x02

def moxaMustIerEgdai : Byte := 0x10
def moxaMustRecvIsr : Byte := uartIerRdi ||| moxaMustIerEgdai
def moxaMustFcrGdaModeEnable : Byte := 0x20
def moxaMustMcrXonFlag : Byte := 0x40
def moxaMustMcrTxXon : Byte := 0x08

def moxaMustEfrBankMask : Byte := 0xC0
def moxaMustEfrBank0 : Byte := 0x00
def moxaMustEfrBank1 : Byte := 0x40
def moxaMustEfrBank2 : Byte := 0x80
def moxaMustEfrSfMask : Byte := 0x0F
def moxaMustEfrSfTx1 : Byte := 0x08
def moxaMustEfrSfTxMask : Byte := 0x0C
def moxaMustEfrSfRx1 : Byte := 0x02
def moxaMustEfrSfRxMask : Byte := 0x03

/-- The banked registers, reached while `LCR` holds
`MOXA_MUST_ENTER_ENCHANCE`. -/
structure MustRegs where
  efr : Byte
  xon1 : Byte
  xoff1 : Byte
  rbrtl : Byte
  rbrth : Byte
  rbrti : Byte
  thrtl : Byte
  enum : Byte
  deriving DecidableEq, Repr

namespace MustRegs

/-- `__efr = inb(EFR); __efr &= ~mask; __efr |= val; outb(__efr, EFR)`, the
step the macros share. -/
def setEfr (m : MustRegs) (mask val : Byte) : MustRegs :=
  { m with efr := (m.efr &&& ~~~mask) ||| val }

def setXon1Value (m : MustRegs) (v : Byte) : MustRegs :=
  { m.setEfr moxaMustEfrBankMask moxaMustEfrBank0 with xon1 := v }

def setXoff1Value (m : MustRegs) (v : Byte) : MustRegs :=
  { m.setEfr moxaMustEfrBankMask moxaMustEfrBank0 with xoff1 := v }

def setFifoValue (m : MustRegs) (rxHighWater rxTrigger rxLowWater : Byte) : MustRegs :=
  { m.setEfr moxaMustEfrBankMask moxaMustEfrBank1 with
    rbrth := rxHighWater, rbrti := rxTrigger, rbrtl := rxLowWater, thrtl := 0 }

def setEnumValue (m : MustRegs) (v : Byte) : MustRegs :=
  { m.setEfr moxaMustEfrBankMask moxaMustEfrBank2 with enum := v }

def setNoSoftwareFlowControl (m : MustRegs) : MustRegs :=
  m.setEfr moxaMustEfrSfMask 0

def enableTxSoftwareFlowControl (m : MustRegs) : MustRegs :=
  m.setEfr moxaMustEfrSfTxMask moxaMustEfrSfTx1

def disableTxSoftwareFlowControl (m : MustRegs) : MustRegs :=
  m.setEfr moxaMustEfrSfTxMask 0

def enableRxSoftwareFlowControl (m : MustRegs) : MustRegs :=
  m.setEfr moxaMustEfrSfRxMask moxaMustEfrSfRx1

def disableRxSoftwareFlowControl (m : MustRegs) : MustRegs :=
  m.setEfr moxaMustEfrSfRxMask 0

end MustRegs

/-! ## The UART -/

/-- A byte written to `UART_TX`: a flow-control character (`x_char`), or a
byte of the transmit ring with the position it was read from. -/
inductive TxByte where
  | flow (c : Byte)
  | data (pos : Nat) (c : Byte)
  deriving DecidableEq, Repr

structure Uart where
  ier : Byte
  mcr : Byte
  lcr : Byte
  fcr : Byte
  dll : Byte
  dlm : Byte
  msr : Byte
  iir : Byte
  must : MustRegs
  tx : List TxByte
  msrReads : List Byte
  deriving DecidableEq, Repr

namespace Uart

/-- The ring bytes written to `UART_TX`, in order. -/
def dataOut (u : Uart) : List Byte :=
  u.tx.filterMap fun
    | .data _ c => some c
    | .flow _ => none

/-- The flow-control characters written to `UART_TX`, in order. -/
def flowOut (u : Uart) : List Byte :=
  u.tx.filterMap fun
    | .flow c => some c
    | .data _ _ => none

theorem dataOut_congr {u v : Uart} (h : u.tx = v.tx) : u.dataOut = v.dataOut := by
  rw [dataOut, h, dataOut]

/-- Ring bytes do not show among the flow-control characters. -/
theorem flowOut_data {u : Uart} {out : List TxByte}
    (h : ∀ b ∈ out, ∃ pos c, b = TxByte.data pos c) :
    ({ u with tx := u.tx ++ out } : Uart).flowOut = u.flowOut := by
  have hnone : (out.filterMap fun
      | .flow c => some c
      | .data _ _ => none) = ([] : List Byte) := by
    rw [List.filterMap_eq_nil_iff]
    intro b hb
    obtain ⟨pos, c, rfl⟩ := h b hb
    rfl
  rw [flowOut, List.filterMap_append, hnone, List.append_nil, flowOut]

/-- The 16-bit divisor in the latch. -/
def divisor (u : Uart) : Nat := 256 * u.dlm.toNat + u.dll.toNat

/-- A read of `UART_MSR` clears the delta bits. -/
def inbMsr (u : Uart) : Byte × Uart :=
  (u.msr, { u with
    msr := u.msr &&& ~~~uartMsrAnyDelta, msrReads := u.msrReads ++ [u.msr] })

/-- The delta bits that a change of the input lines raises: any change of CTS,
DSR and DCD, the trailing edge of RI. -/
def lineDeltas (old new : Byte) : Byte :=
  (if test (old ^^^ new) uartMsrCts then uartMsrDcts else 0) |||
  (if test (old ^^^ new) uartMsrDsr then uartMsrDdsr else 0) |||
  (if test (old ^^^ new) uartMsrDcd then uartMsrDdcd else 0) |||
  (if test old uartMsrRi && !test new uartMsrRi then uartMsrTeri else 0)

/-- The input lines take the levels in the high half of `new`; delta bits
stay until a read. -/
def setLines (u : Uart) (new : Byte) : Uart :=
  { u with msr := (new &&& ~~~uartMsrAnyDelta) ||| (u.msr &&& uartMsrAnyDelta)
      ||| lineDeltas u.msr new }

/-- The level of CTS after a change of the lines. -/
theorem setLines_cts (u : Uart) (new : Byte) :
    test (u.setLines new).msr uartMsrCts = test new uartMsrCts := by
  have hdeltas : test (lineDeltas u.msr new) uartMsrCts = false := by
    simp only [lineDeltas, test_or, test_ite, Bool.or_eq_false_iff, Bool.and_eq_false_iff]
    exact ⟨⟨⟨.inr (by decide), .inr (by decide)⟩, .inr (by decide)⟩, .inr (by decide)⟩
  simp only [setLines, test_or, hdeltas]
  rw [test_clear_of_disjoint (by decide), test_and_of_disjoint (by decide)]
  simp

/-- A change of CTS is pending after it, if one was pending or the level
changed. -/
theorem setLines_dcts (u : Uart) (new : Byte) :
    test (u.setLines new).msr uartMsrDcts
      = (test u.msr uartMsrDcts || test (u.msr ^^^ new) uartMsrCts) := by
  have hdeltas : test (lineDeltas u.msr new) uartMsrDcts = test (u.msr ^^^ new) uartMsrCts := by
    have hcts : test uartMsrDcts uartMsrDcts = true := by decide
    have hdsr : test uartMsrDdsr uartMsrDcts = false := by decide
    have hdcd : test uartMsrDdcd uartMsrDcts = false := by decide
    have hri : test uartMsrTeri uartMsrDcts = false := by decide
    simp only [lineDeltas, test_or, test_ite, hcts, hdsr, hdcd, hri]
    simp
  have hlevels : test (new &&& ~~~uartMsrAnyDelta) uartMsrDcts = false := by
    exact test_and_of_disjoint (by decide)
  simp only [setLines, test_or, hdeltas, hlevels]
  rw [test_and_of_cover (by decide)]
  simp

end Uart

end MoxaDrivers.Mxser

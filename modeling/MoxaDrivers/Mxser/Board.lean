import MoxaDrivers.Mxser.Startup

/-!
# A port as the board set-up leaves it

`process_txrx_fifo` with its table `Gpci_uart_info`, and the turn of the loop
of `mxser_initbrd` for one port. `HZ` is the tick rate of the kernel the driver
is built for.
-/

namespace MoxaDrivers.Mxser

open MoxaDrivers.Bits

/-- One row of `Gpci_uart_info`, less the two columns that nothing reads. -/
structure MxpciuartInfo where
  type : Nat
  fifo : FifoInfo
  maxBaud : Int
  deriving DecidableEq, Repr

def gpciUartInfo : List MxpciuartInfo :=
  [⟨moxaOtherUart, ⟨14, 14, 1, 16⟩, 921600⟩,
   ⟨moxaMustMu150Hwid, ⟨48, 48, 16, 64⟩, 230400⟩,
   ⟨moxaMustMu860Hwid, ⟨96, 96, 32, 128⟩, 921600⟩]

/-- `process_txrx_fifo`; a chip that is not in the table keeps what it had. -/
def processTxrxFifo (p : Port) : Port :=
  { p with fifo :=
      if p.type = port16450 ∨ p.type = port8250 then ⟨1, 1, 1, 1⟩
      else match gpciUartInfo.find? (fun u => u.type == p.isMoxaMustChipFlag) with
        | some u => u.fifo
        | none => p.fifo }

/-- What `mxser_initbrd` takes from `struct mxser_hwconf` for one port. The
PCI set-up puts 921600 for `baud_base`, the ISA set-up 921600 or 115200. -/
structure MxserHwconf where
  ioaddr : Nat
  irq : Int
  uartType : Int
  baudBase : Int
  baudBase_pos : 0 < baudBase
  isMoxaMustChipFlag : Nat
  maxCanSetBaudRate : Int

def zeroTermios : Termios := ⟨0, 0, 0, 0⟩

/-- The registers of a UART that nothing has been written to. -/
def resetUart (msr : Byte) : Uart :=
  ⟨0, 0, 0, 0, 0, 0, msr, uartIirNoInt, ⟨0, 0, 0, 0, 0, 0, 0, 0⟩, [], []⟩

/-- One turn of the loop of `mxser_initbrd`, over an entry of `mxvar_table` that
is zeroed; the interrupts of the UART are disabled as the loop after it does,
and `init` is the driver's `init_termios`. -/
def mxserInitbrd (HZ : Int) (hw : MxserHwconf) (init : Termios) (n : Nat)
    (uart : Uart) : Port :=
  processTxrxFifo {
    port := n
    base := hw.ioaddr
    irq := hw.irq
    isMoxaMustChipFlag := hw.isMoxaMustChipFlag
    type := hw.uartType
    flags := asyncShareIrq
    infoTty := false
    ier := 0
    mcr := 0
    xChar := 0
    ldiscStopRx := false
    readStatusMask := 0
    ignoreStatusMask := 0
    ring := ⟨none, 0, 0, 0⟩
    rate := {
      baudBase := hw.baudBase
      baudBase_pos := hw.baudBase_pos
      maxCanSetBaudRate := hw.maxCanSetBaudRate
      speed := 9600
      realbaud := 0
      customBaudRate := 0
      customDivisor := hw.baudBase * 16
      timeout := 0
      setBaudMethod := 0 }
    fifo := ⟨0, 0, 0, 0⟩
    opens := {
      count := 0
      blockedOpen := 0
      closeDelay := (5 * HZ).tdiv 10
      closingWait := BitVec.ofInt 16 (30 * HZ) }
    icount := ⟨0, 0, 0, 0, 0⟩
    mon := ⟨0, 0, 0, 0, 0, 0⟩
    event := ⟨false, false⟩
    normalTermios := init
    mxserMsr := 0
    logTxcnt := 0
    tty := ⟨zeroTermios, false, false, false, false, false⟩
    uart := { uart with ier := uart.ier &&& 0xF0 } }

/-! ## A port to run things on -/

/-- Port 0 of a C104 board at 0x180 with a UART of type `uartType` (a C104 has
no MUST chips), its tty open with the settings `termios`. -/
def c104Port (uartType : Int) (termios : Termios) : Port :=
  let hw : MxserHwconf := ⟨0x180, 5, uartType, 921600, by decide, moxaOtherUart, 921600⟩
  { mxserInitbrd 100 hw termios 0 (resetUart uartMsrCts) with
    infoTty := true
    tty := ⟨termios, false, false, true, false, false⟩ }

/-- 9600 baud and 8 bits, with `cflag` on top. -/
def c104Termios (cflag : Word) : Termios := ⟨cflag ||| cs8 ||| 0x000D, 0, 0x11, 0x13⟩

/-- The same port started up on a page of zeros. -/
def c104Started (uartType : Int) (termios : Termios) : Port :=
  startupUart (startupPage (c104Port uartType termios) fun _ => 0)

theorem c104Started_started {uartType : Int} (h : uartType ≠ 0) (termios : Termios) :
    Started (c104Started uartType termios) := by
  have hinit : (c104Port uartType termios).initialized = false := by
    show test asyncShareIrq asyncInitialized = false
    decide
  have hbase : ¬ ((c104Port uartType termios).base = 0 ∨ (c104Port uartType termios).type = 0) :=
    not_or.mpr ⟨Nat.succ_ne_zero _, h⟩
  refine ⟨c104Port uartType termios, fun _ => 0, 0x60, false, hinit, ?_,
    startupUart_initialized _⟩
  simp only [mxserStartup, hinit, Bool.false_eq_true, if_false, if_neg hbase]
  rfl

end MoxaDrivers.Mxser

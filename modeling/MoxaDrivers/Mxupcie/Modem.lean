import MoxaDrivers.Mxser.Modem
import MoxaDrivers.Mxupcie.Startup

/-!
# The modem lines

`mx_check_modem_status`. Unlike `mxser_check_modem_status` it leaves the
transmit interrupt alone: the chip itself holds its transmitter on CTS. Four
places read `UART_MSR` of an open port: the interrupt, `mxupcie_tiocmget`,
`MOXA_GETMSTATUS` by what it does for one port, and an open that waits in
`mx_block_til_ready`.
-/

namespace MoxaDrivers.Mxupcie

open MoxaDrivers.Bits MoxaDrivers.Mxser

/-- The deltas are counted and the status is kept for the monitor. -/
def countDeltas (p : Port) (status : Byte) : Port :=
  { p with
    icount := { p.icount with
      rng := if test status uartMsrTeri then p.icount.rng + 1 else p.icount.rng
      dsr := if test status uartMsrDdsr then p.icount.dsr + 1 else p.icount.dsr
      dcd := if test status uartMsrDdcd then p.icount.dcd + 1 else p.icount.dcd
      cts := if test status uartMsrDcts then p.icount.cts + 1 else p.icount.cts }
    mon := { p.mon with modemStatus := status } }

/-- A loss of carrier on a port that watches it raises the hangup event; a rise
only wakes the openers. -/
def carrierChange (p : Port) (status : Byte) : Port :=
  { p with event := { p.event with hangup := p.event.hangup ||
      (test p.flags asyncCheckCd && test status uartMsrDdcd && !test status uartMsrDcd &&
        !(test p.flags asyncCalloutActive && test p.flags asyncCalloutNohup)) } }

/-- `tty->hw_stopped` follows CTS. -/
def ctsChange (p : Port) (status : Byte) : Port :=
  if p.tty.hwStopped then
    if test status uartMsrCts then (p.setHwStopped false).setTxlow else p
  else if !test status uartMsrCts then p.setHwStopped true
  else p

/-- `mx_check_modem_status`, called with a tty. -/
def mxCheckModemStatus (p : Port) (status : Byte) : Port :=
  let p := carrierChange (countDeltas p status) status
  if test p.flags asyncCtsFlow then ctsChange p status else p

/-! ## The readers of `UART_MSR` -/

/-- The input lines take the levels in the high half of `new`; delta bits
stay until a read. -/
def Uart.setLines (u : Uart) (new : Byte) : Uart :=
  { u with msr := (new &&& ~~~uartMsrAnyDelta) ||| (u.msr &&& uartMsrAnyDelta)
      ||| Mxser.Uart.lineDeltas u.msr new }

/-- What one pass of `mx_interrupt` does with `UART_MSR`. Without a tty the pass
clears the FIFOs and reads the register for nothing. -/
def interruptMsr (p : Port) : Port :=
  if !p.infoTty then { p.readMsr.2 with uart := { p.readMsr.2.uart with fcr := 0x27 } }
  else
    let (msr, p) := p.readMsr
    if test msr uartMsrAnyDelta then mxCheckModemStatus p msr else p

/-- `mxupcie_tiocmget` of a port that is not the control port. -/
def mxupcieTiocmget (p : Port) : Except Errno Word × Port :=
  if p.tty.ioError then (.error .eio, p)
  else
    let control := p.mcr
    let (status, p) := p.readMsr
    let p := if test status uartMsrAnyDelta then mxCheckModemStatus p status else p
    let flag (b : Bool) (bit : Word) : Word := if b then bit else 0
    (.ok (flag (test control uartMcrRts) tiocmRts ||| flag (test control uartMcrDtr) tiocmDtr |||
      flag (test status uartMsrDcd) tiocmCar ||| flag (test status uartMsrRi) tiocmRng |||
      flag (test status uartMsrDsr) tiocmDsr ||| flag (test status uartMsrCts) tiocmCts), p)

/-- `struct mxupcie_mstatus`. -/
structure MxupcieMstatus where
  cflag : Word
  cts : Bool
  dsr : Bool
  ri : Bool
  dcd : Bool
  deriving DecidableEq, Repr

/-- `MOXA_GETMSTATUS` for one port: the levels are reported and the deltas that
the read clears are not looked at. `old` is the port's entry of the static
table, `normalCflag` the setting kept for the next open. -/
def getmstatusPort (p : Port) (old : MxupcieMstatus) (normalCflag : Word) :
    MxupcieMstatus × Port :=
  if p.base = 0 then ({ old with ri := false, dcd := false, dsr := false, cts := false }, p)
  else
    let cflag := if p.infoTty then p.tty.termios.cCflag else normalCflag
    let (status, p) := p.readMsr
    ({ cflag
       ri := false
       dcd := test status uartMsrDcd
       dsr := test status uartMsrDsr
       cts := test status uartMsrCts }, p)

/-- DTR and RTS are raised in `UART_MCR`, past the shadow. -/
def raiseLines (p : Port) : Port :=
  if test p.flags asyncCalloutActive then p
  else { p with uart := { p.uart with mcr := p.uart.mcr ||| uartMcrDtr ||| uartMcrRts } }

/-- The condition of the wait that asks for the carrier; the register is read
only where nothing before it decides. -/
def carrierReady (p : Port) (doClocal : Bool) : Bool × Port :=
  if test p.flags asyncCalloutActive || test p.flags asyncClosing then (false, p)
  else if doClocal then (true, p)
  else (test p.readMsr.1 uartMsrDcd, p.readMsr.2)

/-- Where a turn of the wait leads. -/
inductive WaitTurn where
  | ready
  | failed (e : Errno)
  | asleep
  deriving DecidableEq, Repr

/-- One turn of the loop of `mx_block_til_ready`: `hungUp` is
`tty_hung_up_p(filp)`, `doClocal` what the call took from `CLOCAL`, `signal`
whether a signal is pending. -/
def blockTurn (p : Port) (hungUp doClocal signal : Bool) : WaitTurn × Port :=
  let p := raiseLines p
  if hungUp || !p.initialized then
    (.failed (if test p.flags asyncHupNotify then .eagain else .erestartsys), p)
  else
    let c := carrierReady p doClocal
    if c.1 then (.ready, { c.2 with flags := c.2.flags ||| asyncNormalActive })
    else if signal then (.failed .erestartsys, c.2)
    else (.asleep, c.2)

/-! ## What a status changes -/

theorem ctsChange_frame (p : Port) (status : Byte) :
    ∃ event hw, ctsChange p status
      = { p with event := event, tty := { p.tty with hwStopped := hw } } := by
  simp only [ctsChange]
  split
  · split
    · exact ⟨_, _, rfl⟩
    · exact ⟨p.event, p.tty.hwStopped, rfl⟩
  · split
    · exact ⟨p.event, _, rfl⟩
    · exact ⟨p.event, p.tty.hwStopped, rfl⟩

/-- Of what the transmitter depends on, a modem status changes `hw_stopped` at
most. -/
theorem mxCheckModemStatus_frame (p : Port) (status : Byte) :
    ∃ icount mon event hw, mxCheckModemStatus p status = { p with
      icount := icount, mon := mon, event := event, tty := { p.tty with hwStopped := hw } } := by
  simp only [mxCheckModemStatus]
  split
  · obtain ⟨event, hw, he⟩ := ctsChange_frame (carrierChange (countDeltas p status) status) status
    exact ⟨_, _, event, hw, he⟩
  · exact ⟨_, _, _, p.tty.hwStopped, rfl⟩

end MoxaDrivers.Mxupcie

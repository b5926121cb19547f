import MoxaDrivers.Mxser.Startup

/-!
# The modem lines

`mxser_check_modem_status`, `mxser_get_msr` with the sticky copy `mxser_msr`,
`mxser_tiocmset`, and the five places that read `UART_MSR` of an open port: the
interrupt, `mxser_tiocmget`, and the requests `MOXA_ASPP_MON`,
`MOXA_ASPP_MON_EXT` and `MOXA_GETMSTATUS`, the last two by what they do for one
port.
-/

namespace MoxaDrivers.Mxser

open MoxaDrivers.Bits

/-! ## A status that was read -/

/-- The deltas are counted and the status is kept for the monitor. -/
def countDeltas (p : Port) (status : Byte) : Port :=
  { p with
    icount := { p.icount with
      rng := if test status uartMsrTeri then p.icount.rng + 1 else p.icount.rng
      dsr := if test status uartMsrDdsr then p.icount.dsr + 1 else p.icount.dsr
      dcd := if test status uartMsrDdcd then p.icount.dcd + 1 else p.icount.dcd
      cts := if test status uartMsrDcts then p.icount.cts + 1 else p.icount.cts }
    mon := { p.mon with modemStatus := status } }

/-- A loss of carrier on a port that watches it raises the hangup event; a rise
only wakes the openers. -/
def carrierChange (p : Port) (status : Byte) : Port :=
  { p with event := { p.event with hangup := p.event.hangup ||
      (test p.flags asyncCheckCd && test status uartMsrDdcd && !test status uartMsrDcd &&
        !(test p.flags asyncCalloutActive && test p.flags asyncCalloutNohup)) } }

/-- `tty->hw_stopped` follows CTS; where the chip does not look after CTS, the
transmit interrupt follows it too. -/
def ctsChange (p : Port) (status : Byte) : Port :=
  if p.tty.hwStopped then
    if test status uartMsrCts then
      let q := p.setHwStopped false
      (if p.autoCts then q else q.thriOff.thriOn).setTxlow
    else p
  else if !test status uartMsrCts then
    let q := p.setHwStopped true
    if p.autoCts then q else q.thriOff
  else p

def mxserCheckModemStatus (p : Port) (status : Byte) : Port :=
  let p := carrierChange (countDeltas p status) status
  if test p.flags asyncCtsFlow then ctsChange p status else p

/-! ## The readers of `UART_MSR` -/

def mxserGetMsr (p : Port) (mode : Int) : Byte × Port :=
  let (status, p) := p.inbMsr
  -- of what was read before only the deltas are kept
  let sticky := (p.mxserMsr &&& 0x0F) ||| status
  (sticky, { p with mxserMsr := if mode ≠ 0 then 0 else sticky })

/-- What one pass of `mxser_interrupt` does with `UART_MSR`. Without a tty the
pass clears the FIFOs and reads the register for nothing. -/
def interruptMsr (p : Port) : Port :=
  if !p.infoTty then { p.inbMsr.2 with uart := { p.inbMsr.2.uart with fcr := 0x27 } }
  else
    let (msr, p) := p.inbMsr
    if test msr uartMsrAnyDelta then mxserCheckModemStatus p msr else p

def tiocmDtr : Word := 0x002
def tiocmRts : Word := 0x004
def tiocmCts : Word := 0x020
def tiocmCar : Word := 0x040
def tiocmRng : Word := 0x080
def tiocmDsr : Word := 0x100

/-- `mxser_tiocmget` of a port that is not the control port. -/
def mxserTiocmget (p : Port) : Except Errno Word × Port :=
  if p.tty.ioError then (.error .eio, p)
  else
    let control := p.mcr
    let (status, p) := p.inbMsr
    let p := if test status uartMsrAnyDelta then mxserCheckModemStatus p status else p
    let flag (b : Bool) (bit : Word) : Word := if b then bit else 0
    (.ok (flag (test control uartMcrRts) tiocmRts ||| flag (test control uartMcrDtr) tiocmDtr |||
      flag (test status uartMsrDcd) tiocmCar ||| flag (test status uartMsrRi) tiocmRng |||
      flag (test status uartMsrDsr) tiocmDsr ||| flag (test status uartMsrCts) tiocmCts), p)

/-- `mxser_tiocmset` of a port that is not the control port. -/
def mxserTiocmset (p : Port) (set clear : Word) : Option Errno × Port :=
  if p.tty.ioError then (some .eio, p)
  else
    let mcr := if test set tiocmRts then p.mcr ||| uartMcrRts else p.mcr
    let mcr := if test set tiocmDtr then mcr ||| uartMcrDtr else mcr
    let mcr := if test clear tiocmRts then mcr &&& ~~~uartMcrRts else mcr
    let mcr := if test clear tiocmDtr then mcr &&& ~~~uartMcrDtr else mcr
    (none, p.setMcr mcr)

def nppiNotifyCtshold : Byte := 0x01
def nppiNotifyXoffhold : Byte := 0x08
def nppiNotifyXoffxent : Byte := 0x10

/-- The hold reasons that `MOXA_ASPP_MON` reports, from `UART_MCR` of a MUST
chip and `tty->hw_stopped`. -/
def holdReason (old mcr : Byte) (hwStopped : Bool) : Byte :=
  let put (r : Byte) (off : Bool) (bit : Byte) : Byte := if off then r &&& ~~~bit else r ||| bit
  let r := put old (test mcr moxaMustMcrXonFlag) nppiNotifyXoffhold
  let r := put r (test mcr moxaMustMcrTxXon) nppiNotifyXoffxent
  put r (!hwStopped) nppiNotifyCtshold

/-- `MOXA_ASPP_MON`; `mcr` is what its read of `UART_MCR` returns. -/
def asppMon (p : Port) (mcr : Byte) : Except Errno MxserMon × Port :=
  if p.tty.ioError then (.error .eio, p)
  else
    let (status, p) := mxserGetMsr p 1
    let p := mxserCheckModemStatus p status
    let p := { p with mon := { p.mon with
      holdReason := holdReason p.mon.holdReason mcr p.tty.hwStopped } }
    (.ok p.mon, p)

/-- One column of `struct mxser_mon_ext`. -/
structure MonExtEntry where
  rxCnt : BitVec 64
  txCnt : BitVec 64
  upRxcnt : BitVec 64
  upTxcnt : BitVec 64
  modemStatus : Byte
  baudrate : Int
  databits : Word
  stopbits : Word
  parity : Word
  flowctrl : Byte
  fifo : Bool
  iftype : Byte
  deriving DecidableEq, Repr

/-- `info->tty->termios`, or the settings kept for the next open. -/
def Port.termios (p : Port) : Termios := if p.infoTty then p.tty.termios else p.normalTermios

/-- `MOXA_ASPP_MON_EXT` for one port: the deltas are counted here and
`mxser_check_modem_status` is not called; `opmode` is what the read of the
port's `opmode_ioaddr` returns. A port without a base address is passed over. -/
def monExtPort (p : Port) (opmode : Byte) : Option MonExtEntry × Port :=
  if p.base = 0 then (none, p)
  else
    -- counted here, and not passed on to `mxser_check_modem_status`
    let (status, p) := mxserGetMsr p 0
    let p := countDeltas p status
    let cflag := p.termios.cCflag
    let iflag := p.termios.cIflag
    (some {
      rxCnt := p.mon.rxcnt
      txCnt := p.mon.txcnt
      upRxcnt := p.mon.upRxcnt
      upTxcnt := p.mon.upTxcnt
      modemStatus := p.mon.modemStatus
      baudrate := p.rate.realbaud
      databits := cflag &&& csize
      stopbits := cflag &&& cstopb
      parity := cflag &&& (parenb ||| parodd ||| cmspar)
      flowctrl := (if test cflag crtscts then 0x03 else 0) |||
        (if test iflag (ixon ||| ixoff) then 0x0C else 0)
      fifo := p.type == port16550A
      iftype := (opmode >>> (2 * (p.port % 4))) &&& 3 }, p)

structure MxserMstatus where
  cflag : Word
  cts : Bool
  dsr : Bool
  ri : Bool
  dcd : Bool
  deriving DecidableEq, Repr

/-- `MOXA_GETMSTATUS` for one port: the levels are reported and the deltas that
the read clears are not looked at. `old` is the port's entry of the static
table, which keeps its `cflag` where there is no base address. -/
def getmstatusPort (p : Port) (old : MxserMstatus) : MxserMstatus × Port :=
  if p.base = 0 then ({ old with ri := false, dcd := false, dsr := false, cts := false }, p)
  else
    let cflag := p.termios.cCflag
    let (status, p) := p.inbMsr
    ({ cflag
       ri := false
       dcd := test status uartMsrDcd
       dsr := test status uartMsrDsr
       cts := test status uartMsrCts }, p)

/-! ## What they change -/

theorem hwStopped_self {p : Port} {b : Bool} (h : p.tty.hwStopped = b) :
    p = { p with tty := { p.tty with hwStopped := b } } := by
  rw [← h]

/-- `ctsChange` makes `hw_stopped` say whether CTS was low in the status, and
otherwise touches the event bits and the interrupt enables only. -/
theorem ctsChange_eq (p : Port) (status : Byte) :
    ∃ ev ier uier, ctsChange p status = { p with
      event := ev
      tty := { p.tty with hwStopped := !test status uartMsrCts }
      ier := ier
      uart := { p.uart with ier := uier } } := by
  cases hs : p.tty.hwStopped with
  | true =>
      cases hc : test status uartMsrCts with
      | true =>
          simp only [ctsChange, hs, hc, if_true]
          split
          · exact ⟨_, p.ier, p.uart.ier, rfl⟩
          · exact ⟨_, _, _, rfl⟩
      | false =>
          simp only [ctsChange, hs, hc]
          exact ⟨p.event, p.ier, p.uart.ier, hwStopped_self hs⟩
  | false =>
      cases hc : test status uartMsrCts with
      | true =>
          simp only [ctsChange, hs, hc]
          exact ⟨p.event, p.ier, p.uart.ier, hwStopped_self hs⟩
      | false =>
          simp only [ctsChange, hs, hc, Bool.false_eq_true, if_false, Bool.not_false, if_true]
          split
          · exact ⟨p.event, p.ier, p.uart.ier, rfl⟩
          · exact ⟨p.event, _, _, rfl⟩

/-- The transmit interrupt stays as it is where the chip looks after CTS, or
`hw_stopped` does not change. -/
theorem ctsChange_ier {p : Port} {status : Byte}
    (h : p.autoCts = true ∨ p.tty.hwStopped = !test status uartMsrCts) :
    (ctsChange p status).ier = p.ier := by
  cases hs : p.tty.hwStopped with
  | true =>
      cases hc : test status uartMsrCts with
      | true =>
          have hauto : p.autoCts = true := h.resolve_right (by simp [hs, hc])
          simp only [ctsChange, hs, hc, hauto, if_true]
          rfl
      | false => simp [ctsChange, hs, hc]
  | false =>
      cases hc : test status uartMsrCts with
      | true => simp [ctsChange, hs, hc]
      | false =>
          have hauto : p.autoCts = true := h.resolve_right (by simp [hs, hc])
          simp [ctsChange, hs, hc, hauto, Port.setHwStopped]

/-- When CTS lets a held transmitter go, the transmit interrupt is enabled. -/
theorem ctsChange_thri {p : Port} {status : Byte} (ha : p.autoCts = false)
    (hs : p.tty.hwStopped = true) (hc : test status uartMsrCts = true) :
    (ctsChange p status).thri = true := by
  simp only [ctsChange, hs, hc, ha, if_true, Bool.false_eq_true, if_false]
  exact Port.thriOn_thri _

/-- On a port with CTS flow control `mxser_check_modem_status` counts the deltas
and makes `hw_stopped` follow CTS; without it `hw_stopped` stays. -/
theorem mxserCheckModemStatus_eq (p : Port) (status : Byte) :
    ∃ ev ier uier, mxserCheckModemStatus p status = { countDeltas p status with
      event := ev
      tty := { p.tty with
        hwStopped := bif test p.flags asyncCtsFlow
          then !test status uartMsrCts else p.tty.hwStopped }
      ier := ier
      uart := { p.uart with ier := uier } } := by
  have hflags : (carrierChange (countDeltas p status) status).flags = p.flags := rfl
  cases hf : test p.flags asyncCtsFlow with
  | true =>
      obtain ⟨ev, ier, uier, heq⟩ := ctsChange_eq (carrierChange (countDeltas p status) status) status
      refine ⟨ev, ier, uier, ?_⟩
      simp only [mxserCheckModemStatus, hflags, hf, if_true]
      exact heq
  | false =>
      refine ⟨(carrierChange (countDeltas p status) status).event, p.ier, p.uart.ier, ?_⟩
      simp only [mxserCheckModemStatus, hflags, hf, Bool.false_eq_true, if_false]
      rfl

/-! ## The operations as steps -/

/-- A change of the input lines, the interrupt, and the requests that read
`UART_MSR`; arguments are what the other registers read. -/
inductive ModemOp where
  | setLines (levels : Byte)
  | interrupt
  | tiocmget
  | asppMon (mcr : Byte)
  | asppMonExt (opmode : Byte)
  | getmstatus (old : MxserMstatus)
  deriving DecidableEq, Repr

def ModemOp.apply (op : ModemOp) (p : Port) : Port :=
  match op with
  | .setLines levels => { p with uart := p.uart.setLines levels }
  | .interrupt => interruptMsr p
  | .tiocmget => (mxserTiocmget p).2
  | .asppMon mcr => (Mxser.asppMon p mcr).2
  | .asppMonExt opmode => (monExtPort p opmode).2
  | .getmstatus old => (getmstatusPort p old).2

def modemStep (p : Port) (op : ModemOp) : Except Fault Port := .ok (op.apply p)

/-- An open port on its hardware: what the requests check before they read. -/
structure OnLine (p : Port) : Prop where
  tty : p.infoTty = true
  base : p.base ≠ 0
  noError : p.tty.ioError = false

/-- What a read of `UART_MSR` at an interrupt or for `mxser_tiocmget` leads to. -/
def servedMsr (p : Port) : Port :=
  if test p.uart.msr uartMsrAnyDelta then mxserCheckModemStatus p.inbMsr.2 p.uart.msr
  else p.inbMsr.2

/-- The operations on an open port. -/
theorem modemOp_apply {p : Port} (h : OnLine p) (op : ModemOp) :
    (∃ levels, op = .setLines levels ∧ op.apply p = { p with uart := p.uart.setLines levels }) ∨
    ((op = .interrupt ∨ op = .tiocmget) ∧ op.apply p = servedMsr p) ∨
    (∃ mcr reason, op = .asppMon mcr ∧
      op.apply p =
        let q := mxserCheckModemStatus (mxserGetMsr p 1).2 (mxserGetMsr p 1).1
        { q with mon := { q.mon with holdReason := reason } }) ∨
    (∃ opmode, op = .asppMonExt opmode ∧
      op.apply p = countDeltas (mxserGetMsr p 0).2 (mxserGetMsr p 0).1) ∨
    (∃ old, op = .getmstatus old ∧ op.apply p = p.inbMsr.2) := by
  cases op with
  | setLines levels => exact .inl ⟨levels, rfl, rfl⟩
  | interrupt =>
      refine .inr (.inl ⟨.inl rfl, ?_⟩)
      simp only [ModemOp.apply, interruptMsr, h.tty]
      rfl
  | tiocmget =>
      refine .inr (.inl ⟨.inr rfl, ?_⟩)
      simp only [ModemOp.apply, mxserTiocmget, h.noError]
      rfl
  | asppMon mcr =>
      refine .inr (.inr (.inl ⟨mcr, ?_, rfl, ?_⟩))
      rotate_left
      · simp only [ModemOp.apply, Mxser.asppMon, h.noError]
        rfl
  | asppMonExt opmode =>
      refine .inr (.inr (.inr (.inl ⟨opmode, rfl, ?_⟩)))
      simp only [ModemOp.apply, monExtPort, if_neg h.base]
  | getmstatus old =>
      refine .inr (.inr (.inr (.inr ⟨old, rfl, ?_⟩)))
      simp only [ModemOp.apply, getmstatusPort, if_neg h.base]

end MoxaDrivers.Mxser

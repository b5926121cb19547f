import MoxaDrivers.Mxser.SerialInfo
import MoxaDrivers.Mxupcie.Speed
import MoxaDrivers.Mxupcie.Startup

/-!
# `TIOCSSERIAL` and `SMARTIO_SET_SPECIAL_BAUD_RATE`

`mx_set_serial_info` checks the caller's `port` against `*info->base`, which is
not the address of the UART but what a read of its first register returns; that
byte is an argument here. Nothing writes `info->custom_divisor` after the
set-up of the board, and a privileged caller divides `baud_base` by the
`custom_divisor` it gives, unless both are what the port has.
-/

namespace MoxaDrivers.Mxupcie

open MoxaDrivers.Bits MoxaDrivers.Mxser
open MoxaDrivers.Machine

/-- A port with the fields that `TIOCSSERIAL` alone looks at. -/
structure SerialPort where
  port : Port
  customDivisor : Int
  closeDelay : Int
  closingWait : BitVec 16

/-- As `mxupcie_initbrd` leaves a port. -/
def serialInit (HZ : Int) (p : Port) : SerialPort :=
  ⟨p, p.rate.baudBase * 16, (5 * HZ).tdiv 10, BitVec.ofInt 16 (30 * HZ)⟩

/-- `mx_process_txrx_fifo`. -/
def mxProcessTxrxFifo (p : Port) : Port :=
  { p with fifo :=
      if p.type = port16450 ∨ p.type = port8250 then ⟨1, 1, 1, 1⟩
      else ⟨0x60, 0x6E, 0x10, mxTxFifoSize⟩ }

/-- The changes a caller without `CAP_SYS_ADMIN` may make. -/
def userSerialInfo (s : SerialPort) (new : SerialStruct) : SerialPort :=
  { s with port := { s.port with
      flags := (s.port.flags &&& ~~~asyncUsrMask) ||| (new.flags &&& asyncUsrMask) } }

/-- Those of a privileged caller. -/
def adminSerialInfo (HZ : Int) (s : SerialPort) (new : SerialStruct) :
    Except Fault SerialPort := do
  let custom ←
    if new.baudBase ≠ s.port.rate.baudBase ∨ new.customDivisor ≠ s.customDivisor
    then cdiv new.baudBase new.customDivisor else pure s.port.rate.customBaudRate
  let flags := (s.port.flags &&& ~~~asyncFlags) ||| (new.flags &&& asyncFlags)
  return { s with
    port := { s.port with
      flags := flags
      tty := { s.port.tty with lowLatency := test flags asyncLowLatency }
      rate := { s.port.rate with customBaudRate := custom } }
    closeDelay := (new.closeDelay.toNat * HZ).tdiv 100
    closingWait := BitVec.ofInt 16 ((new.closingWait.toNat * HZ).tdiv 100) }

/-- The port with the UART type taken over. -/
def withType (s : SerialPort) (type : Int) : SerialPort :=
  { s with port := mxProcessTxrxFifo { s.port with type := type } }

/-- The end of `mx_set_serial_info`: the UART type is taken over, and the rate
follows a change of the `ASYNC_SPD` flags. -/
def applySerialInfo (HZ : Int) (s : SerialPort) (type : Int) (oldSpd : Word)
    (page : Option Page) (lsr : Byte) (admin : Bool) :
    Except Fault (Option Errno × SerialPort) :=
  let s := withType s type
  if s.port.initialized then
    if oldSpd ≠ s.port.flags &&& asyncSpdMask then do
      let p ← mxChangeSpeed HZ s.port
      return (none, { s with port := p })
    else .ok (none, s)
  else
    let r := mxStartup s.port page lsr admin
    .ok (r.1, { s with port := r.2 })

/-- The calls that come back with `-EPERM`; `rbr` is what the read of
`*info->base` returns. -/
def SerialInfoDenied (s : SerialPort) (new : SerialStruct) (rbr : Byte) (admin : Bool) : Prop :=
  new.irq ≠ s.port.irq ∨ new.port ≠ rbr.toNat ∨
    (admin = false ∧ (new.baudBase ≠ s.port.rate.baudBase ∨
      (new.closeDelay.toNat : Int) ≠ s.closeDelay ∨
      new.flags &&& ~~~asyncUsrMask ≠ s.port.flags &&& ~~~asyncUsrMask))

instance (s : SerialPort) (new : SerialStruct) (rbr : Byte) (admin : Bool) :
    Decidable (SerialInfoDenied s new rbr admin) :=
  inferInstanceAs (Decidable (_ ∨ _))

/-- `mx_set_serial_info`; `page` and `lsr` are for the start-up of a port that is
not initialised. -/
def mxSetSerialInfo (HZ : Int) (s : SerialPort) (new : SerialStruct) (rbr : Byte) (admin : Bool)
    (page : Option Page) (lsr : Byte) : Except Fault (Option Errno × SerialPort) :=
  if s.port.base = 0 then .ok (some .efault, s)
  else if SerialInfoDenied s new rbr admin then .ok (some .eperm, s)
  else do
    let q ← (if admin then adminSerialInfo HZ s new else .ok (userSerialInfo s new))
    applySerialInfo HZ q new.type (s.port.flags &&& asyncSpdMask) page lsr admin

/-- The request `TIOCSSERIAL`. -/
def tiocsserial (HZ : Int) (s : SerialPort) (new : SerialStruct) (rbr : Byte) (admin : Bool)
    (page : Option Page) (lsr : Byte) : Except Fault (Option Errno × SerialPort) :=
  if s.port.tty.ioError then .ok (some .eio, s)
  else mxSetSerialInfo HZ s new rbr admin page lsr

/-! ## `SMARTIO_SET_SPECIAL_BAUD_RATE` -/

/-- The rate in `c_cflag` and in `info->speed`. -/
def requested (p : Port) (speed : Int) : Port :=
  { p.setSpeed speed with
    tty := { p.tty with termios := { p.tty.termios with
      cCflag := (p.tty.termios.cCflag &&& ~~~cbaudMask) ||| specialCbaud speed } } }

/-- `SMARTIO_SET_SPECIAL_BAUD_RATE`: its error, and the port. It does not ask for
`TTY_IO_ERROR`. -/
def smartioSetSpecialBaudRate (HZ : Int) (p : Port) (speed : Int) :
    Except Fault (Option Errno × Port) :=
  if speed ≤ 0 ∨ speed > p.rate.maxCanSetBaudRate then .ok (some .efault, p)
  else if !p.infoTty || p.base == 0 then .ok (none, p)
  else do
    let p ← mxChangeSpeed HZ (requested p speed)
    return (none, p)

end MoxaDrivers.Mxupcie

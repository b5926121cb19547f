import MoxaDrivers.Can.Frame

/-!
# The SJA1000 driver

`sja1000.c`, with what it uses of `dev.c`. What the chip answers is read where the
driver reads it; of the chip itself are kept the buffers that the driver reads and writes,
its reset mode, and what it has begun or has to report.
-/

namespace MoxaDrivers.Can

open MoxaDrivers.Bits

/-! ## Registers -/

def sja1000Fi : Nat := 0x10
def sja1000Id1 : Nat := 0x11
def sja1000Id2 : Nat := 0x12
def sja1000Id3 : Nat := 0x13
def sja1000Id4 : Nat := 0x14
def sja1000SffBuf : Nat := 0x13
def sja1000EffBuf : Nat := 0x15

def sja1000FiFf : Byte := 0x80
def sja1000FiRtr : Byte := 0x40

def modRm : Byte := 0x01

def irqOff : Byte := 0x00
def irqAll : Byte := 0xFF
def irqBei : Byte := 0x80
def irqAli : Byte := 0x40
def irqEpi : Byte := 0x20
def irqDoi : Byte := 0x08
def irqEi : Byte := 0x04
def irqTi : Byte := 0x02
def irqRi : Byte := 0x01

def srBs : Byte := 0x80
def srEs : Byte := 0x40
def srTcs : Byte := 0x08
def srRbs : Byte := 0x01

def eccSeg : Byte := 0x1F
def eccDir : Byte := 0x20
def eccBit : Byte := 0x00
def eccForm : Byte := 0x40
def eccStuff : Byte := 0x80
def eccMask : Byte := 0xC0

def sja1000MaxIrq : Nat := 20

/-- The registers of a buffer, by their address. -/
abbrev Regs := Nat → Byte

def Regs.write (r : Regs) (writes : List (Nat × Byte)) : Regs :=
  writes.foldl (fun r w a => if a = w.1 then w.2 else r a) r

/-! ## Error frames -/

def canErrDlc : Byte := 8
def canErrLostarb : Canid := 0x002
def canErrCrtl : Canid := 0x004
def canErrProt : Canid := 0x008
def canErrBusoff : Canid := 0x040
def canErrBuserror : Canid := 0x080
def canErrRestarted : Canid := 0x100

def canErrCrtlRxOverflow : Byte := 0x01
def canErrCrtlRxWarning : Byte := 0x04
def canErrCrtlTxWarning : Byte := 0x08
def canErrCrtlRxPassive : Byte := 0x10
def canErrCrtlTxPassive : Byte := 0x20
def canErrProtUnspec : Byte := 0x00
def canErrProtBit : Byte := 0x01
def canErrProtForm : Byte := 0x02
def canErrProtStuff : Byte := 0x04
def canErrProtTx : Byte := 0x80

/-- `alloc_can_err_skb`. -/
def errFrame : CanFrame := ⟨canErrFlag, canErrDlc, Vector.replicate canMaxDlen 0⟩

def CanFrame.orId (cf : CanFrame) (flag : Canid) : CanFrame :=
  { cf with canId := cf.canId ||| flag }

def CanFrame.setData (cf : CanFrame) (i : Fin 8) (b : Byte) : CanFrame :=
  { cf with data := cf.data.set i b i.isLt }

/-! ## The state -/

inductive CanState where
  | errorActive
  | errorWarning
  | errorPassive
  | busOff
  | stopped
  deriving DecidableEq, Repr

structure Ctrlmode where
  oneShot : Bool
  berrReporting : Bool
  listenonly : Bool
  deriving DecidableEq, Repr

/-- The counters of `dev->stats`, of type `unsigned long`. -/
structure NetStats where
  rxPackets : BitVec 64
  rxBytes : BitVec 64
  rxErrors : BitVec 64
  rxOverErrors : BitVec 64
  txPackets : BitVec 64
  txBytes : BitVec 64
  txErrors : BitVec 64
  txDropped : BitVec 64
  txAbortedErrors : BitVec 64
  deriving DecidableEq, Repr

/-- The counters of `priv->can.can_stats`. -/
structure CanStats where
  busError : BitVec 32
  errorWarning : BitVec 32
  errorPassive : BitVec 32
  busOff : BitVec 32
  arbitrationLost : BitVec 32
  restarts : BitVec 32
  deriving DecidableEq, Repr

structure Skb where
  frame : CanFrame
  /-- `pkt_type` is `PACKET_LOOPBACK`. -/
  loopback : Bool
  /-- `protocol` is `ETH_P_CAN` or `ETH_P_CANFD`. -/
  canProtocol : Bool
  deriving DecidableEq, Repr

/-- What `netif_rx` is given. -/
inductive Upward where
  | received (cf : CanFrame)
  | echo (skb : Skb)
  | error (cf : CanFrame)
  deriving DecidableEq, Repr

structure Sja1000Chip where
  /-- `MOD_RM`. -/
  resetMode : Bool
  ier : Byte
  /-- The transmit buffer. -/
  txBuf : Regs
  /-- `CMD_TR` was given, and the transmission is not over. -/
  request : Bool
  /-- It is over, complete or not, and `IRQ_TI` was not read yet. -/
  ti : Option Bool
  /-- It is bus-off, and `IRQ_EI` was not read yet. -/
  off : Bool
  /-- The frames received and not released. -/
  rxFifo : List Regs

/-- In reset mode the chip gives up what it was about to send and what it received. -/
def Sja1000Chip.reset (c : Sja1000Chip) : Sja1000Chip :=
  { c with resetMode := true, request := false, ti := none, off := false, rxFifo := [] }

/-- The device, with what it handed up and what it freed. -/
structure Sja1000 where
  queueStopped : Bool
  carrier : Bool
  iffEcho : Bool
  state : CanState
  ctrlmode : Ctrlmode
  restartMs : Nat
  /-- `restart_timer` is pending. -/
  restartTimer : Bool
  echoSkb : Option Skb
  stats : NetStats
  canStats : CanStats
  chip : Sja1000Chip
  up : List Upward
  freed : List Skb
  /-- `can_put_echo_skb` found its place occupied. -/
  occupied : Bool

inductive SjaFault where
  /-- `BUG_ON(netif_carrier_ok(dev))`. -/
  | bugOn
  /-- The chip never stops to have something to read. -/
  | looping
  deriving DecidableEq, Repr

namespace Sja1000

def kfreeSkb (s : Sja1000) (skb : Skb) : Sja1000 := { s with freed := s.freed ++ [skb] }

/-- `netif_rx`, counted. -/
def netifRx (s : Sja1000) (u : Upward) (dlc : Byte) : Sja1000 :=
  { s with
    up := s.up ++ [u]
    stats := { s.stats with
      rxPackets := s.stats.rxPackets + 1, rxBytes := s.stats.rxBytes + dlc.setWidth 64 } }

/-! ## Local echo -/

def canFlushEchoSkb (s : Sja1000) : Sja1000 :=
  match s.echoSkb with
  | none => s
  | some skb =>
      let s := s.kfreeSkb skb
      { s with
        echoSkb := none
        stats := { s.stats with
          txDropped := s.stats.txDropped + 1
          txAbortedErrors := s.stats.txAbortedErrors + 1 } }

/-- `cloned` is whether `can_create_echo_skb` gave an skb. -/
def canPutEchoSkb (s : Sja1000) (skb : Skb) (cloned : Bool) : Sja1000 :=
  if !s.iffEcho || !skb.loopback || !skb.canProtocol then s.kfreeSkb skb
  else
    match s.echoSkb with
    | none => if cloned then { s with echoSkb := some skb } else s.kfreeSkb skb
    | some _ => { s.kfreeSkb skb with occupied := true }

def canGetEchoSkb (s : Sja1000) : Sja1000 :=
  match s.echoSkb with
  | none => s
  | some skb => { s with up := s.up ++ [.echo skb], echoSkb := none }

def canFreeEchoSkb (s : Sja1000) : Sja1000 :=
  match s.echoSkb with
  | none => s
  | some skb => { s.kfreeSkb skb with echoSkb := none }

/-! ## Modes of the chip -/

/-- The loop of `set_reset_mode` with `n` turns left; `mods` are the `SJA1000_MOD` it reads. -/
def resetLoop (mods : Nat → Byte) : (n k : Nat) → Sja1000 → Sja1000
  | 0, _, s => s
  | n + 1, k, s =>
      if test (mods k) modRm then { s with state := .stopped, chip := s.chip.reset }
      else resetLoop mods n (k + 1) s

def setResetMode (mods : Nat → Byte) (s : Sja1000) : Sja1000 :=
  resetLoop mods 100 0 { s with chip := { s.chip with ier := irqOff } }

def normalLoop (mods : Nat → Byte) : (n k : Nat) → Sja1000 → Sja1000
  | 0, _, s => s
  | n + 1, k, s =>
      if !test (mods k) modRm then
        { s with
          state := .errorActive
          chip := { s.chip with
            resetMode := false
            ier := if s.ctrlmode.berrReporting then irqAll else irqAll &&& ~~~irqBei } }
      else normalLoop mods n (k + 1) s

def setNormalMode (mods : Nat → Byte) (s : Sja1000) : Sja1000 := normalLoop mods 100 0 s

/-- What the two loops read. -/
structure ModReads where
  reset : Nat → Byte
  normal : Nat → Byte

def sja1000Start (m : ModReads) (s : Sja1000) : Sja1000 :=
  setNormalMode m.normal (if s.state ≠ .stopped then setResetMode m.reset s else s)

/-- `CAN_MODE_START` of `sja1000_set_mode`. -/
def sja1000SetMode (m : ModReads) (s : Sja1000) : Sja1000 :=
  { sja1000Start m s with queueStopped := false }

/-! ## Bus-off and restart -/

def canBusOff (s : Sja1000) : Sja1000 :=
  { s with
    carrier := false
    canStats := { s.canStats with busOff := s.canStats.busOff + 1 }
    restartTimer := s.restartTimer || s.restartMs != 0 }

/-- The restart message, if there is an skb for it. -/
def tellRestart (skb : Bool) (s : Sja1000) : Sja1000 :=
  let s := if skb then s.netifRx (.error (errFrame.orId canErrRestarted)) canErrDlc else s
  { s with canStats := { s.canStats with restarts := s.canStats.restarts + 1 } }

/-- The timer fires. -/
def canRestart (m : ModReads) (skb : Bool) (s : Sja1000) : Except SjaFault Sja1000 :=
  if s.carrier then .error .bugOn
  else
    let s := tellRestart skb (canFlushEchoSkb { s with restartTimer := false })
    .ok { sja1000SetMode m s with carrier := true }

/-- `-EINVAL` and `-EBUSY` leave everything as it is. -/
def canRestartNow (s : Sja1000) : Int × Sja1000 :=
  if s.restartMs ≠ 0 then (-22, s)
  else if s.state ≠ .busOff then (-16, s)
  else (0, { s with restartTimer := true })

/-! ## Transmission -/

/-- What `sja1000_start_xmit` writes to the transmit buffer. -/
def xmitWrites (cf : CanFrame) : List (Nat × Byte) :=
  let id := cf.canId
  let dlc := cf.canDlc
  let data (dreg : Nat) := (List.range dlc.toNat).map fun i => (dreg + i, cf.data.toList.getD i 0)
  let fi := if test id canRtrFlag then dlc ||| sja1000FiRtr else dlc
  if test id canEffFlag then
    [(sja1000Fi, fi ||| sja1000FiFf),
      (sja1000Id1, ((id &&& 0x1FE00000) >>> 21).setWidth 8),
      (sja1000Id2, ((id &&& 0x001FE000) >>> 13).setWidth 8),
      (sja1000Id3, ((id &&& 0x00001FE0) >>> 5).setWidth 8),
      (sja1000Id4, ((id &&& 0x0000001F) <<< 3).setWidth 8)] ++ data sja1000EffBuf
  else
    [(sja1000Fi, fi),
      (sja1000Id1, ((id &&& 0x000007F8) >>> 3).setWidth 8),
      (sja1000Id2, ((id &&& 0x00000007) <<< 5).setWidth 8)] ++ data sja1000SffBuf

def writeXmit (cf : CanFrame) (s : Sja1000) : Sja1000 :=
  { s with chip := { s.chip with txBuf := s.chip.txBuf.write (xmitWrites cf) } }

/-- `CMD_TR`; `CMD_AT` beside it for one shot. In reset mode the chip takes no command. -/
def writeCmdTr (s : Sja1000) : Sja1000 :=
  { s with chip := { s.chip with request := s.chip.request || !s.chip.resetMode } }

/-- `can_dropped_invalid_skb` has found the skb invalid and freed it. -/
def dropInvalid (skb : Skb) (s : Sja1000) : Sja1000 :=
  let s := s.kfreeSkb skb
  { s with stats := { s.stats with txDropped := s.stats.txDropped + 1 } }

def stopQueue (s : Sja1000) : Sja1000 := { s with queueStopped := true }

/-- `sja1000_start_xmit` in one go. -/
def sja1000StartXmit (skb : Skb) (invalid cloned : Bool) (s : Sja1000) : Sja1000 :=
  if invalid then dropInvalid skb s
  else writeCmdTr (canPutEchoSkb (writeXmit skb.frame (stopQueue s)) skb cloned)

/-! ## Reception -/

/-- `get_can_dlc`. -/
def getCanDlc (x : Byte) : Byte := if x.toNat ≤ canMaxDlen then x else BitVec.ofNat 8 canMaxDlen

/-- What `sja1000_rx` makes of the receive buffer. -/
def rxFrame (r : Regs) : CanFrame :=
  let fi := r sja1000Fi
  let reg (a : Nat) : Canid := (r a).setWidth 32
  let ff := test fi sja1000FiFf
  let id := if ff then
      (reg sja1000Id1 <<< 21 ||| reg sja1000Id2 <<< 13 ||| reg sja1000Id3 <<< 5 |||
        reg sja1000Id4 >>> 3) ||| canEffFlag
    else reg sja1000Id1 <<< 3 ||| reg sja1000Id2 >>> 5
  let dreg := if ff then sja1000EffBuf else sja1000SffBuf
  let dlc := getCanDlc (fi &&& 0x0F)
  if test fi sja1000FiRtr then ⟨id ||| canRtrFlag, dlc, payload []⟩
  else ⟨id, dlc, payload ((List.range dlc.toNat).map fun i => r (dreg + i))⟩

/-- Without an skb the buffer is not released. -/
def sja1000Rx (skb : Bool) (s : Sja1000) : Sja1000 :=
  if skb then
    let cf := rxFrame (s.chip.rxFifo.headD fun _ => 0)
    { s with chip := { s.chip with rxFifo := s.chip.rxFifo.tail } }.netifRx (.received cf) cf.canDlc
  else s

/-! ## The interrupt -/

/-- What is read in a turn of the receive loop. -/
structure RxTurn where
  skb : Bool
  status : Byte
  mod : Byte

/-- What is read in a turn of the interrupt. -/
structure IsrTurn where
  isrc : Byte
  status : Byte
  mod : Byte
  /-- `SJA1000_FI` when a transmission is complete. -/
  fi : Byte
  rxs : List RxTurn
  errSkb : Bool
  ecc : Byte
  alc : Byte
  rxerr : Byte
  txerr : Byte

/-- `sja1000_is_absent` where the status is 0xFF. -/
def absent (status mod : Byte) : Bool := status == 0xFF && mod == 0xFF

def protLocation (ecc : Byte) (cf : CanFrame) : CanFrame :=
  let orProt (b : Byte) := cf.setData 2 (cf.data[2] ||| b)
  let cf := if ecc &&& eccMask = eccBit then orProt canErrProtBit
    else if ecc &&& eccMask = eccForm then orProt canErrProtForm
    else if ecc &&& eccMask = eccStuff then orProt canErrProtStuff
    else (orProt canErrProtUnspec).setData 3 (ecc &&& eccSeg)
  if ecc &&& eccDir = 0 then cf.setData 2 (cf.data[2] ||| canErrProtTx) else cf

/-- The error frame, and the state that is not entered yet. -/
structure ErrWork where
  s : Sja1000
  cf : CanFrame
  state : CanState

def errOverrun (w : ErrWork) : ErrWork :=
  { w with
    cf := (w.cf.orId canErrCrtl).setData 1 canErrCrtlRxOverflow
    s := { w.s with stats := { w.s.stats with
      rxOverErrors := w.s.stats.rxOverErrors + 1, rxErrors := w.s.stats.rxErrors + 1 } } }

def errWarning (status : Byte) (w : ErrWork) : ErrWork :=
  if test status srBs then ⟨canBusOff w.s, w.cf.orId canErrBusoff, .busOff⟩
  else if test status srEs then { w with state := .errorWarning }
  else { w with state := .errorActive }

def errBus (ecc : Byte) (w : ErrWork) : ErrWork :=
  { w with
    cf := protLocation ecc (w.cf.orId (canErrProt ||| canErrBuserror))
    s := { w.s with
      canStats := { w.s.canStats with busError := w.s.canStats.busError + 1 }
      stats := { w.s.stats with rxErrors := w.s.stats.rxErrors + 1 } } }

def errPassive (status : Byte) (w : ErrWork) : ErrWork :=
  { w with state := if test status srEs then .errorPassive else .errorActive }

def errArbitration (alc : Byte) (w : ErrWork) : ErrWork :=
  { w with
    cf := (w.cf.orId canErrLostarb).setData 0 (alc &&& 0x1F)
    s := { w.s with
      canStats := { w.s.canStats with arbitrationLost := w.s.canStats.arbitrationLost + 1 }
      stats := { w.s.stats with txErrors := w.s.stats.txErrors + 1 } } }

def errCounters (rxerr txerr : Byte) (w : ErrWork) : ErrWork :=
  let tell (tx rx : Byte) := (((w.cf.orId canErrCrtl).setData 1 (if txerr > rxerr then tx else rx)
    ).setData 6 txerr).setData 7 rxerr
  let c := w.s.canStats
  if w.state ≠ w.s.state ∧ w.state = .errorWarning then
    { w with
      cf := tell canErrCrtlTxWarning canErrCrtlRxWarning
      s := { w.s with canStats := { c with errorWarning := c.errorWarning + 1 } } }
  else if w.state ≠ w.s.state ∧ w.state = .errorPassive then
    { w with
      cf := tell canErrCrtlTxPassive canErrCrtlRxPassive
      s := { w.s with canStats := { c with errorPassive := c.errorPassive + 1 } } }
  else w

/-- `none` is `-ENOMEM`. -/
def sja1000Err (t : IsrTurn) (s : Sja1000) : Option Sja1000 :=
  if t.errSkb then
    let w : ErrWork := ⟨s, errFrame, s.state⟩
    let w := if test t.isrc irqDoi then errOverrun w else w
    let w := if test t.isrc irqEi then errWarning t.status w else w
    let w := if test t.isrc irqBei then errBus t.ecc w else w
    let w := if test t.isrc irqEpi then errPassive t.status w else w
    let w := if test t.isrc irqAli then errArbitration t.alc w else w
    let w := errCounters t.rxerr t.txerr w
    some ({ w.s with state := w.state }.netifRx (.error w.cf) w.cf.canDlc)
  else none

/-- Reading `SJA1000_IR` takes back what it reports. -/
def readIr (isrc : Byte) (s : Sja1000) : Sja1000 :=
  { s with chip := { s.chip with
    ti := if test isrc irqTi then none else s.chip.ti
    off := s.chip.off && !test isrc irqEi } }

/-- The transmission buffer is released. -/
def isrTransmit (t : IsrTurn) (s : Sja1000) : Sja1000 :=
  let s := if s.ctrlmode.oneShot && !test t.status srTcs then
      canFreeEchoSkb { s with stats := { s.stats with txErrors := s.stats.txErrors + 1 } }
    else
      canGetEchoSkb { s with stats := { s.stats with
        txBytes := s.stats.txBytes + (t.fi &&& 0xF).setWidth 64
        txPackets := s.stats.txPackets + 1 } }
  { s with queueStopped := false }

/-- The status after the receive loop, and whether the controller was absent. -/
def rxLoop : List RxTurn → Byte → Sja1000 → Except SjaFault (Byte × Bool × Sja1000)
  | [], status, s => if test status srRbs then .error .looping else .ok (status, false, s)
  | r :: rs, status, s =>
      if test status srRbs then
        let s := sja1000Rx r.skb s
        if absent r.status r.mod then .ok (r.status, true, s) else rxLoop rs r.status s
      else .ok (status, false, s)

def errSources : Byte := irqDoi ||| irqEi ||| irqBei ||| irqEpi ||| irqAli

def isrReceive (t : IsrTurn) (s : Sja1000) : Except SjaFault (Byte × Bool × Sja1000) :=
  if test t.isrc irqRi then rxLoop t.rxs t.status s else .ok (t.status, false, s)

/-- Whether the loop goes on, and the device. -/
def isrErrors (t : IsrTurn) (status : Byte) (s : Sja1000) : Bool × Sja1000 :=
  if test t.isrc errSources then
    match sja1000Err { t with status := status } s with
    | none => (false, s)
    | some s => (true, s)
  else (true, s)

/-- A turn that found `isrc` not 0: whether the loop goes on, and the device. -/
def isrTurn (t : IsrTurn) (s : Sja1000) : Except SjaFault (Bool × Sja1000) :=
  if absent t.status t.mod then .ok (false, s)
  else do
    let (status, gone, s) ← isrReceive t (if test t.isrc irqTi then isrTransmit t s else s)
    return if gone then (false, s) else isrErrors t status s

/-- The loop after `n` turns. `SJA1000_IR` is read before `n` is compared, and is 0
after the last of the turns. -/
def isrLoop : List IsrTurn → Nat → Sja1000 → Except SjaFault (Nat × Sja1000)
  | [], n, s => .ok (n, s)
  | t :: ts, n, s =>
      let s := readIr t.isrc s
      if t.isrc = 0 ∨ n ≥ sja1000MaxIrq then .ok (n, s)
      else do
        let (goes, s) ← isrTurn t s
        if goes then isrLoop ts (n + 1) s else return (n, s)

/-- The interrupt, and how many turns it handled. -/
def sja1000Interrupt (turns : List IsrTurn) (s : Sja1000) : Except SjaFault (Nat × Sja1000) :=
  if s.chip.ier = irqOff then .ok (0, s) else isrLoop turns 0 s

/-! ## Open and close -/

/-- `-EINVAL` without a bit rate, `-EAGAIN` without the interrupt. -/
def sja1000Open (bitrate : Nat) (irq : Bool) (m : ModReads) (s : Sja1000) : Int × Sja1000 :=
  let s := setResetMode m.reset s
  if bitrate = 0 then (-22, s)
  else
    let s := { s with carrier := true, restartTimer := false }
    if irq then (0, { sja1000Start m s with queueStopped := false })
    else (-11, canFlushEchoSkb s)

def sja1000Close (mods : Nat → Byte) (s : Sja1000) : Sja1000 :=
  let s := setResetMode mods (stopQueue s)
  canFlushEchoSkb { s with restartTimer := false }

/-- `can_changelink`; `mode` is what the mask and the flags make of `ctrlmode`. -/
def canChangelink (isUp : Bool) (mode : Option Ctrlmode) (restartMs : Option Nat)
    (s : Sja1000) : Int × Sja1000 :=
  if isUp && (mode.isSome || restartMs.isSome) then (-16, s)
  else (0, { s with
    ctrlmode := mode.getD s.ctrlmode, restartMs := restartMs.getD s.restartMs })

/-- What `register_sja1000dev` leaves. -/
def registered (txBuf : Regs) : Sja1000 where
  queueStopped := false
  carrier := true
  iffEcho := true
  state := .stopped
  ctrlmode := ⟨false, false, false⟩
  restartMs := 0
  restartTimer := false
  echoSkb := none
  stats := ⟨0, 0, 0, 0, 0, 0, 0, 0, 0⟩
  canStats := ⟨0, 0, 0, 0, 0, 0⟩
  chip := ⟨true, irqOff, txBuf, false, none, false, []⟩
  up := []
  freed := []
  occupied := false

end Sja1000

end MoxaDrivers.Can

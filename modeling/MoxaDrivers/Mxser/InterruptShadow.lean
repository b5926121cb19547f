import MoxaDrivers.Lib.Machine
import MoxaDrivers.Mxser.OpenClose
import MoxaDrivers.Mxser.TransmitStall

/-!
# The interrupt enables and their shadow

The driver edits `info->IER` at over a dozen places and writes the result to
`UART_IER`: the transmit interrupt is taken off and set again, the receive
interrupts of a MUST chip come and go, a pending `x_char` masks everything for a
moment, and a change of speed sets up the modem status interrupt in the shadow
long before it writes it. Between two operations the two are equal.
-/

namespace MoxaDrivers.Mxser

open MoxaDrivers.Bits MoxaDrivers.Machine

/-- `info->IER` is what was last written to `UART_IER`. -/
def IerAgrees (p : Port) : Prop := p.uart.ier = p.ier

/-- The operations between a start-up and its shutdown. A close is cut where it
waits; `setStopped` is the tty core's part of stop and start. -/
inductive IerOp where
  | write (buf : List Byte)
  | putChar (ch : Byte)
  | flushChars
  | setStopped (stopped : Bool)
  | stop
  | start
  | stoprx
  | startrx
  | setTermios (new : Termios)
  | changeSpeed
  | transmitChars
  | modem (op : ModemOp)
  | checkModemStatus (status : Byte)
  | close (hungUp : Bool) (ttyCount : Nat)
  | closeDrained
  | closeEmptied (iir : Byte)

def ierStep (HZ : Int) (p : Port) : IerOp → Except Fault Port
  | .write buf => .ok (mxserWrite p buf).2
  | .putChar ch => .ok (mxserPutChar p ch).2
  | .flushChars => .ok (mxserFlushChars p)
  | .setStopped stopped => .ok { p with tty := { p.tty with stopped := stopped } }
  | .stop => .ok (mxserStop p)
  | .start => .ok (mxserStart p)
  | .stoprx => .ok (mxserStoprx p)
  | .startrx => .ok (mxserStartrx p)
  | .setTermios new =>
      mxserSetTermios HZ { p with tty := { p.tty with termios := new } } p.tty.termios
  | .changeSpeed => mxserChangeSpeed HZ p
  | .transmitChars => .ok (mxserTransmitChars p)
  | .modem op => .ok (op.apply p)
  | .checkModemStatus status => .ok (mxserCheckModemStatus p status)
  | .close hungUp ttyCount => .ok (mxserClose p hungUp ttyCount).2
  | .closeDrained => .ok (stopInput p)
  | .closeEmptied iir => .ok (closeShutdown p iir)

/-! ## What an operation does to the two -/

/-- An operation that writes the shadow whenever it edits it, and neither starts
the port up nor shuts it down. -/
structure KeepsIer (p q : Port) : Prop where
  agrees : IerAgrees p → IerAgrees q
  initialized : q.initialized = p.initialized

theorem KeepsIer.refl (p : Port) : KeepsIer p p := ⟨id, rfl⟩

theorem KeepsIer.trans {p q r : Port} (h : KeepsIer p q) (h' : KeepsIer q r) : KeepsIer p r where
  agrees hp := h'.agrees (h.agrees hp)
  initialized := h'.initialized.trans h.initialized

/-- A change of other fields. -/
theorem keepsIer_frame {p q : Port} (hier : q.ier = p.ier) (huart : q.uart.ier = p.uart.ier)
    (hflags : q.flags = p.flags) : KeepsIer p q where
  agrees hp := by
    show q.uart.ier = q.ier
    rw [huart, hier]
    exact hp
  initialized := Port.initialized_congr hflags

theorem keepsIer_setIer (p : Port) (v : Byte) : KeepsIer p (p.setIer v) := ⟨fun _ => rfl, rfl⟩

theorem keepsIer_toggle (p : Port) : KeepsIer p p.thriOff.thriOn := ⟨fun _ => rfl, rfl⟩

/-! ## The transmit side -/

theorem keepsIer_kick (p : Port) : KeepsIer p (kick p) := by
  simp only [kick]
  split
  · exact keepsIer_toggle p
  · exact .refl p

theorem keepsIer_write (p : Port) (buf : List Byte) : KeepsIer p (mxserWrite p buf).2 := by
  simp only [mxserWrite]
  split
  · exact .refl p
  · obtain ⟨ring, hloop⟩ := writeLoop_frame (buf.length + 1) p buf
    have hframe : KeepsIer p (writeLoop (buf.length + 1) p buf).2 := by
      rw [hloop]
      exact keepsIer_frame rfl rfl rfl
    apply hframe.trans
    show KeepsIer _ (writeKick (writeLoop (buf.length + 1) p buf).2)
    simp only [writeKick]
    split
    · exact keepsIer_kick _
    · exact .refl _

theorem keepsIer_putChar (p : Port) (ch : Byte) : KeepsIer p (mxserPutChar p ch).2 := by
  simp only [mxserPutChar]
  split
  · exact .refl p
  · split
    · exact .refl p
    · have hstore : KeepsIer p (putCharStore p ch) := keepsIer_frame rfl rfl rfl
      apply hstore.trans
      show KeepsIer _ (if (!(putCharStore p ch).tty.stopped) = true then kick (putCharStore p ch)
        else putCharStore p ch)
      split
      · exact keepsIer_kick _
      · exact .refl _

theorem keepsIer_flushChars (p : Port) : KeepsIer p (mxserFlushChars p) := by
  simp only [mxserFlushChars]
  split
  · exact .refl p
  · exact keepsIer_toggle p

theorem keepsIer_stop (p : Port) : KeepsIer p (mxserStop p) := by
  simp only [mxserStop]
  split
  · exact keepsIer_setIer p _
  · exact .refl p

theorem keepsIer_start (p : Port) : KeepsIer p (mxserStart p) := by
  simp only [mxserStart]
  split
  · exact keepsIer_toggle p
  · exact .refl p

theorem KeepsIer.start {p q : Port} (h : KeepsIer p q) : KeepsIer p (mxserStart q) :=
  h.trans (keepsIer_start q)

/-- The write of 0 is followed by a write of the shadow. -/
theorem keepsIer_queueXChar (p : Port) (c : Byte) : KeepsIer p (queueXChar p c) := by
  simp only [queueXChar]
  split
  · exact ⟨fun _ => rfl, rfl⟩
  · exact .refl p

theorem keepsIer_flowRts (p : Port) (mcr : Byte) : KeepsIer p (flowRts p mcr) := by
  simp only [flowRts]
  split
  · exact keepsIer_frame rfl rfl rfl
  · exact .refl p

theorem keepsIer_stoprx (p : Port) : KeepsIer p (mxserStoprx p) := by
  have hstart : KeepsIer p { p with ldiscStopRx := true } := keepsIer_frame rfl rfl rfl
  have hflow : KeepsIer { p with ldiscStopRx := true } (stoprxFlow { p with ldiscStopRx := true })
      := by
    simp only [stoprxFlow]
    split
    · split
      · exact keepsIer_setIer _ _
      · exact keepsIer_queueXChar _ _
    · exact .refl _
  exact (hstart.trans hflow).trans (keepsIer_flowRts _ _)

theorem keepsIer_startrx (p : Port) : KeepsIer p (mxserStartrx p) := by
  have hstart : KeepsIer p { p with ldiscStopRx := false } := keepsIer_frame rfl rfl rfl
  have hflow : KeepsIer { p with ldiscStopRx := false }
      (startrxFlow { p with ldiscStopRx := false }) := by
    simp only [startrxFlow]
    split
    · split
      · exact keepsIer_frame rfl rfl rfl
      · split
        · exact keepsIer_setIer _ _
        · exact keepsIer_queueXChar _ _
    · exact .refl _
  exact (hstart.trans hflow).trans (keepsIer_flowRts _ _)

theorem keepsIer_wakeLow (p : Port) : KeepsIer p (wakeLow p) := by
  simp only [wakeLow]
  split
  · exact keepsIer_frame rfl rfl rfl
  · exact .refl p

theorem keepsIer_transmitChars (p : Port) : KeepsIer p (mxserTransmitChars p) := by
  simp only [mxserTransmitChars]
  split
  · exact keepsIer_frame rfl rfl rfl
  · split
    · exact .refl p
    · rename_i page _
      split
      · exact keepsIer_wakeLow p
      · split
        · exact keepsIer_setIer p _
        · obtain ⟨head, tail, cnt, out, -, -, hloop⟩ :=
            sendLoop_frame page (max 1 p.fifo.xmitFifoSize).toNat p
          have hsent : ∀ n, KeepsIer p
              (countSent (sendLoop page (max 1 p.fifo.xmitFifoSize).toNat p) n) := by
            intro n
            rw [hloop]
            exact keepsIer_frame rfl rfl rfl
          exact (hsent _).trans (keepsIer_wakeLow _)

/-! ## The modem lines -/

theorem keepsIer_ctsChange (p : Port) (status : Byte) : KeepsIer p (ctsChange p status) := by
  simp only [ctsChange]
  split
  · split
    · by_cases hauto : p.autoCts = true
      · simp only [if_pos hauto]
        exact keepsIer_frame rfl rfl rfl
      · simp only [if_neg hauto]
        exact ⟨fun _ => rfl, rfl⟩
    · exact .refl p
  · split
    · by_cases hauto : p.autoCts = true
      · simp only [if_pos hauto]
        exact keepsIer_frame rfl rfl rfl
      · simp only [if_neg hauto]
        exact ⟨fun _ => rfl, rfl⟩
    · exact .refl p

theorem keepsIer_checkModemStatus (p : Port) (status : Byte) :
    KeepsIer p (mxserCheckModemStatus p status) := by
  have hcount : KeepsIer p (carrierChange (countDeltas p status) status) :=
    keepsIer_frame rfl rfl rfl
  apply hcount.trans
  show KeepsIer _ (if test (carrierChange (countDeltas p status) status).flags asyncCtsFlow
    then ctsChange (carrierChange (countDeltas p status) status) status
    else carrierChange (countDeltas p status) status)
  split
  · exact keepsIer_ctsChange _ _
  · exact .refl _

theorem keepsIer_inbMsr (p : Port) : KeepsIer p p.inbMsr.2 := keepsIer_frame rfl rfl rfl

theorem keepsIer_getMsr (p : Port) (mode : Int) : KeepsIer p (mxserGetMsr p mode).2 :=
  keepsIer_frame rfl rfl rfl

theorem keepsIer_modem (p : Port) (op : ModemOp) : KeepsIer p (op.apply p) := by
  have hserved : KeepsIer p (if test p.inbMsr.1 uartMsrAnyDelta
      then mxserCheckModemStatus p.inbMsr.2 p.inbMsr.1 else p.inbMsr.2) := by
    apply (keepsIer_inbMsr p).trans
    split
    · exact keepsIer_checkModemStatus _ _
    · exact .refl _
  cases op with
  | setLines levels => exact keepsIer_frame rfl rfl rfl
  | interrupt =>
      show KeepsIer p (interruptMsr p)
      simp only [interruptMsr]
      split
      · exact keepsIer_frame rfl rfl rfl
      · exact hserved
  | tiocmget =>
      show KeepsIer p (mxserTiocmget p).2
      simp only [mxserTiocmget]
      split
      · exact .refl p
      · exact hserved
  | asppMon mcr =>
      show KeepsIer p (Mxser.asppMon p mcr).2
      simp only [Mxser.asppMon]
      split
      · exact .refl p
      · apply (keepsIer_getMsr p 1).trans
        exact .trans (keepsIer_checkModemStatus _ _) (keepsIer_frame rfl rfl rfl)
  | asppMonExt opmode =>
      show KeepsIer p (monExtPort p opmode).2
      simp only [monExtPort]
      split
      · exact .refl p
      · exact .trans (keepsIer_getMsr p 0) (keepsIer_frame rfl rfl rfl)
  | getmstatus old =>
      show KeepsIer p (getmstatusPort p old).2
      simp only [getmstatusPort]
      split
      · exact .refl p
      · exact keepsIer_inbMsr p

/-! ## The line settings -/

/-- The carrier section ends with a write of the shadow, whatever the sections
before it did. -/
theorem changeSpeedLine_ierAgrees (p : Port) : IerAgrees (changeSpeedLine p) := by
  obtain ⟨rs, is, must, fcr, lcr, heq⟩ := changeSpeedLine_eq p
  rw [heq]
  exact rfl

theorem keepsIer_changeSpeed {HZ : Int} {p q : Port} (h : mxserChangeSpeed HZ p = .ok q) :
    KeepsIer p q := by
  refine ⟨?_, (mxserChangeSpeed_keeps h).2.2.2.2⟩
  rcases mxserChangeSpeed_ok h with ⟨-, rfl⟩ | ⟨-, -, r, -, rfl⟩
  · exact id
  · exact fun _ => changeSpeedLine_ierAgrees r

theorem keepsIer_startAfterTermios (p : Port) (old : Termios) (changed : Bool) :
    KeepsIer p (startAfterTermios p old changed) := by
  -- two starts, each on its own condition
  have hcts : ∀ c : Bool, KeepsIer p
      (if c then mxserStart { p with tty := { p.tty with hwStopped := false } } else p) := by
    intro c
    split
    · exact KeepsIer.start (keepsIer_frame rfl rfl rfl)
    · exact .refl p
  have hixon : ∀ (r : Port) (c : Bool), KeepsIer r
      (if c then mxserStart (setMust { r with tty := { r.tty with stopped := false } }
        MustRegs.disableRxSoftwareFlowControl) else r) := by
    intro r c
    split
    · exact KeepsIer.start (keepsIer_frame rfl rfl rfl)
    · exact .refl r
  simp only [startAfterTermios]
  exact (hcts _).trans (hixon _ _)

theorem keepsIer_setTermios {HZ : Int} {p q : Port} {old : Termios}
    (h : mxserSetTermios HZ p old = .ok q) : KeepsIer p q := by
  obtain ⟨r, hr, hq⟩ := bind_ok_iff.mp h
  cases hq
  refine .trans ?_ (keepsIer_startAfterTermios r old _)
  split at hr
  · exact keepsIer_changeSpeed hr
  · cases hr
    exact .refl p

/-! ## Closing -/

theorem keepsIer_close (p : Port) (hungUp : Bool) (ttyCount : Nat) :
    KeepsIer p (mxserClose p hungUp ttyCount).2 := by
  have hcount : KeepsIer p (countClosed p ttyCount) := keepsIer_frame rfl rfl rfl
  simp only [mxserClose]
  split
  · exact .refl p
  · show KeepsIer p (if (countClosed p ttyCount).opens.count ≠ 0
      then (false, countClosed p ttyCount)
      else (true, startClosing (countClosed p ttyCount))).2
    split
    · exact hcount
    · exact hcount.trans ⟨id, test_or_of_disjoint (by decide)⟩

/-- While the port is up, stopping input writes what it takes out. -/
theorem keepsIer_stopInput {p : Port} (h : p.initialized = true) : KeepsIer p (stopInput p) := by
  refine ⟨fun _ => ?_, rfl⟩
  show (if p.initialized then (stopInput p).ier else p.uart.ier) = (stopInput p).ier
  rw [if_pos h]

theorem closeShutdown_initialized (p : Port) (iir : Byte) :
    (closeShutdown p iir).initialized = false := by
  have hflags : (closeShutdown p iir).initialized = (mxserShutdown p).initialized := rfl
  rw [hflags]
  simp only [mxserShutdown]
  split
  · exact shutdownUart_initialized p
  · rename_i hdown
    simpa using hdown

/-! ## Whole runs -/

/-- What a run keeps: until the port is shut down, the two agree. -/
def IerInv (p : Port) : Prop := p.initialized = true → IerAgrees p

theorem KeepsIer.inv {p q : Port} (h : p.initialized = true → KeepsIer p q)
    (hinit : q.initialized = p.initialized) (hp : IerInv p) : IerInv q := by
  intro hq
  rw [hinit] at hq
  exact (h hq).agrees (hp hq)

theorem KeepsIer.ierInv {p q : Port} (h : KeepsIer p q) (hp : IerInv p) : IerInv q :=
  KeepsIer.inv (fun _ => h) h.initialized hp

theorem ierInv_step {HZ : Int} {p q : Port} {op : IerOp} (hp : IerInv p)
    (h : ierStep HZ p op = .ok q) : IerInv q := by
  cases op with
  | write buf =>
      cases h
      exact (keepsIer_write p buf).ierInv hp
  | putChar ch =>
      cases h
      exact (keepsIer_putChar p ch).ierInv hp
  | flushChars =>
      cases h
      exact (keepsIer_flushChars p).ierInv hp
  | setStopped stopped =>
      cases h
      exact hp
  | stop =>
      cases h
      exact (keepsIer_stop p).ierInv hp
  | start =>
      cases h
      exact (keepsIer_start p).ierInv hp
  | stoprx =>
      cases h
      exact (keepsIer_stoprx p).ierInv hp
  | startrx =>
      cases h
      exact (keepsIer_startrx p).ierInv hp
  | setTermios new =>
      have hsettings : KeepsIer p { p with tty := { p.tty with termios := new } } :=
        keepsIer_frame rfl rfl rfl
      exact (hsettings.trans (keepsIer_setTermios h)).ierInv hp
  | changeSpeed => exact (keepsIer_changeSpeed h).ierInv hp
  | transmitChars =>
      cases h
      exact (keepsIer_transmitChars p).ierInv hp
  | modem op =>
      cases h
      exact (keepsIer_modem p op).ierInv hp
  | checkModemStatus status =>
      cases h
      exact (keepsIer_checkModemStatus p status).ierInv hp
  | close hungUp ttyCount =>
      cases h
      exact (keepsIer_close p hungUp ttyCount).ierInv hp
  | closeDrained =>
      cases h
      exact KeepsIer.inv keepsIer_stopInput rfl hp
  | closeEmptied iir =>
      cases h
      intro hup
      rw [closeShutdown_initialized] at hup
      cases hup

/-- Start-up leaves them equal. -/
theorem Started.ierAgrees {p : Port} (h : Started p) : IerAgrees p := by
  obtain ⟨p₀, page, rfl⟩ := h.eq
  simp [startupUart, markIoError, Port.setIer, Port.setMcr, Port.inbMsr, Uart.inbMsr, IerAgrees]

/-- **The shadow of the interrupt enables is exact.** From a start-up until the
port is shut down, whatever operations come in whatever order, `info->IER` is
the value last written to `UART_IER` in every state between two of them. -/
theorem interrupt_enables_shadowed {HZ : Int} {p : Port} (h : Started p) (ops : List IerOp) :
    Always (ierStep HZ) (fun q => q.initialized = true → q.uart.ier = q.ier) p ops :=
  always_of_invariant (I := IerInv) (fun _ _ _ hp hstep => ierInv_step hp hstep)
    fun _ => h.ierAgrees

/-- On a plain port with CTS flow control: start-up, a write and a close. -/
theorem interrupt_enables_shadowed_c104 :
    Always (ierStep 100) (fun q => q.initialized = true → q.uart.ier = q.ier)
      (c104Started port16450 (c104Termios crtscts))
      [.changeSpeed, .write [0x41], .stoprx, .transmitChars, .closeDrained] :=
  interrupt_enables_shadowed (c104Started_started (by decide) _) _

end MoxaDrivers.Mxser

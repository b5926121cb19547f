import MoxaDrivers.Mxupcie.Modem
import MoxaDrivers.Mxupcie.Speed
import MoxaDrivers.Mxupcie.Startup

/-!
# Queued bytes and the transmit interrupt

A byte in the ring leaves through the transmit interrupt, so the interrupt must
be enabled whenever bytes are queued in a port that holds a page and whose tty
is not stopped. Every operation keeps this, but for `mxupcie_put_char` while
`hw_stopped` is set: the tty core calls `mxupcie_flush_chars` after it, and that
puts it right.
-/

namespace MoxaDrivers.Mxupcie

open MoxaDrivers.Bits MoxaDrivers.Machine MoxaDrivers.Mxser

/-- Queued bytes of a tty that is not stopped have the transmit interrupt on, in
`info->IER` and in what was last written to `UART_IER`. -/
def TxArmed (p : Port) : Prop :=
  0 < p.ring.cnt → p.ring.buf.isSome = true → p.tty.stopped = false →
    test p.ier uartIerThri = true ∧ test p.uart.ier uartIerThri = true

/-- The same of the shadow alone. -/
def ShadowArmed (p : Port) : Prop :=
  0 < p.ring.cnt → p.ring.buf.isSome = true → p.tty.stopped = false → p.thri = true

/-- An operation keeps the interrupt enable register equal to its shadow, and
the shadow armed. -/
structure Keeps (p q : Port) : Prop where
  register : p.uart.ier = p.ier → q.uart.ier = q.ier
  armed : ShadowArmed p → ShadowArmed q

theorem Keeps.refl (p : Port) : Keeps p p := ⟨id, id⟩

theorem Keeps.trans {p q r : Port} (h : Keeps p q) (h' : Keeps q r) : Keeps p r :=
  ⟨h'.register ∘ h.register, h'.armed ∘ h.armed⟩

/-! ## What arms the port -/

theorem kick_armed (p : Port) : ShadowArmed (kick p) := by
  intro _ _ _
  exact kick_thri p

theorem armed_of_stopped {p : Port} (h : p.tty.stopped = true) : ShadowArmed p := by
  intro _ _ hstop
  simp [h] at hstop

/-- The port with one bit other than THRI changed in both the shadow and the
register. -/
theorem keeps_setIer {p : Port} {v : Byte} (h : test v uartIerThri = test p.ier uartIerThri) :
    Keeps p (p.setIer v) := by
  refine ⟨fun _ => rfl, ?_⟩
  intro harmed hcnt hbuf hstop
  exact h.trans (harmed hcnt hbuf hstop)

/-- A port that differs in what the transmit interrupt does not depend on. -/
theorem keeps_of_same {p q : Port} (hring : q.ring = p.ring)
    (hstop : q.tty.stopped = p.tty.stopped) (hthri : q.thri = p.thri)
    (hreg : p.uart.ier = p.ier → q.uart.ier = q.ier) : Keeps p q := by
  refine ⟨hreg, ?_⟩
  intro harmed
  simp only [ShadowArmed]
  rw [hring, hstop, hthri]
  exact harmed

/-! ## Filling, stopping, starting -/

theorem writeKick_armed (p : Port) : ShadowArmed (writeKick p) := by
  simp only [writeKick]
  split
  · exact kick_armed p
  · rename_i hno
    intro hcnt _ hstop
    exact absurd ⟨by omega, by simp [hstop]⟩ hno

theorem keeps_write (p : Port) (buf : List Byte) : Keeps p (mxupcieWrite p buf).2 := by
  simp only [mxupcieWrite]
  split
  · exact Keeps.refl p
  · refine ⟨?_, fun _ => writeKick_armed _⟩
    intro hreg
    simp only [writeKick]
    split
    · rfl
    · exact hreg

/-- A `put_char` keeps the register in step; it may leave the byte without the
interrupt. -/
theorem mxupciePutChar_register {p : Port} (h : p.uart.ier = p.ier) (ch : Byte) :
    (mxupciePutChar p ch).2.uart.ier = (mxupciePutChar p ch).2.ier := by
  simp only [mxupciePutChar]
  split
  · exact h
  · split
    · exact h
    · simp only [putCharKick]
      split
      · split
        · rfl
        · exact h
      · exact h

/-- A `flush_chars` arms the port, whatever was left before. -/
theorem mxupcieFlushChars_armed (p : Port) : ShadowArmed (mxupcieFlushChars p) := by
  simp only [mxupcieFlushChars]
  split
  · rename_i hno
    intro hcnt hbuf hstop
    rcases hno with hno | hno | hno
    · omega
    · simp [hstop] at hno
    · simp [Option.isNone_iff_eq_none.mp hno] at hbuf
  · exact kick_armed p

theorem mxupcieFlushChars_register {p : Port} (h : p.uart.ier = p.ier) :
    (mxupcieFlushChars p).uart.ier = (mxupcieFlushChars p).ier := by
  simp only [mxupcieFlushChars]
  split
  · exact h
  · rfl

/-- A stop follows the setting of `tty->stopped`, and then nothing is asked. -/
theorem keeps_stop (p : Port) :
    Keeps p (mxupcieStop { p with tty := { p.tty with stopped := true } }) := by
  simp only [mxupcieStop]
  split
  · exact ⟨fun _ => rfl, fun _ => armed_of_stopped rfl⟩
  · exact ⟨id, fun _ => armed_of_stopped rfl⟩

theorem mxupcieStart_armed (p : Port) : ShadowArmed (mxupcieStart p) := by
  simp only [mxupcieStart]
  split
  · exact kick_armed p
  · rename_i hno
    intro hcnt hbuf _
    exact absurd ⟨by omega, hbuf⟩ hno

/-- A start arms the port, whatever the tty was before. -/
theorem keeps_start (p : Port) (tty : TtyStruct) :
    Keeps p (mxupcieStart { p with tty := tty }) := by
  refine ⟨?_, fun _ => mxupcieStart_armed _⟩
  intro hreg
  simp only [mxupcieStart]
  split
  · rfl
  · exact hreg

/-! ## The interrupt -/

/-- Stopped, it turns itself off; else it leaves the interrupt enabled and no
more bytes than there were. -/
theorem keeps_transmitChars {p q : Port} {tcnt : Byte} (h : mxTransmitChars p tcnt = .ok q) :
    Keeps p q := by
  rcases mxTransmitChars_cases h with ⟨event, rfl, -⟩ | ⟨hstop, rfl⟩ |
    ⟨page, cnt, event, hbuf, -, -, rfl⟩
  · exact keeps_of_same rfl rfl rfl id
  · exact ⟨fun _ => rfl, fun _ => armed_of_stopped hstop⟩
  · by_cases hzero : cnt = 0
    · simp only [ne_eq, hzero, not_true_eq_false, if_false]
      exact keeps_of_same rfl rfl rfl id
    · simp only [ne_eq, hzero, not_false_eq_true, if_true]
      refine ⟨id, ?_⟩
      intro harmed hcnt _ hstop
      have hless : 0 < p.ring.cnt - cnt := hcnt
      exact harmed (by omega) (by simp [hbuf]) hstop

theorem keeps_checkModemStatus (p : Port) (status : Byte) :
    Keeps p (mxCheckModemStatus p status) := by
  obtain ⟨icount, mon, event, hw, heq⟩ := mxCheckModemStatus_frame p status
  rw [heq]
  exact keeps_of_same rfl rfl rfl id

/-! ## The line settings -/

theorem keeps_changeSpeed {HZ : Int} {p q : Port} (h : mxChangeSpeed HZ p = .ok q) :
    Keeps p q := by
  rcases mxChangeSpeed_frame h with
    rfl | ⟨flags, ier, rs, is, rate, mcr, u, rfl, hreg, hthri⟩
  · exact Keeps.refl q
  · exact keeps_of_same rfl rfl hthri fun _ => hreg

theorem keeps_startAfterTermios (p : Port) (old : Termios) (changed : Bool) :
    Keeps p (startAfterTermios p old changed) := by
  have hfirst : Keeps p
      (if (changed && test old.cCflag crtscts && !test p.tty.termios.cCflag crtscts) = true then
        mxupcieStart { p with tty := { p.tty with hwStopped := false } } else p) := by
    split
    · exact keeps_start p _
    · exact Keeps.refl p
  simp only [startAfterTermios]
  split
  · exact hfirst.trans (keeps_start _ _)
  · exact hfirst

theorem keeps_setTermios {HZ : Int} {p q : Port} {old : Termios}
    (h : mxupcieSetTermios HZ p old = .ok q) : Keeps p q := by
  obtain ⟨r, hr, hq⟩ := bind_ok_iff.mp h
  cases hq
  have hchange : Keeps p r := by
    split at hr
    · exact keeps_changeSpeed hr
    · cases hr
      exact Keeps.refl p
  exact hchange.trans (keeps_startAfterTermios r old _)

/-! ## Whole runs -/

/-- What the tty core, the interrupt and the line discipline do to an open port.
The tty core sets `tty->stopped` before it calls `stop`, clears it before it
calls `start`, and stores new settings before it calls `set_termios`. -/
inductive TtyOp where
  | write (buf : List Byte)
  | putChar (ch : Byte)
  | flushChars
  | stop
  | start
  | transmitChars (tcnt : Byte)
  | checkModemStatus (status : Byte)
  | throttle
  | unthrottle
  | setTermios (new : Termios)

/-- The port after an operation. -/
def TtyOp.apply (HZ : Int) (op : TtyOp) (p : Port) : Except Fault Port :=
  match op with
  | .write buf => .ok (mxupcieWrite p buf).2
  | .putChar ch => .ok (mxupciePutChar p ch).2
  | .flushChars => .ok (mxupcieFlushChars p)
  | .stop => .ok (mxupcieStop { p with tty := { p.tty with stopped := true } })
  | .start => .ok (mxupcieStart { p with tty := { p.tty with stopped := false } })
  | .transmitChars tcnt => mxTransmitChars p tcnt
  | .checkModemStatus status => .ok (mxCheckModemStatus p status)
  | .throttle => .ok (mxStoprx p)
  | .unthrottle => .ok (mxStartrx p)
  | .setTermios new =>
      mxupcieSetTermios HZ { p with tty := { p.tty with termios := new } } p.tty.termios

/-- A port, and whether the tty core still owes a `flush_chars` to the
`put_char` calls it made. -/
structure Line where
  port : Port
  unflushed : Bool

/-- Whether a `flush_chars` is owed after the operation. -/
def TtyOp.owes (op : TtyOp) (unflushed : Bool) : Bool :=
  match op with
  | .putChar _ => true
  | .flushChars => false
  | _ => unflushed

def ttyStep (HZ : Int) (l : Line) (op : TtyOp) : Except Fault Line := do
  let p ← op.apply HZ l.port
  return ⟨p, op.owes l.unflushed⟩

structure StallInv (l : Line) : Prop where
  register : l.port.uart.ier = l.port.ier
  armed : l.unflushed = false → ShadowArmed l.port

theorem StallInv.keep {l : Line} (h : StallInv l) {q : Port} (hq : Keeps l.port q) :
    StallInv ⟨q, l.unflushed⟩ :=
  ⟨hq.register h.register, fun hflushed => hq.armed (h.armed hflushed)⟩

theorem stallInv_step {HZ : Int} {l m : Line} {op : TtyOp} (h : StallInv l)
    (hstep : ttyStep HZ l op = .ok m) : StallInv m := by
  obtain ⟨q, hq, hm⟩ := bind_ok_iff.mp hstep
  cases hm
  cases op with
  | write buf =>
      cases hq
      exact h.keep (keeps_write l.port buf)
  | putChar ch =>
      cases hq
      exact ⟨mxupciePutChar_register h.register ch, nofun⟩
  | flushChars =>
      cases hq
      exact ⟨mxupcieFlushChars_register h.register, fun _ => mxupcieFlushChars_armed l.port⟩
  | stop =>
      cases hq
      exact h.keep (keeps_stop l.port)
  | start =>
      cases hq
      exact h.keep (keeps_start l.port _)
  | transmitChars tcnt => exact h.keep (keeps_transmitChars hq)
  | checkModemStatus status =>
      cases hq
      exact h.keep (keeps_checkModemStatus l.port status)
  | throttle =>
      cases hq
      exact h.keep (keeps_setIer (test_clear_of_disjoint (by decide)))
  | unthrottle =>
      cases hq
      exact h.keep (keeps_setIer (test_or_of_disjoint (by decide)))
  | setTermios new =>
      have hstored : Keeps l.port { l.port with tty := { l.port.tty with termios := new } } :=
        keeps_of_same rfl rfl rfl id
      exact h.keep (hstored.trans (keeps_setTermios hq))

theorem Started.stallInv {p : Port} (hp : Started p) : StallInv ⟨p, false⟩ := by
  obtain ⟨-, -, -, hcnt⟩ := hp.ring
  obtain ⟨p₀, page, -, rfl⟩ := hp.eq
  refine ⟨rfl, ?_⟩
  intro _ hpos
  simp [startupUart] at hpos

/-- **No transmit stall.** In every state of every run after `mx_startup` in
which no `put_char` waits for its `flush_chars`: if bytes are queued, the port
holds a page and the tty is not stopped, the transmit interrupt is enabled in
`info->IER` and in `UART_IER`. -/
theorem queued_bytes_keep_thri (HZ : Int) {p : Port} (hp : Started p) (ops : List TtyOp) :
    Always (ttyStep HZ) (fun l => l.unflushed = false → TxArmed l.port) ⟨p, false⟩ ops := by
  have hinv : Always (ttyStep HZ) StallInv ⟨p, false⟩ ops :=
    always_of_invariant (fun l op m h hstep => stallInv_step h hstep) hp.stallInv
  refine hinv.mono fun l hl hflushed => ?_
  intro hcnt hbuf hstop
  have hthri : test l.port.ier uartIerThri = true := hl.armed hflushed hcnt hbuf hstop
  exact ⟨hthri, by rw [hl.register]; exact hthri⟩

/-- CTS falls under `CRTSCTS`, bytes are put and flushed, the tty is stopped and
started, and the settings change. -/
theorem queued_bytes_keep_thri_cp102 :
    Always (ttyStep 100) (fun l => l.unflushed = false → TxArmed l.port)
      ⟨cp102Started (cp102Termios crtscts), false⟩
      [.checkModemStatus uartMsrDcts, .putChar 0x41, .flushChars, .stop, .start,
        .transmitChars 128, .setTermios (cp102Termios 0), .throttle, .unthrottle] :=
  queued_bytes_keep_thri 100 (cp102Started_started (cp102Termios crtscts)) _

end MoxaDrivers.Mxupcie

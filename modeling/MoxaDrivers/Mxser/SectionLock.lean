import MoxaDrivers.Lib.Machine
import MoxaDrivers.Lib.Sections
import MoxaDrivers.Mxser.Receive
import MoxaDrivers.Mxser.Board

/-!
# Who holds `slock`

The operations on one port as code that enters and leaves the sections under
`info->slock`. `MX_LOCK` and `MX_UNLOCK` do nothing where `in_interrupt()` is
true, which it is in a softirq as well as in the interrupt handler. The handler
takes the lock by `spin_lock`, so that the sections of `mxser_stoprx` within it
are under the lock all the same; a softirq has nothing that takes it.
-/

namespace MoxaDrivers.Mxser

open MoxaDrivers.Bits MoxaDrivers.Machine MoxaDrivers.Sections

/-! ## The lock -/

/-- Where a call comes from. -/
inductive Context where
  | process
  | softirq
  | interrupt
  deriving DecidableEq, Repr

/-- `in_interrupt()`. -/
def Context.inInterrupt : Context → Bool
  | .process => false
  | .softirq => true
  | .interrupt => true

/-- `MX_LOCK` and `MX_UNLOCK`, or `spin_lock` and `spin_unlock`. -/
inductive LockOp where
  | mxLock
  | spinLock
  deriving DecidableEq, Repr

def takesSlock (ctx : Context) : LockOp → Bool
  | .mxLock => !ctx.inInterrupt
  | .spinLock => true

/-- Where every section is under the lock. -/
def Context.covered (ctx : Context) : Bool := ctx != .softirq

abbrev LineCode := Code Line LockOp

/-! ## Pieces of code -/

def Line.onPort (f : Port → Port) (l : Line) : Line := { l with port := f l.port }

/-- An access outside the sections of its own. -/
def access (f : Port → Port) (next : LineCode) : LineCode := .act (Line.onPort f) fun _ => next

/-- A test of the port, without the lock. -/
def branch (c : Port → Bool) (yes no : LineCode) : LineCode :=
  .act id fun l => if c l.port then yes else no

/-- `MX_LOCK(&info->slock); ...; MX_UNLOCK(&info->slock)`. -/
def locked (f : Port → Port) (next : LineCode) : LineCode := .sect .mxLock (Line.onPort f) next

/-! ## The operations of the tty core -/

/-- The transmit interrupt is enabled, where nothing holds the transmitter. -/
def kickCode (next : LineCode) : LineCode :=
  branch (fun p => !p.tty.hwStopped || p.autoCts) (locked (fun p => p.thriOff.thriOn) next) next

def writeEndCode : LineCode :=
  branch (fun p => p.ring.cnt != 0 && !p.tty.stopped) (kickCode .ret) .ret

/-- A chunk is sized and copied without the lock, and made part of the ring under
it. -/
def writeLoopCode : Nat → List Byte → LineCode
  | 0, _ => writeEndCode
  | fuel + 1, buf =>
      .act (Line.onPort fun p => match writeCopy p buf with
        | none => p
        | some (_, p) => p) fun l =>
        match writeCopy l.port buf with
        | none => writeEndCode
        | some (c, _) => locked (fun p => writeCommit p c) (writeLoopCode fuel (buf.drop c))

def mxserWriteCode (buf : List Byte) : LineCode :=
  branch (fun p => p.ring.buf.isNone) .ret (writeLoopCode (buf.length + 1) buf)

def mxserPutCharCode (ch : Byte) : LineCode :=
  branch (fun p => p.ring.buf.isNone || decide (p.ring.cnt ≥ serialXmitSize - 1)) .ret
    (locked (fun p => putCharStore p ch)
      (branch (fun p => !p.tty.stopped) (kickCode .ret) .ret))

def mxserStopCode : LineCode := locked mxserStop .ret

def mxserStartCode : LineCode := locked mxserStart .ret

/-- The `CRTSCTS` part of `mxser_stoprx` and `mxser_startrx`. -/
def flowRtsCode (mcr : Byte → Byte) (next : LineCode) : LineCode :=
  branch (fun p => test p.tty.termios.cCflag crtscts) (locked (fun p => p.setMcr (mcr p.mcr)) next)
    next

def mxserStoprxCode (next : LineCode) : LineCode :=
  let rts := flowRtsCode (fun mcr => mcr &&& ~~~uartMcrRts) next
  access (fun p => { p with ldiscStopRx := true })
    (branch (fun p => test p.tty.termios.cIflag ixoff)
      (locked (fun p =>
        if p.isMoxaMustChipFlag ≠ 0 then p.setIer (p.ier &&& ~~~moxaMustRecvIsr)
        else queueXChar p p.tty.termios.stopChar) rts)
      rts)

def mxserStartrxCode (next : LineCode) : LineCode :=
  let rts := flowRtsCode (fun mcr => mcr ||| uartMcrRts) next
  access (fun p => { p with ldiscStopRx := false })
    (branch (fun p => test p.tty.termios.cIflag ixoff)
      -- a pending `x_char` is dropped without the lock
      (branch (fun p => p.xChar != 0) (access (fun p => { p with xChar := 0 }) rts)
        (locked (fun p =>
          if p.isMoxaMustChipFlag ≠ 0 then p.setIer (p.ier ||| moxaMustRecvIsr)
          else queueXChar p p.tty.termios.startChar) rts))
      rts)

/-- The FIFOs are cleared after the section. -/
def mxserFlushBufferCode (iir : Byte) : LineCode :=
  locked (fun p => { p with ring := { p.ring with cnt := 0, head := 0, tail := 0 } })
    (access (fun p => { p with uart := { p.uart with fcr := iir } }) .ret)

/-! ## The interrupt handler -/

def moxaMustIirMask : Byte := 0x3E
def moxaMustIirGda : Byte := 0x1C
def moxaMustIirRda : Byte := 0x04
def moxaMustIirRto : Byte := 0x0C
def moxaMustIirLsr : Byte := 0x06

/-- What one pass of `mxser_interrupt` over the port reads: `UART_IIR`, and with
`UART_LSR` in `status` what `mxser_receive_chars` reads. -/
structure PassReads where
  iir : Byte
  receive : ReceiveReads

/-- `mxser_receive_chars`; the lock is given back while the bytes are handed on. -/
def mxserReceiveCharsCode (a : ReceiveReads) (next : Byte → LineCode) : LineCode :=
  .act (fun l => countReceived (receiveBytes l a).2.2 (receiveBytes l a).1) fun l =>
    let push := .leave .spinLock (.enter .spinLock (next (receiveBytes l a).2.1))
    if a.room < 256 then
      .act (fun l => { l with rx := { l.rx with throttled := true } }) fun _ =>
        mxserStoprxCode push
    else push

/-- The part of a pass that receives; `next` gets `status` as it is after it. -/
def receivePassCode (r : PassReads) (next : Byte → LineCode) : LineCode :=
  .act id fun l =>
    if l.port.isMoxaMustChipFlag ≠ 0 then
      if r.iir &&& moxaMustIirMask ∈
          [moxaMustIirGda, moxaMustIirRda, moxaMustIirRto, moxaMustIirLsr] then
        mxserReceiveCharsCode r.receive next
      else next r.receive.status
    else
      let status := r.receive.status &&& l.port.readStatusMask
      if test status uartLsrDr then mxserReceiveCharsCode { r.receive with status := status } next
      else next status

/-- The part of a pass that sends. -/
def transmitPassCode (r : PassReads) (status : Byte) (next : LineCode) : LineCode :=
  .act id fun l =>
    if (l.port.isMoxaMustChipFlag = 0 ∨ r.iir &&& moxaMustIirMask = 0x02) ∧
        test status uartLsrThre then access mxserTransmitChars next
    else next

/-- The passes of `mxser_interrupt` over the port. -/
def mxserInterruptCode : List PassReads → LineCode
  | [] => .ret
  | r :: rs =>
      if test r.iir uartIirNoInt then .ret
      else
        branch (fun p => !p.infoTty) (access interruptMsr .ret)
          (.enter .spinLock (receivePassCode r fun status =>
            access servedMsr (transmitPassCode r status
              (.leave .spinLock (mxserInterruptCode rs)))))

/-! ## The calls -/

/-- A call of the tty core or of a line discipline. -/
inductive Call where
  | write (buf : List Byte)
  | putChar (ch : Byte)
  | start
  | stop
  | throttle
  | unthrottle
  | flushBuffer (iir : Byte)

def Call.code : Call → LineCode
  | .write buf => mxserWriteCode buf
  | .putChar ch => mxserPutCharCode ch
  | .start => mxserStartCode
  | .stop => mxserStopCode
  | .throttle => mxserStoprxCode .ret
  | .unthrottle => mxserStartrxCode .ret
  | .flushBuffer iir => mxserFlushBufferCode iir

abbrev SlockSystem := System Line Context LockOp

/-- A call or an interrupt begins on some CPU, or activation `i` goes on. -/
inductive SlockOp where
  | process (c : Call)
  | softirq (c : Call)
  | interrupt (rs : List PassReads)
  | go (i : Nat)

def slockStep (s : SlockSystem) : SlockOp → Except Fault SlockSystem
  | .process c => .ok (s.spawn .process c.code)
  | .softirq c => .ok (s.spawn .softirq c.code)
  | .interrupt rs => .ok (s.spawn .interrupt (mxserInterruptCode rs))
  | .go i => .ok (s.advance takesSlock i)

/-- A softirq comes into a section when nobody is inside one, and while it is
inside nobody else comes in. -/
def SoftirqAlone (s : SlockSystem) : SlockOp → Prop
  | .go i => EntersAlone takesSlock Context.covered s i
  | _ => True

/-! ## The code does what the functions do

With nothing in between, a call leaves what the function of `Transmit` or
`Receive` leaves. -/

theorem exec_branch (c : Port → Bool) (yes no : LineCode) (l : Line) :
    (branch c yes no).exec l = if c l.port then yes.exec l else no.exec l := by
  show (if c l.port then yes else no).exec l = _
  split
  · rfl
  · rfl

theorem exec_access (f : Port → Port) (next : LineCode) (l : Line) :
    (access f next).exec l = next.exec (l.onPort f) := rfl

theorem exec_locked (f : Port → Port) (next : LineCode) (l : Line) :
    (locked f next).exec l = next.exec (l.onPort f) := rfl

theorem exec_kick (next : LineCode) (l : Line) :
    (kickCode next).exec l = next.exec (l.onPort kick) := by
  rw [kickCode, exec_branch]
  simp only [kick, Line.onPort]
  split
  · rfl
  · rfl

theorem exec_writeEnd (l : Line) : writeEndCode.exec l = l.onPort writeKick := by
  rw [writeEndCode, exec_branch, exec_kick]
  by_cases hc : l.port.ring.cnt = 0
  · simp [hc, Code.exec, Line.onPort, writeKick]
  · cases hs : l.port.tty.stopped with
    | true => simp [hs, Code.exec, Line.onPort, writeKick]
    | false => simp [hc, hs, Code.exec, Line.onPort, writeKick]

theorem exec_writeLoop (fuel : Nat) (buf : List Byte) (l : Line) :
    (writeLoopCode fuel buf).exec l = l.onPort fun p => writeKick (writeLoop fuel p buf).2 := by
  induction fuel generalizing buf l with
  | zero => exact exec_writeEnd l
  | succ fuel ih =>
      simp only [writeLoopCode, writeLoop, Code.exec, Line.onPort]
      cases hc : writeCopy l.port buf with
      | none => exact exec_writeEnd l
      | some r =>
          obtain ⟨c, q⟩ := r
          exact ih (buf.drop c) ⟨writeCommit q c, l.rx⟩

theorem exec_flowRts (mcr : Byte → Byte) (next : LineCode) (l : Line) :
    (flowRtsCode mcr next).exec l = next.exec (l.onPort fun p => flowRts p (mcr p.mcr)) := by
  rw [flowRtsCode, exec_branch]
  simp only [flowRts, Line.onPort]
  split
  · rfl
  · rfl

theorem exec_stoprx (next : LineCode) (l : Line) :
    (mxserStoprxCode next).exec l = next.exec (l.onPort mxserStoprx) := by
  simp only [mxserStoprxCode, exec_access, exec_branch, exec_locked, exec_flowRts, Line.onPort]
  cases hx : test l.port.tty.termios.cIflag ixoff with
  | true => simp [mxserStoprx, stoprxFlow, hx]
  | false => simp [mxserStoprx, stoprxFlow, hx]

theorem exec_startrx (next : LineCode) (l : Line) :
    (mxserStartrxCode next).exec l = next.exec (l.onPort mxserStartrx) := by
  simp only [mxserStartrxCode, exec_access, exec_branch, exec_locked, exec_flowRts, Line.onPort]
  cases hx : test l.port.tty.termios.cIflag ixoff with
  | true =>
      by_cases hchar : l.port.xChar = 0#8
      · simp [mxserStartrx, startrxFlow, hx, hchar]
      · simp [mxserStartrx, startrxFlow, hx, hchar]
  | false => simp [mxserStartrx, startrxFlow, hx]

/-- What a call does to the port. -/
def Call.apply : Call → Port → Port
  | .write buf, p => (mxserWrite p buf).2
  | .putChar ch, p => (mxserPutChar p ch).2
  | .start, p => mxserStart p
  | .stop, p => mxserStop p
  | .throttle, p => mxserStoprx p
  | .unthrottle, p => mxserStartrx p
  | .flushBuffer iir, p => mxserFlushBuffer p iir

theorem exec_putChar (ch : Byte) (l : Line) :
    (mxserPutCharCode ch).exec l = l.onPort fun p => (mxserPutChar p ch).2 := by
  simp only [mxserPutCharCode, exec_branch, exec_locked, exec_kick, Line.onPort, mxserPutChar]
  by_cases hbuf : l.port.ring.buf.isNone = true
  · simp [hbuf, Code.exec]
  · by_cases hfull : l.port.ring.cnt ≥ serialXmitSize - 1
    · simp [hbuf, hfull, Code.exec]
    · simp only [hbuf, hfull, Bool.false_or, decide_false, Bool.false_eq_true, if_false]
      split
      · rfl
      · rfl

theorem exec_write (buf : List Byte) (l : Line) :
    (mxserWriteCode buf).exec l = l.onPort fun p => (mxserWrite p buf).2 := by
  simp only [mxserWriteCode, exec_branch, exec_writeLoop, Line.onPort, mxserWrite]
  split
  · rfl
  · rfl

theorem exec_call (c : Call) (l : Line) : c.code.exec l = l.onPort c.apply := by
  cases c with
  | write buf => exact exec_write buf l
  | putChar ch => exact exec_putChar ch l
  | start => rfl
  | stop => rfl
  | throttle => exact exec_stoprx .ret l
  | unthrottle => exact exec_startrx .ret l
  | flushBuffer iir => rfl

theorem exec_receiveChars (a : ReceiveReads) (next : Byte → LineCode) (l : Line) :
    (mxserReceiveCharsCode a next).exec l
      = (next (mxserReceiveChars l a).1).exec (mxserReceiveChars l a).2 := by
  simp only [mxserReceiveCharsCode, Code.exec, mxserReceiveChars]
  by_cases hroom : a.room < 256
  · rw [if_pos hroom, if_pos hroom]
    exact exec_stoprx _ _
  · rw [if_neg hroom, if_neg hroom]
    rfl

/-! ## The code fits -/

section

variable {ctx : Context} {d : Nat} {h : Bool} {next : LineCode}

/-- `MX_LOCK` is in order here. -/
abbrev MxReady (ctx : Context) (d : Nat) (h : Bool) : Prop :=
  Ready (takesSlock ctx) ctx.covered d h .mxLock

abbrev LineFits (ctx : Context) (d : Nat) (h : Bool) (code : LineCode) : Prop :=
  Fits (takesSlock ctx) ctx.covered d h code

theorem fits_access {f : Port → Port} (hn : LineFits ctx d h next) :
    LineFits ctx d h (access f next) := fun _ => hn

theorem fits_branch {c : Port → Bool} {yes no : LineCode} (hy : LineFits ctx d h yes)
    (hn : LineFits ctx d h no) : LineFits ctx d h (branch c yes no) := by
  intro l
  show LineFits ctx d h (if c l.port then yes else no)
  split
  · exact hy
  · exact hn

theorem fits_locked {f : Port → Port} (hr : MxReady ctx d h) (hn : LineFits ctx d h next) :
    LineFits ctx d h (locked f next) := fits_sect hr hn

theorem fits_kick (hr : MxReady ctx d h) (hn : LineFits ctx d h next) :
    LineFits ctx d h (kickCode next) := fits_branch (fits_locked hr hn) hn

theorem fits_flowRts {mcr : Byte → Byte} (hr : MxReady ctx d h) (hn : LineFits ctx d h next) :
    LineFits ctx d h (flowRtsCode mcr next) := fits_branch (fits_locked hr hn) hn

theorem fits_stoprx (hr : MxReady ctx d h) (hn : LineFits ctx d h next) :
    LineFits ctx d h (mxserStoprxCode next) := by
  have hrts : LineFits ctx d h (flowRtsCode (fun mcr => mcr &&& ~~~uartMcrRts) next) :=
    fits_flowRts hr hn
  exact fits_access (fits_branch (fits_locked hr hrts) hrts)

theorem fits_startrx (hr : MxReady ctx d h) (hn : LineFits ctx d h next) :
    LineFits ctx d h (mxserStartrxCode next) := by
  have hrts : LineFits ctx d h (flowRtsCode (fun mcr => mcr ||| uartMcrRts) next) :=
    fits_flowRts hr hn
  exact fits_access (fits_branch (fits_branch (fits_access hrts) (fits_locked hr hrts)) hrts)

end

/-- Outside of all sections `MX_LOCK` is in order for a caller of the tty core. -/
theorem mxReady_outside {ctx : Context} (h : ctx ≠ .interrupt) : MxReady ctx 0 false := by
  refine ⟨fun _ => ⟨rfl, rfl⟩, fun htakes hcov => ?_, nofun⟩
  cases ctx with
  | process => cases htakes
  | softirq => cases hcov
  | interrupt => exact absurd rfl h

/-- And in the handler, which holds the lock. -/
theorem mxReady_handler : MxReady .interrupt 1 true :=
  ⟨nofun, fun _ _ => rfl, fun _ => Nat.one_pos⟩

theorem fits_write {ctx : Context} (hr : MxReady ctx 0 false) (buf : List Byte) :
    LineFits ctx 0 false (mxserWriteCode buf) := by
  have hret : LineFits ctx 0 false .ret := ⟨rfl, rfl⟩
  have hend : LineFits ctx 0 false writeEndCode := fits_branch (fits_kick hr hret) hret
  have hloop : ∀ (fuel : Nat) (buf : List Byte),
      LineFits ctx 0 false (writeLoopCode fuel buf) := by
    intro fuel
    induction fuel with
    | zero => exact fun _ => hend
    | succ fuel ih =>
        intro buf l
        show LineFits ctx 0 false (match writeCopy l.port buf with
          | none => writeEndCode
          | some (c, _) => locked (fun p => writeCommit p c) (writeLoopCode fuel (buf.drop c)))
        split
        · exact hend
        · exact fits_locked hr (ih _)
  exact fits_branch hret (hloop _ buf)

theorem fits_call {ctx : Context} (h : ctx ≠ .interrupt) (c : Call) :
    LineFits ctx 0 false c.code := by
  have hr := mxReady_outside h
  have hret : LineFits ctx 0 false .ret := ⟨rfl, rfl⟩
  cases c with
  | write buf => exact fits_write hr buf
  | putChar ch =>
      show LineFits ctx 0 false (mxserPutCharCode ch)
      exact fits_branch hret (fits_locked hr (fits_branch (fits_kick hr hret) hret))
  | start => exact fits_locked hr hret
  | stop => exact fits_locked hr hret
  | throttle => exact fits_stoprx hr hret
  | unthrottle => exact fits_startrx hr hret
  | flushBuffer iir => exact fits_locked hr (fits_access hret)

/-- The lock is given back for a moment, and held again after it. -/
theorem fits_receiveChars {a : ReceiveReads} {next : Byte → LineCode}
    (hn : ∀ status, LineFits .interrupt 1 true (next status)) :
    LineFits .interrupt 1 true (mxserReceiveCharsCode a next) := by
  intro l
  have hpush : LineFits .interrupt 1 true
      (.leave .spinLock (.enter .spinLock (next (receiveBytes l a).2.1))) :=
    ⟨rfl, rfl, rfl, rfl, hn _⟩
  show LineFits .interrupt 1 true (if a.room < 256 then _ else _)
  split
  · exact fun _ => fits_stoprx mxReady_handler hpush
  · exact hpush

theorem fits_interrupt (rs : List PassReads) :
    LineFits .interrupt 0 false (mxserInterruptCode rs) := by
  induction rs with
  | nil => exact ⟨rfl, rfl⟩
  | cons r rs ih =>
      have hret : LineFits .interrupt 0 false .ret := ⟨rfl, rfl⟩
      have hleave : LineFits .interrupt 1 true (.leave .spinLock (mxserInterruptCode rs)) :=
        ⟨rfl, rfl, ih⟩
      have hsend : ∀ status, LineFits .interrupt 1 true
          (access servedMsr (transmitPassCode r status
            (.leave .spinLock (mxserInterruptCode rs)))) := by
        intro status
        apply fits_access
        intro l
        show LineFits .interrupt 1 true (if _ then _ else _)
        split
        · exact fits_access hleave
        · exact hleave
      have hreceive : LineFits .interrupt 1 true (receivePassCode r fun status =>
          access servedMsr (transmitPassCode r status
            (.leave .spinLock (mxserInterruptCode rs)))) := by
        intro l
        show LineFits .interrupt 1 true (if _ then _ else _)
        split
        · split
          · exact fits_receiveChars hsend
          · exact hsend _
        · show LineFits .interrupt 1 true (if _ then _ else _)
          split
          · exact fits_receiveChars hsend
          · exact hsend _
      rw [mxserInterruptCode]
      split
      · exact hret
      · exact fits_branch (fits_access hret) ⟨rfl, rfl, hreceive⟩

/-! ## Whole runs -/

structure SlockInv (s : SlockSystem) : Prop where
  lock : Inv takesSlock Context.covered s
  exclusive : Exclusive takesSlock s

theorem inv_slockStep {s t : SlockSystem} {op : SlockOp}
    (hs : Inv takesSlock Context.covered s) (h : slockStep s op = .ok t) :
    Inv takesSlock Context.covered t := by
  cases op with
  | process c =>
      have hctx : Context.process ≠ .interrupt := nofun
      cases h
      exact inv_spawn hs (fits_call hctx c)
  | softirq c =>
      have hctx : Context.softirq ≠ .interrupt := nofun
      cases h
      exact inv_spawn hs (fits_call hctx c)
  | interrupt rs =>
      cases h
      exact inv_spawn hs (fits_interrupt rs)
  | go i =>
      cases h
      exact inv_advance hs i

theorem exclusive_slockStep_iff {s t : SlockSystem} {op : SlockOp} (hs : SlockInv s)
    (h : slockStep s op = .ok t) : Exclusive takesSlock t ↔ SoftirqAlone s op := by
  cases op with
  | process c =>
      cases h
      exact ⟨fun _ => trivial, fun _ => exclusive_spawn hs.exclusive _ _⟩
  | softirq c =>
      cases h
      exact ⟨fun _ => trivial, fun _ => exclusive_spawn hs.exclusive _ _⟩
  | interrupt rs =>
      cases h
      exact ⟨fun _ => trivial, fun _ => exclusive_spawn hs.exclusive _ _⟩
  | go i =>
      cases h
      exact exclusive_advance_iff hs.lock hs.exclusive i

/-- **When the sections of a port exclude each other.** Whatever calls come from
process context, from softirqs and from the interrupt, on whatever CPUs, and
however their steps interleave: at most one activation is inside a section under
`slock`, and none tries to take the lock while it holds it, in every state if and
only if a softirq comes into a section only when nobody is inside one, and
nobody comes in while a softirq is inside. -/
theorem slock_excludes_iff (l : Line) (ops : List SlockOp) :
    Always slockStep (Exclusive takesSlock) (System.start l) ops ↔
      Guarded slockStep SoftirqAlone (System.start l) ops := by
  apply always_iff_guarded (J := SlockInv)
  · exact fun s hs => hs.exclusive
  · intro s op t hs hc h
    exact ⟨inv_slockStep hs.lock h, (exclusive_slockStep_iff hs h).mpr hc⟩
  · intro s op hs hc
    have hstep : ∃ t, slockStep s op = .ok t := by
      cases op with
      | _ => exact ⟨_, rfl⟩
    obtain ⟨t, ht⟩ := hstep
    exact ⟨t, ht, fun hx => hc ((exclusive_slockStep_iff hs ht).mp hx)⟩
  · exact ⟨inv_start l, exclusive_start l⟩

/-- A write from process context holds the lock to commit its byte; a softirq
comes by with a write of its own and is in its section as well. -/
theorem softirq_write_enters_held_section :
    ∃ t, run slockStep (System.start (Line.start (c104Started port16450 (c104Termios 0))))
        [.process (.write [0x41]), .softirq (.write [0x42]),
          .go 0, .go 0, .go 0, .go 1, .go 1, .go 1] = .ok t ∧
      t.lock = true ∧ t.acts.countP Activation.inside = 2 :=
  ⟨_, rfl, by decide⟩

end MoxaDrivers.Mxser

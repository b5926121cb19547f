import MoxaDrivers.Mxser.Transmit
import MoxaDrivers.Mxser.Startup
import MoxaDrivers.Mxser.Speed

/-!
# Opening, closing and hanging up

`mxser_open` with `mxser_block_til_ready`, `mxser_close` and `mxser_hangup`,
each cut at the points where it can sleep, and over them the open files of one
line as the tty core drives them: it calls `mxser_close` once for every
`mxser_open`, failed ones included, and a hangup makes `tty_hung_up_p` true for
every file that is open at that moment.
-/

namespace MoxaDrivers.Mxser

open MoxaDrivers.Bits

/-- How far the driver is with one open file. A file whose open failed is open
for the tty core until its close. -/
inductive HandleState where
  /-- `mxser_open` returned `-ENODEV`: there is no port at this line. -/
  | refused
  | failed (e : Errno)
  /-- In `mxser_block_til_ready`, with its `do_clocal`. -/
  | asleep (doClocal : Bool)
  | opened
  /-- In `tty_wait_until_sent` of `mxser_close`. -/
  | draining
  /-- Waiting for the transmitter to empty. -/
  | emptying
  /-- In the `close_delay` sleep. -/
  | delaying
  | closed
  deriving DecidableEq, Repr

/-! ## `mxser_open` -/

/-- What `mxser_open` is called with and meets: `O_NONBLOCK`, the page that
`mxser_startup` gets, the line status it reads, whether the caller has
`CAP_SYS_ADMIN`, whether a signal is pending in `mxser_block_til_ready`, and
the settings of the tty if the tty core makes a new one. -/
structure OpenArgs where
  nonblock : Bool
  page : Option Page
  lsr : Byte
  admin : Bool
  signal : Bool
  termios : Termios

def normalActive (p : Port) : Port := { p with flags := p.flags ||| asyncNormalActive }

/-- DTR and RTS are raised in `UART_MCR`, past the shadow. -/
def raiseLines (p : Port) : Port :=
  { p with uart := { p.uart with mcr := p.uart.mcr ||| uartMcrDtr ||| uartMcrRts } }

/-- `!(info->flags & ASYNC_CLOSING) && (do_clocal || (inb(UART_MSR) & UART_MSR_DCD))`. -/
def carrierReady (p : Port) (doClocal : Bool) : Bool × Port :=
  if test p.flags asyncClosing then (false, p)
  else if doClocal then (true, p)
  else (test p.inbMsr.1 uartMsrDcd, p.inbMsr.2)

/-- The way into the wait. -/
def enterWait (p : Port) : Port :=
  { p with opens := { p.opens with
    count := p.opens.count - 1, blockedOpen := p.opens.blockedOpen + 1 } }

/-- The way out of the wait. -/
def leaveWait (p : Port) (hungUp : Bool) : Port :=
  { p with opens := { p.opens with
    count := if hungUp then p.opens.count else p.opens.count + 1
    blockedOpen := p.opens.blockedOpen - 1 } }

/-- One turn of the loop of `mxser_block_til_ready`, with the way out of it. -/
def blockTurn (p : Port) (hungUp doClocal signal : Bool) : HandleState × Port :=
  let p := raiseLines p
  -- hung up, or shut down by a hangup or a last close while it slept
  if hungUp || !p.initialized then
    (.failed (if test p.flags asyncHupNotify then .eagain else .erestartsys), leaveWait p hungUp)
  else
    let c := carrierReady p doClocal
    if c.1 then (.opened, normalActive (leaveWait c.2 hungUp))
    else if signal then (.failed .erestartsys, leaveWait c.2 hungUp)
    else (.asleep doClocal, c.2)

/-- `mxser_block_til_ready` up to where it returns or sleeps. The check for
`ASYNC_CLOSING` at its head is compiled out. -/
def mxserBlockTilReady (p : Port) (nonblock signal : Bool) : HandleState × Port :=
  if nonblock || p.tty.ioError then (.opened, normalActive p)
  else blockTurn (enterWait p) false (test p.tty.termios.cCflag clocal) signal

/-- The rest of `mxser_open` once the port is ready. -/
def openReady (HZ : Int) (p : Port) : Except Fault Port := do
  -- the first file, or the only one that is not asleep
  let p ← (if p.opens.count = 1
    then mxserChangeSpeed HZ { p with tty := { p.tty with termios := p.normalTermios } }
    else .ok p)
  return { p with tty := { p.tty with lowLatency := true } }

/-- `mxser_open` after `mxser_block_til_ready`. -/
def finishOpen (HZ : Int) (r : HandleState × Port) : Except Fault (HandleState × Port) :=
  if r.1 = .opened then (openReady HZ r.2).map fun p => (.opened, p) else .ok r

/-- `info->tty = tty; info->count++`. -/
def attach (p : Port) : Port :=
  { p with infoTty := true, opens := { p.opens with count := p.opens.count + 1 } }

/-- `mxser_open` up to where it returns or sleeps. -/
def mxserOpen (HZ : Int) (p : Port) (a : OpenArgs) : Except Fault (HandleState × Port) :=
  -- `driver_data` stays `NULL`, and the close of this file returns at once
  if p.base = 0 then .ok (.refused, p)
  else
    match mxserStartup (attach p) a.page a.lsr a.admin with
    | (some e, p) => .ok (.failed e, p)
    | (none, p) => finishOpen HZ (mxserBlockTilReady p a.nonblock a.signal)

/-! ## `mxser_close` -/

/-- `info->count` after the correction against `tty->count` and the decrement. -/
def closeCount (count : Int) (ttyCount : Nat) : Int :=
  let count := if ttyCount = 1 ∧ count ≠ 1 then 1 else count
  if count - 1 < 0 then 0 else count - 1

/-- `ASYNC_CLOSING` is set and the settings are kept for the next open. -/
def startClosing (p : Port) : Port :=
  { p with
    flags := p.flags ||| asyncClosing
    normalTermios := if test p.flags asyncNormalActive then p.tty.termios else p.normalTermios
    tty := { p.tty with closing := true } }

def countClosed (p : Port) (ttyCount : Nat) : Port :=
  { p with opens := { p.opens with count := closeCount p.opens.count ttyCount } }

/-- `mxser_close` up to `tty_wait_until_sent`: whether it goes on to there. -/
def mxserClose (p : Port) (hungUp : Bool) (ttyCount : Nat) : Bool × Port :=
  if hungUp then (false, p)
  else
    let p := countClosed p ttyCount
    -- what is decided here is not looked at again after the waits
    if p.opens.count ≠ 0 then (false, p) else (true, startClosing p)

/-- Between the two waits: input stops. -/
def stopInput (p : Port) : Port :=
  let ier := p.ier &&& ~~~uartIerRlsi
  let ier := if p.isMoxaMustChipFlag ≠ 0 then ier &&& ~~~moxaMustRecvIsr else ier
  { p with ier := ier, uart := { p.uart with ier := if p.initialized then ier else p.uart.ier } }

/-- After the transmitter is empty: the port is shut down. -/
def closeShutdown (p : Port) (iir : Byte) : Port :=
  let p := mxserFlushBuffer (mxserShutdown p) iir
  { p with tty := { p.tty with closing := false }, event := ⟨false, false⟩, infoTty := false }

/-- After the `close_delay` sleep. -/
def endClosing (p : Port) : Port :=
  { p with flags := p.flags &&& ~~~(asyncNormalActive ||| asyncCalloutActive ||| asyncClosing) }

/-! ## `mxser_hangup` -/

def mxserHangup (p : Port) (iir : Byte) : Port :=
  let p := mxserShutdown (mxserFlushBuffer p iir)
  { p with
    event := ⟨false, false⟩
    opens := { p.opens with count := 0 }
    flags := p.flags &&& ~~~(asyncNormalActive ||| asyncCalloutActive)
    infoTty := false }

/-! ## What an open can do -/

theorem carrierReady_eq (p : Port) (doClocal : Bool) :
    ∃ uart, (carrierReady p doClocal).2 = { p with uart := uart } := by
  simp only [carrierReady]
  split
  · exact ⟨_, rfl⟩
  · split
    · exact ⟨_, rfl⟩
    · exact ⟨_, rfl⟩

/-- A turn of the loop goes back to sleep, gives up, or finds a port that is
up with its carrier. -/
theorem blockTurn_cases (p : Port) (hungUp doClocal signal : Bool) :
    ∃ uart,
      blockTurn p hungUp doClocal signal = (.asleep doClocal, { p with uart := uart }) ∨
      (∃ e, blockTurn p hungUp doClocal signal
        = (.failed e, leaveWait { p with uart := uart } hungUp)) ∨
      (hungUp = false ∧ p.initialized = true ∧ blockTurn p hungUp doClocal signal
        = (.opened, normalActive (leaveWait { p with uart := uart } hungUp))) := by
  obtain ⟨uart, heq⟩ := carrierReady_eq (raiseLines p) doClocal
  simp only [blockTurn, heq]
  by_cases hgone : (hungUp || !(raiseLines p).initialized) = true
  · exact ⟨(raiseLines p).uart, .inr (.inl ⟨_, if_pos hgone⟩)⟩
  · rw [if_neg hgone]
    refine ⟨uart, ?_⟩
    have hhere : hungUp = false ∧ (raiseLines p).initialized = true := by
      simpa using hgone
    cases (carrierReady (raiseLines p) doClocal).1 with
    | true => exact .inr (.inr ⟨hhere.1, hhere.2, rfl⟩)
    | false =>
        cases signal with
        | true => exact .inr (.inl ⟨_, rfl⟩)
        | false => exact .inl rfl

/-- `q` is the port of `p` with its counts, up or down as `p` is. -/
structure SameService (p q : Port) : Prop where
  base : q.base = p.base
  opens : q.opens = p.opens
  buf : q.ring.buf = p.ring.buf
  infoTty : q.infoTty = p.infoTty
  initialized : q.initialized = p.initialized

theorem openReady_completes (HZ : Int) (p : Port) : ∃ q, openReady HZ p = .ok q := by
  simp only [openReady]
  split
  · obtain ⟨q, hq⟩ := mxserChangeSpeed_completes HZ
      { p with tty := { p.tty with termios := p.normalTermios } }
    rw [hq]
    exact ⟨_, rfl⟩
  · exact ⟨_, rfl⟩

theorem openReady_ok {HZ : Int} {p q : Port} (h : openReady HZ p = .ok q) :
    SameService p q := by
  simp only [openReady] at h
  split at h
  · obtain ⟨r, hr, h⟩ := Machine.bind_ok_iff.mp h
    obtain ⟨hbase, hopens, hring, htty, hinit⟩ := mxserChangeSpeed_keeps hr
    cases h
    exact ⟨hbase, hopens, congrArg XmitRing.buf hring, htty, hinit⟩
  · cases h
    exact ⟨rfl, rfl, rfl, rfl, rfl⟩

/-- The rest of an open never faults. -/
theorem finishOpen_completes (HZ : Int) (r : HandleState × Port) :
    ∃ q, finishOpen HZ r = .ok (r.1, q) := by
  obtain ⟨state, p⟩ := r
  simp only [finishOpen]
  by_cases hopened : state = .opened
  · obtain ⟨q, hq⟩ := openReady_completes HZ p
    rw [if_pos hopened, hq, hopened]
    exact ⟨q, rfl⟩
  · exact ⟨p, if_neg hopened⟩

theorem finishOpen_ok {HZ : Int} {r t : HandleState × Port} (h : finishOpen HZ r = .ok t) :
    t.1 = r.1 ∧ SameService r.2 t.2 := by
  obtain ⟨state, p⟩ := r
  simp only [finishOpen] at h
  by_cases hopened : state = .opened
  · rw [if_pos hopened] at h
    obtain ⟨q, hq⟩ := openReady_completes HZ p
    rw [hq] at h
    cases h
    exact ⟨hopened.symm, openReady_ok hq⟩
  · rw [if_neg hopened] at h
    cases h
    exact ⟨rfl, rfl, rfl, rfl, rfl, rfl⟩

theorem markIoError_port (p : Port) (b : Bool) :
    (markIoError p b).base = p.base ∧ (markIoError p b).opens = p.opens := ⟨rfl, rfl⟩

theorem startupPage_port (p : Port) (page : Page) :
    (startupPage p page).base = p.base ∧ (startupPage p page).opens = p.opens := ⟨rfl, rfl⟩

theorem startupUart_port (p : Port) :
    (startupUart p).base = p.base ∧ (startupUart p).opens = p.opens := by
  constructor
  · simp [startupUart, markIoError, Port.setIer, Port.setMcr, Port.inbMsr]
  · simp [startupUart, markIoError, Port.setIer, Port.setMcr, Port.inbMsr]

theorem mxserStartup_port (p : Port) (page : Option Page) (lsr : Byte) (admin : Bool) :
    (mxserStartup p page lsr admin).2.base = p.base ∧
      (mxserStartup p page lsr admin).2.opens = p.opens := by
  rcases mxserStartup_cases p page lsr admin with
    ⟨-, h⟩ | ⟨-, -, h⟩ | ⟨-, -, -, h⟩ | ⟨pg, -, -, -, -, -, h⟩ | ⟨pg, -, -, -, -, -, h⟩
  · rw [h]
    exact ⟨rfl, rfl⟩
  · rw [h]
    exact ⟨rfl, rfl⟩
  · rw [h]
    exact markIoError_port p true
  · rw [h]
    split
    · exact markIoError_port (startupPage p pg) true
    · exact startupPage_port p pg
  · rw [h]
    have hpage := startupPage_port p pg
    have huart := startupUart_port (startupPage p pg)
    exact ⟨huart.1.trans hpage.1, huart.2.trans hpage.2⟩

theorem shutdownUart_port (p : Port) :
    (shutdownUart p).base = p.base ∧ (shutdownUart p).opens = p.opens := by
  constructor
  · simp [shutdownUart, markIoError, clearFifos, Port.setIer, Port.setMcr]
  · simp [shutdownUart, markIoError, clearFifos, Port.setIer, Port.setMcr]

theorem mxserShutdown_port (p : Port) :
    (mxserShutdown p).base = p.base ∧ (mxserShutdown p).opens = p.opens := by
  simp only [mxserShutdown]
  split
  · exact shutdownUart_port p
  · exact ⟨rfl, rfl⟩

theorem closeShutdown_down (p : Port) (iir : Byte) :
    (closeShutdown p iir).initialized = false := mxserShutdown_down p

theorem mxserHangup_down (p : Port) (iir : Byte) : (mxserHangup p iir).initialized = false :=
  (test_clear_of_disjoint (by decide)).trans (mxserShutdown_down (mxserFlushBuffer p iir))

theorem blockTurn_base (p : Port) (hungUp doClocal signal : Bool) :
    (blockTurn p hungUp doClocal signal).2.base = p.base := by
  obtain ⟨uart, h | ⟨e, h⟩ | ⟨-, -, h⟩⟩ := blockTurn_cases p hungUp doClocal signal
  · rw [h]
  · rw [h]
    rfl
  · rw [h]
    rfl

/-- Everything `mxser_open` can do: the line has no port, the start-up fails,
or the wait for the port begins. -/
theorem mxserOpen_cases {HZ : Int} {p : Port} {a : OpenArgs} {r : HandleState × Port}
    (h : mxserOpen HZ p a = .ok r) :
    (p.base = 0 ∧ r = (.refused, p)) ∨
    (∃ e q, mxserStartup (attach p) a.page a.lsr a.admin = (some e, q) ∧ r = (.failed e, q)) ∨
    (p.base ≠ 0 ∧ ∃ q, mxserStartup (attach p) a.page a.lsr a.admin = (none, q) ∧
      finishOpen HZ (mxserBlockTilReady q a.nonblock a.signal) = .ok r) := by
  simp only [mxserOpen] at h
  by_cases hbase : p.base = 0
  · rw [if_pos hbase] at h
    cases h
    exact .inl ⟨hbase, rfl⟩
  · rw [if_neg hbase] at h
    split at h
    · rename_i e q hstart
      cases h
      exact .inr (.inl ⟨e, q, hstart, rfl⟩)
    · rename_i q hstart
      exact .inr (.inr ⟨hbase, q, hstart, h⟩)

/-! ## The open files of a line -/

structure Handle where
  /-- `tty_hung_up_p`. -/
  hungUp : Bool
  state : HandleState
  /-- When its close began, no other file was counted. Nothing in the driver
  looks at this: it says which closes should shut the port down. -/
  last : Bool
  deriving DecidableEq, Repr

namespace Handle

/-- Known to the tty core, which counts it in `tty->count`. -/
def unreleased (h : Handle) : Bool := h.state != .closed

/-- Asleep in `mxser_block_til_ready`. -/
def asleep (h : Handle) : Bool :=
  match h.state with
  | .asleep _ => true
  | _ => false

/-- Opened since the last hangup, and neither closed nor asleep. -/
def counted (h : Handle) : Bool :=
  !h.hungUp && match h.state with
    | .opened | .failed _ => true
    | _ => false

/-- Its open returned success and it has been neither closed nor hung up. -/
def live (h : Handle) : Bool := !h.hungUp && h.state == .opened

/-- In the part of `mxser_close` that only a last close reaches. -/
def closing (h : Handle) : Bool :=
  match h.state with
  | .draining | .emptying | .delaying => true
  | _ => false

/-- How often its close should have called `mxser_shutdown` by now: once if it
was the last and has come past its waits. -/
def due (h : Handle) : Nat :=
  if h.last && (h.state == .delaying || h.state == .closed) then 1 else 0

/-- A hangup of the tty. -/
def hangUp (h : Handle) : Handle := { h with hungUp := h.unreleased || h.hungUp }

end Handle

/-- Who called `mxser_shutdown`. -/
inductive ShutdownCause where
  | hangup
  | close (i : Nat)
  deriving DecidableEq, Repr

/-- A port with every file ever opened on it, in the order of the opens, and
the calls of `mxser_shutdown` and `mxser_hangup` so far. -/
structure Opens where
  port : Port
  handles : List Handle
  shutdowns : List ShutdownCause
  hangups : Nat

namespace Opens

def start (p : Port) : Opens := ⟨p, [], [], 0⟩

/-- `tty->count`. -/
def ttyCount (s : Opens) : Nat := s.handles.countP Handle.unreleased

def counted (s : Opens) : Nat := s.handles.countP Handle.counted

def sleepers (s : Opens) : Nat := s.handles.countP Handle.asleep

/-- Without a file on the line the tty core opens a new tty. -/
def withTty (s : Opens) (termios : Termios) : Port :=
  { s.port with tty :=
      if s.ttyCount = 0 then ⟨termios, false, false, false, false, false⟩ else s.port.tty }

def put (s : Opens) (i : Nat) (h : Handle) (p : Port) : Opens :=
  { s with port := p, handles := s.handles.set i h }

def openHandle (HZ : Int) (s : Opens) (a : OpenArgs) : Except Fault Opens := do
  let r ← mxserOpen HZ (s.withTty a.termios) a
  return { s with port := r.2, handles := s.handles ++ [⟨false, r.1, false⟩] }

def wakeHandle (HZ : Int) (s : Opens) (i : Nat) (h : Handle) (signal : Bool) :
    Except Fault Opens :=
  match h.state with
  | .asleep doClocal => do
      let r ← finishOpen HZ (blockTurn s.port h.hungUp doClocal signal)
      return s.put i { h with state := r.1 } r.2
  | _ => .ok s

def closeHandle (s : Opens) (i : Nat) (h : Handle) : Opens :=
  match h.state with
  | .refused => s.put i { h with state := .closed, last := false } s.port
  | .opened | .failed _ =>
      let r := mxserClose s.port h.hungUp s.ttyCount
      s.put i { h with
        state := if r.1 then .draining else .closed
        last := h.counted && s.counted == 1 } r.2
  | _ => s

def drainedHandle (s : Opens) (i : Nat) (h : Handle) : Opens :=
  match h.state with
  | .draining => s.put i { h with state := .emptying } (stopInput s.port)
  | _ => s

def emptiedHandle (s : Opens) (i : Nat) (h : Handle) (iir : Byte) : Opens :=
  match h.state with
  | .emptying =>
      { s.put i { h with state := .delaying } (closeShutdown s.port iir) with
        shutdowns := s.shutdowns ++ [.close i] }
  | _ => s

def delayedHandle (s : Opens) (i : Nat) (h : Handle) : Opens :=
  match h.state with
  | .delaying => s.put i { h with state := .closed } (endClosing s.port)
  | _ => s

/-- `mxser_hangup` takes the port from `tty->driver_data`, which is `NULL`
where every open of the tty was refused. -/
def hangUp (s : Opens) (iir : Byte) : Except Fault Opens :=
  if s.ttyCount = 0 then .ok s
  else if s.port.base = 0 then .error .nullPointer
  else .ok {
    port := mxserHangup s.port iir
    handles := s.handles.map Handle.hangUp
    shutdowns := s.shutdowns ++ [.hangup]
    hangups := s.hangups + 1 }

end Opens

/-- What can happen next. An operation on a file that is not there or not at
that point does nothing. A file asleep in `mxser_block_til_ready` may wake at
any time, and where `mxser_close` does not sleep its next part may follow at
once. -/
inductive OpenOp where
  | open (a : OpenArgs)
  | wake (i : Nat) (signal : Bool)
  | close (i : Nat)
  | drained (i : Nat)
  | emptied (i : Nat) (iir : Byte)
  | delayed (i : Nat)
  | hangup (iir : Byte)
  | setLines (levels : Byte)

/-- Every operation that is about one file goes through here. -/
def Opens.onHandle (s : Opens) (i : Nat) (f : Handle → Except Fault Opens) : Except Fault Opens :=
  match s.handles[i]? with
  | some h => f h
  | none => .ok s

def openStep (HZ : Int) (s : Opens) : OpenOp → Except Fault Opens
  | .open a => s.openHandle HZ a
  | .wake i signal => s.onHandle i fun h => s.wakeHandle HZ i h signal
  | .close i => s.onHandle i fun h => .ok (s.closeHandle i h)
  | .drained i => s.onHandle i fun h => .ok (s.drainedHandle i h)
  | .emptied i iir => s.onHandle i fun h => .ok (s.emptiedHandle i h iir)
  | .delayed i => s.onHandle i fun h => .ok (s.delayedHandle i h)
  | .hangup iir => s.hangUp iir
  | .setLines levels => .ok { s with port := { s.port with uart := s.port.uart.setLines levels } }

/-! ## What a step can do -/

theorem onHandle_ok {s t : Opens} {i : Nat} {f : Handle → Except Fault Opens}
    (h : s.onHandle i f = .ok t) : t = s ∨ ∃ k, s.handles[i]? = some k ∧ f k = .ok t := by
  simp only [Opens.onHandle] at h
  cases hi : s.handles[i]? with
  | none =>
      rw [hi] at h
      cases h
      exact .inl rfl
  | some k =>
      rw [hi] at h
      exact .inr ⟨k, rfl, h⟩

/-- Everything a step can do: nothing, a change of the lines, an open, a
hangup, or one part of the open or the close of a file. -/
theorem openStep_cases {HZ : Int} {s t : Opens} {op : OpenOp} (h : openStep HZ s op = .ok t) :
    t = s ∨
    (∃ levels, op = .setLines levels ∧
      t = { s with port := { s.port with uart := s.port.uart.setLines levels } }) ∨
    (∃ a, op = .open a ∧ s.openHandle HZ a = .ok t) ∨
    (∃ iir, op = .hangup iir ∧ s.hangUp iir = .ok t) ∨
    (∃ i k, s.handles[i]? = some k ∧
      ((∃ signal, op = .wake i signal ∧ s.wakeHandle HZ i k signal = .ok t) ∨
        (op = .close i ∧ t = s.closeHandle i k) ∨ (op = .drained i ∧ t = s.drainedHandle i k) ∨
        (∃ iir, op = .emptied i iir ∧ t = s.emptiedHandle i k iir) ∨
        (op = .delayed i ∧ t = s.delayedHandle i k))) := by
  cases op with
  | setLines levels =>
      cases h
      exact .inr (.inl ⟨levels, rfl, rfl⟩)
  | «open» a => exact .inr (.inr (.inl ⟨a, rfl, h⟩))
  | hangup iir => exact .inr (.inr (.inr (.inl ⟨iir, rfl, h⟩)))
  | wake i signal =>
      rcases onHandle_ok h with hsame | ⟨k, hi, hk⟩
      · exact .inl hsame
      · exact .inr (.inr (.inr (.inr ⟨i, k, hi, .inl ⟨signal, rfl, hk⟩⟩)))
  | close i =>
      rcases onHandle_ok h with hsame | ⟨k, hi, hk⟩
      · exact .inl hsame
      · cases hk
        exact .inr (.inr (.inr (.inr ⟨i, k, hi, .inr (.inl ⟨rfl, rfl⟩)⟩)))
  | drained i =>
      rcases onHandle_ok h with hsame | ⟨k, hi, hk⟩
      · exact .inl hsame
      · cases hk
        exact .inr (.inr (.inr (.inr ⟨i, k, hi, .inr (.inr (.inl ⟨rfl, rfl⟩))⟩)))
  | emptied i iir =>
      rcases onHandle_ok h with hsame | ⟨k, hi, hk⟩
      · exact .inl hsame
      · cases hk
        exact .inr (.inr (.inr (.inr ⟨i, k, hi, .inr (.inr (.inr (.inl ⟨iir, rfl, rfl⟩)))⟩)))
  | delayed i =>
      rcases onHandle_ok h with hsame | ⟨k, hi, hk⟩
      · exact .inl hsame
      · cases hk
        exact .inr (.inr (.inr (.inr ⟨i, k, hi, .inr (.inr (.inr (.inr ⟨rfl, rfl⟩)))⟩)))

/-! ## Every step completes -/

theorem mxserOpen_completes (HZ : Int) (p : Port) (a : OpenArgs) :
    ∃ r, mxserOpen HZ p a = .ok r ∧ r.2.base = p.base := by
  simp only [mxserOpen]
  split
  · exact ⟨_, rfl, rfl⟩
  · have hstart := (mxserStartup_port (attach p) a.page a.lsr a.admin).1
    split
    · rename_i e q hq
      rw [hq] at hstart
      exact ⟨_, rfl, hstart⟩
    · rename_i q hq
      rw [hq] at hstart
      obtain ⟨t, ht⟩ := finishOpen_completes HZ (mxserBlockTilReady q a.nonblock a.signal)
      refine ⟨_, ht, ?_⟩
      rw [(finishOpen_ok ht).2.base, ← show q.base = p.base from hstart]
      simp only [mxserBlockTilReady]
      split
      · rfl
      · exact blockTurn_base (enterWait q) _ _ _

theorem onHandle_completes {s : Opens} {i : Nat} {f : Handle → Except Fault Opens}
    (h : ∀ k, ∃ t, f k = .ok t ∧ t.port.base = s.port.base) :
    ∃ t, s.onHandle i f = .ok t ∧ t.port.base = s.port.base := by
  simp only [Opens.onHandle]
  split
  · exact h _
  · exact ⟨s, rfl, rfl⟩

theorem wakeHandle_completes (HZ : Int) (s : Opens) (i : Nat) (h : Handle) (signal : Bool) :
    ∃ t, s.wakeHandle HZ i h signal = .ok t ∧ t.port.base = s.port.base := by
  simp only [Opens.wakeHandle]
  split
  · rename_i doClocal _
    obtain ⟨q, hq⟩ := finishOpen_completes HZ (blockTurn s.port h.hungUp doClocal signal)
    refine ⟨s.put i { h with state := (blockTurn s.port h.hungUp doClocal signal).1 } q, ?_, ?_⟩
    · rw [hq]
      rfl
    · show q.base = s.port.base
      rw [(finishOpen_ok hq).2.base, blockTurn_base]
  · exact ⟨s, rfl, rfl⟩

theorem closeHandle_base (s : Opens) (i : Nat) (h : Handle) :
    (s.closeHandle i h).port.base = s.port.base := by
  have hclose : (mxserClose s.port h.hungUp s.ttyCount).2.base = s.port.base := by
    simp only [mxserClose]
    split
    · rfl
    · by_cases hcount : (countClosed s.port s.ttyCount).opens.count ≠ 0
      · simp only [if_pos hcount]
        rfl
      · simp only [if_neg hcount]
        rfl
  simp only [Opens.closeHandle]
  split
  · rfl
  · exact hclose
  · exact hclose
  · rfl

/-- **No step faults on a line with a port.** -/
theorem openStep_completes (HZ : Int) {s : Opens} (hbase : s.port.base ≠ 0) (op : OpenOp) :
    ∃ t, openStep HZ s op = .ok t ∧ t.port.base = s.port.base := by
  cases op with
  | «open» a =>
      obtain ⟨r, hr, hr'⟩ := mxserOpen_completes HZ (s.withTty a.termios) a
      refine ⟨{ s with port := r.2, handles := s.handles ++ [⟨false, r.1, false⟩] }, ?_, hr'⟩
      simp only [openStep, Opens.openHandle, hr]
      rfl
  | wake i signal => exact onHandle_completes fun k => wakeHandle_completes HZ s i k signal
  | close i => exact onHandle_completes fun k => ⟨_, rfl, closeHandle_base s i k⟩
  | drained i =>
      apply onHandle_completes
      intro k
      refine ⟨_, rfl, ?_⟩
      simp only [Opens.drainedHandle]
      split
      · rfl
      · rfl
  | emptied i iir =>
      apply onHandle_completes
      intro k
      refine ⟨_, rfl, ?_⟩
      simp only [Opens.emptiedHandle]
      split
      · exact (mxserShutdown_port s.port).1
      · rfl
  | delayed i =>
      apply onHandle_completes
      intro k
      refine ⟨_, rfl, ?_⟩
      simp only [Opens.delayedHandle]
      split
      · rfl
      · rfl
  | hangup iir =>
      simp only [openStep, Opens.hangUp, if_neg hbase]
      split
      · exact ⟨s, rfl, rfl⟩
      · exact ⟨_, rfl, (mxserShutdown_port (mxserFlushBuffer s.port iir)).1⟩
  | setLines levels => exact ⟨_, rfl, rfl⟩

/-- And so no run does. -/
theorem open_runs_complete (HZ : Int) (ops : List OpenOp) :
    ∀ s : Opens, s.port.base ≠ 0 → ∃ t, Machine.run (openStep HZ) s ops = .ok t := by
  induction ops with
  | nil => exact fun s _ => ⟨s, rfl⟩
  | cons op ops ih =>
      intro s hbase
      obtain ⟨t, ht, hsame⟩ := openStep_completes HZ hbase op
      obtain ⟨u, hu⟩ := ih t (by rw [hsame]; exact hbase)
      exact ⟨u, Machine.run_cons_ok.mpr ⟨t, ht, hu⟩⟩

end MoxaDrivers.Mxser

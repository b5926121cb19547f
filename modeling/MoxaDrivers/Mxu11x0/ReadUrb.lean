import MoxaDrivers.Lib.Machine
import MoxaDrivers.Lib.Tally
import MoxaDrivers.Mxu11x0.Port

/-!
# The read URB

`mxu1_stop_read` and the completion handler `mxu1_bulk_in_callback` change
`mxp_read_urb_state` and submit the URB inside of sections under `mxp_lock`;
`mxu1_restart_read` changes the state in such a section and submits after it. A
call of `mxu1_restart_read` is cut there, and the handler before its section.

The URB has one owner at most: the device, a handler before its section, or a
call of `mxu1_restart_read` that has yet to submit it.
-/

namespace MoxaDrivers.Mxu11x0

open MoxaDrivers.Bits MoxaDrivers.Mxser
open MoxaDrivers.Machine MoxaDrivers.Tally

/-! ## The functions of the driver -/

/-- `mxu1_stop_read`. -/
def mxu1StopRead (p : Port) : Port :=
  match p.readUrbState with
  | .running => { p with readUrbState := .stopping }
  | .stopping | .stopped => p

/-- The section of `mxu1_restart_read`, and whether the URB is to be submitted. -/
def restartSection (p : Port) : Port × Bool :=
  if p.isOpen = false then (p, false)
  else
    match p.readUrbState with
    | .stopped => ({ p with readUrbState := .running }, true)
    | .running | .stopping => ({ p with readUrbState := .running }, false)

/-- `I_IXOFF(tty) || C_CRTSCTS(tty)`. -/
def throttles (p : Port) : Bool :=
  match p.tty with
  | none => false
  | some tty => test tty.termios.cIflag ixoff || test tty.termios.cCflag crtscts

/-- `mxu1_throttle`. -/
def mxu1Throttle (p : Port) : Port := if throttles p then mxu1StopRead p else p

/-- How often `mxu1_set_termios` calls `mxu1_restart_read`. -/
def restartReads (t : Termios) : Nat :=
  (if test t.cCflag crtscts then 0 else 1) +
    if test t.cIflag ixon && !test t.cIflag ixoff then 1 else 0

/-! ## The parties -/

/-- Where a call of the completion handler is. -/
inductive Handler where
  | entered (status : UrbStatus) (length : Nat)
  /-- Before the section that looks at the state. -/
  | checking
  | returned
  deriving DecidableEq, Repr

/-- Where a caller of `mxu1_restart_read` is, with `more` calls to make after
this one. -/
inductive Restart where
  | lock (more : Nat)
  /-- The state is `RUNNING`, and the URB is to be submitted. -/
  | submit (more : Nat)
  | returned
  deriving DecidableEq, Repr

structure ReadPath where
  port : Port
  /-- `mxd_urb_error`. -/
  urbError : Bool
  /-- The submissions of the read URB that have not completed. -/
  inFlight : Nat
  handlers : List Handler
  restarts : List Restart

/-- As `mxu1_open` leaves a port: the URB is submitted. -/
def ReadPath.opened (port : Port) (urbError : Bool) : ReadPath where
  port := port
  urbError := urbError
  inFlight := 1
  handlers := []
  restarts := []

/-! ## Steps -/

/-- After a call of `mxu1_restart_read`. -/
def nextRestart : Nat → Restart
  | 0 => .returned
  | more + 1 => .lock more

/-- `mxu1_unthrottle`. -/
def mxu1Unthrottle (s : ReadPath) : ReadPath :=
  if throttles s.port then { s with restarts := s.restarts ++ [.lock 0] } else s

/-- `mxu1_set_termios`, as far as it is about the read URB: from the tty core
with new settings, or from the driver itself without old ones. -/
def setTermiosRead (s : ReadPath) (new : Option Termios) : ReadPath :=
  match s.port.tty with
  | none => s
  | some tty =>
      let termios := new.getD tty.termios
      if new.isSome ∧ termios.cCflag = tty.termios.cCflag ∧
        termios.cIflag = tty.termios.cIflag then
        { s with port := { s.port with tty := some { tty with termios := termios } } }
      else
        let hwStopped := if test termios.cCflag crtscts then tty.hwStopped else false
        { s with
          port := { s.port with tty := some { tty with termios := termios, hwStopped := hwStopped } }
          restarts := s.restarts ++ [nextRestart (restartReads termios)] }

/-- The section of the call `i` of `mxu1_restart_read`. -/
def restartStep (s : ReadPath) (i : Nat) : ReadPath :=
  match s.restarts[i]? with
  | some (.lock more) =>
      let r := restartSection s.port
      { s with
        port := r.1
        restarts := s.restarts.set i (if r.2 then .submit more else nextRestart more) }
  | _ => s

/-- Its `usb_submit_urb` returns `result`. -/
def restartSubmit (s : ReadPath) (i : Nat) (result : Int) : ReadPath :=
  match s.restarts[i]? with
  | some (.submit more) =>
      { s with
        inFlight := if result = 0 then s.inFlight + 1 else s.inFlight
        restarts := s.restarts.set i (nextRestart more) }
  | _ => s

/-- The device is done with the URB. -/
def readComplete (s : ReadPath) (status : UrbStatus) (length : Nat) : ReadPath :=
  if s.inFlight = 0 then s
  else { s with inFlight := s.inFlight - 1, handlers := s.handlers ++ [.entered status length] }

/-- The handler up to its section: it returns early for most errors. -/
def handlerStep (s : ReadPath) (i : Nat) : ReadPath :=
  match s.handlers[i]? with
  | some (.entered .ok length) =>
      let icount := s.port.icount
      let rx := if s.port.tty.isSome ∧ length ≠ 0 then icount.rx + BitVec.ofNat 32 length
        else icount.rx
      { s with
        port := { s.port with icount := { icount with rx := rx } }
        handlers := s.handlers.set i .checking }
  | some (.entered .epipe _) =>
      { s with urbError := true, handlers := s.handlers.set i .checking }
  | some (.entered _ _) =>
      { s with urbError := true, handlers := s.handlers.set i .returned }
  | _ => s

/-- The section of the handler; `result` is that of its `usb_submit_urb`, where
it comes to it. -/
def handlerCheck (s : ReadPath) (i : Nat) (result : Int) : ReadPath :=
  match s.handlers[i]? with
  | some .checking =>
      let s := { s with handlers := s.handlers.set i .returned }
      match s.port.readUrbState with
      | .running => { s with inFlight := if result = 0 then s.inFlight + 1 else s.inFlight }
      | .stopping => { s with port := { s.port with readUrbState := .stopped } }
      | .stopped => s
  | _ => s

inductive ReadEvent where
  | throttle
  | unthrottle
  | setTermios (new : Option Termios)
  | restart (i : Nat)
  | submit (i : Nat) (result : Int)
  | complete (status : UrbStatus) (length : Nat)
  | handle (i : Nat)
  | check (i : Nat) (result : Int)
  deriving DecidableEq, Repr

def readPathStep (s : ReadPath) : ReadEvent → Except Empty ReadPath
  | .throttle => .ok { s with port := mxu1Throttle s.port }
  | .unthrottle => .ok (mxu1Unthrottle s)
  | .setTermios new => .ok (setTermiosRead s new)
  | .restart i => .ok (restartStep s i)
  | .submit i result => .ok (restartSubmit s i result)
  | .complete status length => .ok (readComplete s status length)
  | .handle i => .ok (handlerStep s i)
  | .check i result => .ok (handlerCheck s i result)

/-! ## Who owns the URB -/

/-- The handler has not come to the end of its section. -/
def Handler.running : Handler → Bool
  | .returned => false
  | _ => true

/-- The call has set `RUNNING` and has yet to submit the URB. -/
def Restart.pending : Restart → Bool
  | .submit _ => true
  | _ => false

def ReadPath.running (s : ReadPath) : Nat := s.handlers.countP Handler.running

def ReadPath.pending (s : ReadPath) : Nat := s.restarts.countP Restart.pending

/-- The owners of the URB. -/
def ReadPath.owners (s : ReadPath) : Nat := s.inFlight + s.running + s.pending

abbrev ReadPath.state (s : ReadPath) : ReadUrbState := s.port.readUrbState

/-! ## What a step does to the URB -/

/-- The step is none of those that leave the URB without an owner: the handler
returns for an error, or a submission fails. -/
def ReadOk (s : ReadPath) : ReadEvent → Prop
  | .handle i => ∀ status length, s.handlers[i]? = some (.entered status length) →
      status = .ok ∨ status = .epipe
  | .check i result => s.handlers[i]? = some .checking → s.state = .running → result = 0
  | .submit i result => ∀ more, s.restarts[i]? = some (.submit more) → result = 0
  | _ => True

/-- The owners of the URB are who they were. -/
structure SameOwners (s t : ReadPath) : Prop where
  inFlight : t.inFlight = s.inFlight
  running : t.running = s.running
  pending : t.pending = s.pending

/-- Everything a step can do to the state and the owners of the URB. -/
inductive ReadCases (s : ReadPath) : ReadEvent → ReadPath → Prop
  | quiet {e : ReadEvent} {t : ReadPath} (hok : ReadOk s e) (hstate : t.state = s.state)
      (hsame : SameOwners s t) : ReadCases s e t
  | stop {t : ReadPath} (hs : s.state = .running) (ht : t.state = .stopping)
      (hsame : SameOwners s t) : ReadCases s .throttle t
  | resume {i : Nat} {t : ReadPath} (hs : s.state ≠ .stopped) (ht : t.state = .running)
      (hsame : SameOwners s t) : ReadCases s (.restart i) t
  | claim {i : Nat} {t : ReadPath} (hs : s.state = .stopped) (ht : t.state = .running)
      (hfly : t.inFlight = s.inFlight) (hrun : t.running = s.running)
      (hpend : t.pending = s.pending + 1) : ReadCases s (.restart i) t
  | submit {i more : Nat} {result : Int} {t : ReadPath}
      (hi : s.restarts[i]? = some (.submit more)) (hstate : t.state = s.state)
      (hfly : t.inFlight = s.inFlight + if result = 0 then 1 else 0)
      (hrun : t.running = s.running) (hpend : t.pending + 1 = s.pending) :
      ReadCases s (.submit i result) t
  | complete {status : UrbStatus} {length : Nat} {t : ReadPath} (hstate : t.state = s.state)
      (hfly : t.inFlight + 1 = s.inFlight) (hrun : t.running = s.running + 1)
      (hpend : t.pending = s.pending) : ReadCases s (.complete status length) t
  | fail {i length : Nat} {status : UrbStatus} {t : ReadPath}
      (hi : s.handlers[i]? = some (.entered status length))
      (hbad : status ≠ .ok ∧ status ≠ .epipe) (hstate : t.state = s.state)
      (hfly : t.inFlight = s.inFlight) (hrun : t.running + 1 = s.running)
      (hpend : t.pending = s.pending) : ReadCases s (.handle i) t
  | resubmit {i : Nat} {result : Int} {t : ReadPath} (hi : s.handlers[i]? = some .checking)
      (hs : s.state = .running) (ht : t.state = .running)
      (hfly : t.inFlight = s.inFlight + if result = 0 then 1 else 0)
      (hrun : t.running + 1 = s.running) (hpend : t.pending = s.pending) :
      ReadCases s (.check i result) t
  | finish {i : Nat} {result : Int} {t : ReadPath} (hs : s.state ≠ .running)
      (ht : t.state = .stopped) (hfly : t.inFlight = s.inFlight)
      (hrun : t.running + 1 = s.running) (hpend : t.pending = s.pending) :
      ReadCases s (.check i result) t

theorem sameOwners_refl (s : ReadPath) : SameOwners s s := ⟨rfl, rfl, rfl⟩

theorem nextRestart_pending (more : Nat) : (nextRestart more).pending = false := by
  cases more with
  | zero => rfl
  | succ more => rfl

theorem throttle_cases (s : ReadPath) :
    ReadCases s .throttle { s with port := mxu1Throttle s.port } := by
  simp only [mxu1Throttle]
  split
  · cases hs : s.port.readUrbState with
    | running =>
        have ht : (mxu1StopRead s.port).readUrbState = .stopping := by rw [mxu1StopRead, hs]
        exact .stop hs ht ⟨rfl, rfl, rfl⟩
    | stopping =>
        have ht : mxu1StopRead s.port = s.port := by rw [mxu1StopRead, hs]
        rw [ht]
        exact .quiet trivial rfl (sameOwners_refl s)
    | stopped =>
        have ht : mxu1StopRead s.port = s.port := by rw [mxu1StopRead, hs]
        rw [ht]
        exact .quiet trivial rfl (sameOwners_refl s)
  · exact .quiet trivial rfl (sameOwners_refl s)

/-- A call of `mxu1_restart_read` begins. -/
theorem pending_append (s : ReadPath) {r : Restart} (hr : r.pending = false) :
    (s.restarts ++ [r]).countP Restart.pending = s.pending := by
  rw [countP_append_one, hr]
  rfl

theorem unthrottle_cases (s : ReadPath) : ReadCases s .unthrottle (mxu1Unthrottle s) := by
  simp only [mxu1Unthrottle]
  split
  · exact .quiet trivial rfl ⟨rfl, rfl, pending_append s rfl⟩
  · exact .quiet trivial rfl (sameOwners_refl s)

theorem setTermiosRead_cases (s : ReadPath) (new : Option Termios) :
    ReadCases s (.setTermios new) (setTermiosRead s new) := by
  simp only [setTermiosRead]
  cases s.port.tty with
  | none => exact .quiet trivial rfl (sameOwners_refl s)
  | some tty =>
      simp only []
      split
      · exact .quiet trivial rfl ⟨rfl, rfl, rfl⟩
      · exact .quiet trivial rfl ⟨rfl, rfl, pending_append s (nextRestart_pending _)⟩

theorem restartStep_cases (s : ReadPath) (i : Nat) : ReadCases s (.restart i) (restartStep s i) := by
  simp only [restartStep]
  split
  · rename_i more hi
    have hcount : ∀ r : Restart, (s.restarts.set i r).countP Restart.pending =
        s.pending + r.pending.toNat := fun r => countP_set_add Restart.pending hi
    have hnext : (s.restarts.set i (nextRestart more)).countP Restart.pending = s.pending := by
      rw [hcount, nextRestart_pending]
      rfl
    by_cases hopen : s.port.isOpen = false
    · have hsec : restartSection s.port = (s.port, false) := if_pos hopen
      simp only [hsec, Bool.false_eq_true, if_false]
      exact .quiet trivial rfl ⟨rfl, rfl, hnext⟩
    · simp only [restartSection, if_neg hopen]
      cases hs : s.port.readUrbState with
      | running =>
          have hne : s.state ≠ .stopped := by simp [ReadPath.state, hs]
          exact .resume hne rfl ⟨rfl, rfl, hnext⟩
      | stopping =>
          have hne : s.state ≠ .stopped := by simp [ReadPath.state, hs]
          exact .resume hne rfl ⟨rfl, rfl, hnext⟩
      | stopped => exact .claim hs rfl rfl rfl (hcount _)
  · exact .quiet trivial rfl (sameOwners_refl s)

theorem restartSubmit_cases (s : ReadPath) (i : Nat) (result : Int) :
    ReadCases s (.submit i result) (restartSubmit s i result) := by
  simp only [restartSubmit]
  split
  · rename_i more hi
    have hcount := countP_set_add Restart.pending (b := nextRestart more) hi
    rw [nextRestart_pending] at hcount
    refine .submit hi rfl ?_ rfl hcount
    split
    · rfl
    · rfl
  · rename_i hno
    refine .quiet ?_ rfl (sameOwners_refl s)
    intro more hi
    exact absurd hi (hno more)

theorem readComplete_cases (s : ReadPath) (status : UrbStatus) (length : Nat) :
    ReadCases s (.complete status length) (readComplete s status length) := by
  by_cases hfly : s.inFlight = 0
  · rw [readComplete, if_pos hfly]
    exact .quiet trivial rfl (sameOwners_refl s)
  · rw [readComplete, if_neg hfly]
    exact .complete rfl (Nat.sub_add_cancel (Nat.pos_of_ne_zero hfly))
      (countP_append_one Handler.running _ _) rfl

theorem handlerStep_cases (s : ReadPath) (i : Nat) :
    ReadCases s (.handle i) (handlerStep s i) := by
  have hset : ∀ {a b : Handler}, s.handlers[i]? = some a →
      (s.handlers.set i b).countP Handler.running + a.running.toNat =
        s.running + b.running.toNat := fun ha => countP_set_add Handler.running ha
  have hok : ∀ {status length}, s.handlers[i]? = some (.entered status length) →
      status = .ok ∨ status = .epipe → ReadOk s (.handle i) := by
    intro status length hi hgood status' length' hi'
    rw [hi] at hi'
    cases hi'
    exact hgood
  simp only [handlerStep]
  split
  · rename_i length hi
    exact .quiet (hok hi (.inl rfl)) rfl ⟨rfl, Nat.succ.inj (hset hi), rfl⟩
  · rename_i length hi
    exact .quiet (hok hi (.inr rfl)) rfl ⟨rfl, Nat.succ.inj (hset hi), rfl⟩
  · rename_i status length hno hno' hi
    exact .fail hi ⟨hno, hno'⟩ rfl rfl (hset hi) rfl
  · rename_i hno
    refine .quiet ?_ rfl (sameOwners_refl s)
    intro status length hi
    exact absurd hi (hno status length)

theorem handlerCheck_cases (s : ReadPath) (i : Nat) (result : Int) :
    ReadCases s (.check i result) (handlerCheck s i result) := by
  simp only [handlerCheck]
  split
  · rename_i hi
    have hrun := countP_set_add Handler.running (b := Handler.returned) hi
    cases hs : s.port.readUrbState with
    | running =>
        refine .resubmit hi hs hs ?_ hrun rfl
        show (if result = 0 then s.inFlight + 1 else s.inFlight) = _
        split
        · rfl
        · rfl
    | stopping => exact .finish (by simp [ReadPath.state, hs]) rfl rfl hrun rfl
    | stopped => exact .finish (by simp [ReadPath.state, hs]) hs rfl hrun rfl
  · rename_i hno
    refine .quiet ?_ rfl (sameOwners_refl s)
    intro hi
    exact absurd hi hno

theorem readPathStep_cases {s t : ReadPath} {e : ReadEvent} (h : readPathStep s e = .ok t) :
    ReadCases s e t := by
  cases e with
  | throttle =>
      cases h
      exact throttle_cases s
  | unthrottle =>
      cases h
      exact unthrottle_cases s
  | setTermios new =>
      cases h
      exact setTermiosRead_cases s new
  | restart i =>
      cases h
      exact restartStep_cases s i
  | submit i result =>
      cases h
      exact restartSubmit_cases s i result
  | complete status length =>
      cases h
      exact readComplete_cases s status length
  | handle i =>
      cases h
      exact handlerStep_cases s i
  | check i result =>
      cases h
      exact handlerCheck_cases s i result

/-! ## Runs without errors -/

/-- The completion has the status 0 or `-EPIPE`, and the submission succeeds. -/
def ReadEvent.Succeeds : ReadEvent → Prop
  | .submit _ result | .check _ result => result = 0
  | .complete status _ => status = .ok ∨ status = .epipe
  | _ => True

/-- Every handler was called for such a completion. -/
def HandlersGood (s : ReadPath) : Prop :=
  ∀ status length, .entered status length ∈ s.handlers → status = .ok ∨ status = .epipe

/-- The URB has an owner unless the state is `STOPPED`. -/
def Owned (s : ReadPath) : Prop := s.owners = if s.state = .stopped then 0 else 1

theorem handlersGood_set {s : ReadPath} (h : HandlersGood s) {i : Nat} {b : Handler}
    (hb : ∀ status length, b ≠ .entered status length) :
    ∀ status length, .entered status length ∈ s.handlers.set i b →
      status = .ok ∨ status = .epipe := by
  intro status length hmem
  rcases List.mem_or_eq_of_mem_set hmem with hold | heq
  · exact h status length hold
  · exact absurd heq.symm (hb status length)

theorem readPathStep_handlersGood {s t : ReadPath} {e : ReadEvent} (h : HandlersGood s)
    (hok : e.Succeeds) (hstep : readPathStep s e = .ok t) : HandlersGood t := by
  cases e with
  | throttle =>
      cases hstep
      exact h
  | unthrottle =>
      cases hstep
      simp only [mxu1Unthrottle]
      split
      · exact h
      · exact h
  | setTermios new =>
      cases hstep
      simp only [setTermiosRead]
      cases s.port.tty with
      | none => exact h
      | some tty =>
          simp only []
          split
          · exact h
          · exact h
  | restart i =>
      cases hstep
      simp only [restartStep]
      split
      · exact h
      · exact h
  | submit i result =>
      cases hstep
      simp only [restartSubmit]
      split
      · exact h
      · exact h
  | complete status length =>
      cases hstep
      simp only [readComplete]
      split
      · exact h
      · intro status' length' hmem
        rcases List.mem_append.mp hmem with hold | hnew
        · exact h status' length' hold
        · cases List.mem_singleton.mp hnew
          exact hok
  | handle i =>
      cases hstep
      simp only [handlerStep]
      split
      · exact handlersGood_set h nofun
      · exact handlersGood_set h nofun
      · exact handlersGood_set h nofun
      · exact h
  | check i result =>
      cases hstep
      simp only [handlerCheck]
      split
      · have hset := handlersGood_set h (i := i) (b := .returned) nofun
        split
        · exact hset
        · exact hset
        · exact hset
      · exact h

theorem readOk_of_succeeds {s : ReadPath} {e : ReadEvent} (h : HandlersGood s)
    (hok : e.Succeeds) : ReadOk s e := by
  cases e with
  | handle i => exact fun status length hi => h status length (List.mem_of_getElem? hi)
  | check i result => exact fun _ _ => hok
  | submit i result => exact fun _ _ => hok
  | _ => trivial

/-- A step that loses no URB leaves it with one owner, or with none in
`STOPPED`. -/
theorem readPathStep_owned {s t : ReadPath} {e : ReadEvent} (h : Owned s) (hok : ReadOk s e)
    (hstep : readPathStep s e = .ok t) : Owned t := by
  simp only [Owned, ReadPath.owners] at *
  cases readPathStep_cases hstep with
  | quiet _ hstate hsame =>
      rw [hstate, hsame.inFlight, hsame.running, hsame.pending]
      exact h
  | stop hs ht hsame =>
      rw [ht, hsame.inFlight, hsame.running, hsame.pending, h, hs]
      rfl
  | resume hs ht hsame =>
      rw [ht, hsame.inFlight, hsame.running, hsame.pending, h, if_neg hs]
      rfl
  | claim hs ht hfly hrun hpend =>
      rw [hs, if_pos rfl] at h
      rw [ht, hfly, hrun, hpend, ← Nat.add_assoc, h]
      rfl
  | submit hi hstate hfly hrun hpend =>
      rw [hok _ hi, if_pos rfl] at hfly
      rw [hstate, ← h]
      omega
  | complete hstate hfly hrun hpend =>
      rw [hstate, ← h]
      omega
  | fail hi hbad _ _ _ _ =>
      rcases hok _ _ hi with heq | heq
      · exact absurd heq hbad.1
      · exact absurd heq hbad.2
  | resubmit hi hs ht hfly hrun hpend =>
      rw [hok hi hs, if_pos rfl] at hfly
      rw [ht]
      rw [hs] at h
      rw [← h]
      omega
  | finish hs ht hfly hrun hpend =>
      -- the handler was the owner
      rw [ht, if_pos rfl]
      split at h
      · omega
      · omega

/-- A call of `usb_submit_urb` finds the read URB idle. -/
def SubmitsReadAlone (s : ReadPath) (e : ReadEvent) : Prop :=
  (∀ i result more, e = .submit i result → s.restarts[i]? = some (.submit more) →
    s.inFlight = 0) ∧
  (∀ i result, e = .check i result → s.handlers[i]? = some .checking → s.state = .running →
    s.inFlight = 0)

/-- `STOPPED` says that the URB is not in flight; `RUNNING` and `STOPPING` that it
has exactly one owner. -/
structure ReadDiscipline (s : ReadPath) : Prop where
  stopped : s.state = .stopped → s.inFlight = 0
  oneOwner : s.state = .running ∨ s.state = .stopping → s.inFlight + s.running + s.pending = 1

theorem Owned.le_one {s : ReadPath} (h : Owned s) : s.inFlight + s.running + s.pending ≤ 1 := by
  simp only [Owned, ReadPath.owners] at h
  rw [h]
  split
  · exact Nat.zero_le 1
  · exact Nat.le_refl 1

theorem submitsReadAlone {s : ReadPath} (h : Owned s) (e : ReadEvent) : SubmitsReadAlone s e := by
  have hle := h.le_one
  constructor
  · intro i result more _ hi
    have hpos : 0 < s.pending := List.countP_pos_iff.mpr ⟨_, List.mem_of_getElem? hi, rfl⟩
    omega
  · intro i result _ hi _
    have hpos : 0 < s.running := List.countP_pos_iff.mpr ⟨_, List.mem_of_getElem? hi, rfl⟩
    omega

theorem readDiscipline {s : ReadPath} (h : Owned s) : ReadDiscipline s where
  stopped := by
    intro hs
    simp only [Owned, ReadPath.owners] at h
    rw [if_pos hs] at h
    omega
  oneOwner := by
    intro hs
    simp only [Owned, ReadPath.owners] at h
    rw [h]
    rcases hs with hs | hs
    · rw [hs]
      rfl
    · rw [hs]
      rfl

/-- As an open port starts to read. -/
structure Reading (s : ReadPath) : Prop where
  isOpen : s.port.isOpen = true
  state : s.state = .running
  handlers : s.handlers = []
  restarts : s.restarts = []
  inFlight : s.inFlight = 1

theorem Reading.owned {s : ReadPath} (h : Reading s) : Owned s := by
  simp only [Owned, ReadPath.owners, ReadPath.running, ReadPath.pending]
  rw [h.state, h.handlers, h.restarts, h.inFlight]
  rfl

theorem openPort_reading (p : Port) (tty : TtyStruct) (urbError : Bool) :
    Reading (.opened (openPort p tty) urbError) :=
  ⟨rfl, rfl, rfl, rfl, rfl⟩

/-- **The read URB has one owner at a time**: with completions of status 0 or
`-EPIPE` and submissions that succeed it is never submitted while in flight, it
is not in flight in `STOPPED`, and in the other states exactly one of the device,
a handler before its check and a call of `mxu1_restart_read` has it. -/
theorem read_urb_discipline {s : ReadPath} (h : Reading s) (es : List ReadEvent)
    (hok : ∀ e ∈ es, e.Succeeds) :
    Guarded readPathStep SubmitsReadAlone s es ∧ Always readPathStep ReadDiscipline s es := by
  have hgood : HandlersGood s := by
    intro status length hmem
    rw [h.handlers] at hmem
    cases hmem
  have hguard : Guarded readPathStep (fun _ e => e.Succeeds) s es :=
    guarded_of_mem fun e he _ => hok e he
  have halways := always_of_guarded (I := fun s => HandlersGood s ∧ Owned s)
    (fun s e t hs hsucc hstep => ⟨readPathStep_handlersGood hs.1 hsucc hstep,
      readPathStep_owned hs.2 (readOk_of_succeeds hs.1 hsucc) hstep⟩) ⟨hgood, h.owned⟩ hguard
  constructor
  · intro pre e hpre t hrun
    exact submitsReadAlone (halways pre ((List.prefix_append pre [e]).trans hpre) t hrun).2 e
  · intro pre hpre t hrun
    exact readDiscipline (halways pre hpre t hrun).2

/-- A throttle, a completion and two restarts, of which one submits. -/
theorem read_urb_discipline_throttled :
    let s := ReadPath.opened (openPort (startupPort .model1150 fun _ => 0) tty9600) false
    let es := [.setTermios (some ⟨cs8, ixoff, 0x11, 0x13⟩), .restart 0, .throttle, .complete .ok 3,
      .handle 0, .check 0 0, .unthrottle, .setTermios none, .restart 2, .restart 1, .submit 2 0]
    Guarded readPathStep SubmitsReadAlone s es ∧ Always readPathStep ReadDiscipline s es :=
  read_urb_discipline (openPort_reading _ _ _) _ (by simp [ReadEvent.Succeeds])

end MoxaDrivers.Mxu11x0

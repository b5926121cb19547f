import MoxaDrivers.Lib.Machine
import Mathlib.Data.List.FinRange
import Mathlib.Logic.Function.Basic
import Mathlib.Tactic.Ring

/-!
# Events of the digital inputs

`set_din_event` registers a callback for an input, and the thread that runs
`din_poll` calls it. Both work under one mutex, a round of the thread as a whole,
so that they interleave by calls and rounds.

`din_event` is shared; `bStartDurationCheck` and `din_starttime` are variables of
`din_poll` and start as zeros with the thread. An input is `DIO_HIGH` or
`DIO_LOW`: `moxa_x86_dio` answers nothing else.
-/

namespace MoxaDrivers.MxDioControl

abbrev maxDinPort : Nat := 4
def dinEventStateChange : Int := 2
def dinEventHighToLow : Int := 1
def dinEventLowToHigh : Int := 0
def dinEventClear : Int := -1
def dioOk : Int := 0
def dioErrorPort : Int := -1
def dioErrorMode : Int := -2
def dioErrorDuration : Int := -4
def dioErrorDuration20Ms : Int := -5

/-- In milliseconds. -/
def minDuration : Nat := 40
def maxDuration : Nat := 3600000

/-- In microseconds. -/
def dinInaccuracy : Nat := 24000

inductive DioState where
  | low
  | high
  deriving DecidableEq, Repr

structure Timeval where
  sec : Int
  usec : Int
  deriving DecidableEq, Repr

def Timeval.micros (t : Timeval) : Int := 1000000 * t.sec + t.usec

/-- The width of an `unsigned long`. -/
structure Ulong where
  bits : Nat
  wide : 32 ≤ bits

/-! ## The state -/

/-- `din_event_t`, with the duration in microseconds. -/
structure DinEvent (F : Type) where
  func : Option F
  mode : Int
  oldstate : DioState
  duration : Nat
  deriving DecidableEq, Repr

/-- A port's entries in `din_event` and in the arrays of `din_poll`. -/
structure DinPort (F : Type) where
  event : DinEvent F
  bStartDurationCheck : Bool
  dinStarttime : Timeval
  deriving DecidableEq, Repr

structure Din (F : Type) where
  pthreadForkFlag : Bool
  port : Fin maxDinPort → DinPort F

variable {F : Type}

/-- A port as the program starts. -/
def dinPort0 : DinPort F := ⟨⟨none, dinEventClear, .high, 0⟩, false, ⟨0, 0⟩⟩

def din0 : Din F := ⟨false, fun _ => dinPort0⟩

def Din.put (s : Din F) (i : Fin maxDinPort) (p : DinPort F) : Din F :=
  { s with port := Function.update s.port i p }

@[simp] theorem Din.put_self (s : Din F) (i : Fin maxDinPort) (p : DinPort F) :
    (s.put i p).port i = p := by
  simp [Din.put]

theorem Din.put_of_ne (s : Din F) {i j : Fin maxDinPort} (h : j ≠ i) (p : DinPort F) :
    (s.put i p).port j = s.port j := by
  simp [Din.put, h]

/-! ## `set_din_event` -/

def checkMode (mode : Int) : Bool :=
  decide (mode = dinEventHighToLow) || decide (mode = dinEventLowToHigh) ||
    decide (mode = dinEventClear) || decide (mode = dinEventStateChange)

/-- The error of `CheckDuration`. -/
def checkDuration (duration : Nat) : Option Int :=
  if duration = 0 then none
  else if duration < minDuration ∨ duration > maxDuration then some dioErrorDuration
  else if duration % 20 ≠ 0 then some dioErrorDuration20Ms
  else none

/-- `CheckDINPort`: the index of a port. -/
def dinPort? (diport : Int) : Option (Fin maxDinPort) :=
  if h : 0 ≤ diport ∧ diport < maxDinPort then some ⟨diport.toNat, by omega⟩ else none

/-- The new entry of `din_event`, with what `get_din_state` finds: it leaves
`oldstate` alone when it fails. -/
def DinEvent.register (u : Ulong) (e : DinEvent F) (func : F) (mode : Int) (duration : Nat)
    (read : Option DioState) : DinEvent F :=
  { func := some func
    mode := mode
    oldstate := read.getD e.oldstate
    duration := duration * 1000 % 2 ^ u.bits }

/-- An entry that is cleared. -/
def DinEvent.clear (e : DinEvent F) : DinEvent F :=
  { e with func := none, mode := dinEventClear, duration := 0 }

/-- The arguments of `set_din_event`, and what `get_din_state` finds if it is
called. -/
structure SetDinEvent (F : Type) where
  diport : Int
  func : Option F
  mode : Int
  duration : Nat
  read : Option DioState

def setDinEvent (u : Ulong) (s : Din F) (a : SetDinEvent F) : Din F × Int :=
  match dinPort? a.diport with
  | none => (s, dioErrorPort)
  | some i =>
      match a.func with
      | none => if s.pthreadForkFlag then (clear s i, dioOk) else (s, dioOk)
      | some func =>
          if a.mode = dinEventClear then
            if s.pthreadForkFlag then (clear s i, dioOk) else (s, dioOk)
          else if !checkMode a.mode then (s, dioErrorMode)
          else
            match checkDuration a.duration with
            | some error => (s, error)
            | none => ({ register s i func with pthreadForkFlag := true }, dioOk)
where
  clear (s : Din F) (i : Fin maxDinPort) : Din F :=
    s.put i { s.port i with event := (s.port i).event.clear }
  register (s : Din F) (i : Fin maxDinPort) (func : F) : Din F :=
    s.put i { s.port i with event := (s.port i).event.register u func a.mode a.duration a.read }

/-! ## `din_poll` -/

/-- The mode asks for a change to this state. -/
def asks (mode : Int) (state : DioState) : Bool :=
  (decide (mode = dinEventHighToLow) && decide (state = .low)) ||
    (decide (mode = dinEventLowToHigh) && decide (state = .high)) ||
    decide (mode = dinEventStateChange)

/-- `din_duration`, an `unsigned long`. -/
def dinDuration (u : Ulong) (start tv : Timeval) : Nat :=
  ((1000000 * (tv.sec - start.sec) + (tv.usec - start.usec)) % 2 ^ u.bits).toNat

/-- What a round finds at a port: `get_din_state` may fail. -/
structure Reading where
  state : Option DioState
  now : Timeval
  deriving DecidableEq, Repr

/-- A port that has a callback, read as `state`: the port after it, and whether the
callback is called. -/
def dinSample (u : Ulong) (p : DinPort F) (state : DioState) (now : Timeval) : DinPort F × Bool :=
  let e := p.event
  if e.duration = 0 then
    if state ≠ e.oldstate then ({ p with event := { e with oldstate := state } }, asks e.mode state)
    else (p, false)
  else if state ≠ e.oldstate then
    if asks e.mode state then
      (⟨{ e with oldstate := state }, true, now⟩, false)
    else if (e.mode = dinEventHighToLow ∧ state = .high) ∨
        (e.mode = dinEventLowToHigh ∧ state = .low) ∨ e.mode = dinEventStateChange then
      ({ p with event := { e with oldstate := state }, bStartDurationCheck := false }, false)
    else ({ p with event := { e with oldstate := state } }, false)
  else if p.bStartDurationCheck then
    if (dinDuration u p.dinStarttime now + dinInaccuracy) % 2 ^ u.bits ≥ e.duration then
      ({ p with bStartDurationCheck := false }, true)
    else (p, false)
  else (p, false)

/-- A port is looked at. -/
def DinPort.active (p : DinPort F) : Bool :=
  p.event.func.isSome && decide (p.event.mode ≠ dinEventClear)

/-- The body of the loop over the ports. -/
def dinPollPort (u : Ulong) (p : DinPort F) (r : Reading) : DinPort F × Bool :=
  if p.active then
    match r.state with
    | none => (p, false)
    | some state => dinSample u p state r.now
  else (p, false)

/-- One port after the other: the state, and the ports whose callback is called. -/
def dinPollFrom (u : Ulong) (r : Fin maxDinPort → Reading) :
    List (Fin maxDinPort) → Din F → Din F × List (Fin maxDinPort)
  | [], s => (s, [])
  | i :: is, s =>
      let (p, called) := dinPollPort u (s.port i) (r i)
      let (s, calls) := dinPollFrom u r is (s.put i p)
      (s, if called then i :: calls else calls)

/-- A round of `din_poll`, once its thread runs. -/
def dinPoll (u : Ulong) (s : Din F) (r : Fin maxDinPort → Reading) : Din F × List (Fin maxDinPort) :=
  if s.pthreadForkFlag then dinPollFrom u r (List.finRange maxDinPort) s else (s, [])

/-! ## Both threads -/

inductive Act (F : Type) where
  | set (a : SetDinEvent F)
  | poll (r : Fin maxDinPort → Reading)

def dinNext (u : Ulong) (s : Din F) : Act F → Din F
  | .set a => (setDinEvent u s a).1
  | .poll r => (dinPoll u s r).1

def dinStep (u : Ulong) (s : Din F) (a : Act F) : Except Empty (Din F) := .ok (dinNext u s a)

/-! ## What a call does -/

/-- A registration that passes all checks. -/
structure Registers (a : SetDinEvent F) (i : Fin maxDinPort) (func : F) : Prop where
  port : dinPort? a.diport = some i
  func : a.func = some func
  mode : a.mode ≠ dinEventClear
  checked : checkMode a.mode = true
  duration : checkDuration a.duration = none

instance decidableRegisters (a : SetDinEvent F) (i : Fin maxDinPort) :
    Decidable (∃ func, Registers a i func) :=
  decidable_of_iff (dinPort? a.diport = some i ∧ a.func.isSome = true ∧ a.mode ≠ dinEventClear ∧
      checkMode a.mode = true ∧ checkDuration a.duration = none)
    ⟨fun ⟨hport, hfunc, hmode, hchecked, hduration⟩ =>
        ⟨a.func.get hfunc, hport, (Option.some_get hfunc).symm, hmode, hchecked, hduration⟩,
      fun ⟨_, h⟩ => ⟨h.port, by rw [h.func]; rfl, h.mode, h.checked, h.duration⟩⟩

/-- **`set_din_event`** leaves everything alone, clears a port, or registers a
callback. -/
theorem setDinEvent_cases (u : Ulong) (s : Din F) (a : SetDinEvent F) :
    (∃ i func, Registers a i func ∧ (setDinEvent u s a).1 =
        { setDinEvent.register u a s i func with pthreadForkFlag := true }) ∨
      (∀ i func, ¬ Registers a i func) ∧
        ((setDinEvent u s a).1 = s ∨
          ∃ i, dinPort? a.diport = some i ∧ (setDinEvent u s a).1 = setDinEvent.clear s i) := by
  cases hport : dinPort? a.diport with
  | none =>
      refine .inr ⟨fun i func h => ?_, .inl (by simp [setDinEvent, hport])⟩
      cases hport.symm.trans h.port
  | some i =>
      have hclears : (if s.pthreadForkFlag then setDinEvent.clear s i else s) = s ∨
          ∃ j, some i = some j ∧
            (if s.pthreadForkFlag then setDinEvent.clear s i else s) = setDinEvent.clear s j := by
        cases s.pthreadForkFlag with
        | true => exact .inr ⟨i, rfl, if_pos rfl⟩
        | false => exact .inl (if_neg Bool.false_ne_true)
      cases hfunc : a.func with
      | none =>
          have hno : ∀ j func, ¬ Registers a j func := by
            intro j func h
            cases hfunc.symm.trans h.func
          refine .inr ⟨hno, ?_⟩
          simp only [setDinEvent, hport, hfunc, apply_ite Prod.fst]
          exact hclears
      | some func =>
          by_cases hmode : a.mode = dinEventClear
          · refine .inr ⟨fun j func h => h.mode hmode, ?_⟩
            simp only [setDinEvent, hport, hfunc, if_pos hmode, apply_ite Prod.fst]
            exact hclears
          · cases hchecked : checkMode a.mode with
            | false =>
                have hno : ∀ j func, ¬ Registers a j func := by
                  intro j func h
                  cases hchecked.symm.trans h.checked
                refine .inr ⟨hno, .inl ?_⟩
                simp [setDinEvent, hport, hfunc, hmode, hchecked]
            | true =>
                cases hduration : checkDuration a.duration with
                | some error =>
                    have hno : ∀ j func, ¬ Registers a j func := by
                      intro j func h
                      cases hduration.symm.trans h.duration
                    refine .inr ⟨hno, .inl ?_⟩
                    simp [setDinEvent, hport, hfunc, hmode, hchecked, hduration]
                | none =>
                    refine .inl ⟨i, func, ⟨hport, hfunc, hmode, hchecked, hduration⟩, ?_⟩
                    simp [setDinEvent, hport, hfunc, hmode, hchecked, hduration]

/-- A registration is carried out. -/
theorem setDinEvent_register {u : Ulong} {a : SetDinEvent F} {i : Fin maxDinPort} {func : F}
    (h : Registers a i func) (s : Din F) :
    setDinEvent u s a =
      ({ setDinEvent.register u a s i func with pthreadForkFlag := true }, dioOk) := by
  simp [setDinEvent, h.port, h.func, h.mode, h.checked, h.duration]

/-- The other ports are left alone. -/
theorem setDinEvent_other (u : Ulong) (s : Din F) (a : SetDinEvent F) {j : Fin maxDinPort}
    (h : dinPort? a.diport ≠ some j) : (setDinEvent u s a).1.port j = s.port j := by
  have hne {i : Fin maxDinPort} (hi : dinPort? a.diport = some i) : j ≠ i := by
    rintro rfl
    exact h hi
  obtain ⟨i, func, hreg, heq⟩ | ⟨-, heq | ⟨i, hi, heq⟩⟩ := setDinEvent_cases u s a
  · rw [heq]
    exact s.put_of_ne (hne hreg.port) _
  · rw [heq]
  · rw [heq]
    exact s.put_of_ne (hne hi) _

/-- The modes of a registration. -/
def EventMode (mode : Int) : Prop :=
  mode = dinEventHighToLow ∨ mode = dinEventLowToHigh ∨ mode = dinEventStateChange

theorem Registers.eventMode {a : SetDinEvent F} {i : Fin maxDinPort} {func : F}
    (h : Registers a i func) : EventMode a.mode := by
  have hchecked := h.checked
  simp only [checkMode, Bool.or_eq_true, decide_eq_true_eq] at hchecked
  obtain ((hmode | hmode) | hmode) | hmode := hchecked
  · exact .inl hmode
  · exact .inr (.inl hmode)
  · exact absurd hmode h.mode
  · exact .inr (.inr hmode)

/-! ## What a round does -/

/-- A mode that does not ask for a change stops the check at it. -/
theorem stops_of_not_asks {mode : Int} (hmode : EventMode mode) {state : DioState}
    (h : asks mode state = false) :
    (mode = dinEventHighToLow ∧ state = .high) ∨ (mode = dinEventLowToHigh ∧ state = .low) ∨
      mode = dinEventStateChange := by
  obtain rfl | rfl | rfl := hmode
  · cases state with
    | low => cases h
    | high => exact .inl ⟨rfl, rfl⟩
  · cases state with
    | low => exact .inr (.inl ⟨rfl, rfl⟩)
    | high => cases h
  · exact .inr (.inr rfl)

/-- A change at a port with a duration. -/
theorem dinSample_change {u : Ulong} {p : DinPort F} (hmode : EventMode p.event.mode)
    (hduration : p.event.duration ≠ 0) {state : DioState} (hstate : state ≠ p.event.oldstate)
    (now : Timeval) :
    dinSample u p state now = (⟨{ p.event with oldstate := state }, asks p.event.mode state,
      if asks p.event.mode state then now else p.dinStarttime⟩, false) := by
  simp only [dinSample, if_neg hduration, if_pos hstate]
  cases hasks : asks p.event.mode state with
  | true => rfl
  | false => simp [stops_of_not_asks hmode hasks]

/-- No change at such a port. -/
theorem dinSample_same {u : Ulong} {p : DinPort F} (hduration : p.event.duration ≠ 0)
    {state : DioState} (hstate : state = p.event.oldstate) (now : Timeval) :
    dinSample u p state now =
      if p.bStartDurationCheck = true ∧
          p.event.duration ≤ (dinDuration u p.dinStarttime now + dinInaccuracy) % 2 ^ u.bits then
        ({ p with bStartDurationCheck := false }, true)
      else (p, false) := by
  have hsame : ¬ state ≠ p.event.oldstate := not_not.mpr hstate
  simp only [dinSample, if_neg hduration, if_neg hsame]
  cases p.bStartDurationCheck with
  | true => simp
  | false => simp

/-- A port without one. -/
theorem dinSample_at_once {u : Ulong} {p : DinPort F} (hduration : p.event.duration = 0)
    (state : DioState) (now : Timeval) :
    dinSample u p state now = ({ p with event := { p.event with oldstate := state } },
      decide (state ≠ p.event.oldstate) && asks p.event.mode state) := by
  simp only [dinSample, if_pos hduration]
  by_cases hstate : state = p.event.oldstate
  · simp [hstate]
  · simp [hstate]

theorem dinPollFrom_forkFlag (u : Ulong) (r : Fin maxDinPort → Reading)
    (is : List (Fin maxDinPort)) :
    ∀ s : Din F, (dinPollFrom u r is s).1.pthreadForkFlag = s.pthreadForkFlag := by
  induction is with
  | nil => exact fun _ => rfl
  | cons i is ih => exact fun s => ih (s.put i (dinPollPort u (s.port i) (r i)).1)

/-- A port that is not in the list. -/
theorem dinPollFrom_of_notMem (u : Ulong) (r : Fin maxDinPort → Reading) {j : Fin maxDinPort}
    {is : List (Fin maxDinPort)} (h : j ∉ is) :
    ∀ s : Din F, (dinPollFrom u r is s).1.port j = s.port j ∧ j ∉ (dinPollFrom u r is s).2 := by
  induction is with
  | nil => exact fun s => ⟨rfl, h⟩
  | cons i is ih =>
      intro s
      rw [List.mem_cons, not_or] at h
      obtain ⟨hji, hj⟩ := h
      obtain ⟨hport, hcalls⟩ := ih hj (s.put i (dinPollPort u (s.port i) (r i)).1)
      rw [s.put_of_ne hji] at hport
      refine ⟨hport, ?_⟩
      simp only [dinPollFrom]
      split
      · rw [List.mem_cons, not_or]
        exact ⟨hji, hcalls⟩
      · exact hcalls

/-- Each port of the list is looked at once. -/
theorem dinPollFrom_port (u : Ulong) (r : Fin maxDinPort → Reading) {j : Fin maxDinPort}
    {is : List (Fin maxDinPort)} (hj : j ∈ is) (hnodup : is.Nodup) :
    ∀ s : Din F, (dinPollFrom u r is s).1.port j = (dinPollPort u (s.port j) (r j)).1 ∧
      (j ∈ (dinPollFrom u r is s).2 ↔ (dinPollPort u (s.port j) (r j)).2 = true) := by
  induction is with
  | nil => cases hj
  | cons i is ih =>
      intro s
      rw [List.nodup_cons] at hnodup
      obtain ⟨hi, hnodup⟩ := hnodup
      simp only [dinPollFrom]
      by_cases hji : j = i
      · subst hji
        obtain ⟨hport, hcalls⟩ :=
          dinPollFrom_of_notMem u r hi (s.put j (dinPollPort u (s.port j) (r j)).1)
        rw [hport, s.put_self]
        refine ⟨rfl, ?_⟩
        split
        · next hcalled => simp [hcalled]
        · next hcalled => simp [hcalled, hcalls]
      · have hj : j ∈ is := (List.mem_cons.mp hj).resolve_left hji
        obtain ⟨hport, hcalls⟩ := ih hj hnodup (s.put i (dinPollPort u (s.port i) (r i)).1)
        rw [s.put_of_ne hji] at hport hcalls
        refine ⟨hport, ?_⟩
        rw [← hcalls]
        split
        · rw [List.mem_cons, or_iff_right hji]
        · rfl

/-- A callback is registered only after the thread is created. -/
def Forked (s : Din F) : Prop := ∀ i, (s.port i).active = true → s.pthreadForkFlag = true

theorem dinPollPort_of_not_active (u : Ulong) {p : DinPort F} (h : p.active = false) (r : Reading) :
    dinPollPort u p r = (p, false) := by
  rw [dinPollPort, h]
  rfl

/-- **A round** looks at each port once. -/
theorem dinPoll_port (u : Ulong) {s : Din F} (h : Forked s) (r : Fin maxDinPort → Reading)
    (i : Fin maxDinPort) :
    (dinPoll u s r).1.port i = (dinPollPort u (s.port i) (r i)).1 ∧
      (i ∈ (dinPoll u s r).2 ↔ (dinPollPort u (s.port i) (r i)).2 = true) := by
  cases hfork : s.pthreadForkFlag with
  | true =>
      rw [dinPoll, if_pos hfork]
      exact dinPollFrom_port u r (List.mem_finRange i) (List.nodup_finRange _) s
  | false =>
      have hactive : (s.port i).active = false := by
        rw [← Bool.not_eq_true]
        intro hactive
        cases hfork.symm.trans (h i hactive)
      rw [dinPoll, if_neg (by rw [hfork]; decide), dinPollPort_of_not_active u hactive]
      simp

/-- What a round leaves alone at a port. -/
theorem dinPollPort_keeps (u : Ulong) (p : DinPort F) (r : Reading) :
    ∃ oldstate, (dinPollPort u p r).1.event = { p.event with oldstate := oldstate } := by
  have hsample (state : DioState) :
      ∃ oldstate, (dinSample u p state r.now).1.event = { p.event with oldstate := oldstate } := by
    simp only [dinSample]
    split
    · split
      · exact ⟨state, rfl⟩
      · exact ⟨_, rfl⟩
    · split
      · split
        · exact ⟨state, rfl⟩
        · split
          · exact ⟨state, rfl⟩
          · exact ⟨state, rfl⟩
      · split
        · split
          · exact ⟨_, rfl⟩
          · exact ⟨_, rfl⟩
        · exact ⟨_, rfl⟩
  rw [dinPollPort]
  split
  · split
    · exact ⟨_, rfl⟩
    · exact hsample _
  · exact ⟨_, rfl⟩

/-- A port has a callback after a round if it has one before. -/
theorem dinPollPort_active (u : Ulong) (p : DinPort F) (r : Reading) :
    (dinPollPort u p r).1.active = p.active := by
  obtain ⟨oldstate, hkeeps⟩ := dinPollPort_keeps u p r
  rw [DinPort.active, hkeeps]
  rfl

theorem Forked.next {s : Din F} (h : Forked s) (u : Ulong) (a : Act F) : Forked (dinNext u s a) := by
  cases a with
  | set a =>
      show Forked (setDinEvent u s a).1
      obtain ⟨i, func, -, heq⟩ | ⟨-, heq | ⟨i, -, heq⟩⟩ := setDinEvent_cases u s a
      · rw [heq]
        exact fun _ _ => rfl
      · rw [heq]
        exact h
      · rw [heq]
        intro j hj
        by_cases hji : j = i
        · subst hji
          simp [setDinEvent.clear, DinPort.active, DinEvent.clear] at hj
        · rw [setDinEvent.clear, s.put_of_ne hji] at hj
          exact h j hj
  | poll r =>
      show Forked (dinPoll u s r).1
      intro i hi
      obtain ⟨hport, -⟩ := dinPoll_port u h r i
      have hactive : (s.port i).active = true := dinPollPort_active u _ _ ▸ hport ▸ hi
      rw [← h i hactive, dinPoll, if_pos (h i hactive)]
      exact dinPollFrom_forkFlag u r _ s

theorem forked_din0 : Forked (din0 : Din F) := by
  intro i hi
  cases hi

end MoxaDrivers.MxDioControl

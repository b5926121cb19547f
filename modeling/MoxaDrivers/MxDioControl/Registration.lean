import MoxaDrivers.MxDioControl.Din

/-!
# Callbacks and the registration they belong to

`set_din_event` replaces an entry of `din_event`, but not `bStartDurationCheck`
and `din_starttime`, which are out of its reach, and not `oldstate` if
`get_din_state` fails. A check that is running then runs on for the new
registration, and the old state is what the first reading is compared with.
-/

namespace MoxaDrivers.MxDioControl

open MoxaDrivers.Machine

variable {F : Type}

/-! ## What is seen of a port -/

/-- What has been read at a port since the registration in force: the last state,
and when it was last seen to change. -/
structure Seen where
  state : Option DioState
  change : Option Timeval
  deriving DecidableEq, Repr

/-- A reading that does not fail is a change if it is not what was read before. -/
def Seen.next (seen : Seen) (r : Reading) : Seen :=
  match r.state with
  | none => seen
  | some state =>
      ⟨some state, if seen.state ≠ none ∧ seen.state ≠ some state then some r.now else seen.change⟩

theorem Seen.next_same {seen : Seen} {state : DioState} (h : seen.state = some state)
    (now : Timeval) : seen.next ⟨some state, now⟩ = seen := by
  have hsame : ¬ (seen.state ≠ none ∧ seen.state ≠ some state) := fun hne => hne.2 h
  obtain ⟨last, change⟩ := seen
  cases h
  exact congrArg (Seen.mk (some state)) (if_neg hsame)

theorem Seen.next_change {seen : Seen} {before state : DioState} (h : seen.state = some before)
    (hne : before ≠ state) (now : Timeval) :
    seen.next ⟨some state, now⟩ = ⟨some state, some now⟩ := by
  have hchange : seen.state ≠ none ∧ seen.state ≠ some state := by
    rw [h]
    exact ⟨Option.some_ne_none before, fun heq => hne (Option.some.inj heq)⟩
  exact congrArg (Seen.mk (some state)) (if_pos hchange)

structure Watched (F : Type) where
  din : Din F
  seen : Fin maxDinPort → Seen

def watched0 : Watched F := ⟨din0, fun _ => ⟨none, none⟩⟩

/-- A registration begins with what it reads; a port with a callback is read in
each round. -/
def seenNext (s : Watched F) (a : Act F) (i : Fin maxDinPort) : Seen :=
  match a with
  | .set a => if ∃ func, Registers a i func then ⟨a.read, none⟩ else s.seen i
  | .poll r => if (s.din.port i).active then (s.seen i).next (r i) else s.seen i

def watchedStep (u : Ulong) (s : Watched F) (a : Act F) : Except Empty (Watched F) :=
  (dinStep u s.din a).map fun din => ⟨din, seenNext s a⟩

/-- A callback is called for this: a change in the reading itself, or the time since
the last change. -/
def Caused (u : Ulong) (e : DinEvent F) (seen : Seen) (r : Reading) : Prop :=
  if e.duration = 0 then
    ∃ before state, seen.state = some before ∧ r.state = some state ∧ before ≠ state ∧
      asks e.mode state = true
  else
    ∃ start, seen.change = some start ∧
      e.duration ≤ (dinDuration u start r.now + dinInaccuracy) % 2 ^ u.bits

/-- The callbacks of a round belong to registered ports, and are caused by what was
read since the registration. -/
def OwnEvents (u : Ulong) (s : Watched F) (a : Act F) : Prop :=
  match a with
  | .set _ => True
  | .poll r => ∀ i ∈ (dinPoll u s.din r).2,
      (s.din.port i).active = true ∧ Caused u (s.din.port i).event (s.seen i) (r i)

/-- A registration reads the port, and finds no check running if it is to start
some. -/
def FreshStart (s : Watched F) (a : Act F) : Prop :=
  match a with
  | .set a => ∀ i, (∃ func, Registers a i func) →
      a.read ≠ none ∧ (a.duration = 0 ∨ (s.din.port i).bStartDurationCheck = false)
  | .poll _ => True

instance decidableFreshStart (s : Watched F) : ∀ a, Decidable (FreshStart s a)
  | .set a => inferInstanceAs (Decidable (∀ i, (∃ func, Registers a i func) →
      a.read ≠ none ∧ (a.duration = 0 ∨ (s.din.port i).bStartDurationCheck = false)))
  | .poll _ => .isTrue trivial

/-! ## The invariant -/

/-- The entries of a port that has a callback are what was read since its
registration. -/
structure Following (p : DinPort F) (seen : Seen) : Prop where
  mode : EventMode p.event.mode
  state : seen.state = some p.event.oldstate
  check : p.event.duration ≠ 0 → p.bStartDurationCheck = true →
    seen.change = some p.dinStarttime

theorem Following.registered {u : Ulong} {p : DinPort F} {func : F} {mode : Int} {duration : Nat}
    {read : Option DioState} (hmode : EventMode mode) (hread : read ≠ none)
    (hidle : duration = 0 ∨ p.bStartDurationCheck = false) :
    Following { p with event := p.event.register u func mode duration read } ⟨read, none⟩ := by
  obtain ⟨state, rfl⟩ := Option.ne_none_iff_exists'.mp hread
  refine ⟨hmode, rfl, ?_⟩
  intro hduration hrun
  obtain hzero | hidle := hidle
  · exact absurd (by simp [DinEvent.register, hzero]) hduration
  · cases hidle.symm.trans hrun

/-- **A reading** keeps what follows the registration, and a callback is caused by
it. -/
theorem Following.sample {u : Ulong} {p : DinPort F} {seen : Seen} (h : Following p seen)
    (state : DioState) (now : Timeval) :
    Following (dinSample u p state now).1 (seen.next ⟨some state, now⟩) ∧
      ((dinSample u p state now).2 = true → Caused u p.event seen ⟨some state, now⟩) := by
  obtain ⟨hmode, hseen, hcheck⟩ := h
  by_cases hduration : p.event.duration = 0
  · rw [dinSample_at_once hduration]
    refine ⟨⟨hmode, rfl, fun hne => absurd hduration hne⟩, ?_⟩
    intro hcalled
    rw [Bool.and_eq_true, decide_eq_true_eq] at hcalled
    obtain ⟨hne, hasks⟩ := hcalled
    rw [Caused, if_pos hduration]
    exact ⟨p.event.oldstate, state, hseen, rfl, Ne.symm hne, hasks⟩
  · by_cases hstate : state = p.event.oldstate
    · have hnext := Seen.next_same (hstate ▸ hseen) now
      rw [dinSample_same hduration hstate, hnext]
      split
      · next hcalled =>
          refine ⟨⟨hmode, hseen, fun _ hrun => by cases hrun⟩, fun _ => ?_⟩
          rw [Caused, if_neg hduration]
          exact ⟨p.dinStarttime, hcheck hduration hcalled.1, hcalled.2⟩
      · exact ⟨⟨hmode, hseen, hcheck⟩, fun hcalled => by cases hcalled⟩
    · rw [dinSample_change hmode hduration hstate]
      refine ⟨⟨hmode, rfl, fun _ hrun => ?_⟩, fun hcalled => by cases hcalled⟩
      rw [Seen.next_change hseen (Ne.symm hstate)]
      have hasks : asks p.event.mode state = true := hrun
      show some now = some (if asks p.event.mode state = true then now else p.dinStarttime)
      rw [if_pos hasks]

/-- **A round** at a port with a callback. -/
theorem Following.poll {u : Ulong} {p : DinPort F} {seen : Seen} (h : Following p seen)
    (hactive : p.active = true) (r : Reading) :
    Following (dinPollPort u p r).1 (seen.next r) ∧
      ((dinPollPort u p r).2 = true → Caused u p.event seen r) := by
  obtain ⟨state, now⟩ := r
  rw [dinPollPort, if_pos hactive]
  cases state with
  | none => exact ⟨h, fun hcalled => by cases hcalled⟩
  | some state => exact h.sample state now

/-- All ports that have a callback. -/
structure AllFollowing (s : Watched F) : Prop where
  forked : Forked s.din
  port : ∀ i, (s.din.port i).active = true → Following (s.din.port i) (s.seen i)

theorem allFollowing_watched0 : AllFollowing (watched0 : Watched F) :=
  ⟨forked_din0, fun _ hi => by cases hi⟩

theorem AllFollowing.step {u : Ulong} {s t : Watched F} (h : AllFollowing s) {a : Act F}
    (hfresh : FreshStart s a) (ht : watchedStep u s a = .ok t) : AllFollowing t := by
  cases a with
  | set a =>
      cases ht
      refine ⟨h.forked.next u _, ?_⟩
      intro j hj
      show Following ((setDinEvent u s.din a).1.port j) (seenNext s (.set a) j)
      replace hj : ((setDinEvent u s.din a).1.port j).active = true := hj
      obtain ⟨i, func, hreg, heq⟩ | ⟨hno, heq⟩ := setDinEvent_cases u s.din a
      · by_cases hji : j = i
        · subst hji
          have hseen : seenNext s (.set a) j = ⟨a.read, none⟩ := if_pos ⟨func, hreg⟩
          have hport : (setDinEvent u s.din a).1.port j =
              { s.din.port j with
                event := (s.din.port j).event.register u func a.mode a.duration a.read } := by
            rw [heq]
            exact s.din.put_self j _
          rw [hport, hseen]
          obtain ⟨hread, hidle⟩ := hfresh j ⟨func, hreg⟩
          exact .registered hreg.eventMode hread hidle
        · have hno : ¬ ∃ func, Registers a j func := by
            rintro ⟨func', hreg'⟩
            exact hji (Option.some.inj (hreg'.port.symm.trans hreg.port))
          have hport : (setDinEvent u s.din a).1.port j = s.din.port j := by
            rw [heq]
            exact s.din.put_of_ne hji _
          have hseen : seenNext s (.set a) j = s.seen j := if_neg hno
          rw [hport] at hj ⊢
          rw [hseen]
          exact h.port j hj
      · have hnone : ¬ ∃ func, Registers a j func := by
          rintro ⟨func, hreg⟩
          exact hno j func hreg
        have hseen : seenNext s (.set a) j = s.seen j := if_neg hnone
        rw [hseen]
        obtain heq | ⟨i, -, heq⟩ := heq
        · rw [heq] at hj ⊢
          exact h.port j hj
        · by_cases hji : j = i
          · subst hji
            rw [heq, setDinEvent.clear, s.din.put_self] at hj
            cases hj
          · rw [heq, setDinEvent.clear, s.din.put_of_ne hji] at hj ⊢
            exact h.port j hj
  | poll r =>
      cases ht
      refine ⟨h.forked.next u _, ?_⟩
      intro i hi
      obtain ⟨hport, -⟩ := dinPoll_port u h.forked r i
      have hactive : (s.din.port i).active = true := dinPollPort_active u _ _ ▸ hport ▸ hi
      have hnext : seenNext s (.poll r) i = (s.seen i).next (r i) := if_pos hactive
      show Following ((dinPoll u s.din r).1.port i) (seenNext s (.poll r) i)
      rw [hport, hnext]
      exact ((h.port i hactive).poll hactive (r i)).1

/-- **Events belong to their own registration** in a run whose registrations all
read the port and find no check running. -/
theorem events_own_registration (u : Ulong) (as : List (Act F))
    (h : Guarded (watchedStep u) FreshStart watched0 as) :
    EachStep (watchedStep u) (fun s a _ => OwnEvents u s a) watched0 as := by
  refine Guarded.mono (fun _ _ _ hs hfresh ht => hs.step hfresh ht) ?_ allFollowing_watched0 h
  intro s a hs _ t _
  cases a with
  | set a => trivial
  | poll r =>
      intro i hi
      have hcalled := (dinPoll_port u hs.forked r i).2.mp hi
      have hactive : (s.din.port i).active = true := by
        by_contra hno
        rw [dinPollPort_of_not_active u (Bool.not_eq_true _ ▸ hno)] at hcalled
        cases hcalled
      exact ⟨hactive, ((hs.port i hactive).poll hactive (r i)).2 hcalled⟩

/-- `set_din_event` with a callback for input 0, which reads `state`. -/
def register (mode : Int) (duration : Nat) (state : DioState) : Act Unit :=
  .set ⟨0, some (), mode, duration, some state⟩

/-- A round at `sec` that finds all inputs in a state. -/
def pollAt (state : DioState) (sec : Int) : Act Unit := .poll fun _ => ⟨some state, ⟨sec, 0⟩⟩

/-- The width of `unsigned long` on x86. -/
def ulong32 : Ulong := ⟨32, by decide⟩

/-- A callback that waits for a second, and a callback at once after it. -/
theorem own_events_in_turn :
    EachStep (watchedStep ulong32) (fun s a _ => OwnEvents ulong32 s a) watched0
      [register dinEventStateChange 1000 .high, pollAt .low 1, pollAt .low 3,
        register dinEventLowToHigh 0 .low, pollAt .high 4] :=
  events_own_registration ulong32 _ (by decide)

/-- The input goes low, the callback is set anew for the same mode, and the running
check has the new callback called with no change since. -/
theorem check_outlives_registration :
    ¬ EachStep (watchedStep ulong32) (fun s a _ => OwnEvents ulong32 s a) watched0
      [register dinEventHighToLow 1000 .high, pollAt .low 1, register dinEventHighToLow 40 .low,
        pollAt .low 2] := by
  intro h
  have hlast := h [register dinEventHighToLow 1000 .high, pollAt .low 1,
    register dinEventHighToLow 40 .low] (pollAt .low 2) (List.prefix_refl _) _ rfl _ rfl
  obtain ⟨-, hcaused⟩ := hlast 0 (by decide)
  obtain ⟨start, hstart, -⟩ := hcaused
  cases hstart

end MoxaDrivers.MxDioControl

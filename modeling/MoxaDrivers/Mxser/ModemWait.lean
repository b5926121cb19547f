import Mathlib.Logic.Function.Iterate
import MoxaDrivers.Mxser.ModemCount

/-!
# Waiting for a change of a modem line

`TIOCMIWAIT` notes the counters, and then, turn by turn, queues the caller on
`delta_msr_wait`, makes it sleep and reads the counters again. Here each of its
steps is one of its own, and between them `mxser_check_modem_status` counts, and
later wakes the queue, any number of times at once.

Between the read of the counters and the setting of the task state the counters
are not looked at: a wake-up that comes there is lost, and the caller sleeps over
the change that it was for.
-/

namespace MoxaDrivers.Mxser

open MoxaDrivers.Bits MoxaDrivers.Machine

/-! ## The steps -/

/-- Where the call stands. -/
inductive WaitPlace where
  /-- Before the counters are noted. -/
  | entered
  /-- Before `add_wait_queue`. -/
  | looping
  /-- Before the state is set. -/
  | queued
  /-- Before `schedule`. -/
  | ready
  /-- Taken off the processor by `schedule`. -/
  | asleep
  /-- Before `remove_wait_queue`. -/
  | woken
  /-- Before `signal_pending`. -/
  | removed
  /-- Before the counters are read again. -/
  | unsignalled
  | returned (err : Option Errno)
  deriving DecidableEq, Repr

/-- The call is on the queue. -/
def WaitPlace.onQueue : WaitPlace → Bool
  | .queued => true
  | .ready => true
  | .asleep => true
  | .woken => true
  | _ => false

/-- A call of `TIOCMIWAIT` for the lines in `arg`. `entry` are the counters at the
snapshot; `running` is the task state, `TASK_RUNNING` or `TASK_INTERRUPTIBLE`;
`counted` is the number of `mxser_check_modem_status` that have counted and not
yet woken the queue. -/
structure ModemWait where
  port : Port
  arg : Word
  entry : AsyncIcount
  cprev : AsyncIcount
  place : WaitPlace
  running : Bool
  signal : Bool
  counted : Nat

/-- The bit of the line in `arg`. -/
def ModemLine.tiocm : ModemLine → Word
  | .cts => tiocmCts
  | .dsr => tiocmDsr
  | .dcd => tiocmCar
  | .rng => tiocmRng

/-- A counter of the lines in `arg` differs. -/
def changed (arg : Word) (cnow cprev : AsyncIcount) : Prop :=
  ∃ line : ModemLine, test arg line.tiocm = true ∧ line.counter cnow ≠ line.counter cprev

theorem changed_iff (arg : Word) (cnow cprev : AsyncIcount) :
    changed arg cnow cprev ↔
      (test arg tiocmRng = true ∧ cnow.rng ≠ cprev.rng) ∨
      (test arg tiocmDsr = true ∧ cnow.dsr ≠ cprev.dsr) ∨
      (test arg tiocmCar = true ∧ cnow.dcd ≠ cprev.dcd) ∨
      (test arg tiocmCts = true ∧ cnow.cts ≠ cprev.cts) := by
  constructor
  · rintro ⟨line, h⟩
    cases line with
    | rng => exact .inl h
    | dsr => exact .inr (.inl h)
    | dcd => exact .inr (.inr (.inl h))
    | cts => exact .inr (.inr (.inr h))
  · rintro (h | h | h | h)
    · exact ⟨.rng, h⟩
    · exact ⟨.dsr, h⟩
    · exact ⟨.dcd, h⟩
    · exact ⟨.cts, h⟩

instance (arg : Word) (cnow cprev : AsyncIcount) : Decidable (changed arg cnow cprev) :=
  decidable_of_iff _ (changed_iff arg cnow cprev).symm

namespace ModemWait

/-- The next step of the call. -/
def waiter (s : ModemWait) : ModemWait :=
  match s.place with
  | .entered => { s with entry := s.port.icount, cprev := s.port.icount, place := .looping }
  | .looping => { s with place := .queued }
  | .queued => { s with place := .ready, running := false }
  | .ready =>
      -- `schedule` keeps a task that was woken, or has a signal, on the processor
      if s.running || s.signal then { s with place := .woken, running := true }
      else { s with place := .asleep }
  | .asleep => if s.running then { s with place := .woken } else s
  | .woken => { s with place := .removed }
  | .removed =>
      if s.signal then { s with place := .returned (some .erestartsys) }
      else { s with place := .unsignalled }
  | .unsignalled =>
      if changed s.arg s.port.icount s.cprev then { s with place := .returned none }
      else { s with cprev := s.port.icount, place := .looping }
  | .returned _ => s

/-- `wake_up_interruptible(&info->delta_msr_wait)`. -/
def wakeUp (s : ModemWait) : ModemWait :=
  if s.place.onQueue then { s with running := true } else s

end ModemWait

inductive WaitOp where
  /-- The call goes on. -/
  | waiter
  /-- `mxser_check_modem_status` counts the deltas of `status`. -/
  | count (status : Byte)
  /-- One that has counted wakes the queue. -/
  | wake
  /-- `mxser_shutdown` wakes the queue. -/
  | shutdown
  /-- The caller is sent a signal. -/
  | signal
  deriving DecidableEq, Repr

def ModemWait.next (s : ModemWait) : WaitOp → ModemWait
  | .waiter => s.waiter
  | .count status => { s with port := countDeltas s.port status, counted := s.counted + 1 }
  | .wake => if s.counted = 0 then s else { s with counted := s.counted - 1 }.wakeUp
  | .shutdown => s.wakeUp
  | .signal => { s with signal := true, running := true }

/-- A step that nobody is ready for changes nothing. -/
def modemWaitStep (s : ModemWait) (a : WaitOp) : Except Empty ModemWait := .ok (s.next a)

/-! ## What a wait owes its caller -/

namespace ModemWait

/-- A counter of the lines waited for is not what it was on entry. -/
def Changed (s : ModemWait) : Prop := changed s.arg s.port.icount s.entry

instance (s : ModemWait) : Decidable s.Changed := inferInstanceAs (Decidable (changed _ _ _))

/-- The call returns if it is left alone. -/
def Returns (s : ModemWait) : Prop := ∃ n err, (waiter^[n] s).place = .returned err

/-- **No change is missed**: with no wake-up on its way, a caller that sleeps has
seen no change of its lines, and after a change the call returns. -/
structure MissesNothing (s : ModemWait) : Prop where
  asleep : s.place = .asleep → s.running = false → s.counted = 0 →
    ∀ line : ModemLine, test s.arg line.tiocm = true →
      line.counter s.port.icount = line.counter s.entry
  returns : s.place ≠ .entered → s.counted = 0 → s.Changed → s.Returns

/-- The call has read the counters and not yet set its state. -/
def Unready (s : ModemWait) : Prop := s.place = .looping ∨ s.place = .queued

instance (s : ModemWait) : Decidable s.Unready := inferInstanceAs (Decidable (_ ∨ _))

/-- The wake-up for a change, the last one on its way, comes when the call has
set its state, if it has no signal to return for. -/
def InTime (s : ModemWait) : WaitOp → Prop
  | .wake => s.Unready → s.signal = false → s.counted = 1 → ¬ s.Changed
  | _ => True

/-- `InTime` can be decided. -/
instance (s : ModemWait) (a : WaitOp) : Decidable (s.InTime a) := by
  cases a with
  | wake => exact inferInstanceAs (Decidable (s.Unready → s.signal = false → _))
  | waiter => exact .isTrue trivial
  | count status => exact .isTrue trivial
  | shutdown => exact .isTrue trivial
  | signal => exact .isTrue trivial

/-! ## A call that is left alone -/

section
variable {s : ModemWait}

theorem waiter_entered (h : s.place = .entered) :
    s.waiter = { s with entry := s.port.icount, cprev := s.port.icount, place := .looping } := by
  simp only [waiter, h]

theorem waiter_looping (h : s.place = .looping) : s.waiter = { s with place := .queued } := by
  simp only [waiter, h]

theorem waiter_queued (h : s.place = .queued) :
    s.waiter = { s with place := .ready, running := false } := by
  simp only [waiter, h]

theorem waiter_ready_stays (h : s.place = .ready) (hstays : s.running = true ∨ s.signal = true) :
    s.waiter = { s with place := .woken, running := true } := by
  simp only [waiter, h]
  exact if_pos (by simpa using hstays)

theorem waiter_ready_sleeps (h : s.place = .ready) (hrunning : s.running = false)
    (hsignal : s.signal = false) : s.waiter = { s with place := .asleep } := by
  simp only [waiter, h]
  exact if_neg (by simp [hrunning, hsignal])

theorem waiter_asleep_woken (h : s.place = .asleep) (hrunning : s.running = true) :
    s.waiter = { s with place := .woken } := by
  simp only [waiter, h]
  exact if_pos hrunning

theorem waiter_asleep_stuck (h : s.place = .asleep) (hrunning : s.running = false) :
    s.waiter = s := by
  simp only [waiter, h]
  exact if_neg (by simp [hrunning])

theorem waiter_woken (h : s.place = .woken) : s.waiter = { s with place := .removed } := by
  simp only [waiter, h]

theorem waiter_removed_signal (h : s.place = .removed) (hsignal : s.signal = true) :
    s.waiter = { s with place := .returned (some .erestartsys) } := by
  simp only [waiter, h]
  exact if_pos hsignal

theorem waiter_removed (h : s.place = .removed) (hsignal : s.signal = false) :
    s.waiter = { s with place := .unsignalled } := by
  simp only [waiter, h]
  exact if_neg (by simp [hsignal])

theorem waiter_changed (h : s.place = .unsignalled)
    (hchanged : changed s.arg s.port.icount s.cprev) :
    s.waiter = { s with place := .returned none } := by
  simp only [waiter, h]
  exact if_pos hchanged

theorem waiter_unchanged (h : s.place = .unsignalled)
    (hchanged : ¬ changed s.arg s.port.icount s.cprev) :
    s.waiter = { s with cprev := s.port.icount, place := .looping } := by
  simp only [waiter, h]
  exact if_neg hchanged

theorem waiter_returned {err : Option Errno} (h : s.place = .returned err) : s.waiter = s := by
  simp only [waiter, h]

end

theorem Returns.of_waiter {s : ModemWait} (h : s.waiter.Returns) : s.Returns := by
  obtain ⟨n, err, hn⟩ := h
  exact ⟨n + 1, err, hn⟩

theorem returns_of_returned {s : ModemWait} {err : Option Errno} (h : s.place = .returned err) :
    s.Returns := ⟨0, err, h⟩

/-- What was noted of the lines waited for is what they were on entry. -/
def Noted (s : ModemWait) : Prop := ∀ line : ModemLine, test s.arg line.tiocm = true →
  line.counter s.cprev = line.counter s.entry

theorem changed_cprev_iff {s : ModemWait} (h : s.Noted) :
    changed s.arg s.port.icount s.cprev ↔ s.Changed := by
  constructor
  · rintro ⟨line, harg, hne⟩
    exact ⟨line, harg, h line harg ▸ hne⟩
  · rintro ⟨line, harg, hne⟩
    exact ⟨line, harg, (h line harg).symm ▸ hne⟩

/-- From the read of the counters on. -/
theorem returns_of_unsignalled {s : ModemWait} (hnoted : s.Noted) (hchanged : s.Changed)
    (hplace : s.place = .unsignalled) : s.Returns := by
  apply Returns.of_waiter
  rw [waiter_changed hplace ((changed_cprev_iff hnoted).mpr hchanged)]
  exact returns_of_returned rfl

/-- From the check for signals on. -/
theorem returns_of_removed {s : ModemWait} (hnoted : s.Noted) (hchanged : s.Changed)
    (hplace : s.place = .removed) : s.Returns := by
  apply Returns.of_waiter
  cases hsignal : s.signal with
  | true =>
      rw [waiter_removed_signal hplace hsignal]
      exact returns_of_returned rfl
  | false =>
      rw [waiter_removed hplace hsignal]
      exact returns_of_unsignalled hnoted hchanged rfl

/-- From the return of `schedule` on. -/
theorem returns_of_woken {s : ModemWait} (hnoted : s.Noted) (hchanged : s.Changed)
    (hplace : s.place = .woken) : s.Returns := by
  apply Returns.of_waiter
  rw [waiter_woken hplace]
  exact returns_of_removed hnoted hchanged rfl

/-- From `schedule` on, if it does not sleep. -/
theorem returns_of_ready {s : ModemWait} (hnoted : s.Noted) (hchanged : s.Changed)
    (hplace : s.place = .ready) (hstays : s.running = true ∨ s.signal = true) : s.Returns := by
  apply Returns.of_waiter
  rw [waiter_ready_stays hplace hstays]
  exact returns_of_woken hnoted hchanged rfl

/-- From the queueing on, if a signal keeps it from sleeping. -/
theorem returns_of_queued {s : ModemWait} (hnoted : s.Noted) (hchanged : s.Changed)
    (hplace : s.place = .queued) (hsignal : s.signal = true) : s.Returns := by
  apply Returns.of_waiter
  rw [waiter_queued hplace]
  exact returns_of_ready hnoted hchanged rfl (.inr hsignal)

/-- The call will sleep, or sleeps, if nothing wakes it. -/
def Dozing (s : ModemWait) : Prop :=
  s.Unready ∨ ((s.place = .ready ∨ s.place = .asleep) ∧ s.running = false)

/-- And nothing of its own does. -/
structure Lost (s : ModemWait) : Prop where
  unsignalled : s.signal = false
  dozing : s.Dozing

theorem Lost.waiter {s : ModemWait} (h : s.Lost) : s.waiter.Lost := by
  obtain ⟨hsignal, (hplace | hplace) | ⟨hplace | hplace, hrunning⟩⟩ := h
  · rw [waiter_looping hplace]
    exact ⟨hsignal, .inl (.inr rfl)⟩
  · rw [waiter_queued hplace]
    exact ⟨hsignal, .inr ⟨.inl rfl, rfl⟩⟩
  · rw [waiter_ready_sleeps hplace hrunning hsignal]
    exact ⟨hsignal, .inr ⟨.inr rfl, hrunning⟩⟩
  · rw [waiter_asleep_stuck hplace hrunning]
    exact ⟨hsignal, .inr ⟨.inr hplace, hrunning⟩⟩

/-- Nothing it does by itself makes it return. -/
theorem Lost.not_returns {s : ModemWait} (h : s.Lost) : ¬ s.Returns := by
  rintro ⟨n, err, hn⟩
  induction n generalizing s with
  | zero =>
      obtain ⟨-, (hplace | hplace) | ⟨hplace | hplace, -⟩⟩ := h
      · cases hplace.symm.trans hn
      · cases hplace.symm.trans hn
      · cases hplace.symm.trans hn
      · cases hplace.symm.trans hn
  | succ n ih => exact ih h.waiter hn

/-! ## The invariant -/

/-- As long as no wake-up is lost, one is on its way for every change that the
call has not seen. -/
structure Served (s : ModemWait) : Prop where
  noted : s.place ≠ .entered → s.Noted
  covered : s.Dozing → s.Changed → s.signal = true ∨ 0 < s.counted
  unsignalled : s.place = .asleep → s.running = false → s.signal = false

theorem Served.missesNothing {s : ModemWait} (h : s.Served) : s.MissesNothing := by
  constructor
  · intro hplace hrunning hcounted line harg
    by_contra hne
    obtain hsignal | hpos := h.covered (.inr ⟨.inr hplace, hrunning⟩) ⟨line, harg, hne⟩
    · exact Bool.false_ne_true ((h.unsignalled hplace hrunning).symm.trans hsignal)
    · omega
  · intro hentered hcounted hchanged
    have hnoted := h.noted hentered
    have hdozing : s.Dozing → s.signal = true := fun hdozing =>
      (h.covered hdozing hchanged).resolve_right (by omega)
    cases hplace : s.place with
    | entered => exact absurd hplace hentered
    | looping =>
        apply Returns.of_waiter
        rw [waiter_looping hplace]
        exact returns_of_queued hnoted hchanged rfl (hdozing (.inl (.inl hplace)))
    | queued => exact returns_of_queued hnoted hchanged hplace (hdozing (.inl (.inr hplace)))
    | ready =>
        cases hrunning : s.running with
        | true => exact returns_of_ready hnoted hchanged hplace (.inl hrunning)
        | false =>
            have hsignal := hdozing (.inr ⟨.inl hplace, hrunning⟩)
            exact returns_of_ready hnoted hchanged hplace (.inr hsignal)
    | asleep =>
        cases hrunning : s.running with
        | true =>
            apply Returns.of_waiter
            rw [waiter_asleep_woken hplace hrunning]
            exact returns_of_woken hnoted hchanged rfl
        | false =>
            -- a signal would have woken it
            have hsignal := hdozing (.inr ⟨.inr hplace, hrunning⟩)
            exact absurd ((h.unsignalled hplace hrunning).symm.trans hsignal) Bool.false_ne_true
    | woken => exact returns_of_woken hnoted hchanged hplace
    | removed => exact returns_of_removed hnoted hchanged hplace
    | unsignalled => exact returns_of_unsignalled hnoted hchanged hplace
    | returned err => exact returns_of_returned hplace

/-- A call that does not doze has nothing to be woken for. -/
theorem served_of_awake {s : ModemWait} (hnoted : s.place ≠ .entered → s.Noted)
    (hawake : ¬ s.Dozing) : s.Served := by
  refine ⟨hnoted, fun hdozing => absurd hdozing hawake, fun hplace hrunning => ?_⟩
  exact absurd (.inr ⟨.inr hplace, hrunning⟩) hawake

/-- A call that goes on behind its sleep. -/
theorem Served.onward {s : ModemWait} (h : s.Served) (hentered : s.place ≠ .entered)
    {place : WaitPlace} (running : Bool) (hplace : place = .woken ∨ place = .removed ∨
      place = .unsignalled ∨ ∃ err, place = .returned err) :
    Served { s with place := place, running := running } := by
  refine served_of_awake (fun _ => h.noted hentered) ?_
  rcases hplace with rfl | rfl | rfl | ⟨err, rfl⟩
  · simp [Dozing, Unready]
  · simp [Dozing, Unready]
  · simp [Dozing, Unready]
  · simp [Dozing, Unready]

theorem Served.waiter {s : ModemWait} (h : s.Served) : s.waiter.Served := by
  cases hplace : s.place with
  | entered =>
      -- the counters are those of the entry
      rw [waiter_entered hplace]
      refine ⟨fun _ line _ => rfl, fun _ ⟨line, _, hne⟩ => absurd rfl hne, fun hasleep => ?_⟩
      cases hasleep
  | looping =>
      rw [waiter_looping hplace]
      refine ⟨fun _ => h.noted (by simp [hplace]), fun _ => h.covered (.inl (.inl hplace)), ?_⟩
      intro hasleep
      cases hasleep
  | queued =>
      rw [waiter_queued hplace]
      refine ⟨fun _ => h.noted (by simp [hplace]), fun _ => h.covered (.inl (.inr hplace)), ?_⟩
      intro hasleep
      cases hasleep
  | ready =>
      by_cases hstays : s.running = true ∨ s.signal = true
      · rw [waiter_ready_stays hplace hstays]
        exact h.onward (by simp [hplace]) _ (by simp)
      · have hrunning : s.running = false := by
          simpa using (not_or.mp hstays).1
        have hsignal : s.signal = false := by
          simpa using (not_or.mp hstays).2
        rw [waiter_ready_sleeps hplace hrunning hsignal]
        exact ⟨fun _ => h.noted (by simp [hplace]),
          fun _ => h.covered (.inr ⟨.inl hplace, hrunning⟩), fun _ _ => hsignal⟩
  | asleep =>
      cases hrunning : s.running with
      | true =>
          rw [waiter_asleep_woken hplace hrunning]
          exact h.onward (by simp [hplace]) _ (by simp)
      | false =>
          rw [waiter_asleep_stuck hplace hrunning]
          exact h
  | woken =>
      rw [waiter_woken hplace]
      exact h.onward (by simp [hplace]) _ (by simp)
  | removed =>
      cases hsignal : s.signal with
      | true =>
          rw [waiter_removed_signal hplace hsignal]
          exact h.onward (by simp [hplace]) _ (by simp)
      | false =>
          rw [waiter_removed hplace hsignal]
          exact h.onward (by simp [hplace]) _ (by simp)
  | unsignalled =>
      have hnoted := h.noted (by simp [hplace])
      by_cases hchanged : changed s.arg s.port.icount s.cprev
      · rw [waiter_changed hplace hchanged]
        exact served_of_awake (fun _ => hnoted) (by simp [Dozing, Unready])
      · -- what it notes now is what it had noted
        have hsame : ∀ line : ModemLine, test s.arg line.tiocm = true →
            line.counter s.port.icount = line.counter s.entry := by
          intro line harg
          by_contra hne
          exact hchanged ((changed_cprev_iff hnoted).mpr ⟨line, harg, hne⟩)
        rw [waiter_unchanged hplace hchanged]
        refine ⟨fun _ => hsame, fun _ ⟨line, harg, hne⟩ => absurd (hsame line harg) hne, ?_⟩
        intro hasleep
        cases hasleep
  | returned err =>
      rw [waiter_returned hplace]
      exact h

/-- Deltas are counted, and a wake-up for them is on its way. -/
theorem Served.count {s : ModemWait} (h : s.Served) (status : Byte) :
    (s.next (.count status)).Served :=
  ⟨h.noted, fun _ _ => .inr (Nat.succ_pos _), h.unsignalled⟩

/-- A wake-up of a call that has not set its state does nothing. -/
theorem Served.wakeUp {s : ModemWait} (hnoted : s.place ≠ .entered → s.Noted)
    (hunready : s.Unready → s.Changed → s.signal = true ∨ 0 < s.counted) : s.wakeUp.Served := by
  rw [ModemWait.wakeUp]
  split
  · refine ⟨hnoted, ?_, ?_⟩
    · rintro (hdozing | ⟨-, hrunning⟩)
      · exact hunready hdozing
      · cases hrunning
    · intro _ hrunning
      cases hrunning
  · next hqueue =>
      refine ⟨hnoted, ?_, ?_⟩
      · rintro (hdozing | ⟨hplace | hplace, -⟩)
        · exact hunready hdozing
        · exact absurd (by simp [hplace, WaitPlace.onQueue]) hqueue
        · exact absurd (by simp [hplace, WaitPlace.onQueue]) hqueue
      · intro hplace
        exact absurd (by simp [hplace, WaitPlace.onQueue]) hqueue

/-- **One step**: a step that is in time loses no wake-up. -/
theorem Served.next {s : ModemWait} {a : WaitOp} (h : s.Served) (hin : s.InTime a) :
    (s.next a).Served := by
  cases a with
  | waiter => exact h.waiter
  | count status => exact h.count status
  | wake =>
      rw [ModemWait.next]
      split
      · exact h
      · next hcounted =>
          refine Served.wakeUp h.noted fun hunready hchanged => ?_
          cases hsignal : s.signal with
          | true => exact .inl rfl
          | false =>
              right
              have hlast : s.counted ≠ 1 := fun hone => hin hunready hsignal hone hchanged
              show 0 < s.counted - 1
              omega
  | shutdown => exact Served.wakeUp h.noted fun hunready => h.covered (.inl hunready)
  | signal =>
      refine ⟨h.noted, fun _ _ => .inl rfl, ?_⟩
      intro _ hrunning
      cases hrunning

/-- The last wake-up for a change, given too early, is lost. -/
theorem lost_of_not_inTime {s : ModemWait} {a : WaitOp} (h : ¬ s.InTime a) :
    (s.next a).Lost ∧ (s.next a).place ≠ .entered ∧ (s.next a).counted = 0 ∧
      (s.next a).Changed := by
  cases a with
  | waiter => exact absurd trivial h
  | count status => exact absurd trivial h
  | shutdown => exact absurd trivial h
  | signal => exact absurd trivial h
  | wake =>
      rw [InTime] at h
      simp only [Classical.not_imp, not_not] at h
      obtain ⟨hunready, hsignal, hone, hchanged⟩ := h
      have hnext : s.next .wake = { s with counted := 0 }.wakeUp := by
        rw [next, if_neg (by omega), hone]
      rw [hnext, wakeUp]
      obtain hplace | hplace := hunready
      · rw [if_neg (by simp [hplace, WaitPlace.onQueue])]
        exact ⟨⟨hsignal, .inl (.inl hplace)⟩, by simp [hplace], rfl, hchanged⟩
      · rw [if_pos (by simp [hplace, WaitPlace.onQueue])]
        exact ⟨⟨hsignal, .inl (.inr hplace)⟩, by simp [hplace], rfl, hchanged⟩

end ModemWait

/-- A call that begins, with wake-ups of earlier interrupts and signals on their
way or not. -/
def waitCall (port : Port) (arg : Word) (signal : Bool) (counted : Nat) : ModemWait :=
  ⟨port, arg, port.icount, port.icount, .entered, true, signal, counted⟩

/-- **When `TIOCMIWAIT` misses no change**: along a run exactly if every wake-up
of it is in time. -/
theorem modem_wait_misses_nothing_iff (port : Port) (arg : Word) (signal : Bool) (counted : Nat)
    (as : List WaitOp) :
    Always modemWaitStep ModemWait.MissesNothing (waitCall port arg signal counted) as ↔
      Guarded modemWaitStep ModemWait.InTime (waitCall port arg signal counted) as := by
  apply always_iff_guarded (J := ModemWait.Served)
  · intro s hs
    exact hs.missesNothing
  · intro s a t hs hin ht
    cases ht
    exact hs.next hin
  · intro s a hs hin
    obtain ⟨hlost, hplace, hcounted, hchanged⟩ := ModemWait.lost_of_not_inTime hin
    exact ⟨s.next a, rfl, fun hmiss => hlost.not_returns (hmiss.returns hplace hcounted hchanged)⟩
  · exact ModemWait.served_of_awake (fun h => absurd rfl h)
      (by simp [waitCall, ModemWait.Dozing, ModemWait.Unready])

/-- CTS changes between the snapshot and `add_wait_queue`: the caller sleeps on,
with a counter of 1 that was 0. -/
theorem modem_wait_misses_change :
    ∃ t, run modemWaitStep (waitCall (c104Port port16550A (c104Termios 0)) tiocmCts false 0)
        [.waiter, .count uartMsrDcts, .wake, .waiter, .waiter, .waiter] = .ok t ∧
      t.place = .asleep ∧ t.running = false ∧ t.counted = 0 ∧
      test t.arg ModemLine.cts.tiocm = true ∧ t.port.icount.cts = 1 ∧ t.entry.cts = 0 :=
  ⟨_, rfl, rfl, rfl, rfl, by decide, rfl, rfl⟩

end MoxaDrivers.Mxser

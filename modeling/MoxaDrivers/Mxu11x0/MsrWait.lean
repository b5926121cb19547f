import Mathlib.Tactic.Ring
import MoxaDrivers.Mxser.Modem
import MoxaDrivers.Mxu11x0.Interrupt

/-!
# Waiting for a change of the modem status

`TIOCMIWAIT` sets `mxp_msr_wait_flags` once and then waits until it is clear, for
`MXU1_MSR_WAIT_TIMEOUT` at most. `mxu1_handle_new_msr` counts the deltas of a
packet and clears the flag, all under a lock that the request does not take: here
every counter that it changes is a step of its own.

The flag is not set again. Once a change of any line has cleared it, the request
waits for nothing more, and takes the counters that it has just noted for a wait
that has passed without a change.
-/

namespace MoxaDrivers.Mxu11x0

open MoxaDrivers.Bits MoxaDrivers.Mxser MoxaDrivers.Machine

/-! ## The steps -/

/-- What the request returns: 0, `-EIO` or `-ERESTARTSYS`. -/
inductive MiwaitResult where
  | changed
  | eio
  | erestartsys
  deriving DecidableEq, Repr

/-- Where the request stands. -/
inductive MsrWaitPlace where
  /-- Before `cprev` is set. -/
  | entered
  /-- Before the flag is set. -/
  | noted
  /-- Before `wait_event_interruptible_timeout`. -/
  | looping
  /-- In it, with the flag set when it began. -/
  | asleep
  /-- Before `signal_pending`. -/
  | woken
  /-- Before the counters are read again. -/
  | unsignalled
  | returned (result : MiwaitResult)
  deriving DecidableEq, Repr

/-- A request for the lines in `arg`. `inSection` is the packet that is being
handled: the lines that are still to be counted before the flag is looked at.
The last four are no fields of the driver: the changes of each line since the
entry and since `cprev` was set, whether there has been none in the wait that
began last, and whether a wait has passed in full without one. -/
structure MsrWait where
  port : Port
  arg : Word
  cprev : AsyncIcount
  place : MsrWaitPlace
  signal : Bool
  inSection : Option (List MsrLine)
  sinceEntry : MsrLine → Nat
  sinceNoted : MsrLine → Nat
  quiet : Bool
  elapsed : Bool

/-- The bit of the line in `arg`. -/
def MsrLine.tiocm : MsrLine → Word
  | .cts => tiocmCts
  | .dsr => tiocmDsr
  | .dcd => tiocmCar
  | .rng => tiocmRng

/-- `icount->cts++`, or that of another line. -/
def AsyncIcount.count (c : AsyncIcount) : MsrLine → AsyncIcount
  | .cts => { c with cts := c.cts + 1 }
  | .dsr => { c with dsr := c.dsr + 1 }
  | .dcd => { c with dcd := c.dcd + 1 }
  | .rng => { c with rng := c.rng + 1 }

/-- No counter of a line differs. -/
def sameLines (cnow cprev : AsyncIcount) : Prop :=
  cnow.rng = cprev.rng ∧ cnow.dsr = cprev.dsr ∧ cnow.dcd = cprev.dcd ∧ cnow.cts = cprev.cts

instance (cnow cprev : AsyncIcount) : Decidable (sameLines cnow cprev) :=
  inferInstanceAs (Decidable (_ ∧ _))

/-- A counter of the lines in `arg` differs. -/
def changedIn (arg : Word) (cnow cprev : AsyncIcount) : Prop :=
  (test arg tiocmRng = true ∧ cnow.rng ≠ cprev.rng) ∨
    (test arg tiocmDsr = true ∧ cnow.dsr ≠ cprev.dsr) ∨
    (test arg tiocmCar = true ∧ cnow.dcd ≠ cprev.dcd) ∨
    (test arg tiocmCts = true ∧ cnow.cts ≠ cprev.cts)

instance (arg : Word) (cnow cprev : AsyncIcount) : Decidable (changedIn arg cnow cprev) :=
  inferInstanceAs (Decidable (_ ∨ _))

/-- The lines that a status has a delta for, in the order of `mxu1_handle_new_msr`. -/
def deltaLines (msr : Byte) : List MsrLine :=
  [MsrLine.cts, .dsr, .dcd, .rng].filter fun l => test msr l.delta

namespace MsrWait

/-- The next step of the request. -/
def waiter (s : MsrWait) : MsrWait :=
  match s.place with
  | .entered =>
      { s with
        cprev := s.port.icount, place := .noted
        sinceEntry := fun _ => 0, sinceNoted := fun _ => 0 }
  | .noted => { s with port := { s.port with msrWaitFlags := true }, place := .looping }
  | .looping =>
      if s.port.msrWaitFlags then { s with place := .asleep, quiet := true }
      else { s with place := .woken }
  | .asleep =>
      if s.port.msrWaitFlags && !s.signal then s else { s with place := .woken }
  | .woken =>
      if s.signal then { s with place := .returned .erestartsys }
      else { s with place := .unsignalled }
  | .unsignalled =>
      if sameLines s.port.icount s.cprev then { s with place := .returned .eio }
      else if changedIn s.arg s.port.icount s.cprev then { s with place := .returned .changed }
      else
        { s with
          cprev := s.port.icount, place := .looping
          sinceNoted := fun _ => 0 }
  | .returned _ => s

/-- The timeout of a wait. -/
def expire (s : MsrWait) : MsrWait :=
  if s.place = .asleep then { s with place := .woken, elapsed := s.elapsed || s.quiet } else s

/-- A line is counted. -/
def count (s : MsrWait) (l : MsrLine) : MsrWait :=
  { s with
    port := { s.port with icount := s.port.icount.count l }
    sinceEntry := Function.update s.sinceEntry l (s.sinceEntry l + 1)
    sinceNoted := Function.update s.sinceNoted l (s.sinceNoted l + 1)
    quiet := false }

/-- The next step of `mxu1_handle_new_msr` in its section. -/
def handler (s : MsrWait) : MsrWait :=
  match s.inSection with
  | none => s
  | some (l :: ls) => { s.count l with inSection := some ls }
  | some [] => { s with port := { s.port with msrWaitFlags := false }, inSection := none }

end MsrWait

inductive MsrWaitOp where
  /-- The request goes on. -/
  | waiter
  /-- The wait of the request has lasted for `MXU1_MSR_WAIT_TIMEOUT`. -/
  | expire
  /-- `mxu1_handle_new_msr` takes the lock. -/
  | packet (msr : Byte)
  /-- It goes on. -/
  | handler
  /-- The caller is sent a signal. -/
  | signal
  deriving DecidableEq, Repr

def MsrWait.next (s : MsrWait) : MsrWaitOp → MsrWait
  | .waiter => s.waiter
  | .expire => s.expire
  | .packet msr =>
      if s.inSection = none ∧ msr &&& mxu1MsrDeltaMask ≠ 0 then
        { s with inSection := some (deltaLines msr) }
      else s
  | .handler => s.handler
  | .signal => { s with signal := true }

/-- A step that nobody is ready for changes nothing. -/
def msrWaitStep (s : MsrWait) (a : MsrWaitOp) : Except Empty MsrWait := .ok (s.next a)

/-- A request that begins, whatever the packets before it have left. -/
def msrWaitCall (port : Port) (arg : Word) (signal : Bool) (inSection : Option (List MsrLine)) :
    MsrWait where
  port := port
  arg := arg
  cprev := port.icount
  place := .entered
  signal := signal
  inSection := inSection
  sinceEntry := fun _ => 0
  sinceNoted := fun _ => 0
  quiet := false
  elapsed := false

/-! ## What is asked of the answer -/

namespace MsrWait

/-- The line is one of those waited for. -/
def Selected (s : MsrWait) (l : MsrLine) : Prop := test s.arg l.tiocm = true

/-- A step by which the request returns is right to. -/
structure Truthful (s : MsrWait) (_ : MsrWaitOp) (s' : MsrWait) : Prop where
  changed : s.place ≠ .returned .changed → s'.place = .returned .changed →
    ∃ l, s.Selected l ∧ 0 < s'.sinceEntry l
  eio : s.place ≠ .returned .eio → s'.place = .returned .eio →
    s'.elapsed = true ∧ ∀ l, s.Selected l → s'.sinceEntry l = 0

/-- No line has changed so often since the request noted its counter that the
counter has come round. -/
def Unwrapped (s : MsrWait) : Prop := ∀ l, s.sinceNoted l < 2 ^ 32

/-- If the request reads the counters with the flag clear, and no wait of it has
passed in full without a change, a line has changed since it noted them. -/
def WokenForChange (s : MsrWait) : MsrWaitOp → Prop
  | .waiter => s.place = .unsignalled → s.port.msrWaitFlags = false → s.elapsed = false →
      ¬ sameLines s.port.icount s.cprev
  | _ => True

/-- `WokenForChange` can be decided. -/
instance (s : MsrWait) (a : MsrWaitOp) : Decidable (s.WokenForChange a) := by
  cases a with
  | waiter => exact inferInstanceAs (Decidable (s.place = .unsignalled → _))
  | expire => exact .isTrue trivial
  | packet msr => exact .isTrue trivial
  | handler => exact .isTrue trivial
  | signal => exact .isTrue trivial

end MsrWait

/-! ## The counters -/

theorem sameLines_iff (cnow cprev : AsyncIcount) :
    sameLines cnow cprev ↔ ∀ l, cnow.line l = cprev.line l := by
  constructor
  · rintro ⟨hrng, hdsr, hdcd, hcts⟩ l
    cases l with
    | cts => exact hcts
    | dsr => exact hdsr
    | dcd => exact hdcd
    | rng => exact hrng
  · intro h
    exact ⟨h .rng, h .dsr, h .dcd, h .cts⟩

theorem changedIn_iff (arg : Word) (cnow cprev : AsyncIcount) :
    changedIn arg cnow cprev ↔
      ∃ l : MsrLine, test arg l.tiocm = true ∧ cnow.line l ≠ cprev.line l := by
  constructor
  · rintro (h | h | h | h)
    · exact ⟨.rng, h⟩
    · exact ⟨.dsr, h⟩
    · exact ⟨.dcd, h⟩
    · exact ⟨.cts, h⟩
  · rintro ⟨l, h⟩
    cases l with
    | rng => exact .inl h
    | dsr => exact .inr (.inl h)
    | dcd => exact .inr (.inr (.inl h))
    | cts => exact .inr (.inr (.inr h))

theorem AsyncIcount.count_line_self (c : AsyncIcount) (l : MsrLine) :
    (c.count l).line l = c.line l + 1 := by
  cases l with
  | cts => rfl
  | dsr => rfl
  | dcd => rfl
  | rng => rfl

theorem AsyncIcount.count_line_of_ne (c : AsyncIcount) {l m : MsrLine} (h : m ≠ l) :
    (c.count l).line m = c.line m := by
  cases l <;> cases m <;> first | rfl | exact absurd rfl h

/-- The lines of a status, counted one by one, are those that `countDeltas`
counts at once. -/
theorem foldl_deltaLines (c : AsyncIcount) (msr : Byte) :
    (deltaLines msr).foldl AsyncIcount.count c =
      { c with
        cts := bump c.cts msr mxu1MsrDeltaCts
        dsr := bump c.dsr msr mxu1MsrDeltaDsr
        dcd := bump c.dcd msr mxu1MsrDeltaCd
        rng := bump c.rng msr mxu1MsrDeltaRi } := by
  simp only [deltaLines, List.filter_cons, List.filter_nil, MsrLine.delta, bump]
  cases test msr mxu1MsrDeltaCts <;> cases test msr mxu1MsrDeltaDsr <;>
    cases test msr mxu1MsrDeltaCd <;> cases test msr mxu1MsrDeltaRi <;> rfl

namespace MsrWait

theorem handler_section (s : MsrWait) {ls : List MsrLine} (h : s.inSection = some ls) :
    ∃ t, run msrWaitStep s (List.replicate (ls.length + 1) .handler) = .ok t ∧
      t.port = { s.port with icount := ls.foldl AsyncIcount.count s.port.icount
                             msrWaitFlags := false } := by
  induction ls generalizing s with
  | nil =>
      refine ⟨s.handler, rfl, ?_⟩
      simp only [handler, h]
      rfl
  | cons l ls ih =>
      obtain ⟨t, hrun, ht⟩ := ih { s.count l with inSection := some ls } rfl
      refine ⟨t, ?_, ?_⟩
      · rw [List.length_cons, List.replicate_succ]
        have hstep : msrWaitStep s .handler = .ok { s.count l with inSection := some ls } := by
          simp only [msrWaitStep, next, handler, h]
        rw [run_cons_of_ok hstep]
        exact hrun
      · rw [ht]
        rfl

/-- **A packet that nothing comes between** does to the port what `countDeltas`
says. -/
theorem packet_handled (s : MsrWait) (h : s.inSection = none) (msr : Byte) :
    ∃ n t, run msrWaitStep s (.packet msr :: List.replicate n .handler) = .ok t ∧
      t.port = countDeltas s.port msr := by
  by_cases hany : msr &&& mxu1MsrDeltaMask ≠ 0
  · have hstep : msrWaitStep s (.packet msr) = .ok { s with inSection := some (deltaLines msr) } :=
      congrArg Except.ok (if_pos ⟨h, hany⟩)
    obtain ⟨t, hrun, ht⟩ := handler_section { s with inSection := some (deltaLines msr) } rfl
    refine ⟨(deltaLines msr).length + 1, t, ?_, ?_⟩
    · rw [run_cons_of_ok hstep]
      exact hrun
    · rw [ht, countDeltas, if_pos hany, foldl_deltaLines]
  · have hstep : msrWaitStep s (.packet msr) = .ok s :=
      congrArg Except.ok (if_neg fun hand => hany hand.2)
    refine ⟨0, s, ?_, ?_⟩
    · rw [run_cons_of_ok hstep]
      rfl
    · rw [countDeltas, if_neg hany]

/-! ## The steps of the request -/

section
variable {s : MsrWait}

theorem waiter_entered (h : s.place = .entered) :
    s.waiter = { s with
      cprev := s.port.icount, place := .noted
      sinceEntry := fun _ => 0, sinceNoted := fun _ => 0 } := by
  simp only [waiter, h]

theorem waiter_noted (h : s.place = .noted) :
    s.waiter = { s with port := { s.port with msrWaitFlags := true }, place := .looping } := by
  simp only [waiter, h]

theorem waiter_looping_set (h : s.place = .looping) (hflags : s.port.msrWaitFlags = true) :
    s.waiter = { s with place := .asleep, quiet := true } := by
  simp only [waiter, h]
  exact if_pos hflags

theorem waiter_looping_clear (h : s.place = .looping) (hflags : s.port.msrWaitFlags = false) :
    s.waiter = { s with place := .woken } := by
  simp only [waiter, h]
  exact if_neg (by simp [hflags])

theorem waiter_asleep_stuck (h : s.place = .asleep) (hflags : s.port.msrWaitFlags = true)
    (hsignal : s.signal = false) : s.waiter = s := by
  simp only [waiter, h]
  exact if_pos (by simp [hflags, hsignal])

theorem waiter_asleep_woken (h : s.place = .asleep)
    (hwoken : ¬ (s.port.msrWaitFlags = true ∧ s.signal = false)) :
    s.waiter = { s with place := .woken } := by
  simp only [waiter, h]
  exact if_neg (by simpa using hwoken)

theorem waiter_woken_signal (h : s.place = .woken) (hsignal : s.signal = true) :
    s.waiter = { s with place := .returned .erestartsys } := by
  simp only [waiter, h]
  exact if_pos hsignal

theorem waiter_woken (h : s.place = .woken) (hsignal : s.signal = false) :
    s.waiter = { s with place := .unsignalled } := by
  simp only [waiter, h]
  exact if_neg (by simp [hsignal])

theorem waiter_same (h : s.place = .unsignalled) (hsame : sameLines s.port.icount s.cprev) :
    s.waiter = { s with place := .returned .eio } := by
  simp only [waiter, h]
  exact if_pos hsame

theorem waiter_changed (h : s.place = .unsignalled)
    (hchanged : changedIn s.arg s.port.icount s.cprev) :
    s.waiter = { s with place := .returned .changed } := by
  obtain ⟨l, -, hne⟩ := (changedIn_iff _ _ _).mp hchanged
  have hdiffer : ¬ sameLines s.port.icount s.cprev := fun hsame =>
    hne ((sameLines_iff _ _).mp hsame l)
  simp only [waiter, h, if_neg hdiffer]
  exact if_pos hchanged

theorem waiter_again (h : s.place = .unsignalled) (hdiffer : ¬ sameLines s.port.icount s.cprev)
    (hchanged : ¬ changedIn s.arg s.port.icount s.cprev) :
    s.waiter = { s with
      cprev := s.port.icount, place := .looping
      sinceNoted := fun _ => 0 } := by
  simp only [waiter, h, if_neg hdiffer]
  exact if_neg hchanged

theorem waiter_returned {r : MiwaitResult} (h : s.place = .returned r) : s.waiter = s := by
  simp only [waiter, h]

end

/-! ## The invariant -/

/-- No line has changed since the request noted the counters. -/
def Unchanged (s : MsrWait) : Prop := ∀ l, s.sinceNoted l = 0

/-- Of a request that is no longer in its wait: the flag, if it is still set, was
not what ended it. -/
def Passed (s : MsrWait) : Prop :=
  s.port.msrWaitFlags = true → s.Unchanged → s.elapsed = true

/-- What the request has noted, and how its waits end. -/
structure Tracked (s : MsrWait) : Prop where
  counters : s.place ≠ .entered → ∀ l,
    s.port.icount.line l = s.cprev.line l + BitVec.ofNat 32 (s.sinceNoted l)
  selected : s.place ≠ .entered → ∀ l, s.Selected l → s.sinceEntry l = s.sinceNoted l
  asleep : s.place = .asleep → s.Unchanged → s.quiet = true
  woken : s.place = .woken → s.signal = false → s.Passed
  unsignalled : s.place = .unsignalled → s.Passed

theorem ofNat_eq_zero_iff {n : Nat} (h : n < 2 ^ 32) : BitVec.ofNat 32 n = 0 ↔ n = 0 := by
  constructor
  · intro heq
    have htoNat := congrArg BitVec.toNat heq
    rw [BitVec.toNat_ofNat, Nat.mod_eq_of_lt h] at htoNat
    exact htoNat
  · rintro rfl
    rfl

/-- As long as no counter comes round, the counters tell which lines changed. -/
theorem Tracked.line_eq_iff {s : MsrWait} (h : s.Tracked) (hu : s.Unwrapped)
    (hentered : s.place ≠ .entered) (l : MsrLine) :
    s.port.icount.line l = s.cprev.line l ↔ s.sinceNoted l = 0 := by
  rw [h.counters hentered l, ← ofNat_eq_zero_iff (hu l)]
  exact BitVec.add_right_eq_self

theorem Tracked.same_iff {s : MsrWait} (h : s.Tracked) (hu : s.Unwrapped)
    (hentered : s.place ≠ .entered) : sameLines s.port.icount s.cprev ↔ s.Unchanged := by
  rw [sameLines_iff]
  exact forall_congr' (h.line_eq_iff hu hentered)

/-- The request goes on to a place outside of its wait. -/
theorem Tracked.moved {s : MsrWait} (h : s.Tracked) (hentered : s.place ≠ .entered)
    {place : MsrWaitPlace} (hasleep : place ≠ .asleep)
    (hwoken : place = .woken → s.signal = false → s.Passed)
    (hunsignalled : place = .unsignalled → s.Passed) : Tracked { s with place := place } :=
  ⟨fun _ => h.counters hentered, fun _ => h.selected hentered, fun hplace => absurd hplace hasleep,
    hwoken, hunsignalled⟩

theorem Tracked.returned {s : MsrWait} (h : s.Tracked) (hentered : s.place ≠ .entered)
    (r : MiwaitResult) : Tracked { s with place := .returned r } :=
  h.moved hentered nofun nofun nofun

theorem Tracked.waiter {s : MsrWait} (h : s.Tracked) (hu : s.Unwrapped) : s.waiter.Tracked := by
  cases hplace : s.place with
  | entered =>
      rw [waiter_entered hplace]
      exact ⟨fun _ l => (BitVec.add_zero _).symm, fun _ _ _ => rfl, nofun, nofun, nofun⟩
  | noted =>
      have hentered : s.place ≠ .entered := by simp [hplace]
      rw [waiter_noted hplace]
      exact ⟨fun _ => h.counters hentered, fun _ => h.selected hentered, nofun, nofun, nofun⟩
  | looping =>
      have hentered : s.place ≠ .entered := by simp [hplace]
      cases hflags : s.port.msrWaitFlags with
      | true =>
          rw [waiter_looping_set hplace hflags]
          exact ⟨fun _ => h.counters hentered, fun _ => h.selected hentered,
            fun _ _ => rfl, nofun, nofun⟩
      | false =>
          rw [waiter_looping_clear hplace hflags]
          refine h.moved hentered nofun (fun _ _ hset => ?_) nofun
          exact absurd (hflags.symm.trans hset) Bool.false_ne_true
  | asleep =>
      have hentered : s.place ≠ .entered := by simp [hplace]
      by_cases hstuck : s.port.msrWaitFlags = true ∧ s.signal = false
      · rw [waiter_asleep_stuck hplace hstuck.1 hstuck.2]
        exact h
      · rw [waiter_asleep_woken hplace hstuck]
        refine h.moved hentered nofun (fun _ hsignal hset => ?_) nofun
        exact absurd ⟨hset, hsignal⟩ hstuck
  | woken =>
      have hentered : s.place ≠ .entered := by simp [hplace]
      cases hsignal : s.signal with
      | true =>
          rw [waiter_woken_signal hplace hsignal]
          exact h.returned hentered .erestartsys
      | false =>
          rw [waiter_woken hplace hsignal]
          exact h.moved hentered nofun nofun fun _ => h.woken hplace hsignal
  | unsignalled =>
      have hentered : s.place ≠ .entered := by simp [hplace]
      by_cases hsame : sameLines s.port.icount s.cprev
      · rw [waiter_same hplace hsame]
        exact h.returned hentered .eio
      · by_cases hchanged : changedIn s.arg s.port.icount s.cprev
        · rw [waiter_changed hplace hchanged]
          exact h.returned hentered .changed
        · rw [waiter_again hplace hsame hchanged]
          refine ⟨fun _ l => (BitVec.add_zero _).symm, fun _ l hl => ?_, nofun, nofun, nofun⟩
          -- what it no longer compares with has not changed since the entry
          have heq : s.port.icount.line l = s.cprev.line l := by
            by_contra hne
            exact hchanged ((changedIn_iff _ _ _).mpr ⟨l, hl, hne⟩)
          exact (h.selected hentered l hl).trans ((h.line_eq_iff hu hentered l).mp heq)
  | returned r =>
      rw [waiter_returned hplace]
      exact h

theorem Tracked.expire {s : MsrWait} (h : s.Tracked) : s.expire.Tracked := by
  by_cases hplace : s.place = .asleep
  · have hentered : s.place ≠ .entered := by simp [hplace]
    rw [MsrWait.expire, if_pos hplace]
    refine ⟨fun _ => h.counters hentered, fun _ => h.selected hentered, nofun, ?_, nofun⟩
    intro _ _ _ hunchanged
    have hquiet : s.quiet = true := h.asleep hplace hunchanged
    simp [hquiet]
  · rw [MsrWait.expire, if_neg hplace]
    exact h

/-- Whatever is counted has changed since it was noted. -/
theorem not_unchanged_count (s : MsrWait) (l : MsrLine) : ¬ (s.count l).Unchanged := by
  intro h
  have hl := h l
  simp [count] at hl

theorem Tracked.count {s : MsrWait} (h : s.Tracked) (l : MsrLine) (ls : Option (List MsrLine)) :
    Tracked { s.count l with inSection := ls } := by
  refine ⟨?_, ?_, ?_, ?_, ?_⟩
  · intro hentered m
    have hm := h.counters hentered m
    by_cases heq : m = l
    · subst heq
      show (s.port.icount.count m).line m = s.cprev.line m +
        BitVec.ofNat 32 (Function.update s.sinceNoted m (s.sinceNoted m + 1) m)
      rw [AsyncIcount.count_line_self, hm, Function.update_self, BitVec.ofNat_add, BitVec.add_assoc]
      rfl
    · show (s.port.icount.count l).line m = s.cprev.line m +
        BitVec.ofNat 32 (Function.update s.sinceNoted l (s.sinceNoted l + 1) m)
      rw [AsyncIcount.count_line_of_ne _ heq, hm, Function.update_of_ne heq]
  · intro hentered m hm
    have hsame := h.selected hentered m hm
    show Function.update s.sinceEntry l (s.sinceEntry l + 1) m =
      Function.update s.sinceNoted l (s.sinceNoted l + 1) m
    by_cases heq : m = l
    · subst heq
      rw [Function.update_self, Function.update_self, hsame]
    · rw [Function.update_of_ne heq, Function.update_of_ne heq, hsame]
  · exact fun _ hunchanged => absurd hunchanged (not_unchanged_count s l)
  · exact fun _ _ _ hunchanged => absurd hunchanged (not_unchanged_count s l)
  · exact fun _ _ hunchanged => absurd hunchanged (not_unchanged_count s l)

theorem Tracked.handler {s : MsrWait} (h : s.Tracked) : s.handler.Tracked := by
  rcases hsection : s.inSection with _ | _ | ⟨l, ls⟩
  · have hsame : s.handler = s := by simp only [MsrWait.handler, hsection]
    rw [hsame]
    exact h
  · have hclear : s.handler =
        { s with port := { s.port with msrWaitFlags := false }, inSection := none } := by
      simp only [MsrWait.handler, hsection]
    rw [hclear]
    exact ⟨h.counters, h.selected, h.asleep, fun _ _ => nofun, fun _ => nofun⟩
  · have hcount : s.handler = { s.count l with inSection := some ls } := by
      simp only [MsrWait.handler, hsection]
    rw [hcount]
    exact h.count l (some ls)

/-- **One step** of anybody keeps the invariant. -/
theorem Tracked.next {s : MsrWait} (h : s.Tracked) (hu : s.Unwrapped) (a : MsrWaitOp) :
    (s.next a).Tracked := by
  cases a with
  | waiter => exact h.waiter hu
  | expire => exact h.expire
  | packet msr =>
      rw [MsrWait.next]
      split
      · exact ⟨h.counters, h.selected, h.asleep, h.woken, h.unsignalled⟩
      · exact h
  | handler => exact h.handler
  | signal => exact ⟨h.counters, h.selected, h.asleep, fun _ => nofun, h.unsignalled⟩

/-! ## The answer -/

/-- A step that does not return, or returns for a signal, is right. -/
theorem truthful_of_place {s s' : MsrWait} (a : MsrWaitOp)
    (h : ∀ r, s'.place = .returned r → s.place = .returned r ∨ r = .erestartsys) :
    Truthful s a s' := by
  constructor
  · intro hne hplace
    rcases h _ hplace with heq | heq
    · exact absurd heq hne
    · cases heq
  · intro hne hplace
    rcases h _ hplace with heq | heq
    · exact absurd heq hne
    · cases heq

/-- Only the reading of the counters decides. -/
theorem waiter_place {s : MsrWait} (hplace : s.place ≠ .unsignalled) (r : MiwaitResult)
    (h : s.waiter.place = .returned r) : s.place = .returned r ∨ r = .erestartsys := by
  cases hp : s.place with
  | entered =>
      rw [waiter_entered hp] at h
      cases h
  | noted =>
      rw [waiter_noted hp] at h
      cases h
  | looping =>
      cases hflags : s.port.msrWaitFlags with
      | true =>
          rw [waiter_looping_set hp hflags] at h
          cases h
      | false =>
          rw [waiter_looping_clear hp hflags] at h
          cases h
  | asleep =>
      by_cases hstuck : s.port.msrWaitFlags = true ∧ s.signal = false
      · rw [waiter_asleep_stuck hp hstuck.1 hstuck.2, hp] at h
        cases h
      · rw [waiter_asleep_woken hp hstuck] at h
        cases h
  | woken =>
      cases hsignal : s.signal with
      | true =>
          rw [waiter_woken_signal hp hsignal] at h
          cases h
          exact .inr rfl
      | false =>
          rw [waiter_woken hp hsignal] at h
          cases h
  | unsignalled => exact absurd hp hplace
  | returned r' =>
      rw [waiter_returned hp, hp] at h
      exact .inl h

/-- **The reading of the counters** is right exactly if the request was woken for
a change, or has waited in full. -/
theorem Tracked.truthful_waiter_iff {s : MsrWait} (h : s.Tracked) (hu : s.Unwrapped)
    (hplace : s.place = .unsignalled) :
    Truthful s .waiter s.waiter ↔ s.WokenForChange .waiter := by
  have hentered : s.place ≠ .entered := by simp [hplace]
  by_cases hsame : sameLines s.port.icount s.cprev
  · have hunchanged := (h.same_iff hu hentered).mp hsame
    rw [waiter_same hplace hsame]
    constructor
    · intro htruthful _ _ helapsed
      have hpassed := (htruthful.eio (by simp [hplace]) rfl).1
      exact absurd (helapsed.symm.trans hpassed) Bool.false_ne_true
    · intro hwoken
      have helapsed : s.elapsed = true := by
        cases hflags : s.port.msrWaitFlags with
        | true => exact h.unsignalled hplace hflags hunchanged
        | false =>
            by_contra hnot
            exact hwoken hplace hflags (by simpa using hnot) hsame
      refine ⟨fun _ => nofun, fun _ _ => ⟨helapsed, fun l hl => ?_⟩⟩
      exact (h.selected hentered l hl).trans (hunchanged l)
  · refine iff_of_true ?_ fun _ _ _ => hsame
    by_cases hchanged : changedIn s.arg s.port.icount s.cprev
    · rw [waiter_changed hplace hchanged]
      refine ⟨fun _ _ => ?_, fun _ => nofun⟩
      obtain ⟨l, hl, hne⟩ := (changedIn_iff _ _ _).mp hchanged
      refine ⟨l, hl, ?_⟩
      show 0 < s.sinceEntry l
      rw [h.selected hentered l hl]
      exact Nat.pos_of_ne_zero (mt (h.line_eq_iff hu hentered l).mpr hne)
    · rw [waiter_again hplace hsame hchanged]
      exact truthful_of_place _ nofun

theorem handler_place (s : MsrWait) : s.handler.place = s.place := by
  rcases hsection : s.inSection with _ | _ | ⟨l, ls⟩
  · simp only [handler, hsection]
  · simp only [handler, hsection]
  · simp only [handler, hsection, count]

theorem Tracked.truthful_iff {s : MsrWait} (h : s.Tracked) (hu : s.Unwrapped) (a : MsrWaitOp) :
    Truthful s a (s.next a) ↔ s.WokenForChange a := by
  cases a with
  | waiter =>
      by_cases hplace : s.place = .unsignalled
      · exact h.truthful_waiter_iff hu hplace
      · exact iff_of_true (truthful_of_place _ (waiter_place hplace))
          fun hunsignalled => absurd hunsignalled hplace
  | expire =>
      refine iff_of_true (truthful_of_place _ ?_) trivial
      intro r hr
      by_cases hplace : s.place = .asleep
      · rw [MsrWait.next, MsrWait.expire, if_pos hplace] at hr
        cases hr
      · rw [MsrWait.next, MsrWait.expire, if_neg hplace] at hr
        exact .inl hr
  | packet msr =>
      refine iff_of_true (truthful_of_place _ ?_) trivial
      intro r hr
      rw [MsrWait.next] at hr
      split at hr
      · exact .inl hr
      · exact .inl hr
  | handler =>
      refine iff_of_true (truthful_of_place _ ?_) trivial
      intro r hr
      exact .inl ((handler_place s).symm.trans hr)
  | signal => exact iff_of_true (truthful_of_place _ fun r hr => .inl hr) trivial

/-- One step counts a line once at most. -/
theorem sinceNoted_next (s : MsrWait) (a : MsrWaitOp) (l : MsrLine) :
    (s.next a).sinceNoted l ≤ s.sinceNoted l + 1 := by
  cases a with
  | waiter =>
      rw [next, waiter]
      split <;> (repeat' split) <;> simp
  | expire =>
      rw [next, expire]
      split <;> simp
  | packet msr =>
      rw [next]
      split <;> simp
  | handler =>
      rcases hsection : s.inSection with _ | _ | ⟨m, ls⟩
      · simp [next, handler, hsection]
      · simp [next, handler, hsection]
      · simp only [next, handler, hsection, count]
        by_cases heq : l = m
        · rw [heq, Function.update_self]
        · rw [Function.update_of_ne heq]
          exact Nat.le_succ _
  | signal => exact Nat.le_succ _

end MsrWait

/-! ## Whole requests -/

theorem sinceNoted_run {as : List MsrWaitOp} {s t : MsrWait} (l : MsrLine)
    (h : run msrWaitStep s as = .ok t) : t.sinceNoted l ≤ s.sinceNoted l + as.length := by
  induction as generalizing s with
  | nil =>
      cases h
      exact Nat.le_refl _
  | cons a as ih =>
      have hrest := ih (s := s.next a) h
      have hstep := s.sinceNoted_next a l
      rw [List.length_cons]
      omega

/-- No counter comes round in a run of less than `2 ^ 32` steps. -/
theorem unwrapped_of_length {as : List MsrWaitOp} (h : as.length < 2 ^ 32) (port : Port)
    (arg : Word) (signal : Bool) (inSection : Option (List MsrLine)) :
    Always msrWaitStep MsrWait.Unwrapped (msrWaitCall port arg signal inSection) as := by
  intro pre hpre t ht l
  have hle := sinceNoted_run l ht
  have hlen := hpre.length_le
  have hzero : (msrWaitCall port arg signal inSection).sinceNoted l = 0 := rfl
  omega

theorem msrWaitCall_tracked (port : Port) (arg : Word) (signal : Bool)
    (inSection : Option (List MsrLine)) : (msrWaitCall port arg signal inSection).Tracked :=
  ⟨fun hentered => absurd rfl hentered, fun hentered => absurd rfl hentered, nofun, nofun, nofun⟩

/-- **When the answer of `TIOCMIWAIT` is truthful**: in every interleaving in
which no counter comes round between two readings, exactly if each reading with
the flag clear is one after a change, or after a full wait. -/
theorem msr_wait_truthful_iff (port : Port) (arg : Word) (signal : Bool)
    (inSection : Option (List MsrLine)) (as : List MsrWaitOp)
    (hu : Always msrWaitStep MsrWait.Unwrapped (msrWaitCall port arg signal inSection) as) :
    EachStep msrWaitStep MsrWait.Truthful (msrWaitCall port arg signal inSection) as ↔
      Guarded msrWaitStep MsrWait.WokenForChange (msrWaitCall port arg signal inSection) as := by
  refine eachStep_iff_guarded_of_always (J := MsrWait.Tracked) ?_ ?_
    (msrWaitCall_tracked port arg signal inSection) hu
  · intro s a t hs hu ht
    cases ht
    exact hs.next hu a
  · intro s a hs hu
    rw [← hs.truthful_iff hu a]
    exact ⟨fun h => h _ rfl, fun h t ht => by cases ht; exact h⟩

/-- CTS changes while the request waits for it. -/
theorem msr_wait_truthful_cts :
    EachStep msrWaitStep MsrWait.Truthful
      (msrWaitCall (startupPort .model1110 fun _ => 0) tiocmCts false none)
      [.waiter, .waiter, .waiter, .packet mxu1MsrDeltaCts, .handler, .handler,
        .waiter, .waiter, .waiter] :=
  (msr_wait_truthful_iff _ _ _ _ _ (unwrapped_of_length (by decide) _ _ _ _)).mpr (by decide)

/-- A request that waits for CTS, and DSR changes: up to its second reading. -/
def dsrChanges : List MsrWaitOp :=
  [.waiter, .waiter, .waiter, .packet mxu1MsrDeltaDsr, .handler, .handler,
    .waiter, .waiter, .waiter, .waiter, .waiter]

/-- It has waited for nothing in between, finds the counters unchanged and returns
`-EIO`, with no timeout of its wait. -/
theorem msr_wait_dsr_is_eio :
    (∃ t, run msrWaitStep (msrWaitCall (startupPort .model1110 fun _ => 0) tiocmCts false none)
        (dsrChanges ++ [.waiter]) = .ok t ∧ t.place = .returned .eio ∧ t.elapsed = false) ∧
    ¬ EachStep msrWaitStep MsrWait.Truthful
      (msrWaitCall (startupPort .model1110 fun _ => 0) tiocmCts false none)
      (dsrChanges ++ [.waiter]) := by
  refine ⟨⟨_, rfl, by decide, by decide⟩, fun h => ?_⟩
  have htruthful := h dsrChanges .waiter (List.prefix_refl _) _ rfl _ rfl
  exact absurd (htruthful.eio (by decide) (by decide)).1 (by decide)

end MoxaDrivers.Mxu11x0

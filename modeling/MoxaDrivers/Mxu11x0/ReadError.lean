import MoxaDrivers.Mxu11x0.ReadUrb

/-!
# Reading after an error

Every branch of `mxu1_bulk_in_callback` that returns without a look at
`mxp_read_urb_state` leaves a URB that nobody will submit, with a state in which
`mxu1_restart_read` does not submit it either; so does a submission that fails.
-/

namespace MoxaDrivers.Mxu11x0

open MoxaDrivers.Mxser
open MoxaDrivers.Machine

theorem SameOwners.sum {s t : ReadPath} (h : SameOwners s t) :
    t.inFlight + t.running + t.pending = s.inFlight + s.running + s.pending := by
  rw [h.inFlight, h.running, h.pending]

/-! ## A lost URB stays lost -/

/-- Nobody has the URB, and the state does not say so. -/
structure Deaf (s : ReadPath) : Prop where
  owners : s.inFlight + s.running + s.pending = 0
  state : s.state ≠ .stopped

theorem deaf_step {s t : ReadPath} {e : ReadEvent} (h : Deaf s)
    (hstep : readPathStep s e = .ok t) : Deaf t := by
  obtain ⟨hzero, hstate⟩ := h
  cases readPathStep_cases hstep with
  | quiet _ hsame howners =>
      have hsum := howners.sum
      exact ⟨by omega, by rw [hsame]; exact hstate⟩
  | stop _ ht howners =>
      have hsum := howners.sum
      exact ⟨by omega, by rw [ht]; nofun⟩
  | resume _ ht howners =>
      have hsum := howners.sum
      exact ⟨by omega, by rw [ht]; nofun⟩
  | claim hs _ _ _ _ => exact absurd hs hstate
  | submit _ _ _ _ hpend => omega
  | complete _ hfly _ _ => omega
  | fail _ _ _ _ hrun _ => omega
  | resubmit _ _ _ _ hrun _ => omega
  | finish _ _ _ hrun _ => omega

/-- Whatever follows, the read URB is not in flight again. -/
theorem deaf_forever {s : ReadPath} (h : Deaf s) (es : List ReadEvent) :
    Always readPathStep (fun t => t.inFlight = 0) s es :=
  (always_of_invariant (I := Deaf) (fun _ _ _ hs hstep => deaf_step hs hstep) h).mono
    fun _ ht => by have := ht.owners; omega

/-- An owned URB is not lost. -/
theorem Owned.not_deaf {s : ReadPath} (h : Owned s) : ¬ Deaf s := by
  rintro ⟨hzero, hstate⟩
  simp only [Owned, ReadPath.owners] at h
  rw [if_neg hstate] at h
  omega

/-- Whoever gave up the one URB without a submission has left the port deaf. -/
theorem Owned.deaf {s t : ReadPath} (h : Owned s) (hstate : t.state = s.state)
    (hlost : t.inFlight + t.running + t.pending + 1 = s.inFlight + s.running + s.pending) :
    Deaf t := by
  simp only [Owned, ReadPath.owners] at h
  have hne : s.state ≠ .stopped := by
    intro hs
    rw [if_pos hs] at h
    omega
  rw [if_neg hne] at h
  exact ⟨by omega, by rw [hstate]; exact hne⟩

/-! ## One step -/

/-- **What is asked of a step**: in `RUNNING` the URB is in flight or somebody is
about to submit it, a handler that returns without it in flight leaves `STOPPED`,
where `mxu1_restart_read` submits it, and the port is not deaf. -/
structure ReadAlive (s t : ReadPath) : Prop where
  running : t.state = .running → 0 < t.inFlight + t.running + t.pending
  returned : t.running < s.running → t.inFlight = 0 → t.state = .stopped
  hears : ¬ Deaf t

/-- A handler that returns has resubmitted the URB or left `STOPPED`. -/
theorem readOk_returned {s t : ReadPath} {e : ReadEvent} (hok : ReadOk s e)
    (hstep : readPathStep s e = .ok t) (hret : t.running < s.running) (hfly : t.inFlight = 0) :
    t.state = .stopped := by
  cases readPathStep_cases hstep with
  | quiet _ _ hsame =>
      have hrun := hsame.running
      omega
  | stop _ _ hsame =>
      have hrun := hsame.running
      omega
  | resume _ _ hsame =>
      have hrun := hsame.running
      omega
  | claim _ _ _ _ _ => omega
  | submit _ _ _ _ _ => omega
  | complete _ _ _ _ => omega
  | fail hi hbad _ _ _ _ =>
      rcases hok _ _ hi with heq | heq
      · exact absurd heq hbad.1
      · exact absurd heq hbad.2
  | resubmit hi hs _ hsub _ _ =>
      rw [hok hi hs, if_pos rfl] at hsub
      omega
  | finish _ ht _ _ _ => exact ht

/-- A step that does not leave the port deaf is none that loses the URB. -/
theorem readOk_of_hears {s t : ReadPath} {e : ReadEvent} (h : Owned s)
    (hstep : readPathStep s e = .ok t) (hhears : ¬ Deaf t) : ReadOk s e := by
  cases readPathStep_cases hstep with
  | quiet hok _ _ => exact hok
  | submit hi hstate hfly hrun hpend =>
      intro more _
      by_contra hfail
      rw [if_neg hfail] at hfly
      exact hhears (h.deaf hstate (by omega))
  | fail hi hbad hstate hfly hrun hpend => exact absurd (h.deaf hstate (by omega)) hhears
  | resubmit hi hs ht hfly hrun hpend =>
      intro _ _
      by_contra hfail
      rw [if_neg hfail] at hfly
      exact hhears (h.deaf (ht.trans hs.symm) (by omega))
  | finish hs _ _ _ _ => exact fun _ hs' => absurd hs' hs
  | _ => trivial

/-- **One step** keeps reading alive exactly under the condition. -/
theorem readAlive_iff {s t : ReadPath} {e : ReadEvent} (h : Owned s)
    (hstep : readPathStep s e = .ok t) : ReadAlive s t ↔ ReadOk s e := by
  constructor
  · exact fun halive => readOk_of_hears h hstep halive.hears
  · intro hok
    have howned := readPathStep_owned h hok hstep
    refine ⟨fun ht => ?_, fun hret hfly => readOk_returned hok hstep hret hfly, howned.not_deaf⟩
    have hone := (readDiscipline howned).oneOwner (.inl ht)
    omega

/-! ## Whole runs -/

/-- **Reading survives in exactly these runs**: no handler is called for a status
other than 0 and `-EPIPE`, and no submission fails, neither that of a handler nor
that of `mxu1_restart_read`. -/
theorem reading_survives_iff {s : ReadPath} (h : Reading s) (es : List ReadEvent) :
    EachStep readPathStep (fun s _ t => ReadAlive s t) s es ↔ Guarded readPathStep ReadOk s es := by
  apply eachStep_iff_guarded (J := Owned)
  · exact fun s e t hs hok hstep => readPathStep_owned hs hok hstep
  · intro s e hs
    constructor
    · intro halive
      cases hstep : readPathStep s e with
      | error err => exact err.elim
      | ok t => exact (readAlive_iff hs hstep).mp (halive t hstep)
    · intro hok t hstep
      exact (readAlive_iff hs hstep).mpr hok
  · exact h.owned

/-- A completion, a throttle, and a restart whose submission comes under a second
throttle and succeeds. -/
theorem reading_survives_iff_throttled :
    let s := ReadPath.opened (openPort (startupPort .model1150 fun _ => 0) tty9600) false
    let es := [.setTermios (some ⟨crtscts, 0, 0x11, 0x13⟩), .throttle, .complete .ok 3, .handle 0,
      .check 0 0, .unthrottle, .restart 1, .throttle, .submit 1 0]
    EachStep readPathStep (fun s _ t => ReadAlive s t) s es ↔ Guarded readPathStep ReadOk s es :=
  reading_survives_iff (openPort_reading _ _ _) _

/-- After a transient error, `mxu1_restart_read` finds `RUNNING` and submits
nothing. -/
theorem transient_error_stops_reading :
    ∃ t, run readPathStep
        (.opened (openPort (startupPort .model1150 fun _ => 0) tty9600) false)
        [.complete .other 0, .handle 0, .setTermios none, .restart 0] = .ok t ∧
      t.state = .running ∧ t.owners = 0 ∧ t.restarts = [.returned] :=
  ⟨_, rfl, rfl, rfl, rfl⟩

end MoxaDrivers.Mxu11x0

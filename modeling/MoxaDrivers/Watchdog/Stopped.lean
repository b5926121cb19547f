import MoxaDrivers.Watchdog.NoWayOut

/-!
# A timer that has been stopped

The driver does not record whether the timer runs. `moxawdt_ack` writes the
register that starts it, so whatever pets a running timer also starts a stopped
one: a write, `WDIOC_KEEPALIVE` and `WDIOC_SETTIMEOUT`.
-/

namespace MoxaDrivers.Watchdog

open MoxaDrivers.Superio MoxaDrivers.Bits
open MoxaDrivers.Machine

/-- The driver, and whether the timer has been stopped explicitly. -/
structure Stoppable where
  dev : Wdt
  stopped : Bool

/-- The timer is turned off: `WDIOS_DISABLECARD` without `WDIOS_ENABLECARD`, or
the system goes down. -/
def WdtOp.stopsCard : WdtOp → Bool
  | .notify code => stopsAt code
  | op => op.newOptions.any fun o => test o wdiosDisablecard && !test o wdiosEnablecard

def WdtOp.enablesCard (op : WdtOp) : Bool := op.newOptions.any (test · wdiosEnablecard)

def stoppableStep (s : Stoppable) (op : WdtOp) : Except Empty Stoppable :=
  .ok ⟨s.dev.call op,
    op.stopsCard || (s.stopped && !(op.enablesCard || op.opens s.dev))⟩

/-- A timer that has been stopped is not running. -/
def StaysStopped (s : Stoppable) : Prop := s.stopped = true → s.dev.counter = 0

/-- The call comes to `moxawdt_ack`. -/
def WdtOp.pets (w : Wdt) : WdtOp → Bool
  | .write buf => w.acks buf
  | op => op.keepalive || op.newTimeout.isSome

/-- A stopped timer is not petted, unless with a timeout whose low byte is 0. -/
def NotPetted (s : Stoppable) (op : WdtOp) : Prop :=
  s.stopped = true → op.pets s.dev = true → op.newTimeout = none ∧ s.dev.low = 0

/-! ## The counter after a call -/

theorem call_counter (w : Wdt) (op : WdtOp) :
    (w.call op).counter =
      match w.effect op with
      | .quiet => w.counter
      | .stop => 0
      | .arm | .restart => (w.call op).low := by
  have h := called w op
  rw [h.counter, h.written]
  cases w.effect op with
  | quiet => rfl
  | arm => rfl
  | stop => rfl
  | restart => rfl

theorem optionsEffect_starts (newOptions : Word) :
    (optionsEffect newOptions = .arm ∨ optionsEffect newOptions = .restart) ↔
      test newOptions wdiosEnablecard = true := by
  simp only [optionsEffect]
  cases test newOptions wdiosDisablecard with
  | false => cases test newOptions wdiosEnablecard <;> simp
  | true => cases test newOptions wdiosEnablecard <;> simp

/-- The calls that write the timeout to the counter register. -/
theorem effect_starts (w : Wdt) (op : WdtOp) :
    (w.effect op = .arm ∨ w.effect op = .restart) ↔
      (op.enablesCard || op.opens w) = true ∨ op.pets w = true := by
  have harm : ∀ b : Bool, ((if b then Effect.arm else .quiet) = .arm ∨
      (if b then Effect.arm else .quiet) = .restart) ↔ b = true := by decide
  cases op with
  | «open» minor =>
      simpa [Wdt.effect, WdtOp.enablesCard, WdtOp.newOptions, WdtOp.opens, WdtOp.pets,
        WdtOp.keepalive, WdtOp.newTimeout] using harm (w.admits minor)
  | write buf =>
      simpa [Wdt.effect, WdtOp.enablesCard, WdtOp.newOptions, WdtOp.opens, WdtOp.pets]
        using harm (w.acks buf)
  | ioctl cmd arg =>
      have hpets : (WdtOp.ioctl cmd arg).pets w = ((WdtOp.ioctl cmd arg).keepalive ||
        (WdtOp.ioctl cmd arg).newTimeout.isSome) := rfl
      simp only [Wdt.effect, WdtOp.enablesCard, WdtOp.opens, Bool.or_false, hpets]
      cases ho : (WdtOp.ioctl cmd arg).newOptions with
      | some newOptions =>
          -- one command is not two
          have hcmd : command cmd = .setoptions := by
            simp only [WdtOp.newOptions] at ho
            split at ho
            · assumption
            · cases ho
          have hk : (WdtOp.ioctl cmd arg).keepalive = false := by simp [WdtOp.keepalive, hcmd]
          have ht : (WdtOp.ioctl cmd arg).newTimeout = none := by simp [WdtOp.newTimeout, hcmd]
          simpa [hk, ht] using optionsEffect_starts newOptions
      | none =>
          have hb := harm ((WdtOp.ioctl cmd arg).keepalive || (WdtOp.ioctl cmd arg).newTimeout.isSome)
          simp only [hb]
          simp
  | release =>
      cases hok : w.okToClose <;>
        simp [Wdt.effect, hok, WdtOp.enablesCard, WdtOp.newOptions, WdtOp.opens, WdtOp.pets,
          WdtOp.keepalive, WdtOp.newTimeout]
  | notify code =>
      cases hcode : stopsAt code <;>
        simp [Wdt.effect, hcode, WdtOp.enablesCard, WdtOp.newOptions, WdtOp.opens, WdtOp.pets,
          WdtOp.keepalive, WdtOp.newTimeout]

theorem effect_of_stopsCard {w : Wdt} {op : WdtOp} (h : op.stopsCard = true) :
    w.effect op = .stop := by
  cases op with
  | notify code =>
      have hcode : stopsAt code = true := h
      simp [Wdt.effect, hcode]
  | ioctl cmd arg =>
      have hoff : (WdtOp.ioctl cmd arg).newOptions.any
          (fun o => test o wdiosDisablecard && !test o wdiosEnablecard) = true := h
      cases ho : (WdtOp.ioctl cmd arg).newOptions with
      | none =>
          rw [ho] at hoff
          cases hoff
      | some newOptions =>
          rw [ho, Option.any_some, Bool.and_eq_true, Bool.not_eq_true'] at hoff
          simp only [Wdt.effect, ho, optionsEffect, hoff.1, hoff.2]
  | «open» minor => cases h
  | write buf => cases h
  | release => cases h

/-! ## One call -/

/-- The timeout that a petted timer is started with. -/
theorem low_of_pets {w : Wdt} {op : WdtOp} :
    (w.call op).low = 0 ↔ op.newTimeout = none ∧ w.low = 0 := by
  have htime := (called w op).timeout
  cases hnew : op.newTimeout with
  | none =>
      rw [hnew] at htime
      have hlow : (w.call op).low = w.low := congrArg (BitVec.setWidth 8) htime
      rw [hlow]
      exact (and_iff_right rfl).symm
  | some time =>
      rw [hnew] at htime
      have hlow : (w.call op).low ≠ 0 := by
        apply low_ne_zero
        rw [htime]
        exact newTimeout_accepted hnew
      constructor
      · intro h
        exact absurd h hlow
      · rintro ⟨h, -⟩
        cases h

theorem staysStopped_step {s t : Stoppable} {op : WdtOp} (hs : StaysStopped s)
    (hpet : NotPetted s op) (hstep : stoppableStep s op = .ok t) : StaysStopped t := by
  cases hstep
  intro hstopped
  show (s.dev.call op).counter = 0
  rw [call_counter]
  rcases Bool.or_eq_true_iff.mp hstopped with hoff | hstay
  · rw [effect_of_stopsCard hoff]
  · obtain ⟨hwas, hnot⟩ := Bool.and_eq_true_iff.mp hstay
    have hnot : ¬ (op.enablesCard || op.opens s.dev) = true := by
      intro h
      rw [h] at hnot
      cases hnot
    -- what else starts the timer is a pet
    have hlow (h : s.dev.effect op = .arm ∨ s.dev.effect op = .restart) :
        (s.dev.call op).low = 0 := by
      have hpets := ((effect_starts s.dev op).mp h).resolve_left hnot
      exact low_of_pets.mpr (hpet hwas hpets)
    cases heffect : s.dev.effect op with
    | quiet => exact hs hwas
    | stop => rfl
    | arm => exact hlow (.inl heffect)
    | restart => exact hlow (.inr heffect)

theorem pets_not_enables {w : Wdt} {op : WdtOp} (h : op.pets w = true) :
    (op.enablesCard || op.opens w) = false := by
  cases op with
  | write buf => rfl
  | ioctl cmd arg =>
      have hpets : ((WdtOp.ioctl cmd arg).keepalive || (WdtOp.ioctl cmd arg).newTimeout.isSome) = true := h
      have hnone : (WdtOp.ioctl cmd arg).newOptions = none := by
        simp only [WdtOp.newOptions]
        split
        · rename_i hcmd
          simp [WdtOp.keepalive, WdtOp.newTimeout, hcmd] at hpets
        · rfl
      simp [WdtOp.enablesCard, WdtOp.opens, hnone]
  | «open» minor => cases h
  | release => cases h
  | notify code => cases h

/-- A stopped timer that is petted runs. -/
theorem petted_step {s : Stoppable} {op : WdtOp} (hpet : ¬ NotPetted s op) :
    ∃ t, stoppableStep s op = .ok t ∧ ¬ StaysStopped t := by
  refine ⟨_, rfl, fun hstays => hpet ?_⟩
  intro hwas hpets
  apply low_of_pets.mp
  have hstopped : (op.stopsCard || (s.stopped && !(op.enablesCard || op.opens s.dev))) = true := by
    rw [hwas, pets_not_enables hpets]
    simp
  have hzero : (s.dev.call op).counter = 0 := hstays hstopped
  rw [call_counter] at hzero
  rcases (effect_starts s.dev op).mpr (.inr hpets) with heffect | heffect
  · rw [heffect] at hzero
    exact hzero
  · rw [heffect] at hzero
    exact hzero

/-! ## Whole runs -/

/-- **A stopped timer stays stopped** in exactly the runs in which it is not
petted. -/
theorem stopped_timer_stays_stopped_iff (w : Wdt) (ops : List WdtOp) :
    Always stoppableStep StaysStopped ⟨w, false⟩ ops ↔
      Guarded stoppableStep NotPetted ⟨w, false⟩ ops := by
  have hstart : StaysStopped ⟨w, false⟩ := by
    intro h
    cases h
  exact always_iff_guarded (fun _ hs => hs) (fun _ _ _ hs hpet hstep =>
    staysStopped_step hs hpet hstep) (fun _ _ _ hpet => petted_step hpet) hstart

/-- A keepalive starts the timer that the halting system has stopped. -/
theorem keepalive_starts_stopped_timer :
    ¬ Always stoppableStep StaysStopped ⟨loaded 60 0 blankChip, false⟩
      [.open watchdogMinor, .notify sysHalt, .ioctl wdiocKeepalive ⟨none, false⟩] := by
  intro h
  have hzero := h.last rfl rfl
  revert hzero
  decide

end MoxaDrivers.Watchdog

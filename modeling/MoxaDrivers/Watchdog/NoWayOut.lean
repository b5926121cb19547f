import MoxaDrivers.Lib.Machine
import MoxaDrivers.Watchdog.Device

/-!
# No way out

With `nowayout` set, `moxawdt_write` does not look for the magic character, so
`WDT_OK_TO_CLOSE` is never set and `moxawdt_release` never stops the timer.
`moxawdt_ioctl` does not consult the parameter: `WDIOS_DISABLECARD` stops the
timer all the same.
-/

namespace MoxaDrivers.Watchdog

open MoxaDrivers.Superio MoxaDrivers.Bits
open MoxaDrivers.Machine

/-- The driver, and whether the device has been opened since it was loaded. -/
structure Watched where
  dev : Wdt
  opened : Bool

/-- The call is a `moxawdt_open` that succeeds. -/
def WdtOp.opens (w : Wdt) : WdtOp → Bool
  | .open minor => w.admits minor
  | _ => false

def watchedStep (s : Watched) (op : WdtOp) : Except Empty Watched :=
  .ok ⟨s.dev.call op, s.opened || op.opens s.dev⟩

def WdtOp.isNotify : WdtOp → Bool
  | .notify _ => true
  | _ => false

/-- `WDIOC_SETOPTIONS` with `WDIOS_DISABLECARD`, alone or not. -/
def WdtOp.disablesCard (op : WdtOp) : Bool := op.newOptions.any (test · wdiosDisablecard)

/-- **What `nowayout` promises**: once the device has been opened, no 0 is
written to the counter register but by the reboot notifier, and without
notifications the register never holds one. -/
structure NoWayOut (s : Watched) (ops : List WdtOp) : Prop where
  writes : EachStep watchedStep
    (fun _ op t => t.opened = true → (0 : Byte) ∈ t.dev.written → op.isNotify = true) s ops
  counter : (∀ op ∈ ops, op.isNotify = false) →
    Always watchedStep (fun t => t.opened = true → t.dev.counter ≠ 0) s ops

/-- The opened card is not disabled. -/
def NotDisabled (s : Watched) (op : WdtOp) : Prop := s.opened = true → op.disablesCard = false

instance (s : Watched) (op : WdtOp) : Decidable (NotDisabled s op) :=
  inferInstanceAs (Decidable (_ → _))

/-- A driver with `nowayout` set. -/
structure Locked (w : Wdt) : Prop where
  nowayout : w.nowayout ≠ 0
  okToClose : w.okToClose = false
  timeout : badTime w.timeout = false

/-- An accepted timeout is not 0 in its low byte. -/
theorem low_ne_zero {w : Wdt} (h : badTime w.timeout = false) : w.low ≠ 0 := by
  intro hzero
  have hnat : w.timeout.toNat % 2 ^ 8 = 0 := by
    have hval := congrArg BitVec.toNat hzero
    simpa [Wdt.low] using hval
  obtain ⟨hmin, hmax⟩ := Bool.or_eq_false_iff.mp h
  have hmin : ¬ w.timeout.toInt ≤ 2 := of_decide_eq_false hmin
  have hmax : ¬ w.timeout.toInt > 255 := of_decide_eq_false hmax
  have hint := BitVec.toInt_eq_toNat_cond w.timeout
  split at hint
  · omega
  · omega

theorem newTimeout_accepted {op : WdtOp} {time : Word} (h : op.newTimeout = some time) :
    badTime time = false := by
  cases op with
  | ioctl cmd arg =>
      simp only [WdtOp.newTimeout] at h
      split at h
      · simpa using (Option.filter_eq_some_iff.mp h).2
      · cases h
  | «open» minor => cases h
  | write buf => cases h
  | release => cases h
  | notify code => cases h

theorem Locked.call {w : Wdt} (h : Locked w) (op : WdtOp) : Locked (w.call op) := by
  have hcalled := called w op
  refine ⟨hcalled.nowayout ▸ h.nowayout, ?_, ?_⟩
  · cases op with
    | «open» minor =>
        simp only [Wdt.call, moxawdtOpen]
        split
        · exact h.okToClose
        · split
          · exact h.okToClose
          · rfl
    | write buf =>
        have hno : ¬ w.nowayout = 0 := h.nowayout
        simp only [Wdt.call, moxawdtWrite, if_neg hno]
        split
        · exact h.okToClose
        · exact h.okToClose
    | ioctl cmd arg => exact (ioctl_flags w cmd arg).2.trans h.okToClose
    | release => rfl
    | notify code => exact (notify_flags w code).2.trans h.okToClose
  · rw [hcalled.timeout]
    cases hnew : op.newTimeout with
    | none => exact h.timeout
    | some time => exact newTimeout_accepted hnew

/-! ## The calls that stop the timer -/

theorem zero_mem_values {low : Byte} (hlow : low ≠ 0) (e : Effect) :
    (0 : Byte) ∈ e.values low ↔ e = .stop ∨ e = .restart := by
  have hne : ¬ (0 : Byte) = low := fun h => hlow h.symm
  cases e with
  | quiet => simp [Effect.values]
  | arm =>
      simp only [Effect.values, List.mem_singleton, hne]
      simp
  | stop => simp [Effect.values]
  | restart => simp [Effect.values]

theorem optionsEffect_stops (newOptions : Word) :
    (optionsEffect newOptions = .stop ∨ optionsEffect newOptions = .restart) ↔
      test newOptions wdiosDisablecard = true := by
  simp only [optionsEffect]
  cases test newOptions wdiosDisablecard with
  | false => cases test newOptions wdiosEnablecard <;> simp
  | true => cases test newOptions wdiosEnablecard <;> simp

/-- A locked driver stops the timer in two cases. -/
theorem Locked.effect_stops {w : Wdt} (h : Locked w) (op : WdtOp) :
    (w.effect op = .stop ∨ w.effect op = .restart) ↔
      op.disablesCard = true ∨ ∃ code, op = .notify code ∧ stopsAt code = true := by
  have harm : ∀ b : Bool, ¬ ((if b then Effect.arm else .quiet) = .stop ∨
      (if b then Effect.arm else .quiet) = .restart) := by decide
  cases op with
  | «open» minor =>
      simpa [Wdt.effect, WdtOp.disablesCard, WdtOp.newOptions] using harm (w.admits minor)
  | write buf => simpa [Wdt.effect, WdtOp.disablesCard, WdtOp.newOptions] using harm (w.acks buf)
  | ioctl cmd arg =>
      simp only [Wdt.effect, WdtOp.disablesCard]
      cases (WdtOp.ioctl cmd arg).newOptions with
      | some newOptions => simpa using optionsEffect_stops newOptions
      | none =>
          have hno := harm ((WdtOp.ioctl cmd arg).keepalive || (WdtOp.ioctl cmd arg).newTimeout.isSome)
          simp only [hno]
          simp
  | release => simp [Wdt.effect, h.okToClose, WdtOp.disablesCard, WdtOp.newOptions]
  | notify code =>
      cases hcode : stopsAt code <;>
        simp [Wdt.effect, hcode, WdtOp.disablesCard, WdtOp.newOptions]

theorem Locked.zero_written {w : Wdt} (h : Locked w) (op : WdtOp) :
    (0 : Byte) ∈ (w.call op).written ↔
      op.disablesCard = true ∨ ∃ code, op = .notify code ∧ stopsAt code = true := by
  rw [(called w op).written, zero_mem_values (low_ne_zero (h.call op).timeout)]
  exact h.effect_stops op

theorem opens_of_disablesCard {w : Wdt} {op : WdtOp} (h : op.disablesCard = true) :
    op.opens w = false := by
  cases op with
  | «open» minor => cases h
  | ioctl cmd arg => rfl
  | write buf => rfl
  | release => rfl
  | notify code => rfl

/-- One call keeps what `nowayout` promises exactly when it does not disable the
opened card. -/
theorem locked_step_iff {s : Watched} (h : Locked s.dev) (op : WdtOp) :
    (∀ t, watchedStep s op = .ok t →
      t.opened = true → (0 : Byte) ∈ t.dev.written → op.isNotify = true) ↔ NotDisabled s op := by
  constructor
  · intro hstep hopen
    apply eq_false_of_ne_true
    intro hdis
    have hnotify := hstep _ rfl (by rw [hopen]; rfl) ((h.zero_written op).mpr (.inl hdis))
    cases op with
    | notify code => cases hdis
    | «open» minor => cases hnotify
    | ioctl cmd arg => cases hnotify
    | write buf => cases hnotify
    | release => cases hnotify
  · intro hnot t ht hopen hzero
    cases ht
    rcases (h.zero_written op).mp hzero with hdis | ⟨code, rfl, -⟩
    · have hopen : (s.opened || op.opens s.dev) = true := hopen
      rw [opens_of_disablesCard hdis, Bool.or_false] at hopen
      exact absurd hdis (by rw [hnot hopen]; nofun)
    · rfl

/-- Without notifications the counter of the opened card stays off 0. -/
theorem locked_counter {s t : Watched} {op : WdtOp} (h : Locked s.dev)
    (hs : s.opened = true → s.dev.counter ≠ 0) (hnot : NotDisabled s op)
    (hno : op.isNotify = false) (hstep : watchedStep s op = .ok t) :
    t.opened = true → t.dev.counter ≠ 0 := by
  intro hopen
  have hzero : (0 : Byte) ∉ t.dev.written := by
    intro hmem
    have hnotify := (locked_step_iff h op).mpr hnot t hstep hopen hmem
    rw [hno] at hnotify
    cases hnotify
  cases hstep
  have hcalled := called s.dev op
  show (s.dev.call op).counter ≠ 0
  rw [hcalled.counter]
  have hopen : (s.opened || op.opens s.dev) = true := hopen
  cases hwritten : (s.dev.call op).written with
  | cons v rest =>
      intro hv
      apply hzero
      show (0 : Byte) ∈ (s.dev.call op).written
      rw [hwritten]
      exact List.mem_cons.mpr (.inl hv.symm)
  | nil =>
      -- a call that opens the device writes to the counter
      have hopens : op.opens s.dev = false := by
        apply eq_false_of_ne_true
        intro hopens
        cases op with
        | «open» minor =>
            have hadmits : s.dev.admits minor = true := hopens
            rw [hcalled.written, Wdt.effect, hadmits] at hwritten
            cases hwritten
        | ioctl cmd arg => cases hopens
        | write buf => cases hopens
        | release => cases hopens
        | notify code => cases hopens
      rw [hopens, Bool.or_false] at hopen
      exact hs hopen

/-! ## Whole runs -/

/-- **`nowayout` is honoured** in exactly the runs in which no
`WDIOC_SETOPTIONS` disables the card once it has been opened. -/
theorem nowayout_honoured_iff (timeout nowayout : Word) (chip : Chip) (hnow : nowayout ≠ 0)
    (htime : badTime timeout = false) (ops : List WdtOp) :
    NoWayOut ⟨loaded timeout nowayout chip, false⟩ ops ↔
      Guarded watchedStep NotDisabled ⟨loaded timeout nowayout chip, false⟩ ops := by
  have hlocked : Locked (loaded timeout nowayout chip) := ⟨hnow, rfl, htime⟩
  have hkeep : ∀ (s : Watched) (op : WdtOp) (t : Watched), Locked s.dev → NotDisabled s op →
      watchedStep s op = .ok t → Locked t.dev := by
    intro s op t hs _ hstep
    cases hstep
    exact hs.call op
  have hwrites : EachStep watchedStep
      (fun _ op t => t.opened = true → (0 : Byte) ∈ t.dev.written → op.isNotify = true)
      ⟨loaded timeout nowayout chip, false⟩ ops ↔
        Guarded watchedStep NotDisabled ⟨loaded timeout nowayout chip, false⟩ ops :=
    eachStep_iff_guarded (J := fun s => Locked s.dev) hkeep
      (fun s op hs => locked_step_iff hs op) hlocked
  constructor
  · intro h
    exact hwrites.mp h.writes
  · intro hg
    refine ⟨hwrites.mpr hg, fun hno => ?_⟩
    have hguard : Guarded watchedStep (fun s op => NotDisabled s op ∧ op.isNotify = false)
        ⟨loaded timeout nowayout chip, false⟩ ops := by
      intro pre op hpre t ht
      exact ⟨hg pre op hpre t ht, hno op (hpre.subset (by simp))⟩
    have hclosed : false = true → (loaded timeout nowayout chip).counter ≠ 0 := by
      intro h
      cases h
    have halways := always_of_guarded
      (I := fun s => Locked s.dev ∧ (s.opened = true → s.dev.counter ≠ 0))
      (fun s op t hs hc hstep =>
        ⟨hkeep s op t hs.1 hc.1 hstep, locked_counter hs.1 hs.2 hc.1 hc.2 hstep⟩)
      ⟨hlocked, hclosed⟩ hguard
    exact halways.mono fun t ht => ht.2

/-- A handle closed with the magic character, and the next one kept alive. -/
theorem nowayout_honoured_iff_60 :
    NoWayOut ⟨loaded 60 1 blankChip, false⟩
      [.open watchdogMinor, .write [some 86], .release, .open watchdogMinor,
        .ioctl wdiocKeepalive ⟨none, false⟩] :=
  (nowayout_honoured_iff 60 1 blankChip (by decide) (by decide) _).mpr (by decide)

/-- `WDIOS_DISABLECARD` leaves 0 in the counter register. -/
theorem disablecard_stops_locked_timer :
    ¬ NoWayOut ⟨loaded 60 1 blankChip, false⟩
      [.open watchdogMinor, .ioctl wdiocSetoptions ⟨some wdiosDisablecard, true⟩] := by
  intro h
  exact (h.counter (by decide)).last rfl rfl (by decide)

end MoxaDrivers.Watchdog

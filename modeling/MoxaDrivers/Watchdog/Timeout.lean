import MoxaDrivers.Watchdog.NoWayOut

/-!
# The timeout of the watchdog

`timeout` is a module parameter of 32 bits, `moxawdt_enable` and `moxawdt_ack`
write its low byte. `WDIOC_SETTIMEOUT` checks what it is given, against bounds of
which it excludes the lower one; a write of the parameter at run time is not
checked at all. What has 0 in its low byte stops the timer where it should start
it.
-/

namespace MoxaDrivers.Watchdog

open MoxaDrivers.Superio MoxaDrivers.Bits
open MoxaDrivers.Machine

/-- A call, or a write of the module parameter. -/
inductive TimeoutOp where
  | call (op : WdtOp)
  | setParam (timeout : Word)
  deriving DecidableEq, Repr

def timeoutStep (w : Wdt) : TimeoutOp → Except Empty Wdt
  | .call op => .ok (w.call op)
  | .setParam timeout => .ok { w with timeout := timeout, written := [] }

/-- What `WDIOC_GETTIMEOUT` reports. -/
def Wdt.reported (w : Wdt) : Except Errno Answer := (moxawdtIoctl w wdiocGettimeout ⟨none, true⟩).2

def Effect.arms : Effect → Bool
  | .quiet | .stop => false
  | .arm | .restart => true

/-- The value that `moxawdt_enable` or `moxawdt_ack` writes in a call: the last one
of its writes. -/
def armed (w : Wdt) (op : WdtOp) (t : Wdt) : Option Byte :=
  if (w.effect op).arms then t.written.head? else none

/-- `WDIOC_SETTIMEOUT` does as the description of the parameter says: it takes
2 to 255, and changes nothing otherwise. -/
def SetsAsDescribed (w : Wdt) (cmd : Word) (arg : UserArg) (time : Word) : Prop :=
  let w := { w with written := [] }
  ((∃ a, (moxawdtIoctl w cmd arg).2 = .ok a) ↔ 2 ≤ time.toInt ∧ time.toInt ≤ 255) ∧
    ((∀ a, (moxawdtIoctl w cmd arg).2 ≠ .ok a) → (moxawdtIoctl w cmd arg).1 = w)

/-- The timer is armed with a number of seconds that is not 0, and is the one that is
reported. -/
def ArmsAsReported (w : Wdt) (op : WdtOp) (t : Wdt) : Prop :=
  ∀ v ∈ armed w op t, v ≠ 0 ∧ ∃ seconds, t.reported = .ok (.word seconds) ∧ seconds.toNat = v.toNat

/-- The int that is passed to `WDIOC_SETTIMEOUT`. -/
def WdtOp.passed : WdtOp → Option Word
  | .ioctl cmd arg =>
      match command cmd with
      | .settimeout => arg.value
      | _ => none
  | _ => none

def TimeoutConsistent (w : Wdt) : TimeoutOp → Wdt → Prop
  | .call op, t =>
      (∀ cmd arg time, op = .ioctl cmd arg → op.passed = some time →
        SetsAsDescribed w cmd arg time) ∧ ArmsAsReported w op t
  | .setParam _, _ => True

/-- `WDIOC_SETTIMEOUT` is not given 2, and what it takes can be reported back. -/
def WdtOp.PassesWell (op : WdtOp) : Prop :=
  ∀ cmd arg time, op = .ioctl cmd arg → op.passed = some time →
    time ≠ 2 ∧ (badTime time = false → arg.writable = true)

/-- A call that arms the timer with the timeout it finds, finds 1 to 255. -/
def TimeoutFits (w : Wdt) : TimeoutOp → Prop
  | .call op =>
      op.PassesWell ∧ ((w.effect op).arms = true → op.newTimeout = none →
        0 < w.timeout.toNat ∧ w.timeout.toNat < 256)
  | .setParam _ => True

/-! ## `WDIOC_SETTIMEOUT` -/

theorem badTime_iff {time : Word} : badTime time = true ↔ time.toInt ≤ 2 ∨ 255 < time.toInt := by
  rw [badTime, Bool.or_eq_true]
  exact or_congr decide_eq_true_iff decide_eq_true_iff

theorem setsAsDescribed_iff (w : Wdt) {cmd : Word} {arg : UserArg} {time : Word}
    (hcmd : command cmd = .settimeout) (harg : arg.value = some time) :
    SetsAsDescribed w cmd arg time ↔
      time ≠ 2 ∧ (badTime time = false → arg.writable = true) := by
  have hcall (w : Wdt) : moxawdtIoctl w cmd arg = settimeout w arg time := by
    rw [moxawdtIoctl, hcmd, harg]
  have htwo : time ≠ 2 ↔ time.toInt ≠ 2 := by
    rw [Ne, ← BitVec.toInt_inj]
    rfl
  rw [htwo, SetsAsDescribed, hcall, settimeout]
  cases hbad : badTime time with
  | true =>
      have hrange := badTime_iff.mp hbad
      rw [if_pos rfl]
      constructor
      · rintro ⟨haccepted, -⟩
        constructor
        · intro h
          obtain ⟨a, ha⟩ := haccepted.mpr (by omega)
          cases ha
        · intro hok
          cases hok
      · rintro ⟨hne, -⟩
        have hout : ¬ (2 ≤ time.toInt ∧ time.toInt ≤ 255) := by omega
        refine ⟨iff_of_false ?_ hout, fun _ => rfl⟩
        rintro ⟨a, ha⟩
        cases ha
  | false =>
      have hrange := mt badTime_iff.mpr (by rw [hbad]; decide)
      have hin : 2 ≤ time.toInt ∧ time.toInt ≤ 255 := by omega
      rw [if_neg Bool.false_ne_true, gettimeout, putUser]
      cases arg.writable with
      | true =>
          refine iff_of_true ⟨iff_of_true ⟨_, rfl⟩ hin, fun h => absurd rfl (h _)⟩ ?_
          exact ⟨by omega, fun _ => rfl⟩
      | false =>
          constructor
          · rintro ⟨haccepted, -⟩
            obtain ⟨a, ha⟩ := haccepted.mpr hin
            cases ha
          · rintro ⟨-, hwritable⟩
            cases hwritable rfl

/-! ## Arming -/

theorem low_exact_iff (w : Wdt) :
    (w.low ≠ 0 ∧ w.timeout.toNat = w.low.toNat) ↔ 0 < w.timeout.toNat ∧ w.timeout.toNat < 256 := by
  have hlow : w.low.toNat = w.timeout.toNat % 2 ^ 8 := BitVec.toNat_setWidth 8 w.timeout
  rw [Ne, ← BitVec.toNat_inj, hlow]
  show ¬ _ = 0 ∧ _ ↔ _
  omega

theorem armsAsReported_iff (w : Wdt) (op : WdtOp) :
    ArmsAsReported w op (w.call op) ↔
      ((w.effect op).arms = true → op.newTimeout = none →
        0 < w.timeout.toNat ∧ w.timeout.toNat < 256) := by
  have hcalled := called w op
  have harmed : armed w op (w.call op) =
      if (w.effect op).arms then some (w.call op).low else none := by
    rw [armed, hcalled.written]
    cases w.effect op <;> rfl
  rw [ArmsAsReported, harmed]
  cases (w.effect op).arms with
  | false => exact iff_of_true nofun nofun
  | true =>
      have hexact : (∀ v ∈ some (w.call op).low, v ≠ 0 ∧
          ∃ seconds, (w.call op).reported = .ok (.word seconds) ∧ seconds.toNat = v.toNat) ↔
            0 < (w.call op).timeout.toNat ∧ (w.call op).timeout.toNat < 256 := by
        rw [← low_exact_iff]
        constructor
        · intro h
          obtain ⟨hne, seconds, hreported, heq⟩ := h _ rfl
          cases hreported
          exact ⟨hne, heq⟩
        · rintro ⟨hne, heq⟩ v hv
          cases hv
          exact ⟨hne, (w.call op).timeout, rfl, heq⟩
      rw [if_pos rfl, hexact, hcalled.timeout]
      cases hnew : op.newTimeout with
      | none => exact ⟨fun h _ _ => h, fun h => h rfl rfl⟩
      | some time =>
          refine iff_of_true ?_ nofun
          have hrange := mt badTime_iff.mpr (by rw [newTimeout_accepted hnew]; decide)
          have hint := BitVec.toInt_eq_toNat_cond time
          show 0 < time.toNat ∧ time.toNat < 256
          split at hint
          · omega
          · omega

/-! ## Runs -/

theorem timeoutConsistent_iff (w : Wdt) (op : TimeoutOp) :
    (∀ t, timeoutStep w op = .ok t → TimeoutConsistent w op t) ↔ TimeoutFits w op := by
  cases op with
  | setParam timeout => exact iff_of_true (fun _ _ => trivial) trivial
  | call op =>
      have hpassed : (∀ cmd arg time, op = .ioctl cmd arg → op.passed = some time →
          SetsAsDescribed w cmd arg time) ↔ op.PassesWell := by
        refine forall_congr' fun cmd => forall_congr' fun arg => forall_congr' fun time => ?_
        refine imp_congr_right fun hop => imp_congr_right fun hpassed => ?_
        subst hop
        simp only [WdtOp.passed] at hpassed
        split at hpassed
        · next hcmd => exact setsAsDescribed_iff w hcmd hpassed
        · cases hpassed
      rw [TimeoutFits, ← hpassed, ← armsAsReported_iff]
      constructor
      · intro h
        exact h _ rfl
      · intro h t ht
        cases ht
        exact h

/-- **The timeout** is accepted, reported and armed consistently in exactly the
runs in which 2 is not asked for, and the parameter does not hold a value that
does not fit a byte, or 0, when the timer is armed with it. -/
theorem timeout_consistent_iff (w : Wdt) (ops : List TimeoutOp) :
    EachStep timeoutStep TimeoutConsistent w ops ↔ Guarded timeoutStep TimeoutFits w ops :=
  eachStep_iff_guarded (J := fun _ => True) (fun _ _ _ _ _ _ => trivial)
    (fun w op _ => timeoutConsistent_iff w op) trivial

/-- 2 seconds are refused; a parameter of 256 has the open device arm its timer
with 0. -/
theorem timeout_inconsistent :
    ¬ EachStep timeoutStep TimeoutConsistent (loaded 60 0 blankChip)
        [.call (.ioctl wdiocSettimeout ⟨some 2, true⟩)] ∧
      ¬ EachStep timeoutStep TimeoutConsistent (loaded 60 0 blankChip)
        [.setParam 256, .call (.open watchdogMinor)] := by
  constructor
  · intro h
    obtain ⟨hstep, -⟩ := guarded_cons.mp h
    obtain ⟨hpassed, -⟩ := hstep _ rfl
    obtain ⟨hsets, -⟩ := hpassed wdiocSettimeout ⟨some 2, true⟩ 2 rfl (by decide)
    obtain ⟨a, ha⟩ := hsets.mpr (by decide)
    cases ha
  · intro h
    obtain ⟨-, hrest⟩ := guarded_cons.mp h
    obtain ⟨hstep, -⟩ := guarded_cons.mp (hrest _ rfl)
    obtain ⟨-, harms⟩ := hstep _ rfl
    obtain ⟨hne, -⟩ := harms 0 (by decide)
    exact hne rfl

end MoxaDrivers.Watchdog

import MoxaDrivers.Lib.Machine
import MoxaDrivers.Mxu11x0.Port

/-!
# Waiting until the device has sent everything

`mxul_wait_until_sent` asks the device again and again how much it has queued,
and sleeps as long as that takes to send. `mxu1_get_oqueue` answers with a length
or with something else that is not 0, which the loop takes for a length.
-/

namespace MoxaDrivers.Mxu11x0

open MoxaDrivers.Machine MoxaDrivers.Mxser

/-! ## `mxu1_get_oqueue` -/

def enomem : Int := 12

/-- `sizeof(struct mxu1_port_outqueue)`. -/
def outqueueSize : Int := 4

/-- How a query turns out: there is no memory for the answer, the command fails,
or the device reports `bLength`. -/
inductive Answer where
  | noMemory
  | failed (status : Int)
  | reported (bLength : Byte)
  deriving DecidableEq, Repr

def Answer.isReport : Answer → Bool
  | .reported _ => true
  | .noMemory | .failed _ => false

/-- `mxu1_get_oqueue`; a failed command leaves `size` as it was set up. -/
def mxu1GetOqueue : Answer → Int
  | .noMemory => -enomem
  | .failed _ => outqueueSize
  | .reported bLength => bLength.toNat

/-! ## `mxul_wait_until_sent` -/

/-- `time_after`. -/
def timeAfter (a b : BitVec 64) : Bool := decide ((b - a).toInt < 0)

/-- What one turn of the loop meets: the answer, the `speed_t` that
`tty_get_baud_rate` returns, and after the sleep a signal and the time. -/
structure Turn where
  answer : Answer
  speed : BitVec 32
  signal : Bool
  jiffies : BitVec 64
  deriving DecidableEq, Repr

/-- The rate that `mxul_wait_until_sent` reckons with. -/
def effectiveBaud (baud : Int) : Int := if baud = 0 then 9600 else baud

/-- `sleep_time`; with `HZ` up to 1024 the products fit in an `int`. The rate is
unsigned, and `baud` is an `int`. -/
def sleepTime (HZ : Nat) (len : Int) (speed : BitVec 32) : Int :=
  (HZ * len * 10 : Int).tdiv (effectiveBaud speed.toInt) + ((HZ / 50 : Nat) : Int)

/-- The sleeps so far, and whether the loop is over. -/
structure Wait where
  sleeps : List Int
  ended : Bool
  deriving DecidableEq, Repr

def Wait.start : Wait := ⟨[], false⟩

/-- One turn of the loop. -/
def waitTurn (HZ : Nat) (timeout origJiffies : BitVec 64) (s : Wait) (t : Turn) :
    Except Empty Wait :=
  if s.ended then .ok s
  else
    let len := mxu1GetOqueue t.answer
    if len = 0 then .ok { s with ended := true }
    else .ok
      { sleeps := s.sleeps ++ [sleepTime HZ len t.speed]
        ended := t.signal || (timeout != 0 && timeAfter t.jiffies (origJiffies + timeout)) }

/-! ## What ends the wait -/

/-- A query that fails, or reports nothing queued, ends the wait at once. -/
def EndsWait (s : Wait) (t : Turn) (s' : Wait) : Prop :=
  s.ended = false → t.answer.isReport = false ∨ t.answer = .reported 0 →
    s'.ended = true ∧ s'.sleeps = s.sleeps

/-- No sleep is for a negative time. -/
def SleepsForward (s : Wait) : Prop := ∀ x ∈ s.sleeps, 0 ≤ x

/-- The rate is not negative as an `int`, or so far below 0 that the hundredths
of a second that are added make up for the quotient. -/
def SleepFits (HZ : Nat) (len baud : Int) : Prop :=
  0 ≤ baud ∨ HZ * len * 10 < ((HZ / 50 : Nat) + 1) * -baud

/-- The device answers every query that the loop makes, and where something is
queued the rate fits. -/
def Answers (HZ : Nat) (s : Wait) (t : Turn) : Prop :=
  s.ended = false → t.answer.isReport = true ∧
    (t.answer = .reported 0 ∨ SleepFits HZ (mxu1GetOqueue t.answer) t.speed.toInt)

variable {HZ : Nat} {timeout origJiffies : BitVec 64}

/-- When a length is not slept on for a negative time. -/
theorem sleepTime_nonneg_iff (HZ : Nat) {len : Int} (h : 0 ≤ len) (speed : BitVec 32) :
    0 ≤ sleepTime HZ len speed ↔ SleepFits HZ len speed.toInt := by
  have hprod : (0 : Int) ≤ HZ * len * 10 :=
    Int.mul_nonneg (Int.mul_nonneg (by omega) h) (by decide)
  simp only [sleepTime, effectiveBaud, SleepFits]
  by_cases hneg : speed.toInt < 0
  · obtain ⟨b, hb⟩ : ∃ b, speed.toInt = -b := ⟨-speed.toInt, by omega⟩
    have hpos : 0 < b := by omega
    rw [if_neg (by omega), hb, Int.tdiv_neg, Int.tdiv_eq_ediv_of_nonneg hprod, Int.neg_neg,
      ← Int.ediv_lt_iff_lt_mul hpos]
    omega
  · have hquot (b : Int) (hb : 0 ≤ b) : 0 ≤ (HZ * len * 10 : Int).tdiv b := Int.tdiv_nonneg hprod hb
    have hthis := hquot (if speed.toInt = 0 then 9600 else speed.toInt) (by split <;> omega)
    exact ⟨fun _ => .inl (by omega), fun _ => by omega⟩

/-- Only a report of 0 is taken for an empty queue. -/
theorem mxu1GetOqueue_eq_zero_iff (a : Answer) : mxu1GetOqueue a = 0 ↔ a = .reported 0 := by
  cases a with
  | noMemory => simp [mxu1GetOqueue, enomem]
  | failed status => simp [mxu1GetOqueue, outqueueSize]
  | reported bLength =>
      simp only [mxu1GetOqueue, Answer.reported.injEq]
      constructor
      · intro h
        exact BitVec.eq_of_toNat_eq (by simpa using h)
      · rintro rfl
        rfl

theorem waitTurn_ended {s : Wait} (h : s.ended = true) (t : Turn) :
    waitTurn HZ timeout origJiffies s t = .ok s :=
  if_pos h

theorem waitTurn_empty {s : Wait} (h : s.ended = false) {t : Turn} (ht : t.answer = .reported 0) :
    waitTurn HZ timeout origJiffies s t = .ok { s with ended := true } := by
  rw [waitTurn, if_neg (by simp [h])]
  exact if_pos ((mxu1GetOqueue_eq_zero_iff _).mpr ht)

theorem waitTurn_sleeps {s : Wait} (h : s.ended = false) {t : Turn} (ht : t.answer ≠ .reported 0) :
    waitTurn HZ timeout origJiffies s t = .ok
      { sleeps := s.sleeps ++ [sleepTime HZ (mxu1GetOqueue t.answer) t.speed]
        ended := t.signal || (timeout != 0 && timeAfter t.jiffies (origJiffies + timeout)) } := by
  rw [waitTurn, if_neg (by simp [h])]
  exact if_neg (mt (mxu1GetOqueue_eq_zero_iff _).mp ht)

theorem waitTurn_total (s : Wait) (t : Turn) :
    ∃ s', waitTurn HZ timeout origJiffies s t = .ok s' := by
  cases h : waitTurn HZ timeout origJiffies s t with
  | error e => exact e.elim
  | ok s' => exact ⟨s', rfl⟩

theorem sleepsForward_append {s : Wait} (hs : SleepsForward s) (x : Int) (ended : Bool) :
    SleepsForward ⟨s.sleeps ++ [x], ended⟩ ↔ 0 ≤ x := by
  constructor
  · exact fun h => h x (List.mem_append_right _ (List.mem_singleton_self x))
  · intro hx y hy
    rcases List.mem_append.mp hy with hold | hnew
    · exact hs y hold
    · rw [List.mem_singleton.mp hnew]
      exact hx

theorem mxu1GetOqueue_nonneg {a : Answer} (h : a.isReport = true) : 0 ≤ mxu1GetOqueue a := by
  cases a with
  | reported bLength => exact Int.natCast_nonneg _
  | _ => cases h

/-- **One turn**: a query that fails is slept on, and a queue at a rate that does
not fit for a negative time. -/
theorem waitTurn_iff {s s' : Wait} {t : Turn} (hs : SleepsForward s)
    (hstep : waitTurn HZ timeout origJiffies s t = .ok s') :
    EndsWait s t s' ∧ SleepsForward s' ↔ Answers HZ s t := by
  cases hended : s.ended with
  | true =>
      obtain rfl := Except.ok.inj ((waitTurn_ended hended t).symm.trans hstep)
      exact ⟨fun _ hrun => by simp [hended] at hrun,
        fun _ => ⟨fun hrun => by simp [hended] at hrun, hs⟩⟩
  | false =>
      by_cases hempty : t.answer = .reported 0
      · obtain rfl := Except.ok.inj ((waitTurn_empty hended hempty).symm.trans hstep)
        exact ⟨fun _ _ => ⟨by rw [hempty]; rfl, .inl hempty⟩,
          fun _ => ⟨fun _ _ => ⟨rfl, rfl⟩, hs⟩⟩
      · obtain rfl := Except.ok.inj ((waitTurn_sleeps hended hempty).symm.trans hstep)
        rw [sleepsForward_append hs]
        constructor
        · rintro ⟨hends, hsleep⟩ -
          cases hreport : t.answer.isReport with
          | true =>
              have hfits := (sleepTime_nonneg_iff HZ (mxu1GetOqueue_nonneg hreport) _).mp hsleep
              exact ⟨rfl, .inr hfits⟩
          | false =>
              obtain ⟨-, hsleeps⟩ := hends hended (.inl hreport)
              have hlen := congrArg List.length hsleeps
              simp at hlen
        · intro hok
          obtain ⟨hreport, hfits⟩ := hok hended
          refine ⟨fun _ hanswer => ?_, ?_⟩
          · rcases hanswer with hfail | hnone
            · rw [hreport] at hfail
              cases hfail
            · exact absurd hnone hempty
          · exact (sleepTime_nonneg_iff HZ (mxu1GetOqueue_nonneg hreport) _).mpr
              (hfits.resolve_left hempty)

/-! ## Whole waits -/

/-- **A wait** ends with the first query that fails or reports an empty queue,
and never sleeps for a negative time, exactly if no query that it makes fails
and every length reported comes at a rate that fits. -/
theorem wait_until_sent_iff (HZ : Nat) (timeout origJiffies : BitVec 64) (ts : List Turn) :
    EachStep (waitTurn HZ timeout origJiffies) EndsWait Wait.start ts ∧
        Always (waitTurn HZ timeout origJiffies) SleepsForward Wait.start ts ↔
      Guarded (waitTurn HZ timeout origJiffies) (Answers HZ) Wait.start ts := by
  apply eachStep_always_iff_guarded waitTurn_total
  · exact fun s t s' hs hstep => waitTurn_iff hs hstep
  · intro x hx
    cases hx

/-- The device is gone: every command fails, and nobody sends a signal. -/
def unpluggedTurn : Turn := ⟨.failed (-19), 9600, false, 0⟩

theorem unplugged_run (HZ : Nat) (n : Nat) {s : Wait} (hs : s.ended = false) :
    ∃ s', run (waitTurn HZ 0 0) s (List.replicate n unpluggedTurn) = .ok s' ∧
      s'.ended = false ∧ s'.sleeps.length = s.sleeps.length + n := by
  induction n generalizing s with
  | zero => exact ⟨s, rfl, hs, rfl⟩
  | succ n ih =>
      have hstep : waitTurn HZ 0 0 s unpluggedTurn = .ok
          ⟨s.sleeps ++ [sleepTime HZ outqueueSize 9600], false⟩ :=
        waitTurn_sleeps hs (by decide)
      obtain ⟨s', hrun, hended, hlen⟩ :=
        ih (s := ⟨s.sleeps ++ [sleepTime HZ outqueueSize 9600], false⟩) rfl
      refine ⟨s', ?_, hended, ?_⟩
      · rw [List.replicate_succ, run_cons_of_ok hstep]
        exact hrun
      · rw [hlen, List.length_append, List.length_singleton]
        omega

/-- With the device gone and without a timeout the loop goes on for ever. Without
memory it sleeps for a negative time at 300 baud, and with one byte queued at a
rate of 2^32 - 1. -/
theorem wait_until_sent_unplugged :
    (∀ n, ∃ s, run (waitTurn 1000 0 0) Wait.start (List.replicate n unpluggedTurn) = .ok s ∧
      s.ended = false ∧ s.sleeps.length = n) ∧
    (∃ s, waitTurn 1000 0 0 Wait.start ⟨.noMemory, 300, false, 0⟩ = .ok s ∧ s.sleeps = [-380]) ∧
    (∃ s, waitTurn 1000 0 0 Wait.start ⟨.reported 1, 0xFFFFFFFF, false, 0⟩ = .ok s ∧
      s.sleeps = [-9980]) ∧
    ¬ EachStep (waitTurn 1000 0 0) EndsWait Wait.start [unpluggedTurn] := by
  refine ⟨fun n => ?_, ⟨_, rfl, by decide⟩, ⟨_, rfl, by decide⟩, fun h => ?_⟩
  · obtain ⟨s, hrun, hended, hlen⟩ := unplugged_run 1000 n (s := Wait.start) rfl
    exact ⟨s, hrun, hended, by simpa [Wait.start] using hlen⟩
  · obtain ⟨s, hstep⟩ : ∃ s, waitTurn 1000 0 0 Wait.start unpluggedTurn = .ok s :=
      waitTurn_total _ _
    have hends := h [] unpluggedTurn (List.prefix_refl _) Wait.start rfl s hstep
    obtain rfl := Except.ok.inj ((waitTurn_sleeps rfl (by decide)).symm.trans hstep)
    exact absurd (hends rfl (.inl rfl)).2 (by decide)

end MoxaDrivers.Mxu11x0

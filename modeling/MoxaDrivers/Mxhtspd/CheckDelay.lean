import MoxaDrivers.Lib.Machine
import MoxaDrivers.Mxhtspd.Daemon

/-!
# When the partitions are checked

One counter of `check_part_usage` counts the calls from a check to the next, and
is set to `TIME_DELAY_CHECK_USAGE` to have a check soon after a disk is plugged or
unplugged. It counts up to `time_chk_part` in both cases, and past it: the delay
is what 10 leaves of the interval, and the interval is a call longer than it
should be.

The counter is an `int`, which would overflow if `time_chk_part` were the largest
one, in its 2 ^ 31st call; here it goes on.
-/

namespace MoxaDrivers.Mxhtspd

open MoxaDrivers.Machine

/-- A call of `check_part_usage`: whether the flag has been raised since the one
before, and what else it finds. -/
structure CheckCall where
  force : Bool
  usage : Nat → Int
  info : Int → HtspInfo

/-- The daemon when the call is made. -/
def Daemon.found (s : Daemon) (c : CheckCall) : Daemon :=
  { s with forceChkPart := s.forceChkPart || c.force, info := c.info }

/-! ## What the calls are due to -/

/-- The calls that did not find the flag: since the start, or since one that did. -/
inductive Unforced where
  | start (n : Nat)
  | forced (n : Nat)
  deriving DecidableEq, Repr

def Unforced.next : Unforced → Bool → Unforced
  | _, true => .forced 0
  | .start n, false => .start (n + 1)
  | .forced n, false => .forced (n + 1)

/-- What happened last, a check or a call that found the flag, and the calls since. -/
inductive Last where
  | nothing
  | checked (n : Nat)
  | forced (n : Nat)
  deriving DecidableEq, Repr

def Last.next (last : Last) (checks force : Bool) : Last :=
  if checks then .checked 0
  else if force then .forced 0
  else match last with
    | .nothing => .nothing
    | .checked n => .checked (n + 1)
    | .forced n => .forced (n + 1)

/-- The daemon between two calls, with the calls and the checks so far. -/
structure Timed where
  daemon : Daemon
  unforced : Unforced
  last : Last

def timed0 : Timed := ⟨daemon0, .start 0, .nothing⟩

def timedStep (k : Conf) (s : Timed) (c : CheckCall) : Except Empty Timed :=
  .ok
    { daemon := (checkPartUsage k c.usage (s.daemon.found c)).1
      unforced := s.unforced.next c.force
      last := s.last.next ((s.daemon.found c).checks k) c.force }

/-- A call checks when it should: `TIME_DELAY_CHECK_USAGE` calls after the last one
that found the flag and not before, and otherwise `time_chk_part` calls after the
check before. -/
def OnTime (k : Conf) (s : Timed) (c : CheckCall) : Prop :=
  let checks := (s.daemon.found c).checks k
  if c.force then checks = false
  else match s.last with
    | .nothing => True
    | .checked n => checks = true → (n + 1 : Int) = k.timeChkPart
    | .forced n => checks = true ↔ (n + 1 : Int) = timeDelayCheckUsage

/-- One more call without the flag does not come to a check at the wrong time: after
the flag that is the 31st, where `time_chk_part` is 20, and else the first of the two
times at which a check is due and comes. -/
def Unforced.InTime (timeChkPart : Int) : Unforced → Prop
  | .start n => (n + 1 : Int) < 2 * (timeChkPart + 1)
  | .forced n =>
      if timeChkPart = 20 then n + 1 < 31
      else (n + 1 : Int) < 10 ∧ (n + 1 : Int) < timeChkPart - 10

def FlagInTime (k : Conf) (s : Timed) (c : CheckCall) : Prop :=
  if c.force then 10 < k.timeChkPart else s.unforced.InTime k.timeChkPart

instance (timeChkPart : Int) : ∀ u : Unforced, Decidable (u.InTime timeChkPart)
  | .start n => inferInstanceAs (Decidable ((n + 1 : Int) < 2 * (timeChkPart + 1)))
  | .forced n =>
      inferInstanceAs (Decidable (if timeChkPart = 20 then n + 1 < 31
        else (n + 1 : Int) < 10 ∧ (n + 1 : Int) < timeChkPart - 10))

instance (k : Conf) (s : Timed) (c : CheckCall) : Decidable (FlagInTime k s c) :=
  inferInstanceAs (Decidable
    (if c.force then 10 < k.timeChkPart else s.unforced.InTime k.timeChkPart))

/-! ## The counter -/

theorem showLed_counters (i : Int) (s : Daemon) :
    (showLed i s).1.cntChkPart = s.cntChkPart ∧ (showLed i s).1.forceChkPart = s.forceChkPart := by
  simp only [showLed]
  split
  · exact ⟨rfl, rfl⟩
  · split
    · exact ⟨rfl, rfl⟩
    · exact ⟨rfl, rfl⟩

theorem showBoth_counters (s : Daemon) :
    (showBoth s).1.cntChkPart = s.cntChkPart ∧ (showBoth s).1.forceChkPart = s.forceChkPart := by
  have hfirst := showLed_counters 1 { s with on := !s.on }
  have hsecond := showLed_counters 2 (showLed 1 { s with on := !s.on }).1
  exact ⟨hsecond.1.trans hfirst.1, hsecond.2.trans hfirst.2⟩

theorem showSingle_counters (s : Daemon) :
    (showSingle s).1.cntChkPart = s.cntChkPart ∧
      (showSingle s).1.forceChkPart = s.forceChkPart := by
  simp only [showSingle]
  split
  · exact ⟨rfl, rfl⟩
  · split
    · exact ⟨rfl, rfl⟩
    · exact ⟨rfl, rfl⟩

theorem checkPartitions_counters (k : Conf) (usage : Nat → Int) (s : Daemon) :
    (checkPartitions k usage s).1.cntChkPart = (if s.checks k then 0 else s.count + 1) ∧
      (checkPartitions k usage s).1.forceChkPart = false := by
  simp only [checkPartitions]
  split
  · exact ⟨rfl, rfl⟩
  · exact ⟨rfl, rfl⟩

/-- A call counts, or starts again after a check, and takes the flag. -/
theorem checkPartUsage_counters (k : Conf) (usage : Nat → Int) (s : Daemon) :
    (checkPartUsage k usage s).1.cntChkPart = (if s.checks k then 0 else s.count + 1) ∧
      (checkPartUsage k usage s).1.forceChkPart = false := by
  have hcheck := checkPartitions_counters k usage s
  simp only [checkPartUsage]
  split
  · have hshow := showSingle_counters (checkPartitions k usage s).1
    exact ⟨hshow.1.trans hcheck.1, hshow.2.trans hcheck.2⟩
  · have hshow := showBoth_counters (checkPartitions k usage s).1
    exact ⟨hshow.1.trans hcheck.1, hshow.2.trans hcheck.2⟩

/-- The counter, by what it has counted. -/
inductive Counts (T : Int) : Unforced → Last → Int → Prop where
  /-- No check yet. -/
  | waiting {n : Nat} (h : (n : Int) ≤ T) : Counts T (.start n) .nothing n
  /-- The first check was late by a call. -/
  | first {n m : Nat} (h : (n : Int) = T + 1 + m) (hm : (m : Int) ≤ T) :
      Counts T (.start n) (.checked m) m
  /-- The flag was found, and there is more than the delay to come. -/
  | delayed {n : Nat} (h : n < 10) (hT : 11 + (n : Int) ≤ T) :
      Counts T (.forced n) (.forced n) (11 + n)
  /-- There was a check right after the delay. -/
  | after {n m : Nat} (hT : T = 20) (h : n = 10 + m) (hm : m ≤ 20) :
      Counts T (.forced n) (.checked m) m

structure TimedInv (k : Conf) (s : Timed) : Prop where
  flag : s.daemon.forceChkPart = false
  counts : Counts k.timeChkPart s.unforced s.last s.daemon.cntChkPart

theorem timedInv_timed0 {k : Conf} (h : 0 < k.timeChkPart) : TimedInv k timed0 :=
  ⟨rfl, .waiting (n := 0) (by show (0 : Int) ≤ _; omega)⟩

/-- The count with which a call finds out whether to check. -/
theorem TimedInv.count {k : Conf} {s : Timed} (h : TimedInv k s) (c : CheckCall) :
    (s.daemon.found c).count = if c.force then 10 else s.daemon.cntChkPart := by
  rw [Daemon.count]
  show (if (s.daemon.forceChkPart || c.force) = true then _ else _) = _
  rw [h.flag, Bool.false_or]
  rfl

/-! ## One call -/

theorem onTime_iff {k : Conf} {s : Timed} (h : TimedInv k s) (c : CheckCall) :
    OnTime k s c ↔ FlagInTime k s c := by
  have hchecks : (s.daemon.found c).checks k =
      decide ((if c.force then 10 else s.daemon.cntChkPart) + 1 > k.timeChkPart) := by
    rw [Daemon.checks, h.count c]
  have hcounts := h.counts
  rw [OnTime, FlagInTime, hchecks]
  cases c.force with
  | true =>
      simp only [if_true]
      rw [decide_eq_false_iff_not]
      omega
  | false =>
      simp only [Bool.false_eq_true, if_false, decide_eq_true_iff]
      generalize s.daemon.cntChkPart = cnt at hcounts ⊢
      generalize s.unforced = unforced at hcounts ⊢
      generalize s.last = last at hcounts ⊢
      cases hcounts with
      | waiting hn =>
          simp only [Unforced.InTime, true_iff]
          omega
      | first hn hm =>
          simp only [Unforced.InTime]
          omega
      | delayed hn hT =>
          simp only [timeDelayCheckUsage, Unforced.InTime]
          split
          · omega
          · omega
      | after hT hn hm =>
          simp only [Unforced.InTime, if_pos hT]
          omega

/-- A call without the flag, made in time. -/
theorem Counts.next {T : Int} (hT : 0 < T) {unforced : Unforced} {last : Last} {cnt : Int}
    (h : Counts T unforced last cnt) (hin : unforced.InTime T) :
    Counts T (unforced.next false) (last.next (decide (cnt + 1 > T)) false)
      (if cnt + 1 > T then 0 else cnt + 1) := by
  cases h with
  | @waiting n hn =>
      simp only [Unforced.next, Last.next, decide_eq_true_iff, Bool.false_eq_true, if_false]
      split
      · exact .first (n := n + 1) (m := 0) (by omega) (by omega)
      · exact .waiting (n := n + 1) (by omega)
  | @first n m hn hm =>
      rw [Unforced.InTime] at hin
      have hno : ¬ (m : Int) + 1 > T := by omega
      rw [decide_eq_false hno, if_neg hno]
      exact .first (n := n + 1) (m := m + 1) (by omega) (by omega)
  | @delayed n hn hlate =>
      rw [Unforced.InTime] at hin
      -- the delay is over with the tenth call, which `time_chk_part` must be 20 for
      by_cases htwenty : T = 20
      · simp only [Unforced.next, Last.next, decide_eq_true_iff, Bool.false_eq_true, if_false]
        split
        · exact .after (n := n + 1) (m := 0) htwenty (by omega) (by omega)
        · exact .delayed (n := n + 1) (by omega) (by omega)
      · rw [if_neg htwenty] at hin
        have hno : ¬ 11 + (n : Int) + 1 > T := by omega
        rw [decide_eq_false hno, if_neg hno]
        exact .delayed (n := n + 1) (by omega) (by omega)
  | @after n m htwenty hn hm =>
      rw [Unforced.InTime, if_pos htwenty] at hin
      have hno : ¬ (m : Int) + 1 > T := by omega
      rw [decide_eq_false hno, if_neg hno]
      exact .after (n := n + 1) (m := m + 1) htwenty (by omega) (by omega)

theorem timedInv_step {k : Conf} (hT : 0 < k.timeChkPart) {s t : Timed} {c : CheckCall}
    (h : TimedInv k s) (hc : FlagInTime k s c) (ht : timedStep k s c = .ok t) : TimedInv k t := by
  cases ht
  have hcounters := checkPartUsage_counters k c.usage (s.daemon.found c)
  have hchecks : (s.daemon.found c).checks k =
      decide ((s.daemon.found c).count + 1 > k.timeChkPart) := rfl
  refine ⟨hcounters.2, ?_⟩
  show Counts k.timeChkPart (s.unforced.next c.force)
    (s.last.next ((s.daemon.found c).checks k) c.force)
    (checkPartUsage k c.usage (s.daemon.found c)).1.cntChkPart
  rw [hcounters.1, hchecks, h.count c]
  rw [FlagInTime] at hc
  cases hforce : c.force with
  | true =>
      rw [hforce, if_pos rfl] at hc
      have hno : ¬ ((10 : Int) + 1 > k.timeChkPart) := by omega
      simp only [if_true, decide_eq_true_iff, if_neg hno, Last.next, Unforced.next]
      exact .delayed (n := 0) (by decide) (by omega)
  | false =>
      rw [hforce, if_neg Bool.false_ne_true] at hc
      simp only [Bool.false_eq_true, if_false, decide_eq_true_iff]
      exact h.counts.next hT hc

/-! ## Sequences of calls -/

/-- **Checks come on time** in exactly the sequences of calls in which the flag
comes in time. -/
theorem checks_on_time_iff (k : Conf) (hT : 0 < k.timeChkPart) (calls : List CheckCall) :
    EachStep (timedStep k) (fun s c _ => OnTime k s c) timed0 calls ↔
      Guarded (timedStep k) (FlagInTime k) timed0 calls := by
  refine eachStep_iff_guarded (J := TimedInv k)
    (fun s c t hs hc ht => timedInv_step hT hs hc ht) (fun s c hs => ?_) (timedInv_timed0 hT)
  rw [← onTime_iff hs c]
  exact ⟨fun h => h _ rfl, fun h _ _ => h⟩

/-- A call that finds nothing but, perhaps, the flag. -/
def plainCall (force : Bool) : CheckCall := ⟨force, fun _ => 0, daemon0.info⟩

/-- With 20 for the interval, the check after a delay is on time. -/
theorem checks_on_time_twenty :
    EachStep (timedStep ⟨false, 20, []⟩) (fun s c _ => OnTime ⟨false, 20, []⟩ s c) timed0
      (plainCall true :: List.replicate 12 (plainCall false)) :=
  (checks_on_time_iff ⟨false, 20, []⟩ (by decide) _).mpr (by decide)

/-- With the default 60, the tenth call after a disk is plugged does not check. With 1,
every second call does. -/
theorem checks_late :
    ¬ EachStep (timedStep ⟨false, 60, []⟩) (fun s c _ => OnTime ⟨false, 60, []⟩ s c) timed0
        (plainCall true :: List.replicate 10 (plainCall false)) ∧
      ¬ EachStep (timedStep ⟨false, 1, []⟩) (fun s c _ => OnTime ⟨false, 1, []⟩ s c) timed0
        (List.replicate 4 (plainCall false)) := by
  constructor
  · intro h
    have htenth := h (plainCall true :: List.replicate 9 (plainCall false)) (plainCall false)
      ⟨[], rfl⟩ _ rfl _ rfl
    have hcheck := htenth.mpr (by decide)
    exact absurd hcheck (by decide)
  · intro h
    have hfourth := h (List.replicate 3 (plainCall false)) (plainCall false) ⟨[], rfl⟩ _ rfl _ rfl
    have htime := hfourth (by decide)
    exact absurd htime (by decide)

end MoxaDrivers.Mxhtspd

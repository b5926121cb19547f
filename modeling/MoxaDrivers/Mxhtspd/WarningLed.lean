import MoxaDrivers.Lib.Machine
import MoxaDrivers.Mxhtspd.Daemon

/-!
# The warning LEDs

`check_part_usage` sets `led_warn` of a disk anew for each of its partitions, so
that the last one decides. The display half never clears `led_last_warn`: a LED
that has warned once is turned off by every later call. With one LED only disk 2
makes it warn, nothing turns it off again, and the activity of a disk that does
not warn is shown on it all the same.
-/

namespace MoxaDrivers.Mxhtspd

open MoxaDrivers.Machine

def disks : List Int := [1, 2]

/-- The LEDs of a build. -/
def Conf.leds (k : Conf) : List Int := if k.singleLed then [1] else [1, 2]

/-- The partitions of a disk, in the order of the configuration. -/
def entriesOf (es : List (Clist × Nat)) (n : Int) : List (Clist × Nat) :=
  es.filter fun e => decide (e.1.n = n)

/-- Some configured partition of the disk is missing or above its limit. -/
def Conf.anyBad (k : Conf) (usage : Nat → Int) (n : Int) : Bool :=
  (entriesOf k.cl.zipIdx n).any (bad usage)

/-- The last one is. -/
def Conf.lastBad (k : Conf) (usage : Nat → Int) (n : Int) : Bool :=
  ((entriesOf k.cl.zipIdx n).getLast?.map (bad usage)).getD false

/-- The daemon, the disks that warn since the last round, and what
`check_part_usage` has last set each LED to. -/
structure Warned where
  daemon : Daemon
  warns : Int → Bool
  shown : Int → Bool

def warned0 : Warned := ⟨daemon0, fun _ => false, fun _ => false⟩

/-- The turn has a round of checks. -/
def rounds (k : Conf) (s : Daemon) (r : Readings) : Bool := s.calls && (polled k s r).checks k

def Warned.next (k : Conf) (s : Warned) (r : Readings) (n : Int) : Bool :=
  if rounds k s.daemon r then k.anyBad r.usage n else s.warns n

def warnedStep (k : Conf) (s : Warned) (r : Readings) : Except Empty Warned :=
  .ok {
    daemon := (turn k s.daemon r).daemon
    warns := s.next k r
    shown := fun led => (setsLed led (turn k s.daemon r).check).getLast?.getD (s.shown led) }

/-- The LED is to warn: its disk does, or with one LED either disk. -/
def Conf.warnsLed (k : Conf) (warns : Int → Bool) (led : Int) : Bool :=
  if k.singleLed then warns 1 || warns 2 else warns led

/-- A LED in a turn of the main loop: while it warns, `check_part_usage` drives it,
blinking or steadily, and the activity of the disks is not shown on it; when it
does no more it is turned off, once. -/
structure LedExact (k : Conf) (s : Warned) (r : Readings) (led : Int) : Prop where
  drives : s.daemon.calls = true → k.warnsLed (s.next k r) led = true →
    ∃ v, setsLed led (turn k s.daemon r).check = [v] ∧
      if k.singleLed then v = true else k.warnsLed s.warns led = true → v = !s.shown led
  ends : s.daemon.calls = true → k.warnsLed (s.next k r) led = false →
    setsLed led (turn k s.daemon r).check = if k.warnsLed s.warns led then [false] else []
  activity : k.warnsLed s.warns led = true →
    setsLed led ((turn k s.daemon r).slot 1 ++ (turn k s.daemon r).slot 2) = []

/-- The flags of the disks and the LEDs in a turn of the main loop. -/
structure WarnExact (k : Conf) (s : Warned) (r : Readings) (t : Warned) : Prop where
  flags : ∀ n ∈ disks, (t.daemon.info n).ledWarn = t.warns n
  leds : ∀ led ∈ k.leds, LedExact k s r led

/-- **The warning LEDs reflect all configured partitions.** -/
def WarningsShown (k : Conf) (rs : List Readings) : Prop :=
  EachStep (warnedStep k) (WarnExact k) warned0 rs

/-- With a LED for each disk: a call that finds a disk not warning, neither now nor
at the call before, finds one that has never warned. With one LED: disk 1 does not
warn alone, a warning does not end, and while there is one a disk that does not
warn is idle with its LED off. -/
def Shows (k : Conf) (s : Warned) (r : Readings) : Prop :=
  if k.singleLed then
    (s.daemon.calls = true →
      (s.next k r 1 = true → s.next k r 2 = true) ∧
        (s.warns 1 = true ∨ s.warns 2 = true → s.next k r 1 = true ∨ s.next k r 2 = true)) ∧
    (s.warns 1 = true ∨ s.warns 2 = true → ∀ n ∈ disks, s.warns n = false →
      r.busy n ≠ 1 ∧ (s.daemon.info n).ledOn = false)
  else
    s.daemon.calls = true → ∀ n ∈ disks, s.next k r n = false → s.warns n = false →
      (s.daemon.info n).ledLastWarn = false

/-- In a round, a disk with a bad partition has a bad last partition. -/
def LastDecides (k : Conf) (s : Warned) (r : Readings) : Prop :=
  rounds k s.daemon r = true → ∀ n ∈ disks, k.anyBad r.usage n = true → k.lastBad r.usage n = true

/-! ## The flags -/

theorem mem_disks {n : Int} : n ∈ disks ↔ n = 1 ∨ n = 2 := by simp [disks]

theorem checkEntry_eq (usage : Nat → Int) (info : Int → HtspInfo) (e : Clist × Nat) :
    checkEntry usage info e =
      Function.update info e.1.n { info e.1.n with ledWarn := bad usage e } := by
  obtain ⟨c, i⟩ := e
  by_cases hmissing : usage i = -1
  · simp [checkEntry, bad, hmissing]
  · by_cases habove : usage i > c.percent
    · simp [checkEntry, bad, hmissing, habove]
    · simp [checkEntry, bad, hmissing, habove]

/-- The last partition of a disk decides. -/
theorem foldl_checkEntry (usage : Nat → Int) (n : Int) (es : List (Clist × Nat)) :
    ∀ info, es.foldl (checkEntry usage) info n =
      { info n with
        ledWarn := ((entriesOf es n).getLast?.map (bad usage)).getD (info n).ledWarn } := by
  induction es with
  | nil =>
      intro info
      rfl
  | cons e es ih =>
      intro info
      rw [List.foldl_cons, ih, checkEntry_eq]
      by_cases he : e.1.n = n
      · have hfilter : entriesOf (e :: es) n = e :: entriesOf es n :=
          List.filter_cons_of_pos (decide_eq_true he)
        rw [hfilter, List.getLast?_cons, ← he, Function.update_self]
        cases (entriesOf es e.1.n).getLast? with
        | none => rfl
        | some last => rfl
      · have hfilter : entriesOf (e :: es) n = entriesOf es n :=
          List.filter_cons_of_neg (by simpa using he)
        rw [hfilter, Function.update_of_ne (Ne.symm he)]

/-- What the first half of `check_part_usage` leaves of a warning. -/
structure Checked (k : Conf) (usage : Nat → Int) (s t : Daemon) : Prop where
  warn : ∀ n, (t.info n).ledWarn =
    if s.checks k then ((entriesOf k.cl.zipIdx n).getLast?.map (bad usage)).getD (s.info n).ledWarn
    else (s.info n).ledWarn
  lastWarn : ∀ n, (t.info n).ledLastWarn = (s.info n).ledLastWarn
  on : t.on = s.on

theorem checkPartitions_checked (k : Conf) (usage : Nat → Int) (s : Daemon) :
    Checked k usage s (checkPartitions k usage s).1 := by
  cases hchecks : s.checks k with
  | true =>
      simp only [checkPartitions, hchecks, if_true]
      refine ⟨fun n => ?_, fun n => ?_, rfl⟩
      · show (k.cl.zipIdx.foldl (checkEntry usage) s.info n).ledWarn = _
        rw [foldl_checkEntry, hchecks]
        rfl
      · show (k.cl.zipIdx.foldl (checkEntry usage) s.info n).ledLastWarn = _
        rw [foldl_checkEntry]
  | false =>
      simp only [checkPartitions, hchecks, Bool.false_eq_true, if_false]
      refine ⟨fun n => ?_, fun _ => rfl, rfl⟩
      rw [hchecks]
      rfl

theorem checkPartitions_setsLed (k : Conf) (usage : Nat → Int) (s : Daemon) (led : Int) :
    setsLed led (checkPartitions k usage s).2 = [] := by
  have hentry (e : Clist × Nat) : setsLed led (checkEntryActs usage e) = [] := by
    simp only [checkEntryActs]
    split
    · rfl
    · rfl
  simp only [checkPartitions]
  split
  · induction k.cl.zipIdx with
    | nil => rfl
    | cons e es ih => rw [List.flatMap_cons, setsLed_append, hentry, ih, List.nil_append]
  · rfl

/-! ## The display -/

theorem showSingle_warn (s : Daemon) (n : Int) :
    ((showSingle s).1.info n).ledWarn = (s.info n).ledWarn := by
  simp only [showSingle]
  split
  · exact Daemon.put_keeps HtspInfo.ledWarn { s with on := true } (by rfl) n
  · split
    · rfl
    · rfl

theorem showSingle_two (s : Daemon) : (showSingle s).1.info 2 = s.info 2 := by
  simp only [showSingle]
  split
  · exact Daemon.put_of_ne { s with on := true } (show (2 : Int) ≠ 1 by decide) _
  · split
    · rfl
    · rfl

theorem showSingle_setsLed (s : Daemon) :
    setsLed 1 (showSingle s).2 =
      if (s.info 2).ledWarn then [true] else if (s.info 2).ledLastWarn then [false] else [] := by
  simp only [showSingle]
  split
  · rfl
  · split
    · rfl
    · rfl

/-- One of two LEDs. -/
theorem showLed_info (i : Int) (s : Daemon) (n : Int) :
    ((showLed i s).1.info n).ledWarn = (s.info n).ledWarn ∧
      ((showLed i s).1.info n).ledLastWarn =
        ((s.info n).ledLastWarn || (decide (n = i) && (s.info i).ledWarn)) ∧
      (showLed i s).1.on = s.on := by
  simp only [showLed]
  cases hwarn : (s.info i).ledWarn with
  | true =>
      simp only [if_true]
      refine ⟨s.put_keeps HtspInfo.ledWarn hwarn.symm n, ?_, rfl⟩
      by_cases hn : n = i
      · rw [hn, Daemon.put_self]
        simp
      · rw [Daemon.put_of_ne s hn]
        simp [hn]
  | false =>
      simp only [Bool.false_eq_true, if_false, Bool.and_false, Bool.or_false]
      split
      · exact ⟨rfl, rfl, rfl⟩
      · exact ⟨rfl, rfl, rfl⟩

theorem showLed_setsLed (i : Int) (s : Daemon) (led : Int) :
    setsLed led (showLed i s).2 =
      if i = led then
        if (s.info i).ledWarn then [s.on] else if (s.info i).ledLastWarn then [false] else []
      else [] := by
  simp only [showLed]
  by_cases hled : i = led
  · rw [if_pos hled]
    split
    · simp [setsLed, hled]
    · split
      · simp [setsLed, hled]
      · rfl
  · rw [if_neg hled]
    split
    · simp [setsLed, hled]
    · split
      · simp [setsLed, hled]
      · rfl

theorem showBoth_info (s : Daemon) {n : Int} (hn : n ∈ disks) :
    ((showBoth s).1.info n).ledLastWarn = ((s.info n).ledLastWarn || (s.info n).ledWarn) ∧
      (showBoth s).1.on = !s.on := by
  obtain ⟨hwarn₁, -, hon₁⟩ := showLed_info 1 { s with on := !s.on } 2
  obtain ⟨-, hlast₁, -⟩ := showLed_info 1 { s with on := !s.on } n
  obtain ⟨-, hlast₂, hon₂⟩ := showLed_info 2 (showLed 1 { s with on := !s.on }).1 n
  simp only [showBoth]
  rw [hlast₂, hon₂, hlast₁, hwarn₁, hon₁]
  obtain rfl | rfl := mem_disks.mp hn
  · simp
  · simp

theorem showBoth_warn (s : Daemon) (n : Int) :
    ((showBoth s).1.info n).ledWarn = (s.info n).ledWarn :=
  (showLed_info 2 _ n).1.trans (showLed_info 1 { s with on := !s.on } n).1

theorem showBoth_setsLed (s : Daemon) {n : Int} (hn : n ∈ disks) :
    setsLed n (showBoth s).2 =
      if (s.info n).ledWarn then [!s.on] else if (s.info n).ledLastWarn then [false] else [] := by
  obtain ⟨hwarn₁, hlast₁, hon₁⟩ := showLed_info 1 { s with on := !s.on } 2
  simp only [showBoth]
  rw [setsLed_append, showLed_setsLed, showLed_setsLed, hwarn₁, hlast₁, hon₁]
  obtain rfl | rfl := mem_disks.mp hn
  · simp
  · simp

/-! ## One turn of the main loop -/

theorem turn_idle {k : Conf} {s : Daemon} {r : Readings} (h : s.calls = false) :
    (∀ n, ((turn k s r).daemon.info n).ledWarn = (s.info n).ledWarn ∧
      ((turn k s r).daemon.info n).ledLastWarn = (s.info n).ledLastWarn) ∧
    (turn k s r).daemon.on = s.on ∧ ∀ led, setsLed led (turn k s r).check = [] := by
  obtain ⟨hdaemon, hcheck⟩ := turn_of_not_calls (k := k) (r := r) h
  have hkeeps := polled_keepsWarn k s r
  rw [hdaemon, hcheck]
  exact ⟨fun n => ⟨hkeeps.warn n, hkeeps.lastWarn n⟩, hkeeps.on, fun _ => rfl⟩

/-- The flags after a turn. -/
theorem turn_flags (k : Conf) (s : Daemon) (r : Readings) (n : Int) :
    ((turn k s r).daemon.info n).ledWarn =
      if rounds k s r then
        ((entriesOf k.cl.zipIdx n).getLast?.map (bad r.usage)).getD (s.info n).ledWarn
      else (s.info n).ledWarn := by
  have hkeeps := polled_keepsWarn k s r
  cases hcalls : s.calls with
  | false =>
      rw [((turn_idle hcalls).1 n).1, rounds, hcalls]
      rfl
  | true =>
      have hwarn := (checkPartitions_checked k r.usage (polled k s r)).warn n
      rw [hkeeps.warn] at hwarn
      rw [(turn_of_calls hcalls).1, rounds, hcalls, Bool.true_and, ← hwarn]
      simp only [checkPartUsage]
      split
      · exact showSingle_warn _ n
      · exact showBoth_warn _ n

/-- The LED of the build with one. -/
theorem turn_single {k : Conf} {s : Daemon} {r : Readings} (h : s.calls = true)
    (hone : k.singleLed = true) :
    setsLed 1 (turn k s r).check =
        (if ((turn k s r).daemon.info 2).ledWarn then [true]
        else if (s.info 2).ledLastWarn then [false] else []) ∧
      ((turn k s r).daemon.info 2).ledLastWarn = (s.info 2).ledLastWarn := by
  obtain ⟨hdaemon, hcheck⟩ := turn_of_calls (k := k) (r := r) h
  have hlast := (checkPartitions_checked k r.usage (polled k s r)).lastWarn 2
  rw [(polled_keepsWarn k s r).lastWarn] at hlast
  rw [hdaemon, hcheck]
  simp only [checkPartUsage, hone, if_true]
  rw [setsLed_append, checkPartitions_setsLed, List.nil_append, showSingle_setsLed,
    showSingle_two, hlast]
  exact ⟨rfl, rfl⟩

/-- One LED of two. -/
theorem turn_both {k : Conf} {s : Daemon} {r : Readings} (h : s.calls = true)
    (htwo : k.singleLed = false) {n : Int} (hn : n ∈ disks) :
    setsLed n (turn k s r).check =
        (if ((turn k s r).daemon.info n).ledWarn then [!s.on]
        else if (s.info n).ledLastWarn then [false] else []) ∧
      ((turn k s r).daemon.info n).ledLastWarn =
        ((s.info n).ledLastWarn || ((turn k s r).daemon.info n).ledWarn) ∧
      (turn k s r).daemon.on = !s.on := by
  obtain ⟨hdaemon, hcheck⟩ := turn_of_calls (k := k) (r := r) h
  have hkeeps := polled_keepsWarn k s r
  have hchecked := checkPartitions_checked k r.usage (polled k s r)
  have hlast := hchecked.lastWarn n
  have hon := hchecked.on
  rw [hkeeps.lastWarn] at hlast
  rw [hkeeps.on] at hon
  rw [hdaemon, hcheck]
  simp only [checkPartUsage, htwo, Bool.false_eq_true, if_false]
  obtain ⟨hshown, hshownOn⟩ := showBoth_info (checkPartitions k r.usage (polled k s r)).1 hn
  rw [setsLed_append, checkPartitions_setsLed, List.nil_append, showBoth_setsLed _ hn, hshown,
    hshownOn, showBoth_warn, hlast, hon]
  exact ⟨rfl, rfl, rfl⟩

/-! ## The invariant -/

/-- The flags are the warnings; with a LED for each disk, one that warns has
`led_last_warn` set and shows `on`; with one LED, `led_last_warn` of disk 2 is never
set. -/
structure Faithful (k : Conf) (s : Warned) : Prop where
  flags : ∀ n, (s.daemon.info n).ledWarn = s.warns n
  bare : ∀ n, entriesOf k.cl.zipIdx n = [] → s.warns n = false
  both : k.singleLed = false → ∀ n ∈ disks, s.warns n = true →
    (s.daemon.info n).ledLastWarn = true ∧ s.shown n = s.daemon.on
  single : k.singleLed = true → (s.daemon.info 2).ledLastWarn = false

theorem warned0_faithful (k : Conf) : Faithful k warned0 where
  flags _ := rfl
  bare _ _ := rfl
  both _ _ _ h := by cases h
  single _ := rfl

/-- The disks of the configuration are 1 and 2. -/
theorem entriesOf_other {es : List (Clist × Nat)} {n : Int} (hn : n ∉ disks) :
    entriesOf es n = [] := by
  rw [entriesOf, List.filter_eq_nil_iff]
  intro e _ he
  have heq : e.1.n = n := of_decide_eq_true he
  have hdisk := e.1.disk
  rw [heq] at hdisk
  exact hn (mem_disks.mpr hdisk)

/-- The last partition is one of them. -/
theorem anyBad_of_lastBad {k : Conf} {usage : Nat → Int} {n : Int}
    (h : k.lastBad usage n = true) : k.anyBad usage n = true := by
  rw [Conf.lastBad] at h
  cases hlast : (entriesOf k.cl.zipIdx n).getLast? with
  | none =>
      rw [hlast] at h
      cases h
  | some e =>
      rw [hlast] at h
      exact List.any_eq_true.mpr ⟨e, List.mem_of_getLast? hlast, h⟩

/-- The flag of a disk is right after a turn exactly if its last partition decides
as all of them do. -/
theorem Faithful.flag_iff {k : Conf} {s : Warned} (h : Faithful k s) (r : Readings) (n : Int) :
    ((turn k s.daemon r).daemon.info n).ledWarn = s.next k r n ↔
      (rounds k s.daemon r = true → k.anyBad r.usage n = true → k.lastBad r.usage n = true) := by
  rw [turn_flags, Warned.next, h.flags]
  cases hrounds : rounds k s.daemon r with
  | false => simp
  | true =>
      simp only [if_true, true_implies]
      have hlastBad : ((entriesOf k.cl.zipIdx n).getLast?.map (bad r.usage)).getD (s.warns n) =
          k.lastBad r.usage n := by
        rw [Conf.lastBad]
        cases hlast : (entriesOf k.cl.zipIdx n).getLast? with
        | none => exact h.bare n (List.getLast?_eq_none_iff.mp hlast)
        | some e => rfl
      rw [hlastBad]
      constructor
      · intro heq hany
        rw [heq, hany]
      · intro himp
        cases hany : k.anyBad r.usage n with
        | true => exact himp hany
        | false =>
            rw [Bool.eq_false_iff]
            intro hlast
            rw [anyBad_of_lastBad hlast] at hany
            cases hany

/-- The handlers of the slots leave a LED alone. -/
theorem setsLed_slots_nil (k : Conf) (s : Daemon) (r : Readings) (led : Int) :
    setsLed led ((turn k s r).slot 1 ++ (turn k s r).slot 2) = [] ↔
      ∀ n ∈ disks, ledOf k.singleLed n = led → quiet (s.info n) (r.busy n) = true := by
  have hslot {n : Int} (hn : n = 1 ∨ n = 2) : setsLed led ((turn k s r).slot n) = [] ↔
      (ledOf k.singleLed n = led → quiet (s.info n) (r.busy n) = true) := by
    rw [turn_setsLed k s r hn]
    cases quiet (s.info n) (r.busy n) with
    | true => simp
    | false => simp
  rw [setsLed_append, List.append_eq_nil_iff, hslot (.inl rfl), hslot (.inr rfl)]
  simp [disks]

theorem warnsLed_single {k : Conf} (hone : k.singleLed = true) (warns : Int → Bool) (led : Int) :
    k.warnsLed warns led = (warns 1 || warns 2) := by
  rw [Conf.warnsLed, if_pos hone]

theorem warnsLed_both {k : Conf} (htwo : k.singleLed = false) (warns : Int → Bool) (led : Int) :
    k.warnsLed warns led = warns led := by
  rw [Conf.warnsLed, htwo]
  rfl

/-- With one LED, a disk that warns leaves it alone, and one that does not if it is
idle with its LED off. -/
theorem Faithful.single_activity {k : Conf} {s : Warned} (h : Faithful k s)
    (hone : k.singleLed = true) (r : Readings) :
    setsLed 1 ((turn k s.daemon r).slot 1 ++ (turn k s.daemon r).slot 2) = [] ↔
      ∀ n ∈ disks, s.warns n = false → r.busy n ≠ 1 ∧ (s.daemon.info n).ledOn = false := by
  rw [setsLed_slots_nil]
  refine forall_congr' fun n => forall_congr' fun _ => ?_
  rw [ledOf, if_pos hone, quiet, h.flags]
  cases s.warns n with
  | true => simp
  | false => simp

/-- With one LED: its state in a turn whose flags are right. -/
theorem Faithful.single_iff {k : Conf} {s : Warned} (h : Faithful k s) (hone : k.singleLed = true)
    {r : Readings} (hflag : ((turn k s.daemon r).daemon.info 2).ledWarn = s.next k r 2) :
    LedExact k s r 1 ↔ Shows k s r := by
  have hcheck (hcalls : s.daemon.calls = true) :
      setsLed 1 (turn k s.daemon r).check = if s.next k r 2 then [true] else [] := by
    rw [(turn_single hcalls hone).1, hflag, h.single hone]
    rfl
  have hled := warnsLed_single hone
  have hquiet := h.single_activity hone r
  rw [Shows, if_pos hone]
  constructor
  · rintro ⟨hdrives, hends, hactivity⟩
    refine ⟨fun hcalls => ⟨fun hwarns => ?_, fun hbefore => ?_⟩, fun hbefore => ?_⟩
    · obtain ⟨v, hv, -⟩ := hdrives hcalls (by rw [hled, hwarns, Bool.true_or])
      rw [hcheck hcalls] at hv
      cases hnext : s.next k r 2 with
      | true => rfl
      | false =>
          rw [hnext] at hv
          cases hv
    · by_contra hnot
      rw [not_or, Bool.not_eq_true, Bool.not_eq_true] at hnot
      have hoff := hends hcalls (by rw [hled, hnot.1, hnot.2, Bool.or_false])
      rw [hcheck hcalls, hnot.2, hled, (Bool.or_eq_true _ _).mpr hbefore] at hoff
      cases hoff
    · exact hquiet.mp (hactivity (by rw [hled, Bool.or_eq_true]; exact hbefore))
  · rintro ⟨hcalls, hidle⟩
    refine ⟨fun hc hwarns => ?_, fun hc hnone => ?_, fun hbefore => ?_⟩
    · have hnext : s.next k r 2 = true := by
        rw [hled, Bool.or_eq_true] at hwarns
        exact hwarns.elim (hcalls hc).1 id
      refine ⟨true, ?_, ?_⟩
      · rw [hcheck hc, hnext]
        rfl
      · rw [if_pos hone]
    · rw [hled, Bool.or_eq_false_iff] at hnone
      have hbefore : k.warnsLed s.warns 1 = false := by
        rw [hled, ← Bool.not_eq_true, Bool.or_eq_true]
        intro hbefore
        obtain hnext | hnext := (hcalls hc).2 hbefore
        · rw [hnone.1] at hnext
          cases hnext
        · rw [hnone.2] at hnext
          cases hnext
      rw [hcheck hc, hnone.2, hbefore]
      rfl
    · rw [hled, Bool.or_eq_true] at hbefore
      exact hquiet.mpr (hidle hbefore)

/-- With a LED for each disk, a disk that warns keeps its activity off its LED. -/
theorem Faithful.both_activity {k : Conf} {s : Warned} (h : Faithful k s)
    (htwo : k.singleLed = false) {n : Int} (hbefore : s.warns n = true) (r : Readings) :
    setsLed n ((turn k s.daemon r).slot 1 ++ (turn k s.daemon r).slot 2) = [] := by
  rw [setsLed_slots_nil]
  intro m _ hm
  have hmn : m = n := by
    rw [ledOf, htwo] at hm
    exact hm
  rw [hmn, quiet, h.flags, hbefore, Bool.true_or]

/-- With a LED for each disk: one of them in a turn whose flags are right. -/
theorem Faithful.both_iff {k : Conf} {s : Warned} (h : Faithful k s) (htwo : k.singleLed = false)
    {r : Readings} {n : Int} (hn : n ∈ disks)
    (hflag : ((turn k s.daemon r).daemon.info n).ledWarn = s.next k r n) :
    LedExact k s r n ↔
      (s.daemon.calls = true → s.next k r n = false → s.warns n = false →
        (s.daemon.info n).ledLastWarn = false) := by
  have hcheck (hcalls : s.daemon.calls = true) :
      setsLed n (turn k s.daemon r).check =
        if s.next k r n then [!s.daemon.on]
        else if (s.daemon.info n).ledLastWarn then [false] else [] := by
    rw [(turn_both hcalls htwo hn).1, hflag]
  have hled := warnsLed_both htwo
  constructor
  · rintro ⟨-, hends, -⟩ hcalls hnext hbefore
    have hoff := hends hcalls (by rw [hled, hnext])
    rw [hcheck hcalls, hnext, hled, hbefore] at hoff
    cases hlast : (s.daemon.info n).ledLastWarn with
    | false => rfl
    | true =>
        rw [hlast] at hoff
        cases hoff
  · intro hlast
    refine ⟨fun hcalls hnext => ?_, fun hcalls hnext => ?_, fun hbefore => ?_⟩
    · rw [hled] at hnext
      refine ⟨!s.daemon.on, ?_, ?_⟩
      · rw [hcheck hcalls, hnext]
        rfl
      · rw [htwo, hled]
        intro hbefore
        rw [(h.both htwo n hn hbefore).2]
    · rw [hled] at hnext
      rw [hcheck hcalls, hnext, hled]
      cases hbefore : s.warns n with
      | true =>
          rw [(h.both htwo n hn hbefore).1]
          rfl
      | false =>
          rw [hlast hcalls hnext hbefore]
          rfl
    · rw [hled] at hbefore
      exact h.both_activity htwo hbefore r

theorem Faithful.exact_iff {k : Conf} {s t : Warned} (h : Faithful k s) {r : Readings}
    (ht : warnedStep k s r = .ok t) :
    WarnExact k s r t ↔ LastDecides k s r ∧ Shows k s r := by
  cases ht
  have hflags : (∀ n ∈ disks, ((turn k s.daemon r).daemon.info n).ledWarn = s.next k r n) ↔
      LastDecides k s r := by
    have hiff := h.flag_iff r
    constructor
    · intro hall hrounds n hn
      exact (hiff n).mp (hall n hn) hrounds
    · intro hlast n hn
      exact (hiff n).mpr fun hrounds => hlast hrounds n hn
  rw [← hflags]
  have hleds (hall : ∀ n ∈ disks,
      ((turn k s.daemon r).daemon.info n).ledWarn = s.next k r n) :
      (∀ led ∈ k.leds, LedExact k s r led) ↔ Shows k s r := by
    cases hone : k.singleLed with
    | true =>
        rw [Conf.leds, if_pos hone, List.forall_mem_singleton]
        exact h.single_iff hone (hall 2 (by decide))
    | false =>
        have hno : ¬ k.singleLed = true := by
          rw [hone]
          decide
        rw [Conf.leds, Shows, if_neg hno, if_neg hno]
        constructor
        · intro hexact hcalls n hn
          exact (h.both_iff hone hn (hall n hn)).mp (hexact n hn) hcalls
        · intro hshows n hn
          exact (h.both_iff hone hn (hall n hn)).mpr fun hcalls => hshows hcalls n hn
  constructor
  · rintro ⟨hall, hexact⟩
    exact ⟨hall, (hleds hall).mp hexact⟩
  · rintro ⟨hall, hshows⟩
    exact ⟨hall, (hleds hall).mpr hshows⟩

theorem Faithful.step {k : Conf} {s t : Warned} (h : Faithful k s) {r : Readings}
    (hlast : LastDecides k s r) (ht : warnedStep k s r = .ok t) : Faithful k t := by
  cases ht
  have hflag (n : Int) : ((turn k s.daemon r).daemon.info n).ledWarn = s.next k r n := by
    rw [h.flag_iff]
    intro hrounds hany
    by_cases hn : n ∈ disks
    · exact hlast hrounds n hn hany
    · rw [Conf.anyBad, entriesOf_other hn] at hany
      cases hany
  refine ⟨hflag, ?_, ?_, ?_⟩
  · intro n hbare
    show s.next k r n = false
    rw [Warned.next, Conf.anyBad, hbare, h.bare n hbare]
    simp
  · intro htwo n hn hwarns
    replace hwarns : s.next k r n = true := hwarns
    cases hcalls : s.daemon.calls with
    | true =>
        obtain ⟨hcheck, hlastWarn, hon⟩ := turn_both (r := r) hcalls htwo hn
        rw [hflag, hwarns] at hcheck hlastWarn
        refine ⟨by rw [hlastWarn, Bool.or_true], ?_⟩
        show (setsLed n (turn k s.daemon r).check).getLast?.getD (s.shown n) =
          (turn k s.daemon r).daemon.on
        rw [hcheck, hon]
        rfl
    | false =>
        obtain ⟨hinfo, hon, hcheck⟩ := turn_idle (k := k) (r := r) hcalls
        have hbefore : s.warns n = true := by
          rw [Warned.next, rounds, hcalls] at hwarns
          exact hwarns
        obtain ⟨hlastWarn, hshown⟩ := h.both htwo n hn hbefore
        refine ⟨(hinfo n).2.trans hlastWarn, ?_⟩
        show (setsLed n (turn k s.daemon r).check).getLast?.getD (s.shown n) =
          (turn k s.daemon r).daemon.on
        rw [hcheck, hon, ← hshown]
        rfl
  · intro hone
    cases hcalls : s.daemon.calls with
    | true => exact (turn_single hcalls hone).2.trans (h.single hone)
    | false => exact ((turn_idle hcalls).1 2).2.trans (h.single hone)

/-! ## Whole runs -/

/-- **When the warning LEDs reflect all partitions**: in every round the last
partition of a disk decides as all of them do, and every turn shows what the
display half can show. -/
theorem warnings_shown_iff (k : Conf) (rs : List Readings) :
    WarningsShown k rs ↔
      Guarded (warnedStep k) (fun s r => LastDecides k s r ∧ Shows k s r) warned0 rs := by
  refine eachStep_iff_guarded (fun _ _ _ hs hr ht => Faithful.step hs hr.1 ht) ?_
    (warned0_faithful k)
  intro s r hs
  constructor
  · intro hexact
    exact (hs.exact_iff rfl).mp (hexact _ rfl)
  · intro hr t ht
    exact (hs.exact_iff ht).mpr hr

/-- Two partitions of disk 1, with limits of 10 and of 90 percent. -/
def twoPartitions : List Clist :=
  [⟨"/media/disk1p1".toList, 10, 1, 1, by decide, by decide, by decide, by decide⟩,
    ⟨"/media/disk1p2".toList, 90, 1, 2, by decide, by decide, by decide, by decide⟩]

/-- Disk 1 plugged, with half of each partition in use. -/
def halfInUse : Readings :=
  ⟨fun n => if n = 1 then 1 else 0, fun _ => 0, fun _ => 0, fun _ => 50⟩

/-- The second partition takes the warning of the first one back. -/
theorem second_partition_takes_warning_back :
    ¬ WarningsShown ⟨true, 1, twoPartitions⟩ (List.replicate 11 halfInUse) := by
  intro h
  have hlast := h (List.replicate 10 halfInUse) halfInUse (List.prefix_refl _) _ rfl _ rfl
  have hflag : false = true := hlast.flags 1 (by decide)
  cases hflag

end MoxaDrivers.Mxhtspd

import Mathlib.Data.List.Basic
import Mathlib.Logic.Function.Basic
import Mathlib.Tactic.Common

/-!
# The hotswap daemon

`mxhtspd` polls the two disk slots, and once a second has `check_part_usage`
look at its own counter and at the warning LEDs. Everything it reads is in
`Readings`, everything it does in `Act`.

`CONFIG_PRODUCT == V2616A` selects the build with one LED. Neither of the two
names is a macro, so that every product is built that way; the other branch of
each `#if` is here as well.
-/

namespace MoxaDrivers.Mxhtspd

def timeSleepMs : Int := 100
def timeDelayCheckUsage : Int := 10

/-! ## The configuration -/

def isSpace (c : Char) : Bool := c = ' ' || (decide (9 ≤ c.toNat) && decide (c.toNat ≤ 13))

/-- `%d`: the number and what follows it. -/
def scanInt (text : List Char) : Option (Int × List Char) :=
  let text := text.dropWhile isSpace
  let (negative, text) :=
    match text with
    | '-' :: rest => (true, rest)
    | '+' :: rest => (false, rest)
    | rest => (false, rest)
  let digits := text.takeWhile Char.isDigit
  let value : Int := digits.foldl (fun value c => value * 10 + (c.toNat - '0'.toNat : Nat)) 0
  if digits = [] then none
  else some (if negative then -value else value, text.drop digits.length)

/-- `sscanf(mpoint, "/media/disk%dp%d", &n, &m)`. -/
def scanMpoint (mpoint : List Char) : Option (Int × Int) := do
  let text ← "/media/disk".toList.isPrefixOf? mpoint
  let (n, text) ← scanInt text
  let text ← ['p'].isPrefixOf? text
  let (m, _) ← scanInt text
  return (n, m)

/-- An entry that `read_conf` accepts. -/
structure Clist where
  mpoint : List Char
  percent : Int
  n : Int
  m : Int
  scanned : scanMpoint mpoint = some (n, m)
  disk : n = 1 ∨ n = 2
  part : 0 ≤ m
  limit : 0 ≤ percent ∧ percent ≤ 100

/-- How the daemon is built, started and configured. -/
structure Conf where
  singleLed : Bool
  timeChkPart : Int
  cl : List Clist

/-! ## The state -/

/-- `htsp_info`. -/
structure HtspInfo where
  diskPlugged : Int
  btnLastPressed : Bool
  btnEventStart : Bool
  ledOn : Bool
  ledWarn : Bool
  ledLastWarn : Bool
  firstInsert : Bool
  deriving DecidableEq, Repr

/-- `info` by the number of the disk, `force_chk_part`, the static variables of
`check_part_usage` and the counter of the main loop. -/
structure Daemon where
  info : Int → HtspInfo
  forceChkPart : Bool
  cntChkPart : Int
  on : Bool
  cnt : Int

def Daemon.put (s : Daemon) (n : Int) (info : HtspInfo) : Daemon :=
  { s with info := Function.update s.info n info }

/-- The daemon at its start. -/
def daemon0 : Daemon := ⟨fun _ => ⟨0, false, false, false, false, false, false⟩, false, 0, false, 0⟩

inductive Act where
  | setLed (ledNum : Int) (on : Bool)
  | diskPlugged (n : Int)
  | diskUnplugged (n : Int)
  | btnPressed (n : Int)
  | partOverUsage (mpoint : List Char)
  deriving DecidableEq, Repr

/-- What the daemon finds in one turn of its loop, by the number of the slot and
by the place of the partition in the configuration. -/
structure Readings where
  plugged : Int → Int
  busy : Int → Int
  pressed : Int → Int
  usage : Nat → Int

/-! ## The slots -/

/-- A disk is seen to be inserted. -/
def inserted (info : HtspInfo) (ret : Int) : Bool := decide (ret = 1) && decide (info.diskPlugged = 0)

def handleDiskPlugged (n ret : Int) (s : Daemon) : Daemon × List Act :=
  let info := s.info n
  if inserted info ret then
    ({ s with forceChkPart := true }.put n { info with firstInsert := true, diskPlugged := ret },
      [.diskPlugged n])
  else if ret = 0 ∧ info.diskPlugged = 1 then
    ({ s with forceChkPart := true }.put n { info with diskPlugged := ret }, [.diskUnplugged n])
  else (s.put n { info with diskPlugged := ret }, [])

/-- The LED of a disk. -/
def ledOf (singleLed : Bool) (n : Int) : Int := if singleLed then 1 else n

def handleDiskBusy (singleLed : Bool) (n busy : Int) (s : Daemon) : Daemon × List Act :=
  let info := s.info n
  if info.ledWarn then (s, [])
  else if busy = 1 then (s.put n { info with ledOn := true }, [.setLed (ledOf singleLed n) true])
  else if info.ledOn then
    (s.put n { info with ledOn := false }, [.setLed (ledOf singleLed n) false])
  else (s, [])

def handleButtonPressed (singleLed : Bool) (n nowPress : Int) (s : Daemon) : Daemon × List Act :=
  let info := s.info n
  if nowPress < 0 then (s, [])
  else if nowPress = 1 ∧ info.btnLastPressed = false then
    (s.put n { info with btnEventStart := true, btnLastPressed := true }, [])
  else if nowPress = 0 then
    if info.btnEventStart = true ∧ info.firstInsert = false then
      (s.put n { info with btnEventStart := false, btnLastPressed := false, firstInsert := false },
        [.btnPressed (ledOf singleLed n)])
    else (s.put n { info with btnLastPressed := false, firstInsert := false }, [])
  else (s, [])

def handleSlot (singleLed : Bool) (n : Int) (r : Readings) (s : Daemon) : Daemon × List Act :=
  let (s, plugged) := handleDiskPlugged n (r.plugged n) s
  let (s, busy) := handleDiskBusy singleLed n (r.busy n) s
  let (s, pressed) := handleButtonPressed singleLed n (r.pressed n) s
  (s, plugged ++ busy ++ pressed)

/-! ## `check_part_usage` -/

/-- The partition is missing, or above its limit. -/
def bad (usage : Nat → Int) (e : Clist × Nat) : Bool :=
  decide (usage e.2 = -1) || decide (usage e.2 > e.1.percent)

/-- `led_warn` after a partition, whose mount point is scanned again for its
disk. -/
def checkEntry (usage : Nat → Int) (info : Int → HtspInfo) (e : Clist × Nat) : Int → HtspInfo :=
  let (c, k) := e
  let percent := usage k
  if percent = -1 then Function.update info c.n { info c.n with ledWarn := true }
  else if percent > c.percent then Function.update info c.n { info c.n with ledWarn := true }
  else Function.update info c.n { info c.n with ledWarn := false }

/-- The script that is run for a partition. -/
def checkEntryActs (usage : Nat → Int) (e : Clist × Nat) : List Act :=
  let (c, k) := e
  if usage k ≠ -1 ∧ usage k > c.percent then [.partOverUsage c.mpoint] else []

/-- The count with which a call finds out whether to check. -/
def Daemon.count (s : Daemon) : Int := if s.forceChkPart then timeDelayCheckUsage else s.cntChkPart

def Daemon.checks (s : Daemon) (k : Conf) : Bool := decide (s.count + 1 > k.timeChkPart)

def checkPartitions (k : Conf) (usage : Nat → Int) (s : Daemon) : Daemon × List Act :=
  if s.checks k then
    ({ s with
        forceChkPart := false
        cntChkPart := 0
        info := k.cl.zipIdx.foldl (checkEntry usage) s.info },
      k.cl.zipIdx.flatMap (checkEntryActs usage))
  else ({ s with forceChkPart := false, cntChkPart := s.count + 1 }, [])

/-- One LED: `info[1]` is that of disk 2. -/
def showSingle (s : Daemon) : Daemon × List Act :=
  if (s.info 2).ledWarn then
    ({ s with on := true }.put 1 { s.info 1 with ledOn := true, ledLastWarn := true },
      [.setLed 1 true])
  else if (s.info 2).ledLastWarn then ({ s with on := false }, [.setLed 1 false])
  else (s, [])

def showLed (i : Int) (s : Daemon) : Daemon × List Act :=
  if (s.info i).ledWarn then
    (s.put i { s.info i with ledOn := true, ledLastWarn := true }, [.setLed i s.on])
  else if (s.info i).ledLastWarn then (s, [.setLed i false])
  else (s, [])

/-- A LED for each disk, which blinks. -/
def showBoth (s : Daemon) : Daemon × List Act :=
  let s := { s with on := !s.on }
  let (s, first) := showLed 1 s
  let (s, second) := showLed 2 s
  (s, first ++ second)

def checkPartUsage (k : Conf) (usage : Nat → Int) (s : Daemon) : Daemon × List Act :=
  let (s, checked) := checkPartitions k usage s
  let (s, shown) := if k.singleLed then showSingle s else showBoth s
  (s, checked ++ shown)

/-! ## What the parts leave alone -/

/-- The values that a LED is set to. -/
def setsLed (led : Int) (acts : List Act) : List Bool :=
  acts.filterMap fun act =>
    match act with
    | .setLed n v => if n = led then some v else none
    | _ => none

theorem setsLed_append (led : Int) (acts acts' : List Act) :
    setsLed led (acts ++ acts') = setsLed led acts ++ setsLed led acts' :=
  List.filterMap_append

@[simp] theorem Daemon.put_self (s : Daemon) (n : Int) (info : HtspInfo) :
    (s.put n info).info n = info := by
  simp [Daemon.put]

theorem Daemon.put_of_ne (s : Daemon) {m n : Int} (h : m ≠ n) (info : HtspInfo) :
    (s.put n info).info m = s.info m := by
  simp [Daemon.put, h]

/-- Whatever an entry of `info` and its replacement have in common, is left
alone. -/
theorem Daemon.put_keeps {α : Type} (f : HtspInfo → α) (s : Daemon) {n : Int} {info : HtspInfo}
    (h : f info = f (s.info n)) (m : Int) : f ((s.put n info).info m) = f (s.info m) := by
  by_cases hm : m = n
  · rw [hm, Daemon.put_self, h]
  · rw [Daemon.put_of_ne s hm]

/-- The warnings and the counters are left alone. -/
structure KeepsWarn (s t : Daemon) : Prop where
  warn : ∀ n, (t.info n).ledWarn = (s.info n).ledWarn
  lastWarn : ∀ n, (t.info n).ledLastWarn = (s.info n).ledLastWarn
  on : t.on = s.on
  cnt : t.cnt = s.cnt

theorem KeepsWarn.refl (s : Daemon) : KeepsWarn s s :=
  ⟨fun _ => rfl, fun _ => rfl, rfl, rfl⟩

theorem KeepsWarn.trans {s t u : Daemon} (h : KeepsWarn s t) (h' : KeepsWarn t u) :
    KeepsWarn s u :=
  ⟨fun n => (h'.warn n).trans (h.warn n), fun n => (h'.lastWarn n).trans (h.lastWarn n),
    h'.on.trans h.on, h'.cnt.trans h.cnt⟩

theorem keepsWarn_put (s : Daemon) {n : Int} {info : HtspInfo}
    (hwarn : info.ledWarn = (s.info n).ledWarn)
    (hlast : info.ledLastWarn = (s.info n).ledLastWarn) : KeepsWarn s (s.put n info) :=
  ⟨s.put_keeps HtspInfo.ledWarn hwarn, s.put_keeps HtspInfo.ledLastWarn hlast, rfl, rfl⟩

/-- The daemon after a poll of a plug, with or without a check forced. -/
def Daemon.plug (s : Daemon) (n ret : Int) (force : Bool) : Daemon :=
  { s with forceChkPart := force }.put n { s.info n with
    diskPlugged := ret
    firstInsert := (s.info n).firstInsert || inserted (s.info n) ret }

@[simp] theorem Daemon.plug_self (s : Daemon) (n ret : Int) (force : Bool) :
    (s.plug n ret force).info n = { s.info n with
      diskPlugged := ret
      firstInsert := (s.info n).firstInsert || inserted (s.info n) ret } :=
  Daemon.put_self { s with forceChkPart := force } n _

theorem Daemon.plug_of_ne (s : Daemon) {m n : Int} (h : m ≠ n) (ret : Int) (force : Bool) :
    (s.plug n ret force).info m = s.info m :=
  Daemon.put_of_ne { s with forceChkPart := force } h _

theorem keepsWarn_plug (s : Daemon) (n ret : Int) (force : Bool) :
    KeepsWarn s (s.plug n ret force) := by
  have hforce : KeepsWarn s { s with forceChkPart := force } :=
    ⟨fun _ => rfl, fun _ => rfl, rfl, rfl⟩
  exact hforce.trans (keepsWarn_put _ rfl rfl)

/-- What a poll of a plug does. -/
theorem handleDiskPlugged_eq (n ret : Int) (s : Daemon) :
    ∃ force acts, handleDiskPlugged n ret s = (s.plug n ret force, acts) ∧
      (∀ led, setsLed led acts = []) ∧ ∀ m, Act.btnPressed m ∉ acts := by
  simp only [handleDiskPlugged, Daemon.plug]
  split
  · next hin =>
      refine ⟨true, [.diskPlugged n], ?_, fun _ => rfl, by simp⟩
      rw [hin, Bool.or_true]
  · next hin =>
      rw [Bool.not_eq_true] at hin
      rw [hin, Bool.or_false]
      split
      · exact ⟨true, [.diskUnplugged n], rfl, fun _ => rfl, by simp⟩
      · exact ⟨s.forceChkPart, [], rfl, fun _ => rfl, by simp⟩

/-- The LED of a disk that warns, or is idle with its LED off, is left alone. -/
def quiet (info : HtspInfo) (busy : Int) : Bool :=
  info.ledWarn || (decide (busy ≠ 1) && !info.ledOn)

theorem handleDiskBusy_eq (singleLed : Bool) (n busy : Int) (s : Daemon) :
    ∃ ledOn, handleDiskBusy singleLed n busy s =
      (s.put n { s.info n with ledOn := ledOn },
        if quiet (s.info n) busy then [] else [.setLed (ledOf singleLed n) (decide (busy = 1))]) := by
  have hsame : s.put n { s.info n with ledOn := (s.info n).ledOn } = s := by
    simp [Daemon.put]
  cases hwarn : (s.info n).ledWarn with
  | true =>
      refine ⟨(s.info n).ledOn, ?_⟩
      rw [hsame]
      simp [handleDiskBusy, quiet, hwarn]
  | false =>
      by_cases hbusy : busy = 1
      · refine ⟨true, ?_⟩
        simp [handleDiskBusy, quiet, hwarn, hbusy]
      · cases hon : (s.info n).ledOn with
        | true =>
            refine ⟨false, ?_⟩
            simp [handleDiskBusy, quiet, hwarn, hbusy, hon]
        | false =>
            refine ⟨(s.info n).ledOn, ?_⟩
            rw [hsame]
            simp [handleDiskBusy, quiet, hwarn, hbusy, hon]

/-- A press is taken up if the button was up. -/
theorem handleButtonPressed_keeps (singleLed : Bool) (n nowPress : Int) (s : Daemon) :
    KeepsWarn s (handleButtonPressed singleLed n nowPress s).1 ∧
      ∀ led, setsLed led (handleButtonPressed singleLed n nowPress s).2 = [] := by
  simp only [handleButtonPressed]
  split
  · exact ⟨.refl s, fun _ => rfl⟩
  · split
    · exact ⟨keepsWarn_put s rfl rfl, fun _ => rfl⟩
    · split
      · split
        · exact ⟨keepsWarn_put s rfl rfl, fun _ => rfl⟩
        · exact ⟨keepsWarn_put s rfl rfl, fun _ => rfl⟩
      · exact ⟨.refl s, fun _ => rfl⟩

/-- Both parts of what a slot's handlers do to a warning: nothing to the flags,
and to the LED what `handle_disk_busy` does. -/
theorem handleSlot_warn (singleLed : Bool) (n : Int) (r : Readings) (s : Daemon) :
    KeepsWarn s (handleSlot singleLed n r s).1 ∧
      ∀ led, setsLed led (handleSlot singleLed n r s).2 =
        if quiet (s.info n) (r.busy n) then []
        else if ledOf singleLed n = led then [decide (r.busy n = 1)] else [] := by
  obtain ⟨force, plugged, hplugged, hacts, -⟩ := handleDiskPlugged_eq n (r.plugged n) s
  generalize hs₁ : s.plug n (r.plugged n) force = s₁ at hplugged
  obtain ⟨ledOn, hbusy⟩ := handleDiskBusy_eq singleLed n (r.busy n) s₁
  have hkeeps₁ : KeepsWarn s s₁ := hs₁ ▸ keepsWarn_plug s n (r.plugged n) force
  have hquiet : quiet (s₁.info n) (r.busy n) = quiet (s.info n) (r.busy n) := by
    rw [← hs₁, Daemon.plug_self]
    rfl
  have hkeeps₂ : KeepsWarn s₁ (s₁.put n { s₁.info n with ledOn := ledOn }) :=
    keepsWarn_put s₁ rfl rfl
  have hpressed := handleButtonPressed_keeps singleLed n (r.pressed n)
    (s₁.put n { s₁.info n with ledOn := ledOn })
  simp only [handleSlot, hplugged, hbusy]
  constructor
  · exact hkeeps₁.trans (hkeeps₂.trans hpressed.1)
  · intro led
    rw [setsLed_append, setsLed_append, hacts, hpressed.2, List.nil_append, List.append_nil, hquiet]
    cases quiet (s.info n) (r.busy n) with
    | true => rfl
    | false =>
        by_cases hled : ledOf singleLed n = led
        · simp [setsLed, hled]
        · simp [setsLed, hled]

/-- A slot's handlers leave the other slot alone. -/
theorem handleSlot_other (singleLed : Bool) {m n : Int} (h : m ≠ n) (r : Readings) (s : Daemon) :
    (handleSlot singleLed n r s).1.info m = s.info m := by
  obtain ⟨force, plugged, hplugged, -, -⟩ := handleDiskPlugged_eq n (r.plugged n) s
  have hpressed (s : Daemon) :
      (handleButtonPressed singleLed n (r.pressed n) s).1.info m = s.info m := by
    simp only [handleButtonPressed]
    split
    · rfl
    · split
      · exact s.put_of_ne h _
      · split
        · split
          · exact s.put_of_ne h _
          · exact s.put_of_ne h _
        · rfl
  obtain ⟨ledOn, hbusy⟩ := handleDiskBusy_eq singleLed n (r.busy n)
    (s.plug n (r.plugged n) force)
  simp only [handleSlot, hplugged, hbusy]
  rw [hpressed, Daemon.put_of_ne _ h, Daemon.plug_of_ne _ h]

/-! ## The main loop -/

/-- A turn of the loop: the daemon after it, and what it has done for each slot
and in `check_part_usage`. -/
structure Turn where
  daemon : Daemon
  slot : Int → List Act
  check : List Act

/-- Both slots, one after the other. -/
def handleSlots (k : Conf) (r : Readings) (s : Daemon) : Daemon × List Act × List Act :=
  let (s, first) := handleSlot k.singleLed 1 r s
  let (s, second) := handleSlot k.singleLed 2 r s
  (s, first, second)

/-- The turn calls `check_part_usage`. -/
def Daemon.calls (s : Daemon) : Bool := decide ((s.cnt + 1) * timeSleepMs > 1000)

def turn (k : Conf) (s : Daemon) (r : Readings) : Turn :=
  let (s, first, second) := handleSlots k r s
  let slot := fun n => if n = 1 then first else if n = 2 then second else []
  if s.calls then
    let (s, check) := checkPartUsage k r.usage s
    ⟨{ s with cnt := 0 }, slot, check⟩
  else ⟨{ s with cnt := s.cnt + 1 }, slot, []⟩

/-- The daemon when both slots are done. -/
def polled (k : Conf) (s : Daemon) (r : Readings) : Daemon := (handleSlots k r s).1

theorem polled_keepsWarn (k : Conf) (s : Daemon) (r : Readings) : KeepsWarn s (polled k s r) :=
  (handleSlot_warn k.singleLed 1 r s).1.trans (handleSlot_warn k.singleLed 2 r _).1

theorem polled_calls (k : Conf) (s : Daemon) (r : Readings) : (polled k s r).calls = s.calls := by
  rw [Daemon.calls, Daemon.calls, (polled_keepsWarn k s r).cnt]

/-- A turn that does not call `check_part_usage`. -/
theorem turn_of_not_calls {k : Conf} {s : Daemon} {r : Readings} (h : s.calls = false) :
    (turn k s r).daemon = { polled k s r with cnt := (polled k s r).cnt + 1 } ∧
      (turn k s r).check = [] := by
  have hcalls : ¬ (handleSlots k r s).1.calls = true := by
    rw [show (handleSlots k r s).1.calls = false from (polled_calls k s r).trans h]
    decide
  simp only [turn, if_neg hcalls]
  exact ⟨rfl, trivial⟩

/-- A turn that does. -/
theorem turn_of_calls {k : Conf} {s : Daemon} {r : Readings} (h : s.calls = true) :
    (turn k s r).daemon = { (checkPartUsage k r.usage (polled k s r)).1 with cnt := 0 } ∧
      (turn k s r).check = (checkPartUsage k r.usage (polled k s r)).2 := by
  have hcalls : (handleSlots k r s).1.calls = true := (polled_calls k s r).trans h
  simp only [turn, if_pos hcalls]
  exact ⟨rfl, rfl⟩

/-- What a turn does for a slot is what the slot's handlers do. -/
theorem turn_slot (k : Conf) (s : Daemon) (r : Readings) :
    (turn k s r).slot 1 = (handleSlot k.singleLed 1 r s).2 ∧
      (turn k s r).slot 2 =
        (handleSlot k.singleLed 2 r (handleSlot k.singleLed 1 r s).1).2 := by
  simp only [turn]
  split
  · exact ⟨rfl, rfl⟩
  · exact ⟨rfl, rfl⟩

/-- The LED commands for a slot. -/
theorem turn_setsLed (k : Conf) (s : Daemon) (r : Readings) {n : Int} (hn : n = 1 ∨ n = 2)
    (led : Int) :
    setsLed led ((turn k s r).slot n) =
      if quiet (s.info n) (r.busy n) then []
      else if ledOf k.singleLed n = led then [decide (r.busy n = 1)] else [] := by
  obtain ⟨hone, htwo⟩ := turn_slot k s r
  obtain rfl | rfl := hn
  · rw [hone, (handleSlot_warn k.singleLed 1 r s).2]
  · rw [htwo, (handleSlot_warn k.singleLed 2 r _).2,
      handleSlot_other k.singleLed (show (2 : Int) ≠ 1 by decide) r s]

/-! ## What is no matter of the LEDs -/

/-- A part of `htsp_info` that has none of the flags of the LED. -/
def LedFree {α : Type} (f : HtspInfo → α) : Prop :=
  ∀ info ledOn ledWarn ledLastWarn,
    f { info with ledOn := ledOn, ledWarn := ledWarn, ledLastWarn := ledLastWarn } = f info

section LedFree

variable {α : Type} {f : HtspInfo → α}

theorem checkEntry_free (hf : LedFree f) (usage : Nat → Int) (info : Int → HtspInfo)
    (e : Clist × Nat) (n : Int) : f (checkEntry usage info e n) = f (info n) := by
  have hput (ledWarn : Bool) :
      f (Function.update info e.1.n { info e.1.n with ledWarn := ledWarn } n) = f (info n) := by
    by_cases hn : n = e.1.n
    · rw [hn, Function.update_self]
      exact hf (info e.1.n) _ ledWarn _
    · rw [Function.update_of_ne hn]
  simp only [checkEntry]
  split
  · exact hput true
  · split
    · exact hput true
    · exact hput false

theorem checkPartitions_free (hf : LedFree f) (k : Conf) (usage : Nat → Int) (s : Daemon)
    (n : Int) : f ((checkPartitions k usage s).1.info n) = f (s.info n) := by
  have hfold (es : List (Clist × Nat)) : ∀ info : Int → HtspInfo,
      f (es.foldl (checkEntry usage) info n) = f (info n) := by
    induction es with
    | nil =>
        intro info
        rfl
    | cons e es ih =>
        intro info
        rw [List.foldl_cons, ih, checkEntry_free hf]
  simp only [checkPartitions]
  split
  · exact hfold k.cl.zipIdx s.info
  · rfl

theorem showSingle_free (hf : LedFree f) (s : Daemon) (n : Int) :
    f ((showSingle s).1.info n) = f (s.info n) := by
  simp only [showSingle]
  split
  · exact Daemon.put_keeps f { s with on := true } (hf (s.info 1) true _ true) n
  · split
    · rfl
    · rfl

theorem showLed_free (hf : LedFree f) (i : Int) (s : Daemon) (n : Int) :
    f ((showLed i s).1.info n) = f (s.info n) := by
  simp only [showLed]
  split
  · exact s.put_keeps f (hf (s.info i) true _ true) n
  · split
    · rfl
    · rfl

/-- `check_part_usage` touches the flags of the LEDs only. -/
theorem checkPartUsage_free (hf : LedFree f) (k : Conf) (usage : Nat → Int) (s : Daemon)
    (n : Int) : f ((checkPartUsage k usage s).1.info n) = f (s.info n) := by
  simp only [checkPartUsage]
  split
  · rw [showSingle_free hf, checkPartitions_free hf]
  · exact (showLed_free hf 2 _ n).trans
      ((showLed_free hf 1 { (checkPartitions k usage s).1 with
        on := !(checkPartitions k usage s).1.on } n).trans (checkPartitions_free hf k usage s n))

/-- After a turn, such a part of a slot is as the slot's handlers leave it. -/
theorem turn_free (hf : LedFree f) (k : Conf) (s : Daemon) (r : Readings) (n : Int) :
    f ((turn k s r).daemon.info n) = f ((polled k s r).info n) := by
  cases hcalls : s.calls with
  | true =>
      rw [(turn_of_calls hcalls).1]
      exact checkPartUsage_free hf k r.usage (polled k s r) n
  | false => rw [(turn_of_not_calls hcalls).1]

end LedFree

end MoxaDrivers.Mxhtspd

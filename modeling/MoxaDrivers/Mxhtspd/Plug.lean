import MoxaDrivers.Lib.Edges
import MoxaDrivers.Mxhtspd.Daemon

/-!
# The plug of a slot

`handle_disk_plugged` compares what it reads with what it read at the last poll,
and keeps the -1 of a failed `ioctl` like any other value; `handle_button_pressed`
returns when it reads one. A disk that is plugged or unplugged while the `ioctl`
fails is found at the next poll next to -1, and no script is run for it.
-/

namespace MoxaDrivers.Mxhtspd

open MoxaDrivers.Edges

/-! ## What is to be reported -/

/-- What `mxhtsp_is_disk_plugged` returns: 1 plugged, 0 unplugged, -1 fail. -/
def level (ret : Int) : Option Bool :=
  if ret = 1 then some true else if ret = 0 then some false else none

/-- What the polls find in a slot. -/
def plugReadings (n : Int) (rs : List Readings) : List (Option Bool) :=
  rs.map fun r => level (r.plugged n)

/-- All that is done in a turn. -/
def Turn.acts (t : Turn) : List Act := t.slot 1 ++ t.slot 2 ++ t.check

/-- All that is done in the turns that find `rs`. -/
def actsFrom (k : Conf) : Daemon → List Readings → List Act
  | _, [] => []
  | s, r :: rs => (turn k s r).acts ++ actsFrom k (turn k s r).daemon rs

/-- The runs of `action-disk-plugged` (`true`) and `action-disk-unplugged` for a
disk. -/
def plugEvents (n : Int) (acts : List Act) : List Bool :=
  acts.filterMap fun act =>
    match act with
    | .diskPlugged m => if m = n then some true else none
    | .diskUnplugged m => if m = n then some false else none
    | _ => none

/-- **Every plug change is reported once**: the actions alternate, the first is
that of a plugged disk, and there are as many as the readings that did not fail
have changes. -/
structure PlugReported (k : Conf) (n : Int) (rs : List Readings) : Prop where
  alternate : (false :: plugEvents n (actsFrom k daemon0 rs)).IsChain (· ≠ ·)
  number : (plugEvents n (actsFrom k daemon0 rs)).length =
    (changes false (plugReadings n rs).reduceOption).length

/-! ## What the handlers do -/

theorem plugEvents_append (n : Int) (acts acts' : List Act) :
    plugEvents n (acts ++ acts') = plugEvents n acts ++ plugEvents n acts' :=
  List.filterMap_append

/-- The handlers that do not look at the plug. -/
def plugFree (act : Act) : Bool :=
  match act with
  | .diskPlugged _ | .diskUnplugged _ => false
  | _ => true

theorem plugEvents_eq_nil {acts : List Act} (h : ∀ act ∈ acts, plugFree act) (n : Int) :
    plugEvents n acts = [] := by
  rw [plugEvents, List.filterMap_eq_nil_iff]
  intro act hact
  have hfree := h act hact
  cases act with
  | diskPlugged m => cases hfree
  | diskUnplugged m => cases hfree
  | _ => rfl

theorem diskPlugged_free : LedFree HtspInfo.diskPlugged := fun _ _ _ _ => rfl

theorem edge_level_eq_nil {last ret : Int} (hin : ¬ (ret = 1 ∧ last = 0))
    (hout : ¬ (ret = 0 ∧ last = 1)) : edge (level last) (level ret) = [] := by
  unfold level
  by_cases hone : last = 1
  · have hret : ret ≠ 0 := fun h => hout ⟨h, hone⟩
    rw [if_pos hone, if_neg hret]
    split
    · rfl
    · rfl
  · rw [if_neg hone]
    by_cases hzero : last = 0
    · have hret : ret ≠ 1 := fun h => hin ⟨h, hzero⟩
      rw [if_pos hzero, if_neg hret]
      split
      · rfl
      · rfl
    · rw [if_neg hzero]
      rfl

/-- `handle_disk_plugged` reports an edge. -/
theorem handleDiskPlugged_events (m n ret : Int) (s : Daemon) :
    plugEvents n (handleDiskPlugged m ret s).2 =
      if m = n then edge (level (s.info n).diskPlugged) (level ret) else [] := by
  by_cases hm : m = n
  · subst hm
    rw [if_pos rfl]
    simp only [handleDiskPlugged]
    split
    · next hin =>
        simp only [inserted, Bool.and_eq_true, decide_eq_true_eq] at hin
        obtain ⟨hret, hlast⟩ := hin
        simp [plugEvents, hret, hlast, level, edge]
    · next hin =>
        simp only [inserted, Bool.and_eq_true, decide_eq_true_eq] at hin
        split
        · next hout =>
            obtain ⟨hret, hlast⟩ := hout
            simp [plugEvents, hret, hlast, level, edge]
        · next hout => exact (edge_level_eq_nil hin hout).symm
  · rw [if_neg hm]
    simp only [handleDiskPlugged]
    split
    · simp [plugEvents, hm]
    · split
      · simp [plugEvents, hm]
      · rfl

/-- `handle_disk_busy` and `handle_button_pressed` leave the plug alone. -/
theorem handleDiskBusy_plugFree (singleLed : Bool) (n busy : Int) (s : Daemon) :
    (∀ m, ((handleDiskBusy singleLed n busy s).1.info m).diskPlugged = (s.info m).diskPlugged) ∧
      ∀ act ∈ (handleDiskBusy singleLed n busy s).2, plugFree act := by
  obtain ⟨ledOn, hbusy⟩ := handleDiskBusy_eq singleLed n busy s
  rw [hbusy]
  refine ⟨s.put_keeps HtspInfo.diskPlugged rfl, ?_⟩
  intro act hact
  split at hact
  · cases hact
  · rw [List.mem_singleton.mp hact]
    rfl

theorem handleButtonPressed_plugFree (singleLed : Bool) (n sample : Int) (s : Daemon) :
    (∀ m, ((handleButtonPressed singleLed n sample s).1.info m).diskPlugged =
        (s.info m).diskPlugged) ∧
      ∀ act ∈ (handleButtonPressed singleLed n sample s).2, plugFree act := by
  simp only [handleButtonPressed]
  split
  · exact ⟨fun _ => rfl, by simp⟩
  · split
    · exact ⟨s.put_keeps HtspInfo.diskPlugged rfl, by simp⟩
    · split
      · split
        · exact ⟨s.put_keeps HtspInfo.diskPlugged rfl, by simp [plugFree]⟩
        · exact ⟨s.put_keeps HtspInfo.diskPlugged rfl, by simp⟩
      · exact ⟨fun _ => rfl, by simp⟩

/-- The value that `handle_disk_plugged` keeps. -/
theorem handleDiskPlugged_kept (n ret : Int) (s : Daemon) :
    ((handleDiskPlugged n ret s).1.info n).diskPlugged = ret := by
  obtain ⟨force, acts, heq, -, -⟩ := handleDiskPlugged_eq n ret s
  rw [heq, Daemon.plug_self]

/-- All handlers of a slot. -/
theorem handleSlot_plug (singleLed : Bool) (m n : Int) (r : Readings) (s : Daemon) :
    ((handleSlot singleLed m r s).1.info m).diskPlugged = r.plugged m ∧
      plugEvents n (handleSlot singleLed m r s).2 =
        if m = n then edge (level (s.info n).diskPlugged) (level (r.plugged m)) else [] := by
  obtain ⟨hkeeps, hfree⟩ := handleDiskBusy_plugFree singleLed m (r.busy m)
    (handleDiskPlugged m (r.plugged m) s).1
  obtain ⟨hkeeps', hfree'⟩ := handleButtonPressed_plugFree singleLed m (r.pressed m)
    (handleDiskBusy singleLed m (r.busy m) (handleDiskPlugged m (r.plugged m) s).1).1
  simp only [handleSlot]
  constructor
  · rw [hkeeps', hkeeps, handleDiskPlugged_kept]
  · rw [plugEvents_append, plugEvents_append, plugEvents_eq_nil hfree, plugEvents_eq_nil hfree',
      List.append_nil, List.append_nil, handleDiskPlugged_events]

theorem showLed_plugFree (i : Int) (s : Daemon) : ∀ act ∈ (showLed i s).2, plugFree act := by
  simp only [showLed]
  split
  · simp [plugFree]
  · split
    · simp [plugFree]
    · simp

theorem checkPartUsage_plugFree (k : Conf) (usage : Nat → Int) (s : Daemon) :
    ∀ act ∈ (checkPartUsage k usage s).2, plugFree act := by
  have hparts : ∀ act ∈ (checkPartitions k usage s).2, plugFree act := by
    intro act hact
    simp only [checkPartitions] at hact
    split at hact
    · obtain ⟨e, -, he⟩ := List.mem_flatMap.mp hact
      simp only [checkEntryActs] at he
      split at he
      · rw [List.mem_singleton.mp he]
        rfl
      · cases he
    · cases hact
  intro act hact
  rw [checkPartUsage, List.mem_append] at hact
  obtain hact | hact := hact
  · exact hparts act hact
  · split at hact
    · simp only [showSingle] at hact
      split at hact
      · rw [List.mem_singleton.mp hact]
        rfl
      · split at hact
        · rw [List.mem_singleton.mp hact]
          rfl
        · cases hact
    · rw [showBoth, List.mem_append] at hact
      obtain hact | hact := hact
      · exact showLed_plugFree 1 _ act hact
      · exact showLed_plugFree 2 _ act hact

/-- **A turn of the main loop**: the value it keeps for a slot, and the edge that
it reports. -/
theorem turn_plug (k : Conf) (s : Daemon) (r : Readings) {n : Int} (hn : n = 1 ∨ n = 2) :
    ((turn k s r).daemon.info n).diskPlugged = r.plugged n ∧
      plugEvents n (turn k s r).acts = edge (level (s.info n).diskPlugged) (level (r.plugged n)) := by
  have hne : (1 : Int) ≠ 2 := by decide
  obtain ⟨hslot₁, hslot₂⟩ := turn_slot k s r
  have hcheck : plugEvents n (turn k s r).check = [] := by
    cases hcalls : s.calls with
    | true =>
        rw [(turn_of_calls hcalls).2]
        exact plugEvents_eq_nil (checkPartUsage_plugFree k r.usage _) n
    | false =>
        rw [(turn_of_not_calls hcalls).2]
        rfl
  have hother := handleSlot_other k.singleLed hne.symm r s
  obtain ⟨hkept₁, hone⟩ := handleSlot_plug k.singleLed 1 n r s
  obtain ⟨hkept₂, htwo⟩ := handleSlot_plug k.singleLed 2 n r (handleSlot k.singleLed 1 r s).1
  rw [turn_free diskPlugged_free, Turn.acts, plugEvents_append, plugEvents_append, hcheck,
    hslot₁, hslot₂, hone, htwo, List.append_nil]
  obtain rfl | rfl := hn
  · refine ⟨?_, by rw [if_pos rfl, if_neg hne.symm, List.append_nil]⟩
    have hinfo : (polled k s r).info 1 = (handleSlot k.singleLed 1 r s).1.info 1 :=
      handleSlot_other k.singleLed hne r _
    rw [hinfo, hkept₁]
  · exact ⟨hkept₂, by rw [if_neg hne, if_pos rfl, List.nil_append, hother]⟩

/-! ## The runs -/

/-- **The daemon is a detector of edges.** -/
theorem actsFrom_plugEvents (k : Conf) {n : Int} (hn : n = 1 ∨ n = 2) (rs : List Readings) :
    ∀ s : Daemon, plugEvents n (actsFrom k s rs) =
      edges (level (s.info n).diskPlugged) (plugReadings n rs) := by
  induction rs with
  | nil => exact fun _ => rfl
  | cons r rs ih =>
      intro s
      obtain ⟨hkept, hevents⟩ := turn_plug k s r hn
      rw [actsFrom, plugEvents_append, hevents, ih, hkept]
      rfl

/-- **When every plug change is reported once.** -/
theorem plug_reported_iff (k : Conf) {n : Int} (hn : n = 1 ∨ n = 2) (rs : List Readings) :
    PlugReported k n rs ↔ Settled false (plugReadings n rs) := by
  have hevents := actsFrom_plugEvents k hn rs daemon0
  rw [show level (daemon0.info n).diskPlugged = some false from rfl] at hevents
  have hnumber := length_edges_iff (.inr rfl : some false = none ∨ some false = some false)
    (plugReadings n rs)
  rw [← hevents, settled_cons_some] at hnumber
  constructor
  · rintro ⟨-, h⟩
    exact hnumber.mp h
  · intro h
    refine ⟨?_, hnumber.mpr h⟩
    have hlost := (lost_eq_zero_iff (.inr rfl) (plugReadings n rs)).mpr
      ((settled_cons_some false false _).mpr h)
    rw [hevents, edges_eq_changes (.inr rfl) hlost]
    exact isChain_cons_changes false _

/-- What a turn finds with slot 2 empty. -/
def onePlug (ret : Int) : Readings :=
  ⟨fun n => if n = 1 then ret else 0, fun _ => 0, fun _ => 0, fun _ => 0⟩

/-- An error in between, with the disk plugged before and after it. -/
theorem plug_reported_once :
    PlugReported ⟨true, 60, []⟩ 1 [onePlug 1, onePlug (-1), onePlug 1, onePlug 0] := by
  refine (plug_reported_iff _ (.inl rfl) _).mpr ?_
  have hlost : lost false (some false) [some true, none, some true, some false] = 0 := rfl
  exact (settled_cons_some false false _).mp ((lost_eq_zero_iff (.inr rfl) _).mp hlost)

/-- A disk is plugged while the `ioctl` fails, and no script is run. -/
theorem error_hides_plug :
    ¬ PlugReported ⟨true, 60, []⟩ 1 [onePlug 0, onePlug (-1), onePlug 1] := by
  intro h
  have hnumber : 0 = 1 := h.number
  cases hnumber

end MoxaDrivers.Mxhtspd

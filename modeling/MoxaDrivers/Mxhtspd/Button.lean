import MoxaDrivers.Lib.Machine
import MoxaDrivers.Mxhtspd.Daemon

/-!
# The button of a slot

`handle_button_pressed` runs its script when the button is found released with
`btn_event_start` set and `first_insert` clear. An insertion sets
`first_insert`, which the next release clears; `btn_event_start` stays set if the
script was not run then, so that the script is run at the next poll instead,
with no press at all.
-/

namespace MoxaDrivers.Mxhtspd

open MoxaDrivers.Machine

/-! ## What the button is to do -/

/-- The button of a slot, up or pressed, and in the latter case whether a disk has
been inserted since the press. -/
inductive Press where
  | up
  | down (overlapped : Bool)
  deriving DecidableEq, Repr

/-- The button after a poll. -/
def Press.next (p : Press) (ins : Bool) (sample : Int) : Press :=
  if sample = 1 then
    match p with
    | .up => .down ins
    | .down overlapped => .down (overlapped || ins)
  else if sample = 0 then .up
  else
    match p with
    | .up => .up
    | .down overlapped => .down (overlapped || ins)

/-- The poll ends a press in which no disk was inserted. -/
def Press.ends (p : Press) (ins : Bool) (sample : Int) : Bool :=
  match p with
  | .up => false
  | .down overlapped => decide (sample = 0) && !(overlapped || ins)

/-- The daemon and the buttons. -/
structure Pressing where
  daemon : Daemon
  press : Int → Press

def pressing0 : Pressing := ⟨daemon0, fun _ => .up⟩

/-- A turn of the main loop detects an insertion in the slot. -/
def insertion (s : Daemon) (r : Readings) (n : Int) : Bool := inserted (s.info n) (r.plugged n)

def pressingStep (k : Conf) (s : Pressing) (r : Readings) : Except Empty Pressing :=
  .ok ⟨(turn k s.daemon r).daemon,
    fun n => (s.press n).next (insertion s.daemon r n) (r.pressed n)⟩

/-- The runs of `action-btn-pressed`, by its parameter. -/
def presses (acts : List Act) : List Int :=
  acts.filterMap fun act =>
    match act with
    | .btnPressed n => some n
    | _ => none

/-- A turn runs the action of a slot at the end of a press, once, and otherwise
not at all. -/
structure ActionExact (k : Conf) (s : Pressing) (r : Readings) : Prop where
  slot : ∀ n, n = 1 ∨ n = 2 → (presses ((turn k s.daemon r).slot n)).length =
    if (s.press n).ends (insertion s.daemon r n) (r.pressed n) then 1 else 0
  check : presses (turn k s.daemon r).check = []

/-- **The action is run once for each press.** -/
def ActionOnce (k : Conf) (rs : List Readings) : Prop :=
  EachStep (pressingStep k) (fun s r _ => ActionExact k s r) pressing0 rs

/-- The latches suit the release of a button: if it was up, `btn_event_start` is
clear or a disk has been inserted since the last release; if it was pressed, a disk
inserted since the last release was so in the press. -/
def Press.Suits (p : Press) (btnEventStart firstInsert ins : Bool) : Prop :=
  match p with
  | .up => btnEventStart = true → (firstInsert || ins) = true
  | .down overlapped => firstInsert = true → (overlapped || ins) = true

/-- Every poll that finds a button released finds latches that suit it. -/
def Timely (s : Pressing) (r : Readings) : Prop :=
  ∀ n, n = 1 ∨ n = 2 → r.pressed n = 0 →
    (s.press n).Suits (s.daemon.info n).btnEventStart (s.daemon.info n).firstInsert
      (insertion s.daemon r n)

/-! ## What the handlers do -/

/-- The latches of a button. -/
structure Button where
  last : Bool
  start : Bool
  insert : Bool
  deriving DecidableEq, Repr

def HtspInfo.button (info : HtspInfo) : Button :=
  ⟨info.btnLastPressed, info.btnEventStart, info.firstInsert⟩

/-- An insertion is noted. -/
def Button.note (b : Button) (ins : Bool) : Button := { b with insert := b.insert || ins }

def Button.fires (b : Button) (sample : Int) : Bool :=
  decide (sample = 0) && (b.start && !b.insert)

def Button.next (b : Button) (sample : Int) : Button :=
  if sample = 1 then ⟨true, b.start || !b.last, b.insert⟩
  else if sample = 0 then ⟨false, b.start && b.insert, false⟩
  else b

theorem presses_append (acts acts' : List Act) :
    presses (acts ++ acts') = presses acts ++ presses acts' :=
  List.filterMap_append

theorem presses_eq_nil {acts : List Act} (h : ∀ m, Act.btnPressed m ∉ acts) : presses acts = [] := by
  rw [presses, List.filterMap_eq_nil_iff]
  intro act hact
  cases act with
  | btnPressed m => exact absurd hact (h m)
  | _ => rfl

theorem button_free : LedFree HtspInfo.button := fun _ _ _ _ => rfl

/-- `handle_button_pressed` as a function of the latches. -/
theorem handleButtonPressed_button (singleLed : Bool) (n sample : Int) (s : Daemon) :
    ((handleButtonPressed singleLed n sample s).1.info n).button = (s.info n).button.next sample ∧
      presses (handleButtonPressed singleLed n sample s).2 =
        if (s.info n).button.fires sample then [ledOf singleLed n] else [] := by
  generalize hinfo : s.info n = info
  obtain ⟨plugged, last, start, on, warn, lastWarn, insert⟩ := info
  by_cases hneg : sample < 0
  · have hone : ¬ sample = 1 := by omega
    have hzero : ¬ sample = 0 := by omega
    simp [handleButtonPressed, hinfo, hneg, hone, hzero, Button.next, Button.fires, presses]
  · by_cases hone : sample = 1
    · subst hone
      cases last with
      | true => simp [handleButtonPressed, hinfo, Button.next, Button.fires, presses, HtspInfo.button]
      | false => simp [handleButtonPressed, hinfo, Button.next, Button.fires, presses, HtspInfo.button]
    · by_cases hzero : sample = 0
      · subst hzero
        cases start with
        | false => simp [handleButtonPressed, hinfo, Button.next, Button.fires, presses, HtspInfo.button]
        | true =>
            cases insert with
            | true =>
                simp [handleButtonPressed, hinfo, Button.next, Button.fires, presses, HtspInfo.button]
            | false =>
                simp [handleButtonPressed, hinfo, Button.next, Button.fires, presses, HtspInfo.button]
      · simp [handleButtonPressed, hinfo, hneg, hone, hzero, Button.next, Button.fires, presses]

/-- All handlers of a slot. -/
theorem handleSlot_button (singleLed : Bool) (n : Int) (r : Readings) (s : Daemon) :
    ((handleSlot singleLed n r s).1.info n).button =
        ((s.info n).button.note (insertion s r n)).next (r.pressed n) ∧
      presses (handleSlot singleLed n r s).2 =
        if ((s.info n).button.note (insertion s r n)).fires (r.pressed n) then [ledOf singleLed n]
        else [] := by
  obtain ⟨force, plugged, hplugged, -, hno⟩ := handleDiskPlugged_eq n (r.plugged n) s
  generalize hs₁ : s.plug n (r.plugged n) force = s₁ at hplugged
  obtain ⟨ledOn, hbusy⟩ := handleDiskBusy_eq singleLed n (r.busy n) s₁
  have hbutton : ((s₁.put n { s₁.info n with ledOn := ledOn }).info n).button =
      (s.info n).button.note (insertion s r n) := by
    rw [Daemon.put_self, ← hs₁, Daemon.plug_self]
    rfl
  have hled : presses (if quiet (s₁.info n) (r.busy n) then []
      else [.setLed (ledOf singleLed n) (decide (r.busy n = 1))]) = [] := by
    split
    · rfl
    · rfl
  obtain ⟨hnext, hpresses⟩ := handleButtonPressed_button singleLed n (r.pressed n)
    (s₁.put n { s₁.info n with ledOn := ledOn })
  rw [hbutton] at hnext hpresses
  simp only [handleSlot, hplugged, hbusy]
  rw [presses_append, presses_append, presses_eq_nil hno, hled, hpresses]
  exact ⟨hnext, rfl⟩

/-- A slot in a turn of the main loop. -/
theorem turn_button (k : Conf) (s : Daemon) (r : Readings) {n : Int} (hn : n = 1 ∨ n = 2) :
    ((turn k s r).daemon.info n).button =
        ((s.info n).button.note (insertion s r n)).next (r.pressed n) ∧
      presses ((turn k s r).slot n) =
        if ((s.info n).button.note (insertion s r n)).fires (r.pressed n) then [ledOf k.singleLed n]
        else [] := by
  have hne : (1 : Int) ≠ 2 := by decide
  obtain ⟨hslot₁, hslot₂⟩ := turn_slot k s r
  rw [turn_free button_free]
  obtain rfl | rfl := hn
  · have hinfo : (polled k s r).info 1 = (handleSlot k.singleLed 1 r s).1.info 1 :=
      handleSlot_other k.singleLed hne r _
    rw [hinfo, hslot₁]
    exact handleSlot_button k.singleLed 1 r s
  · have hinfo := handleSlot_other k.singleLed hne.symm r s
    have hbutton := handleSlot_button k.singleLed 2 r (handleSlot k.singleLed 1 r s).1
    rw [insertion, hinfo] at hbutton
    rw [hslot₂]
    exact hbutton

theorem showLed_presses (i : Int) (s : Daemon) : presses (showLed i s).2 = [] := by
  simp only [showLed]
  split
  · rfl
  · split
    · rfl
    · rfl

theorem checkPartUsage_presses (k : Conf) (usage : Nat → Int) (s : Daemon) :
    presses (checkPartUsage k usage s).2 = [] := by
  have hparts : presses (checkPartitions k usage s).2 = [] := by
    apply presses_eq_nil
    intro m hm
    simp only [checkPartitions] at hm
    split at hm
    · obtain ⟨e, -, he⟩ := List.mem_flatMap.mp hm
      simp only [checkEntryActs] at he
      split at he
      · simp at he
      · simp at he
    · simp at hm
  simp only [checkPartUsage]
  split
  · rw [presses_append, hparts, List.nil_append]
    simp only [showSingle]
    split
    · rfl
    · split
      · rfl
      · rfl
  · rw [presses_append, hparts, List.nil_append]
    simp only [showBoth]
    rw [presses_append, showLed_presses, showLed_presses, List.nil_append]

/-! ## The invariant -/

/-- The latches of a button that is up or pressed. -/
def Latched (b : Button) : Press → Prop
  | .up => b.last = false
  | .down overlapped => b.last = true ∧ b.start = true ∧ (overlapped = true → b.insert = true)

/-- What one poll makes of them, whatever the samples. -/
theorem Latched.next {b : Button} {p : Press} (h : Latched b p) (ins : Bool) (sample : Int) :
    Latched ((b.note ins).next sample) (p.next ins sample) := by
  by_cases hone : sample = 1
  · cases p with
    | up =>
        have hlast : b.last = false := h
        simp only [Button.next, Press.next, Button.note, if_pos hone, Latched, hlast]
        refine ⟨trivial, by simp, fun hins => by rw [hins, Bool.or_true]⟩
    | down overlapped =>
        obtain ⟨-, hstart, hins⟩ := h
        simp only [Button.next, Press.next, Button.note, if_pos hone, Latched, hstart]
        refine ⟨trivial, rfl, fun hor => ?_⟩
        rw [Bool.or_eq_true] at hor ⊢
        exact hor.imp_left hins
  · by_cases hzero : sample = 0
    · simp only [Button.next, Press.next, if_neg hone, if_pos hzero, Latched]
    · simp only [Button.next, Press.next, if_neg hone, if_neg hzero]
      cases p with
      | up => exact h
      | down overlapped =>
          obtain ⟨hlast, hstart, hins⟩ := h
          refine ⟨hlast, hstart, fun hor => ?_⟩
          rw [Button.note, Bool.or_eq_true]
          rw [Bool.or_eq_true] at hor
          exact hor.imp_left hins

/-- The script is run as it is to be, exactly if the latches say so. -/
theorem Latched.fires_iff {b : Button} {p : Press} (h : Latched b p) (ins : Bool) (sample : Int) :
    (b.note ins).fires sample = p.ends ins sample ↔
      (sample = 0 → p.Suits b.start b.insert ins) := by
  by_cases hzero : sample = 0
  · cases p with
    | up =>
        simp only [Button.fires, Press.ends, Press.Suits, Button.note, hzero, decide_true,
          Bool.true_and, true_implies]
        cases b.start with
        | false => simp
        | true => cases b.insert <;> simp
    | down overlapped =>
        obtain ⟨-, hstart, hins⟩ := h
        simp only [Button.fires, Press.ends, Press.Suits, Button.note, hzero, decide_true,
          Bool.true_and, hstart, true_implies]
        cases hinsert : b.insert with
        | true => cases overlapped <;> cases ins <;> decide
        | false =>
            have hno : overlapped = false := by
              cases overlapped with
              | false => rfl
              | true => exact absurd (hins rfl) (by rw [hinsert]; decide)
            simp [hno]
  · have hfires : (b.note ins).fires sample = false := by simp [Button.fires, hzero]
    have hends : p.ends ins sample = false := by
      cases p with
      | up => rfl
      | down overlapped => simp [Press.ends, hzero]
    rw [hfires, hends]
    simp [hzero]

/-- Both buttons. -/
def BothLatched (s : Pressing) : Prop :=
  ∀ n, n = 1 ∨ n = 2 → Latched (s.daemon.info n).button (s.press n)

theorem BothLatched.step {k : Conf} {s t : Pressing} (h : BothLatched s) {r : Readings}
    (ht : pressingStep k s r = .ok t) : BothLatched t := by
  cases ht
  intro n hn
  rw [(turn_button k s.daemon r hn).1]
  exact (h n hn).next _ _

theorem BothLatched.exact_iff {k : Conf} {s : Pressing} (h : BothLatched s) (r : Readings) :
    ActionExact k s r ↔ Timely s r := by
  have hslot (n : Int) (hn : n = 1 ∨ n = 2) :
      (presses ((turn k s.daemon r).slot n)).length =
          (if (s.press n).ends (insertion s.daemon r n) (r.pressed n) then 1 else 0) ↔
        ((s.daemon.info n).button.note (insertion s.daemon r n)).fires (r.pressed n) =
          (s.press n).ends (insertion s.daemon r n) (r.pressed n) := by
    rw [(turn_button k s.daemon r hn).2]
    cases ((s.daemon.info n).button.note (insertion s.daemon r n)).fires (r.pressed n) with
    | true => cases (s.press n).ends (insertion s.daemon r n) (r.pressed n) <;> simp
    | false => cases (s.press n).ends (insertion s.daemon r n) (r.pressed n) <;> simp
  have hcheck : presses (turn k s.daemon r).check = [] := by
    cases hcalls : s.daemon.calls with
    | true =>
        rw [(turn_of_calls hcalls).2]
        exact checkPartUsage_presses k r.usage _
    | false =>
        rw [(turn_of_not_calls hcalls).2]
        rfl
  constructor
  · rintro ⟨hexact, -⟩ n hn
    exact ((h n hn).fires_iff _ _).mp ((hslot n hn).mp (hexact n hn))
  · intro htimely
    refine ⟨fun n hn => (hslot n hn).mpr (((h n hn).fires_iff _ _).mpr (htimely n hn)), hcheck⟩

/-- **When the action is run once for each press.** -/
theorem action_once_iff (k : Conf) (rs : List Readings) :
    ActionOnce k rs ↔ Guarded (pressingStep k) Timely pressing0 rs := by
  refine eachStep_iff_guarded (fun _ _ _ hs _ ht => BothLatched.step hs ht) ?_ (fun _ _ => rfl)
  intro s r hs
  constructor
  · intro hexact
    exact (hs.exact_iff r).mp (hexact _ rfl)
  · intro htimely t _
    exact (hs.exact_iff r).mpr htimely

/-- What a turn finds in the slot of disk 1, with slot 2 empty. -/
def slotOne (plugged pressed : Int) : Readings :=
  ⟨fun n => if n = 1 then plugged else 0, fun _ => 0, fun n => if n = 1 then pressed else 0,
    fun _ => 0⟩

/-- A disk is inserted while the button is pressed. The press is ignored, and the
script is run at the poll after its end. -/
theorem insertion_delays_action :
    ¬ ActionOnce ⟨true, 60, []⟩ [slotOne 0 1, slotOne 1 1, slotOne 1 0, slotOne 1 0] := by
  intro h
  have hlast := h [slotOne 0 1, slotOne 1 1, slotOne 1 0] (slotOne 1 0) (List.prefix_refl _) _ rfl
    _ rfl
  have hslot : 1 = 0 := hlast.slot 1 (.inl rfl)
  cases hslot

end MoxaDrivers.Mxhtspd

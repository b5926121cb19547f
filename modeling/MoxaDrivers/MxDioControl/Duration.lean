import MoxaDrivers.Lib.History
import MoxaDrivers.MxDioControl.Din
import Mathlib.Tactic.Positivity

/-!
# Callbacks after a duration

For a port with a duration, `din_poll` notes the time of a change that the mode
asks for, and calls back once the state has been the same for so long, give or
take `DIN_INACCURACY`. It adds up the time in an `unsigned long`: if there is no
reading between the end of the duration and the point where the sum wraps, the
duration seems to begin again.
-/

namespace MoxaDrivers.MxDioControl

open MoxaDrivers.History

variable {F : Type}

/-! ## What is to happen -/

/-- A reading that does not fail. -/
structure Sample where
  state : DioState
  now : Timeval
  deriving DecidableEq, Repr

/-- The samples of a port in a run, each with whether the callback is called. -/
def samples (u : Ulong) (i : Fin maxDinPort) : Din F → List (Act F) → List (Sample × Bool)
  | _, [] => []
  | s, .set a :: as => samples u i (setDinEvent u s a).1 as
  | s, .poll r :: as =>
      let rest := samples u i (dinPoll u s r).1 as
      match (r i).state with
      | none => rest
      | some state =>
          if (s.port i).active then (⟨state, (r i).now⟩, decide (i ∈ (dinPoll u s r).2)) :: rest
          else rest

/-- The state before the next sample: that of the last one, or of the
registration. -/
def lastState (registered : DioState) (before : List Sample) : DioState :=
  (before.getLast?.map Sample.state).getD registered

/-- A sample shows a change that the mode asks for. -/
def Asked (mode : Int) (registered : DioState) (before : List Sample) (x : Sample) : Prop :=
  lastState registered before ≠ x.state ∧ asks mode x.state = true

/-- The state has been the same for the duration. -/
def LongEnough (duration : Nat) (x₀ x : Sample) : Prop :=
  (duration : Int) ≤ x.now.micros - x₀.now.micros + dinInaccuracy

instance decidableLongEnough (duration : Nat) (x₀ x : Sample) :
    Decidable (LongEnough duration x₀ x) :=
  inferInstanceAs (Decidable ((duration : Int) ≤ x.now.micros - x₀.now.micros + dinInaccuracy))

/-- A change that the mode asks for, the same state since, and no callback. -/
def Awaits (mode : Int) (registered : DioState) :
    List (Sample × Bool) → Sample × Bool → Prop :=
  Since (fun before x => Asked mode registered (before.map Prod.fst) x.1)
    (fun x₀ y => y.1.state = x₀.1.state ∧ y.2 = false)

/-- A change that the mode asks for, and the same state since, not yet for the
duration. -/
def Waits (mode : Int) (duration : Nat) (registered : DioState) :
    List Sample → Sample → Prop :=
  Since (Asked mode registered) fun x₀ y => y.state = x₀.state ∧ ¬ LongEnough duration x₀ y

/-- **The callback is called exactly when the state has been held.** -/
def FiresWhenHeld (mode : Int) (duration : Nat) (registered : DioState) :
    List (Sample × Bool) → Prop :=
  AtEach fun before x => x.2 = true ↔
    ∃ x₀, Awaits mode registered before x₀ ∧ x.1.state = x₀.1.state ∧ LongEnough duration x₀.1 x.1

/-- The first sample at which the state has been held for the duration comes before
the sum of the time and `DIN_INACCURACY` wraps, or so late that the rest of it is
the duration again. -/
def InTime (u : Ulong) (mode : Int) (duration : Nat) (registered : DioState) :
    List Sample → Prop :=
  AtEach fun before x => ∀ x₀,
    Waits mode duration registered before x₀ → x.state = x₀.state →
      LongEnough duration x₀ x →
      (duration : Int) ≤ (x.now.micros - x₀.now.micros + dinInaccuracy) % 2 ^ u.bits

/-! ## The port alone -/

def sampleNext (u : Ulong) (p : DinPort F) (x : Sample) : DinPort F :=
  (dinSample u p x.state x.now).1

/-- The samples of a port that has a callback. -/
def portSamples (u : Ulong) : DinPort F → List Sample → List (Sample × Bool)
  | _, [] => []
  | p, x :: xs => (x, (dinSample u p x.state x.now).2) :: portSamples u (sampleNext u p x) xs

theorem portSamples_concat (u : Ulong) (xs : List Sample) (x : Sample) : ∀ p : DinPort F,
    portSamples u p (xs ++ [x]) = portSamples u p xs ++
      [(x, (dinSample u (xs.foldl (sampleNext u) p) x.state x.now).2)] := by
  induction xs with
  | nil => exact fun _ => rfl
  | cons y xs ih =>
      intro p
      rw [List.cons_append, portSamples, ih]
      rfl

theorem portSamples_map_fst (u : Ulong) (xs : List Sample) : ∀ p : DinPort F,
    (portSamples u p xs).map Prod.fst = xs := by
  induction xs with
  | nil => exact fun _ => rfl
  | cons x xs ih =>
      intro p
      rw [portSamples, List.map_cons, ih]

@[simp] theorem lastState_concat (registered : DioState) (before : List Sample) (x : Sample) :
    lastState registered (before ++ [x]) = x.state := by
  simp [lastState]

/-- The time as the `unsigned long` has it. -/
theorem dinDuration_add (u : Ulong) (start tv : Timeval) :
    (((dinDuration u start tv + dinInaccuracy) % 2 ^ u.bits : Nat) : Int) =
      (tv.micros - start.micros + dinInaccuracy) % 2 ^ u.bits := by
  have hpos : (2 : Int) ^ u.bits ≠ 0 := by positivity
  have hmicros : 1000000 * (tv.sec - start.sec) + (tv.usec - start.usec) =
      tv.micros - start.micros := by
    simp only [Timeval.micros]
    omega
  rw [dinDuration, hmicros, Int.natCast_mod, Nat.cast_add, Int.toNat_of_nonneg (Int.emod_nonneg _ hpos),
    Nat.cast_pow, Nat.cast_ofNat, Int.emod_add_emod]

/-- What wraps is not more than the time itself. -/
theorem emod_le_of_nonneg {n m : Int} (hn : 0 ≤ n) (hm : 0 ≤ m) : n % m ≤ n := by
  have hprod := Int.mul_nonneg hm (Int.ediv_nonneg hn hm)
  rw [Int.emod_def]
  omega

/-! ## The check and the history -/

section Port

variable {u : Ulong} {p₀ : DinPort F} {registered : DioState}

/-- **What the entries of a port say of its samples**: the last state, whether the
callback is waited for, and since when. -/
structure Tracks (registered : DioState) (p₀ p : DinPort F) (h : List (Sample × Bool)) : Prop where
  event : p.event = { p₀.event with oldstate := lastState registered (h.map Prod.fst) }
  awaited : p.bStartDurationCheck = true → ∃ x₀, Awaits p₀.event.mode registered h x₀
  start : ∀ x₀, Awaits p₀.event.mode registered h x₀ →
    p.bStartDurationCheck = true ∧ p.dinStarttime = x₀.1.now ∧ p.event.oldstate = x₀.1.state

theorem Tracks.mode {p : DinPort F} {h : List (Sample × Bool)} (htracks : Tracks registered p₀ p h) :
    p.event.mode = p₀.event.mode := by
  rw [htracks.event]

theorem Tracks.duration {p : DinPort F} {h : List (Sample × Bool)}
    (htracks : Tracks registered p₀ p h) : p.event.duration = p₀.event.duration := by
  rw [htracks.event]

theorem Tracks.oldstate {p : DinPort F} {h : List (Sample × Bool)}
    (htracks : Tracks registered p₀ p h) :
    p.event.oldstate = lastState registered (h.map Prod.fst) := by
  rw [htracks.event]

/-- The callback is called for what is awaited, by the time as it wraps. -/
theorem Tracks.called_iff {p : DinPort F} {h : List (Sample × Bool)}
    (htracks : Tracks registered p₀ p h) (hmode : EventMode p₀.event.mode)
    (hduration : p₀.event.duration ≠ 0) (x : Sample) :
    (dinSample u p x.state x.now).2 = true ↔
      ∃ x₀, Awaits p₀.event.mode registered h x₀ ∧ x.state = x₀.1.state ∧
        (p₀.event.duration : Int) ≤
          (x.now.micros - x₀.1.now.micros + dinInaccuracy) % 2 ^ u.bits := by
  have hpmode : EventMode p.event.mode := htracks.mode.symm ▸ hmode
  have hpduration : p.event.duration ≠ 0 := htracks.duration.symm ▸ hduration
  by_cases hstate : x.state = p.event.oldstate
  · have hcalled : (dinSample u p x.state x.now).2 = true ↔ p.bStartDurationCheck = true ∧
        (p₀.event.duration : Int) ≤
          (x.now.micros - p.dinStarttime.micros + dinInaccuracy) % 2 ^ u.bits := by
      rw [dinSample_same hpduration hstate, ← dinDuration_add, ← htracks.duration, Nat.cast_le]
      split
      · next h => simp [h]
      · next h => simp [h]
    rw [hcalled]
    constructor
    · rintro ⟨hrun, htime⟩
      obtain ⟨x₀, hawaits⟩ := htracks.awaited hrun
      obtain ⟨-, hstart, hold⟩ := htracks.start x₀ hawaits
      exact ⟨x₀, hawaits, hstate.trans hold, hstart ▸ htime⟩
    · rintro ⟨x₀, hawaits, -, htime⟩
      obtain ⟨hrun, hstart, -⟩ := htracks.start x₀ hawaits
      exact ⟨hrun, hstart.symm ▸ htime⟩
  · rw [dinSample_change hpmode hpduration hstate]
    constructor
    · intro hcalled
      cases hcalled
    · rintro ⟨x₀, hawaits, hsame, -⟩
      obtain ⟨-, -, hold⟩ := htracks.start x₀ hawaits
      exact absurd (hsame.trans hold.symm) hstate

/-- **A sample** keeps it so. -/
theorem Tracks.sample {p : DinPort F} {h : List (Sample × Bool)}
    (htracks : Tracks registered p₀ p h) (hmode : EventMode p₀.event.mode)
    (hduration : p₀.event.duration ≠ 0) (x : Sample) :
    Tracks registered p₀ (sampleNext u p x) (h ++ [(x, (dinSample u p x.state x.now).2)]) := by
  have hpmode : EventMode p.event.mode := htracks.mode.symm ▸ hmode
  have hpduration : p.event.duration ≠ 0 := htracks.duration.symm ▸ hduration
  have hlast (c : Bool) : lastState registered ((h ++ [(x, c)]).map Prod.fst) = x.state := by
    rw [List.map_append]
    exact lastState_concat registered _ x
  by_cases hstate : x.state = p.event.oldstate
  · -- no change: what was awaited still is, unless the callback is called
    have hawaits (c : Bool) (x₀ : Sample × Bool) :
        Awaits p₀.event.mode registered (h ++ [(x, c)]) x₀ ↔
          Awaits p₀.event.mode registered h x₀ ∧ c = false := by
      rw [Awaits, since_concat]
      constructor
      · rintro (⟨-, hne, -⟩ | ⟨hawaits, -, hc⟩)
        · exact absurd (htracks.oldstate.symm.trans hstate.symm) hne
        · exact ⟨hawaits, hc⟩
      · rintro ⟨hawaits, hc⟩
        exact .inr ⟨hawaits, hstate.trans (htracks.start x₀ hawaits).2.2, hc⟩
    have hevent (c : Bool) : p.event = { p₀.event with
        oldstate := lastState registered ((h ++ [(x, c)]).map Prod.fst) } := by
      rw [hlast, hstate, htracks.event]
    rw [sampleNext, dinSample_same hpduration hstate]
    split
    · refine ⟨hevent true, fun hrun => (by cases hrun), fun x₀ hx₀ => ?_⟩
      cases ((hawaits true x₀).mp hx₀).2
    · refine ⟨hevent false, fun hrun => ?_, fun x₀ hx₀ => ?_⟩
      · obtain ⟨x₀, hx₀⟩ := htracks.awaited hrun
        exact ⟨x₀, (hawaits false x₀).mpr ⟨hx₀, rfl⟩⟩
      · exact htracks.start x₀ ((hawaits false x₀).mp hx₀).1
  · -- a change: only the sample itself can be awaited
    have hawaits (x₀ : Sample × Bool) :
        Awaits p₀.event.mode registered (h ++ [(x, false)]) x₀ ↔
          x₀ = (x, false) ∧ asks p.event.mode x.state = true := by
      rw [Awaits, since_concat]
      constructor
      · rintro (⟨rfl, -, hasks⟩ | ⟨hawaits, hsame, -⟩)
        · exact ⟨rfl, htracks.mode.symm ▸ hasks⟩
        · exact absurd (hsame.trans (htracks.start x₀ hawaits).2.2.symm) hstate
      · rintro ⟨rfl, hasks⟩
        refine .inl ⟨rfl, ?_, htracks.mode ▸ hasks⟩
        rw [← htracks.oldstate]
        exact Ne.symm hstate
    rw [sampleNext, dinSample_change hpmode hpduration hstate]
    refine ⟨?_, fun hasks => ⟨(x, false), (hawaits _).mpr ⟨rfl, hasks⟩⟩, fun x₀ hx₀ => ?_⟩
    · rw [hlast, htracks.event]
    · obtain ⟨rfl, hasks⟩ := (hawaits x₀).mp hx₀
      exact ⟨hasks, if_pos hasks, rfl⟩

/-! ## The runs of the port -/

/-- A port as it is registered with a duration. -/
structure Starts (registered : DioState) (p : DinPort F) : Prop where
  mode : EventMode p.event.mode
  duration : p.event.duration ≠ 0
  oldstate : p.event.oldstate = registered
  idle : p.bStartDurationCheck = false

theorem Starts.tracks (hstarts : Starts registered p₀) : Tracks registered p₀ p₀ [] := by
  refine ⟨?_, fun hrun => ?_, fun x₀ hx₀ => absurd hx₀ (not_since_nil _ _ _)⟩
  · rw [List.map_nil, show lastState registered [] = registered from rfl, ← hstarts.oldstate]
  · cases hstarts.idle.symm.trans hrun

theorem Starts.tracks_foldl (hstarts : Starts registered p₀) (xs : List Sample) :
    Tracks registered p₀ (xs.foldl (sampleNext u) p₀) (portSamples u p₀ xs) := by
  induction xs using List.reverseRecOn with
  | nil => exact hstarts.tracks
  | append_singleton xs x ih =>
      rw [List.foldl_append, portSamples_concat]
      exact ih.sample hstarts.mode hstarts.duration x

/-- What is awaited came before. -/
theorem Awaits.mem {mode : Int} {h : List (Sample × Bool)} {x₀ : Sample × Bool}
    (hawaits : Awaits mode registered h x₀) : x₀ ∈ h := by
  obtain ⟨before, held, rfl, -⟩ := hawaits
  exact List.mem_append_right _ List.mem_cons_self

/-- Only one change is awaited. -/
theorem Tracks.now_unique {p : DinPort F} {h : List (Sample × Bool)}
    (htracks : Tracks registered p₀ p h) {x₀ x₁ : Sample × Bool}
    (hx₀ : Awaits p₀.event.mode registered h x₀) (hx₁ : Awaits p₀.event.mode registered h x₁) :
    x₀.1.now = x₁.1.now :=
  (htracks.start x₀ hx₀).2.1.symm.trans (htracks.start x₁ hx₁).2.1

variable (u) in
/-- **A sample in time**: what is awaited is called for exactly if the sum does not
wrap below the duration. -/
theorem Tracks.fires_iff {p : DinPort F} {h : List (Sample × Bool)}
    (htracks : Tracks registered p₀ p h) (hmode : EventMode p₀.event.mode)
    (hduration : p₀.event.duration ≠ 0) {x : Sample}
    (hclock : ∀ x₀ ∈ h, x₀.1.now.micros ≤ x.now.micros) :
    ((dinSample u p x.state x.now).2 = true ↔ ∃ x₀, Awaits p₀.event.mode registered h x₀ ∧
        x.state = x₀.1.state ∧ LongEnough p₀.event.duration x₀.1 x) ↔
      ∀ x₀, Awaits p₀.event.mode registered h x₀ → x.state = x₀.1.state →
        LongEnough p₀.event.duration x₀.1 x → (p₀.event.duration : Int) ≤
          (x.now.micros - x₀.1.now.micros + dinInaccuracy) % 2 ^ u.bits := by
  rw [htracks.called_iff hmode hduration]
  constructor
  · intro hfires x₀ hx₀ hstate hlong
    obtain ⟨x₁, hx₁, -, htime⟩ := hfires.mpr ⟨x₀, hx₀, hstate, hlong⟩
    rwa [← htracks.now_unique hx₀ hx₁] at htime
  · intro htimes
    constructor
    · rintro ⟨x₀, hx₀, hstate, htime⟩
      have hle := hclock x₀ hx₀.mem
      have hwrap : (x.now.micros - x₀.1.now.micros + dinInaccuracy) % 2 ^ u.bits ≤
          x.now.micros - x₀.1.now.micros + dinInaccuracy :=
        emod_le_of_nonneg (by omega) (by positivity)
      exact ⟨x₀, hx₀, hstate, htime.trans hwrap⟩
    · rintro ⟨x₀, hx₀, hstate, hlong⟩
      exact ⟨x₀, hx₀, hstate, htimes x₀ hx₀ hstate hlong⟩

/-- What waits along the samples is what waits for the callback, as long as the
callbacks are called when they are to be. -/
theorem Tracks.waits_concat {p : DinPort F} {xs : List Sample} {h : List (Sample × Bool)}
    (htracks : Tracks registered p₀ p h) (hxs : h.map Prod.fst = xs)
    (hwaits : ∀ x₀, Waits p₀.event.mode p₀.event.duration registered xs x₀ ↔
      ∃ c, Awaits p₀.event.mode registered h (x₀, c)) {x : Sample} {c : Bool}
    (hfires : c = true ↔ ∃ x₀, Awaits p₀.event.mode registered h x₀ ∧ x.state = x₀.1.state ∧
      LongEnough p₀.event.duration x₀.1 x) (x₀ : Sample) :
    Waits p₀.event.mode p₀.event.duration registered (xs ++ [x]) x₀ ↔
      ∃ c₀, Awaits p₀.event.mode registered (h ++ [(x, c)]) (x₀, c₀) := by
  simp only [Waits, Awaits, since_concat, hxs]
  constructor
  · rintro (⟨rfl, hasked⟩ | ⟨hwait, hstate, hshort⟩)
    · exact ⟨c, .inl ⟨rfl, hasked⟩⟩
    · obtain ⟨c₀, hx₀⟩ := (hwaits x₀).mp hwait
      refine ⟨c₀, .inr ⟨hx₀, hstate, ?_⟩⟩
      rw [← Bool.not_eq_true]
      intro hcalled
      obtain ⟨x₁, hx₁, -, hlong⟩ := hfires.mp hcalled
      rw [LongEnough, ← htracks.now_unique hx₀ hx₁] at hlong
      exact hshort hlong
  · rintro ⟨c₀, ⟨heq, hasked⟩ | ⟨hx₀, hstate, hcalled⟩⟩
    · obtain ⟨rfl, rfl⟩ := Prod.mk.inj heq
      exact .inl ⟨rfl, hasked⟩
    · refine .inr ⟨(hwaits x₀).mpr ⟨c₀, hx₀⟩, hstate, fun hlong => ?_⟩
      cases hcalled.symm.trans (hfires.mpr ⟨(x₀, c₀), hx₀, hstate, hlong⟩)

variable (u) in
/-- **When the port's callback is called exactly as the state has been held.** -/
theorem Starts.fires_iff (hstarts : Starts registered p₀) {xs : List Sample}
    (hclock : (xs.map fun x => x.now.micros).Pairwise (· ≤ ·)) :
    (FiresWhenHeld p₀.event.mode p₀.event.duration registered (portSamples u p₀ xs) ↔
        InTime u p₀.event.mode p₀.event.duration registered xs) ∧
      (InTime u p₀.event.mode p₀.event.duration registered xs → ∀ x₀,
        Waits p₀.event.mode p₀.event.duration registered xs x₀ ↔
          ∃ c, Awaits p₀.event.mode registered (portSamples u p₀ xs) (x₀, c)) := by
  induction xs using List.reverseRecOn with
  | nil =>
      refine ⟨⟨fun _ => atEach_nil _, fun _ => atEach_nil _⟩, fun _ x₀ => ?_⟩
      constructor
      · intro h
        exact absurd h (not_since_nil _ _ _)
      · rintro ⟨c, h⟩
        exact absurd h (not_since_nil _ _ _)
  | append_singleton xs x ih =>
      rw [List.map_append, List.pairwise_append] at hclock
      obtain ⟨hbefore, -, hlast⟩ := hclock
      obtain ⟨ihfires, ihwaits⟩ := ih hbefore
      have htracks : Tracks registered p₀ (xs.foldl (sampleNext u) p₀) (portSamples u p₀ xs) :=
        hstarts.tracks_foldl xs
      have hxs := portSamples_map_fst u xs p₀
      have hle : ∀ x₀ ∈ portSamples u p₀ xs, x₀.1.now.micros ≤ x.now.micros := by
        intro x₀ hx₀
        have hmem : x₀.1 ∈ xs := hxs ▸ List.mem_map_of_mem hx₀
        exact hlast _ (List.mem_map_of_mem hmem) _ (List.mem_singleton_self _)
      have hsample := htracks.fires_iff u hstarts.mode hstarts.duration hle
      rw [portSamples_concat, FiresWhenHeld, InTime, atEach_concat, atEach_concat]
      -- the sample at the end, once what is awaited is the same on both sides
      have hend (hin : InTime u p₀.event.mode p₀.event.duration registered xs) :
          ((dinSample u (xs.foldl (sampleNext u) p₀) x.state x.now).2 = true ↔
              ∃ x₀, Awaits p₀.event.mode registered (portSamples u p₀ xs) x₀ ∧
                x.state = x₀.1.state ∧ LongEnough p₀.event.duration x₀.1 x) ↔
            ∀ x₀, Waits p₀.event.mode p₀.event.duration registered xs x₀ →
              x.state = x₀.state → LongEnough p₀.event.duration x₀ x →
                (p₀.event.duration : Int) ≤
                  (x.now.micros - x₀.now.micros + dinInaccuracy) % 2 ^ u.bits := by
        rw [hsample]
        constructor
        · intro htimes x₀ hwait
          obtain ⟨c, hx₀⟩ := (ihwaits hin x₀).mp hwait
          exact htimes (x₀, c) hx₀
        · intro htimes x₀ hx₀
          exact htimes x₀.1 ((ihwaits hin x₀.1).mpr ⟨x₀.2, hx₀⟩)
      refine ⟨?_, ?_⟩
      · constructor
        · rintro ⟨hfires, hfire⟩
          have hin := ihfires.mp hfires
          exact ⟨hin, (hend hin).mp hfire⟩
        · rintro ⟨hin, htimes⟩
          exact ⟨ihfires.mpr hin, (hend hin).mpr htimes⟩
      · rintro ⟨hin, htimes⟩
        exact htracks.waits_concat hxs (ihwaits hin) ((hend hin).mpr htimes)

end Port

/-! ## The port among the others -/

/-- The readings of a port that do not fail. -/
def successes (i : Fin maxDinPort) (as : List (Act F)) : List Sample :=
  as.filterMap fun a =>
    match a with
    | .set _ => none
    | .poll r => (r i).state.map fun state => ⟨state, (r i).now⟩

theorem successes_of_none {i : Fin maxDinPort} {r : Fin maxDinPort → Reading}
    (h : (r i).state = none) (as : List (Act F)) :
    successes i (.poll r :: as) = successes i as := by
  simp [successes, h]

theorem successes_of_some {i : Fin maxDinPort} {r : Fin maxDinPort → Reading} {state : DioState}
    (h : (r i).state = some state) (as : List (Act F)) :
    successes i (.poll r :: as) = ⟨state, (r i).now⟩ :: successes i as := by
  simp [successes, h]

/-- A round reads the port, and the port goes on by itself. -/
theorem samples_eq (u : Ulong) {i : Fin maxDinPort} {as : List (Act F)} :
    ∀ {s : Din F}, Forked s → (s.port i).active = true →
      (∀ a, .set a ∈ as → dinPort? a.diport ≠ some i) →
      samples u i s as = portSamples u (s.port i) (successes i as) := by
  induction as with
  | nil => exact fun _ _ _ => rfl
  | cons a as ih =>
      intro s hforked hactive hother
      have hrest : ∀ a, .set a ∈ as → dinPort? a.diport ≠ some i :=
        fun a ha => hother a (List.mem_cons_of_mem _ ha)
      cases a with
      | set a =>
          have hport : (setDinEvent u s a).1.port i = s.port i :=
            setDinEvent_other u s a (hother a List.mem_cons_self)
          have hnext := ih (hforked.next u (.set a)) (hport.symm ▸ hactive) hrest
          rw [samples, show samples u i (setDinEvent u s a).1 as = _ from hnext]
          exact congrArg (portSamples u · (successes i as)) hport
      | poll r =>
          obtain ⟨hport, hcalled⟩ := dinPoll_port u hforked r i
          have hactive' : ((dinPoll u s r).1.port i).active = true := by
            rw [hport, dinPollPort_active]
            exact hactive
          have hnext : samples u i (dinPoll u s r).1 as = _ :=
            ih (hforked.next u (.poll r)) hactive' hrest
          have hround : dinPollPort u (s.port i) (r i) =
              match (r i).state with
              | none => (s.port i, false)
              | some state => dinSample u (s.port i) state (r i).now := if_pos hactive
          rw [samples, hnext, hport, hround]
          rw [hround] at hcalled
          cases hstate : (r i).state with
          | none => rw [successes_of_none hstate]
          | some state =>
              rw [hstate] at hcalled
              rw [successes_of_some hstate]
              have hdecide : decide (i ∈ (dinPoll u s r).2) =
                  (dinSample u (s.port i) state (r i).now).2 := by
                rw [Bool.eq_iff_iff, decide_eq_true_iff]
                exact hcalled
              simp only [if_pos hactive, hdecide]
              rfl

/-- A port without a callback, and without a check. -/
structure Idle (i : Fin maxDinPort) (s : Din F) : Prop where
  forked : Forked s
  inactive : (s.port i).active = false
  idle : (s.port i).bStartDurationCheck = false

theorem Idle.next {i : Fin maxDinPort} {s : Din F} (h : Idle i s) (u : Ulong) {a : Act F}
    (hno : ∀ b, a = .set b → ∀ func, ¬ Registers b i func) : Idle i (dinNext u s a) := by
  suffices hport : ((dinNext u s a).port i).active = false ∧
      ((dinNext u s a).port i).bStartDurationCheck = false from
    ⟨h.forked.next u a, hport.1, hport.2⟩
  cases a with
  | set a =>
      show ((setDinEvent u s a).1.port i).active = false ∧
        ((setDinEvent u s a).1.port i).bStartDurationCheck = false
      obtain ⟨j, func, hreg, heq⟩ | ⟨-, heq | ⟨j, -, heq⟩⟩ := setDinEvent_cases u s a
      · have hne : i ≠ j := by
          rintro rfl
          exact hno a rfl func hreg
        have hport : (setDinEvent u s a).1.port i = s.port i := by
          rw [heq]
          exact s.put_of_ne hne _
        rw [hport]
        exact ⟨h.inactive, h.idle⟩
      · rw [heq]
        exact ⟨h.inactive, h.idle⟩
      · rw [heq, setDinEvent.clear]
        by_cases hij : i = j
        · subst hij
          rw [s.put_self]
          exact ⟨rfl, h.idle⟩
        · rw [s.put_of_ne hij]
          exact ⟨h.inactive, h.idle⟩
  | poll r =>
      show ((dinPoll u s r).1.port i).active = false ∧
        ((dinPoll u s r).1.port i).bStartDurationCheck = false
      rw [(dinPoll_port u h.forked r i).1, dinPollPort_of_not_active u h.inactive]
      exact ⟨h.inactive, h.idle⟩

theorem Idle.foldl {i : Fin maxDinPort} (u : Ulong) {as : List (Act F)} : ∀ {s : Din F}, Idle i s →
    (∀ b, .set b ∈ as → ∀ func, ¬ Registers b i func) → Idle i (as.foldl (dinNext u) s) := by
  induction as with
  | nil => exact fun h _ => h
  | cons a as ih =>
      intro s h hno
      refine ih (h.next u ?_) fun b hb => hno b (List.mem_cons_of_mem _ hb)
      rintro b rfl
      exact hno b List.mem_cons_self

/-- A duration in microseconds that `CheckDuration` accepts fits into an `unsigned
long`. -/
theorem micros_of_checked (u : Ulong) {duration : Nat} (h : checkDuration duration = none) :
    duration * 1000 % 2 ^ u.bits = duration * 1000 := by
  have hmax : duration ≤ maxDuration := by
    simp only [checkDuration] at h
    split at h
    · omega
    · split at h
      · cases h
      · omega
  have hwide : 2 ^ 32 ≤ 2 ^ u.bits := Nat.pow_le_pow_right (by decide) u.wide
  have hlt : maxDuration * 1000 < 2 ^ 32 := by decide
  exact Nat.mod_eq_of_lt (((Nat.mul_le_mul_right 1000 hmax).trans_lt hlt).trans_le hwide)

/-- **When a callback with a duration is called exactly as the state has been
held**, from the only registration of its port on. -/
theorem duration_event_iff (u : Ulong) {i : Fin maxDinPort} {pre post : List (Act F)}
    {a : SetDinEvent F} {func : F} {state : DioState} (hreg : Registers a i func)
    (hduration : a.duration ≠ 0) (hread : a.read = some state)
    (hpre : ∀ b, .set b ∈ pre → ∀ func, ¬ Registers b i func)
    (hpost : ∀ b, .set b ∈ post → dinPort? b.diport ≠ some i)
    (hclock : ((successes i post).map fun x => x.now.micros).Pairwise (· ≤ ·)) :
    FiresWhenHeld a.mode (a.duration * 1000) state
        (samples u i ((pre ++ [Act.set a]).foldl (dinNext u) din0) post) ↔
      InTime u a.mode (a.duration * 1000) state (successes i post) := by
  have hidle : Idle i (pre.foldl (dinNext u) din0) :=
    Idle.foldl u ⟨forked_din0, rfl, rfl⟩ hpre
  generalize hs : pre.foldl (dinNext u) din0 = s at hidle
  rw [List.foldl_append, hs]
  show FiresWhenHeld a.mode (a.duration * 1000) state
      (samples u i (dinNext u s (.set a)) post) ↔ _
  generalize hp : (dinNext u s (.set a)).port i = p
  have hport : p = { s.port i with
      event := (s.port i).event.register u func a.mode a.duration a.read } := by
    rw [← hp, dinNext, setDinEvent_register hreg]
    exact s.put_self i _
  obtain ⟨hmode, hduration', hold, hidle', hactive⟩ : p.event.mode = a.mode ∧
      p.event.duration = a.duration * 1000 ∧ p.event.oldstate = state ∧
      p.bStartDurationCheck = false ∧ p.active = true := by
    rw [hport]
    refine ⟨rfl, micros_of_checked u hreg.duration, ?_, hidle.idle, ?_⟩
    · rw [hread]
      rfl
    · exact decide_eq_true hreg.mode
  have hstarts : Starts state p :=
    ⟨hmode.symm ▸ hreg.eventMode, by rw [hduration']; omega, hold, hidle'⟩
  rw [samples_eq u (hidle.forked.next u (.set a)) (hp.symm ▸ hactive) hpost, hp, ← hmode,
    ← hduration']
  exact (hstarts.fires_iff u hclock).1

/-- `set_din_event` for input 0 and an hour of low, and a round that finds it so. -/
def registerHour : SetDinEvent Unit := ⟨0, some (), dinEventHighToLow, 3600000, some .high⟩

def lowAt (sec : Int) : Act Unit := .poll fun _ => ⟨some .low, ⟨sec, 0⟩⟩

theorem registerHour_registers : Registers registerHour 0 () :=
  ⟨rfl, rfl, by decide, rfl, rfl⟩

/-- Low at 1 s, at 2 s, and an hour after the first. -/
theorem hour_of_low :
    FiresWhenHeld dinEventHighToLow 3600000000 .high
      (samples ⟨32, by decide⟩ 0 ([.set registerHour].foldl (dinNext ⟨32, by decide⟩) din0)
        [lowAt 1, lowAt 2, lowAt 3601]) := by
  have hin : InTime ⟨32, by decide⟩ dinEventHighToLow 3600000000 .high
      ([] ++ [⟨.low, ⟨1, 0⟩⟩] ++ [⟨.low, ⟨2, 0⟩⟩] ++ [⟨.low, ⟨3601, 0⟩⟩]) := by
    rw [InTime, atEach_concat, atEach_concat, atEach_concat]
    refine ⟨⟨⟨atEach_nil _, ?_⟩, ?_⟩, ?_⟩
    · intro x₀ hwait
      exact absurd hwait (not_since_nil _ _ _)
    · intro x₀ hwait _ hlong
      rw [Waits, since_concat] at hwait
      obtain ⟨rfl, -⟩ | ⟨hwait, -⟩ := hwait
      · exact absurd hlong (by decide)
      · exact absurd hwait (not_since_nil _ _ _)
    · intro x₀ hwait _ _
      rw [Waits, since_concat, since_concat] at hwait
      obtain ⟨-, hne, -⟩ | ⟨⟨rfl, -⟩ | ⟨hwait, -⟩, -⟩ := hwait
      · exact absurd rfl hne
      · decide
      · exact absurd hwait (not_since_nil _ _ _)
  have hnone : ∀ b, Act.set b ∈ [lowAt 1, lowAt 2, lowAt 3601] → dinPort? b.diport ≠ some 0 := by
    intro b hb
    simp [lowAt] at hb
  have hpre : ∀ b, Act.set b ∈ ([] : List (Act Unit)) → ∀ func, ¬ Registers b 0 func := by
    intro b hb
    cases hb
  exact (duration_event_iff ⟨32, by decide⟩ registerHour_registers (by decide) rfl hpre hnone
    (by decide)).mpr hin

/-- Low at 1 s, and then at no round until 4296 s: the sum has wrapped. -/
theorem wrap_hides_hour :
    ¬ FiresWhenHeld dinEventHighToLow 3600000000 .high
      (samples ⟨32, by decide⟩ 0 ([.set registerHour].foldl (dinNext ⟨32, by decide⟩) din0)
        [lowAt 1, lowAt 4296]) := by
  intro h
  have hlast := (h [(⟨.low, ⟨1, 0⟩⟩, false)] (⟨.low, ⟨4296, 0⟩⟩, false) [] (by decide)).mpr
    ⟨(⟨.low, ⟨1, 0⟩⟩, false), ⟨[], [], rfl, ⟨by decide, rfl⟩, by simp⟩, rfl, by decide⟩
  cases hlast

end MoxaDrivers.MxDioControl

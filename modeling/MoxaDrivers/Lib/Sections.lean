import MoxaDrivers.Lib.Tally

/-!
# Sections under one lock

Code that several activations run at the same time over one shared state, with
the places where it enters and leaves sections. Whether an activation takes the
lock there depends on its context and on the kind of the place (`takes`), so
that a section need not be under the lock.

`Fits` says that a piece of code enters and leaves its sections in pairs, takes
the lock at most once, and, where it has to, enters none without it. From this
alone follow the state of the lock and who holds it (`Inv`), and with it that
activations exclude each other as long as those that are not under the lock
find nobody else inside (`exclusive_advance_iff`).
-/

namespace MoxaDrivers.Sections

open MoxaDrivers.Tally

variable {σ κ ι : Type}

/-- Code over the shared state `σ`, with sections of the kinds `ι`. An access to
the state is one step. -/
inductive Code (σ ι : Type) where
  | ret
  | act (f : σ → σ) (next : σ → Code σ ι)
  | enter (k : ι) (next : Code σ ι)
  | leave (k : ι) (next : Code σ ι)

/-- What the code does to the state when nothing comes in between. -/
def Code.exec : Code σ ι → σ → σ
  | .ret, x => x
  | .act f next, x => (next x).exec (f x)
  | .enter _ next, x => next.exec x
  | .leave _ next, x => next.exec x

/-- A call that is being made: the sections it is in, and whether it took the
lock and has not given it back. -/
structure Activation (σ κ ι : Type) where
  ctx : κ
  code : Code σ ι
  depth : Nat
  holds : Bool

structure System (σ κ ι : Type) where
  data : σ
  lock : Bool
  acts : List (Activation σ κ ι)

/-- Nobody is at work. -/
def System.start (x : σ) : System σ κ ι := ⟨x, false, []⟩

/-- A call from the context `ctx` begins. -/
def System.spawn (s : System σ κ ι) (ctx : κ) (code : Code σ ι) : System σ κ ι :=
  { s with acts := s.acts ++ [⟨ctx, code, 0, false⟩] }

/-- Inside a section. -/
def Activation.inside (a : Activation σ κ ι) : Bool := 0 < a.depth

section

variable (takes : κ → ι → Bool)

/-- The next step of one activation, with the state and the lock. -/
def Activation.advance (a : Activation σ κ ι) (x : σ) (lock : Bool) :
    σ × Bool × Activation σ κ ι :=
  match a.code with
  | .ret => (x, lock, a)
  | .act f next => (f x, lock, { a with code := next x })
  | .enter k next =>
      if takes a.ctx k then
        -- a lock that is taken is waited for
        if lock then (x, lock, a)
        else (x, true, { a with code := next, depth := a.depth + 1, holds := true })
      else (x, lock, { a with code := next, depth := a.depth + 1 })
  | .leave k next =>
      if takes a.ctx k then
        (x, false, { a with code := next, depth := a.depth - 1, holds := false })
      else (x, lock, { a with code := next, depth := a.depth - 1 })

/-- Activation `i` goes on. -/
def System.advance (s : System σ κ ι) (i : Nat) : System σ κ ι :=
  match s.acts[i]? with
  | some a =>
      let r := a.advance takes s.data s.lock
      ⟨r.1, r.2.1, s.acts.set i r.2.2⟩
  | none => s

/-- The next step waits for the lock or takes it. -/
def Activation.acquires (a : Activation σ κ ι) : Bool :=
  match a.code with
  | .enter k _ => takes a.ctx k
  | _ => false

/-- At most one activation is inside a section, and none that holds the lock is
about to take it. -/
structure Exclusive (s : System σ κ ι) : Prop where
  alone : s.acts.countP Activation.inside ≤ 1
  once : ∀ a ∈ s.acts, a.holds = true → a.acquires takes = false

end

/-- Code that is in `d` sections, with the lock or without (`h`): it leaves what
it enters, takes the lock only outside of all sections, and, if `covered` is
demanded, enters no section without it. -/
def Fits (takes : ι → Bool) (covered : Bool) : Nat → Bool → Code σ ι → Prop
  | d, h, .ret => d = 0 ∧ h = false
  | d, h, .act _ next => ∀ x, Fits takes covered d h (next x)
  | d, h, .enter k next =>
      if takes k then d = 0 ∧ h = false ∧ Fits takes covered 1 true next
      else (covered = true → h = true) ∧ Fits takes covered (d + 1) h next
  | d, h, .leave k next =>
      if takes k then d = 1 ∧ h = true ∧ Fits takes covered 0 false next
      else (if h then 1 < d else 0 < d) ∧ Fits takes covered (d - 1) h next

/-- One access inside a section of its own. -/
def Code.sect (k : ι) (f : σ → σ) (next : Code σ ι) : Code σ ι :=
  .enter k (.act f fun _ => .leave k next)

/-- Code may enter a section of the kind `k` here. -/
structure Ready (takes : ι → Bool) (covered : Bool) (d : Nat) (h : Bool) (k : ι) : Prop where
  outside : takes k = true → d = 0 ∧ h = false
  under : takes k = false → covered = true → h = true
  counted : h = true → 0 < d

theorem fits_sect {takes : ι → Bool} {covered h : Bool} {d : Nat} {k : ι} {f : σ → σ}
    {next : Code σ ι} (hr : Ready takes covered d h k) (hn : Fits takes covered d h next) :
    Fits takes covered d h (.sect k f next) := by
  cases hk : takes k with
  | true =>
      obtain ⟨rfl, rfl⟩ := hr.outside hk
      simp [Code.sect, Fits, hk, hn]
  | false =>
      have hcount := hr.counted
      have hunder := hr.under hk
      cases h with
      | true => simp [Code.sect, Fits, hk, hn, hcount rfl]
      | false => simpa [Code.sect, Fits, hk, hn] using hunder

/-! ## The lock -/

section

variable (takes : κ → ι → Bool) (covered : κ → Bool)

structure Activation.Ok (a : Activation σ κ ι) : Prop where
  fits : Fits (takes a.ctx) (covered a.ctx) a.depth a.holds a.code
  held : a.holds = true → 0 < a.depth
  /-- Where coverage is demanded, inside means under the lock. -/
  under : covered a.ctx = true → 0 < a.depth → a.holds = true

/-- The lock is taken when somebody holds it, and then by one activation. -/
structure Inv (s : System σ κ ι) : Prop where
  ok : ∀ a ∈ s.acts, a.Ok takes covered
  lock : s.acts.countP Activation.holds = s.lock.toNat

/-- Whoever comes into a section from outside finds nobody else in one: without
the lock nobody at all, with the lock (when it is free) nobody who did not have
to take it. -/
def EntersAlone (s : System σ κ ι) (i : Nat) : Prop :=
  ∀ a k next, s.acts[i]? = some a → a.code = .enter k next → a.depth = 0 →
    if takes a.ctx k then s.lock = false → ∀ b ∈ s.acts, covered b.ctx = false → b.depth = 0
    else ∀ b ∈ s.acts, b.depth = 0

end

variable {takes : κ → ι → Bool} {covered : κ → Bool}

theorem inv_start (x : σ) : Inv takes covered (System.start x) := ⟨by simp [System.start], rfl⟩

theorem exclusive_start (x : σ) : Exclusive takes (System.start x : System σ κ ι) :=
  ⟨by simp [System.start], by simp [System.start]⟩

/-- Code that fits takes the lock only where it does not hold it. -/
theorem Activation.Ok.once {a : Activation σ κ ι} (h : a.Ok takes covered) :
    a.holds = true → a.acquires takes = false := by
  intro hheld
  have hfits := h.fits
  simp only [acquires]
  split
  · rename_i k next hcode
    rw [hcode] at hfits
    simp only [Fits] at hfits
    by_contra htakes
    rw [if_pos (Bool.not_eq_false _ ▸ htakes)] at hfits
    rw [hheld] at hfits
    exact absurd hfits.2.1 (by decide)
  · rfl

theorem inv_spawn {s : System σ κ ι} (hs : Inv takes covered s) {ctx : κ} {code : Code σ ι}
    (hcode : Fits (takes ctx) (covered ctx) 0 false code) :
    Inv takes covered (s.spawn ctx code) := by
  constructor
  · intro a ha
    rcases List.mem_append.mp ha with ha | ha
    · exact hs.ok a ha
    · cases List.mem_singleton.mp ha
      exact ⟨hcode, nofun, fun _ h => absurd h (Nat.lt_irrefl 0)⟩
  · simpa [System.spawn, countP_append_one] using hs.lock

theorem exclusive_spawn {s : System σ κ ι} (hs : Exclusive takes s) (ctx : κ)
    (code : Code σ ι) : Exclusive takes (s.spawn ctx code) := by
  constructor
  · simpa [System.spawn, countP_append_one, Activation.inside] using hs.alone
  · intro a ha
    rcases List.mem_append.mp ha with ha | ha
    · exact hs.once a ha
    · cases List.mem_singleton.mp ha
      exact nofun

/-! ## One step of one activation -/

/-- What a step of an activation does to its depth and to the lock: nothing, or
it enters or leaves a section, with the lock or without. -/
inductive Moves (takes : κ → ι → Bool) (a a' : Activation σ κ ι) (lock lock' : Bool) : Prop where
  | stays (hd : a'.depth = a.depth) (hh : a'.holds = a.holds) (hl : lock' = lock)
      (waits : ∀ k next, a.code = .enter k next → takes a.ctx k = true ∧ lock = true)
  | enters (hd : a'.depth = a.depth + 1) (hh : a'.holds = a.holds) (hl : lock' = lock)
      (bare : a.depth = 0 → ∃ k next, a.code = .enter k next ∧ takes a.ctx k = false)
  | takes (h0 : a.depth = 0) (hd : a'.depth = 1) (hh : a.holds = false) (hh' : a'.holds = true)
      (hl : lock = false) (hl' : lock' = true)
      (locked : ∃ k next, a.code = .enter k next ∧ takes a.ctx k = true)
  | leaves (h0 : 0 < a.depth) (hd : a'.depth = a.depth - 1) (hh : a'.holds = a.holds)
      (hl : lock' = lock)
  | gives (h1 : a.depth = 1) (hd : a'.depth = 0) (hh : a.holds = true) (hh' : a'.holds = false)
      (hl' : lock' = false)

theorem advance_moves {a : Activation σ κ ι} (h : a.Ok takes covered) (x : σ) (lock : Bool) :
    (a.advance takes x lock).2.2.Ok takes covered ∧
      Moves takes a (a.advance takes x lock).2.2 lock (a.advance takes x lock).2.1 := by
  obtain ⟨ctx, code, depth, holds⟩ := a
  obtain ⟨hfits, hheld, hunder⟩ := h
  cases code with
  | ret => exact ⟨⟨hfits, hheld, hunder⟩, .stays rfl rfl rfl nofun⟩
  | act f next => exact ⟨⟨hfits x, hheld, hunder⟩, .stays rfl rfl rfl nofun⟩
  | enter k next =>
      cases hk : takes ctx k with
      | true =>
          simp only [Fits, hk, if_true] at hfits
          obtain ⟨h0, hno, hnext⟩ := hfits
          cases lock with
          | true =>
              simp only [Activation.advance, hk, if_true]
              refine ⟨⟨?_, hheld, hunder⟩, .stays rfl rfl rfl ?_⟩
              · simp only [Fits, hk, if_true]
                exact ⟨h0, hno, hnext⟩
              · intro k' next' hcode
                cases hcode
                exact ⟨hk, rfl⟩
          | false =>
              simp only [Activation.advance, hk, if_true, Bool.false_eq_true, if_false]
              cases h0
              exact ⟨⟨hnext, fun _ => Nat.one_pos, fun _ _ => rfl⟩,
                .takes rfl rfl hno rfl rfl rfl ⟨k, next, rfl, hk⟩⟩
      | false =>
          simp only [Fits, hk, Bool.false_eq_true, if_false] at hfits
          simp only [Activation.advance, hk, Bool.false_eq_true, if_false]
          exact ⟨⟨hfits.2, fun _ => Nat.succ_pos depth, fun hc _ => hfits.1 hc⟩,
            .enters rfl rfl rfl fun _ => ⟨k, next, rfl, hk⟩⟩
  | leave k next =>
      cases hk : takes ctx k with
      | true =>
          simp only [Fits, hk, if_true] at hfits
          simp only [Activation.advance, hk, if_true]
          obtain ⟨h1, hyes, hnext⟩ := hfits
          cases h1
          exact ⟨⟨hnext, nofun, fun _ h => absurd h (Nat.lt_irrefl 0)⟩, .gives rfl rfl hyes rfl rfl⟩
      | false =>
          simp only [Fits, hk, Bool.false_eq_true, if_false] at hfits
          simp only [Activation.advance, hk, Bool.false_eq_true, if_false]
          obtain ⟨hdeep, hnext⟩ := hfits
          have hpos : 0 < depth := by
            split at hdeep
            · omega
            · exact hdeep
          refine ⟨⟨hnext, fun hh => ?_, fun hc hd => hunder hc hpos⟩, .leaves hpos rfl rfl rfl⟩
          -- the section of the lock is left last
          have hh' : holds = true := hh
          rw [if_pos hh'] at hdeep
          show 0 < depth - 1
          omega

/-! ## One step of the system -/

theorem advance_none {s : System σ κ ι} {i : Nat} (h : s.acts[i]? = none) :
    s.advance takes i = s := by
  simp [System.advance, h]

theorem advance_some {s : System σ κ ι} {i : Nat} {a : Activation σ κ ι}
    (h : s.acts[i]? = some a) :
    s.advance takes i = ⟨(a.advance takes s.data s.lock).1, (a.advance takes s.data s.lock).2.1,
      s.acts.set i (a.advance takes s.data s.lock).2.2⟩ := by
  simp [System.advance, h]

/-- **The lock** is accounted for by every step. -/
theorem inv_advance {s : System σ κ ι} (hs : Inv takes covered s) (i : Nat) :
    Inv takes covered (s.advance takes i) := by
  cases hi : s.acts[i]? with
  | none =>
      rw [advance_none hi]
      exact hs
  | some a =>
      have hmem := List.mem_of_getElem? hi
      obtain ⟨hok, hmoves⟩ := advance_moves (hs.ok a hmem) s.data s.lock
      have htally := countP_set_add Activation.holds
        (b := (a.advance takes s.data s.lock).2.2) hi
      rw [advance_some hi]
      constructor
      · intro b hb
        rcases List.mem_or_eq_of_mem_set hb with hb | rfl
        · exact hs.ok b hb
        · exact hok
      · have hlock := hs.lock
        show (s.acts.set i _).countP _ = (a.advance takes s.data s.lock).2.1.toNat
        cases hmoves with
        | stays hd hh hl waits =>
            rw [hh] at htally
            rw [hl]
            omega
        | enters hd hh hl bare =>
            rw [hh] at htally
            rw [hl]
            omega
        | takes h0 hd hh hh' hl hl' locked =>
            rw [hh, hh'] at htally
            rw [hl] at hlock
            rw [hl']
            simp only [Bool.toNat_true, Bool.toNat_false] at htally hlock ⊢
            omega
        | leaves h0 hd hh hl =>
            rw [hh] at htally
            rw [hl]
            omega
        | gives h1 hd hh hh' hl' =>
            have hle : s.lock.toNat ≤ 1 := Bool.toNat_le s.lock
            rw [hh, hh'] at htally
            rw [hl']
            simp only [Bool.toNat_true, Bool.toNat_false] at htally ⊢
            omega

theorem inside_eq_false {a : Activation σ κ ι} : a.inside = false ↔ a.depth = 0 := by
  simp [Activation.inside]

/-- Nobody is inside. -/
theorem countP_inside_zero {l : List (Activation σ κ ι)} :
    l.countP Activation.inside = 0 ↔ ∀ b ∈ l, b.depth = 0 := by
  rw [List.countP_eq_zero]
  constructor
  · intro h b hb
    exact inside_eq_false.mp (Bool.eq_false_iff.mpr (h b hb))
  · intro h b hb
    rw [inside_eq_false.mpr (h b hb)]
    exact Bool.false_ne_true

/-- While the lock is free, nobody who has to take it is inside. -/
theorem Inv.outside {s : System σ κ ι} (hs : Inv takes covered s) (hfree : s.lock = false)
    {b : Activation σ κ ι} (hb : b ∈ s.acts) (hc : covered b.ctx = true) : b.depth = 0 := by
  have hnone : s.acts.countP Activation.holds = 0 := by
    rw [hs.lock, hfree]
    rfl
  have hb' : ¬ b.holds = true := List.countP_eq_zero.mp hnone b hb
  by_contra hdepth
  exact hb' ((hs.ok b hb).under hc (Nat.pos_of_ne_zero hdepth))

/-- Who comes in from outside under the condition comes into empty sections, and
only then. -/
theorem entersAlone_iff {s : System σ κ ι} (hs : Inv takes covered s) {i : Nat} :
    EntersAlone takes covered s i ↔
      ∀ a k next, s.acts[i]? = some a → a.code = .enter k next → a.depth = 0 →
        (takes a.ctx k = true → s.lock = false) → s.acts.countP Activation.inside = 0 := by
  constructor
  · intro h a k next hi hcode hdepth hfree
    rw [countP_inside_zero]
    have halone := h a k next hi hcode hdepth
    cases hk : takes a.ctx k with
    | true =>
        rw [hk, if_pos rfl] at halone
        intro b hb
        cases hc : covered b.ctx with
        | true => exact hs.outside (hfree hk) hb hc
        | false => exact halone (hfree hk) b hb hc
    | false =>
        rw [hk, if_neg Bool.false_ne_true] at halone
        exact halone
  · intro h a k next hi hcode hdepth
    have hzero := h a k next hi hcode hdepth
    split
    · exact fun hfree b hb _ => countP_inside_zero.mp (hzero fun _ => hfree) b hb
    · rename_i hk
      exact countP_inside_zero.mp (hzero fun h => absurd h hk)

/-- A move comes into the sections from outside, or it is no such entry and brings
nobody in. -/
theorem Moves.inside_cases {a a' : Activation σ κ ι} {lock lock' : Bool}
    (h : Moves takes a a' lock lock') :
    (a.inside = false ∧ a'.inside = true ∧ ∃ k next, a.code = .enter k next ∧ a.depth = 0 ∧
      (takes a.ctx k = true → lock = false)) ∨
    (a'.inside.toNat ≤ a.inside.toNat ∧ ∀ k next, a.code = .enter k next → a.depth = 0 →
      ¬ (takes a.ctx k = true → lock = false)) := by
  cases h with
  | stays hd hh hl waits =>
      have hsame : a'.inside = a.inside := by simp [Activation.inside, hd]
      refine .inr ⟨hsame ▸ Nat.le_refl _, fun k next hcode _ hfree => ?_⟩
      obtain ⟨hk, hlock⟩ := waits k next hcode
      rw [hfree hk] at hlock
      cases hlock
  | enters hd hh hl bare =>
      have hin' : a'.inside = true := by simp [Activation.inside, hd]
      by_cases h0 : a.depth = 0
      · obtain ⟨k, next, hcode, hk⟩ := bare h0
        exact .inl ⟨inside_eq_false.mpr h0, hin', k, next, hcode, h0, fun h => by simp [hk] at h⟩
      · have hin : a.inside = true := by simpa [Activation.inside] using Nat.pos_of_ne_zero h0
        exact .inr ⟨hin.symm ▸ Bool.toNat_le _, fun _ _ _ h _ => h0 h⟩
  | takes h0 hd hh hh' hl hl' locked =>
      obtain ⟨k, next, hcode, -⟩ := locked
      have hin' : a'.inside = true := by simp [Activation.inside, hd]
      exact .inl ⟨inside_eq_false.mpr h0, hin', k, next, hcode, h0, fun _ => hl⟩
  | leaves h0 hd hh hl =>
      have hin : a.inside = true := by simpa [Activation.inside] using h0
      exact .inr ⟨hin.symm ▸ Bool.toNat_le _, fun _ _ _ h _ => by omega⟩
  | gives h1 hd hh hh' hl' =>
      have hin : a.inside = true := by simp [Activation.inside, h1]
      exact .inr ⟨hin.symm ▸ Bool.toNat_le _, fun _ _ _ h _ => by omega⟩

/-- **One step** keeps activations out of each other's sections exactly if who
comes in from outside finds nobody there. -/
theorem exclusive_advance_iff {s : System σ κ ι} (hs : Inv takes covered s)
    (hx : Exclusive takes s) (i : Nat) :
    Exclusive takes (s.advance takes i) ↔ EntersAlone takes covered s i := by
  have honce : ∀ a ∈ (s.advance takes i).acts, a.holds = true → a.acquires takes = false :=
    fun a ha => ((inv_advance hs i).ok a ha).once
  rw [entersAlone_iff hs]
  cases hi : s.acts[i]? with
  | none =>
      rw [advance_none hi]
      exact ⟨fun _ a k next h => (nomatch h), fun _ => hx⟩
  | some a =>
      obtain ⟨-, hmoves⟩ := advance_moves (hs.ok a (List.mem_of_getElem? hi)) s.data s.lock
      have htally := countP_set_add Activation.inside
        (b := (a.advance takes s.data s.lock).2.2) hi
      have hbefore := hx.alone
      have halone : Exclusive takes (s.advance takes i) ↔
          (s.acts.set i (a.advance takes s.data s.lock).2.2).countP Activation.inside ≤ 1 := by
        rw [advance_some hi] at honce ⊢
        exact ⟨fun h => h.alone, fun h => ⟨h, honce⟩⟩
      rw [halone]
      rcases hmoves.inside_cases with ⟨hout, hin, k, next, hcode, h0, hfree⟩ | ⟨hle, hno⟩
      · -- one more is inside
        rw [hout, hin] at htally
        simp only [Bool.toNat_true, Bool.toNat_false] at htally
        constructor
        · intro h _ _ _ _ _ _ _
          omega
        · intro h
          have hzero := h a k next rfl hcode h0 hfree
          omega
      · refine ⟨fun _ a' k next ha hcode h0 hfree => ?_, fun _ => by omega⟩
        cases ha
        exact absurd hfree (hno k next hcode h0)

end MoxaDrivers.Sections

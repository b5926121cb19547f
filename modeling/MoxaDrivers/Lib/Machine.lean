import Mathlib.Data.List.Basic

/-!
# Machines: runs of labelled steps

A machine is a step function `σ → α → Except ε σ`: the label carries every
choice of the environment, an error is a step that does not complete. Over it:

* `run` folds a list of labels;
* `Always` says that a property holds in every state a run reaches;
* `Guarded` says that every step of a run is taken in a state that meets a
  condition;
* `EachStep` says what every completed step of a run does;
* `always_of_guarded`, `always_iff_guarded` and their like turn a one-step
  argument into the statement about whole runs.
-/

namespace MoxaDrivers.Machine

variable {σ α ε : Type*} {step : σ → α → Except ε σ}

/-- The state a list of labels leads to. -/
def run (step : σ → α → Except ε σ) (s : σ) (as : List α) : Except ε σ :=
  as.foldlM step s

/-- Every state the run reaches, the first and the last included. -/
def Always (step : σ → α → Except ε σ) (P : σ → Prop) (s : σ) (as : List α) : Prop :=
  ∀ pre, pre <+: as → ∀ t, run step s pre = .ok t → P t

/-- Every step of the run is attempted in a state that meets `C`. -/
def Guarded (step : σ → α → Except ε σ) (C : σ → α → Prop) (s : σ) (as : List α) : Prop :=
  ∀ pre a, pre ++ [a] <+: as → ∀ t, run step s pre = .ok t → C t a

/-- Every completed step of the run does what `R` says. -/
def EachStep (step : σ → α → Except ε σ) (R : σ → α → σ → Prop) (s : σ) (as : List α) : Prop :=
  Guarded step (fun t a => ∀ u, step t a = .ok u → R t a u) s as

/-- A sequence completes if both its parts do. -/
theorem bind_ok_iff {ε β γ : Type} {x : Except ε β} {f : β → Except ε γ} {c : γ} :
    x >>= f = .ok c ↔ ∃ b, x = .ok b ∧ f b = .ok c := by
  cases x with
  | error e =>
      constructor
      · intro h
        cases h
      · rintro ⟨b, h, -⟩
        cases h
  | ok b =>
      constructor
      · intro h
        exact ⟨b, rfl, h⟩
      · rintro ⟨b', h, hf⟩
        cases h
        exact hf

@[simp] theorem run_nil (s : σ) : run step s [] = .ok s := rfl

theorem run_cons (s : σ) (a : α) (as : List α) :
    run step s (a :: as) = (step s a).bind fun t => run step t as := rfl

theorem run_cons_of_ok {s t : σ} {a : α} (h : step s a = .ok t) (as : List α) :
    run step s (a :: as) = run step t as := by
  rw [run_cons, h]
  rfl

theorem run_cons_ok {s u : σ} {a : α} {as : List α} :
    run step s (a :: as) = .ok u ↔ ∃ t, step s a = .ok t ∧ run step t as = .ok u := by
  rw [run_cons]
  cases h : step s a with
  | error e => simp [Except.bind]
  | ok t => simp [Except.bind]

theorem run_single_ok {s t : σ} {a : α} : run step s [a] = .ok t ↔ step s a = .ok t := by
  simp [run_cons_ok]

theorem run_append (s : σ) (as bs : List α) :
    run step s (as ++ bs) = (run step s as).bind fun t => run step t bs :=
  List.foldlM_append

theorem run_append_of_ok {s t : σ} {as : List α} (h : run step s as = .ok t) (bs : List α) :
    run step s (as ++ bs) = run step t bs := by
  rw [run_append, h]
  rfl

/-- **The invariant rule**: what every completed step preserves, a run preserves. -/
theorem run_invariant {I : σ → Prop}
    (hstep : ∀ s a t, I s → step s a = .ok t → I t) :
    ∀ {as : List α} {s t : σ}, I s → run step s as = .ok t → I t := by
  intro as
  induction as with
  | nil =>
      intro s t hs hrun
      cases hrun
      exact hs
  | cons a as ih =>
      intro s t hs hrun
      obtain ⟨u, hu, hrest⟩ := run_cons_ok.mp hrun
      exact ih (hstep s a u hs hu) hrest

/-! ## Unfolding the run predicates one step at a time -/

theorem always_nil {P : σ → Prop} {s : σ} : Always step P s [] ↔ P s := by
  simp [Always]

theorem always_cons {P : σ → Prop} {s : σ} {a : α} {as : List α} :
    Always step P s (a :: as) ↔
      P s ∧ ∀ t, step s a = .ok t → Always step P t as := by
  constructor
  · intro h
    refine ⟨h [] (List.nil_prefix) s rfl, fun t ht pre hpre u hu => ?_⟩
    exact h (a :: pre) (List.cons_prefix_cons.mpr ⟨rfl, hpre⟩) u
      (run_cons_ok.mpr ⟨t, ht, hu⟩)
  · rintro ⟨h0, h⟩ pre hpre u hu
    cases pre with
    | nil =>
        cases hu
        exact h0
    | cons b pre =>
        rw [List.cons_prefix_cons] at hpre
        obtain ⟨rfl, hpre⟩ := hpre
        obtain ⟨t, ht, hu⟩ := run_cons_ok.mp hu
        exact h t ht pre hpre u hu

theorem guarded_nil {C : σ → α → Prop} {s : σ} : Guarded step C s [] := by
  intro pre a h
  simp at h

theorem guarded_cons {C : σ → α → Prop} {s : σ} {a : α} {as : List α} :
    Guarded step C s (a :: as) ↔
      C s a ∧ ∀ t, step s a = .ok t → Guarded step C t as := by
  constructor
  · intro h
    refine ⟨h [] a (by simp) s rfl, fun t ht pre b hpre u hu => ?_⟩
    exact h (a :: pre) b (List.cons_prefix_cons.mpr ⟨rfl, hpre⟩) u
      (run_cons_ok.mpr ⟨t, ht, hu⟩)
  · rintro ⟨h0, h⟩ pre b hpre u hu
    cases pre with
    | nil =>
        cases hu
        rw [List.nil_append, List.cons_prefix_cons] at hpre
        obtain ⟨rfl, -⟩ := hpre
        exact h0
    | cons c pre =>
        rw [List.cons_append, List.cons_prefix_cons] at hpre
        obtain ⟨rfl, hpre⟩ := hpre
        obtain ⟨t, ht, hu⟩ := run_cons_ok.mp hu
        exact h t ht pre b hpre u hu

/-- A condition that every label of the run meets in every state. -/
theorem guarded_of_mem {C : σ → α → Prop} {s : σ} {as : List α}
    (h : ∀ a ∈ as, ∀ t, C t a) : Guarded step C s as := by
  intro pre a hpre t _
  exact h a (hpre.subset (by simp)) t

/-- A condition that can be decided in a state can be decided along a run. -/
instance decidableGuarded {C : σ → α → Prop} [∀ s a, Decidable (C s a)] :
    ∀ (as : List α) (s : σ), Decidable (Guarded step C s as)
  | [], _ => .isTrue guarded_nil
  | a :: as, s =>
      have : Decidable (∀ t, step s a = .ok t → Guarded step C t as) :=
        match _h : step s a with
        | .error _ => .isTrue nofun
        | .ok t =>
            have := decidableGuarded (C := C) as t
            decidable_of_iff (Guarded step C t as)
              ⟨fun hg _ hu => Except.ok.inj hu ▸ hg, fun hg => hg t rfl⟩
      decidable_of_iff _ guarded_cons.symm

theorem Always.last {P : σ → Prop} {s t : σ} {as : List α}
    (h : Always step P s as) (hrun : run step s as = .ok t) : P t :=
  h as (List.prefix_refl as) t hrun

theorem Always.mono {P Q : σ → Prop} {s : σ} {as : List α}
    (h : Always step P s as) (hpq : ∀ t, P t → Q t) : Always step Q s as :=
  fun pre hpre t ht => hpq t (h pre hpre t ht)

/-! ## From one step to whole runs -/

/-- An invariant that the guarded steps preserve holds in every state of a
guarded run. -/
theorem always_of_guarded {I : σ → Prop} {C : σ → α → Prop}
    (hstep : ∀ s a t, I s → C s a → step s a = .ok t → I t) :
    ∀ {as : List α} {s : σ}, I s → Guarded step C s as → Always step I s as := by
  intro as
  induction as with
  | nil => exact fun hs _ => always_nil.mpr hs
  | cons a as ih =>
      intro s hs hg
      obtain ⟨hc, hg⟩ := guarded_cons.mp hg
      exact always_cons.mpr ⟨hs, fun t ht => ih (hstep s a t hs hc ht) (hg t ht)⟩

/-- What a step does between two states with `P` is done by every step of a run
that stays in `P`. -/
theorem eachStep_of_always {P : σ → Prop} {R : σ → α → σ → Prop}
    (h : ∀ s a t, P s → P t → step s a = .ok t → R s a t) :
    ∀ {as : List α} {s : σ}, Always step P s as → EachStep step R s as := by
  intro as
  induction as with
  | nil => exact fun _ => guarded_nil
  | cons a as ih =>
      intro s hp
      obtain ⟨hs, hrest⟩ := always_cons.mp hp
      refine guarded_cons.mpr ⟨fun t ht => ?_, fun t ht => ih (hrest t ht)⟩
      exact h s a t hs (hrest t ht [] List.nil_prefix t rfl) ht

/-- An invariant of every step holds in every state of every run. -/
theorem always_of_invariant {I : σ → Prop}
    (hstep : ∀ s a t, I s → step s a = .ok t → I t) {as : List α} {s : σ}
    (hs : I s) : Always step I s as :=
  fun _ _ _ ht => run_invariant hstep hs ht

/-- **Exact conditions**: if the steps that meet `C` preserve the invariant
`J`, which gives `P`, and a step out of a `J`-state that does not meet `C`
completes in a state without `P`, then a run stays in `P` exactly when all its
steps meet `C`. -/
theorem always_iff_guarded {J P : σ → Prop} {C : σ → α → Prop}
    (hJ : ∀ s, J s → P s)
    (hgood : ∀ s a t, J s → C s a → step s a = .ok t → J t)
    (hbad : ∀ s a, J s → ¬ C s a → ∃ t, step s a = .ok t ∧ ¬ P t) :
    ∀ {as : List α} {s : σ}, J s → (Always step P s as ↔ Guarded step C s as) := by
  intro as
  induction as with
  | nil => exact fun hs => ⟨fun _ => guarded_nil, fun _ => always_nil.mpr (hJ _ hs)⟩
  | cons a as ih =>
      intro s hs
      rw [always_cons, guarded_cons]
      constructor
      · rintro ⟨-, h⟩
        -- a bad step would show in the state it leads to
        have hc : C s a := by
          by_contra hc
          obtain ⟨t, ht, hp⟩ := hbad s a hs hc
          exact hp (h t ht [] List.nil_prefix t rfl)
        exact ⟨hc, fun t ht => (ih (hgood s a t hs hc ht)).mp (h t ht)⟩
      · rintro ⟨hc, h⟩
        exact ⟨hJ s hs, fun t ht => (ih (hgood s a t hs hc ht)).mpr (h t ht)⟩

/-- Two conditions that agree in the states of an invariant, kept by the steps
that meet them, guard the same runs. -/
theorem guarded_congr {J : σ → Prop} {C D : σ → α → Prop}
    (hJ : ∀ s a t, J s → D s a → step s a = .ok t → J t)
    (hiff : ∀ s a, J s → (C s a ↔ D s a)) :
    ∀ {as : List α} {s : σ}, J s → (Guarded step C s as ↔ Guarded step D s as) := by
  intro as
  induction as with
  | nil => exact fun _ => ⟨fun _ => guarded_nil, fun _ => guarded_nil⟩
  | cons a as ih =>
      intro s hs
      rw [guarded_cons, guarded_cons, hiff s a hs]
      constructor
      · rintro ⟨hd, h⟩
        exact ⟨hd, fun t ht => (ih (hJ s a t hs hd ht)).mp (h t ht)⟩
      · rintro ⟨hd, h⟩
        exact ⟨hd, fun t ht => (ih (hJ s a t hs hd ht)).mpr (h t ht)⟩

/-- A condition on labels alone is met along a run whose steps complete when all
the labels meet it. -/
theorem guarded_iff_forall {J : σ → Prop} {C : α → Prop}
    (hstep : ∀ s a, J s → C a → ∃ t, step s a = .ok t ∧ J t) :
    ∀ {as : List α} {s : σ}, J s → (Guarded step (fun _ a => C a) s as ↔ ∀ a ∈ as, C a) := by
  intro as
  induction as with
  | nil =>
      intro s _
      simp [guarded_nil]
  | cons a as ih =>
      intro s hs
      rw [guarded_cons, List.forall_mem_cons]
      constructor
      · rintro ⟨hc, h⟩
        obtain ⟨t, ht, hj⟩ := hstep s a hs hc
        exact ⟨hc, (ih hj).mp (h t ht)⟩
      · rintro ⟨hc, h⟩
        obtain ⟨t, ht, hj⟩ := hstep s a hs hc
        refine ⟨hc, fun u hu => ?_⟩
        cases ht.symm.trans hu
        exact (ih hj).mpr h

/-- What the invariant turns one condition into, it turns along guarded runs. -/
theorem Guarded.mono {J : σ → Prop} {C D : σ → α → Prop}
    (hJ : ∀ s a t, J s → C s a → step s a = .ok t → J t)
    (himp : ∀ s a, J s → C s a → D s a) :
    ∀ {as : List α} {s : σ}, J s → Guarded step C s as → Guarded step D s as := by
  intro as
  induction as with
  | nil => exact fun _ _ => guarded_nil
  | cons a as ih =>
      intro s hs hg
      obtain ⟨hc, hg⟩ := guarded_cons.mp hg
      exact guarded_cons.mpr ⟨himp s a hs hc, fun t ht => ih (hJ s a t hs hc ht) (hg t ht)⟩

/-- **Exact conditions on steps**: if, in the states of an invariant kept by the
steps that meet `C`, what a step does meets `R` exactly when the step meets `C`,
then so do runs. -/
theorem eachStep_iff_guarded {J : σ → Prop} {C : σ → α → Prop} {R : σ → α → σ → Prop}
    (hJ : ∀ s a t, J s → C s a → step s a = .ok t → J t)
    (hiff : ∀ s a, J s → ((∀ t, step s a = .ok t → R s a t) ↔ C s a))
    {as : List α} {s : σ} (hs : J s) :
    EachStep step R s as ↔ Guarded step C s as :=
  guarded_congr hJ hiff hs

/-- The same where each step always completes and is also asked to keep `J`. -/
theorem eachStep_always_iff_guarded {J : σ → Prop} {C : σ → α → Prop} {R : σ → α → σ → Prop}
    (htotal : ∀ s a, ∃ t, step s a = .ok t)
    (hiff : ∀ s a t, J s → step s a = .ok t → (R s a t ∧ J t ↔ C s a))
    {as : List α} {s : σ} (hs : J s) :
    EachStep step R s as ∧ Always step J s as ↔ Guarded step C s as := by
  constructor
  · rintro ⟨heach, halways⟩ pre a hpre u hu
    obtain ⟨t, ht⟩ := htotal u a
    have hnext : run step s (pre ++ [a]) = .ok t := by
      rw [run_append_of_ok hu]
      exact run_single_ok.mpr ht
    exact (hiff u a t (halways pre ((List.prefix_append pre [a]).trans hpre) u hu) ht).mp
      ⟨heach pre a hpre u hu t ht, halways (pre ++ [a]) hpre t hnext⟩
  · intro hguard
    have halways : Always step J s as :=
      always_of_guarded (fun u a t hu hc ht => ((hiff u a t hu ht).mpr hc).2) hs hguard
    refine ⟨fun pre a hpre u hu t ht => ?_, halways⟩
    exact ((hiff u a t (halways pre ((List.prefix_append pre [a]).trans hpre) u hu) ht).mpr
      (hguard pre a hpre u hu)).1

/-- The same along a run whose states all have `P`. -/
theorem eachStep_iff_guarded_of_always {J P : σ → Prop} {C : σ → α → Prop} {R : σ → α → σ → Prop}
    (hJ : ∀ s a t, J s → P s → step s a = .ok t → J t)
    (hiff : ∀ s a, J s → P s → ((∀ t, step s a = .ok t → R s a t) ↔ C s a)) :
    ∀ {as : List α} {s : σ}, J s → Always step P s as →
      (EachStep step R s as ↔ Guarded step C s as) := by
  intro as
  induction as with
  | nil => exact fun _ _ => ⟨fun _ => guarded_nil, fun _ => guarded_nil⟩
  | cons a as ih =>
      intro s hs hp
      obtain ⟨hps, hrest⟩ := always_cons.mp hp
      rw [EachStep, guarded_cons, guarded_cons, hiff s a hs hps]
      constructor
      · rintro ⟨hc, h⟩
        exact ⟨hc, fun t ht => (ih (hJ s a t hs hps ht) (hrest t ht)).mp (h t ht)⟩
      · rintro ⟨hc, h⟩
        exact ⟨hc, fun t ht => (ih (hJ s a t hs hps ht) (hrest t ht)).mpr (h t ht)⟩

/-- If, along an invariant, a step completes exactly when it meets `C`, then a
run completes exactly when all its steps meet `C`. -/
theorem run_ok_iff_guarded {I : σ → Prop} {C : σ → α → Prop}
    (hI : ∀ s a t, I s → step s a = .ok t → I t)
    (hstep : ∀ s a, I s → ((∃ t, step s a = .ok t) ↔ C s a)) :
    ∀ {as : List α} {s : σ}, I s → ((∃ t, run step s as = .ok t) ↔ Guarded step C s as) := by
  intro as
  induction as with
  | nil => exact fun _ => ⟨fun _ => guarded_nil, fun _ => ⟨_, rfl⟩⟩
  | cons a as ih =>
      intro s hi
      rw [guarded_cons, ← hstep s a hi]
      constructor
      · rintro ⟨u, hu⟩
        obtain ⟨t, ht, hu⟩ := run_cons_ok.mp hu
        refine ⟨⟨t, ht⟩, fun t' ht' => ?_⟩
        cases ht.symm.trans ht'
        exact (ih (hI s a t hi ht)).mp ⟨u, hu⟩
      · rintro ⟨⟨t, ht⟩, h⟩
        obtain ⟨u, hu⟩ := (ih (hI s a t hi ht)).mpr (h t ht)
        exact ⟨u, run_cons_ok.mpr ⟨t, ht, hu⟩⟩

/-- If, along an invariant kept by the steps that meet `C`, a step completes and
does what `R` says exactly when it meets `C`, then a run completes with all its
steps so exactly when all of them meet `C`. -/
theorem ok_eachStep_iff_guarded {J : σ → Prop} {C : σ → α → Prop} {R : σ → α → σ → Prop}
    (hJ : ∀ s a t, J s → C s a → step s a = .ok t → J t)
    (hiff : ∀ s a, J s → ((∃ t, step s a = .ok t ∧ R s a t) ↔ C s a)) :
    ∀ (as : List α) {s : σ}, J s →
      ((∃ t, run step s as = .ok t) ∧ EachStep step R s as ↔ Guarded step C s as) := by
  intro as
  induction as with
  | nil => exact fun _ => ⟨fun _ => guarded_nil, fun _ => ⟨⟨_, rfl⟩, guarded_nil⟩⟩
  | cons a as ih =>
      intro s hs
      rw [EachStep, guarded_cons, guarded_cons, ← hiff s a hs]
      constructor
      · rintro ⟨⟨u, hu⟩, hr, h⟩
        obtain ⟨t, ht, hu⟩ := run_cons_ok.mp hu
        have hc := (hiff s a hs).mp ⟨t, ht, hr t ht⟩
        refine ⟨⟨t, ht, hr t ht⟩, fun t' ht' => ?_⟩
        cases ht.symm.trans ht'
        exact (ih (hJ s a t hs hc ht)).mp ⟨⟨u, hu⟩, h t ht⟩
      · rintro ⟨⟨t, ht, hr⟩, h⟩
        have hc := (hiff s a hs).mp ⟨t, ht, hr⟩
        obtain ⟨⟨u, hu⟩, hrest⟩ := (ih (hJ s a t hs hc ht)).mpr (h t ht)
        refine ⟨⟨u, run_cons_ok.mpr ⟨t, ht, hu⟩⟩, fun t' ht' => ?_, fun t' ht' => ?_⟩
        · cases ht.symm.trans ht'
          exact hr
        · cases ht.symm.trans ht'
          exact hrest

/-- The same for a condition on labels alone, with what the invariant gives in
every state. -/
theorem ok_eachStep_always_iff_forall {J Q : σ → Prop} {C : α → Prop} {R : σ → α → σ → Prop}
    (hJ : ∀ s a t, J s → C a → step s a = .ok t → J t)
    (hiff : ∀ s a, J s → ((∃ t, step s a = .ok t ∧ R s a t) ↔ C a))
    (hQ : ∀ s, J s → Q s) (as : List α) {s : σ} (hs : J s) :
    (∃ t, run step s as = .ok t) ∧ EachStep step R s as ∧ Always step Q s as ↔ ∀ a ∈ as, C a := by
  have hguarded : Guarded step (fun _ a => C a) s as ↔ ∀ a ∈ as, C a := by
    refine guarded_iff_forall (fun s a hs hc => ?_) hs
    obtain ⟨t, ht, -⟩ := (hiff s a hs).mpr hc
    exact ⟨t, ht, hJ s a t hs hc ht⟩
  have hboth := ok_eachStep_iff_guarded hJ hiff as hs
  rw [← hguarded]
  constructor
  · rintro ⟨hok, hsteps, -⟩
    exact hboth.mp ⟨hok, hsteps⟩
  · intro h
    obtain ⟨hok, hsteps⟩ := hboth.mpr h
    exact ⟨hok, hsteps, (always_of_guarded hJ hs h).mono hQ⟩

end MoxaDrivers.Machine

import Mathlib.Data.List.Range
import MoxaDrivers.Lib.Machine

/-!
# Custody of one thing at a time

A holder obtains things one after the other, and frees them. It is to hold one
while it is up and none otherwise. `Ledger` is the book of what it obtained,
holds and freed; things are named by the order in which they are obtained.
`Holder.next` says what each kind of call does, and `always_exact_iff` when a
machine whose calls are of these kinds is always exact: if no start fails after
it has taken its thing.
-/

namespace MoxaDrivers.Custody

open MoxaDrivers.Machine

/-! ## The ledger -/

structure Ledger where
  obtained : Nat
  held : Option Nat
  freed : List Nat
  deriving DecidableEq, Repr

namespace Ledger

def empty : Ledger := ⟨0, none, []⟩

/-- The next thing is obtained and kept. -/
def keep (l : Ledger) : Ledger := ⟨l.obtained + 1, some l.obtained, l.freed⟩

/-- The next thing is obtained and freed. -/
def bounce (l : Ledger) : Ledger := ⟨l.obtained + 1, l.held, l.freed ++ [l.obtained]⟩

/-- The next thing is obtained, and kept where none is held. -/
def take (l : Ledger) : Ledger := if l.held.isSome then l.bounce else l.keep

/-- What is held is freed. -/
def release (l : Ledger) : Ledger := ⟨l.obtained, none, l.freed ++ l.held.toList⟩

/-- What was obtained was freed or is held, each thing once. -/
def Balanced (l : Ledger) : Prop := (l.freed ++ l.held.toList).Perm (List.range l.obtained)

theorem balanced_empty : empty.Balanced := List.Perm.refl _

theorem Balanced.keep {l : Ledger} (h : l.Balanced) (hheld : l.held = none) :
    l.keep.Balanced := by
  rw [Balanced, hheld, Option.toList_none, List.append_nil] at h
  show (l.freed ++ [l.obtained]).Perm (List.range (l.obtained + 1))
  rw [List.range_succ]
  exact h.append_right _

theorem Balanced.bounce {l : Ledger} (h : l.Balanced) : l.bounce.Balanced := by
  show (l.freed ++ [l.obtained] ++ l.held.toList).Perm (List.range (l.obtained + 1))
  rw [List.range_succ, List.append_assoc]
  have hswap : (l.freed ++ ([l.obtained] ++ l.held.toList)).Perm
      (l.freed ++ l.held.toList ++ [l.obtained]) := by
    rw [List.append_assoc]
    exact List.perm_append_comm.append_left _
  exact hswap.trans (h.append_right _)

theorem Balanced.take {l : Ledger} (h : l.Balanced) : l.take.Balanced := by
  rw [Ledger.take]
  split
  · exact h.bounce
  · next hheld => exact h.keep (by simpa using hheld)

theorem Balanced.release {l : Ledger} (h : l.Balanced) : l.release.Balanced := by
  show (l.freed ++ l.held.toList ++ []).Perm (List.range l.obtained)
  rw [List.append_nil]
  exact h

theorem take_held (l : Ledger) : l.take.held.isSome = true := by
  rw [take]
  split
  · next hheld => exact hheld
  · rfl

theorem release_of_none {l : Ledger} (h : l.held = none) : l.release = l := by
  obtain ⟨obtained, held, freed⟩ := l
  cases h
  rw [release, Option.toList_none, List.append_nil]

/-- Nothing is freed twice. -/
theorem Balanced.once {l : Ledger} (h : l.Balanced) : l.freed.Nodup :=
  (List.nodup_append.mp (h.nodup_iff.mpr List.nodup_range)).1

/-- What is obtained and not freed is what is held. -/
theorem Balanced.outstanding {l : Ledger} (h : l.Balanced) {n : Nat} (hn : n < l.obtained) :
    n ∉ l.freed ↔ l.held = some n := by
  have hmem : n ∈ l.freed ++ l.held.toList := h.mem_iff.mpr (List.mem_range.mpr hn)
  have hapart := (List.nodup_append.mp (h.nodup_iff.mpr List.nodup_range)).2.2
  rw [List.mem_append, Option.mem_toList] at hmem
  constructor
  · exact fun hfreed => hmem.resolve_left hfreed
  · intro hheld hfreed
    exact hapart n hfreed n (Option.mem_toList.mpr hheld) rfl

end Ledger

/-! ## A holder -/

/-- The ledger of a holder, which is up or not. -/
structure Holder where
  up : Bool
  ledger : Ledger
  deriving DecidableEq, Repr

/-- What a call comes to. -/
inductive Call where
  | nothing
  /-- A start that frees what it obtained. -/
  | refused
  /-- A start that takes what it obtained and does not come up. -/
  | failed
  | started
  | stopped
  deriving DecidableEq, Repr

def Holder.next (c : Holder) : Call → Holder
  | .nothing => c
  | .refused => { c with ledger := c.ledger.bounce }
  | .failed => { c with ledger := c.ledger.take }
  | .started => ⟨true, c.ledger.take⟩
  | .stopped => ⟨false, c.ledger.release⟩

/-- One thing is held while the holder is up and none otherwise, and nothing is
lost or freed twice. -/
structure Exact (c : Holder) : Prop where
  held : c.ledger.held.isSome = c.up
  outstanding : ∀ n, n < c.ledger.obtained → (n ∉ c.ledger.freed ↔ c.ledger.held = some n)
  once : c.ledger.freed.Nodup

/-- The invariant behind it. -/
structure Kept (c : Holder) : Prop where
  held : c.ledger.held.isSome = c.up
  balanced : c.ledger.Balanced

theorem Kept.exact {c : Holder} (h : Kept c) : Exact c :=
  ⟨h.held, fun _ hn => h.balanced.outstanding hn, h.balanced.once⟩

/-- **One call**: unless a start fails. -/
theorem Kept.next {c : Holder} {a : Call} (h : Kept c) (ha : a = .failed → c.up = true) :
    Kept (c.next a) := by
  cases a with
  | nothing => exact h
  | refused => exact ⟨h.held, h.balanced.bounce⟩
  | failed =>
      refine ⟨?_, h.balanced.take⟩
      show c.ledger.take.held.isSome = c.up
      rw [ha rfl, c.ledger.take_held]
  | started => exact ⟨c.ledger.take_held, h.balanced.take⟩
  | stopped => exact ⟨rfl, h.balanced.release⟩

/-- A failed start leaves a thing with a holder that is not up. -/
theorem not_exact_failed {c : Holder} (hup : c.up = false) : ¬ Exact (c.next .failed) := by
  intro h
  have hheld : c.ledger.take.held.isSome = c.up := h.held
  rw [c.ledger.take_held, hup] at hheld
  cases hheld

/-- **When custody is exact**: a machine each of whose steps comes to a call, with
an invariant `K` that this rests on, is exact along a run if and only if no start
of the run fails. -/
theorem always_exact_iff {σ α ε : Type*} {step : σ → α → Except ε σ} {K : σ → Prop}
    {holder : σ → Holder} {call : σ → α → Call}
    (hstep : ∀ s a, K s →
      ∃ t, step s a = .ok t ∧ K t ∧ holder t = (holder s).next (call s a))
    (as : List α) {s : σ} (hK : K s) (hs : Kept (holder s)) :
    Always step (fun s => K s ∧ Exact (holder s)) s as ↔
      Guarded step (fun s a => call s a = .failed → (holder s).up = true) s as := by
  apply always_iff_guarded (J := fun s => K s ∧ Kept (holder s))
  · rintro s ⟨hK, hs⟩
    exact ⟨hK, hs.exact⟩
  · rintro s a t ⟨hK, hs⟩ ha ht
    obtain ⟨u, hu, hKu, hholder⟩ := hstep s a hK
    cases ht.symm.trans hu
    exact ⟨hKu, hholder ▸ hs.next ha⟩
  · rintro s a ⟨hK, hs⟩ ha
    obtain ⟨t, ht, -, hholder⟩ := hstep s a hK
    obtain ⟨hfailed, hup⟩ := Classical.not_imp.mp ha
    refine ⟨t, ht, fun h => ?_⟩
    rw [hholder, hfailed] at h
    exact not_exact_failed (by simpa using hup) h.2
  · exact ⟨hK, hs⟩

end MoxaDrivers.Custody

import Mathlib.Data.List.Basic
import Mathlib.Tactic.Common

/-!
# A flag held after an event

A detector is polled. An event raises its flag; the polls without one are
counted, and when there have been too many the flag is lowered. `recent` looks at
a list of events, the newest one first, and `Holds.up_eq` says that the flag is
up for two polls more than the count may reach.
-/

namespace MoxaDrivers.HoldTime

/-- The flag, and the polls counted. -/
structure Hold where
  up : Bool
  idle : Nat
  deriving DecidableEq, Repr

/-- One poll. The count is compared before it is raised. -/
def Hold.next (limit : Nat) (h : Hold) (event : Bool) : Hold :=
  if event then ⟨true, 0⟩
  else if h.idle > limit then ⟨false, 0⟩
  else ⟨h.up, h.idle + 1⟩

/-- There has been an event at one of the last `n` polls. -/
def recent (n : Nat) (events : List Bool) : Bool := (events.take n).any id

@[simp] theorem recent_nil (n : Nat) : recent n [] = false := by
  rw [recent, List.take_nil]
  rfl

@[simp] theorem recent_cons (n : Nat) (event : Bool) (events : List Bool) :
    recent (n + 1) (event :: events) = (event || recent n events) := by
  rw [recent, List.take_succ_cons, List.any_cons]
  rfl

theorem recent_false_of_le {m n : Nat} (hmn : m ≤ n) {events : List Bool}
    (h : recent n events = false) : recent m events = false := by
  rw [recent, List.any_eq_false] at h ⊢
  intro event hevent
  exact h event (List.take_subset_take_left events hmn hevent)

/-- An event shows as long as there have not been `n` polls after it. -/
theorem recent_replicate_iff {n idle : Nat} {events : List Bool} :
    recent n (List.replicate idle false ++ true :: events) = decide (idle < n) := by
  induction idle generalizing n with
  | zero =>
      cases n with
      | zero => rfl
      | succ n => exact recent_cons n true events
  | succ idle ih =>
      cases n with
      | zero => rfl
      | succ n =>
          rw [List.replicate_succ, List.cons_append, recent_cons, ih, Bool.false_or]
          exact decide_eq_decide.mpr (Nat.succ_lt_succ_iff).symm

/-- The flag that is up counts the polls since the last event, the one that is
down has had no event for so long. -/
structure Holds (limit : Nat) (h : Hold) (events : List Bool) : Prop where
  up : h.up = true → ∃ before, events = List.replicate h.idle false ++ true :: before
  idle : h.idle ≤ limit + 1
  down : h.up = false → recent (limit + 2) events = false

theorem Holds.start (limit : Nat) : Holds limit ⟨false, 0⟩ [] :=
  ⟨nofun, Nat.zero_le _, fun _ => recent_nil _⟩

/-- **One poll** keeps the count. -/
theorem Holds.next {limit : Nat} {h : Hold} {events : List Bool} (hh : Holds limit h events)
    (event : Bool) : Holds limit (h.next limit event) (event :: events) := by
  cases event with
  | true => exact ⟨fun _ => ⟨events, rfl⟩, Nat.zero_le _, nofun⟩
  | false =>
      have hdown (hup : h.up = false) : recent (limit + 2) (false :: events) = false := by
        rw [recent_cons, Bool.false_or]
        exact recent_false_of_le (Nat.le_succ _) (hh.down hup)
      rw [Hold.next, if_neg Bool.false_ne_true]
      split
      · next hidle =>
          refine ⟨nofun, Nat.zero_le _, fun _ => ?_⟩
          cases hup : h.up with
          | false => exact hdown hup
          | true =>
              obtain ⟨before, rfl⟩ := hh.up hup
              rw [recent_cons, recent_replicate_iff, Bool.false_or, decide_eq_false_iff_not]
              omega
      · next hidle =>
          refine ⟨fun hup => ?_, by show h.idle + 1 ≤ limit + 1; omega, hdown⟩
          obtain ⟨before, rfl⟩ := hh.up hup
          exact ⟨before, rfl⟩

/-- **The flag** is up exactly if there has been an event lately. -/
theorem Holds.up_eq {limit : Nat} {h : Hold} {events : List Bool} (hh : Holds limit h events) :
    h.up = recent (limit + 2) events := by
  cases hup : h.up with
  | false => exact (hh.down hup).symm
  | true =>
      have hidle := hh.idle
      obtain ⟨before, rfl⟩ := hh.up hup
      rw [recent_replicate_iff, eq_comm, decide_eq_true_iff]
      omega

end MoxaDrivers.HoldTime

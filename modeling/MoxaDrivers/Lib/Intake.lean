import Mathlib.Data.List.Basic

/-!
# Reading a stream in portions

A device holds what arrived and was not read yet. A driver reads it in portions, takes
down each reading with what it learned of it, and hands on what the reading becomes. The
device may be reset, and then loses what it holds.

`Accounted` says that nothing is read twice or out of order, that nothing is missing of
what arrived since the device was last reset, and that what is handed on is what the
readings become. Each operation keeps it.
-/

namespace MoxaDrivers.Intake

/-- `α` arrives, is read as `ρ` and handed on as `β`. -/
structure Reader (α ρ β : Type*) where
  arrived : List α
  /-- In the device. -/
  rest : List α
  readings : List ρ
  out : List β
  /-- The device was reset. -/
  reset : Bool
  /-- How many readings were made before the last reset. -/
  before : Nat
  /-- What arrived after it. -/
  since : List α

section

variable {α ρ β : Type*} {item : ρ → α} {handed : ρ → List β} {s : Reader α ρ β}

def Reader.start : Reader α ρ β := ⟨[], [], [], [], false, 0, []⟩

def Reader.arrive (s : Reader α ρ β) (a : α) : Reader α ρ β :=
  { s with arrived := s.arrived ++ [a], rest := s.rest ++ [a], since := s.since ++ [a] }

/-- The readings `rs` are made, and `out` is what was handed on then. -/
def Reader.read (s : Reader α ρ β) (rs : List ρ) (out : List β) : Reader α ρ β :=
  { s with rest := s.rest.drop rs.length, readings := s.readings ++ rs, out := out }

def Reader.drop (s : Reader α ρ β) : Reader α ρ β :=
  { s with rest := [], reset := true, before := s.readings.length, since := [] }

structure Accounted (item : ρ → α) (handed : ρ → List β) (s : Reader α ρ β) : Prop where
  out_eq : s.out = s.readings.flatMap handed
  inOrder : (s.readings.map item ++ s.rest).Sublist s.arrived
  whole : s.reset = false → s.readings.map item ++ s.rest = s.arrived
  before_le : s.before ≤ s.readings.length
  recent : (s.readings.drop s.before).map item ++ s.rest = s.since
  latest : s.since.IsSuffix s.arrived

theorem accounted_start : Accounted item handed (.start : Reader α ρ β) :=
  ⟨rfl, List.Sublist.slnil, fun _ => rfl, Nat.le_refl 0, rfl, List.suffix_rfl⟩

theorem Accounted.arrive (h : Accounted item handed s) (a : α) :
    Accounted item handed (s.arrive a) where
  out_eq := h.out_eq
  inOrder := by
    show (s.readings.map item ++ (s.rest ++ [a])).Sublist (s.arrived ++ [a])
    rw [← List.append_assoc]
    exact h.inOrder.append_right [a]
  whole hr := by
    show s.readings.map item ++ (s.rest ++ [a]) = s.arrived ++ [a]
    rw [← List.append_assoc, h.whole hr]
  before_le := h.before_le
  recent := by
    show (s.readings.drop s.before).map item ++ (s.rest ++ [a]) = s.since ++ [a]
    rw [← List.append_assoc, h.recent]
  latest := by
    obtain ⟨old, hold⟩ := h.latest
    refine ⟨old, ?_⟩
    show old ++ (s.since ++ [a]) = s.arrived ++ [a]
    rw [← List.append_assoc, hold]

/-- What the readings are of is what the device held first. -/
theorem Accounted.read (h : Accounted item handed s) {rs : List ρ} {out : List β}
    (hrs : rs.map item = s.rest.take rs.length) (hout : out = s.out ++ rs.flatMap handed) :
    Accounted item handed (s.read rs out) := by
  have hsplit : (s.readings ++ rs).map item ++ s.rest.drop rs.length =
      s.readings.map item ++ s.rest := by
    rw [List.map_append, hrs, List.append_assoc, List.take_append_drop]
  constructor
  · show out = (s.readings ++ rs).flatMap handed
    rw [hout, h.out_eq, List.flatMap_append]
  · show ((s.readings ++ rs).map item ++ s.rest.drop rs.length).Sublist s.arrived
    rw [hsplit]
    exact h.inOrder
  · intro hr
    exact hsplit.trans (h.whole hr)
  · show s.before ≤ (s.readings ++ rs).length
    rw [List.length_append]
    exact Nat.le_add_right_of_le h.before_le
  · show ((s.readings ++ rs).drop s.before).map item ++ s.rest.drop rs.length = s.since
    rw [List.drop_append_of_le_length h.before_le, List.map_append, hrs, List.append_assoc,
      List.take_append_drop, h.recent]
  · exact h.latest

theorem Accounted.drop (h : Accounted item handed s) : Accounted item handed s.drop where
  out_eq := h.out_eq
  inOrder := by
    show (s.readings.map item ++ []).Sublist s.arrived
    rw [List.append_nil]
    exact (List.sublist_append_left _ _).trans h.inOrder
  whole := nofun
  before_le := Nat.le_refl _
  recent := by
    show (s.readings.drop s.readings.length).map item ++ [] = []
    rw [List.drop_length]
    rfl
  latest := List.nil_suffix

end

end MoxaDrivers.Intake

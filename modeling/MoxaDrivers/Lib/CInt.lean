import Mathlib.Data.List.Basic
import Mathlib.Tactic.Ring
import MoxaDrivers.Lib.Bits

/-!
# Integers in C

C promotes the operands of a shift to a 32-bit `int` and gives a meaning to
counts from 0 to 31 only; an array is read within its bounds. A computation that
goes outside ends in a `CFault`. What is stored in a word is cut down to it, and
unsigned arithmetic wraps around.
-/

namespace MoxaDrivers.CInt

inductive CFault where
  /-- A shift by a count that is negative or at least the width. -/
  | shift (n : Int)
  /-- An index outside of a table. -/
  | index (i : Int)
  deriving DecidableEq, Repr

/-- The count of a shift of an `int`. -/
def shiftCount (n : Int) : Except CFault Nat :=
  if 0 ≤ n ∧ n < 32 then .ok n.toNat else .error (.shift n)

/-- `t[i]`. -/
def entry {α : Type} (t : List α) (i : Int) : Except CFault α :=
  match if 0 ≤ i then t[i.toNat]? else none with
  | some a => .ok a
  | none => .error (.index i)

theorem shiftCount_natCast {n : Nat} (h : n < 32) : shiftCount n = .ok n := by
  rw [shiftCount, if_pos ⟨by omega, by omega⟩]
  rfl

theorem shiftCount_error {n : Int} (h : ¬ (0 ≤ n ∧ n < 32)) : shiftCount n = .error (.shift n) :=
  if_neg h

theorem entry_natCast {α : Type} {t : List α} {n : Nat} {a : α} (h : t[n]? = some a) :
    entry t (n : Int) = .ok a := by
  simp only [entry, Int.natCast_nonneg, if_true, Int.toNat_natCast, h]

theorem entry_error {α : Type} {t : List α} {i : Int} (h : ¬ (0 ≤ i ∧ i < t.length)) :
    entry t i = .error (.index i) := by
  rw [entry]
  by_cases h0 : 0 ≤ i
  · have hlen : t.length ≤ i.toNat := by omega
    rw [if_pos h0, List.getElem?_eq_none hlen]
  · rw [if_neg h0]

/-! ## Bytes in `int` arithmetic -/

/-- `val &= ~m`, with `m` an `int`. -/
def clearBits (val : BitVec 8) (m : BitVec 32) : BitVec 8 := (val.setWidth 32 &&& ~~~m).setWidth 8

/-- `val |= m`. -/
def setBits (val : BitVec 8) (m : BitVec 32) : BitVec 8 := (val.setWidth 32 ||| m).setWidth 8

theorem clearBits_eq (val : BitVec 8) (m : BitVec 32) :
    clearBits val m = val &&& ~~~m.setWidth 8 := by
  ext i hi
  have hlt : i < 32 := by omega
  simp [clearBits, hlt]

theorem setBits_eq (val : BitVec 8) (m : BitVec 32) : setBits val m = val ||| m.setWidth 8 := by
  ext i hi
  have hlt : i < 32 := by omega
  simp [setBits, hlt]

theorem setField_int (val : BitVec 8) (m v : BitVec 32) (n : Nat) :
    setBits (clearBits val (m <<< n)) (v <<< n) =
      Bits.setField val n (m.setWidth 8) (v.setWidth 8) := by
  rw [setBits_eq, clearBits_eq, BitVec.setWidth_shiftLeft_of_le (by decide),
    BitVec.setWidth_shiftLeft_of_le (by decide), Bits.setField]

theorem field_int (val : BitVec 8) (m : BitVec 32) (n : Nat) :
    (val.setWidth 32 >>> n &&& m).setWidth 8 = Bits.field val n (m.setWidth 8) := by
  apply BitVec.eq_of_getLsbD_eq
  intro i hi
  have hlt : i < 32 := by omega
  have hin : val.getLsbD (n + i) = true → n + i < 32 := fun h =>
    Nat.lt_trans (BitVec.lt_of_getLsbD h) (by decide)
  simp only [Bits.field, BitVec.getLsbD_setWidth, BitVec.getLsbD_and, BitVec.getLsbD_ushiftRight,
    hi, decide_true, Bool.true_and]
  cases hbit : val.getLsbD (n + i) with
  | false => simp
  | true => simp [hin hbit]

/-! ## Words -/

/-- An integer cut down to a word is its remainder. -/
theorem toNat_ofInt {w : Nat} (x : Int) : ((BitVec.ofInt w x).toNat : Int) = x % 2 ^ w := by
  have hpos : ((2 ^ w : Nat) : Int) ≠ 0 := Int.natCast_ne_zero.mpr (Nat.ne_of_gt (Nat.two_pow_pos w))
  rw [BitVec.toNat_ofInt, Int.toNat_of_nonneg (Int.emod_nonneg _ hpos), Int.natCast_pow]
  rfl

/-! ## Division of an unsigned product -/

/-- A value that wraps around at 32 bits has the quotient of the exact one only if
it does not wrap. -/
theorem tdiv_wrapped_iff {x b : Int} (hb : 0 < b) (hb' : b ≤ 2 ^ 32) (hx : 0 ≤ x) :
    (x % 2 ^ 32).tdiv b = x / b ↔ x < 2 ^ 32 := by
  have hrem : 0 ≤ x % 2 ^ 32 := Int.emod_nonneg x (by decide)
  rw [Int.tdiv_eq_ediv_of_nonneg hrem]
  constructor
  · intro heq
    by_contra hwide
    -- one turn less is at least one divisor less
    have hless : x % 2 ^ 32 ≤ x + -1 * b := by omega
    have hquot := Int.ediv_le_ediv hb hless
    rw [heq, Int.add_mul_ediv_right x (-1) (Int.ne_of_gt hb)] at hquot
    omega
  · intro hfits
    rw [Int.emod_eq_of_lt hx hfits]

end MoxaDrivers.CInt

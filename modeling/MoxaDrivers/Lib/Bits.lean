import Mathlib.Tactic.Common

/-!
# Testing the bits of a word

`Bits.test x m` is C's `x & m` read as a condition. The lemmas push it through
the two updates that drivers make, `x |= k` and `x &= ~k`, when the masks are
the same and when they share no bit.
-/

namespace MoxaDrivers.Bits

variable {w : Nat}

/-- `x & m` as a condition. -/
def test (x m : BitVec w) : Bool := x &&& m != 0

theorem test_eq_false_iff {x m : BitVec w} : test x m = false ↔ x &&& m = 0 := by
  simp [test]

theorem test_eq_true_iff {x m : BitVec w} : test x m = true ↔ x &&& m ≠ 0 := by
  simp [test]

/-- A word that has all of a non-empty mask. -/
theorem test_or_self {x m : BitVec w} (hm : m ≠ 0) : test (x ||| m) m = true := by
  have habs : (x ||| m) &&& m = m := by ext i; simp; grind
  rw [test_eq_true_iff, habs]
  exact hm

@[simp] theorem test_clear_self (x m : BitVec w) : test (x &&& ~~~m) m = false := by
  have h0 : x &&& ~~~m &&& m = 0 := by ext i; simp
  rw [test_eq_false_iff, h0]

/-- Setting other bits leaves the bits of the mask alone. -/
theorem or_and_of_disjoint {x m k : BitVec w} (h : k &&& m = 0) : (x ||| k) &&& m = x &&& m := by
  rw [BitVec.and_comm, BitVec.and_or_distrib_left, BitVec.and_comm m k, h, BitVec.and_comm m x]
  simp

/-- Clearing other bits leaves the bits of the mask alone. -/
theorem clear_and_of_disjoint {x m k : BitVec w} (h : k &&& m = 0) :
    x &&& ~~~k &&& m = x &&& m := by
  ext i hi
  have hb : (k &&& m)[i] = (0 : BitVec w)[i] := by rw [h]
  simp only [BitVec.getElem_and] at hb
  simp only [BitVec.getElem_and, BitVec.getElem_not]
  cases hk : k[i] <;> simp_all

/-- Setting other bits does not show. -/
theorem test_or_of_disjoint {x m k : BitVec w} (h : k &&& m = 0) :
    test (x ||| k) m = test x m := by
  rw [test, or_and_of_disjoint h, test]

/-- Clearing other bits does not show. -/
theorem test_clear_of_disjoint {x m k : BitVec w} (h : k &&& m = 0) :
    test (x &&& ~~~k) m = test x m := by
  rw [test, clear_and_of_disjoint h, test]

theorem test_or (x y m : BitVec w) : test (x ||| y) m = (test x m || test y m) := by
  rw [Bool.eq_iff_iff, Bool.or_eq_true]
  simp only [test_eq_true_iff]
  have hd : (x ||| y) &&& m = x &&& m ||| y &&& m := by
    ext i hi
    simp [Bool.and_or_distrib_right]
  rw [hd]
  exact (not_congr BitVec.or_eq_zero_iff).trans Decidable.not_and_iff_not_or_not

/-- A mask made of two is met where one of them is. -/
theorem test_mask_or (x m k : BitVec w) : test x (m ||| k) = (test x m || test x k) := by
  have hcomm (m : BitVec w) : test x m = test m x := by
    rw [test, test, BitVec.and_comm]
  rw [hcomm, hcomm m, hcomm k, test_or]

theorem or_clear (x m : BitVec w) : (x ||| m) &&& ~~~m = x &&& ~~~m := by
  ext i
  simp only [BitVec.getElem_and, BitVec.getElem_or, BitVec.getElem_not]
  cases m[i] with
  | false => simp
  | true => simp

/-- Bits are cleared for good only if none of them was clear before. -/
theorem clear_eq_self_iff {x m : BitVec w} : x &&& ~~~m = x ↔ test x m = false := by
  constructor
  · intro h
    rw [← h]
    exact test_clear_self x m
  · intro h
    have hzero := test_eq_false_iff.mp h
    ext i hi
    have hbit : (x &&& m)[i] = (0 : BitVec w)[i] := by rw [hzero]
    simp only [BitVec.getElem_and, BitVec.getElem_not] at hbit ⊢
    cases hx : x[i] with
    | false => simp
    | true =>
        rw [hx, Bool.true_and] at hbit
        simp [hbit]

/-- Two words whose difference misses a mask agree on it. -/
theorem test_eq_of_xor {x y m : BitVec w} (h : test (x ^^^ y) m = false) :
    test x m = test y m := by
  have hsame : x &&& m = y &&& m := by
    ext i hi
    have hb : ((x ^^^ y) &&& m)[i] = (0 : BitVec w)[i] := by rw [test_eq_false_iff.mp h]
    simp only [BitVec.getElem_and, BitVec.getElem_xor] at hb
    simp only [BitVec.getElem_and]
    cases hx : x[i] <;> cases hy : y[i] <;> simp_all
  rw [test, hsame, test]

/-- Taking other bits away with a mask that covers `m` does not show. -/
theorem test_and_of_cover {x m k : BitVec w} (h : k &&& m = m) : test (x &&& k) m = test x m := by
  rw [test, BitVec.and_assoc, h, test]

theorem test_and_of_disjoint {x m k : BitVec w} (h : k &&& m = 0) : test (x &&& k) m = false := by
  rw [test_eq_false_iff, BitVec.and_assoc, h]
  simp

/-- What a masked word shows, the word shows. -/
theorem test_of_and {x m k : BitVec w} (h : test (x &&& k) m = true) : test x m = true := by
  rw [test_eq_true_iff] at h ⊢
  intro hx
  apply h
  rw [BitVec.and_assoc, BitVec.and_comm k m, ← BitVec.and_assoc, hx]
  simp

/-- A word put in on a condition. -/
theorem test_ite (c : Bool) (x m : BitVec w) :
    test (if c then x else 0) m = (c && test x m) := by
  cases c <;> simp [test]

/-! ## One bit -/

theorem getLsbD_bit {n : Nat} (hn : n < w) (i : Nat) :
    ((1 : BitVec w) <<< n).getLsbD i = decide (i = n) := by
  have hw : 0 < w := by omega
  by_cases hi : i = n
  · subst hi
    simp [hn]
  · by_cases hlt : i < n
    · simp [hlt, hi]
    · have hsub : ¬ i - n = 0 := by omega
      simp [hi, hsub]

theorem getLsbD_or_bit (x : BitVec w) {n : Nat} (hn : n < w) (i : Nat) :
    (x ||| (1 : BitVec w) <<< n).getLsbD i = if i = n then true else x.getLsbD i := by
  rw [BitVec.getLsbD_or, getLsbD_bit hn]
  by_cases hi : i = n
  · simp [hi]
  · simp [hi]

theorem getLsbD_clear_bit (x : BitVec w) {n : Nat} (hn : n < w) (i : Nat) :
    (x &&& ~~~((1 : BitVec w) <<< n)).getLsbD i = if i = n then false else x.getLsbD i := by
  rw [BitVec.getLsbD_and, BitVec.getLsbD_not, getLsbD_bit hn]
  by_cases hi : i = n
  · simp [hi]
  · have hlt : x.getLsbD i = true → i < w := BitVec.lt_of_getLsbD
    simpa [hi] using hlt

/-- The mask of one bit tests the bit. -/
theorem test_bit (x : BitVec w) {n : Nat} (hn : n < w) :
    test x ((1 : BitVec w) <<< n) = x.getLsbD n := by
  cases hx : x.getLsbD n with
  | true =>
      rw [test_eq_true_iff]
      intro hzero
      have hb := congrArg (BitVec.getLsbD · n) hzero
      simp only [BitVec.getLsbD_and, getLsbD_bit hn, hx] at hb
      simp at hb
  | false =>
      rw [test_eq_false_iff]
      apply BitVec.eq_of_getLsbD_eq
      intro i _
      rw [BitVec.getLsbD_and, getLsbD_bit hn]
      by_cases hi : i = n
      · rw [hi, hx]
        simp
      · simp [hi]

/-- The complement of a word has a bit that the word has not. -/
theorem test_not_bit (x : BitVec w) {n : Nat} (hn : n < w) :
    test (~~~x) ((1 : BitVec w) <<< n) = !test x ((1 : BitVec w) <<< n) := by
  rw [test_bit _ hn, test_bit _ hn, BitVec.getLsbD_not, decide_eq_true hn, Bool.true_and]

/-! ## Masks as lists of bits -/

def IsBit (b : BitVec w) : Prop := ∃ n, n < w ∧ b = (1 : BitVec w) <<< n

/-- The mask of all bits of a list. -/
def maskOf (bits : List (BitVec w)) : BitVec w := bits.foldr (· ||| ·) 0

/-- What is left of a word under the mask of one bit. -/
theorem IsBit.and_eq {b : BitVec w} (hb : IsBit b) (x : BitVec w) :
    x &&& b = if test x b then b else 0 := by
  obtain ⟨n, hn, rfl⟩ := hb
  rw [test_bit x hn]
  apply BitVec.eq_of_getLsbD_eq
  intro i _
  rw [BitVec.getLsbD_and, getLsbD_bit hn]
  by_cases hi : i = n
  · rw [hi]
    cases x.getLsbD n with
    | true => simp [hn]
    | false => simp
  · cases x.getLsbD n with
    | true => simp only [hi, decide_false, Bool.and_false, if_true, getLsbD_bit hn]
    | false => simp [hi]

theorem IsBit.ne_zero {b : BitVec w} (hb : IsBit b) : b ≠ 0 := by
  obtain ⟨n, hn, rfl⟩ := hb
  intro hzero
  have hbit := getLsbD_bit hn n
  rw [hzero] at hbit
  simp at hbit

/-- A word under a mask is made of those bits of the mask that it has. -/
theorem and_maskOf {bits : List (BitVec w)} (h : ∀ b ∈ bits, IsBit b) (x : BitVec w) :
    x &&& maskOf bits = maskOf (bits.filter (test x ·)) := by
  induction bits with
  | nil => exact BitVec.and_zero
  | cons b bits ih =>
      obtain ⟨hb, hbits⟩ := List.forall_mem_cons.mp h
      show x &&& (b ||| maskOf bits) = _
      rw [BitVec.and_or_distrib_left, ih hbits, hb.and_eq, List.filter_cons]
      split
      · rfl
      · exact BitVec.zero_or

/-- Bits that are apart make up one of them only if there are no others. -/
theorem maskOf_eq_head_iff {b : BitVec w} {bits : List (BitVec w)}
    (hbits : ∀ c ∈ bits, IsBit c ∧ c &&& b = 0) : maskOf (b :: bits) = b ↔ bits = [] := by
  constructor
  · intro h
    rw [List.eq_nil_iff_forall_not_mem]
    intro a ha
    obtain ⟨hbit, hapart⟩ := hbits a ha
    apply hbit.ne_zero
    -- the mask has all of its bits, and has none of a
    have hcovers : ∀ bits : List (BitVec w), a ∈ bits → a &&& maskOf bits = a := by
      intro bits
      induction bits with
      | nil => exact fun hmem => absurd hmem (List.not_mem_nil)
      | cons d bits ih =>
          intro hmem
          show a &&& (d ||| maskOf bits) = a
          rw [BitVec.and_or_distrib_left]
          obtain rfl | hmem := List.mem_cons.mp hmem
          · ext i hi
            simp only [BitVec.getElem_or, BitVec.getElem_and]
            cases a[i] <;> simp
          · rw [ih hmem]
            ext i hi
            simp only [BitVec.getElem_or, BitVec.getElem_and]
            cases a[i] <;> simp
    have hzero := hcovers (b :: bits) (List.mem_cons_of_mem b ha)
    rw [h, hapart] at hzero
    exact hzero.symm
  · rintro rfl
    exact BitVec.or_zero

/-! ## Words that agree on a mask -/

/-- `x` and `y` have the same bits under the mask. -/
def SameOn (m x y : BitVec w) : Prop := x &&& m = y &&& m

instance (m x y : BitVec w) : Decidable (SameOn m x y) := inferInstanceAs (Decidable (_ = _))

/-- The agreement and a mask within the mask, bit by bit. -/
theorem sameOn_bits {m k x y : BitVec w} (hk : k &&& m = k) (h : SameOn m x y) {i : Nat}
    (hi : i < w) : (x[i] && m[i]) = (y[i] && m[i]) ∧ (k[i] && m[i]) = k[i] := by
  have hsame : (x &&& m)[i] = (y &&& m)[i] := by rw [h]
  have hcover : (k &&& m)[i] = k[i] := by rw [hk]
  simp only [BitVec.getElem_and] at hsame hcover
  exact ⟨hsame, hcover⟩

/-- Words that agree have complements that agree. -/
theorem sameOn_not {m x y : BitVec w} (h : SameOn m x y) : SameOn m (~~~x) (~~~y) := by
  show ~~~x &&& m = ~~~y &&& m
  ext i hi
  have hsame : (x &&& m)[i] = (y &&& m)[i] := by rw [h]
  simp only [BitVec.getElem_and, BitVec.getElem_not] at hsame ⊢
  revert hsame
  cases x[i] <;> cases y[i] <;> cases m[i] <;> simp

/-- Words that agree on two masks agree on both together. -/
theorem sameOn_union {m k x y : BitVec w} (hm : SameOn m x y) (hk : SameOn k x y) :
    SameOn (m ||| k) x y := by
  show x &&& (m ||| k) = y &&& (m ||| k)
  rw [BitVec.and_or_distrib_left, BitVec.and_or_distrib_left, hm, hk]

/-- Words that agree everywhere. -/
theorem sameOn_allOnes {x y : BitVec w} : SameOn (BitVec.allOnes w) x y ↔ x = y := by
  rw [SameOn, BitVec.and_allOnes, BitVec.and_allOnes]

/-- Setting bits of the mask keeps the agreement if the other word has them. -/
theorem sameOn_or_iff {m k x y : BitVec w} (hk : k &&& m = k) (h : SameOn m x y) :
    SameOn m (x ||| k) y ↔ y &&& k = k := by
  constructor
  · intro heq
    ext i hi
    obtain ⟨hsame, hcover⟩ := sameOn_bits hk h hi
    have hbit : ((x ||| k) &&& m)[i] = (y &&& m)[i] := by rw [heq]
    simp only [BitVec.getElem_and, BitVec.getElem_or] at hbit ⊢
    revert hsame hcover hbit
    cases x[i] <;> cases y[i] <;> cases m[i] <;> cases k[i] <;> simp
  · intro heq
    show (x ||| k) &&& m = y &&& m
    ext i hi
    obtain ⟨hsame, hcover⟩ := sameOn_bits hk h hi
    have hbit : (y &&& k)[i] = k[i] := by rw [heq]
    simp only [BitVec.getElem_and, BitVec.getElem_or] at hbit ⊢
    revert hsame hcover hbit
    cases x[i] <;> cases y[i] <;> cases m[i] <;> cases k[i] <;> simp

/-- Clearing bits of the mask keeps the agreement if the other word has none of
them. -/
theorem sameOn_clear_iff {m k x y : BitVec w} (hk : k &&& m = k) (h : SameOn m x y) :
    SameOn m (x &&& ~~~k) y ↔ y &&& k = 0 := by
  constructor
  · intro heq
    ext i hi
    obtain ⟨hsame, hcover⟩ := sameOn_bits hk h hi
    have hbit : (x &&& ~~~k &&& m)[i] = (y &&& m)[i] := by rw [heq]
    simp only [BitVec.getElem_and, BitVec.getElem_not] at hbit ⊢
    revert hsame hcover hbit
    cases x[i] <;> cases y[i] <;> cases m[i] <;> cases k[i] <;> simp
  · intro heq
    show x &&& ~~~k &&& m = y &&& m
    ext i hi
    obtain ⟨hsame, hcover⟩ := sameOn_bits hk h hi
    have hbit : (y &&& k)[i] = (0 : BitVec w)[i] := by rw [heq]
    simp only [BitVec.getElem_and, BitVec.getElem_not] at hbit ⊢
    revert hsame hcover hbit
    cases x[i] <;> cases y[i] <;> cases m[i] <;> cases k[i] <;> simp

/-- Replacing the bits of a mask gives the new word's bits anywhere within it. -/
theorem sameOn_replace {m k : BitVec w} (hk : k &&& m = k) (x y : BitVec w) :
    SameOn k (x &&& ~~~m ||| y &&& m) y := by
  show (x &&& ~~~m ||| y &&& m) &&& k = y &&& k
  ext i hi
  have hcover : (k &&& m)[i] = k[i] := by rw [hk]
  simp only [BitVec.getElem_and, BitVec.getElem_or, BitVec.getElem_not] at hcover ⊢
  revert hcover
  cases x[i] <;> cases y[i] <;> cases m[i] <;> cases k[i] <;> simp

/-- Replacing bits by themselves. -/
theorem replace_self (m x : BitVec w) : x &&& ~~~m ||| x &&& m = x := by
  ext i
  simp only [BitVec.getElem_or, BitVec.getElem_and, BitVec.getElem_not]
  cases m[i] with
  | true => simp
  | false => simp

/-- Replacing the bits of a mask does not show elsewhere. -/
theorem replace_sameOn {m k l : BitVec w} (hk : k &&& m = k) (hml : m &&& l = 0) {x : BitVec w} :
    SameOn l (x &&& ~~~m ||| k) x := by
  show (x &&& ~~~m ||| k) &&& l = x &&& l
  ext i hi
  have hcover : (k &&& m)[i] = k[i] := by rw [hk]
  have hapart : (m &&& l)[i] = (0 : BitVec w)[i] := by rw [hml]
  simp only [BitVec.getElem_and, BitVec.getElem_or, BitVec.getElem_not] at hcover hapart ⊢
  revert hcover hapart
  cases x[i] <;> cases k[i] <;> cases m[i] <;> cases l[i] <;> simp

/-! ## Fields of a word -/

/-- The field of `x` with the mask `m` at the bit `s`. -/
def field (x : BitVec w) (s : Nat) (m : BitVec w) : BitVec w := x >>> s &&& m

/-- `x` with the value `v` in that field. -/
def setField (x : BitVec w) (s : Nat) (m v : BitVec w) : BitVec w :=
  x &&& ~~~(m <<< s) ||| v <<< s

/-- A mask that survives being moved to `s` lies within the word there. -/
theorem field_fits {m : BitVec w} {s : Nat} (hm : m <<< s >>> s = m) {i : Nat}
    (h : m.getLsbD i = true) : s + i < w := by
  rw [← hm, BitVec.getLsbD_ushiftRight, BitVec.getLsbD_shiftLeft] at h
  simp only [Bool.and_eq_true, decide_eq_true_eq] at h
  exact h.1.1

/-- A bit of a value that its mask covers. -/
theorem getLsbD_covered {m v : BitVec w} (hv : v &&& m = v) {i : Nat}
    (h : v.getLsbD i = true) : m.getLsbD i = true := by
  have hbit : v.getLsbD i = (v.getLsbD i && m.getLsbD i) := by
    rw [← BitVec.getLsbD_and, hv]
  rw [h, Bool.true_and] at hbit
  exact hbit.symm

/-- A field that fits reads back what is put in. -/
theorem field_setField {x m v : BitVec w} {s : Nat} (hm : m <<< s >>> s = m)
    (hv : v &&& m = v) : field (setField x s m v) s m = v := by
  apply BitVec.eq_of_getLsbD_eq
  intro i hi
  have hfit := field_fits hm (i := i)
  have hcov := getLsbD_covered hv (i := i)
  simp only [field, setField, BitVec.getLsbD_and, BitVec.getLsbD_ushiftRight, BitVec.getLsbD_or,
    BitVec.getLsbD_not, BitVec.getLsbD_shiftLeft]
  have hsub : s + i - s = i := by omega
  have hlt : ¬ s + i < s := by omega
  rw [hsub]
  cases hmi : m.getLsbD i <;> cases hvi : v.getLsbD i <;> simp_all

/-- Fields that do not overlap do not show in one another. -/
theorem field_setField_of_disjoint {x m v : BitVec w} {s t : Nat}
    (hst : m <<< s &&& m <<< t = 0) (hm : m <<< t >>> t = m) (hv : v &&& m = v) :
    field (setField x s m v) t m = field x t m := by
  apply BitVec.eq_of_getLsbD_eq
  intro i hi
  have hfit := field_fits hm (i := i)
  have hapart : ((m <<< s).getLsbD (t + i) && (m <<< t).getLsbD (t + i)) = false := by
    rw [← BitVec.getLsbD_and, hst]
    simp
  have hcov := getLsbD_covered hv (i := t + i - s)
  have hsub : t + i - t = i := by omega
  have hlt : ¬ t + i < t := by omega
  simp only [BitVec.getLsbD_shiftLeft, hsub] at hapart
  simp only [field, setField, BitVec.getLsbD_and, BitVec.getLsbD_ushiftRight, BitVec.getLsbD_or,
    BitVec.getLsbD_not, BitVec.getLsbD_shiftLeft]
  cases hmi : m.getLsbD i <;> cases hvi : v.getLsbD (t + i - s) <;>
    cases hms : m.getLsbD (t + i - s) <;> simp_all

/-- Nothing outside of a field changes. -/
theorem setField_sameOn {m v : BitVec w} (hv : v &&& m = v) (x : BitVec w) (s : Nat) :
    SameOn (~~~(m <<< s)) (setField x s m v) x := by
  show (x &&& ~~~(m <<< s) ||| v <<< s) &&& ~~~(m <<< s) = x &&& ~~~(m <<< s)
  have hcov : v <<< s &&& m <<< s = v <<< s := by
    rw [← BitVec.shiftLeft_and_distrib, hv]
  ext i hi
  have hc : (v <<< s &&& m <<< s)[i] = (v <<< s)[i] := by rw [hcov]
  simp only [BitVec.getElem_and, BitVec.getElem_or, BitVec.getElem_not] at hc ⊢
  revert hc
  cases x[i] <;> cases (v <<< s)[i] <;> cases (m <<< s)[i] <;> simp

/-- A field put into an old copy of a word is put into the word, when the two
agree outside of it. -/
theorem setField_of_sameOn {x y m v : BitVec w} {s : Nat} (hv : v &&& m = v)
    (h : SameOn (~~~(m <<< s)) (setField x s m v) y) : setField x s m v = setField y s m v := by
  have hcov : v <<< s &&& m <<< s = v <<< s := by
    rw [← BitVec.shiftLeft_and_distrib, hv]
  ext i hi
  have hbit : (setField x s m v &&& ~~~(m <<< s))[i] = (y &&& ~~~(m <<< s))[i] := by rw [h]
  have hc : (v <<< s &&& m <<< s)[i] = (v <<< s)[i] := by rw [hcov]
  simp only [setField, BitVec.getElem_and, BitVec.getElem_or, BitVec.getElem_not] at hbit hc ⊢
  revert hbit hc
  cases x[i] <;> cases y[i] <;> cases (v <<< s)[i] <;> cases (m <<< s)[i] <;> simp

end MoxaDrivers.Bits

import Mathlib.Algebra.Order.Group.Abs
import Mathlib.Algebra.Order.Group.Int
import Mathlib.Tactic.Linarith
import Mathlib.Tactic.Ring
import MoxaDrivers.Lib.Argmin
import MoxaDrivers.Lib.Cover
import MoxaDrivers.Lib.CInt
import MoxaDrivers.Mxupcie.RateSafety

/-!
# Rates outside the table

What the search of `set_linear_baud` finds, and how far the rate that it
programs is from the one asked for. A bit takes `i * j` clocks: `i` is the
divisor and `j` the product of the prescaler and the number of samples, and the
search ends with the pair that comes closest.
-/

namespace MoxaDrivers.Mxupcie

open MoxaDrivers.Argmin MoxaDrivers.Cover MoxaDrivers.Machine MoxaDrivers.Mxser

/-! ## The search -/

/-- How far the rate of `n` clocks a bit is from `r`; the division is C's. -/
def rateDeviation (r n : Int) : Int := |frequency.tdiv n - r|

/-- The pairs of the double loop, in their order. -/
def pairs : List (Int × Int) :=
  (List.range maxDivisor).flatMap fun k => sequences.map fun j => (((k + 1 : Nat) : Int), j)

/-- The loop variables after a pair is taken. -/
def takePair (r : Int) (p : Int × Int) : LinearSearch := ⟨rateDeviation r (p.1 * p.2), p.1, p.2⟩

theorem mem_pairs {i j : Int} : (i, j) ∈ pairs ↔ (1 ≤ i ∧ i ≤ maxDivisor) ∧ j ∈ sequences := by
  have hmax : (maxDivisor : Int) = 255 := rfl
  simp only [pairs, List.mem_flatMap, List.mem_range, List.mem_map, Prod.mk.injEq]
  constructor
  · rintro ⟨k, hk, j', hj', rfl, rfl⟩
    exact ⟨⟨by omega, by omega⟩, hj'⟩
  · rintro ⟨⟨hi1, hi2⟩, hj⟩
    exact ⟨(i - 1).toNat, by omega, j, hj, by omega, rfl⟩

/-- The two loops are one loop over the pairs. -/
theorem searchLinear_eq (r : Int) :
    searchLinear r = pairs.foldl (fun b p => considerPair r p.1 b p.2) ⟨frequency, 0, 0⟩ := by
  rw [pairs, List.foldl_flatMap]
  simp only [List.foldl_map]
  rfl

theorem tdiv_frequency_le (n : Int) : |frequency.tdiv n| ≤ frequency := by
  have hle := Int.natAbs_tdiv_le_natAbs frequency n
  have hfreq : frequency.natAbs = 14745600 := rfl
  have hval : frequency = 14745600 := rfl
  rw [Int.abs_eq_natAbs]
  omega

theorem tdiv_frequency_nonneg {n : Int} (hn : 0 < n) : 0 ≤ frequency.tdiv n :=
  Int.tdiv_nonneg (by decide) (Int.le_of_lt hn)

/-- The whole part of the rate of `n` clocks a bit. -/
theorem tdiv_frequency_bounds {n : Int} (hn : 0 < n) :
    frequency.tdiv n * n ≤ frequency ∧ frequency < (frequency.tdiv n + 1) * n := by
  have hle := Int.tdiv_mul_le frequency (Int.ne_of_gt hn)
  rw [if_pos (by decide)] at hle
  exact ⟨by omega, Int.lt_tdiv_add_one_mul_self frequency hn⟩

/-- No accuracy overflows. -/
theorem accuracy_eq {r rate : Int} (hup : rate - r < 2 ^ 31) (hdown : r - rate < 2 ^ 31) :
    (if rate > r then int32 (rate - r) else int32 (r - rate)) = |rate - r| := by
  by_cases hgt : rate > r
  · rw [if_pos hgt, int32_of_lt (by omega) hup, abs_of_pos (by omega)]
  · rw [if_neg hgt, int32_of_lt (by omega) hdown, abs_of_nonpos (by omega)]
    omega

theorem considerPair_keeps {r : Int} (h0 : 0 ≤ r) (hr : r + frequency < 2 ^ 31) :
    KeepsBest (fun p : Int × Int => rateDeviation r (p.1 * p.2)) LinearSearch.min (takePair r)
      (fun b p => considerPair r p.1 b p.2) where
  worth_record _ := rfl
  step_eq b p := by
    have hfreq : frequency = 14745600 := rfl
    obtain ⟨hlo, hhi⟩ := abs_le.mp (tdiv_frequency_le (p.1 * p.2))
    simp only [considerPair]
    rw [accuracy_eq (by omega) (by omega)]
    rfl

/-- The slowest of the rates that no pair comes closer to than the start of the
search. -/
def unreachedRate : Int := 18432000

theorem pair_bounds {i j : Int} (h : (i, j) ∈ pairs) : 1 ≤ i ∧ i ≤ 255 ∧ 4 ≤ j ∧ j ≤ 46 := by
  obtain ⟨⟨hi1, hi2⟩, hj⟩ := mem_pairs.mp h
  exact ⟨hi1, hi2, sequences_bounds hj⟩

/-- **The search** ends with a pair, and none comes closer. -/
theorem searchLinear_spec {r : Int} (h1 : 1 ≤ r) (hr : r < unreachedRate) :
    ∃ p ∈ pairs, searchLinear r = takePair r p ∧
      ∀ p' ∈ pairs, rateDeviation r (p.1 * p.2) ≤ rateDeviation r (p'.1 * p'.2) := by
  have hval : unreachedRate = 18432000 := rfl
  have hfreq : frequency = 14745600 := rfl
  have hfirst : ((1, 4) : Int × Int) ∈ pairs := mem_pairs.mpr ⟨by decide, by decide⟩
  -- the very first pair is closer than the start
  have hcloser : rateDeviation r (1 * 4) < frequency := by
    have hrate : frequency.tdiv (1 * 4) = 3686400 := rfl
    rw [rateDeviation, hrate, abs_lt]
    omega
  rw [searchLinear_eq]
  exact (considerPair_keeps (by omega) (by omega)).foldl_of_lt hfirst hcloser

/-- From `unreachedRate` on every pair is too slow. -/
theorem searchLinear_unreached {r : Int} (h1 : unreachedRate ≤ r) (hr : r + frequency < 2 ^ 31) :
    searchLinear r = ⟨frequency, 0, 0⟩ := by
  have hval : unreachedRate = 18432000 := rfl
  have hfreq : frequency = 14745600 := rfl
  rw [searchLinear_eq]
  refine (considerPair_keeps (by omega) hr).foldl_of_le ?_
  rintro ⟨i, j⟩ hp
  obtain ⟨hi1, -, hj4, -⟩ := pair_bounds hp
  have hclocks : 4 ≤ i * j := by nlinarith
  have hslow : frequency.tdiv (i * j) ≤ 3686400 := by
    have hfour := Int.mul_le_mul_of_nonneg_left hclocks (tdiv_frequency_nonneg (n := i * j) (by omega))
    have hmul := (tdiv_frequency_bounds (n := i * j) (by omega)).1
    omega
  show frequency ≤ |frequency.tdiv (i * j) - r|
  rw [abs_of_nonpos (by omega)]
  omega

/-! ## Prescaler and samples -/

/-- The prescaler `M` and the samples of `SCR` and `N` take `j` clocks. -/
structure Encodes (m scr n j : Int) : Prop where
  prescaler : m = 1 ∨ m = 2
  scrRange : 0 ≤ scr ∧ scr ≤ 12
  cprRange : 0 ≤ n ∧ n ≤ 7
  product : m * (16 - scr + n) = j

/-- `M`, `SCR` and `N` at the end of the accuracy branch. -/
def selected (sequence : Int) : Int × Int × Int :=
  let halved := sequence > maxSequence / 2
  let samples := selectSamples (if halved then sequence / 2 else sequence)
  (if halved then 2 else 1, samples.1, samples.2)

/-- Every value of `j` has an encoding, those above 23 through their half. -/
theorem selected_encodes {j : Int} (hj : j ∈ sequences) :
    Encodes (selected j).1 (selected j).2.1 (selected j).2.2 j := by
  have hall : ∀ j ∈ sequences, ((selected j).1 = 1 ∨ (selected j).1 = 2) ∧
      (0 ≤ (selected j).2.1 ∧ (selected j).2.1 ≤ 12) ∧
      (0 ≤ (selected j).2.2 ∧ (selected j).2.2 ≤ 7) ∧
      (selected j).1 * (16 - (selected j).2.1 + (selected j).2.2) = j := by decide
  obtain ⟨hm, hscr, hcpr, hj⟩ := hall j hj
  exact ⟨hm, hscr, hcpr, hj⟩

/-- Every product of a prescaler and 4 to 23 samples is a value of `j`. -/
theorem mem_sequences {m len : Int} (hm : m = 1 ∨ m = 2) (h4 : 4 ≤ len) (h23 : len ≤ 23) :
    m * len ∈ sequences := by
  have hall : ∀ k ∈ List.range 20, (1 * (4 + k) : Int) ∈ sequences ∧
      (2 * (4 + k) : Int) ∈ sequences := by decide
  obtain ⟨hone, htwo⟩ := hall (len - 4).toNat (List.mem_range.mpr (by omega))
  have hlen : (4 + ((len - 4).toNat : Int)) = len := by omega
  rw [hlen] at hone htwo
  rcases hm with rfl | rfl
  · exact hone
  · exact htwo

/-- What the accuracy branch hands to the registers. -/
theorem splitSequence_accurate {best : LinearSearch} {deviation : Int} (h : deviation ≤ 3) :
    splitSequence best deviation = ⟨best.divisor, BitVec.ofInt 8 (selected best.sequence).2.1,
      BitVec.ofInt 8 ((selected best.sequence).1 * 8 + (selected best.sequence).2.2)⟩ := by
  rw [splitSequence, if_pos h]
  rfl

theorem splitSequence_default {best : LinearSearch} {deviation : Int} (h : ¬ deviation ≤ 3) :
    splitSequence best deviation = ⟨best.divisor, 0, 8⟩ :=
  if_neg h

/-! ## The search is optimal -/

/-- The pair is one that the registers can hold, and none that they can hold
comes closer to `r`. -/
structure ClosestPair (r i j : Int) : Prop where
  divisor : 1 ≤ i ∧ i ≤ maxDivisor
  sequence : j ∈ sequences
  samples : ∃ m len : Int, (m = 1 ∨ m = 2) ∧ 4 ≤ len ∧ len ≤ 23 ∧ j = m * len
  minimal : ∀ i' m len : Int, 1 ≤ i' → i' ≤ maxDivisor → m = 1 ∨ m = 2 → 4 ≤ len → len ≤ 23 →
    rateDeviation r (i * j) ≤ rateDeviation r (i' * (m * len))

/-- The accuracy test of `set_linear_baud`. -/
def AccuracyBranch (r : Int) : Prop :=
  (int32 ((searchLinear r).min * 100)).tdiv (int32 (r * 100)) ≤ 3

/-- What `set_linear_baud` finds for `r`. -/
structure SearchCorrect (r : Int) : Prop where
  closest : ClosestPair r (searchLinear r).divisor (searchLinear r).sequence
  encoded : AccuracyBranch r → ∃ m scr n, Encodes m scr n (searchLinear r).sequence ∧
    linearBaud r = .ok ⟨(searchLinear r).divisor, BitVec.ofInt 8 scr, BitVec.ofInt 8 (m * 8 + n)⟩

theorem linearBaud_eq {r : Int} (hr : int32 (r * 100) ≠ 0) :
    linearBaud r = .ok (splitSequence (searchLinear r)
      ((int32 ((searchLinear r).min * 100)).tdiv (int32 (r * 100)))) := by
  rw [linearBaud, cdiv_of_ne _ hr]
  rfl

/-- **The search** is optimal and what it finds can be encoded, for every rate
that some pair comes closer to than the start of the search. `mx_set_baud` asks
for none above `MaxCanSetBaudRate`. -/
theorem linearSearch_correct {r : Int} (h1 : 1 ≤ r) (hr : r < 18432000) : SearchCorrect r := by
  obtain ⟨⟨i, j⟩, hp, hsearch, hbest⟩ := searchLinear_spec h1 hr
  obtain ⟨hi, hj⟩ := mem_pairs.mp hp
  have hfit : int32 (r * 100) = r * 100 := int32_of_lt (by omega) (by omega)
  constructor
  · rw [hsearch]
    obtain ⟨hm, ⟨hscr0, hscr12⟩, ⟨hn0, hn7⟩, hprod⟩ := selected_encodes hj
    refine ⟨hi, hj, ⟨_, _, hm, ?_, ?_, hprod.symm⟩, ?_⟩
    · omega
    · omega
    · intro i' m len hi1 hi2 hm h4 h23
      exact hbest (i', m * len) (mem_pairs.mpr ⟨⟨hi1, hi2⟩, mem_sequences hm h4 h23⟩)
  · intro haccurate
    refine ⟨_, _, _, selected_encodes ?_, ?_⟩
    · rw [hsearch]
      exact hj
    · rw [linearBaud_eq (by omega), splitSequence_accurate haccurate]

theorem linearSearch_correct_nonstandard : (1 : Int) ≤ 250000 ∧ SearchCorrect 250000 :=
  ⟨by decide, linearSearch_correct (by decide) (by decide)⟩

/-- At the first rate that nothing reaches the search ends without a pair. -/
theorem linearSearch_unreached : (1 : Int) ≤ 18432000 ∧ ¬ SearchCorrect 18432000 := by
  refine ⟨by decide, fun h => ?_⟩
  have hdivisor := h.closest.divisor.1
  rw [searchLinear_unreached (by decide) (by decide)] at hdivisor
  exact absurd hdivisor (by decide)

/-! ## What is programmed -/

/-- The clocks of a bit: divisor, prescaler and samples as the registers have
them. -/
def Uart.bitClocks (u : Uart) : Int :=
  (u.dlm.toNat * 256 + u.dll.toNat : Int) *
    ((u.cpr.toNat / 8 : Int) * (16 - u.scr.toNat + u.cpr.toNat % 8))

/-- The rate of `n` clocks a bit is within three per cent of `r`, in whole
numbers: `|frequency / n - r| ≤ 3 / 100 * r`. -/
def WithinThreePercent (r n : Int) : Prop := 100 * |frequency - r * n| ≤ 3 * (r * n)

theorem toNat_byte {x : Int} (h0 : 0 ≤ x) (h : x < 256) : ((BitVec.ofInt 8 x).toNat : Int) = x := by
  have hrem : x % 2 ^ 8 = x := Int.emod_eq_of_lt h0 (by omega)
  rw [CInt.toNat_ofInt, hrem]

theorem bitClocks_of {u : Uart} {i m scr n j : Int} (hi1 : 1 ≤ i) (hi2 : i ≤ 255)
    (hj : Encodes m scr n j) (hdll : u.dll = BitVec.ofInt 8 i)
    (hdlm : u.dlm = BitVec.ofInt 8 (i / 256)) (hscr : u.scr = BitVec.ofInt 8 scr)
    (hcpr : u.cpr = BitVec.ofInt 8 (m * 8 + n)) : u.bitClocks = i * j := by
  obtain ⟨hm, ⟨hscr0, hscr12⟩, ⟨hn0, hn7⟩, hprod⟩ := hj
  have hm2 : 1 ≤ m ∧ m ≤ 2 := by omega
  have hcpr8 : (m * 8 + n) / 8 = m := by omega
  have hcprm : (m * 8 + n) % 8 = n := by omega
  have hdlm0 : i / 256 = 0 := by omega
  rw [Uart.bitClocks, hdll, hdlm, hscr, hcpr, toNat_byte (by omega) (by omega),
    toNat_byte (by omega) (by omega), toNat_byte (by omega) (by omega),
    toNat_byte (by omega) (by omega), hcpr8, hcprm, hprod, hdlm0]
  ring

/-- Outside the accuracy branch 16 clocks are left, one of the values of `j`. -/
theorem encodes_default : Encodes 1 0 0 16 :=
  ⟨.inl rfl, ⟨by decide, by decide⟩, ⟨by decide, by decide⟩, by decide⟩

/-- The registers hold a pair of the loops, in the accuracy branch that of the
search. -/
theorem setLinearBaud_clocks {u v : Uart} {r : Int} (h1 : 1 ≤ r) (hr : r < unreachedRate)
    (h : setLinearBaud u r = .ok v) {p : Int × Int} (hp : p ∈ pairs)
    (hsearch : searchLinear r = takePair r p) :
    ∃ p' ∈ pairs, v.bitClocks = p'.1 * p'.2 ∧ (AccuracyBranch r → p' = p) := by
  have hval : unreachedRate = 18432000 := rfl
  have hfit : int32 (r * 100) = r * 100 := int32_of_lt (by omega) (by omega)
  obtain ⟨b, hb, rfl⟩ := setLinearBaud_ok h
  obtain rfl := Except.ok.inj ((linearBaud_eq (by omega)).symm.trans hb)
  obtain ⟨i, j⟩ := p
  obtain ⟨hi1, hi2, -, -⟩ := pair_bounds hp
  obtain ⟨hi, hj⟩ := mem_pairs.mp hp
  by_cases hacc : AccuracyBranch r
  · refine ⟨(i, j), hp, ?_, fun _ => rfl⟩
    rw [splitSequence_accurate hacc, hsearch]
    exact bitClocks_of hi1 hi2 (selected_encodes hj) rfl rfl rfl rfl
  · refine ⟨(i, 16), mem_pairs.mpr ⟨hi, by decide⟩, ?_, fun hyes => absurd hyes hacc⟩
    rw [splitSequence_default hacc, hsearch]
    exact bitClocks_of hi1 hi2 encodes_default rfl rfl rfl rfl

/-! ## How close the rates are -/

/-- A whole deviation bounds the exact one, but for one clock a second. -/
theorem clocks_of_deviation {r n D : Int} (hn : 0 < n) (h : rateDeviation r n ≤ D) :
    (r - D) * n ≤ frequency ∧ frequency < (r + D + 1) * n := by
  obtain ⟨hlo, hhi⟩ := tdiv_frequency_bounds hn
  obtain ⟨hdown, hup⟩ := abs_le.mp h
  have hslow : (r - D) * n ≤ frequency.tdiv n * n :=
    Int.mul_le_mul_of_nonneg_right (by omega) (by omega)
  have hfast : (frequency.tdiv n + 1) * n ≤ (r + D + 1) * n :=
    Int.mul_le_mul_of_nonneg_right (by omega) (by omega)
  exact ⟨by omega, by omega⟩

/-- The two sides of the three per cent. -/
theorem withinThreePercent_iff {r n : Int} :
    WithinThreePercent r n ↔ 97 * (r * n) ≤ 100 * frequency ∧ 100 * frequency ≤ 103 * (r * n) := by
  rw [WithinThreePercent]
  have habs : |frequency - r * n| = frequency - r * n ∨ |frequency - r * n| = -(frequency - r * n) :=
    abs_choice _
  have hle : frequency - r * n ≤ |frequency - r * n| := le_abs_self _
  have hneg : -(frequency - r * n) ≤ |frequency - r * n| := neg_le_abs _
  constructor
  · intro h
    exact ⟨by omega, by omega⟩
  · rintro ⟨hlo, hhi⟩
    rcases habs with h | h
    · omega
    · omega

theorem within_of_deviation {r n D : Int} (hn : 0 < n) (h : rateDeviation r n ≤ D)
    (hD : 100 * (D + 1) ≤ 3 * r) : WithinThreePercent r n := by
  obtain ⟨hlo, hhi⟩ := clocks_of_deviation hn h
  have hscale : 100 * (D + 1) * n ≤ 3 * r * n :=
    Int.mul_le_mul_of_nonneg_right hD (by omega)
  rw [withinThreePercent_iff]
  constructor
  · linarith
  · linarith

theorem not_within_of_fast {r n R N : Int} (hr : r ≤ R) (hr0 : 0 < r) (hn : n ≤ N) (hn0 : 0 < n)
    (h : 103 * (R * N) < 100 * frequency) : ¬ WithinThreePercent r n := by
  intro hw
  have hhi := (withinThreePercent_iff.mp hw).2
  have hprod : r * n ≤ R * N := Int.mul_le_mul hr hn (by omega) (by omega)
  omega

theorem not_within_of_slow {r n R N : Int} (hr : R ≤ r) (hR0 : 0 ≤ R) (hn : N ≤ n) (hN0 : 0 ≤ N)
    (h : 100 * frequency < 97 * (R * N)) : ¬ WithinThreePercent r n := by
  intro hw
  have hlo := (withinThreePercent_iff.mp hw).1
  have hprod : R * N ≤ r * n := Int.mul_le_mul hr hn hN0 (by omega)
  omega

/-! ## The rates that are reached -/

/-- The rates that some pair comes close to: all but the lowest ones and three
gaps. No pair makes 29 or 31 clocks, and 16 and 17 are too far apart. -/
def Reached (r : Int) : Prop :=
  1220 < r ∧ (r < 475052 ∨ 477203 < r) ∧ (r < 506722 ∨ 511289 < r) ∧ (r < 894215 ∨ 894757 < r)

theorem pair_clocks {p : Int × Int} (hp : p ∈ pairs) :
    0 < p.1 * p.2 ∧ p.1 * p.2 ≤ 11730 ∧ p.1 * p.2 ≠ 29 ∧ p.1 * p.2 ≠ 31 := by
  have hdvd : ∀ j ∈ sequences, ¬ j ∣ 29 ∧ ¬ j ∣ 31 := by decide
  obtain ⟨i, j⟩ := p
  obtain ⟨hi1, hi2, hj4, hj46⟩ := pair_bounds hp
  obtain ⟨h29, h31⟩ := hdvd j (mem_pairs.mp hp).2
  have hle : i * j ≤ 255 * 46 := Int.mul_le_mul hi2 hj46 (by omega) (by omega)
  dsimp only
  exact ⟨Int.mul_pos (by omega) (by omega), by omega,
    fun h => h29 (Dvd.intro_left i h), fun h => h31 (Dvd.intro_left i h)⟩

/-- Between the two largest products lies nothing. -/
theorem pair_clocks_top {p : Int × Int} (hp : p ∈ pairs) (h : 11684 < p.1 * p.2) :
    p.1 * p.2 = 11730 := by
  obtain ⟨i, j⟩ := p
  obtain ⟨hi1, hi2, hj4, hj46⟩ := pair_bounds hp
  dsimp only at h ⊢
  have hi : i = 255 := by
    by_contra hne
    have hle : i * j ≤ 254 * 46 := Int.mul_le_mul (by omega) hj46 (by omega) (by omega)
    omega
  subst hi
  omega

/-- Off the reached rates every pair misses by more than three per cent. -/
theorem not_within_of_not_reached {r : Int} (h0 : 0 < r) (hmax : r ≤ 921600) (hno : ¬ Reached r)
    {p : Int × Int} (hp : p ∈ pairs) : ¬ WithinThreePercent r (p.1 * p.2) := by
  have hfreq : frequency = 14745600 := rfl
  obtain ⟨hpos, htop, h29, h31⟩ := pair_clocks hp
  generalize p.1 * p.2 = n at hpos htop h29 h31 ⊢
  have hcases : r ≤ 1220 ∨ (475052 ≤ r ∧ r ≤ 477203) ∨ (506722 ≤ r ∧ r ≤ 511289) ∨
      (894215 ≤ r ∧ r ≤ 894757) := by
    unfold Reached at hno
    omega
  rcases hcases with hlow | ⟨hlo, hhi⟩ | ⟨hlo, hhi⟩ | ⟨hlo, hhi⟩
  · exact not_within_of_fast hlow h0 htop hpos (by decide)
  · have hside : n ≤ 30 ∨ 32 ≤ n := by omega
    rcases hside with hn | hn
    · exact not_within_of_fast hhi h0 hn hpos (by decide)
    · exact not_within_of_slow hlo (by decide) hn (by decide) (by decide)
  · have hside : n ≤ 28 ∨ 30 ≤ n := by omega
    rcases hside with hn | hn
    · exact not_within_of_fast hhi h0 hn hpos (by decide)
    · exact not_within_of_slow hlo (by decide) hn (by decide) (by decide)
  · have hside : n ≤ 16 ∨ 17 ≤ n := by omega
    rcases hside with hn | hn
    · exact not_within_of_fast hhi h0 hn hpos (by decide)
    · exact not_within_of_slow hlo (by decide) hn (by decide) (by decide)

/-- The rates from which and up to which a pair comes within three per cent with
one clock a second to spare. -/
def fromRate (p : Int × Int) : Int := (100 * frequency.tdiv (p.1 * p.2) + 202) / 103
def toRate (p : Int × Int) : Int := (100 * frequency.tdiv (p.1 * p.2) - 100) / 97

theorem deviation_of_near {r : Int} {p : Int × Int} (hfrom : fromRate p ≤ r) (hto : r ≤ toRate p) :
    100 * (rateDeviation r (p.1 * p.2) + 1) ≤ 3 * r := by
  unfold fromRate at hfrom
  unfold toRate at hto
  rw [rateDeviation]
  generalize frequency.tdiv (p.1 * p.2) = rate at hfrom hto ⊢
  rcases abs_choice (rate - r) with h | h
  · omega
  · omega

/-- Pairs for the rates between the edges of the gaps, each next one reaching on
from where the one before it ends. -/
def ladders : List ((Int × Int) × List (Int × Int)) :=
  [((1222, 475050), [
      (255, 46), (241, 46), (249, 42), (235, 42), (245, 38), (244, 36), (244, 34), (206, 38),
      (217, 34), (174, 40), (164, 40), (182, 34), (139, 42), (131, 42), (247, 21), (163, 30),
      (128, 36), (181, 24), (89, 46), (227, 17), (101, 36), (149, 23), (85, 38), (179, 17),
      (239, 12), (159, 17), (91, 28), (185, 13), (103, 22), (89, 24), (183, 11), (73, 26),
      (149, 12), (241, 7), (227, 7), (107, 14), (83, 17), (35, 38), (179, 7), (197, 6), (223, 5),
      (81, 13), (31, 32), (55, 17), (21, 42), (26, 32), (28, 28), (37, 20), (41, 17), (73, 9),
      (31, 20), (73, 8), (29, 19), (13, 40), (35, 14), (11, 42), (109, 4), (103, 4), (13, 30),
      (8, 46), (29, 12), (41, 8), (31, 10), (73, 4), (6, 46), (10, 26), (35, 7), (11, 21),
      (5, 44), (8, 26), (7, 28), (37, 5), (25, 7), (11, 15), (6, 26), (7, 21), (5, 28), (3, 44),
      (25, 5), (7, 17), (3, 38), (3, 36), (3, 34), (7, 14), (5, 19), (3, 30), (5, 17), (9, 9),
      (7, 11), (5, 15), (2, 36), (2, 34), (5, 13), (3, 21), (2, 30), (3, 19), (3, 18), (3, 17),
      (7, 7), (2, 24), (1, 46), (1, 44), (1, 42), (1, 40), (1, 38), (1, 36), (1, 34), (3, 11),
      (1, 32)]),
    ((477205, 506720), [(1, 30)]),
    ((511291, 894213), [
      (1, 28), (3, 9), (1, 26), (5, 5), (1, 24), (1, 23), (1, 22), (1, 21), (1, 20), (1, 19),
      (1, 18), (1, 17)]),
    ((894759, 921600), [(1, 16)])]

theorem ladders_cover : ∀ l ∈ ladders, (∀ p ∈ l.2, (1 ≤ p.1 ∧ p.1 ≤ maxDivisor) ∧ p.2 ∈ sequences) ∧
    Covers fromRate toRate l.2 l.1.1 l.1.2 := by decide +kernel

/-- On the reached rates the closest pair is within three per cent. -/
theorem within_of_reached {r : Int} (hmax : r ≤ 921600) (hr : Reached r) {p : Int × Int}
    (hp : p ∈ pairs)
    (hbest : ∀ p' ∈ pairs, rateDeviation r (p.1 * p.2) ≤ rateDeviation r (p'.1 * p'.2)) :
    WithinThreePercent r (p.1 * p.2) := by
  have hfreq : frequency = 14745600 := rfl
  obtain ⟨hpos, htop, -, -⟩ := pair_clocks hp
  have hnear : ∀ l ∈ ladders, l.1.1 ≤ r → r ≤ l.1.2 → WithinThreePercent r (p.1 * p.2) := by
    intro l hl hfirst hlast
    obtain ⟨hmem, hcover⟩ := ladders_cover l hl
    obtain ⟨p', hp', hfrom, hto⟩ := hcover.exists_mem hfirst hlast
    exact within_of_deviation hpos (hbest p' (mem_pairs.mpr (hmem p' hp')))
      (deviation_of_near hfrom hto)
  -- at an edge the deviation of one pair is known, and only few products come as close
  have hedge : ∀ {i j D : Int}, (1 ≤ i ∧ i ≤ maxDivisor) ∧ j ∈ sequences →
      rateDeviation r (i * j) = D →
      (r - D) * (p.1 * p.2) ≤ frequency ∧ frequency < (r + D + 1) * (p.1 * p.2) := by
    intro i j D hij hD
    exact clocks_of_deviation hpos (hD ▸ hbest (i, j) (mem_pairs.mpr hij))
  have hcases : r = 1221 ∨ (1222 ≤ r ∧ r ≤ 475050) ∨ r = 475051 ∨ r = 477204 ∨
      (477205 ≤ r ∧ r ≤ 506720) ∨ r = 506721 ∨ r = 511290 ∨ (511291 ≤ r ∧ r ≤ 894213) ∨
      r = 894214 ∨ r = 894758 ∨ (894759 ≤ r ∧ r ≤ 921600) := by
    unfold Reached at hr
    omega
  rcases hcases with rfl | h | rfl | rfl | h | rfl | rfl | h | rfl | rfl | h
  · obtain ⟨-, hhi⟩ := hedge (i := 255) (j := 46) (D := 36) (by decide) (by decide)
    rw [pair_clocks_top hp (by omega)]
    unfold WithinThreePercent
    decide
  · exact hnear _ (.head _) h.1 h.2
  · obtain ⟨hlo, hhi⟩ := hedge (i := 1) (j := 32) (D := 14251) (by decide) (by decide)
    rw [withinThreePercent_iff]
    omega
  · obtain ⟨hlo, hhi⟩ := hedge (i := 1) (j := 30) (D := 14316) (by decide) (by decide)
    rw [withinThreePercent_iff]
    omega
  · exact hnear _ (.tail _ (.head _)) h.1 h.2
  · obtain ⟨hlo, hhi⟩ := hedge (i := 1) (j := 30) (D := 15201) (by decide) (by decide)
    rw [withinThreePercent_iff]
    omega
  · obtain ⟨hlo, hhi⟩ := hedge (i := 1) (j := 28) (D := 15338) (by decide) (by decide)
    rw [withinThreePercent_iff]
    omega
  · exact hnear _ (.tail _ (.tail _ (.head _))) h.1 h.2
  · obtain ⟨hlo, hhi⟩ := hedge (i := 1) (j := 17) (D := 26826) (by decide) (by decide)
    rw [withinThreePercent_iff]
    omega
  · obtain ⟨hlo, hhi⟩ := hedge (i := 1) (j := 16) (D := 26842) (by decide) (by decide)
    rw [withinThreePercent_iff]
    omega
  · exact hnear _ (.tail _ (.tail _ (.tail _ (.head _)))) h.1 h.2

/-! ## `mx_set_baud` -/

/-- On the reached rates the pair of the search passes the accuracy test. -/
theorem accuracyBranch_of_reached {r : Int} (hmax : r ≤ 921600) (hr : Reached r) {p : Int × Int}
    (hsearch : searchLinear r = takePair r p)
    (hbest : ∀ p' ∈ pairs, rateDeviation r (p.1 * p.2) ≤ rateDeviation r (p'.1 * p'.2)) :
    AccuracyBranch r := by
  have hlow : 1220 < r := hr.1
  have hle : rateDeviation r (p.1 * p.2) ≤ rateDeviation r (255 * 46) :=
    hbest (255, 46) (mem_pairs.mpr ⟨by decide, by decide⟩)
  have hrate : frequency.tdiv (255 * 46) = 1257 := by decide
  have hself : rateDeviation r (255 * 46) ≤ r := by
    rw [rateDeviation, hrate, abs_le]
    omega
  have h0 : 0 ≤ rateDeviation r (p.1 * p.2) := abs_nonneg _
  rw [AccuracyBranch, hsearch, takePair]
  dsimp only
  generalize rateDeviation r (p.1 * p.2) = dev at hle h0
  rw [int32_of_lt (by omega) (by omega), int32_of_lt (by omega) (by omega),
    Int.tdiv_eq_ediv_of_nonneg (by omega)]
  have hone : dev * 100 / (r * 100) < 4 := Int.ediv_lt_of_lt_mul (by omega) (by omega)
  omega

/-- The rate is programmed to three per cent, or it is not the port's rate. -/
def AccurateOrRefused (q : Port) (r : Int) : Prop :=
  WithinThreePercent r q.uart.bitClocks ∨ q.rate.realbaud ≠ r

/-- After `set_linear_baud`, which returns 0 whatever it finds, nothing touches
the rate any more, and it is recorded. -/
theorem mxSetBaud_linear {HZ : Int} {p q : Port} {r : Int} (hp : RateReady p)
    (hmax : r ≤ p.rate.maxCanSetBaudRate) (hr : r ∉ mxvarBaudTable)
    (h : mxSetBaud HZ p r = .ok q) :
    ∃ u, setLinearBaud p.uart r = .ok u ∧ q.uart.bitClocks = u.bitClocks ∧ q.rate.realbaud = r := by
  obtain ⟨u, quot, timeout, hu, -, -, rfl⟩ := mxSetBaud_values hp.tty hp.base hmax h
  rw [if_pos hr] at hu
  refine ⟨u, hu, ?_, ?_⟩
  · unfold finishBaud
    by_cases hq : quot = 0
    · rw [if_pos hq]
      rfl
    · rw [if_neg hq, if_neg hr]
      rfl
  · obtain ⟨mcr, v, hframe, -⟩ :=
      finishBaud_frame { p with uart := u, rate := baudRate p.rate r timeout } r quot
    rw [hframe]
    rfl

theorem accurateOrRefused_iff {HZ : Int} {p q : Port} {r : Int} (hp : RateReady p) (h0 : 0 < r)
    (hmax : r ≤ p.rate.maxCanSetBaudRate) (hr : r ∉ mxvarBaudTable)
    (h : mxSetBaud HZ p r = .ok q) : AccurateOrRefused q r ↔ Reached r := by
  have hval : unreachedRate = 18432000 := rfl
  have hle : r ≤ 921600 := by
    rw [hp.maxRate] at hmax
    exact hmax
  obtain ⟨u, hu, hclocks, hreal⟩ := mxSetBaud_linear hp hmax hr h
  obtain ⟨best, hbest, hsearch, hmin⟩ := searchLinear_spec h0 (by omega)
  obtain ⟨pair, hpair, hprod, hacc⟩ := setLinearBaud_clocks h0 (by omega) hu hbest hsearch
  rw [AccurateOrRefused, hclocks, hprod]
  constructor
  · rintro (hw | hne)
    · by_contra hno
      exact not_within_of_not_reached h0 hle hno hpair hw
    · exact absurd hreal hne
  · intro hreach
    obtain rfl := hacc (accuracyBranch_of_reached hle hreach hsearch hmin)
    exact .inl (within_of_reached hle hreach hpair hmin)

/-- **A rate outside the table** is programmed to three per cent exactly when it
is one that some pair comes close to; no other is refused. -/
theorem nonstandardRate_accurate_iff (HZ : Int) {p : Port} {r : Int} (hp : RateReady p)
    (hspeed : p.rate.speed ≠ 0) (h0 : 0 < r) (hmax : r ≤ p.rate.maxCanSetBaudRate)
    (hr : r ∉ mxvarBaudTable) :
    ∃ q, mxSetBaud HZ p r = .ok q ∧ (AccurateOrRefused q r ↔ Reached r) := by
  obtain ⟨q, hq⟩ := mxSetBaud_returns HZ hp (Int.le_of_lt h0) (.inr hspeed)
  exact ⟨q, hq, accurateOrRefused_iff hp h0 hmax hr hq⟩

/-- A started port with `info->speed` at 250000 baud. -/
theorem cp102_rateReady : RateReady ((cp102Started (cp102Termios 0)).setSpeed 250000) :=
  ⟨rfl, Nat.succ_ne_zero _, rfl, rfl⟩

theorem nonstandardRate_accurate_iff_cp102 :
    ∃ q, mxSetBaud 100 ((cp102Started (cp102Termios 0)).setSpeed 250000) 250000 = .ok q ∧
      (AccurateOrRefused q 250000 ↔ Reached 250000) :=
  nonstandardRate_accurate_iff 100 cp102_rateReady (by decide) (by decide) (by decide) (by decide)

/-- 250 baud is not refused, and what is programmed is out by more than three per
cent. -/
theorem nonstandardRate_inaccurate :
    ∃ q, RateReady ((cp102Started (cp102Termios 0)).setSpeed 250) ∧ 250 ∉ mxvarBaudTable ∧
      mxSetBaud 100 ((cp102Started (cp102Termios 0)).setSpeed 250) 250 = .ok q ∧
      ¬ AccurateOrRefused q 250 := by
  have hp : RateReady ((cp102Started (cp102Termios 0)).setSpeed 250) :=
    cp102_rateReady.congr rfl rfl rfl rfl
  have hno : ¬ Reached 250 := fun h => absurd h.1 (by decide)
  have hrate : (0 : Int) ≤ 250 := by decide
  obtain ⟨q, hq⟩ := mxSetBaud_returns 100 hp hrate (.inr (by decide))
  refine ⟨q, hp, by decide, hq, fun h => ?_⟩
  exact hno ((accurateOrRefused_iff hp (by decide) (by decide) (by decide) hq).mp h)

end MoxaDrivers.Mxupcie

import MoxaDrivers.Can.Frame
import MoxaDrivers.Can.BitTimingSearch
import MoxaDrivers.Lib.Machine

/-!
# The bit timing in the SJA1000

`sja1000_set_bittiming` packs a timing into the two registers that the chip has for it.
Whatever `can_get_bittiming` accepts or calculates fits them.
-/

namespace MoxaDrivers.Can

open MoxaDrivers.Bits

structure TimingRegs where
  btr0 : Byte
  btr1 : Byte
  deriving DecidableEq, Repr

/-- `sampl3` is `CAN_CTRLMODE_3_SAMPLES`; the fields of a timing are `__u32`. -/
def sja1000SetBittiming (bt : CanBittiming) (sampl3 : Bool) : TimingRegs :=
  let field (x : Nat) : Canid := BitVec.ofNat 32 x - 1
  let btr1 : Byte := ((field (bt.propSeg + bt.phaseSeg1) &&& 0xF) |||
    ((field bt.phaseSeg2 &&& 0x7) <<< 4)).setWidth 8
  { btr0 := ((field bt.brp &&& 0x3F) ||| ((field bt.sjw &&& 0x3) <<< 6)).setWidth 8
    btr1 := if sampl3 then btr1 ||| 0x80 else btr1 }

/-! ## The chip -/

/-- The prescaler, the jump width and the two segments that the registers stand for. -/
def TimingRegs.brp (r : TimingRegs) : Nat := (r.btr0.extractLsb' 0 6).toNat + 1
def TimingRegs.sjw (r : TimingRegs) : Nat := (r.btr0.extractLsb' 6 2).toNat + 1
def TimingRegs.tseg1 (r : TimingRegs) : Nat := (r.btr1.extractLsb' 0 4).toNat + 1
def TimingRegs.tseg2 (r : TimingRegs) : Nat := (r.btr1.extractLsb' 4 3).toNat + 1
def TimingRegs.sampl3 (r : TimingRegs) : Bool := r.btr1.getLsbD 7

/-- The bit rate with a clock of `freq`, a bit being 1 and the two segments long. -/
def TimingRegs.rate (r : TimingRegs) (freq : Nat) : Nat :=
  freq / (r.brp * (1 + r.tseg1 + r.tseg2))

/-! ## A timing that fits -/

/-- The bounds of `sja1000_bittiming_const`. -/
structure FitsRegs (bt : CanBittiming) : Prop where
  brp : 1 ≤ bt.brp ∧ bt.brp ≤ 64
  sjw : 1 ≤ bt.sjw ∧ bt.sjw ≤ 4
  tseg1 : 1 ≤ (bt.propSeg + bt.phaseSeg1) % 2 ^ 32 ∧ (bt.propSeg + bt.phaseSeg1) % 2 ^ 32 ≤ 16
  tseg2 : 1 ≤ bt.phaseSeg2 ∧ bt.phaseSeg2 ≤ 8

theorem btr0_fields (x y : Canid) :
    (((x &&& 0x3F) ||| ((y &&& 0x3) <<< 6)).setWidth 8 : Byte).extractLsb' 0 6 = x.setWidth 6 ∧
      (((x &&& 0x3F) ||| ((y &&& 0x3) <<< 6)).setWidth 8 : Byte).extractLsb' 6 2 =
        y.setWidth 2 := by
  have hm : ∀ i < 32, (0x3F : Canid).getLsbD i = decide (i < 6) := by decide
  have hk : ∀ i < 32, (0x3 : Canid).getLsbD i = decide (i < 2) := by decide
  constructor
  · apply BitVec.eq_of_getLsbD_eq
    intro i hi
    simp only [BitVec.getLsbD_extractLsb', BitVec.getLsbD_setWidth, BitVec.getLsbD_or,
      BitVec.getLsbD_and, BitVec.getLsbD_shiftLeft]
    grind
  · apply BitVec.eq_of_getLsbD_eq
    intro i hi
    simp only [BitVec.getLsbD_extractLsb', BitVec.getLsbD_setWidth, BitVec.getLsbD_or,
      BitVec.getLsbD_and, BitVec.getLsbD_shiftLeft]
    grind

/-- The third field is the bit that asks for three samples. -/
theorem btr1_fields (x y : Canid) (sampl3 : Bool) :
    let b : Byte := ((x &&& 0xF) ||| ((y &&& 0x7) <<< 4)).setWidth 8
    let b := if sampl3 then b ||| 0x80 else b
    b.extractLsb' 0 4 = x.setWidth 4 ∧ b.extractLsb' 4 3 = y.setWidth 3 ∧
      b.getLsbD 7 = sampl3 := by
  have hm : ∀ i < 32, (0xF : Canid).getLsbD i = decide (i < 4) := by decide
  have hk : ∀ i < 32, (0x7 : Canid).getLsbD i = decide (i < 3) := by decide
  have hs : ∀ i < 8, (0x80 : Byte).getLsbD i = decide (i = 7) := by decide
  have hbit : ∀ i < 8, (if sampl3 then
      (((x &&& 0xF) ||| ((y &&& 0x7) <<< 4)).setWidth 8 : Byte) ||| 0x80
      else ((x &&& 0xF) ||| ((y &&& 0x7) <<< 4)).setWidth 8 : Byte).getLsbD i =
      ((((x &&& 0xF) ||| ((y &&& 0x7) <<< 4)).setWidth 8 : Byte).getLsbD i ||
        (sampl3 && decide (i = 7))) := by
    intro i hi
    cases sampl3 with
    | true => simp only [if_true, BitVec.getLsbD_or, hs i hi, Bool.true_and]
    | false => simp only [Bool.false_eq_true, if_false, Bool.false_and, Bool.or_false]
  refine ⟨?_, ?_, ?_⟩
  · apply BitVec.eq_of_getLsbD_eq
    intro i hi
    rw [BitVec.getLsbD_extractLsb', hbit _ (by omega)]
    simp only [BitVec.getLsbD_setWidth, BitVec.getLsbD_or, BitVec.getLsbD_and,
      BitVec.getLsbD_shiftLeft]
    grind
  · apply BitVec.eq_of_getLsbD_eq
    intro i hi
    rw [BitVec.getLsbD_extractLsb', hbit _ (by omega)]
    simp only [BitVec.getLsbD_setWidth, BitVec.getLsbD_or, BitVec.getLsbD_and,
      BitVec.getLsbD_shiftLeft]
    grind
  · rw [hbit 7 (by decide)]
    simp only [BitVec.getLsbD_setWidth, BitVec.getLsbD_or, BitVec.getLsbD_and,
      BitVec.getLsbD_shiftLeft]
    grind

/-- A field is written as one less than what it is for. -/
theorem field_toNat {n w : Nat} (h1 : 1 ≤ n % 2 ^ 32) (hn : n % 2 ^ 32 ≤ 2 ^ w) :
    ((BitVec.ofNat 32 n - 1).setWidth w).toNat + 1 = n % 2 ^ 32 := by
  have hsub : (BitVec.ofNat 32 n - 1).toNat = n % 2 ^ 32 - 1 := by
    rw [BitVec.toNat_sub_of_le (by
      rw [BitVec.le_def, BitVec.toNat_ofNat]
      exact h1), BitVec.toNat_ofNat]
    rfl
  rw [BitVec.toNat_setWidth, hsub, Nat.mod_eq_of_lt (by omega)]
  omega

/-- What the registers stand for is the timing. -/
theorem registers_of_fits {bt : CanBittiming} (h : FitsRegs bt) (sampl3 : Bool) :
    (sja1000SetBittiming bt sampl3).brp = bt.brp ∧
      (sja1000SetBittiming bt sampl3).sjw = bt.sjw ∧
      (sja1000SetBittiming bt sampl3).tseg1 = (bt.propSeg + bt.phaseSeg1) % 2 ^ 32 ∧
      (sja1000SetBittiming bt sampl3).tseg2 = bt.phaseSeg2 ∧
      (sja1000SetBittiming bt sampl3).sampl3 = sampl3 := by
  obtain ⟨hb1, hb2⟩ := h.brp
  obtain ⟨hs1, hs2⟩ := h.sjw
  obtain ⟨ht1, ht2⟩ := h.tseg1
  obtain ⟨hp1, hp2⟩ := h.tseg2
  obtain ⟨hlow, hhigh⟩ := btr0_fields (BitVec.ofNat 32 bt.brp - 1) (BitVec.ofNat 32 bt.sjw - 1)
  obtain ⟨hseg1, hseg2, hsam⟩ := btr1_fields (BitVec.ofNat 32 (bt.propSeg + bt.phaseSeg1) - 1)
    (BitVec.ofNat 32 bt.phaseSeg2 - 1) sampl3
  have hbrp : bt.brp % 2 ^ 32 = bt.brp := Nat.mod_eq_of_lt (by omega)
  have hsjw : bt.sjw % 2 ^ 32 = bt.sjw := Nat.mod_eq_of_lt (by omega)
  have hphase : bt.phaseSeg2 % 2 ^ 32 = bt.phaseSeg2 := Nat.mod_eq_of_lt (by omega)
  refine ⟨?_, ?_, ?_, ?_, hsam⟩
  · have := field_toNat (n := bt.brp) (w := 6) (by omega) (by omega)
    rw [← hlow, hbrp] at this
    exact this
  · have := field_toNat (n := bt.sjw) (w := 2) (by omega) (by omega)
    rw [← hhigh, hsjw] at this
    exact this
  · have := field_toNat (n := bt.propSeg + bt.phaseSeg1) (w := 4) (by omega) (by omega)
    rw [← hseg1] at this
    exact this
  · have := field_toNat (n := bt.phaseSeg2) (w := 3) (by omega) (by omega)
    rw [← hseg2, hphase] at this
    exact this

/-! ## What the driver asks for -/

/-- The chip does what the timing says. -/
structure Programmed (freq : Nat) (bt : CanBittiming) (sampl3 : Bool) (r : TimingRegs) : Prop where
  brp : r.brp = bt.brp
  sjw : r.sjw = bt.sjw
  tseg1 : r.tseg1 = (bt.propSeg + bt.phaseSeg1) % 2 ^ 32
  tseg2 : r.tseg2 = bt.phaseSeg2
  sampl3 : r.sampl3 = sampl3
  rate : r.rate freq = bt.bitrate

theorem programmed_of_fits {freq : Nat} {bt : CanBittiming} (h : FitsRegs bt) (sampl3 : Bool)
    (hrate : bt.bitrate =
      freq / (bt.brp * (1 + (bt.propSeg + bt.phaseSeg1) % 2 ^ 32 + bt.phaseSeg2))) :
    Programmed freq bt sampl3 (sja1000SetBittiming bt sampl3) := by
  obtain ⟨hbrp, hsjw, htseg1, htseg2, hsam⟩ := registers_of_fits h sampl3
  refine ⟨hbrp, hsjw, htseg1, htseg2, hsam, ?_⟩
  rw [hrate, TimingRegs.rate, hbrp, htseg1, htseg2]

section

variable {freq : Nat} {bt r : CanBittiming}

/-- A timing that was calculated fits but for a first segment of no quanta. -/
theorem Calculated.programmed (h : Calculated sja1000BittimingConst freq bt r) (sampl3 : Bool)
    (hseg : r.propSeg + r.phaseSeg1 ≠ 0) :
    Programmed freq r sampl3 (sja1000SetBittiming r sampl3) := by
  have h1 : r.propSeg + r.phaseSeg1 ≤ 16 := h.tseg1_le
  have h2 : 1 ≤ r.phaseSeg2 ∧ r.phaseSeg2 ≤ 8 := ⟨h.tseg2_ge, h.tseg2_le⟩
  have hmod : (r.propSeg + r.phaseSeg1) % 2 ^ 32 = r.propSeg + r.phaseSeg1 :=
    Nat.mod_eq_of_lt (by omega)
  have hfits : FitsRegs r := by
    refine ⟨⟨h.brp_ge, h.brp_le⟩, ⟨h.sjw_pos, h.sjw_le.2⟩, ?_, h2⟩
    rw [hmod]
    omega
  apply programmed_of_fits hfits
  rw [h.bitrate_eq, hmod, CanBittiming.quanta, Nat.add_assoc 1, Nat.add_assoc r.propSeg]

theorem div_ok {n d q : Nat} (h : div n d = .ok q) : q = n / d := by
  unfold div at h
  split at h
  · cases h
  · exact (Except.ok.inj h).symm

/-- A timing in full is taken as it is, but for what can be worked out from it. -/
theorem canFixup_ok {btc : CanBittimingConst} (h : canFixupBittiming btc freq bt = .ok r) :
    ∃ sjw brp bitrate samplePoint, r =
        { bt with sjw := sjw, brp := brp, bitrate := bitrate, samplePoint := samplePoint } ∧
      (1 ≤ sjw ∧ sjw ≤ btc.sjwMax) ∧ (btc.brpMin ≤ brp ∧ brp ≤ btc.brpMax) ∧
      (btc.tseg1Min ≤ (bt.propSeg + bt.phaseSeg1) % 2 ^ 32 ∧
        (bt.propSeg + bt.phaseSeg1) % 2 ^ 32 ≤ btc.tseg1Max) ∧
      (btc.tseg2Min ≤ bt.phaseSeg2 ∧ bt.phaseSeg2 ≤ btc.tseg2Max) ∧
      bitrate = freq /
        (brp * ((bt.propSeg + bt.phaseSeg1 + bt.phaseSeg2 + 1) % 2 ^ 32) % 2 ^ 32) := by
  have hpos : 1 ≤ if bt.sjw = 0 then 1 else bt.sjw := by
    split
    · exact Nat.le_refl 1
    · omega
  simp only [canFixupBittiming] at h
  generalize (if bt.sjw = 0 then 1 else bt.sjw) = sjw at h hpos
  generalize fixupBrp btc freq bt.tq = brp at h
  by_cases hseg : sjw > btc.sjwMax ∨ (bt.propSeg + bt.phaseSeg1) % 2 ^ 32 < btc.tseg1Min ∨
      (bt.propSeg + bt.phaseSeg1) % 2 ^ 32 > btc.tseg1Max ∨
      bt.phaseSeg2 < btc.tseg2Min ∨ bt.phaseSeg2 > btc.tseg2Max
  · rw [if_pos hseg] at h
    cases h
  · rw [if_neg hseg] at h
    by_cases hbrp : brp < btc.brpMin ∨ brp > btc.brpMax
    · rw [if_pos hbrp] at h
      cases h
    · rw [if_neg hbrp] at h
      obtain ⟨bitrate, hrate, h⟩ := Machine.bind_ok_iff.mp h
      obtain ⟨point, -, h⟩ := Machine.bind_ok_iff.mp h
      exact ⟨sjw, brp, bitrate, point, (Except.ok.inj h).symm, by omega, by omega, by omega,
        by omega, div_ok hrate⟩

theorem canFixup_programmed (h : canFixupBittiming sja1000BittimingConst freq bt = .ok r)
    (sampl3 : Bool) :
    Programmed freq r sampl3 (sja1000SetBittiming r sampl3) ∧ r.propSeg + r.phaseSeg1 ≠ 0 := by
  obtain ⟨sjw, brp, bitrate, point, hr, hsjw, hbrp, htseg1, htseg2, hrate⟩ := canFixup_ok h
  change 1 ≤ sjw ∧ sjw ≤ 4 at hsjw
  change 1 ≤ brp ∧ brp ≤ 64 at hbrp
  change 1 ≤ (bt.propSeg + bt.phaseSeg1) % 2 ^ 32 ∧
    (bt.propSeg + bt.phaseSeg1) % 2 ^ 32 ≤ 16 at htseg1
  change 1 ≤ bt.phaseSeg2 ∧ bt.phaseSeg2 ≤ 8 at htseg2
  have hall : (bt.propSeg + bt.phaseSeg1 + bt.phaseSeg2 + 1) % 2 ^ 32 =
      1 + (bt.propSeg + bt.phaseSeg1) % 2 ^ 32 + bt.phaseSeg2 := by omega
  have hprod : brp * (1 + (bt.propSeg + bt.phaseSeg1) % 2 ^ 32 + bt.phaseSeg2) < 2 ^ 32 :=
    lt_of_le_of_lt (Nat.mul_le_mul hbrp.2 (show _ ≤ 25 by omega)) (by decide)
  rw [hall, Nat.mod_eq_of_lt hprod] at hrate
  have hfits : FitsRegs r := by
    rw [hr]
    exact ⟨hbrp, hsjw, htseg1, htseg2⟩
  refine ⟨programmed_of_fits hfits sampl3 ?_, ?_⟩
  · rw [hr]
    exact hrate
  · rw [hr]
    show bt.propSeg + bt.phaseSeg1 ≠ 0
    omega

end

/-- Whatever timing the driver is given or has calculated, the registers stand for it and
the chip runs at the bit rate that is reported, unless there is no quantum between the
first and the sample point, which the calculation may come to: the register has no 0. -/
theorem registers_hold_timing (freq : Nat) (bt r : CanBittiming) (sampl3 : Bool)
    (hr : bt.tq = 0 → Request sja1000BittimingConst freq bt)
    (h : canGetBittiming (some sja1000BittimingConst) freq bt = .ok r) :
    Programmed freq r sampl3 (sja1000SetBittiming r sampl3) ↔ r.propSeg + r.phaseSeg1 ≠ 0 := by
  constructor
  · intro hp hzero
    have h1 : (sja1000SetBittiming r sampl3).tseg1 = 0 := by rw [hp.tseg1, hzero, Nat.zero_mod]
    exact Nat.succ_ne_zero _ h1
  · intro hseg
    simp only [canGetBittiming] at h
    by_cases hcalc : bt.tq = 0 ∧ bt.bitrate ≠ 0
    · rw [if_pos hcalc] at h
      exact (calculated_of_ok sane_sja1000 (hr hcalc.1) h).programmed sampl3 hseg
    · rw [if_neg hcalc] at h
      by_cases hfix : bt.tq ≠ 0 ∧ bt.bitrate = 0
      · rw [if_pos hfix] at h
        exact (canFixup_programmed h sampl3).1
      · rw [if_neg hfix] at h
        cases h

/-- A sample point after a third of a bit of three quanta. -/
example : (canGetBittiming (some sja1000BittimingConst) 3000000
    ⟨1000000, 334, 0, 0, 0, 0, 0, 0⟩).map (fun r => r.propSeg + r.phaseSeg1) = .ok 0 := by
  decide

theorem registers_hold_halfMegabit :
    Programmed 8000000 ⟨500000, 875, 125, 6, 7, 2, 1, 1⟩ false
        (sja1000SetBittiming ⟨500000, 875, 125, 6, 7, 2, 1, 1⟩ false) ↔ 6 + 7 ≠ 0 :=
  registers_hold_timing 8000000 halfMegabit ⟨500000, 875, 125, 6, 7, 2, 1, 1⟩ false
    (fun _ => request_halfMegabit) (by decide)

end MoxaDrivers.Can

import MoxaDrivers.Can.BitTiming

/-!
# The timing that the search finds

`can_calc_bittiming` tries two prescalers for each number of time quanta. No other
prescaler comes nearer to the bit rate, the sample point is the best one among the exact
ones, and a timing that was found is taken back as it is when it is given in full.
-/

namespace MoxaDrivers.Can

/-- The constants of a controller, as drivers give them: the products of
`can_update_spt` and of prescaler and quanta fit an `int`. -/
structure CanBittimingConst.Sane (btc : CanBittimingConst) : Prop where
  brpMin_pos : 0 < btc.brpMin
  brpInc_pos : 0 < btc.brpInc
  tseg2Min_pos : 0 < btc.tseg2Min
  tseg1_le : btc.tseg1Min ≤ btc.tseg1Max
  tseg2_le : btc.tseg2Min ≤ btc.tseg2Max
  tseg_lt : 1000 * (1 + (btc.tseg1Max + btc.tseg2Max)) < 2 ^ 31
  product_lt : btc.brpMax * (1 + (btc.tseg1Max + btc.tseg2Max)) < 2 ^ 31

/-- A bit rate and a sample point that can be asked for: the bit rate times the quanta does
not wrap, and the sample point lies within the bit, behind a whole quantum of the shortest
one. -/
structure Request (btc : CanBittimingConst) (freq : Nat) (bt : CanBittiming) : Prop where
  freq_pos : 0 < freq
  freq_lt : freq < 2 ^ 32
  bitrate_pos : 0 < bt.bitrate
  product_lt : (1 + (btc.tseg1Max + btc.tseg2Max)) * bt.bitrate < 2 ^ 32
  sample_le : samplePointFor bt ≤ 1000
  sample_ge : 1000 ≤ samplePointFor bt * (1 + (btc.tseg1Min + btc.tseg2Min))

/-! ## The split of a bit time -/

theorem u32_natCast {n : Nat} (h : n < 2 ^ 32) : u32 n = n := by
  unfold u32
  omega

/-- The second segment for `tseg` quanta. -/
def tseg2For (btc : CanBittimingConst) (samplPt tseg : Nat) : Nat :=
  let tseg2 := min (max (tseg + 1 - samplPt * (tseg + 1) / 1000) btc.tseg2Min) btc.tseg2Max
  if tseg - tseg2 > btc.tseg1Max then tseg - btc.tseg1Max else tseg2

/-- The sample point for `tseg` quanta. -/
def sptFor (btc : CanBittimingConst) (samplPt tseg : Nat) : Nat :=
  1000 * (tseg + 1 - tseg2For btc samplPt tseg) / (tseg + 1)

section Split

variable {btc : CanBittimingConst} {samplPt tseg : Nat}

/-- The quanta before the sample point lie between 1 and all of them. -/
theorem quanta_before (hle : samplPt ≤ 1000) (hge : 1000 ≤ samplPt * (tseg + 1)) :
    1 ≤ samplPt * (tseg + 1) / 1000 ∧ samplPt * (tseg + 1) / 1000 ≤ tseg + 1 := by
  have hmul : samplPt * (tseg + 1) ≤ 1000 * (tseg + 1) := Nat.mul_le_mul_right _ hle
  omega

theorem clampTseg2_natCast {n : Nat} (hn : n < 2 ^ 32) (hmin : btc.tseg2Min < 2 ^ 32)
    (hle : btc.tseg2Min ≤ btc.tseg2Max) :
    clampTseg2 btc n = ((min (max n btc.tseg2Min) btc.tseg2Max : Nat) : Int) := by
  unfold clampTseg2
  by_cases hlow : n < btc.tseg2Min
  · simp only [u32_natCast hn, hlow, if_true, u32_natCast hmin]
    rw [if_neg (by omega)]
    omega
  · simp only [u32_natCast hn, hlow, if_false]
    split <;> omega

theorem tseg2For_bounds (hs : btc.Sane) (hle : samplPt ≤ 1000)
    (hge : 1000 ≤ samplPt * (tseg + 1)) (hlow : btc.tseg1Min + btc.tseg2Min ≤ tseg)
    (htop : tseg ≤ btc.tseg1Max + btc.tseg2Max) :
    tseg2For btc samplPt tseg ≤ tseg ∧ tseg - tseg2For btc samplPt tseg ≤ btc.tseg1Max ∧
      btc.tseg2Min ≤ tseg2For btc samplPt tseg ∧ tseg2For btc samplPt tseg ≤ btc.tseg2Max := by
  have hq := quanta_before hle hge
  have htwo := hs.tseg2_le
  simp only [tseg2For]
  split <;> omega

/-- The second segment leaves the first one its length if the sample point does. -/
theorem tseg1Min_le_of_sample (hs : btc.Sane) (hle : samplPt ≤ 1000)
    (hlow : btc.tseg1Min + btc.tseg2Min ≤ tseg)
    (hsample : 1000 * (1 + btc.tseg1Min) ≤ samplPt * (tseg + 1)) :
    btc.tseg1Min ≤ tseg - tseg2For btc samplPt tseg := by
  have hq : 1 + btc.tseg1Min ≤ samplPt * (tseg + 1) / 1000 := by omega
  have hmul : samplPt * (tseg + 1) ≤ 1000 * (tseg + 1) := Nat.mul_le_mul_right _ hle
  have hone := hs.tseg1_le
  simp only [tseg2For]
  split <;> omega

/-- On sensible input the function computes with natural numbers. -/
theorem canUpdateSpt_eq (hs : btc.Sane) (hle : samplPt ≤ 1000)
    (hge : 1000 ≤ samplPt * (tseg + 1)) (hlow : btc.tseg1Min + btc.tseg2Min ≤ tseg)
    (htop : tseg ≤ btc.tseg1Max + btc.tseg2Max) :
    canUpdateSpt btc samplPt tseg = ⟨(sptFor btc samplPt tseg : Nat),
      ((tseg - tseg2For btc samplPt tseg : Nat) : Int), (tseg2For btc samplPt tseg : Nat)⟩ := by
  have hq := quanta_before hle hge
  have hb := tseg2For_bounds hs hle hge hlow htop
  have hlt := hs.tseg_lt
  have htwo := hs.tseg2_le
  have hdiv : ((samplPt : Int) * ((tseg : Int) + 1)).tdiv 1000 =
      ((samplPt * (tseg + 1) / 1000 : Nat) : Int) := rfl
  have hsub : (tseg : Int) + 1 - ((samplPt * (tseg + 1) / 1000 : Nat) : Int) =
      ((tseg + 1 - samplPt * (tseg + 1) / 1000 : Nat) : Int) := by omega
  have hclamp : clampTseg2 btc ((tseg : Int) + 1 - (samplPt * (tseg + 1) / 1000 : Nat)) =
      ((min (max (tseg + 1 - samplPt * (tseg + 1) / 1000) btc.tseg2Min) btc.tseg2Max : Nat) :
        Int) := by
    rw [hsub]
    exact clampTseg2_natCast (by omega) (by omega) htwo
  set c := min (max (tseg + 1 - samplPt * (tseg + 1) / 1000) btc.tseg2Min) btc.tseg2Max with hc
  have hcle : c ≤ tseg := by omega
  have hsplit : (if u32 ((tseg : Int) - c) > btc.tseg1Max then (tseg : Int) - btc.tseg1Max
      else (c : Int)) = (tseg2For btc samplPt tseg : Nat) := by
    rw [show (tseg : Int) - c = ((tseg - c : Nat) : Int) from by omega, u32_natCast (by omega)]
    simp only [tseg2For, ← hc]
    split <;> omega
  have hspt : (1000 * ((tseg : Int) + 1 - (tseg2For btc samplPt tseg : Nat))).tdiv (tseg + 1) =
      (sptFor btc samplPt tseg : Nat) := by
    rw [show (tseg : Int) + 1 - (tseg2For btc samplPt tseg : Nat) =
      ((tseg + 1 - tseg2For btc samplPt tseg : Nat) : Int) from by omega]
    rfl
  simp only [canUpdateSpt, hdiv, hclamp, hsplit, hspt, Spt.mk.injEq, true_and, and_true]
  omega

theorem sptFor_le : sptFor btc samplPt tseg ≤ 1000 := by
  unfold sptFor
  have h : 1000 * (tseg + 1 - tseg2For btc samplPt tseg) ≤ 1000 * (tseg + 1) :=
    Nat.mul_le_mul_left _ (Nat.sub_le _ _)
  calc 1000 * (tseg + 1 - tseg2For btc samplPt tseg) / (tseg + 1)
      ≤ 1000 * (tseg + 1) / (tseg + 1) := Nat.div_le_div_right h
    _ = 1000 := Nat.mul_div_cancel _ (Nat.succ_pos _)

end Split

/-! ## The loop -/

/-- The distance from the bit rate with `n` quanta of `brp` clocks each. -/
def rateError (freq bitrate n brp : Nat) : Nat :=
  ((bitrate : Int) - (freq / (brp * n) : Nat)).natAbs

def sptErrorFor (btc : CanBittimingConst) (samplPt tseg : Nat) : Nat :=
  ((samplPt : Int) - (sptFor btc samplPt tseg : Nat)).natAbs

/-- The prescaler of a turn, which counts half quanta. -/
def triedBrp (btc : CanBittimingConst) (freq bitrate t : Nat) : Nat :=
  (freq / ((1 + t / 2) * bitrate) + t % 2) / btc.brpInc * btc.brpInc

/-- The controller has the prescaler of the turn. -/
def Takes (btc : CanBittimingConst) (freq bitrate t : Nat) : Prop :=
  btc.brpMin ≤ triedBrp btc freq bitrate t ∧ triedBrp btc freq bitrate t ≤ btc.brpMax

/-- The quanta of a turn. -/
def InRange (btc : CanBittimingConst) (t : Nat) : Prop :=
  btc.tseg1Min + btc.tseg2Min ≤ t / 2 ∧ t / 2 ≤ btc.tseg1Max + btc.tseg2Max

/-- What is known before the turns below `k`. -/
structure Searched (btc : CanBittimingConst) (freq bitrate samplPt k : Nat) (b : Best) : Prop where
  found : b = ⟨1000000000, 1000, 0, 0⟩ ∨
    ∃ t, InRange btc t ∧ Takes btc freq bitrate t ∧ b.bestTseg = t / 2 ∧
      b.bestBrp = triedBrp btc freq bitrate t ∧
      b.bestError = rateError freq bitrate (1 + t / 2) (triedBrp btc freq bitrate t) ∧
      (b.bestError = 0 → b.sptError = sptErrorFor btc samplPt (t / 2))
  spt_start : b.bestError ≠ 0 → b.sptError = 1000
  rate_le : ∀ t, k ≤ t → InRange btc t → Takes btc freq bitrate t →
    b.bestError ≤ rateError freq bitrate (1 + t / 2) (triedBrp btc freq bitrate t)
  spt_le : ∀ t, k ≤ t → InRange btc t → Takes btc freq bitrate t →
    rateError freq bitrate (1 + t / 2) (triedBrp btc freq bitrate t) = 0 →
    b.sptError ≤ sptErrorFor btc samplPt (t / 2)

section Loop

variable {btc : CanBittimingConst} {freq : Nat} {bt : CanBittiming} {t : Nat}

theorem div_of_pos {n d : Nat} (h : 0 < d) : div n d = .ok (n / d) := if_neg (by omega)

theorem Request.turn_lt (hr : Request btc freq bt) (ht : InRange btc t) :
    (1 + t / 2) * bt.bitrate < 2 ^ 32 :=
  lt_of_le_of_lt (Nat.mul_le_mul_right _ (by have := ht.2; omega)) hr.product_lt

theorem Request.sample_ge_turn (hr : Request btc freq bt) (ht : InRange btc t) :
    1000 ≤ samplePointFor bt * (t / 2 + 1) :=
  hr.sample_ge.trans (Nat.mul_le_mul_left _ (by have := ht.1; omega))

theorem candidateBrp_eq (hs : btc.Sane) (hr : Request btc freq bt) (ht : InRange btc t) :
    candidateBrp btc freq bt.bitrate t = .ok (triedBrp btc freq bt.bitrate t) := by
  have hlt := hr.turn_lt ht
  have hpos : 0 < (1 + t / 2) * bt.bitrate := Nat.mul_pos (by omega) hr.bitrate_pos
  have hinc := hs.brpInc_pos
  have htwo : 2 ≤ (1 + t / 2) * bt.bitrate := by
    have hone := hr.bitrate_pos
    have hmin := hs.tseg2Min_pos
    have hlow := ht.1
    calc 2 ≤ (1 + t / 2) * 1 := by omega
      _ ≤ (1 + t / 2) * bt.bitrate := Nat.mul_le_mul_left _ hone
  -- with two quanta at least the quotient leaves room for the 1 that rounds up
  have hq : freq / ((1 + t / 2) * bt.bitrate) + t % 2 < 2 ^ 32 := by
    have hhalf : freq / ((1 + t / 2) * bt.bitrate) ≤ freq / 2 := Nat.div_le_div_left htwo (by omega)
    have hfreq := hr.freq_lt
    omega
  simp only [candidateBrp, Nat.mod_eq_of_lt hlt, div_of_pos hpos, Nat.mod_eq_of_lt hq,
    div_of_pos hinc, bind, Except.bind, pure, Except.pure, triedBrp]

/-- A turn looks at the prescaler only where the controller has it. -/
theorem calcTurn_eq (hs : btc.Sane) (hr : Request btc freq bt) (ht : InRange btc t) (b : Best) :
    calcTurn btc freq bt.bitrate (samplePointFor bt) t b = .ok
      (if triedBrp btc freq bt.bitrate t < btc.brpMin ∨ triedBrp btc freq bt.bitrate t > btc.brpMax
        then (b, false)
      else takeCandidate btc bt.bitrate (samplePointFor bt) t (triedBrp btc freq bt.bitrate t)
        (freq / (triedBrp btc freq bt.bitrate t * (1 + t / 2))) b) := by
  simp only [calcTurn, candidateBrp_eq hs hr ht, bind, Except.bind]
  by_cases h : triedBrp btc freq bt.bitrate t < btc.brpMin ∨
      triedBrp btc freq bt.bitrate t > btc.brpMax
  · simp only [h, if_true, pure, Except.pure]
  · have hmin := hs.brpMin_pos
    have hpos : 0 < triedBrp btc freq bt.bitrate t * (1 + t / 2) :=
      Nat.mul_pos (by omega) (by omega)
    simp only [h, if_false, div_of_pos hpos, pure, Except.pure]

theorem sptErrorFor_le {samplPt tseg : Nat} (h : samplPt ≤ 1000) :
    sptErrorFor btc samplPt tseg ≤ 1000 := by
  have hle : sptFor btc samplPt tseg ≤ 1000 := sptFor_le
  unfold sptErrorFor
  omega

/-- A turn whose prescaler the controller does not have changes nothing. -/
theorem Searched.skip {samplPt : Nat} {b : Best}
    (h : Searched btc freq bt.bitrate samplPt (t + 1) b) (hn : ¬Takes btc freq bt.bitrate t) :
    Searched btc freq bt.bitrate samplPt t b where
  found := h.found
  spt_start := h.spt_start
  rate_le t' hle hi hp := by
    rcases Nat.eq_or_lt_of_le hle with rfl | hlt
    · exact absurd hp hn
    · exact h.rate_le t' hlt hi hp
  spt_le t' hle hi hp h0 := by
    rcases Nat.eq_or_lt_of_le hle with rfl | hlt
    · exact absurd hp hn
    · exact h.spt_le t' hlt hi hp h0

/-- A turn whose candidate is no better changes nothing either. -/
theorem Searched.keep {samplPt : Nat} {b : Best}
    (h : Searched btc freq bt.bitrate samplPt (t + 1) b)
    (hrate : b.bestError ≤ rateError freq bt.bitrate (1 + t / 2) (triedBrp btc freq bt.bitrate t))
    (hspt : rateError freq bt.bitrate (1 + t / 2) (triedBrp btc freq bt.bitrate t) = 0 →
      b.sptError ≤ sptErrorFor btc samplPt (t / 2)) :
    Searched btc freq bt.bitrate samplPt t b where
  found := h.found
  spt_start := h.spt_start
  rate_le t' hle hi hp := by
    rcases Nat.eq_or_lt_of_le hle with rfl | hlt
    · exact hrate
    · exact h.rate_le t' hlt hi hp
  spt_le t' hle hi hp h0 := by
    rcases Nat.eq_or_lt_of_le hle with rfl | hlt
    · exact hspt h0
    · exact h.spt_le t' hlt hi hp h0

theorem takeCandidate_eq (hs : btc.Sane) (hr : Request btc freq bt) (ht : InRange btc t)
    (brp : Nat) (b : Best) :
    takeCandidate btc bt.bitrate (samplePointFor bt) t brp (freq / (brp * (1 + t / 2))) b =
      if rateError freq bt.bitrate (1 + t / 2) brp > b.bestError then (b, false)
      else if rateError freq bt.bitrate (1 + t / 2) brp = 0 then
        if sptErrorFor btc (samplePointFor bt) (t / 2) > b.sptError then
          ({ b with bestError := 0 }, false)
        else (⟨0, sptErrorFor btc (samplePointFor bt) (t / 2), t / 2, brp⟩,
          sptErrorFor btc (samplePointFor bt) (t / 2) == 0)
      else ({ b with
        bestError := rateError freq bt.bitrate (1 + t / 2) brp
        bestTseg := t / 2
        bestBrp := brp }, false) := by
  have hspt := canUpdateSpt_eq hs hr.sample_le (hr.sample_ge_turn ht) ht.1 ht.2
  simp only [takeCandidate, hspt]
  rfl

theorem Searched.take (hs : btc.Sane) (hr : Request btc freq bt) (ht : InRange btc t)
    (hp : Takes btc freq bt.bitrate t) {b b' : Best} {stop : Bool}
    (h : Searched btc freq bt.bitrate (samplePointFor bt) (t + 1) b)
    (he : takeCandidate btc bt.bitrate (samplePointFor bt) t (triedBrp btc freq bt.bitrate t)
      (freq / (triedBrp btc freq bt.bitrate t * (1 + t / 2))) b = (b', stop)) :
    Searched btc freq bt.bitrate (samplePointFor bt) t b' ∧
      (stop = true → b'.bestError = 0 ∧ b'.sptError = 0) := by
  rw [takeCandidate_eq hs hr ht] at he
  have hle : sptErrorFor btc (samplePointFor bt) (t / 2) ≤ 1000 := sptErrorFor_le hr.sample_le
  split at he
  · -- further from the bit rate
    obtain ⟨rfl, rfl⟩ := Prod.mk.inj he
    exact ⟨h.keep (by omega) (by omega), by simp⟩
  · rename_i hbetter
    split at he
    · rename_i hzero
      split at he
      · -- exact, but the sample point is worse than that of an exact one before
        rename_i hworse
        obtain ⟨rfl, rfl⟩ := Prod.mk.inj he
        have hb : b.bestError = 0 := by
          by_contra hne
          have := h.spt_start hne
          omega
        have heq : ({ b with bestError := 0 } : Best) = b := by rw [← hb]
        rw [heq]
        exact ⟨h.keep (by omega) (by omega), by simp⟩
      · -- exact, and no sample point was better
        rename_i hno
        obtain ⟨rfl, rfl⟩ := Prod.mk.inj he
        refine ⟨?_, fun hstop => ⟨rfl, by simpa using hstop⟩⟩
        refine ⟨.inr ⟨t, ht, hp, rfl, rfl, hzero.symm, fun _ => rfl⟩, fun hne => absurd rfl hne,
          fun _ _ _ _ => Nat.zero_le _, fun t' hle' hi hp' h0 => ?_⟩
        rcases Nat.eq_or_lt_of_le hle' with rfl | hlt
        · exact le_rfl
        · exact (Nat.le_of_not_lt hno).trans (h.spt_le t' hlt hi hp' h0)
    · -- not exact, but no further from the bit rate than the best
      rename_i hne
      obtain ⟨rfl, rfl⟩ := Prod.mk.inj he
      refine ⟨?_, by simp⟩
      have hpos : b.bestError ≠ 0 := by omega
      have hrate : ∀ t', t ≤ t' → InRange btc t' → Takes btc freq bt.bitrate t' →
          rateError freq bt.bitrate (1 + t / 2) (triedBrp btc freq bt.bitrate t) ≤
            rateError freq bt.bitrate (1 + t' / 2) (triedBrp btc freq bt.bitrate t') := by
        intro t' hle' hi hp'
        rcases Nat.eq_or_lt_of_le hle' with rfl | hlt
        · exact le_rfl
        · exact (Nat.le_of_not_lt hbetter).trans (h.rate_le t' hlt hi hp')
      refine ⟨.inr ⟨t, ht, hp, rfl, rfl, rfl, fun h0 => absurd h0 hne⟩,
        fun _ => h.spt_start hpos, hrate, fun t' hle' hi hp' h0 => ?_⟩
      exact absurd (Nat.le_zero.mp (h0 ▸ hrate t' hle' hi hp')) hne

theorem Searched.turn (hs : btc.Sane) (hr : Request btc freq bt) (ht : InRange btc t) {b : Best}
    (h : Searched btc freq bt.bitrate (samplePointFor bt) (t + 1) b) :
    ∃ b' stop, calcTurn btc freq bt.bitrate (samplePointFor bt) t b = .ok (b', stop) ∧
      Searched btc freq bt.bitrate (samplePointFor bt) t b' ∧
      (stop = true → b'.bestError = 0 ∧ b'.sptError = 0) := by
  rw [calcTurn_eq hs hr ht]
  by_cases hp : Takes btc freq bt.bitrate t
  · rw [if_neg (by have := hp.1; have := hp.2; omega)]
    exact ⟨_, _, rfl, h.take hs hr ht hp rfl⟩
  · rw [if_pos (by unfold Takes at hp; omega)]
    exact ⟨b, false, rfl, h.skip hp, by simp⟩

/-- Nothing beats an exact rate with an exact sample point. -/
theorem Searched.of_zero {samplPt k : Nat} {b : Best}
    (h : Searched btc freq bt.bitrate samplPt k b) (hrate : b.bestError = 0)
    (hspt : b.sptError = 0) (j : Nat) : Searched btc freq bt.bitrate samplPt j b where
  found := h.found
  spt_start := h.spt_start
  rate_le := fun _ _ _ _ => by rw [hrate]; exact Nat.zero_le _
  spt_le := fun _ _ _ _ _ => by rw [hspt]; exact Nat.zero_le _

theorem Searched.loop (hs : btc.Sane) (hr : Request btc freq bt) {low : Nat} (n : Nat)
    {b : Best} (hrange : ∀ t, low ≤ t → t < low + n → InRange btc t)
    (h : Searched btc freq bt.bitrate (samplePointFor bt) (low + n) b) :
    ∃ b', calcLoop btc freq bt.bitrate (samplePointFor bt) low n b = .ok b' ∧
      Searched btc freq bt.bitrate (samplePointFor bt) low b' := by
  induction n generalizing b with
  | zero => exact ⟨b, rfl, h⟩
  | succ n ih =>
      obtain ⟨b', stop, he, hb', hstop⟩ := h.turn hs hr (hrange (low + n) (by omega) (by omega))
      simp only [calcLoop, he, bind, Except.bind]
      cases stop with
      | true =>
          obtain ⟨hrate, hspt⟩ := hstop rfl
          exact ⟨b', rfl, hb'.of_zero hrate hspt low⟩
      | false => exact ih (fun t hlow hlt => hrange t hlow (by omega)) hb'

/-- Nothing was tried before the first turn. -/
theorem Searched.start {samplPt k : Nat} (hk : ∀ t, InRange btc t → t < k) :
    Searched btc freq bt.bitrate samplPt k ⟨1000000000, 1000, 0, 0⟩ where
  found := .inl rfl
  spt_start := fun _ => rfl
  rate_le := fun t hle hi _ => absurd (hk t hi) (by omega)
  spt_le := fun t hle hi _ _ => absurd (hk t hi) (by omega)

end Loop

/-! ## What the search covers -/

/-- A timing that the controller has. -/
structure Setting (btc : CanBittimingConst) (tseg1 tseg2 brp : Nat) : Prop where
  tseg1_ge : btc.tseg1Min ≤ tseg1
  tseg1_le : tseg1 ≤ btc.tseg1Max
  tseg2_ge : btc.tseg2Min ≤ tseg2
  tseg2_le : tseg2 ≤ btc.tseg2Max
  brp_ge : btc.brpMin ≤ brp
  brp_le : brp ≤ btc.brpMax
  brp_dvd : btc.brpInc ∣ brp

/-- The prescalers next to the exact one, on the side of `brp`, are among those that the
controller has. -/
def Covered (btc : CanBittimingConst) (freq bitrate n brp : Nat) : Prop :=
  let exact := freq / (n * bitrate)
  (brp ≤ exact → exact / btc.brpInc * btc.brpInc ≤ btc.brpMax) ∧
    (exact < brp → btc.brpInc ∣ exact + 1 ∧ btc.brpMin ≤ exact + 1)

section Cover

variable {btc : CanBittimingConst} {freq bitrate n brp : Nat}

theorem rate_antitone (freq : Nat) {brp' : Nat} (hn : 0 < n) (hb : 0 < brp) (h : brp ≤ brp') :
    freq / (brp' * n) ≤ freq / (brp * n) :=
  Nat.div_le_div_left (Nat.mul_le_mul_right n h) (Nat.mul_pos hb hn)

theorem rate_ge_of_le (freq bitrate : Nat) (hn : 0 < n) (hb : 0 < brp)
    (h : brp ≤ freq / (n * bitrate)) : bitrate ≤ freq / (brp * n) := by
  rw [Nat.le_div_iff_mul_le (Nat.mul_pos hb hn)]
  calc bitrate * (brp * n) = brp * (n * bitrate) := by ring
    _ ≤ freq / (n * bitrate) * (n * bitrate) := Nat.mul_le_mul_right _ h
    _ ≤ freq := Nat.div_mul_le_self _ _

theorem rate_lt_of_lt (freq : Nat) (hn : 0 < n) (hr : 0 < bitrate) (h : freq / (n * bitrate) < brp) :
    freq / (brp * n) < bitrate := by
  rw [Nat.div_lt_iff_lt_mul (Nat.mul_pos hn hr)] at h
  have hb : 0 < brp := Nat.pos_of_mul_pos_right (Nat.zero_lt_of_lt h)
  rw [Nat.div_lt_iff_lt_mul (Nat.mul_pos hb hn)]
  calc freq < brp * (n * bitrate) := h
    _ = bitrate * (brp * n) := by ring

/-- The multiple that rounding down gives is the last one up to there. -/
theorem le_div_mul_self {q c : Nat} (hc : 0 < c) (h : c ∣ brp) (hle : brp ≤ q) :
    brp ≤ q / c * c := by
  obtain ⟨k, rfl⟩ := h
  rw [Nat.mul_comm c k] at hle ⊢
  exact Nat.mul_le_mul_right c ((Nat.le_div_iff_mul_le hc).mpr hle)

/-- A turn for the same quanta comes at least as near. -/
theorem Setting.turn {tseg1 tseg2 : Nat} (hs : btc.Sane) (hr : 0 < bitrate)
    (h : Setting btc tseg1 tseg2 brp) (hc : Covered btc freq bitrate (1 + (tseg1 + tseg2)) brp) :
    ∃ t, t / 2 = tseg1 + tseg2 ∧ InRange btc t ∧ Takes btc freq bitrate t ∧
      rateError freq bitrate (1 + t / 2) (triedBrp btc freq bitrate t) ≤
        rateError freq bitrate (1 + (tseg1 + tseg2)) brp := by
  have hin : ∀ t, t / 2 = tseg1 + tseg2 → InRange btc t := by
    intro t ht
    have h1 := h.tseg1_ge
    have h2 := h.tseg1_le
    have h3 := h.tseg2_ge
    have h4 := h.tseg2_le
    exact ⟨by omega, by omega⟩
  have hpos : 0 < brp := lt_of_lt_of_le hs.brpMin_pos h.brp_ge
  have hn : 0 < 1 + (tseg1 + tseg2) := by omega
  rcases Nat.lt_or_ge (freq / ((1 + (tseg1 + tseg2)) * bitrate)) brp with hlt | hge
  · -- too slow already: the prescaler above the exact one
    obtain ⟨hdvd, hmin⟩ := hc.2 hlt
    have ht : (2 * (tseg1 + tseg2) + 1) / 2 = tseg1 + tseg2 := by omega
    have htried : triedBrp btc freq bitrate (2 * (tseg1 + tseg2) + 1) =
        freq / ((1 + (tseg1 + tseg2)) * bitrate) + 1 := by
      rw [triedBrp, ht, show (2 * (tseg1 + tseg2) + 1) % 2 = 1 from by omega,
        Nat.div_mul_cancel hdvd]
    refine ⟨_, ht, hin _ ht, ⟨by rw [htried]; exact hmin, ?_⟩, ?_⟩
    · rw [htried]
      exact le_trans hlt h.brp_le
    · have hmono := rate_antitone freq hn (Nat.succ_pos _) hlt
      have hslow := rate_lt_of_lt freq hn hr
        (Nat.lt_succ_self (freq / ((1 + (tseg1 + tseg2)) * bitrate)))
      rw [ht, htried]
      unfold rateError
      simp only [Nat.succ_eq_add_one] at hmono hslow
      omega
  · -- too fast: the prescaler below the exact one
    have ht : 2 * (tseg1 + tseg2) / 2 = tseg1 + tseg2 := by omega
    have htried : triedBrp btc freq bitrate (2 * (tseg1 + tseg2)) =
        freq / ((1 + (tseg1 + tseg2)) * bitrate) / btc.brpInc * btc.brpInc := by
      rw [triedBrp, ht, show 2 * (tseg1 + tseg2) % 2 = 0 from by omega, Nat.add_zero]
    have hup := le_div_mul_self hs.brpInc_pos h.brp_dvd hge
    refine ⟨_, ht, hin _ ht, ⟨by rw [htried]; exact h.brp_ge.trans hup, ?_⟩, ?_⟩
    · rw [htried]
      exact hc.1 hge
    · have hmono := rate_antitone freq hn hpos hup
      have hfast := rate_ge_of_le freq bitrate hn
        (lt_of_lt_of_le hpos hup) (Nat.div_mul_le_self _ _)
      rw [ht, htried]
      unfold rateError
      omega

/-- No split with a sample point up to the one asked for has a nearer one. -/
theorem sptErrorFor_le_of_split {samplPt tseg1 tseg2 : Nat} (hs : btc.Sane)
    (h : Setting btc tseg1 tseg2 brp)
    (hspt : 1000 * (1 + tseg1) ≤ samplPt * (1 + (tseg1 + tseg2))) :
    sptErrorFor btc samplPt (tseg1 + tseg2) ≤
      samplPt - 1000 * (1 + tseg1) / (1 + (tseg1 + tseg2)) := by
  have h1 := h.tseg1_le
  have h3 := h.tseg2_ge
  have h4 := h.tseg2_le
  have htwo := hs.tseg2_le
  have hq : 1 + tseg1 ≤ samplPt * (tseg1 + tseg2 + 1) / 1000 := by
    rw [Nat.le_div_iff_mul_le (by omega), Nat.add_comm (tseg1 + tseg2) 1]
    omega
  -- the split of the code has at least as many quanta before the sample point
  have hbefore : tseg2For btc samplPt (tseg1 + tseg2) ≤ tseg2 ∧
      (tseg1 + tseg2 + 1 - tseg2For btc samplPt (tseg1 + tseg2) ≤
        samplPt * (tseg1 + tseg2 + 1) / 1000) := by
    simp only [tseg2For]
    split <;> omega
  obtain ⟨hle, hup⟩ := hbefore
  have hfrom : 1000 * (1 + tseg1) / (1 + (tseg1 + tseg2)) ≤ sptFor btc samplPt (tseg1 + tseg2) := by
    rw [sptFor, Nat.add_comm 1 (tseg1 + tseg2)]
    exact Nat.div_le_div_right (by omega)
  have hto : sptFor btc samplPt (tseg1 + tseg2) ≤ samplPt := by
    rw [sptFor]
    refine Nat.div_le_of_le_mul ?_
    calc 1000 * (tseg1 + tseg2 + 1 - tseg2For btc samplPt (tseg1 + tseg2))
        ≤ 1000 * (samplPt * (tseg1 + tseg2 + 1) / 1000) := Nat.mul_le_mul_left _ hup
      _ ≤ samplPt * (tseg1 + tseg2 + 1) := Nat.mul_div_le _ _
      _ = (tseg1 + tseg2 + 1) * samplPt := Nat.mul_comm _ _
  unfold sptErrorFor
  omega

end Cover

/-! ## The result -/

/-- The quanta of a bit. -/
def CanBittiming.quanta (r : CanBittiming) : Nat := 1 + (r.propSeg + r.phaseSeg1 + r.phaseSeg2)

/-- What the timing that was calculated for `bt` is like. -/
structure Calculated (btc : CanBittimingConst) (freq : Nat) (bt r : CanBittiming) : Prop where
  tseg_ge : btc.tseg1Min + btc.tseg2Min ≤ r.propSeg + r.phaseSeg1 + r.phaseSeg2
  tseg1_le : r.propSeg + r.phaseSeg1 ≤ btc.tseg1Max
  -- the first segment is too short only for a sample point that lies too early for it
  tseg1_ge : 1000 * (1 + btc.tseg1Min) ≤ samplePointFor bt * r.quanta →
    btc.tseg1Min ≤ r.propSeg + r.phaseSeg1
  tseg2_ge : btc.tseg2Min ≤ r.phaseSeg2
  tseg2_le : r.phaseSeg2 ≤ btc.tseg2Max
  propSeg_eq : r.propSeg = (r.propSeg + r.phaseSeg1) / 2
  sjw_pos : 1 ≤ r.sjw
  sjw_le : r.sjw ≤ r.phaseSeg2 ∧ r.sjw ≤ max 1 btc.sjwMax
  brp_ge : btc.brpMin ≤ r.brp
  brp_le : r.brp ≤ btc.brpMax
  brp_dvd : btc.brpInc ∣ r.brp
  bitrate_eq : r.bitrate = freq / (r.brp * r.quanta)
  sample_eq : r.samplePoint = 1000 * (1 + (r.propSeg + r.phaseSeg1)) / r.quanta
  tq_eq : r.tq = r.brp * 1000000000 / freq
  near : rateError freq bt.bitrate r.quanta r.brp * 1000 / bt.bitrate ≤ canCalcMaxError

/-- The result for `tseg` quanta and a prescaler. -/
def timingFor (btc : CanBittimingConst) (freq : Nat) (bt : CanBittiming) (tseg brp : Nat) :
    CanBittiming where
  bitrate := freq / (brp * (tseg + 1))
  samplePoint := sptFor btc (samplePointFor bt) tseg
  tq := brp * 1000000000 / freq % 2 ^ 32
  propSeg := (tseg - tseg2For btc (samplePointFor bt) tseg) / 2
  phaseSeg1 := tseg - tseg2For btc (samplePointFor bt) tseg -
    (tseg - tseg2For btc (samplePointFor bt) tseg) / 2
  phaseSeg2 := tseg2For btc (samplePointFor bt) tseg
  sjw := calcSjw btc bt.sjw (tseg2For btc (samplePointFor bt) tseg)
  brp := brp

section Result

variable {btc : CanBittimingConst} {freq : Nat} {bt : CanBittiming}

theorem calcSjw_bounds (btc : CanBittimingConst) (sjw : Nat) {tseg2 : Nat} (h : 0 < tseg2) :
    1 ≤ calcSjw btc sjw tseg2 ∧ calcSjw btc sjw tseg2 ≤ tseg2 ∧
      calcSjw btc sjw tseg2 ≤ max 1 btc.sjwMax := by
  unfold calcSjw
  split
  · omega
  · dsimp only
    split <;> split <;> omega

theorem finishCalc_eq (hs : btc.Sane) (hr : Request btc freq bt) (b : Best)
    (hlow : btc.tseg1Min + btc.tseg2Min ≤ b.bestTseg)
    (htop : b.bestTseg ≤ btc.tseg1Max + btc.tseg2Max) (hmin : btc.brpMin ≤ b.bestBrp)
    (hmax : b.bestBrp ≤ btc.brpMax) :
    finishCalc btc freq bt b = .ok (timingFor btc freq bt b.bestTseg b.bestBrp) := by
  have hge : 1000 ≤ samplePointFor bt * (b.bestTseg + 1) :=
    hr.sample_ge.trans (Nat.mul_le_mul_left _ (by omega))
  have hb := tseg2For_bounds hs hr.sample_le hge hlow htop
  have hlt := hs.tseg_lt
  have hbrp : 0 < b.bestBrp := lt_of_lt_of_le hs.brpMin_pos hmin
  have hsum : ((b.bestTseg - tseg2For btc (samplePointFor bt) b.bestTseg : Nat) : Int) +
      (tseg2For btc (samplePointFor bt) b.bestTseg : Nat) + 1 = ((b.bestTseg + 1 : Nat) : Int) := by
    omega
  have hall : b.bestBrp * (b.bestTseg + 1) < 2 ^ 32 := by
    have hmul : b.bestBrp * (b.bestTseg + 1) ≤ btc.brpMax * (1 + (btc.tseg1Max + btc.tseg2Max)) :=
      Nat.mul_le_mul hmax (by omega)
    have hprod := hs.product_lt
    omega
  have hprop : u32 (((b.bestTseg - tseg2For btc (samplePointFor bt) b.bestTseg : Nat) : Int).tdiv 2)
      = (b.bestTseg - tseg2For btc (samplePointFor bt) b.bestTseg) / 2 := by
    rw [show ((b.bestTseg - tseg2For btc (samplePointFor bt) b.bestTseg : Nat) : Int).tdiv 2 =
      (((b.bestTseg - tseg2For btc (samplePointFor bt) b.bestTseg) / 2 : Nat) : Int) from rfl]
    exact u32_natCast (by omega)
  have hphase : u32 (((b.bestTseg - tseg2For btc (samplePointFor bt) b.bestTseg : Nat) : Int) -
      ((b.bestTseg - tseg2For btc (samplePointFor bt) b.bestTseg) / 2 : Nat)) =
      b.bestTseg - tseg2For btc (samplePointFor bt) b.bestTseg -
        (b.bestTseg - tseg2For btc (samplePointFor bt) b.bestTseg) / 2 := by
    unfold u32
    omega
  have hspt := @sptFor_le btc (samplePointFor bt) b.bestTseg
  simp only [finishCalc, canUpdateSpt_eq hs hr.sample_le hge hlow htop, div_of_pos hr.freq_pos,
    hsum, u32_natCast (show b.bestTseg + 1 < 2 ^ 32 by omega), Nat.mod_eq_of_lt hall,
    div_of_pos (Nat.mul_pos hbrp (Nat.succ_pos b.bestTseg)), bind, Except.bind, pure, Except.pure,
    hprop, hphase, timingFor, u32_natCast (show tseg2For btc (samplePointFor bt) b.bestTseg < 2 ^ 32
      by omega),
    u32_natCast (show sptFor btc (samplePointFor bt) b.bestTseg < 2 ^ 32 by omega)]

/-- The time quantum of a timing that is found fits the field: a rate of 0 is too far off,
so it is no longer than a second. -/
theorem quantum_lt_of_near (hr : Request btc freq bt) {n brp : Nat} (hn : 0 < n)
    (hnear : rateError freq bt.bitrate n brp * 1000 / bt.bitrate ≤ canCalcMaxError) :
    brp * 1000000000 / freq < 2 ^ 32 := by
  have hrate : 0 < freq / (brp * n) := by
    by_contra h0
    have herr : rateError freq bt.bitrate n brp = bt.bitrate := by
      rw [rateError, Nat.eq_zero_of_not_pos h0]
      simp
    rw [herr, Nat.mul_div_cancel_left _ hr.bitrate_pos] at hnear
    exact absurd hnear (by decide)
  have hmul : brp * n ≤ freq := by
    by_contra hgt
    rw [Nat.div_eq_of_lt (Nat.lt_of_not_le hgt)] at hrate
    exact absurd hrate (Nat.lt_irrefl 0)
  have hle : brp ≤ freq := (Nat.le_mul_of_pos_right brp hn).trans hmul
  calc brp * 1000000000 / freq ≤ freq * 1000000000 / freq :=
        Nat.div_le_div_right (Nat.mul_le_mul_right _ hle)
    _ = 1000000000 := Nat.mul_div_cancel_left _ hr.freq_pos
    _ < 2 ^ 32 := by decide

theorem calculated_of_near (tseg brp : Nat) (hs : btc.Sane) (hr : Request btc freq bt)
    (hlow : btc.tseg1Min + btc.tseg2Min ≤ tseg) (htop : tseg ≤ btc.tseg1Max + btc.tseg2Max)
    (hmin : btc.brpMin ≤ brp) (hmax : brp ≤ btc.brpMax) (hdvd : btc.brpInc ∣ brp)
    (hnear : rateError freq bt.bitrate (1 + tseg) brp * 1000 / bt.bitrate ≤ canCalcMaxError) :
    Calculated btc freq bt (timingFor btc freq bt tseg brp) ∧
      (timingFor btc freq bt tseg brp).quanta = 1 + tseg := by
  have hge : 1000 ≤ samplePointFor bt * (tseg + 1) :=
    hr.sample_ge.trans (Nat.mul_le_mul_left _ (by omega))
  obtain ⟨hle, h1, h3, h4⟩ := tseg2For_bounds hs hr.sample_le hge hlow htop
  have hpos : 0 < tseg2For btc (samplePointFor bt) tseg := lt_of_lt_of_le hs.tseg2Min_pos h3
  have hsjw := calcSjw_bounds btc bt.sjw hpos
  have hquanta : (timingFor btc freq bt tseg brp).quanta = 1 + tseg := by
    simp only [CanBittiming.quanta, timingFor]
    omega
  have htq := quantum_lt_of_near hr (show 0 < 1 + tseg by omega) hnear
  refine ⟨?_, hquanta⟩
  refine {
    tseg_ge := ?_, tseg1_le := ?_, tseg1_ge := ?_, tseg2_ge := h3, tseg2_le := h4, propSeg_eq := ?_,
    sjw_pos := hsjw.1, sjw_le := hsjw.2, brp_ge := hmin, brp_le := hmax, brp_dvd := hdvd,
    bitrate_eq := ?_, sample_eq := ?_, tq_eq := Nat.mod_eq_of_lt htq, near := ?_ }
  · simp only [timingFor]
    omega
  · simp only [timingFor]
    omega
  · intro hsample
    rw [hquanta, Nat.add_comm 1 tseg] at hsample
    have hfirst := tseg1Min_le_of_sample hs hr.sample_le hlow hsample
    simp only [timingFor]
    omega
  · simp only [timingFor]
    omega
  · rw [hquanta, Nat.add_comm 1 tseg]
    rfl
  · rw [hquanta]
    simp only [timingFor, sptFor]
    rw [Nat.add_comm 1 tseg]
    congr 2
    omega
  · rw [hquanta]
    exact hnear

/-- The search ends, having seen what each setting could give. -/
theorem search_spec (hs : btc.Sane) (hr : Request btc freq bt) :
    ∃ b, Searched btc freq bt.bitrate (samplePointFor bt) ((btc.tseg1Min + btc.tseg2Min) * 2) b ∧
      (canCalcBittiming btc freq bt =
        if b.bestError * 1000 / bt.bitrate > canCalcMaxError then .error .edom
        else finishCalc btc freq bt b) ∧
      ∀ tseg1 tseg2 brp, Setting btc tseg1 tseg2 brp →
        Covered btc freq bt.bitrate (1 + (tseg1 + tseg2)) brp →
        b.bestError ≤ rateError freq bt.bitrate (1 + (tseg1 + tseg2)) brp ∧
          (rateError freq bt.bitrate (1 + (tseg1 + tseg2)) brp = 0 →
            b.sptError ≤ sptErrorFor btc (samplePointFor bt) (tseg1 + tseg2)) := by
  have h1 := hs.tseg1_le
  have h2 := hs.tseg2_le
  set low := (btc.tseg1Min + btc.tseg2Min) * 2 with hlow
  set n := (btc.tseg1Max + btc.tseg2Max) * 2 + 1 + 1 - low with hn
  obtain ⟨b, hloop, hb⟩ := Searched.loop hs hr n
    (fun t (hle : low ≤ t) hlt => ⟨by omega, by omega⟩)
    (Searched.start fun t ht => by have := ht.1; have := ht.2; omega)
  refine ⟨b, hb, ?_, fun tseg1 tseg2 brp hset hcov => ?_⟩
  · simp only [canCalcBittiming, ← hlow, ← hn, hloop, bind, Except.bind,
      div_of_pos hr.bitrate_pos]
    split
    · rfl
    · rename_i h0
      rw [not_not] at h0
      rw [h0, Nat.zero_mul, Nat.zero_div, if_neg (by decide)]
  · obtain ⟨t, ht, hin, htakes, hle⟩ := hset.turn hs hr.bitrate_pos hcov
    have hk : low ≤ t := by
      have := hin.1
      omega
    refine ⟨(hb.rate_le t hk hin htakes).trans hle, fun h0 => ?_⟩
    have := hb.spt_le t hk hin htakes (by omega)
    rwa [ht] at this

/-- What is found within 5 % is calculated from the best candidate. -/
theorem Searched.result (hs : btc.Sane) (hr : Request btc freq bt) {k : Nat} {b : Best}
    (hb : Searched btc freq bt.bitrate (samplePointFor bt) k b)
    (hnear : b.bestError * 1000 / bt.bitrate ≤ canCalcMaxError) :
    finishCalc btc freq bt b = .ok (timingFor btc freq bt b.bestTseg b.bestBrp) ∧
      Calculated btc freq bt (timingFor btc freq bt b.bestTseg b.bestBrp) ∧
      (timingFor btc freq bt b.bestTseg b.bestBrp).quanta = 1 + b.bestTseg ∧
      rateError freq bt.bitrate (1 + b.bestTseg) b.bestBrp = b.bestError ∧
      (b.bestError = 0 → b.sptError = sptErrorFor btc (samplePointFor bt) b.bestTseg) := by
  rcases hb.found with hstart | ⟨t, hin, htakes, htseg, hbrp, herr, hspt⟩
  · -- without any candidate the error is over 5 % of each bit rate
    rw [hstart] at hnear
    have hbitrate : bt.bitrate < 2 ^ 32 :=
      lt_of_le_of_lt (Nat.le_mul_of_pos_left _ (by omega)) hr.product_lt
    have hfar : 232 ≤ 1000000000 * 1000 / bt.bitrate := by
      rw [Nat.le_div_iff_mul_le hr.bitrate_pos]
      omega
    exact absurd (hfar.trans hnear) (by decide)
  · have hbest : rateError freq bt.bitrate (1 + b.bestTseg) b.bestBrp = b.bestError := by
      rw [htseg, hbrp, herr]
    obtain ⟨hcalculated, hquanta⟩ := calculated_of_near b.bestTseg b.bestBrp hs hr
      (htseg ▸ hin.1) (htseg ▸ hin.2) (hbrp ▸ htakes.1) (hbrp ▸ htakes.2)
      (hbrp ▸ Nat.dvd_mul_left _ _) (hbest ▸ hnear)
    refine ⟨finishCalc_eq hs hr b (htseg ▸ hin.1) (htseg ▸ hin.2) (hbrp ▸ htakes.1)
      (hbrp ▸ htakes.2), hcalculated, hquanta, hbest, ?_⟩
    rw [htseg]
    exact hspt

end Result

/-- The search never fails but for want of a bit rate within 5 %; what it finds the
controller has, no covered timing comes nearer to the bit rate, and if one meets it exactly
none is nearer to the sample point from below. -/
theorem calc_finds_nearest (btc : CanBittimingConst) (freq : Nat) (bt : CanBittiming)
    (hs : btc.Sane) (hr : Request btc freq bt) :
    match canCalcBittiming btc freq bt with
    | .ok r => Calculated btc freq bt r ∧
        ∀ tseg1 tseg2 brp, Setting btc tseg1 tseg2 brp →
          Covered btc freq bt.bitrate (1 + (tseg1 + tseg2)) brp →
          rateError freq bt.bitrate r.quanta r.brp ≤
              rateError freq bt.bitrate (1 + (tseg1 + tseg2)) brp ∧
            (rateError freq bt.bitrate (1 + (tseg1 + tseg2)) brp = 0 →
              1000 * (1 + tseg1) ≤ samplePointFor bt * (1 + (tseg1 + tseg2)) →
              ((samplePointFor bt : Int) - r.samplePoint).natAbs ≤
                samplePointFor bt - 1000 * (1 + tseg1) / (1 + (tseg1 + tseg2)))
    | .error e => e = .edom ∧
        ∀ tseg1 tseg2 brp, Setting btc tseg1 tseg2 brp →
          Covered btc freq bt.bitrate (1 + (tseg1 + tseg2)) brp →
          canCalcMaxError <
            rateError freq bt.bitrate (1 + (tseg1 + tseg2)) brp * 1000 / bt.bitrate := by
  obtain ⟨b, hb, hcalc, hcover⟩ := search_spec hs hr
  rw [hcalc]
  by_cases hbig : b.bestError * 1000 / bt.bitrate > canCalcMaxError
  · rw [if_pos hbig]
    refine ⟨rfl, fun tseg1 tseg2 brp hset hcov => lt_of_lt_of_le hbig ?_⟩
    exact Nat.div_le_div_right (Nat.mul_le_mul_right _ (hcover tseg1 tseg2 brp hset hcov).1)
  · rw [if_neg hbig]
    obtain ⟨hfinish, hcalculated, hquanta, hbest, hspt⟩ :=
      hb.result hs hr (Nat.le_of_not_lt hbig)
    rw [hfinish]
    refine ⟨hcalculated, fun tseg1 tseg2 brp hset hcov => ?_⟩
    obtain ⟨hrate, hsptle⟩ := hcover tseg1 tseg2 brp hset hcov
    rw [hquanta]
    refine ⟨hbest.trans_le hrate, fun h0 hpt => ?_⟩
    calc sptErrorFor btc (samplePointFor bt) b.bestTseg
        = b.sptError := (hspt (by omega)).symm
      _ ≤ sptErrorFor btc (samplePointFor bt) (tseg1 + tseg2) := hsptle h0
      _ ≤ _ := sptErrorFor_le_of_split hs hset hpt

theorem sane_sja1000 : sja1000BittimingConst.Sane := by constructor <;> decide

/-- 500 kbit/s from a clock of 8 MHz. -/
def halfMegabit : CanBittiming := ⟨500000, 0, 0, 0, 0, 0, 0, 0⟩

theorem request_halfMegabit : Request sja1000BittimingConst 8000000 halfMegabit := by
  constructor <;> decide

theorem calc_halfMegabit : canCalcBittiming sja1000BittimingConst 8000000 halfMegabit =
    .ok ⟨500000, 875, 125, 6, 7, 2, 1, 1⟩ := by decide

theorem calc_finds_halfMegabit :
    ∃ r, canCalcBittiming sja1000BittimingConst 8000000 halfMegabit = .ok r ∧
      ∀ tseg1 tseg2 brp, Setting sja1000BittimingConst tseg1 tseg2 brp →
        Covered sja1000BittimingConst 8000000 halfMegabit.bitrate (1 + (tseg1 + tseg2)) brp →
        rateError 8000000 halfMegabit.bitrate r.quanta r.brp ≤
          rateError 8000000 halfMegabit.bitrate (1 + (tseg1 + tseg2)) brp := by
  have h := calc_finds_nearest sja1000BittimingConst 8000000 halfMegabit sane_sja1000
    request_halfMegabit
  rw [calc_halfMegabit] at h
  exact ⟨_, calc_halfMegabit, fun tseg1 tseg2 brp hset hcov => (h.2 tseg1 tseg2 brp hset hcov).1⟩

/-! ## Giving the timing in full -/

section Fixup

variable {btc : CanBittimingConst} {freq : Nat} {bt r : CanBittiming}

theorem calculated_of_ok (hs : btc.Sane) (hr : Request btc freq bt)
    (h : canCalcBittiming btc freq bt = .ok r) : Calculated btc freq bt r := by
  obtain ⟨b, hb, hcalc, -⟩ := search_spec hs hr
  rw [hcalc] at h
  split at h
  · cases h
  · next hbig =>
      obtain ⟨hfinish, hcalculated, -⟩ := hb.result hs hr (Nat.le_of_not_lt hbig)
      rw [hfinish] at h
      rw [← Except.ok.inj h]
      exact hcalculated

/-- Rounding to the nearest makes up for the part of a nanosecond that `tq` lacks. -/
theorem round_quantum (brp : Nat) {inc : Nat} (hf : 0 < freq) (hfreq : freq ≤ 500000000)
    (hinc : 0 < inc) :
    (freq * (inc * brp * 1000000000 / freq) / inc + 500000000 - 1) / 1000000000 = brp := by
  have hle : freq * (inc * brp * 1000000000 / freq) ≤ inc * brp * 1000000000 :=
    Nat.mul_div_le _ _
  have hlt : inc * brp * 1000000000 < freq * (inc * brp * 1000000000 / freq) + freq := by
    have := Nat.lt_mul_div_succ (inc * brp * 1000000000) hf
    rwa [Nat.mul_add freq, Nat.mul_one] at this
  generalize freq * (inc * brp * 1000000000 / freq) = c at hle hlt
  have hmul : inc * brp * 1000000000 = brp * 1000000000 * inc := by ring
  rw [hmul] at hle hlt
  have hup : c / inc ≤ brp * 1000000000 := Nat.div_le_of_le_mul (by rwa [Nat.mul_comm inc])
  have hlow : brp * 1000000000 ≤ c / inc + 499999999 := by
    have hsub : (brp * 1000000000 - 499999999) * inc ≤ c := by
      rw [Nat.sub_mul]
      by_cases htwo : 2 ≤ inc
      · have : 499999999 * 2 ≤ 499999999 * inc := Nat.mul_le_mul_left _ htwo
        omega
      · obtain rfl : inc = 1 := by omega
        omega
    have := (Nat.le_div_iff_mul_le hinc).mpr hsub
    omega
  omega

theorem fixupBrp_calculated (hs : btc.Sane) (hr : Request btc freq bt)
    (hfreq : freq ≤ 500000000) (h : Calculated btc freq bt r) :
    fixupBrp btc freq r.tq = r.brp := by
  obtain ⟨k, hk⟩ := h.brp_dvd
  have hlt : r.brp < 2 ^ 32 := by
    have hmul : r.brp ≤ btc.brpMax * (1 + (btc.tseg1Max + btc.tseg2Max)) :=
      h.brp_le.trans (Nat.le_mul_of_pos_right _ (by omega))
    have := hs.product_lt
    omega
  have hround := round_quantum k hr.freq_pos hfreq hs.brpInc_pos
  rw [← hk, ← h.tq_eq] at hround
  unfold fixupBrp
  by_cases hinc : btc.brpInc > 1
  · simp only [hinc, if_true]
    rw [hround, Nat.mul_comm k, ← hk, Nat.mod_eq_of_lt hlt]
  · have hone : btc.brpInc = 1 := by
      have := hs.brpInc_pos
      omega
    simp only [hinc, if_false]
    rw [hone, Nat.div_one] at hround
    rw [hone, Nat.one_mul] at hk
    rw [hround, ← hk, Nat.mod_eq_of_lt hlt]

/-- The checks pass exactly if there are quanta enough before the sample point and the
controller has a jump width at all. -/
theorem canFixup_calculated (hs : btc.Sane) (hr : Request btc freq bt)
    (hfreq : freq ≤ 500000000) (h : Calculated btc freq bt r) (sp brp : Nat) :
    canFixupBittiming btc freq { r with bitrate := 0, samplePoint := sp, brp := brp } =
      if btc.tseg1Min ≤ r.propSeg + r.phaseSeg1 ∧ 0 < btc.sjwMax then .ok r
      else .error .erange := by
  have h1 := h.tseg1_le
  have h2 := h.tseg2_ge
  have h3 := h.tseg2_le
  have hlt := hs.tseg_lt
  have hsjw := h.sjw_pos
  have hmax := h.sjw_le.2
  have hmod : (r.propSeg + r.phaseSeg1) % 2 ^ 32 = r.propSeg + r.phaseSeg1 :=
    Nat.mod_eq_of_lt (by omega)
  unfold canFixupBittiming
  simp only [hmod, fixupBrp_calculated hs hr hfreq h, show ¬r.sjw = 0 from by omega, if_false]
  by_cases hok : btc.tseg1Min ≤ r.propSeg + r.phaseSeg1 ∧ 0 < btc.sjwMax
  · have hmin := h.brp_ge
    have hle := h.brp_le
    have hbrp : ¬(r.brp < btc.brpMin ∨ r.brp > btc.brpMax) := by omega
    have hall : (r.propSeg + r.phaseSeg1 + r.phaseSeg2 + 1) % 2 ^ 32 = r.quanta := by
      rw [CanBittiming.quanta, Nat.mod_eq_of_lt (by omega), Nat.add_comm]
    have hprod : r.brp * r.quanta < 2 ^ 32 := by
      have hmul : r.brp * r.quanta ≤ btc.brpMax * (1 + (btc.tseg1Max + btc.tseg2Max)) :=
        Nat.mul_le_mul hle (by unfold CanBittiming.quanta; omega)
      have := hs.product_lt
      omega
    have hquanta : 0 < r.quanta := by
      unfold CanBittiming.quanta
      omega
    have hpos : 0 < r.brp * r.quanta := Nat.mul_pos (lt_of_lt_of_le hs.brpMin_pos hmin) hquanta
    have hsample : (r.propSeg + r.phaseSeg1 + 1) * 1000 / r.quanta = r.samplePoint := by
      rw [h.sample_eq, Nat.mul_comm, Nat.add_comm _ 1]
    rw [if_neg (by omega), if_neg hbrp, if_pos hok, hall, Nat.mod_eq_of_lt hprod]
    simp only [div_of_pos hpos, div_of_pos hquanta, bind, Except.bind, pure, Except.pure,
      ← h.bitrate_eq, hsample]
  · rw [if_pos (by omega), if_neg hok]

end Fixup

/-- A timing that was calculated is taken back as it is when its segments and its time
quantum are given instead of the bit rate: unless the sample point asked for leaves too
few quanta before it, or the controller has no jump width. -/
theorem fixup_takes_back (btc : CanBittimingConst) (freq : Nat) (bt r : CanBittiming)
    (sp brp : Nat) (hs : btc.Sane) (hr : Request btc freq bt) (hfreq : freq ≤ 500000000)
    (htq : bt.tq = 0) (h : canGetBittiming (some btc) freq bt = .ok r) :
    canGetBittiming (some btc) freq { r with bitrate := 0, samplePoint := sp, brp := brp } =
      if btc.tseg1Min ≤ r.propSeg + r.phaseSeg1 ∧ 0 < btc.sjwMax then .ok r
      else .error .erange := by
  have hbitrate := hr.bitrate_pos
  simp only [canGetBittiming, htq, true_and, show bt.bitrate ≠ 0 from by omega, ne_eq,
    not_false_eq_true, if_true] at h
  have hcalc := calculated_of_ok hs hr h
  have hpos : ¬r.tq = 0 := by
    have hbrp : 0 < r.brp := lt_of_lt_of_le hs.brpMin_pos hcalc.brp_ge
    have : 1 ≤ r.brp * 1000000000 / freq := by
      rw [Nat.le_div_iff_mul_le hr.freq_pos]
      omega
    rw [hcalc.tq_eq]
    omega
  simp only [canGetBittiming, hpos, false_and, if_false, not_false_eq_true, ne_eq, and_self,
    if_true]
  exact canFixup_calculated hs hr hfreq hcalc sp brp

theorem fixup_takes_back_halfMegabit :
    canGetBittiming (some sja1000BittimingConst) 8000000
      { (⟨500000, 875, 125, 6, 7, 2, 1, 1⟩ : CanBittiming) with
        bitrate := 0, samplePoint := 0, brp := 0 } = .ok ⟨500000, 875, 125, 6, 7, 2, 1, 1⟩ :=
  fixup_takes_back sja1000BittimingConst 8000000 halfMegabit ⟨500000, 875, 125, 6, 7, 2, 1, 1⟩ 0 0
    sane_sja1000 request_halfMegabit (by decide) rfl (by decide)

end MoxaDrivers.Can

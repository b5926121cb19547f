import Mathlib.Algebra.Order.Group.Nat
import Mathlib.Tactic.Ring

/-!
# The bit timing of a CAN controller

`can_calc_bittiming` looks for the prescaler and the number of time quanta that give
a bit rate, `can_fixup_bittiming` checks a timing that is given in full. The times of a
struct are `__u32`, the variables of the search are ints; where one is compared with the
other the int is taken modulo 2^32 (`u32`).
-/

namespace MoxaDrivers.Can

structure CanBittiming where
  bitrate : Nat
  samplePoint : Nat
  tq : Nat
  propSeg : Nat
  phaseSeg1 : Nat
  phaseSeg2 : Nat
  sjw : Nat
  brp : Nat
  deriving DecidableEq, Repr

structure CanBittimingConst where
  tseg1Min : Nat
  tseg1Max : Nat
  tseg2Min : Nat
  tseg2Max : Nat
  sjwMax : Nat
  brpMin : Nat
  brpMax : Nat
  brpInc : Nat
  deriving DecidableEq, Repr

inductive TimingError where
  | edom
  | erange
  | einval
  | eopnotsupp
  /-- A division by 0. -/
  | divZero
  deriving DecidableEq, Repr

def u32 (x : Int) : Nat := (x % 2 ^ 32).toNat

def div (n d : Nat) : Except TimingError Nat := if d = 0 then .error .divZero else .ok (n / d)

/-! ## The code -/

/-- What `can_update_spt` returns and leaves in `*tseg1` and `*tseg2`. -/
structure Spt where
  spt : Int
  tseg1 : Int
  tseg2 : Int

def clampTseg2 (btc : CanBittimingConst) (tseg2 : Int) : Int :=
  let tseg2 := if u32 tseg2 < btc.tseg2Min then (btc.tseg2Min : Int) else tseg2
  if u32 tseg2 > btc.tseg2Max then (btc.tseg2Max : Int) else tseg2

def canUpdateSpt (btc : CanBittimingConst) (samplPt tseg : Int) : Spt :=
  let tseg2 := clampTseg2 btc (tseg + 1 - (samplPt * (tseg + 1)).tdiv 1000)
  let tseg2 := if u32 (tseg - tseg2) > btc.tseg1Max then tseg - btc.tseg1Max else tseg2
  ⟨(1000 * (tseg + 1 - tseg2)).tdiv (tseg + 1), tseg - tseg2, tseg2⟩

/-- The best so far. -/
structure Best where
  bestError : Nat
  sptError : Nat
  bestTseg : Nat
  bestBrp : Nat
  deriving DecidableEq, Repr

/-- A prescaler for `tseg`, which counts half quanta: even rounds down, odd up. -/
def candidateBrp (btc : CanBittimingConst) (freq bitrate tseg : Nat) : Except TimingError Nat := do
  let brp ← div freq ((1 + tseg / 2) * bitrate % 2 ^ 32)
  let steps ← div ((brp + tseg % 2) % 2 ^ 32) btc.brpInc
  return steps * btc.brpInc

/-- The rest of a turn, with the rate that the prescaler gives; `true` ends the loop. -/
def takeCandidate (btc : CanBittimingConst) (bitrate samplPt tseg brp rate : Nat) (b : Best) :
    Best × Bool :=
  let error := ((bitrate : Int) - rate).natAbs
  if error > b.bestError then (b, false)
  else if error = 0 then
    let sptError := ((samplPt : Int) - (canUpdateSpt btc samplPt ((tseg / 2 : Nat) : Int)).spt).natAbs
    if sptError > b.sptError then ({ b with bestError := 0 }, false)
    else (⟨0, sptError, tseg / 2, brp⟩, sptError == 0)
  else ({ b with bestError := error, bestTseg := tseg / 2, bestBrp := brp }, false)

def calcTurn (btc : CanBittimingConst) (freq bitrate samplPt tseg : Nat) (b : Best) :
    Except TimingError (Best × Bool) := do
  let brp ← candidateBrp btc freq bitrate tseg
  if brp < btc.brpMin ∨ brp > btc.brpMax then return (b, false)
  else do
    let rate ← div freq (brp * (1 + tseg / 2))
    return takeCandidate btc bitrate samplPt tseg brp rate b

/-- The turns for the `n` values of `tseg` from `low` on, the last one first. -/
def calcLoop (btc : CanBittimingConst) (freq bitrate samplPt low : Nat) :
    Nat → Best → Except TimingError Best
  | 0, b => .ok b
  | n + 1, b => do
      let (b, stop) ← calcTurn btc freq bitrate samplPt (low + n) b
      if stop then return b else calcLoop btc freq bitrate samplPt low n b

/-- The sample points that CiA recommends, unless one is asked for. -/
def samplePointFor (bt : CanBittiming) : Nat :=
  if bt.samplePoint ≠ 0 then bt.samplePoint
  else if bt.bitrate > 800000 then 750
  else if bt.bitrate > 500000 then 800
  else 875

/-- `CAN_CALC_MAX_ERROR`, in tenths of a percent. -/
def canCalcMaxError : Nat := 50

def calcSjw (btc : CanBittimingConst) (sjw tseg2 : Nat) : Nat :=
  if sjw = 0 ∨ btc.sjwMax = 0 then 1
  else
    let sjw := if sjw > btc.sjwMax then btc.sjwMax else sjw
    if tseg2 < sjw then tseg2 else sjw

/-- From the end of the loop on. -/
def finishCalc (btc : CanBittimingConst) (freq : Nat) (bt : CanBittiming) (b : Best) :
    Except TimingError CanBittiming := do
  let r := canUpdateSpt btc (samplePointFor bt) b.bestTseg
  let tq ← div (b.bestBrp * 1000000000) freq
  let bitrate ← div freq (b.bestBrp * u32 (r.tseg1 + r.tseg2 + 1) % 2 ^ 32)
  let propSeg := u32 (r.tseg1.tdiv 2)
  return {
    bitrate := bitrate
    samplePoint := u32 r.spt
    tq := tq % 2 ^ 32
    propSeg := propSeg
    phaseSeg1 := u32 (r.tseg1 - propSeg)
    phaseSeg2 := u32 r.tseg2
    sjw := calcSjw btc bt.sjw (u32 r.tseg2)
    brp := b.bestBrp }

/-- The bound of the loop is compared unsigned, so that it ends only if the bound is not
0; the model ends in any case. -/
def canCalcBittiming (btc : CanBittimingConst) (freq : Nat) (bt : CanBittiming) :
    Except TimingError CanBittiming := do
  let low := (btc.tseg1Min + btc.tseg2Min) * 2
  let top := (btc.tseg1Max + btc.tseg2Max) * 2 + 1
  let b ← calcLoop btc freq bt.bitrate (samplePointFor bt) low (top + 1 - low)
    ⟨1000000000, 1000, 0, 0⟩
  if b.bestError ≠ 0 then do
    let error ← div (b.bestError * 1000) bt.bitrate
    if error > canCalcMaxError then .error .edom else finishCalc btc freq bt b
  else finishCalc btc freq bt b

/-- The prescaler for a time quantum. -/
def fixupBrp (btc : CanBittimingConst) (freq tq : Nat) : Nat :=
  let brp64 := freq * tq
  let brp64 := if btc.brpInc > 1 then brp64 / btc.brpInc else brp64
  let brp64 := (brp64 + 500000000 - 1) / 1000000000
  (if btc.brpInc > 1 then brp64 * btc.brpInc else brp64) % 2 ^ 32

def canFixupBittiming (btc : CanBittimingConst) (freq : Nat) (bt : CanBittiming) :
    Except TimingError CanBittiming :=
  let tseg1 := (bt.propSeg + bt.phaseSeg1) % 2 ^ 32
  let sjw := if bt.sjw = 0 then 1 else bt.sjw
  if sjw > btc.sjwMax ∨ tseg1 < btc.tseg1Min ∨ tseg1 > btc.tseg1Max ∨
      bt.phaseSeg2 < btc.tseg2Min ∨ bt.phaseSeg2 > btc.tseg2Max then .error .erange
  else
    let brp := fixupBrp btc freq bt.tq
    if brp < btc.brpMin ∨ brp > btc.brpMax then .error .einval
    else do
      let alltseg := (bt.propSeg + bt.phaseSeg1 + bt.phaseSeg2 + 1) % 2 ^ 32
      let bitrate ← div freq (brp * alltseg % 2 ^ 32)
      let samplePoint ← div ((tseg1 + 1) * 1000) alltseg
      return { bt with sjw := sjw, brp := brp, bitrate := bitrate, samplePoint := samplePoint }

def canGetBittiming (btc : Option CanBittimingConst) (freq : Nat) (bt : CanBittiming) :
    Except TimingError CanBittiming :=
  match btc with
  | none => .error .eopnotsupp
  | some btc =>
      if bt.tq = 0 ∧ bt.bitrate ≠ 0 then canCalcBittiming btc freq bt
      else if bt.tq ≠ 0 ∧ bt.bitrate = 0 then canFixupBittiming btc freq bt
      else .error .einval

/-- `sja1000_bittiming_const`. -/
def sja1000BittimingConst : CanBittimingConst where
  tseg1Min := 1
  tseg1Max := 16
  tseg2Min := 1
  tseg2Max := 8
  sjwMax := 4
  brpMin := 1
  brpMax := 64
  brpInc := 1

end MoxaDrivers.Can

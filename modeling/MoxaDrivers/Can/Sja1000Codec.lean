import MoxaDrivers.Can.Sja1000

/-!
# The frame in the buffers of the SJA1000

What is on the bus is a `BusFrame`, and a buffer of the chip has one in its registers.
`sja1000_start_xmit` writes the buffer of the frame it is given, and `sja1000_rx` makes of
a buffer the frame that is in it, whatever its other bits are.
-/

namespace MoxaDrivers.Can

open MoxaDrivers.Bits Sja1000

/-! ## On the bus -/

inductive Ident where
  | base (id : BitVec 11)
  | extended (id : BitVec 29)
  deriving DecidableEq, Repr

structure BusFrame where
  id : Ident
  rtr : Bool
  dlc : BitVec 4
  data : List Byte
  deriving DecidableEq, Repr

def Ident.canId : Ident → Canid
  | .base id => id.setWidth 32
  | .extended id => id.setWidth 32 ||| canEffFlag

/-- The frame as a receiver is told of it. -/
def BusFrame.frame (b : BusFrame) : CanFrame where
  canId := if b.rtr then b.id.canId ||| canRtrFlag else b.id.canId
  canDlc := getCanDlc (b.dlc.setWidth 8)
  data := payload b.data

/-- What is to be sent. -/
def CanFrame.bus (cf : CanFrame) : BusFrame where
  id := if cf.isEff then .extended (cf.canId.setWidth 29) else .base (cf.canId.setWidth 11)
  rtr := cf.isRtr
  dlc := cf.canDlc.setWidth 4
  data := if cf.isRtr then [] else cf.data.toList.take cf.canDlc.toNat

def Regs.extended (r : Regs) : Bool := test (r sja1000Fi) sja1000FiFf

/-- A buffer of the chip; of the data it has as many bytes as a frame can have. -/
def Regs.bus (r : Regs) : BusFrame where
  id := if r.extended then
      .extended (r sja1000Id1 ++ r sja1000Id2 ++ r sja1000Id3 ++ (r sja1000Id4).extractLsb' 3 5)
    else .base (r sja1000Id1 ++ (r sja1000Id2).extractLsb' 5 3)
  rtr := test (r sja1000Fi) sja1000FiRtr
  dlc := (r sja1000Fi).extractLsb' 0 4
  data := if test (r sja1000Fi) sja1000FiRtr then []
    else (List.range (min ((r sja1000Fi).extractLsb' 0 4).toNat canMaxDlen)).map fun i =>
      r ((if r.extended then sja1000EffBuf else sja1000SffBuf) + i)

/-! ## What is received -/

theorem extended_parts (a b c : Byte) (d : BitVec 5) (e : Canid)
    (he : ∀ i, e.getLsbD i = (decide (i < 5) && d.getLsbD i)) :
    (a ++ b ++ c ++ d).setWidth 32 =
      a.setWidth 32 <<< 21 ||| b.setWidth 32 <<< 13 ||| c.setWidth 32 <<< 5 ||| e := by
  apply BitVec.eq_of_getLsbD_eq
  intro i hi
  simp only [BitVec.getLsbD_setWidth, BitVec.getLsbD_append, BitVec.getLsbD_or,
    BitVec.getLsbD_shiftLeft, he, hi, decide_true, Bool.true_and]
  grind

theorem base_parts (a : Byte) (b : BitVec 3) (e : Canid)
    (he : ∀ i, e.getLsbD i = (decide (i < 3) && b.getLsbD i)) :
    (a ++ b).setWidth 32 = a.setWidth 32 <<< 3 ||| e := by
  apply BitVec.eq_of_getLsbD_eq
  intro i hi
  simp only [BitVec.getLsbD_setWidth, BitVec.getLsbD_append, BitVec.getLsbD_or,
    BitVec.getLsbD_shiftLeft, he, hi, decide_true, Bool.true_and]
  grind

theorem low_nibble_of_byte (x : Byte) : x &&& 0x0F = (x.extractLsb' 0 4).setWidth 8 := by
  apply BitVec.eq_of_getLsbD_eq
  intro i hi
  have hmask : ∀ i < 8, (0x0F : Byte).getLsbD i = decide (i < 4) := by decide
  simp only [BitVec.getLsbD_and, hmask i hi, BitVec.getLsbD_setWidth, BitVec.getLsbD_extractLsb',
    hi, decide_true, Bool.true_and, Nat.zero_add, Bool.and_comm]

theorem getCanDlc_toNat (x : Byte) : (getCanDlc x).toNat = min x.toNat canMaxDlen := by
  unfold getCanDlc
  split
  · next h => exact (Nat.min_eq_left h).symm
  · next h => exact (Nat.min_eq_right (Nat.le_of_not_ge h)).symm

/-- What `sja1000_rx` passes on is the frame in the buffer. -/
theorem rxFrame_eq (r : Regs) : rxFrame r = r.bus.frame := by
  have hid4 : ∀ i, ((r sja1000Id4).setWidth 32 >>> 3 : Canid).getLsbD i =
      (decide (i < 5) && ((r sja1000Id4).extractLsb' 3 5).getLsbD i) := by
    intro i
    simp only [BitVec.getLsbD_ushiftRight, BitVec.getLsbD_setWidth, BitVec.getLsbD_extractLsb']
    grind
  have hid2 : ∀ i, ((r sja1000Id2).setWidth 32 >>> 5 : Canid).getLsbD i =
      (decide (i < 3) && ((r sja1000Id2).extractLsb' 5 3).getLsbD i) := by
    intro i
    simp only [BitVec.getLsbD_ushiftRight, BitVec.getLsbD_setWidth, BitVec.getLsbD_extractLsb']
    grind
  have hlen : (getCanDlc (((r sja1000Fi).extractLsb' 0 4).setWidth 8)).toNat =
      min ((r sja1000Fi).extractLsb' 0 4).toNat canMaxDlen := by
    rw [getCanDlc_toNat, BitVec.toNat_setWidth_of_le (by decide)]
  unfold rxFrame BusFrame.frame Regs.bus Regs.extended
  simp only [low_nibble_of_byte, hlen]
  cases hff : test (r sja1000Fi) sja1000FiFf with
  | true =>
      simp only [if_true, Ident.canId, extended_parts _ _ _ _ _ hid4]
      cases test (r sja1000Fi) sja1000FiRtr with
      | true => rfl
      | false => rfl
  | false =>
      simp only [Bool.false_eq_true, if_false, Ident.canId, base_parts _ _ _ hid2]
      cases test (r sja1000Fi) sja1000FiRtr with
      | true => rfl
      | false => rfl

/-! ## What is sent -/

theorem Regs.write_append (r : Regs) (ws vs : List (Nat × Byte)) :
    r.write (ws ++ vs) = (r.write ws).write vs := List.foldl_append

/-- The data are written behind one another. -/
theorem Regs.write_data (r : Regs) (f : Nat → Byte) (dreg n a : Nat) :
    r.write ((List.range n).map fun i => (dreg + i, f i)) a =
      if dreg ≤ a ∧ a < dreg + n then f (a - dreg) else r a := by
  induction n with
  | zero =>
      rw [if_neg (by omega)]
      rfl
  | succ n ih =>
      rw [List.range_succ, List.map_append, Regs.write_append]
      show (if a = dreg + n then f n else _) = _
      by_cases ha : a = dreg + n
      · rw [if_pos ha, if_pos (by omega), ha, Nat.add_sub_cancel_left]
      · rw [if_neg ha, ih]
        by_cases hin : dreg ≤ a ∧ a < dreg + n
        · rw [if_pos hin, if_pos (by omega)]
        · rw [if_neg hin, if_neg (by omega)]

section Written

variable (r : Regs) (head : List (Nat × Byte)) (f : Nat → Byte) {dreg n a : Nat}

theorem Regs.write_before (h : a < dreg) :
    r.write (head ++ (List.range n).map fun i => (dreg + i, f i)) a = r.write head a := by
  rw [Regs.write_append, Regs.write_data, if_neg (by omega)]

theorem Regs.write_from (h : a < n) :
    r.write (head ++ (List.range n).map fun i => (dreg + i, f i)) (dreg + a) = f a := by
  rw [Regs.write_append, Regs.write_data, if_pos (by omega), Nat.add_sub_cancel_left]

end Written

def frameInfo (dlc : Byte) (rtr eff : Bool) : Byte :=
  (if rtr then dlc ||| sja1000FiRtr else dlc) ||| if eff then sja1000FiFf else 0

/-- The length leaves room for the two flags. -/
theorem frameInfo_fields {dlc : Byte} (h : dlc.toNat ≤ canMaxDlen) (rtr eff : Bool) :
    test (frameInfo dlc rtr eff) sja1000FiFf = eff ∧
      test (frameInfo dlc rtr eff) sja1000FiRtr = rtr ∧
      (frameInfo dlc rtr eff).extractLsb' 0 4 = dlc.setWidth 4 := by
  have hall : ∀ n < 9, ∀ rtr eff : Bool,
      test (frameInfo (BitVec.ofNat 8 n) rtr eff) sja1000FiFf = eff ∧
        test (frameInfo (BitVec.ofNat 8 n) rtr eff) sja1000FiRtr = rtr ∧
        (frameInfo (BitVec.ofNat 8 n) rtr eff).extractLsb' 0 4 =
          (BitVec.ofNat 8 n).setWidth 4 := by decide
  have hdlc := hall dlc.toNat (Nat.lt_succ_of_le h) rtr eff
  rwa [BitVec.ofNat_toNat, BitVec.setWidth_eq] at hdlc

/-- The bytes of an extended identifier, one behind the other. -/
theorem extended_written (id : Canid) :
    ((id &&& 0x1FE00000) >>> 21).setWidth 8 ++ ((id &&& 0x001FE000) >>> 13).setWidth 8 ++
        ((id &&& 0x00001FE0) >>> 5).setWidth 8 ++
        (((id &&& 0x0000001F) <<< 3).setWidth 8).extractLsb' 3 5 =
      (id.setWidth 29 : BitVec 29) := by
  apply BitVec.eq_of_getLsbD_eq
  intro i hi
  have hm1 : ∀ i < 32, (0x1FE00000 : Canid).getLsbD i = decide (21 ≤ i ∧ i < 29) := by decide
  have hm2 : ∀ i < 32, (0x001FE000 : Canid).getLsbD i = decide (13 ≤ i ∧ i < 21) := by decide
  have hm3 : ∀ i < 32, (0x00001FE0 : Canid).getLsbD i = decide (5 ≤ i ∧ i < 13) := by decide
  have hm4 : ∀ i < 32, (0x0000001F : Canid).getLsbD i = decide (i < 5) := by decide
  simp only [BitVec.getLsbD_append, BitVec.getLsbD_setWidth, BitVec.getLsbD_ushiftRight,
    BitVec.getLsbD_and, BitVec.getLsbD_extractLsb', BitVec.getLsbD_shiftLeft]
  grind

theorem base_written (id : Canid) :
    ((id &&& 0x000007F8) >>> 3).setWidth 8 ++
        (((id &&& 0x00000007) <<< 5).setWidth 8).extractLsb' 5 3 =
      (id.setWidth 11 : BitVec 11) := by
  apply BitVec.eq_of_getLsbD_eq
  intro i hi
  have hm1 : ∀ i < 32, (0x000007F8 : Canid).getLsbD i = decide (3 ≤ i ∧ i < 11) := by decide
  have hm2 : ∀ i < 32, (0x00000007 : Canid).getLsbD i = decide (i < 3) := by decide
  simp only [BitVec.getLsbD_append, BitVec.getLsbD_setWidth, BitVec.getLsbD_ushiftRight,
    BitVec.getLsbD_and, BitVec.getLsbD_extractLsb', BitVec.getLsbD_shiftLeft]
  grind

/-- The bytes read back from where they were written. -/
theorem data_written {cf : CanFrame} (h : cf.Valid) {r : Regs} {dreg : Nat}
    (hr : ∀ i < cf.canDlc.toNat, r (dreg + i) = cf.data.toList.getD i 0) :
    ((List.range (min cf.canDlc.toNat canMaxDlen)).map fun i => r (dreg + i)) =
      cf.data.toList.take cf.canDlc.toNat := by
  have hlen : cf.data.toList.length = canMaxDlen := Vector.length_toList
  rw [Nat.min_eq_left h]
  apply List.ext_getElem
  · rw [List.length_map, List.length_range, List.length_take, hlen, Nat.min_eq_left h]
  · intro i hi hi'
    rw [List.length_map, List.length_range] at hi
    rw [List.length_take, hlen] at hi'
    rw [List.getElem_map, List.getElem_range, List.getElem_take, hr i hi,
      List.getD_eq_getElem?_getD, List.getElem?_eq_getElem (by omega), Option.getD_some]

/-- What is written before the data. -/
def xmitHead (cf : CanFrame) : List (Nat × Byte) :=
  (sja1000Fi, frameInfo cf.canDlc cf.isRtr cf.isEff) ::
    if cf.isEff then
      [(sja1000Id1, ((cf.canId &&& 0x1FE00000) >>> 21).setWidth 8),
        (sja1000Id2, ((cf.canId &&& 0x001FE000) >>> 13).setWidth 8),
        (sja1000Id3, ((cf.canId &&& 0x00001FE0) >>> 5).setWidth 8),
        (sja1000Id4, ((cf.canId &&& 0x0000001F) <<< 3).setWidth 8)]
    else
      [(sja1000Id1, ((cf.canId &&& 0x000007F8) >>> 3).setWidth 8),
        (sja1000Id2, ((cf.canId &&& 0x00000007) <<< 5).setWidth 8)]

theorem xmitWrites_eq (cf : CanFrame) :
    xmitWrites cf = xmitHead cf ++ (List.range cf.canDlc.toNat).map fun i =>
      ((if cf.isEff then sja1000EffBuf else sja1000SffBuf) + i, cf.data.toList.getD i 0) := by
  have hzero : ∀ x : Byte, x ||| 0 = x := fun _ => BitVec.or_zero
  simp only [xmitWrites, xmitHead, frameInfo, CanFrame.isRtr, CanFrame.isEff]
  by_cases h : test cf.canId canEffFlag = true
  · simp only [h, if_true]
    rfl
  · simp only [h, if_false, hzero, Bool.false_eq_true]
    rfl

/-- What `sja1000_start_xmit` leaves in the buffer is the frame. -/
theorem xmitWrites_bus (r : Regs) {cf : CanFrame} (h : cf.Valid) :
    (r.write (xmitWrites cf)).bus = cf.bus := by
  obtain ⟨hff, hrtr, hdlc⟩ := frameInfo_fields h cf.isRtr cf.isEff
  have hlen : ((cf.canDlc).setWidth 4).toNat = cf.canDlc.toNat := by
    rw [BitVec.toNat_setWidth, Nat.mod_eq_of_lt (Nat.lt_of_le_of_lt h (by decide))]
  set w := r.write (xmitWrites cf) with hw
  have hhead : ∀ a, a < (if cf.isEff then sja1000EffBuf else sja1000SffBuf) →
      w a = r.write (xmitHead cf) a := by
    intro a ha
    rw [hw, xmitWrites_eq]
    exact Regs.write_before _ _ _ ha
  have hdata : ∀ i < cf.canDlc.toNat,
      w ((if cf.isEff then sja1000EffBuf else sja1000SffBuf) + i) = cf.data.toList.getD i 0 := by
    intro i hi
    rw [hw, xmitWrites_eq]
    exact Regs.write_from _ _ (fun i => cf.data.toList.getD i 0) hi
  have hfi : w sja1000Fi = frameInfo cf.canDlc cf.isRtr cf.isEff := by
    rw [hhead sja1000Fi (by split <;> decide), xmitHead]
    cases cf.isEff with
    | true => rfl
    | false => rfl
  have hext : w.extended = cf.isEff := by rw [Regs.extended, hfi, hff]
  unfold Regs.bus CanFrame.bus
  rw [hext, hfi, hrtr, hdlc, hlen, data_written h hdata]
  congr 1
  cases heff : cf.isEff with
  | true =>
      simp only [heff, if_true] at hhead
      simp only [if_true, hhead sja1000Id1 (by decide), hhead sja1000Id2 (by decide),
        hhead sja1000Id3 (by decide), hhead sja1000Id4 (by decide), xmitHead, heff]
      exact congrArg Ident.extended (extended_written cf.canId)
  | false =>
      simp only [heff, Bool.false_eq_true, if_false] at hhead
      simp only [Bool.false_eq_true, if_false, hhead sja1000Id1 (by decide),
        hhead sja1000Id2 (by decide), xmitHead, heff]
      exact congrArg Ident.base (base_written cf.canId)

/-! ## From buffer to buffer -/

theorem flag_bits (id : Canid) :
    test id canEffFlag = id.getLsbD 31 ∧ test id canRtrFlag = id.getLsbD 30 :=
  ⟨test_bit (n := 31) id (by decide), test_bit (n := 30) id (by decide)⟩

/-- The identifier is received as wide as the format has it, with the two flags. -/
theorem canId_received (cf : CanFrame) : cf.bus.frame.canId = cf.canonical.canId := by
  obtain ⟨heff, hrtr⟩ := flag_bits cf.canId
  have hr : ∀ i < 32, canRtrFlag.getLsbD i = decide (i = 30) := by decide
  have he : ∀ i < 32, canEffFlag.getLsbD i = decide (i = 31) := by decide
  have hem : ∀ i < 32, canEffMask.getLsbD i = decide (i < 29) := by decide
  have hsm : ∀ i < 32, canSffMask.getLsbD i = decide (i < 11) := by decide
  have hor : ∀ (x : Canid) (i : Nat), (if cf.isRtr then x ||| canRtrFlag else x).getLsbD i =
      (x.getLsbD i || (cf.canId.getLsbD 30 && canRtrFlag.getLsbD i)) := by
    intro x i
    rw [← hrtr]
    show (if test cf.canId canRtrFlag then _ else _ : Canid).getLsbD i = _
    cases test cf.canId canRtrFlag with
    | true => exact BitVec.getLsbD_or
    | false => exact (Bool.or_false _).symm
  apply BitVec.eq_of_getLsbD_eq
  intro i hi
  show (if cf.isRtr then _ ||| canRtrFlag else _ : Canid).getLsbD i = _
  rw [hor]
  unfold CanFrame.bus CanFrame.canonical CanFrame.isEff
  rw [heff]
  cases hbit : cf.canId.getLsbD 31 with
  | true =>
      simp only [if_true, Ident.canId, BitVec.getLsbD_or, BitVec.getLsbD_and,
        BitVec.getLsbD_setWidth, hr i hi, he i hi, hem i hi]
      grind
  | false =>
      simp only [Bool.false_eq_true, if_false, Ident.canId, BitVec.getLsbD_or, BitVec.getLsbD_and,
        BitVec.getLsbD_setWidth, hr i hi, he i hi, hsm i hi]
      grind

/-- A valid frame is received as what it is. -/
theorem bus_frame_canonical {cf : CanFrame} (h : cf.Valid) : cf.bus.frame = cf.canonical := by
  have hdlc : getCanDlc ((cf.canDlc.setWidth 4).setWidth 8) = cf.canDlc := by
    have hsame : (cf.canDlc.setWidth 4).setWidth 8 = cf.canDlc := by
      apply BitVec.eq_of_toNat_eq
      rw [BitVec.toNat_setWidth, BitVec.toNat_setWidth,
        Nat.mod_eq_of_lt (Nat.lt_of_le_of_lt h (by decide)),
        Nat.mod_eq_of_lt (Nat.lt_of_le_of_lt h (by decide))]
    rw [hsame]
    exact if_pos h
  show (⟨cf.bus.frame.canId, getCanDlc ((cf.canDlc.setWidth 4).setWidth 8),
    cf.canonical.data⟩ : CanFrame) = _
  rw [canId_received, hdlc]
  rfl

/-- From a buffer to a buffer: whatever was in the first before, and in the bits of the
second that are no part of the frame, a valid frame that is sent is received. -/
theorem rxFrame_of_xmitWrites (r q : Regs) (cf : CanFrame) (h : cf.Valid)
    (hbus : q.bus = (r.write (xmitWrites cf)).bus) : rxFrame q = cf.canonical := by
  rw [rxFrame_eq, hbus, xmitWrites_bus r h, bus_frame_canonical h]

/-- Three bytes with an extended identifier. -/
def extendedFrame : CanFrame := ⟨0x9ABCDEF0, 3, #v[0x11, 0x22, 0x33, 0, 0, 0, 0, 0]⟩

theorem rxFrame_of_xmitWrites_extended :
    rxFrame (fun a => Regs.write (fun _ => 0) (xmitWrites extendedFrame) a |||
      if a = sja1000Fi then 0x30 else 0) = extendedFrame.canonical :=
  rxFrame_of_xmitWrites (fun _ => 0) _ extendedFrame (by decide) (by decide)

end MoxaDrivers.Can

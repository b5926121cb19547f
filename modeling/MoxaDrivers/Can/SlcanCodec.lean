import MoxaDrivers.Can.Slcan
import Mathlib.Data.List.TakeWhile
import Mathlib.Tactic.Common

/-!
# A line that is written is read back

The hexadecimal digits first, then the identifier, the data bytes, and `slc_bump` on
a line that `slc_encaps` has written. `Holds` and `Reads` say what is in `rbuff`.
-/

namespace MoxaDrivers.Can

open MoxaDrivers.Bits MoxaDrivers.Machine MoxaDrivers.Codewords

/-! ## Digits -/

theorem hexToBin_hexAscUpper {d : Nat} (h : d < 16) :
    hexToBin (hexAscUpper d) = some (BitVec.ofNat 8 d) := by
  have hall : ∀ d < 16, hexToBin (hexAscUpper d) = some (BitVec.ofNat 8 d) := by decide
  exact hall d h

/-- What no digit is. -/
theorem hexAscUpper_ne {d : Nat} (h : d < 16) :
    hexAscUpper d ≠ chr '+' ∧ hexAscUpper d ||| 0x20 ≠ chr 'x' ∧ hexAscUpper d ≠ 0 ∧
      isPduEnd (hexAscUpper d) = false := by
  have hall : ∀ d < 16, hexAscUpper d ≠ chr '+' ∧ hexAscUpper d ||| 0x20 ≠ chr 'x' ∧
      hexAscUpper d ≠ 0 ∧ isPduEnd (hexAscUpper d) = false := by decide
  exact hall d h

/-- The digits that the loop writes, the first one first. -/
def nibbles : Nat → Canid → List Nat
  | 0, _ => []
  | n + 1, id => nibbles n (id >>> 4) ++ [(id &&& 0xF).toNat]

theorem idDigits_eq (n : Nat) (id : Canid) : idDigits n id = (nibbles n id).map hexAscUpper := by
  induction n generalizing id with
  | zero => rfl
  | succ n ih => rw [idDigits, ih, nibbles, List.map_append, List.map_singleton]

theorem length_nibbles (n : Nat) (id : Canid) : (nibbles n id).length = n := by
  induction n generalizing id with
  | zero => rfl
  | succ n ih => rw [nibbles, List.length_append, ih, List.length_singleton]

theorem low_nibble (id : Canid) : (id &&& 0xF).toNat = id.toNat % 16 := by
  rw [BitVec.toNat_and]
  exact Nat.and_two_pow_sub_one_eq_mod id.toNat 4

theorem nibbles_lt {n : Nat} {id : Canid} {d : Nat} (h : d ∈ nibbles n id) : d < 16 := by
  induction n generalizing id with
  | zero => cases h
  | succ n ih =>
      rw [nibbles, List.mem_append, List.mem_singleton] at h
      rcases h with h | h
      · exact ih h
      · rw [h, low_nibble]
        exact Nat.mod_lt _ (by decide)

/-- The value of digits, the first one first. -/
def natOf (ds : List Nat) : Nat := ds.foldl (fun n d => n * 16 + d) 0

theorem natOf_nibbles (n : Nat) (id : Canid) : natOf (nibbles n id) = id.toNat % 16 ^ n := by
  induction n generalizing id with
  | zero => rw [Nat.pow_zero, Nat.mod_one]; rfl
  | succ n ih =>
      have hshift : (id >>> 4).toNat = id.toNat / 16 := by
        rw [BitVec.toNat_ushiftRight, Nat.shiftRight_eq_div_pow]
      have hlast : natOf (nibbles (n + 1) id) = natOf (nibbles n (id >>> 4)) * 16 + id.toNat % 16 := by
        rw [natOf, nibbles, List.foldl_append, low_nibble]
        rfl
      rw [hlast, ih, hshift, Nat.pow_succ', Nat.mod_mul]
      omega

theorem hexValue_map {ds : List Nat} (h : ∀ d ∈ ds, d < 16) :
    hexValue (ds.map hexAscUpper) = natOf ds := by
  rw [hexValue, natOf, List.foldl_map]
  refine List.foldl_ext _ _ _ fun n d hd => ?_
  rw [hexToBin_hexAscUpper (h d hd)]
  show n * 16 + (BitVec.ofNat 8 d).toNat = n * 16 + d
  rw [BitVec.toNat_ofNat, Nat.mod_eq_of_lt (Nat.lt_of_lt_of_le (h d hd) (by decide))]

/-- A number in digits and nothing else is read. -/
theorem kstrtou32_map {ds : List Nat} (h : ∀ d ∈ ds, d < 16) (hne : ds ≠ [])
    (hlt : natOf ds < 2 ^ 32) :
    kstrtou32 (ds.map hexAscUpper) = some (BitVec.ofNat 32 (natOf ds)) := by
  have hplus : (ds.map hexAscUpper).head? ≠ some (chr '+') := by
    intro hhead
    rw [List.head?_map, Option.map_eq_some_iff] at hhead
    obtain ⟨d, hd, heq⟩ := hhead
    exact (hexAscUpper_ne (h d (List.mem_of_head? hd))).1 heq
  have hradix : (ds.map hexAscUpper)[1]?.map (· ||| 0x20) ≠ some (chr 'x') := by
    intro hsecond
    rw [List.getElem?_map, Option.map_map, Option.map_eq_some_iff] at hsecond
    obtain ⟨d, hd, heq⟩ := hsecond
    exact (hexAscUpper_ne (h d (List.mem_of_getElem? hd))).2.1 heq
  have hdigit : ∀ ch ∈ ds.map hexAscUpper, (hexToBin ch).isSome = true := by
    intro ch hch
    obtain ⟨d, hd, rfl⟩ := List.mem_map.mp hch
    rw [hexToBin_hexAscUpper (h d hd)]
    rfl
  have htake : (ds.map hexAscUpper).takeWhile (fun ch => (hexToBin ch).isSome) =
      ds.map hexAscUpper := List.takeWhile_eq_self_iff.mpr hdigit
  have hdrop : (ds.map hexAscUpper).dropWhile (fun ch => (hexToBin ch).isSome) = [] :=
    List.dropWhile_eq_nil_iff.mpr hdigit
  have hnil : ds.map hexAscUpper ≠ [] := by simpa using hne
  simp only [kstrtou32, hplus, if_false, hradix, and_false, htake, hdrop, hnil,
    hexValue_map h, ne_eq, not_true_eq_false, false_and, or_false, Nat.not_le.mpr hlt]

/-- The identifier that is written is read. -/
theorem kstrtou32_idDigits {n : Nat} {id : Canid} (hn : 0 < n) (h : id.toNat < 16 ^ n) :
    kstrtou32 (idDigits n id) = some id := by
  have hval : natOf (nibbles n id) = id.toNat := by
    rw [natOf_nibbles, Nat.mod_eq_of_lt h]
  rw [idDigits_eq, kstrtou32_map (fun d hd => nibbles_lt hd), hval, BitVec.ofNat_toNat]
  · rw [BitVec.setWidth_eq]
  · intro hnil
    have hlen := length_nibbles n id
    rw [hnil, List.length_nil] at hlen
    omega
  · rw [hval]
    exact id.isLt

theorem nibble_halves (b : Byte) :
    (BitVec.ofNat 8 (b >>> 4).toNat) <<< 4 ||| BitVec.ofNat 8 (b &&& 0x0F).toNat = b := by
  rw [BitVec.ofNat_toNat, BitVec.ofNat_toNat, BitVec.setWidth_eq, BitVec.setWidth_eq]
  ext i hi
  simp only [BitVec.getElem_or, BitVec.getElem_shiftLeft, BitVec.getElem_and]
  have hcases : i = 0 ∨ i = 1 ∨ i = 2 ∨ i = 3 ∨ i = 4 ∨ i = 5 ∨ i = 6 ∨ i = 7 := by omega
  rcases hcases with rfl | rfl | rfl | rfl | rfl | rfl | rfl | rfl <;>
    simp [BitVec.getLsbD_eq_getElem]

theorem high_nibble_lt (b : Byte) : (b >>> 4).toNat < 16 := by
  rw [BitVec.toNat_ushiftRight, Nat.shiftRight_eq_div_pow]
  have hlt := b.isLt
  omega

theorem low_nibble_lt (b : Byte) : (b &&& 0x0F).toNat < 16 := by
  rw [BitVec.toNat_and]
  exact Nat.lt_of_le_of_lt Nat.and_le_right (by decide)

theorem hexBytePackUpper_read (b : Byte) :
    hexToBin (hexAscUpper (b >>> 4).toNat) = some (BitVec.ofNat 8 (b >>> 4).toNat) ∧
      hexToBin (hexAscUpper (b &&& 0x0F).toNat) = some (BitVec.ofNat 8 (b &&& 0x0F).toNat) :=
  ⟨hexToBin_hexAscUpper (high_nibble_lt b), hexToBin_hexAscUpper (low_nibble_lt b)⟩

/-! ## What is in `rbuff` -/

/-- `xs` is in `rbuff` from `i` on. -/
def Slcan.Reads (sl : Slcan) (i : Nat) (xs : List Byte) : Prop := xs <+: sl.rbuff.toList.drop i

section Reads

variable {sl : Slcan} {i : Nat} {xs ys : List Byte} {b : Byte}

theorem Slcan.Reads.append (h : sl.Reads i (xs ++ ys)) : sl.Reads (i + xs.length) ys := by
  obtain ⟨rest, hrest⟩ := h
  refine ⟨rest, ?_⟩
  rw [← List.drop_drop, ← hrest, List.append_assoc, List.drop_left]

theorem Slcan.Reads.read (h : sl.Reads i (b :: xs)) : sl.read i = .ok b := by
  obtain ⟨rest, hrest⟩ := h
  have hget : sl.rbuff[i]? = some b := by
    rw [← Vector.getElem?_toList, ← List.head?_drop, ← hrest]
    rfl
  rw [Slcan.read, hget]

theorem Slcan.Reads.tail (h : sl.Reads i (b :: xs)) : sl.Reads (i + 1) xs := by
  rw [← List.singleton_append] at h
  exact h.append

theorem Slcan.Reads.readByte (h : sl.Reads i (hexBytePackUpper b ++ xs)) :
    sl.readByte i = .ok (some b) := by
  obtain ⟨hhigh, hlow⟩ := hexBytePackUpper_read b
  have hpair : sl.Reads i (hexAscUpper (b >>> 4).toNat :: hexAscUpper (b &&& 0x0F).toNat :: xs) := h
  have hfirst : sl.read i = .ok (hexAscUpper (b >>> 4).toNat) := hpair.read
  have hsecond : sl.read (i + 1) = .ok (hexAscUpper (b &&& 0x0F).toNat) := hpair.tail.read
  simp only [Slcan.readByte, hfirst, hsecond, hhigh, hlow, bind, Except.bind, pure, Except.pure,
    nibble_halves]

theorem Slcan.Reads.readData {bytes : List Byte} :
    ∀ {i : Nat}, sl.Reads i (bytes.flatMap hexBytePackUpper) →
      sl.readData bytes.length i = .ok (some bytes) := by
  induction bytes with
  | nil => exact fun _ => rfl
  | cons b bytes ih =>
      intro i h
      rw [List.flatMap_cons] at h
      have hrest : sl.readData bytes.length (i + 2) = .ok (some bytes) := ih h.append
      simp only [List.length_cons, Slcan.readData, h.readByte, hrest, bind, Except.bind, pure,
        Except.pure, Option.map_some]

theorem Slcan.Reads.write (h : sl.Reads 0 (xs ++ b :: ys)) (c : Byte) :
    ∃ t, sl.write xs.length c = .ok t ∧ t.Reads 0 (xs ++ c :: ys) ∧
      t = { sl with rbuff := t.rbuff } := by
  obtain ⟨rest, hrest⟩ := h
  rw [List.drop_zero] at hrest
  have hlen := congrArg List.length hrest
  rw [Vector.length_toList, List.length_append, List.length_append, List.length_cons] at hlen
  have hlt : xs.length < slcMtu := by omega
  refine ⟨_, dif_pos hlt, ⟨rest, ?_⟩, rfl⟩
  rw [List.drop_zero, Vector.toList_set, ← hrest, List.append_assoc, List.append_assoc,
    List.set_append_right _ _ (Nat.le_refl _), Nat.sub_self]
  rfl

/-- A string without a 0 that is ended by one. -/
theorem Slcan.Reads.cstr (h : sl.Reads i (xs ++ 0 :: ys)) (hxs : ∀ ch ∈ xs, ch ≠ 0) :
    sl.cstr i = xs := by
  obtain ⟨rest, hrest⟩ := h
  rw [Slcan.cstr, ← hrest, List.append_assoc, List.takeWhile_append_of_pos (by simpa using hxs)]
  simp

end Reads

/-! ## The line of a frame -/

namespace CanFrame

def typeChar (cf : CanFrame) : Byte :=
  let type := if cf.isRtr then chr 'R' else chr 'T'
  if cf.isEff then type else type ||| 0x20

def idLen (cf : CanFrame) : Nat := if cf.isEff then slcEffIdLen else slcSffIdLen

def idMask (cf : CanFrame) : Canid := if cf.isEff then canEffMask else canSffMask

/-- The data that goes into the line. -/
def sentBytes (cf : CanFrame) : List Byte :=
  if cf.isRtr then [] else cf.data.toList.take cf.canDlc.toNat

/-- The line without its end. -/
def line (cf : CanFrame) : List Byte :=
  (cf.typeChar :: idDigits cf.idLen (cf.canId &&& cf.idMask)) ++
    (cf.canDlc + chr '0') :: cf.sentBytes.flatMap hexBytePackUpper

end CanFrame

variable {cf : CanFrame}

theorem command_typeChar (cf : CanFrame) :
    command cf.typeChar = some (cf.canId &&& (canRtrFlag ||| canEffFlag), cf.idLen) := by
  have hrtr : cf.canId &&& canRtrFlag = if cf.isRtr then canRtrFlag else 0 :=
    IsBit.and_eq ⟨30, by decide⟩ _
  have heff : cf.canId &&& canEffFlag = if cf.isEff then canEffFlag else 0 :=
    IsBit.and_eq ⟨31, by decide⟩ _
  rw [BitVec.and_or_distrib_left, hrtr, heff, CanFrame.typeChar, CanFrame.idLen]
  cases cf.isRtr <;> cases cf.isEff <;> decide

theorem length_hexPairs (bytes : List Byte) :
    (bytes.flatMap hexBytePackUpper).length = 2 * bytes.length := by
  induction bytes with
  | nil => rfl
  | cons b bytes ih =>
      rw [List.flatMap_cons, List.length_append, ih, List.length_cons]
      show 2 + _ = _
      omega

theorem length_idDigits (n : Nat) (id : Canid) : (idDigits n id).length = n := by
  rw [idDigits_eq, List.length_map, length_nibbles]

theorem length_sentBytes_le (cf : CanFrame) : cf.sentBytes.length ≤ 8 := by
  rw [CanFrame.sentBytes]
  split
  · exact Nat.zero_le 8
  · rw [List.length_take]
    exact Nat.le_trans (Nat.min_le_right _ _) (Nat.le_of_eq cf.data.length_toList)

theorem length_line (cf : CanFrame) : 5 ≤ cf.line.length ∧ cf.line.length ≤ 26 := by
  have hbytes := length_sentBytes_le cf
  have hid : cf.idLen = 8 ∨ cf.idLen = 3 := by
    rw [CanFrame.idLen]
    split
    · exact .inl rfl
    · exact .inr rfl
  rw [CanFrame.line, List.length_append, List.length_cons, List.length_cons, length_idDigits,
    length_hexPairs]
  omega

/-- Nothing in a line ends it. -/
theorem isPduEnd_line (h : cf.Valid) {ch : Byte} (hch : ch ∈ cf.line) : isPduEnd ch = false := by
  have hdigit {d : Nat} (hd : d < 16) : isPduEnd (hexAscUpper d) = false :=
    (hexAscUpper_ne hd).2.2.2
  rw [CanFrame.line, List.cons_append, List.mem_cons, List.mem_append, List.mem_cons] at hch
  rcases hch with rfl | hid | rfl | hdata
  · rw [CanFrame.typeChar]
    cases cf.isRtr <;> cases cf.isEff <;> decide
  · rw [idDigits_eq] at hid
    obtain ⟨d, hd, rfl⟩ := List.mem_map.mp hid
    exact hdigit (nibbles_lt hd)
  · have hall : ∀ n ≤ 8, isPduEnd (BitVec.ofNat 8 n + chr '0') = false := by decide
    have hdlc := hall cf.canDlc.toNat h
    rwa [BitVec.ofNat_toNat, BitVec.setWidth_eq] at hdlc
  · obtain ⟨b, -, hb⟩ := List.mem_flatMap.mp hdata
    rw [hexBytePackUpper, List.mem_cons, List.mem_singleton] at hb
    rcases hb with rfl | rfl
    · exact hdigit (high_nibble_lt b)
    · exact hdigit (low_nibble_lt b)

theorem mapM_readData {n : Nat} (h : n ≤ canMaxDlen) :
    (List.range n).mapM cf.readData = .ok (cf.data.toList.take n) := by
  induction n with
  | zero => rfl
  | succ n ih =>
      have hlast : cf.readData n = .ok cf.data[n] := by
        rw [CanFrame.readData, Vector.getElem?_eq_getElem h]
      have hlen : n < cf.data.toList.length := by
        rw [Vector.length_toList]
        exact h
      rw [List.range_succ, List.mapM_append, ih (Nat.le_of_succ_le h), List.mapM_cons, hlast,
        List.take_succ_eq_append_getElem hlen, Vector.getElem_toList]
      rfl

/-- **What the sender writes.** -/
theorem slcEncaps_eq (h : cf.Valid) : slcEncaps cf = .ok (cf.line ++ [chr '\r']) := by
  have hdata : cf.readPayload = .ok cf.sentBytes := by
    rw [CanFrame.readPayload, CanFrame.sentBytes]
    split
    · rfl
    · exact mapM_readData h
  have hhead : cf.head = cf.typeChar :: idDigits cf.idLen (cf.canId &&& cf.idMask) := by
    rw [CanFrame.head, CanFrame.typeChar, CanFrame.idLen, CanFrame.idMask]
    split
    · rfl
    · rfl
  have hlen : (cf.line ++ [chr '\r']).length ≤ slcMtu := by
    have hlen := (length_line cf).2
    rw [List.length_append, List.length_singleton, slcMtu]
    omega
  rw [slcEncaps, hdata, hhead]
  exact if_pos hlen

/-! ## Reading it -/

/-- The identifier is read with its flags. -/
theorem canonical_canId (cf : CanFrame) :
    cf.canId &&& (canRtrFlag ||| canEffFlag) ||| cf.canId &&& cf.idMask = cf.canonical.canId := by
  rw [← BitVec.and_or_distrib_left]
  rfl

theorem canonical_isRtr (cf : CanFrame) : cf.canonical.isRtr = cf.isRtr := by
  refine test_and_of_cover ?_
  cases cf.isEff <;> decide

theorem ident_lt (cf : CanFrame) : (cf.canId &&& cf.idMask).toNat < 16 ^ cf.idLen := by
  rw [BitVec.toNat_and, CanFrame.idMask, CanFrame.idLen]
  cases cf.isEff with
  | true => exact Nat.lt_of_le_of_lt Nat.and_le_right (by decide)
  | false => exact Nat.lt_of_le_of_lt Nat.and_le_right (by decide)

theorem idLen_pos (cf : CanFrame) : 0 < cf.idLen := by
  rw [CanFrame.idLen]
  split
  · decide
  · decide

theorem dlc_read (h : cf.Valid) :
    (chr '0' ≤ cf.canDlc + chr '0' ∧ cf.canDlc + chr '0' < chr '9') ∧
      cf.canDlc + chr '0' - chr '0' = cf.canDlc := by
  have hall : ∀ n ≤ 8, (chr '0' ≤ BitVec.ofNat 8 n + chr '0' ∧
      BitVec.ofNat 8 n + chr '0' < chr '9') ∧
        BitVec.ofNat 8 n + chr '0' - chr '0' = BitVec.ofNat 8 n := by decide
  have hdlc := hall cf.canDlc.toNat h
  rwa [BitVec.ofNat_toNat, BitVec.setWidth_eq] at hdlc

theorem length_sentBytes (h : cf.Valid) (hrtr : cf.isRtr = false) :
    cf.sentBytes.length = cf.canDlc.toNat := by
  rw [CanFrame.sentBytes, hrtr]
  simpa using Nat.min_eq_left h

/-- The data is read from behind the length. -/
theorem readPayload_sentBytes {sl : Slcan} {i : Nat} (h : cf.Valid)
    (hreads : sl.Reads i (cf.sentBytes.flatMap hexBytePackUpper)) :
    sl.readPayload cf.canonical.canId cf.canDlc.toNat i = .ok (some cf.sentBytes) := by
  have hrtr : test cf.canonical.canId canRtrFlag = cf.isRtr := canonical_isRtr cf
  rw [Slcan.readPayload, hrtr]
  cases hcase : cf.isRtr with
  | true =>
      rw [CanFrame.sentBytes, hcase]
      rfl
  | false =>
      rw [← length_sentBytes h hcase]
      exact hreads.readData

/-- **A line that was written** gives its frame. -/
theorem slcBump_line {sl : Slcan} (h : cf.Valid) (hreads : sl.Reads 0 cf.line) (skb : Bool) :
    ∃ t, slcBump sl skb = .ok t ∧
      t = { (if skb then sl.netifRx cf.canonical else sl) with rbuff := t.rbuff } := by
  have hlen : (cf.typeChar :: idDigits cf.idLen (cf.canId &&& cf.idMask)).length =
      slcCmdLen + cf.idLen := by
    rw [List.length_cons, length_idDigits, Nat.add_comm]
    rfl
  have htype : sl.read 0 = .ok cf.typeChar := hreads.read
  have hdlc := hreads.append.read
  rw [Nat.zero_add, hlen] at hdlc
  -- the byte behind the identifier is overwritten, and ends it
  obtain ⟨t, hwrite, hreads', ht⟩ := hreads.write 0
  rw [hlen] at hwrite
  have hident : kstrtou32 (t.cstr slcCmdLen) = some (cf.canId &&& cf.idMask) := by
    have hcstr : t.cstr slcCmdLen = idDigits cf.idLen (cf.canId &&& cf.idMask) := by
      refine hreads'.tail.cstr fun ch hch => ?_
      rw [idDigits_eq] at hch
      obtain ⟨d, hd, rfl⟩ := List.mem_map.mp hch
      exact (hexAscUpper_ne (nibbles_lt hd)).2.2.1
    rw [hcstr, kstrtou32_idDigits (idLen_pos cf) (ident_lt cf)]
  have hpayload : t.readPayload cf.canonical.canId cf.canDlc.toNat (slcCmdLen + cf.idLen + 1) =
      .ok (some cf.sentBytes) := by
    have hdata := hreads'.append.tail
    rw [Nat.zero_add, hlen] at hdata
    exact readPayload_sentBytes h hdata
  obtain ⟨hrange, hsub⟩ := dlc_read h
  have hbump : slcBump sl skb =
      .ok (if skb then t.netifRx ⟨cf.canonical.canId, cf.canDlc, payload cf.sentBytes⟩ else t) := by
    simp only [slcBump, htype, command_typeChar, hdlc, hwrite, bind, Except.bind, Slcan.bumpFrame,
      hident, if_pos hrange, canonical_canId, hsub, hpayload, pure, Except.pure]
  refine ⟨_, hbump, ?_⟩
  rw [ht]
  cases skb with
  | true => rfl
  | false => rfl

end MoxaDrivers.Can

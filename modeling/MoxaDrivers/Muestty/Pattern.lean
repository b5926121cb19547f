import Mathlib.Data.List.Basic
import Mathlib.Tactic.Common
import Mathlib.Tactic.Ring

/-!
# The pattern editor of the terminal

The pattern is in a field of 40 characters, as hexadecimal values or as
characters; Ctrl-D reads the field in one mode and writes it in the other.

An `int` that overflows in `get_hex_data` wraps around here, and a `char` has a
sign.
-/

namespace MoxaDrivers.Muestty

/-- `MaxPtnSize`. -/
def maxPtnSize : Nat := 40

def blank : BitVec 8 := 0x20
def comma : BitVec 8 := 0x2C

/-- `ptn_string`, with the NUL behind the field. -/
structure PtnString where
  cells : List (BitVec 8)
  size : cells.length = maxPtnSize + 1

def PtnString.field (f : PtnString) : List (BitVec 8) := f.cells.take 40

/-- Which array a write goes beyond. -/
inductive Overrun where
  | temp
  | ptnString
  deriving DecidableEq, Repr

/-! ## The code -/

def hexDigit (ch : BitVec 8) : Option Nat :=
  if 0x30 ≤ ch.toNat ∧ ch.toNat ≤ 0x39 then some (ch.toNat - 0x30)
  else if 0x61 ≤ ch.toNat ∧ ch.toNat ≤ 0x66 then some (ch.toNat - 0x61 + 10)
  else if 0x41 ≤ ch.toNat ∧ ch.toNat ≤ 0x46 then some (ch.toNat - 0x41 + 10)
  else none

/-- `val` and `upattern` after one more character. -/
def getHexStep (s : BitVec 32 × List (BitVec 8)) (ch : BitVec 8) :
    Option (BitVec 32 × List (BitVec 8)) :=
  let (val, upattern) := s
  if ch = blank then some s
  else
    match hexDigit ch with
    | some d => some (val * 16 + BitVec.ofNat 32 d, upattern)
    | none =>
        if ch = comma then
          if val.toInt ≥ 256 then none else some (0, upattern ++ [val.setWidth 8])
        else none

/-- `upattern` when all characters are read. -/
def lastValue (s : BitVec 32 × List (BitVec 8)) : List (BitVec 8) :=
  if s.1 ≠ 0 then s.2 ++ [s.1.setWidth 8] else s.2

def getHexData (f : PtnString) : Option (List (BitVec 8)) :=
  (f.field.foldlM getHexStep (0, [])).map lastValue

def getAsciiData (f : PtnString) : List (BitVec 8) :=
  (f.cells.take 10).filter fun ch => decide (ch ≠ blank)

def hexChar (d : Nat) : BitVec 8 :=
  if d < 10 then BitVec.ofNat 8 (0x30 + d) else BitVec.ofNat 8 (0x57 + d)

/-- `sprintf(temp, "%02x", b)`: the `int` that a negative `char` is has six digits more. -/
def sprintf02x (b : BitVec 8) : Except Overrun (List (BitVec 8)) :=
  let text := (if b.msb then List.replicate 6 (hexChar 15) else []) ++
    [hexChar (b.toNat / 16), hexChar (b.toNat % 16)]
  if text.length + 1 ≤ 5 then .ok text else .error .temp

/-- What is put into the field in `HEXMODE`. -/
def hexChars : Nat → List (BitVec 8) → Except Overrun (List (BitVec 8))
  | _, [] => .ok []
  | j, b :: upattern => do
      let temp ← sprintf02x b
      if j + 2 ≥ 38 ∨ upattern = [] then return temp
      let rest ← hexChars (j + 2) upattern
      return temp ++ comma :: rest

/-- What is put into the field in `ASCIIMODE`. -/
def asciiChars : Nat → List (BitVec 8) → List (BitVec 8)
  | _, [] => []
  | j, b :: upattern => if j + 1 ≥ 40 then [b] else b :: asciiChars (j + 1) upattern

/-- The blank field with some characters put into it. -/
def PtnString.put (f : PtnString) (chars : List (BitVec 8)) : Except Overrun PtnString :=
  let cells := List.replicate maxPtnSize blank ++ f.cells.drop maxPtnSize
  if h : chars.length ≤ maxPtnSize + 1 then
    .ok ⟨chars ++ cells.drop chars.length, by
      have hsize := f.size
      simp only [cells, List.length_append, List.length_drop, List.length_replicate]
      omega⟩
  else .error .ptnString

inductive InputMode where
  | hex
  | ascii
  deriving DecidableEq, Repr

/-- The mode is the one that is switched to. -/
def changeDataMode (mode : InputMode) (upattern : List (BitVec 8)) (f : PtnString) :
    Except Overrun PtnString :=
  match mode with
  | .hex => do f.put (← hexChars 0 upattern)
  | .ascii => f.put (asciiChars 0 upattern)

/-- The pattern after a switch to characters and back. -/
def switchTwice (upattern : List (BitVec 8)) (f : PtnString) :
    Except Overrun (Option (List (BitVec 8))) := do
  let f ← changeDataMode .ascii upattern f
  let f ← changeDataMode .hex (getAsciiData f) f
  return getHexData f

/-! ## What a field lists -/

/-- What the field has apart from blanks. -/
def PtnString.text (f : PtnString) : List (BitVec 8) := f.field.filter fun ch => decide (ch ≠ blank)

def PtnString.items (f : PtnString) : List (List (BitVec 8)) := f.text.splitOn comma

/-- The value of some digits behind those that make `n`. -/
def natFrom (n : Nat) (item : List (BitVec 8)) : Option Nat :=
  item.foldlM (fun n ch => (hexDigit ch).map fun d => n * 16 + d) n

/-- The value of an item, if it is hexadecimal and below 256. -/
def byteOf (item : List (BitVec 8)) : Option (BitVec 8) :=
  if item = [] then none
  else (natFrom 0 item).bind fun n => if n < 256 then some (BitVec.ofNat 8 n) else none

/-- The values that are listed. A blank field has none. -/
def PtnString.listed (f : PtnString) : Option (List (BitVec 8)) :=
  if f.text = [] then some [] else f.items.mapM byteOf

/-- The field is read as what it lists, and the pattern is the same after a switch
to characters and back if its values fit the field. -/
structure KeepsPattern (f : PtnString) : Prop where
  reads : getHexData f = f.listed
  keeps : ∀ upattern, getHexData f = some upattern → 3 * upattern.length ≤ maxPtnSize + 1 →
    switchTwice upattern f = .ok (some upattern)

/-- An item is not hexadecimal, or one before a comma is 256 or more as an `int`. -/
def Refused (items : List (List (BitVec 8))) : Prop :=
  (∃ item ∈ items, natFrom 0 item = none) ∨
    ∃ item ∈ items.dropLast, ∃ n, natFrom 0 item = some n ∧ (BitVec.ofNat 32 n).toInt ≥ 256

/-- A list of values below 256 that does not end with 0. It has up to ten values if
they fit the field, none of them a blank or without a place in a `char`. -/
structure Keepable (upattern : List (BitVec 8)) : Prop where
  last : upattern.getLast? ≠ some 0
  short : 3 * upattern.length ≤ maxPtnSize + 1 → upattern.length ≤ 10
  plain : 3 * upattern.length ≤ maxPtnSize + 1 → ∀ b ∈ upattern, b ≠ blank ∧ b.msb = false

/-! ## Reading, item by item -/

/-- What is read from some items, the first of which is behind digits that make `n`. -/
def readItems : Nat → List (List (BitVec 8)) → Option (List (BitVec 8))
  | _, [] => some []
  | n, [item] =>
      (natFrom n item).map fun v => if BitVec.ofNat 32 v ≠ 0 then [BitVec.ofNat 8 v] else []
  | n, item :: next :: items =>
      (natFrom n item).bind fun v =>
        if (BitVec.ofNat 32 v).toInt ≥ 256 then none
        else (readItems 0 (next :: items)).map (BitVec.ofNat 8 v :: ·)

theorem hexDigit_comma : hexDigit comma = none := by decide

theorem setWidth_ofNat (v : Nat) : (BitVec.ofNat 32 v).setWidth 8 = BitVec.ofNat 8 v := by
  apply BitVec.eq_of_toNat_eq
  simp only [BitVec.toNat_setWidth, BitVec.toNat_ofNat]
  omega

theorem ofNat_digit (n d : Nat) :
    BitVec.ofNat 32 n * 16 + BitVec.ofNat 32 d = BitVec.ofNat 32 (n * 16 + d) := by
  rw [BitVec.ofNat_add, BitVec.ofNat_mul]
  rfl

theorem natFrom_cons_some {ch : BitVec 8} {d : Nat} (h : hexDigit ch = some d) (n : Nat)
    (item : List (BitVec 8)) : natFrom n (ch :: item) = natFrom (n * 16 + d) item := by
  rw [natFrom, List.foldlM_cons, h]
  rfl

theorem natFrom_cons_none {ch : BitVec 8} (h : hexDigit ch = none) (n : Nat)
    (item : List (BitVec 8)) : natFrom n (ch :: item) = none := by
  rw [natFrom, List.foldlM_cons, h]
  rfl

theorem readItems_digit {ch : BitVec 8} {d : Nat} (h : hexDigit ch = some d) (n : Nat)
    (item : List (BitVec 8)) (items : List (List (BitVec 8))) :
    readItems n ((ch :: item) :: items) = readItems (n * 16 + d) (item :: items) := by
  cases items with
  | nil => rw [readItems, readItems, natFrom_cons_some h]
  | cons next items => rw [readItems, readItems, natFrom_cons_some h]

theorem readItems_bad {ch : BitVec 8} (h : hexDigit ch = none) (n : Nat)
    (item : List (BitVec 8)) (items : List (List (BitVec 8))) :
    readItems n ((ch :: item) :: items) = none := by
  cases items with
  | nil => rw [readItems, natFrom_cons_none h]; rfl
  | cons next items => rw [readItems, natFrom_cons_none h]; rfl

theorem foldlM_getHexStep {text : List (BitVec 8)} (h : ∀ ch ∈ text, ch ≠ blank) (n : Nat)
    (upattern : List (BitVec 8)) :
    (text.foldlM getHexStep (BitVec.ofNat 32 n, upattern)).map lastValue =
      (readItems n (text.splitOn comma)).map (upattern ++ ·) := by
  induction text generalizing n upattern with
  | nil =>
      rw [List.splitOn_nil, readItems]
      show some (if BitVec.ofNat 32 n ≠ 0
          then upattern ++ [(BitVec.ofNat 32 n).setWidth 8] else upattern) =
        some (upattern ++ if BitVec.ofNat 32 n ≠ 0 then [BitVec.ofNat 8 n] else [])
      rw [setWidth_ofNat]
      split
      · rfl
      · rw [List.append_nil]
  | cons ch text ih =>
      obtain ⟨hch, htext⟩ := List.forall_mem_cons.mp h
      obtain ⟨item, items, hitems⟩ :=
        List.exists_cons_of_ne_nil (List.splitOn_ne_nil comma text)
      rw [List.foldlM_cons]
      by_cases hcomma : ch = comma
      · have hsplit : (ch :: text).splitOn comma = [] :: item :: items := by
          rw [hcomma, List.splitOn_cons_eq_if_modifyHead]
          simp [hitems]
        have hstep : getHexStep (BitVec.ofNat 32 n, upattern) ch =
            if (BitVec.ofNat 32 n).toInt ≥ 256 then none
            else some (BitVec.ofNat 32 0, upattern ++ [BitVec.ofNat 8 n]) := by
          simp only [getHexStep, hcomma, hexDigit_comma, if_pos, setWidth_ofNat]
          rfl
        rw [hsplit, readItems, hstep]
        show _ = Option.map _ (if _ then none else _)
        split
        · rfl
        · show Option.map lastValue (List.foldlM getHexStep _ text) = _
          rw [ih htext, hitems, Option.map_map]
          congr 1
          funext rest
          simp
      · have hsplit : (ch :: text).splitOn comma = (ch :: item) :: items := by
          rw [List.splitOn_cons_eq_if_modifyHead, hitems]
          simp [hcomma]
        rw [hsplit]
        cases hdigit : hexDigit ch with
        | none =>
            rw [readItems_bad hdigit]
            simp [getHexStep, hch, hdigit, hcomma]
        | some d =>
            rw [readItems_digit hdigit, ← hitems, ← ih htext, ← ofNat_digit]
            simp [getHexStep, hch, hdigit]

theorem foldlM_blanks (cells : List (BitVec 8)) (s : BitVec 32 × List (BitVec 8)) :
    (cells.filter fun ch => decide (ch ≠ blank)).foldlM getHexStep s =
      cells.foldlM getHexStep s := by
  induction cells generalizing s with
  | nil => rfl
  | cons ch cells ih =>
      by_cases hch : ch = blank
      · rw [List.filter_cons_of_neg (by simp [hch]), ih, List.foldlM_cons]
        simp [getHexStep, hch]
      · rw [List.filter_cons_of_pos (by simp [hch]), List.foldlM_cons, List.foldlM_cons]
        congr 1
        funext t
        exact ih t

/-- **Reading** goes by the items. -/
theorem getHexData_eq (f : PtnString) : getHexData f = readItems 0 f.items := by
  rw [getHexData, ← foldlM_blanks]
  have htext : ∀ ch ∈ f.text, ch ≠ blank := by simp [PtnString.text]
  have hread := foldlM_getHexStep htext 0 []
  rw [PtnString.items]
  refine hread.trans ?_
  cases readItems 0 (f.text.splitOn comma) with
  | none => rfl
  | some upattern => rfl

/-! ## What is read, and what is listed -/

theorem readItems_eq_none_iff (items : List (List (BitVec 8))) :
    readItems 0 items = none ↔ Refused items := by
  induction items with
  | nil => simp [readItems, Refused]
  | cons item items ih =>
      cases items with
      | nil =>
          simp only [readItems, Refused, Option.map_eq_none_iff, List.mem_singleton, exists_eq_left,
            List.dropLast_singleton]
          simp
      | cons next items =>
          rw [Refused, List.dropLast_cons_cons, List.exists_mem_cons_iff _ item (next :: items),
            List.exists_mem_cons_iff _ item (next :: items).dropLast, readItems]
          cases hitem : natFrom 0 item with
          | none => simp
          | some n =>
              simp only [Option.bind_some, Option.some.injEq, exists_eq_left', reduceCtorEq,
                false_or]
              split
              · next hlarge => simp [hlarge]
              · next hsmall =>
                  rw [Option.map_eq_none_iff, ih, Refused]
                  simp [hsmall]

/-- The values without a last 0. -/
def dropZero (upattern : List (BitVec 8)) : List (BitVec 8) :=
  if upattern.getLast? = some 0 then upattern.dropLast else upattern

theorem dropZero_cons (b b' : BitVec 8) (upattern : List (BitVec 8)) :
    dropZero (b :: b' :: upattern) = b :: dropZero (b' :: upattern) := by
  simp only [dropZero, List.getLast?_cons_cons, List.dropLast_cons_cons]
  split
  · rfl
  · rfl

theorem dropZero_eq_self_iff (upattern : List (BitVec 8)) :
    dropZero upattern = upattern ↔ upattern.getLast? ≠ some 0 := by
  rw [dropZero]
  split
  · next hlast =>
      refine iff_of_false (fun h => ?_) (not_not_intro hlast)
      have hne : upattern ≠ [] := by
        rintro rfl
        cases hlast
      have hlength := congrArg List.length h
      have hpos := List.length_pos_iff.mpr hne
      rw [List.length_dropLast] at hlength
      omega
  · next hlast => exact iff_of_true rfl hlast

theorem length_dropZero_le (upattern : List (BitVec 8)) :
    (dropZero upattern).length ≤ upattern.length := by
  rw [dropZero]
  split
  · rw [List.length_dropLast]
    omega
  · exact Nat.le_refl _

theorem byteOf_eq_some {item : List (BitVec 8)} {b : BitVec 8} (h : byteOf item = some b) :
    ∃ n < 256, natFrom 0 item = some n ∧ b = BitVec.ofNat 8 n := by
  rw [byteOf] at h
  split at h
  · cases h
  · rw [Option.bind_eq_some_iff] at h
    obtain ⟨n, hn, hb⟩ := h
    split at hb
    · next hlt =>
        cases hb
        exact ⟨n, hlt, hn, rfl⟩
    · cases hb

theorem toInt_ofNat_of_lt {n : Nat} (h : n < 256) : (BitVec.ofNat 32 n).toInt = n := by
  rw [BitVec.toInt_eq_toNat_of_lt, BitVec.toNat_ofNat]
  · omega
  · rw [BitVec.toNat_ofNat]
    omega

theorem ofNat_eq_zero_iff {n : Nat} (h : n < 256) :
    BitVec.ofNat 32 n = 0 ↔ BitVec.ofNat 8 n = 0 := by
  rw [BitVec.toNat_eq, BitVec.toNat_eq, BitVec.toNat_ofNat, BitVec.toNat_ofNat]
  show n % 2 ^ 32 = 0 ↔ n % 2 ^ 8 = 0
  omega

theorem mapM_byteOf_cons {item : List (BitVec 8)} {items : List (List (BitVec 8))}
    {upattern : List (BitVec 8)} (h : (item :: items).mapM byteOf = some upattern) :
    ∃ b rest, byteOf item = some b ∧ items.mapM byteOf = some rest ∧ upattern = b :: rest := by
  rw [List.mapM_cons] at h
  simp only [Option.bind_eq_bind, Option.bind_eq_some_iff] at h
  obtain ⟨b, hb, rest, hrest, heq⟩ := h
  cases heq
  exact ⟨b, rest, hb, hrest, rfl⟩

/-- Of values below 256, a last 0 is not read. -/
theorem readItems_of_bytes {items : List (List (BitVec 8))} {upattern : List (BitVec 8)}
    (h : items.mapM byteOf = some upattern) : readItems 0 items = some (dropZero upattern) := by
  induction items generalizing upattern with
  | nil =>
      cases h
      rfl
  | cons item items ih =>
      obtain ⟨b, rest, hb, hrest, rfl⟩ := mapM_byteOf_cons h
      obtain ⟨n, hlt, hn, rfl⟩ := byteOf_eq_some hb
      cases items with
      | nil =>
          rw [List.mapM_nil] at hrest
          cases hrest
          rw [readItems, hn, Option.map_some, dropZero]
          simp only [List.getLast?_singleton, Option.some.injEq, ← ofNat_eq_zero_iff hlt]
          by_cases hzero : BitVec.ofNat 32 n = 0
          · rw [if_neg (not_not_intro hzero), if_pos hzero]
            rfl
          · rw [if_pos hzero, if_neg hzero]
      | cons next items =>
          have hsmall : ¬ (BitVec.ofNat 32 n).toInt ≥ 256 := by
            rw [toInt_ofNat_of_lt hlt]
            omega
          rw [readItems, hn, Option.bind_some, if_neg hsmall, ih hrest, Option.map_some]
          obtain ⟨b, rest, -, -, rfl⟩ := mapM_byteOf_cons hrest
          rw [dropZero_cons]

/-- **The field is read as what it lists** if it is rightly refused, blank, or lists
values of which the last is not 0. -/
theorem reads_iff (f : PtnString) :
    getHexData f = f.listed ↔ Refused f.items ∨ f.text = [] ∨
      ∃ upattern, f.items.mapM byteOf = some upattern ∧ upattern.getLast? ≠ some 0 := by
  rw [getHexData_eq, PtnString.listed]
  split
  · next htext =>
      refine iff_of_true ?_ (.inr (.inl htext))
      rw [PtnString.items, htext, List.splitOn_nil]
      rfl
  · next htext =>
      simp only [htext, false_or]
      cases hitems : f.items.mapM byteOf with
      | none =>
          rw [readItems_eq_none_iff]
          simp
      | some upattern =>
          have hread := readItems_of_bytes hitems
          have hnot : ¬ Refused f.items := by
            rw [← readItems_eq_none_iff, hread]
            simp
          rw [hread]
          simp [hnot, dropZero_eq_self_iff]

/-! ## To characters and back -/

theorem PtnString.put_ok (f : PtnString) (chars : List (BitVec 8))
    (h : chars.length ≤ maxPtnSize + 1) :
    ∃ f', f.put chars = .ok f' ∧ ∀ k ≤ 40,
      (f'.cells.take k).filter (fun ch => decide (ch ≠ blank)) =
        (chars.take k).filter fun ch => decide (ch ≠ blank) := by
  refine ⟨_, dif_pos h, fun k hk => ?_⟩
  have hblanks : (List.replicate maxPtnSize blank ++ f.cells.drop maxPtnSize).take k =
      List.replicate k blank := by
    rw [List.take_append_of_le_length (by rw [List.length_replicate]; exact hk),
      List.take_replicate, Nat.min_eq_left (show k ≤ maxPtnSize from hk)]
  show ((chars ++ (List.replicate maxPtnSize blank ++ f.cells.drop maxPtnSize).drop
    chars.length).take k).filter _ = _
  rw [List.take_append, ← List.drop_take, hblanks, List.drop_replicate, List.filter_append]
  simp

theorem asciiChars_eq {j : Nat} {upattern : List (BitVec 8)} (h : j + upattern.length ≤ 40) :
    asciiChars j upattern = upattern := by
  induction upattern generalizing j with
  | nil => rfl
  | cons b upattern ih =>
      rw [List.length_cons] at h
      rw [asciiChars]
      split
      · have hnil : upattern = [] := List.length_eq_zero_iff.mp (by omega)
        rw [hnil]
      · rw [ih (by omega)]

/-- The two digits of a value. -/
def hexPair (b : BitVec 8) : List (BitVec 8) := [hexChar (b.toNat / 16), hexChar (b.toNat % 16)]

def hexText : List (BitVec 8) → List (BitVec 8)
  | [] => []
  | [b] => hexPair b
  | b :: b' :: upattern => hexPair b ++ comma :: hexText (b' :: upattern)

theorem length_hexText_le (upattern : List (BitVec 8)) :
    (hexText upattern).length ≤ 3 * upattern.length := by
  induction upattern with
  | nil => exact Nat.le_refl _
  | cons b upattern ih =>
      cases upattern with
      | nil => exact Nat.le_succ 2
      | cons b' upattern =>
          rw [hexText, List.length_append, List.length_cons, List.length_cons]
          show 2 + _ ≤ _
          omega

theorem sprintf02x_eq (b : BitVec 8) :
    sprintf02x b = if b.msb = true then .error .temp else .ok (hexPair b) := by
  rw [sprintf02x]
  cases b.msb with
  | true => rfl
  | false => rfl

/-- A `char` below 0 is too long for `temp`. -/
theorem hexChars_eq {j : Nat} {upattern : List (BitVec 8)} (h : j + 2 * upattern.length < 38) :
    hexChars j upattern =
      if ∃ b ∈ upattern, b.msb = true then .error .temp else .ok (hexText upattern) := by
  induction upattern generalizing j with
  | nil => simp [hexChars, hexText]
  | cons b upattern ih =>
      rw [List.length_cons] at h
      rw [hexChars, sprintf02x_eq]
      cases hb : b.msb with
      | true => simp [hb, bind, Except.bind]
      | false =>
          cases upattern with
          | nil => simp [hb, hexText, bind, Except.bind, pure, Except.pure]
          | cons b' upattern =>
              have hno : ¬ (j + 2 ≥ 38 ∨ b' :: upattern = []) := by
                rw [List.length_cons] at h
                simp
                omega
              show (if j + 2 ≥ 38 ∨ b' :: upattern = [] then .ok (hexPair b)
                else (hexChars (j + 2) (b' :: upattern)).bind fun rest =>
                  .ok (hexPair b ++ comma :: rest)) = _
              rw [if_neg hno, ih (by omega)]
              simp only [List.exists_mem_cons_iff _ b, hb, Bool.false_eq_true, false_or]
              split
              · rfl
              · rfl

theorem hexDigit_hexChar {d : Nat} (h : d < 16) : hexDigit (hexChar d) = some d := by
  have hall : ∀ d < 16, hexDigit (hexChar d) = some d := by decide
  exact hall d h

theorem hexChar_ne {d : Nat} (h : d < 16) : hexChar d ≠ comma ∧ hexChar d ≠ blank := by
  have hall : ∀ d < 16, hexChar d ≠ comma ∧ hexChar d ≠ blank := by decide
  exact hall d h

theorem hexPair_ne {b ch : BitVec 8} (h : ch ∈ hexPair b) : ch ≠ comma ∧ ch ≠ blank := by
  have hlt := b.isLt
  simp only [hexPair, List.mem_cons, List.not_mem_nil, or_false] at h
  rcases h with rfl | rfl
  · exact hexChar_ne (by omega)
  · exact hexChar_ne (by omega)

theorem byteOf_hexPair (b : BitVec 8) : byteOf (hexPair b) = some b := by
  have hlt := b.isLt
  have hvalue : natFrom 0 (hexPair b) = some b.toNat := by
    rw [hexPair, natFrom_cons_some (hexDigit_hexChar (by omega)),
      natFrom_cons_some (hexDigit_hexChar (by omega))]
    show some _ = _
    congr 1
    omega
  have hne : hexPair b ≠ [] := List.cons_ne_nil _ _
  rw [byteOf, if_neg hne, hvalue, Option.bind_some, if_pos hlt,
    BitVec.ofNat_toNat, BitVec.setWidth_eq]

theorem hexText_no_blank (upattern : List (BitVec 8)) : ∀ ch ∈ hexText upattern, ch ≠ blank := by
  induction upattern with
  | nil => exact fun _ h => absurd h List.not_mem_nil
  | cons b upattern ih =>
      cases upattern with
      | nil => exact fun ch hch => (hexPair_ne hch).2
      | cons b' upattern =>
          intro ch hch
          rw [hexText, List.mem_append, List.mem_cons] at hch
          rcases hch with hch | rfl | hch
          · exact (hexPair_ne hch).2
          · decide
          · exact ih ch hch

theorem splitOn_hexText {upattern : List (BitVec 8)} (h : upattern ≠ []) :
    (hexText upattern).splitOn comma = upattern.map hexPair := by
  have hnot (b : BitVec 8) : comma ∉ hexPair b := fun hmem => (hexPair_ne hmem).1 rfl
  induction upattern with
  | nil => exact absurd rfl h
  | cons b upattern ih =>
      cases upattern with
      | nil => exact List.splitOn_eq_singleton (hnot b)
      | cons b' upattern =>
          rw [hexText, List.splitOn_append_cons_self_of_not_mem (hnot b),
            ih (List.cons_ne_nil _ _)]
          rfl

theorem mapM_byteOf_hexPair (upattern : List (BitVec 8)) :
    (upattern.map hexPair).mapM byteOf = some upattern := by
  induction upattern with
  | nil => rfl
  | cons b upattern ih =>
      rw [List.map_cons, List.mapM_cons, byteOf_hexPair, ih]
      rfl

/-- The digits of a pattern in a field are read as the pattern, without a last 0. -/
theorem getHexData_of_text {f : PtnString} {upattern : List (BitVec 8)}
    (h : f.text = hexText upattern) : getHexData f = some (dropZero upattern) := by
  rw [getHexData_eq, PtnString.items, h]
  by_cases hnil : upattern = []
  · rw [hnil]
    rfl
  · rw [splitOn_hexText hnil]
    exact readItems_of_bytes (mapM_byteOf_hexPair upattern)

/-- What the field shows after a switch to characters. -/
def shown (upattern : List (BitVec 8)) : List (BitVec 8) :=
  (upattern.take 10).filter fun ch => decide (ch ≠ blank)

theorem length_shown_le (upattern : List (BitVec 8)) : (shown upattern).length ≤ 10 :=
  (List.length_filter_le _ _).trans (List.length_take_le 10 upattern)

theorem shown_sublist (upattern : List (BitVec 8)) : (shown upattern).Sublist upattern :=
  List.filter_sublist.trans (List.take_sublist 10 upattern)

theorem switchTwice_eq (f : PtnString) {upattern : List (BitVec 8)}
    (h : 3 * upattern.length ≤ maxPtnSize + 1) :
    switchTwice upattern f =
      if ∃ b ∈ shown upattern, b.msb = true then .error .temp
      else .ok (some (dropZero (shown upattern))) := by
  have hshort : upattern.length ≤ 13 := by
    rw [maxPtnSize] at h
    omega
  have hten := length_shown_le upattern
  obtain ⟨f₁, hput, hcells⟩ := f.put_ok upattern (by rw [maxPtnSize]; omega)
  have hascii : getAsciiData f₁ = shown upattern := hcells 10 (by omega)
  have htext := length_hexText_le (shown upattern)
  obtain ⟨f₂, hput₂, hcells₂⟩ := f₁.put_ok (hexText (shown upattern)) (by
    rw [maxPtnSize]
    omega)
  have hread : f₂.text = hexText (shown upattern) := by
    rw [PtnString.text, PtnString.field, hcells₂ 40 (Nat.le_refl _),
      List.take_of_length_le (by omega)]
    exact List.filter_eq_self.mpr fun ch hch => by
      simpa using hexText_no_blank _ ch hch
  show ((f.put (asciiChars 0 upattern)).bind fun f =>
    ((hexChars 0 (getAsciiData f)).bind f.put).bind fun f => .ok (getHexData f)) = _
  rw [asciiChars_eq (by omega), hput]
  show (((hexChars 0 (getAsciiData f₁)).bind f₁.put).bind fun f => .ok (getHexData f)) = _
  rw [hascii, hexChars_eq (by omega)]
  split
  · rfl
  · show ((f₁.put (hexText (shown upattern))).bind fun f => .ok (getHexData f)) = _
    rw [hput₂]
    show Except.ok (getHexData f₂) = _
    rw [getHexData_of_text hread]

/-- **The pattern is the same** after both switches if it has up to ten values, of
which none is a blank or too large for a `char` and the last is not 0. -/
theorem switchTwice_iff (f : PtnString) {upattern : List (BitVec 8)}
    (h : 3 * upattern.length ≤ maxPtnSize + 1) :
    switchTwice upattern f = .ok (some upattern) ↔
      upattern.getLast? ≠ some 0 ∧ upattern.length ≤ 10 ∧
        ∀ b ∈ upattern, b ≠ blank ∧ b.msb = false := by
  rw [switchTwice_eq f h]
  constructor
  · intro heq
    split at heq
    · cases heq
    · next hmsb =>
        have hdrop : dropZero (shown upattern) = upattern :=
          Option.some.inj (Except.ok.inj heq)
        have hlength := length_dropZero_le (shown upattern)
        rw [hdrop] at hlength
        have hshown : shown upattern = upattern :=
          (shown_sublist upattern).eq_of_length_le hlength
        rw [hshown] at hdrop hmsb
        refine ⟨(dropZero_eq_self_iff upattern).mp hdrop, ?_, fun b hb => ⟨?_, ?_⟩⟩
        · rw [← hshown]
          exact length_shown_le upattern
        · rw [← hshown, shown, List.mem_filter] at hb
          simpa using hb.2
        · rw [← Bool.not_eq_true]
          exact fun hbmsb => hmsb ⟨b, hb, hbmsb⟩
  · rintro ⟨hlast, hlen, hplain⟩
    have hshown : shown upattern = upattern := by
      rw [shown, List.take_of_length_le hlen]
      exact List.filter_eq_self.mpr fun ch hch => by simpa using (hplain ch hch).1
    have hmsb : ¬ ∃ b ∈ upattern, b.msb = true := by
      rintro ⟨b, hb, hbmsb⟩
      rw [(hplain b hb).2] at hbmsb
      cases hbmsb
    rw [hshown, if_neg hmsb, (dropZero_eq_self_iff upattern).mpr hlast]

/-- **The pattern editor** keeps a pattern in exactly the fields that it rightly
refuses, the blank one, and those that list values below 256 with a last one that is
not 0: if they fit the field, up to ten that are no blanks and have a place in a
`char`. -/
theorem keepsPattern_iff (f : PtnString) :
    KeepsPattern f ↔ Refused f.items ∨ f.text = [] ∨
      ∃ upattern, f.items.mapM byteOf = some upattern ∧ Keepable upattern := by
  have hread {upattern : List (BitVec 8)} (hitems : f.items.mapM byteOf = some upattern)
      (hlast : upattern.getLast? ≠ some 0) : getHexData f = some upattern := by
    rw [getHexData_eq, readItems_of_bytes hitems, (dropZero_eq_self_iff upattern).mpr hlast]
  constructor
  · rintro ⟨hreads, hkeeps⟩
    rcases (reads_iff f).mp hreads with hrefused | htext | ⟨upattern, hitems, hlast⟩
    · exact .inl hrefused
    · exact .inr (.inl htext)
    · have hswitch (hfit : 3 * upattern.length ≤ maxPtnSize + 1) :=
        (switchTwice_iff f hfit).mp (hkeeps upattern (hread hitems hlast) hfit)
      exact .inr (.inr ⟨upattern, hitems, hlast, fun hfit => (hswitch hfit).2.1,
        fun hfit => (hswitch hfit).2.2⟩)
  · rintro (hrefused | htext | ⟨upattern, hitems, hkeepable⟩)
    · refine ⟨(reads_iff f).mpr (.inl hrefused), fun upattern hupattern => ?_⟩
      rw [getHexData_eq, (readItems_eq_none_iff f.items).mpr hrefused] at hupattern
      cases hupattern
    · have hreads := (reads_iff f).mpr (.inr (.inl htext))
      refine ⟨hreads, fun upattern hupattern hfit => (switchTwice_iff f hfit).mpr ?_⟩
      rw [hreads, PtnString.listed, if_pos htext] at hupattern
      cases hupattern
      exact ⟨by simp, Nat.zero_le _, fun b hb => absurd hb List.not_mem_nil⟩
    · refine ⟨(reads_iff f).mpr (.inr (.inr ⟨upattern, hitems, hkeepable.last⟩)), ?_⟩
      intro upattern' hupattern hfit
      rw [hread hitems hkeepable.last] at hupattern
      cases hupattern
      exact (switchTwice_iff f hfit).mpr
        ⟨hkeepable.last, hkeepable.short hfit, hkeepable.plain hfit⟩

/-- A field that starts with some characters. -/
def fieldOf (chars : List (BitVec 8)) (h : chars.length ≤ maxPtnSize) : PtnString where
  cells := chars ++ List.replicate (maxPtnSize - chars.length) blank ++ [0]
  size := by
    simp only [List.length_append, List.length_replicate, List.length_singleton]
    omega

/-- `41,20` and `41,80` do not come back, `41,00` is read without the 0, and `1ff` is
not refused. -/
theorem patterns_lost :
    ¬ KeepsPattern (fieldOf [0x34, 0x31, comma, 0x32, 0x30] (by decide)) ∧
      ¬ KeepsPattern (fieldOf [0x34, 0x31, comma, 0x38, 0x30] (by decide)) ∧
      ¬ KeepsPattern (fieldOf [0x34, 0x31, comma, 0x30, 0x30] (by decide)) ∧
      ¬ KeepsPattern (fieldOf [0x31, 0x66, 0x66] (by decide)) := by
  refine ⟨fun h => ?_, fun h => ?_, fun h => ?_, fun h => ?_⟩
  · have hswitch := h.keeps [0x41, 0x20] (by decide) (by decide)
    have hcode : switchTwice [0x41, 0x20] (fieldOf [0x34, 0x31, comma, 0x32, 0x30] (by decide)) =
      .ok (some [0x41]) := rfl
    rw [hcode] at hswitch
    cases hswitch
  · have hswitch := h.keeps [0x41, 0x80] (by decide) (by decide)
    have hcode : switchTwice [0x41, 0x80] (fieldOf [0x34, 0x31, comma, 0x38, 0x30] (by decide)) =
      .error .temp := rfl
    rw [hcode] at hswitch
    cases hswitch
  · exact absurd h.reads (by decide)
  · exact absurd h.reads (by decide)

end MoxaDrivers.Muestty

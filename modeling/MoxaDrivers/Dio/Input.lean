import MoxaDrivers.Dio.Board

/-!
# Reading the inputs

`IOCTL_GET_DIN` calls the board's `dio_inb` before it looks at the number of the
line, and sends the number of a request for all lines, -1, through the shift that
is to bring one line down to bit 0.
-/

namespace MoxaDrivers.Dio

open MoxaDrivers.Bits MoxaDrivers.CInt

/-- What `IOCTL_GET_DIN` answers. -/
def dinReply (p : Product) (d : Driver) (b : Ports) (set : DioSet) : Except CFault Reply :=
  (ioIoctl p d b ioctlGetDin ⟨some set, true⟩).map (·.2.2)

/-- The level of the register bit that an input has. -/
def Ports.inLevel (b : Ports) (p : Product) (i : Nat) : Bool :=
  (b.inb p (p.inLine i).addr).getLsbD (p.inLine i).bit

/-- **An exact read**: the request is carried out within the language, fails for
lines that do not exist, and gives the level of one line or of all. -/
structure DinExact (p : Product) (d : Driver) (b : Ports) (set : DioSet) : Prop where
  completes : ∃ reply, dinReply p d b set = .ok reply
  rejects : dinReply p d b set = .ok (.error .einval) ↔
    set.ioNumber ≠ allPort ∧ ¬ (0 ≤ set.ioNumber ∧ set.ioNumber < p.mdev.diNum)
  line : ∀ i < p.mdev.diNum, set.ioNumber = (i : Nat) →
    dinReply p d b set = .ok (.ok (some ⟨i, modeOf (b.inLevel p i)⟩))
  all : set.ioNumber = allPort → ∃ word : Byte,
    dinReply p d b set = .ok (.ok (some ⟨allPort, word.toNat⟩)) ∧
    (∀ i < p.mdev.diNum,
      dinReply p d b ⟨(i : Nat), 0⟩ = .ok (.ok (some ⟨i, modeOf (word.getLsbD i)⟩))) ∧
    ∀ i, p.mdev.diNum ≤ i → word.getLsbD i = false

/-- The line numbers and the register values with which a board answers so. -/
def DinFits (p : Product) (b : Ports) (ioNumber : Int) : Prop :=
  match p with
  | .v2201 .coded | .v2400A | .v2403 | .v2416A | .da682B => 0 ≤ ioNumber ∧ ioNumber < 32
  | .v2201 .commented =>
      (0 ≤ ioNumber ∧ ioNumber < 32) ∧
        ∀ i < p.mdev.diNum, ioNumber = (i : Nat) →
          (b.inb p p.mdev.addr).getLsbD (i + 4) = (b.inb p p.mdev.addr).getLsbD i
  | .v2616A =>
      (-2 ≤ ioNumber ∧ ioNumber < 30) ∧
        (ioNumber = allPort → ∀ i, 1 ≤ i → (b.inb p p.mdev.addr).getLsbD i = false)
  | .da820 =>
      ioNumber = allPort ∨ ioNumber = 1 →
        (b.inb p p.mdev.addr).getLsbD 6 = (b.inb p p.mdev.addr).getLsbD 7
  | .mc7130 .coded | .mc7200 _ => 0 ≤ ioNumber ∧ ioNumber < p.mdev.diNum
  | .mc7130 .commented =>
      (0 ≤ ioNumber ∧ ioNumber < p.mdev.diNum) ∧
        (ioNumber = 4 →
          (b.inb p ioAddressGp1x).getLsbD 6 = (b.inb p ioAddressGp3x).getLsbD 0) ∧
        (ioNumber = 5 →
          (b.inb p ioAddressGp1x).getLsbD 7 = (b.inb p ioAddressGp3x).getLsbD 1)

/-! ## The boards' functions -/

theorem shiftRight_setWidth (x : Byte) (m n : Nat) :
    (x.setWidth 32 >>> m >>> n).setWidth 8 = x >>> (m + n) := by
  apply BitVec.eq_of_getLsbD_eq
  intro i hi
  simp only [BitVec.getLsbD_setWidth, BitVec.getLsbD_ushiftRight, hi, decide_true, Bool.true_and]
  rw [Nat.add_assoc m n i]
  by_cases hlt : m + (n + i) < 32
  · simp [hlt]
  · rw [decide_eq_false hlt, Bool.false_and, BitVec.getLsbD_of_ge x _ (by omega)]

/-- Up and down again. -/
theorem shiftLeft_shiftRight (x : Byte) {n : Nat} (hn : n ≤ 24) :
    x.setWidth 32 <<< n >>> n = x.setWidth 32 := by
  apply BitVec.eq_of_getLsbD_eq
  intro i hi
  have hsub : n + i - n = i := by omega
  have hge : ¬ n + i < n := by omega
  simp only [BitVec.getLsbD_ushiftRight, BitVec.getLsbD_shiftLeft, BitVec.getLsbD_setWidth, hsub,
    hge, hi, decide_true, decide_false, Bool.not_false, Bool.true_and, Bool.and_true]
  by_cases hlt : n + i < 32
  · simp [hlt]
  · rw [decide_eq_false hlt, Bool.false_and, BitVec.getLsbD_of_ge x _ (by omega)]

theorem shiftDown_inb (x : Byte) (m : Nat) (n : Int) :
    shiftDown (x.setWidth 32 >>> m) n = (shiftCount n).map fun c => x >>> (m + c) := by
  rw [shiftDown]
  cases shiftCount n with
  | error e => rfl
  | ok c => exact congrArg Except.ok (shiftRight_setWidth x m c)

theorem shiftDown_inb_zero (x : Byte) (n : Int) :
    shiftDown (x.setWidth 32) n = (shiftCount n).map (x >>> ·) := by
  have h := shiftDown_inb x 0 n
  rw [BitVec.ushiftRight_zero] at h
  rw [h]
  simp

theorem maskedInb_eq (p : Product) {mdev : DioDev} (hdo : mdev.doNum ≤ 24) (b : Ports)
    (set : DioSet) :
    maskedInb p mdev b set =
      (shiftCount set.ioNumber).map (b.inb p mdev.addr >>> ·) := by
  rw [maskedInb, shiftLeft_shiftRight _ hdo, shiftDown_inb_zero]

theorem tableInb_eq (p : Product) {t : List IoaddrDef} (ht : ∀ e ∈ t, e.dataBit < 8) (b : Ports)
    {i : Nat} (hi : i < t.length) (mode : Int) :
    tableInb p t b ⟨i, mode⟩ = .ok (b.inb p (tableLine t i).addr >>> (tableLine t i).bit) := by
  have hget : t[i]? = some t[i] := List.getElem?_eq_getElem hi
  have hcount := shiftCount_natCast (n := t[i].dataBit) (by
    have := ht t[i] (List.getElem_mem hi)
    omega)
  rw [tableInb, entry_natCast hget, tableLine, hget]
  refine (shiftDown_inb_zero _ _).trans ?_
  rw [hcount]
  rfl

/-! ## What the ioctl makes of it -/

theorem dinReply_eq (p : Product) (d : Driver) (b : Ports) (set : DioSet) :
    dinReply p d b set = getDin p b ⟨some set, true⟩ set := by
  have hset : ¬ ioctlGetDin = ioctlSetDout := by decide
  have hget : ¬ ioctlGetDin = ioctlGetDout := by decide
  simp only [dinReply, ioIoctl, if_neg hset, if_neg hget, if_true]
  cases getDin p b ⟨some set, true⟩ set with
  | error e => rfl
  | ok reply => rfl

theorem dinReply_fault {p : Product} {b : Ports} {set : DioSet} {e : CFault}
    (h : p.dioInb b set = .error e) (d : Driver) : dinReply p d b set = .error e := by
  rw [dinReply_eq, getDin, h]
  rfl

theorem dinReply_ok {p : Product} {b : Ports} {set : DioSet} {word : Byte}
    (h : p.dioInb b set = .ok word) (d : Driver) :
    dinReply p d b set = .ok (
      if set.ioNumber = allPort then .ok (some { set with modeData := word.toNat })
      else if badLine p.mdev.diNum set.ioNumber then .error .einval
      else .ok (some { set with modeData := modeOf (test word 1) })) := by
  rw [dinReply_eq, getDin, h]
  by_cases hall : set.ioNumber = allPort
  · rw [if_pos hall]
    exact if_pos hall
  · rw [if_neg hall]
    refine (if_neg hall).trans ?_
    cases badLine p.mdev.diNum set.ioNumber with
    | true => rfl
    | false => rfl

theorem dinReply_all {p : Product} {b : Ports} {set : DioSet} {word : Byte}
    (h : p.dioInb b set = .ok word) (hall : set.ioNumber = allPort) (d : Driver) :
    dinReply p d b set = .ok (.ok (some ⟨allPort, word.toNat⟩)) := by
  rw [dinReply_ok h, if_pos hall, ← hall]

theorem dinReply_line {p : Product} {b : Ports} {set : DioSet} {word : Byte}
    (h : p.dioInb b set = .ok word) {i : Nat} (hi : i < p.mdev.diNum)
    (hline : set.ioNumber = (i : Nat)) (d : Driver) :
    dinReply p d b set = .ok (.ok (some ⟨i, modeOf (word.getLsbD 0)⟩)) := by
  have hall : ¬ (i : Int) = allPort := by
    rw [allPort]
    omega
  have hbit : test word 1 = word.getLsbD 0 := test_bit word (n := 0) (by decide)
  rw [dinReply_ok h, hline, if_neg hall, badLine_line hi, hbit]
  rfl

/-! ## When a read is exact -/

theorem badLine_iff {num : Nat} {ioNumber : Int} :
    badLine num ioNumber = true ↔ ¬ (0 ≤ ioNumber ∧ ioNumber < num) := by
  rw [badLine, Bool.or_eq_true, decide_eq_true_eq, decide_eq_true_eq]
  omega

theorem not_exact_of_fault {p : Product} {d : Driver} {b : Ports} {set : DioSet} {e : CFault}
    (h : p.dioInb b set = .error e) : ¬ DinExact p d b set := by
  intro hexact
  obtain ⟨reply, hreply⟩ := hexact.completes
  cases (dinReply_fault h d).symm.trans hreply

/-- The two ways in which a function that gives a word may fail the callers. -/
theorem exact_iff_of_word {p : Product} {b : Ports} {set : DioSet} {word : Byte}
    (h : p.dioInb b set = .ok word) (d : Driver) :
    DinExact p d b set ↔
      (∀ i < p.mdev.diNum, set.ioNumber = (i : Nat) → word.getLsbD 0 = b.inLevel p i) ∧
      (set.ioNumber = allPort →
        (∀ i < p.mdev.diNum, dinReply p d b ⟨(i : Nat), 0⟩ =
          .ok (.ok (some ⟨i, modeOf (word.getLsbD i)⟩))) ∧
        ∀ i, p.mdev.diNum ≤ i → word.getLsbD i = false) := by
  constructor
  · intro hexact
    constructor
    · intro i hi hline
      have hsame := (dinReply_line h hi hline d).symm.trans (hexact.line i hi hline)
      simp only [Except.ok.injEq, Option.some.injEq, DioSet.mk.injEq] at hsame
      exact modeOf_inj hsame.2
    · intro hall
      obtain ⟨word', hword, hlines, hrest⟩ := hexact.all hall
      have hsame := (dinReply_all h hall d).symm.trans hword
      simp only [Except.ok.injEq, Option.some.injEq, DioSet.mk.injEq, Int.natCast_inj] at hsame
      rw [BitVec.eq_of_toNat_eq hsame.2]
      exact ⟨hlines, hrest⟩
  · rintro ⟨hline, hall⟩
    refine ⟨⟨_, dinReply_ok h d⟩, ?_, ?_, ?_⟩
    · rw [dinReply_ok h]
      constructor
      · intro hreply
        by_cases heq : set.ioNumber = allPort
        · rw [if_pos heq] at hreply
          cases hreply
        · refine ⟨heq, badLine_iff.mp ?_⟩
          by_contra hbad
          rw [if_neg heq, if_neg hbad] at hreply
          cases hreply
      · rintro ⟨heq, hbad⟩
        rw [if_neg heq, if_pos (badLine_iff.mpr hbad)]
    · intro i hi heq
      rw [dinReply_line h hi heq, hline i hi heq]
    · intro heq
      exact ⟨word, dinReply_all h heq d, hall heq⟩

/-- The boards that shift by the number of the line, which a request for all
lines does not survive. -/
theorem exact_iff_of_shift {p : Product} {b : Ports} {set : DioSet} {x : Byte} {m : Nat}
    (h : p.dioInb b set = (shiftCount set.ioNumber).map fun c => x >>> (m + c)) (d : Driver) :
    DinExact p d b set ↔
      (0 ≤ set.ioNumber ∧ set.ioNumber < 32) ∧
        ∀ i < p.mdev.diNum, set.ioNumber = (i : Nat) → x.getLsbD (i + m) = b.inLevel p i := by
  by_cases hcount : 0 ≤ set.ioNumber ∧ set.ioNumber < 32
  · have hword : p.dioInb b set = .ok (x >>> (m + set.ioNumber.toNat)) := by
      rw [h, shiftCount, if_pos hcount]
      rfl
    have hall : ¬ set.ioNumber = allPort := by
      rw [allPort]
      omega
    rw [exact_iff_of_word hword, and_iff_left (fun heq => absurd heq hall), and_iff_right hcount]
    constructor
    · intro hline i hi heq
      rw [← hline i hi heq, BitVec.getLsbD_ushiftRight, heq, Int.toNat_natCast, Nat.add_zero,
        Nat.add_comm]
    · intro hline i hi heq
      rw [← hline i hi heq, BitVec.getLsbD_ushiftRight, heq, Int.toNat_natCast, Nat.add_zero,
        Nat.add_comm]
  · rw [shiftCount_error hcount] at h
    exact iff_of_false (not_exact_of_fault h) fun hboth => hcount hboth.1

theorem exact_iff_of_masked {p : Product} {b : Ports} {set : DioSet}
    (h : p.dioInb b set = (shiftCount set.ioNumber).map (b.inb p p.mdev.addr >>> ·))
    (hline : ∀ i < p.mdev.diNum, p.inLine i = ⟨p.mdev.addr, i⟩) (d : Driver) :
    DinExact p d b set ↔ 0 ≤ set.ioNumber ∧ set.ioNumber < 32 := by
  have hshift : p.dioInb b set =
      (shiftCount set.ioNumber).map fun c => b.inb p p.mdev.addr >>> (0 + c) := by
    simpa using h
  rw [exact_iff_of_shift hshift]
  refine and_iff_left fun i hi _ => ?_
  rw [Ports.inLevel, hline i hi, Nat.add_zero]

theorem exact_iff_of_table {p : Product} {t : List IoaddrDef} {b : Ports}
    (h : ∀ set, p.dioInb b set = tableInb p t b set) (ht : ∀ e ∈ t, e.dataBit < 8)
    (hlen : t.length = p.mdev.diNum) (d : Driver) (set : DioSet) :
    DinExact p d b set ↔
      (0 ≤ set.ioNumber ∧ set.ioNumber < p.mdev.diNum) ∧
        ∀ i < p.mdev.diNum, set.ioNumber = (i : Nat) →
          (b.inb p (tableLine t i).addr).getLsbD (tableLine t i).bit = b.inLevel p i := by
  obtain ⟨ioNumber, mode⟩ := set
  by_cases hcount : 0 ≤ ioNumber ∧ ioNumber < p.mdev.diNum
  · obtain ⟨i, rfl⟩ := Int.eq_ofNat_of_zero_le hcount.1
    have hi : i < p.mdev.diNum := by omega
    have hword := (h ⟨(i : Nat), mode⟩).trans (tableInb_eq p ht b (by omega) mode)
    have hall : ¬ (i : Int) = allPort := by
      rw [allPort]
      omega
    rw [exact_iff_of_word hword, and_iff_left (fun heq => absurd heq hall), and_iff_right hcount]
    refine forall_congr' fun j => forall_congr' fun _ => forall_congr' fun heq => ?_
    cases Int.natCast_inj.mp heq
    rw [BitVec.getLsbD_ushiftRight, Nat.add_zero]
  · have hfault : p.dioInb b ⟨ioNumber, mode⟩ = .error (.index ioNumber) := by
      have hout : ¬ (0 ≤ ioNumber ∧ ioNumber < t.length) := by omega
      rw [h, tableInb]
      simp only [entry_error hout]
      rfl
    exact iff_of_false (not_exact_of_fault hfault) fun hboth => hcount hboth.1

theorem v2616ADioInb_eq (b : Ports) (set : DioSet) :
    v2616ADioInb b set =
      (shiftCount (2 + set.ioNumber)).map (b.inb .v2616A v2616A.addr >>> ·) :=
  shiftDown_inb_zero _ _

theorem v2616A_word (b : Ports) (set : DioSet) (h : -2 ≤ set.ioNumber ∧ set.ioNumber < 30) :
    Product.v2616A.dioInb b set =
      .ok (b.inb .v2616A v2616A.addr >>> (2 + set.ioNumber).toNat) := by
  refine (v2616ADioInb_eq b set).trans ?_
  rw [shiftCount, if_pos (by omega)]
  rfl

/-- Bits that are each as the one above, below one that is 0. -/
theorem zero_of_top {x : Byte} {m : Nat} (hstep : ∀ i < m, x.getLsbD (i + 2) = x.getLsbD (1 + i))
    (htop : x.getLsbD (1 + m) = false) : ∀ k ≤ m, x.getLsbD (m + 1 - k) = false := by
  intro k
  induction k with
  | zero =>
      intro _
      rwa [Nat.sub_zero, Nat.add_comm]
  | succ k ih =>
      intro hk
      have habove := hstep (m - k - 1) (by omega)
      rw [show m - k - 1 + 2 = m + 1 - k by omega, ih (by omega),
        show 1 + (m - k - 1) = m + 1 - (k + 1) by omega] at habove
      exact habove.symm

/-- A request for all lines is moved by one bit too few. -/
theorem v2616A_exact_iff (d : Driver) (b : Ports) (set : DioSet) :
    DinExact .v2616A d b set ↔ DinFits .v2616A b set.ioNumber := by
  by_cases hcount : -2 ≤ set.ioNumber ∧ set.ioNumber < 30
  · have hword := v2616A_word b set hcount
    rw [exact_iff_of_word hword]
    refine Iff.trans (and_iff_right ?_) (Iff.trans ?_ (and_iff_right hcount).symm)
    · intro i _ heq
      have hnat : (2 + set.ioNumber).toNat = i + 2 := by omega
      rw [hnat, BitVec.getLsbD_ushiftRight, Nat.add_zero]
      rfl
    · refine forall_congr' fun hall => ?_
      have hone : (2 + set.ioNumber).toNat = 1 := by
        rw [hall]
        rfl
      have hread : ∀ i < Product.v2616A.mdev.diNum,
          dinReply .v2616A d b ⟨(i : Nat), 0⟩ =
            .ok (.ok (some ⟨i, modeOf ((b.inb .v2616A v2616A.addr).getLsbD (i + 2))⟩)) := by
        intro i hi
        have hi' : i < 6 := hi
        have hin : -2 ≤ (i : Int) ∧ (i : Int) < 30 := by omega
        have hnat : (2 + (i : Int)).toNat = i + 2 := by omega
        rw [dinReply_line (v2616A_word b ⟨(i : Nat), 0⟩ hin) hi rfl,
          BitVec.getLsbD_ushiftRight, Nat.add_zero, hnat]
      rw [hone]
      simp only [BitVec.getLsbD_ushiftRight]
      constructor
      · rintro ⟨hlines, hrest⟩
        have hstep : ∀ i < 6, (b.inb .v2616A v2616A.addr).getLsbD (i + 2) =
            (b.inb .v2616A v2616A.addr).getLsbD (1 + i) := by
          intro i hi
          have hsame := (hread i hi).symm.trans (hlines i hi)
          simp only [Except.ok.injEq, Option.some.injEq, DioSet.mk.injEq] at hsame
          exact modeOf_inj hsame.2
        intro i hi
        by_cases hge : 8 ≤ i
        · exact BitVec.getLsbD_of_ge _ _ hge
        · have hdown := zero_of_top hstep (hrest 6 (Nat.le_refl 6)) (7 - i) (by omega)
          rwa [show 6 + 1 - (7 - i) = i by omega] at hdown
      · intro hzero
        constructor
        · intro i hi
          rw [hread i hi]
          have hlow := hzero (1 + i) (by omega)
          have hhigh := hzero (i + 2) (by omega)
          rw [show Product.v2616A.mdev.addr = v2616A.addr from rfl] at hlow hhigh
          rw [hlow, hhigh]
        · intro i hi
          exact hzero (1 + i) (by omega)
  · have hfault : Product.v2616A.dioInb b set = .error (.shift (2 + set.ioNumber)) := by
      refine (v2616ADioInb_eq b set).trans ?_
      rw [shiftCount_error (by omega)]
      rfl
    exact iff_of_false (not_exact_of_fault hfault) fun hfits => hcount hfits.1

/-- Every request is answered with both inputs, the first one in bit 0. -/
theorem da820_exact_iff (d : Driver) (b : Ports) (set : DioSet) :
    DinExact .da820 d b set ↔ DinFits .da820 b set.ioNumber := by
  have hword (set : DioSet) : Product.da820.dioInb b set = .ok (b.inb .da820 da820.addr >>> 6) := by
    refine (shiftDown_inb_zero _ _).trans ?_
    rw [show shiftCount (da820.doNum : Nat) = .ok 6 from rfl]
    rfl
  have hread : ∀ i < Product.da820.mdev.diNum,
      dinReply .da820 d b ⟨(i : Nat), 0⟩ =
        .ok (.ok (some ⟨i, modeOf ((b.inb .da820 da820.addr).getLsbD 6)⟩)) := by
    intro i hi
    rw [dinReply_line (hword _) hi rfl, BitVec.getLsbD_ushiftRight]
  rw [exact_iff_of_word (hword set)]
  simp only [BitVec.getLsbD_ushiftRight]
  constructor
  · rintro ⟨hline, hall⟩ (heq | heq)
    · have hsame := (hread 1 (by decide)).symm.trans ((hall heq).1 1 (by decide))
      simp only [Except.ok.injEq, Option.some.injEq, DioSet.mk.injEq] at hsame
      exact modeOf_inj hsame.2
    · exact hline 1 (by decide) heq
  · intro hfits
    constructor
    · intro i hi heq
      have hi' : i < 2 := hi
      have hcases : i = 0 ∨ i = 1 := by omega
      obtain rfl | rfl := hcases
      · rfl
      · exact hfits (.inr heq)
    · intro heq
      have hsame : (b.inb .da820 da820.addr).getLsbD 6 = (b.inb .da820 da820.addr).getLsbD 7 :=
        hfits (.inl heq)
      constructor
      · intro i hi
        have hi' : i < 2 := hi
        have hcases : i = 0 ∨ i = 1 := by omega
        rw [hread i hi]
        obtain rfl | rfl := hcases
        · rfl
        · rw [hsame]
      · intro i hi
        have hi' : 2 ≤ i := hi
        exact BitVec.getLsbD_of_ge _ _ (by omega)

/-- Two entries of the table are not in the comment. -/
theorem mc7130_exact_iff (wiring : Wiring) (d : Driver) (b : Ports) (set : DioSet) :
    DinExact (.mc7130 wiring) d b set ↔ DinFits (.mc7130 wiring) b set.ioNumber := by
  have htable := exact_iff_of_table (p := .mc7130 wiring) (t := din7130) (b := b)
    (fun _ => rfl) (by decide) rfl d set
  cases wiring with
  | coded => exact htable.trans (and_iff_left fun _ _ _ => rfl)
  | commented =>
      have hsame : ∀ i < 8, i ≠ 4 → i ≠ 5 →
          tableLine din7130 i = Product.inLine (.mc7130 .commented) i := by decide
      refine htable.trans (and_congr_right fun _ => ?_)
      constructor
      · intro hline
        exact ⟨fun heq => hline 4 (by decide) heq, fun heq => hline 5 (by decide) heq⟩
      · rintro ⟨hfour, hfive⟩ i hi heq
        by_cases h4 : i = 4
        · subst h4
          exact hfour heq
        · by_cases h5 : i = 5
          · subst h5
            exact hfive heq
          · rw [Ports.inLevel, hsame i hi h4 h5]

theorem mc7200_exact_iff (wiring : Wiring) (d : Driver) (b : Ports) (set : DioSet) :
    DinExact (.mc7200 wiring) d b set ↔ DinFits (.mc7200 wiring) b set.ioNumber := by
  have hsame : ∀ i < 8, tableLine din7200 i = Product.inLine (.mc7200 wiring) i := by
    cases wiring <;> decide
  have htable := exact_iff_of_table (p := .mc7200 wiring) (t := din7200) (b := b)
    (fun _ => rfl) (by decide) rfl d set
  cases wiring <;> exact htable.trans (and_iff_left fun i hi _ => by rw [Ports.inLevel, hsame i hi])

/-- **When an input read is exact**, board by board. -/
theorem din_exact_iff (p : Product) (d : Driver) (b : Ports) (set : DioSet) :
    DinExact p d b set ↔ DinFits p b set.ioNumber := by
  cases p with
  | v2201 wiring =>
      have hshift : (Product.v2201 wiring).dioInb b set =
          (shiftCount set.ioNumber).map fun c =>
            b.inb (.v2201 wiring) v2201.addr >>> (4 + c) := shiftDown_inb _ 4 _
      rw [exact_iff_of_shift hshift]
      cases wiring with
      | commented => rfl
      | coded => exact and_iff_left fun i _ _ => rfl
  | v2400A =>
      have hmasked := maskedInb_eq .v2400A (show v2400A.doNum ≤ 24 by decide) b set
      exact exact_iff_of_masked (p := .v2400A) hmasked (fun _ _ => rfl) d
  | v2403 =>
      have hmasked := maskedInb_eq .v2403 (show v2403.doNum ≤ 24 by decide) b set
      exact exact_iff_of_masked (p := .v2403) hmasked (fun _ _ => rfl) d
  | v2416A =>
      have hmasked := maskedInb_eq .v2416A (show v2416A.doNum ≤ 24 by decide) b set
      exact exact_iff_of_masked (p := .v2416A) hmasked (fun _ _ => rfl) d
  | v2616A => exact v2616A_exact_iff d b set
  | da820 => exact da820_exact_iff d b set
  | da682B =>
      have hmasked := shiftDown_inb_zero (b.inb .da682B da682BDo.addr) set.ioNumber
      refine exact_iff_of_masked (p := .da682B) hmasked (fun i hi => ?_) d
      exact absurd hi (Nat.not_lt_zero i)
  | mc7130 wiring => exact mc7130_exact_iff wiring d b set
  | mc7200 wiring => exact mc7200_exact_iff wiring d b set

/-- A V2400A asked for all inputs shifts by -1. -/
theorem v2400A_all_lines_shift_by_minus_one :
    ¬ DinExact .v2400A (Product.v2400A.init ⟨fun _ => 0, fun _ => 0⟩) ⟨fun _ => 0, fun _ => 0⟩
      ⟨allPort, 0⟩ := by
  intro h
  obtain ⟨reply, hreply⟩ := h.completes
  cases hreply

end MoxaDrivers.Dio

import MoxaDrivers.Mxupcie.Board

/-!
# The set-up of the boards

What `mxupcie_initbrd` does to a board, turn by turn, and what holds of
`mxvar_table` once `mx_init` has gone through the boards: each port has its own
place on its own board.
-/

namespace MoxaDrivers.Mxupcie.Board

open MoxaDrivers.Bits MoxaDrivers.Mxser

/-! ## One board -/

/-- The mode that it sets; `none` where the call is refused. -/
def startMode (v2616A : Bool) (interface : Byte) (t : BoardType) : Option Byte :=
  if interfaceOk v2616A t (pickInterface interface t) then some (pickInterface interface t)
  else none

/-- The entry that it leaves. -/
def startInfo (v2616A : Bool) (interface : Byte) (t : BoardType) (b i n : Nat) : PortInfo :=
  { portInfo t b i n with uir := (startMode v2616A interface t).getD 0 }

theorem pickInterface_idem (interface : Byte) (t : BoardType) :
    pickInterface (pickInterface interface t) t = pickInterface interface t := by
  by_cases h : interface = 0
  · simp only [pickInterface, h, if_true]
    split
    · rfl
    · rfl
  · simp only [pickInterface, h, if_false]

theorem startMode_pick (v2616A : Bool) (interface : Byte) (t : BoardType) :
    startMode v2616A (pickInterface interface t) t = startMode v2616A interface t := by
  rw [startMode, pickInterface_idem, startMode]

/-- `mx_init_terminator` touches the GPIO register of its board alone. -/
theorem mxInitTerminator_frame (d : Driver) (info : PortInfo) :
    ∃ r : Iobar3, r.uir = (d.iobar3 info.iobar3Addr).uir ∧
      mxInitTerminator d info = d.setIobar3 info.iobar3Addr r := by
  have hself : d = d.setIobar3 info.iobar3Addr (d.iobar3 info.iobar3Addr) := by
    simp [Driver.setIobar3]
  simp only [mxInitTerminator]
  cases info.boardType with
  | cp118elA =>
      exact ⟨{ d.iobar3 info.iobar3Addr with gpioEn := 0xff, gpioOut := 0x00 }, rfl, rfl⟩
  | cp102e => exact ⟨_, rfl, hself⟩
  | cp102el => exact ⟨_, rfl, hself⟩
  | cp132el => exact ⟨_, rfl, hself⟩
  | cp114el => exact ⟨_, rfl, hself⟩
  | cp104elA => exact ⟨_, rfl, hself⟩
  | cp168elA => exact ⟨_, rfl, hself⟩

/-- What a turn does for port `i`: `r` is its board after it. -/
structure PortTurned (v2616A : Bool) (t : BoardType) (board b i : Nat) (d u : Driver)
    (r : Iobar3) : Prop where
  interface : u.interface = pickInterface d.interface t
  index : u.index = d.index
  m : u.m = d.m
  table : u.mxvarTable = Function.update d.mxvarTable (board * mxupciePortsPerBoard + i)
    (some (startInfo v2616A d.interface t b i (board * mxupciePortsPerBoard + i)))
  iobar3 : u.iobar3 = Function.update d.iobar3 b r
  uir : r.uir =
    match startMode v2616A d.interface t with
    | none => (d.iobar3 b).uir
    | some val => Function.update (d.iobar3 b).uir (uirReg t i)
        (uirVal (board * mxupciePortsPerBoard + i) ((d.iobar3 b).uir (uirReg t i)) val)

theorem initPort_turned (v2616A : Bool) (t : BoardType) (board b : Nat) (d : Driver) (i : Nat) :
    ∃ r, PortTurned v2616A t board b i d (initPort v2616A t board b d i) r := by
  obtain ⟨r, hr, hterm⟩ := mxInitTerminator_frame
    ((d.setInfo (board * mxupciePortsPerBoard + i)
      (portInfo t b i (board * mxupciePortsPerBoard + i))).setIobar3 b
      { d.iobar3 b with gpioEn := moxaGpioSetAllOutput })
    (portInfo t b i (board * mxupciePortsPerBoard + i))
  have hb : (portInfo t b i (board * mxupciePortsPerBoard + i)).iobar3Addr = b := rfl
  have ht : (portInfo t b i (board * mxupciePortsPerBoard + i)).boardType = t := rfl
  have hr' : r.uir = (d.iobar3 b).uir := by
    rw [hr, hb]
    simp [Driver.setIobar3]
  simp only [initPort]
  simp only [Driver.setInfo_iobar3, hterm, hb, mxSetInterface, mxSetInterfaceRead, ht, finish]
  cases hok : interfaceOk v2616A t (pickInterface d.interface t) with
  | false =>
      refine ⟨r, ?_⟩
      constructor
      all_goals simp [Driver.setIobar3, Driver.setInfo, startInfo, startMode, hok, hr', portInfo]
  | true =>
      refine ⟨{ r with
        uir := Function.update r.uir (uirReg t i)
          (uirVal (board * mxupciePortsPerBoard + i) (r.uir (uirReg t i))
            (pickInterface d.interface t)) }, ?_⟩
      constructor
      all_goals simp [Driver.setIobar3, Driver.setInfo, Driver.write, startInfo, startMode, hok,
        hr', portInfo]

theorem mxupcieNumports_le (t : BoardType) : mxupcieNumports t ≤ mxupciePortsPerBoard := by
  cases t <;> decide

theorem mxupcieNumports_pos (t : BoardType) : 0 < mxupcieNumports t := by
  cases t <;> decide

/-- The ports of a board have different halves of UIR registers. -/
theorem uirReg_inj {t : BoardType} {i j : Nat} (hi : i < mxupcieNumports t)
    (hj : j < mxupcieNumports t) (hreg : uirReg t i = uirReg t j) (hpar : i % 2 = j % 2) :
    i = j := by
  have hall : ∀ i < mxupcieNumports t, ∀ j < mxupcieNumports t,
      uirReg t i = uirReg t j → i % 2 = j % 2 → i = j := by
    cases t <;> decide
  exact hall i hi j hj hreg hpar

theorem port_mod_two (board i : Nat) : (board * mxupciePortsPerBoard + i) % 2 = i % 2 := by
  show (board * 8 + i) % 2 = i % 2
  omega

theorem portInfo_sameUir {t : BoardType} {board b i j : Nat} (hi : i < mxupcieNumports t)
    (hj : j < mxupcieNumports t)
    (h : SameUir (portInfo t b i (board * mxupciePortsPerBoard + i))
      (portInfo t b j (board * mxupciePortsPerBoard + j))) : i = j := by
  obtain ⟨-, hreg, hpar⟩ := h
  refine uirReg_inj hi hj hreg ?_
  rw [← port_mod_two board i, ← port_mod_two board j]
  exact hpar

/-- What a turn does to the mode of port `j` of its board. -/
theorem PortTurned.mode {v2616A : Bool} {t : BoardType} {board b i j : Nat} {d u : Driver}
    {r : Iobar3} (h : PortTurned v2616A t board b i d u r) (hi : i < mxupcieNumports t)
    (hj : j < mxupcieNumports t) :
    u.mode (portInfo t b j (board * mxupciePortsPerBoard + j)) =
      if j = i then (startMode v2616A d.interface t).getD
        (d.mode (portInfo t b j (board * mxupciePortsPerBoard + j)))
      else d.mode (portInfo t b j (board * mxupciePortsPerBoard + j)) := by
  have hr : (u.iobar3 b) = r := by rw [h.iobar3, Function.update_self]
  have huir := h.uir
  cases hstart : startMode v2616A d.interface t with
  | none =>
      rw [hstart] at huir
      rw [Driver.mode_congr (show (u.iobar3 b).uir = (d.iobar3 b).uir by rw [hr, huir])]
      simp
  | some val =>
      rw [hstart] at huir
      have hval : val &&& modeMask = val := by
        simp only [startMode] at hstart
        split at hstart
        · rename_i hok
          cases hstart
          exact interfaceOk_fits hok
        · cases hstart
      -- the board is as after the register write of the call
      have hwrite : (u.iobar3 b).uir = ((d.write (.uir b (uirReg t i)
          (uirVal (board * mxupciePortsPerBoard + i) ((d.iobar3 b).uir (uirReg t i))
            val))).iobar3 b).uir := by
        rw [hr, huir]
        simp [Driver.write, Driver.setIobar3]
      rw [Driver.mode_congr (e := portInfo t b j (board * mxupciePortsPerBoard + j)) hwrite]
      by_cases hji : j = i
      · rw [if_pos hji, hji]
        exact mode_write_self d (portInfo t b i (board * mxupciePortsPerBoard + i)) hval _
      · rw [if_neg hji]
        refine mode_write_other d (e := portInfo t b i (board * mxupciePortsPerBoard + i)) hval ?_
        exact fun hsame => hji (portInfo_sameUir hi hj hsame).symm

/-- What the first `k` turns do. -/
structure PortsTurned (v2616A : Bool) (t : BoardType) (board b k : Nat) (d u : Driver) :
    Prop where
  interface : u.interface = if k = 0 then d.interface else pickInterface d.interface t
  index : u.index = d.index
  m : u.m = d.m
  table_new : ∀ i < k, u.mxvarTable (board * mxupciePortsPerBoard + i) =
    some (startInfo v2616A d.interface t b i (board * mxupciePortsPerBoard + i))
  table_old : ∀ n, (∀ i < k, n ≠ board * mxupciePortsPerBoard + i) →
    u.mxvarTable n = d.mxvarTable n
  others : ∀ a ≠ b, u.iobar3 a = d.iobar3 a
  mode : ∀ i < mxupcieNumports t, u.mode (portInfo t b i (board * mxupciePortsPerBoard + i)) =
    if i < k then (startMode v2616A d.interface t).getD
      (d.mode (portInfo t b i (board * mxupciePortsPerBoard + i)))
    else d.mode (portInfo t b i (board * mxupciePortsPerBoard + i))

theorem portsTurned (v2616A : Bool) (t : BoardType) (board b : Nat) (d : Driver) :
    ∀ k ≤ mxupcieNumports t, PortsTurned v2616A t board b k d
      ((List.range k).foldl (initPort v2616A t board b) d) := by
  intro k
  induction k with
  | zero =>
      intro _
      exact ⟨rfl, rfl, rfl, fun i hi => absurd hi (Nat.not_lt_zero i), fun _ _ => rfl,
        fun _ _ => rfl, fun i _ => by simp⟩
  | succ k ih =>
      intro hk
      have hprev := ih (by omega)
      rw [List.range_succ, List.foldl_append, List.foldl_cons, List.foldl_nil]
      generalize (List.range k).foldl (initPort v2616A t board b) d = u at hprev
      obtain ⟨r, hturn⟩ := initPort_turned v2616A t board b u k
      -- the first turn has settled `interface` for the others
      have hstart : startMode v2616A u.interface t = startMode v2616A d.interface t := by
        rw [hprev.interface]
        split
        · rfl
        · exact startMode_pick v2616A d.interface t
      constructor
      case interface =>
        rw [hturn.interface, hprev.interface, if_neg (Nat.succ_ne_zero k)]
        split
        · rfl
        · exact pickInterface_idem d.interface t
      case index => rw [hturn.index, hprev.index]
      case m => rw [hturn.m, hprev.m]
      case table_new =>
        intro i hi
        rw [hturn.table]
        by_cases hik : i = k
        · rw [hik, Function.update_self]
          simp only [startInfo, hstart]
        · rw [Function.update_of_ne (by omega)]
          exact hprev.table_new i (by omega)
      case table_old =>
        intro n hn
        rw [hturn.table, Function.update_of_ne (hn k (Nat.lt_succ_self k))]
        exact hprev.table_old n fun i hi => hn i (by omega)
      case others =>
        intro a ha
        rw [hturn.iobar3, Function.update_of_ne ha]
        exact hprev.others a ha
      case mode =>
        intro i hi
        rw [hturn.mode (by omega) hi, hstart, hprev.mode i hi]
        grind

theorem mxupcieInitbrd_turned (v2616A : Bool) (t : BoardType) (board b : Nat) (d : Driver) :
    PortsTurned v2616A t board b (mxupcieNumports t) d
      (mxupcieInitbrd v2616A t board b d) :=
  portsTurned v2616A t board b d (mxupcieNumports t) (Nat.le_refl _)

/-- Where an entry is from once a board is set up. -/
theorem PortsTurned.entry_cases {v2616A : Bool} {t : BoardType} {board b k : Nat}
    {d u : Driver} (h : PortsTurned v2616A t board b k d u) {n : Nat} {e : PortInfo}
    (he : u.mxvarTable n = some e) :
    (∃ i < k, n = board * mxupciePortsPerBoard + i ∧
      e = startInfo v2616A d.interface t b i (board * mxupciePortsPerBoard + i)) ∨
    d.mxvarTable n = some e := by
  by_cases hn : ∃ i < k, n = board * mxupciePortsPerBoard + i
  · obtain ⟨i, hi, rfl⟩ := hn
    rw [h.table_new i hi] at he
    exact .inl ⟨i, hi, rfl, (Option.some.inj he).symm⟩
  · rw [h.table_old n fun i hi heq => hn ⟨i, hi, heq⟩] at he
    exact .inr he

/-! ## What holds of the table -/

/-- An entry belongs to its port, to a place on its board and to a board that
has been found. -/
structure EntryOk (index n : Nat) (e : PortInfo) : Prop where
  port : e.port = n
  place : n % mxupciePortsPerBoard < mxupcieNumports e.boardType
  uirAddr : e.uirAddr = uirReg e.boardType (n % mxupciePortsPerBoard)
  found : e.iobar3Addr < index

/-- Entries with one I/O region are of one board: its type and its slot. A slot
may have entries of several boards, as one that is refused leaves its own. -/
structure TableOk (d : Driver) : Prop where
  entry : ∀ n e, d.mxvarTable n = some e → EntryOk d.index n e
  board : ∀ n q e f, d.mxvarTable n = some e → d.mxvarTable q = some f →
    e.iobar3Addr = f.iobar3Addr →
    e.boardType = f.boardType ∧ n / mxupciePortsPerBoard = q / mxupciePortsPerBoard

/-- Two ports of one board have different places on it. -/
theorem TableOk.place_inj {d : Driver} (h : TableOk d) {n q : Nat} {e f : PortInfo}
    (he : d.mxvarTable n = some e) (hf : d.mxvarTable q = some f)
    (hb : e.iobar3Addr = f.iobar3Addr)
    (hp : n % mxupciePortsPerBoard = q % mxupciePortsPerBoard) : n = q := by
  have hslot := (h.board n q e f he hf hb).2
  rw [← Nat.div_add_mod n mxupciePortsPerBoard, ← Nat.div_add_mod q mxupciePortsPerBoard,
    hslot, hp]

/-- Two ports never have the same half of one register. -/
theorem TableOk.sameUir {d : Driver} (h : TableOk d) {n q : Nat} {e f : PortInfo}
    (he : d.mxvarTable n = some e) (hf : d.mxvarTable q = some f) (hs : SameUir e f) :
    n = q := by
  obtain ⟨hb, hreg, hpar⟩ := hs
  have hE := h.entry n e he
  have hF := h.entry q f hf
  have htype := (h.board n q e f he hf hb).1
  have hplace := hE.place
  rw [hE.port, hF.port] at hpar
  rw [hE.uirAddr, hF.uirAddr, htype] at hreg
  rw [htype] at hplace
  refine h.place_inj he hf hb (uirReg_inj hplace hF.place hreg ?_)
  show n % 8 % 2 = q % 8 % 2
  omega

theorem driver0_tableOk (interface : Byte) (iobar3 : Nat → Iobar3) :
    TableOk (driver0 interface iobar3) :=
  ⟨fun _ _ he => absurd he nofun, fun _ _ _ _ he => absurd he nofun⟩

/-- A board that is set up has an I/O region that no entry has yet. -/
theorem PortsTurned.tableOk {v2616A : Bool} {t : BoardType} {board b k : Nat} {d u : Driver}
    (h : PortsTurned v2616A t board b k d u) (hk : k ≤ mxupcieNumports t)
    (hd : TableOk d) (hb : ∀ n e, d.mxvarTable n = some e → e.iobar3Addr < b)
    (hindex : b < u.index) : TableOk u := by
  have hle := mxupcieNumports_le t
  have hplace (i : Nat) (hi : i < k) :
      (board * mxupciePortsPerBoard + i) % mxupciePortsPerBoard = i ∧
      (board * mxupciePortsPerBoard + i) / mxupciePortsPerBoard = board := by
    have hi8 : i < 8 := by
      have : mxupciePortsPerBoard = 8 := rfl
      omega
    show (board * 8 + i) % 8 = i ∧ (board * 8 + i) / 8 = board
    omega
  constructor
  · intro n e he
    rcases h.entry_cases he with ⟨i, hi, rfl, rfl⟩ | hold
    · exact ⟨rfl, by rw [(hplace i hi).1]; exact Nat.lt_of_lt_of_le hi hk,
        by rw [(hplace i hi).1]; rfl, hindex⟩
    · have hE := hd.entry n e hold
      exact ⟨hE.port, hE.place, hE.uirAddr, Nat.lt_trans (hb n e hold) hindex⟩
  · intro n q e f he hf hbar
    rcases h.entry_cases he with ⟨i, hi, rfl, rfl⟩ | heold
    · rcases h.entry_cases hf with ⟨j, hj, rfl, rfl⟩ | hfold
      · exact ⟨rfl, by rw [(hplace i hi).2, (hplace j hj).2]⟩
      · exact absurd hbar.symm (Nat.ne_of_lt (hb q f hfold))
    · rcases h.entry_cases hf with ⟨j, hj, rfl, rfl⟩ | hfold
      · exact absurd hbar (Nat.ne_of_lt (hb n e heold))
      · exact hd.board n q e f heold hfold hbar

/-- A turn either goes past a board or sets it up. -/
theorem turn_cases (v2616A : Bool) (d : Driver) (f : Found) :
    ((d.m ≥ mxupcieBoards ∨ f.enables = false) ∧
      turn v2616A d f = { d with index := d.index + 1 }) ∨
    (d.m < mxupcieBoards ∧ f.enables = true ∧ ∃ u,
      PortsTurned v2616A f.boardType d.m d.index (mxupcieNumports f.boardType)
        { d with index := d.index + 1 } u ∧
      turn v2616A d f = if f.irqGranted then { u with m := u.m + 1 } else u) := by
  by_cases h : d.m ≥ mxupcieBoards ∨ f.enables = false
  · exact .inl ⟨h, by simp only [turn, if_pos h]⟩
  · refine .inr ⟨?_, ?_, _, mxupcieInitbrd_turned _ _ _ _ _, ?_⟩
    · exact Nat.lt_of_not_le fun hm => h (.inl hm)
    · cases hen : f.enables with
      | true => rfl
      | false => exact absurd (.inr hen) h
    · simp only [turn, if_neg h]

theorem turn_tableOk (v2616A : Bool) {d : Driver} (f : Found) (h : TableOk d) :
    TableOk (turn v2616A d f) := by
  have hcount (u : Driver) (m : Nat) (hu : TableOk u) : TableOk { u with m := m } :=
    ⟨hu.entry, hu.board⟩
  have hfound : TableOk { d with index := d.index + 1 } := by
    refine ⟨fun n e he => ?_, h.board⟩
    have hE := h.entry n e he
    exact ⟨hE.port, hE.place, hE.uirAddr, Nat.lt_succ_of_lt hE.found⟩
  rcases turn_cases v2616A d f with ⟨-, hturn⟩ | ⟨-, -, u, hset, hturn⟩
  · rw [hturn]
    exact hfound
  · have hu : TableOk u := by
      refine hset.tableOk (Nat.le_refl _) hfound (fun n e he => (h.entry n e he).found) ?_
      rw [hset.index]
      exact Nat.lt_succ_self _
    rw [hturn]
    cases f.irqGranted with
    | true => exact hcount u _ hu
    | false => exact hu

/-- What the turns keep holds once `mx_init` has gone through the boards. -/
theorem mxInit_invariant {v2616A : Bool} {I : Driver → Prop}
    (hturn : ∀ d f, I d → I (turn v2616A d f)) {interface : Byte} {iobar3 : Nat → Iobar3}
    (h0 : I (driver0 interface iobar3)) (found : List Found) :
    I (mxInit v2616A interface iobar3 found) :=
  List.foldlRecOn found (turn v2616A) h0 fun d hd f _ => hturn d f hd

theorem mxInit_tableOk (v2616A : Bool) (interface : Byte) (iobar3 : Nat → Iobar3)
    (found : List Found) : TableOk (mxInit v2616A interface iobar3 found) :=
  mxInit_invariant (fun _ f hd => turn_tableOk v2616A f hd) (driver0_tableOk interface iobar3)
    found

/-! ## What the calls record -/

/-- Two entries have the same registers. -/
structure SamePlace (f e : PortInfo) : Prop where
  port : f.port = e.port
  iobar3Addr : f.iobar3Addr = e.iobar3Addr
  uirAddr : f.uirAddr = e.uirAddr
  boardType : f.boardType = e.boardType

theorem SamePlace.rfl {e : PortInfo} : SamePlace e e := ⟨Eq.refl _, Eq.refl _, Eq.refl _, Eq.refl _⟩

/-- What a call records of a port is not about its registers. -/
theorem recorded_eq (d : Driver) (r : Request) (e : PortInfo) :
    ∃ f, SamePlace f e ∧ recorded d r e = d.setInfo r.port f := by
  simp only [recorded]
  split
  · exact ⟨{ e with uir := r.val }, ⟨rfl, rfl, rfl, rfl⟩, rfl⟩
  · exact ⟨{ e with terminatorFlag := r.val }, ⟨rfl, rfl, rfl, rfl⟩, rfl⟩

@[simp] theorem recorded_iobar3 (d : Driver) (r : Request) (e : PortInfo) :
    (recorded d r e).iobar3 = d.iobar3 := by
  obtain ⟨f, -, hrec⟩ := recorded_eq d r e
  rw [hrec, Driver.setInfo_iobar3]

/-- The entries afterwards are those before, as far as their registers go. -/
theorem recorded_entry {d : Driver} {r : Request} {e : PortInfo}
    (he : d.mxvarTable r.port = some e) {q : Nat} {g : PortInfo}
    (hg : (recorded d r e).mxvarTable q = some g) :
    ∃ g', d.mxvarTable q = some g' ∧ SamePlace g g' := by
  obtain ⟨f, hf, hrec⟩ := recorded_eq d r e
  rw [hrec] at hg
  by_cases hq : q = r.port
  · subst hq
    rw [Driver.setInfo_self] at hg
    cases hg
    exact ⟨e, he, hf⟩
  · rw [Driver.setInfo_of_ne d f hq] at hg
    exact ⟨g, hg, .rfl⟩

theorem recorded_of_entry {d : Driver} {r : Request} {e : PortInfo}
    (he : d.mxvarTable r.port = some e) {q : Nat} {g : PortInfo}
    (hg : d.mxvarTable q = some g) :
    ∃ g', (recorded d r e).mxvarTable q = some g' ∧ SamePlace g' g := by
  obtain ⟨f, hf, hrec⟩ := recorded_eq d r e
  rw [hrec]
  by_cases hq : q = r.port
  · subst hq
    cases he.symm.trans hg
    exact ⟨f, Driver.setInfo_self d r.port f, hf⟩
  · exact ⟨g, (Driver.setInfo_of_ne d f hq).trans hg, .rfl⟩

theorem TableOk.recorded {d : Driver} (h : TableOk d) {r : Request} {e : PortInfo}
    (he : d.mxvarTable r.port = some e) : TableOk (recorded d r e) := by
  have hindex : (Board.recorded d r e).index = d.index := by
    obtain ⟨f, -, hrec⟩ := recorded_eq d r e
    rw [hrec]
    rfl
  constructor
  · intro q g hg
    obtain ⟨g', hg', hs⟩ := recorded_entry he hg
    have hE := h.entry q g' hg'
    exact ⟨hs.port.trans hE.port, by rw [hs.boardType]; exact hE.place,
      by rw [hs.uirAddr, hs.boardType]; exact hE.uirAddr,
      by rw [hs.iobar3Addr, hindex]; exact hE.found⟩
  · intro q q' g k hg hk hbar
    obtain ⟨g', hg', hs⟩ := recorded_entry he hg
    obtain ⟨k', hk', hs'⟩ := recorded_entry he hk
    rw [hs.boardType, hs'.boardType]
    exact h.board q q' g' k' hg' hk' (by rw [← hs.iobar3Addr, ← hs'.iobar3Addr, hbar])

theorem TableOk.write {d : Driver} (h : TableOk d) (w : RegWrite) : TableOk (d.write w) := by
  cases w with
  | uir b a v => exact ⟨h.entry, h.board⟩
  | gpioOut b v => exact ⟨h.entry, h.board⟩

end MoxaDrivers.Mxupcie.Board

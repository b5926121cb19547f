import MoxaDrivers.Lib.Machine
import MoxaDrivers.Mxupcie.BoardSetup

/-!
# The interface mode that a port starts with

The module parameter `interface` is one variable for all boards. Where it is 0,
`mxupcie_initbrd` writes the default of the board it is at into it, so a
CP132EL leaves its RS-485 mode as the parameter of the boards after it.
-/

namespace MoxaDrivers.Mxupcie.Board

open MoxaDrivers.Bits MoxaDrivers.Mxser
open MoxaDrivers.Machine

/-! ## What a port should start with -/

/-- The mode that the loaded parameter asks for on a board. -/
def ownInterface (param : Byte) (t : BoardType) : Byte :=
  if param ≠ 0 then param
  else if t = .cp132el then moxaUirRs4852w
  else moxaUirRs232

/-- A port starts with the mode that its board and the parameter ask for; where
its board does not take that mode, the record says 0 and the register has what
the board came with, `hw`. -/
structure StartsOwn (v2616A : Bool) (param : Byte) (hw : Nat → Iobar3) (d : Driver)
    (e : PortInfo) : Prop where
  uir : e.uir =
    if interfaceOk v2616A e.boardType (ownInterface param e.boardType) then
      ownInterface param e.boardType
    else 0
  mode : d.mode e =
    if interfaceOk v2616A e.boardType (ownInterface param e.boardType) then
      ownInterface param e.boardType
    else (driver0 param hw).mode e

/-- All ports that are set up do. -/
def AllStartOwn (v2616A : Bool) (param : Byte) (hw : Nat → Iobar3) (d : Driver) : Prop :=
  ∀ n e, d.mxvarTable n = some e → StartsOwn v2616A param hw d e

/-! ## The probing, with a record of the boards set up -/

structure Probing where
  driver : Driver
  initbrds : List BoardType

def probing0 (param : Byte) (hw : Nat → Iobar3) : Probing := ⟨driver0 param hw, []⟩

/-- The turn of `mx_init` for this board comes to `mxupcie_initbrd`. -/
def Probing.SetsUp (s : Probing) (f : Found) : Prop :=
  s.driver.m < mxupcieBoards ∧ f.enables = true

instance (s : Probing) (f : Found) : Decidable (s.SetsUp f) :=
  inferInstanceAs (Decidable (_ ∧ _))

def probeStep (v2616A : Bool) (s : Probing) (f : Found) : Except Empty Probing :=
  .ok ⟨turn v2616A s.driver f, if s.SetsUp f then f.boardType :: s.initbrds else s.initbrds⟩

/-- With the parameter 0, a board other than a CP132EL that takes modes is not
set up after a CP132EL. -/
def NoneBefore (v2616A : Bool) (param : Byte) (s : Probing) (f : Found) : Prop :=
  s.SetsUp f → param = 0 → takesModes v2616A f.boardType = true →
    f.boardType ≠ .cp132el → .cp132el ∉ s.initbrds

/-! ## One turn -/

/-- How the probing has left the variable behind the parameter, and the boards
that it has not come to. -/
structure ParamKept (param : Byte) (hw : Nat → Iobar3) (s : Probing) : Prop where
  table : TableOk s.driver
  interface : s.driver.interface = param ∨
    (param = 0 ∧ s.driver.interface = moxaUirRs4852w ∧ .cp132el ∈ s.initbrds)
  seen : param = 0 → .cp132el ∈ s.initbrds → s.driver.interface = moxaUirRs4852w
  ahead : ∀ a, s.driver.index ≤ a → s.driver.iobar3 a = hw a

theorem probing0_paramKept (param : Byte) (hw : Nat → Iobar3) :
    ParamKept param hw (probing0 param hw) :=
  ⟨driver0_tableOk param hw, .inl rfl, fun _ h => absurd h List.not_mem_nil, fun _ _ => rfl⟩

theorem pickInterface_eq_own (param : Byte) (t : BoardType) :
    pickInterface param t = ownInterface param t := by
  by_cases h : param = 0
  · subst h
    cases t <;> rfl
  · rw [pickInterface, ownInterface, if_neg h, if_pos h]

theorem startMode_eq_own (v2616A : Bool) (param : Byte) (t : BoardType) :
    startMode v2616A param t =
      if interfaceOk v2616A t (ownInterface param t) then some (ownInterface param t)
      else none := by
  rw [startMode, pickInterface_eq_own]

/-- A board that takes no modes refuses them all. -/
theorem startMode_of_not_takesModes {v2616A : Bool} {t : BoardType} (interface : Byte)
    (h : takesModes v2616A t = false) : startMode v2616A interface t = none := by
  have hno : interfaceOk v2616A t (pickInterface interface t) = false := by
    cases hok : interfaceOk v2616A t (pickInterface interface t) with
    | false => rfl
    | true => rw [interfaceOk_takesModes hok] at h; cases h
  rw [startMode, hno]
  rfl

/-- After a CP132EL another one gets the same, and a board of another type that
takes modes gets the mode of the CP132EL. -/
theorem startMode_rs485 {v2616A : Bool} {t : BoardType} (h : takesModes v2616A t = true) :
    startMode v2616A moxaUirRs4852w t = some moxaUirRs4852w := by
  cases v2616A <;> cases t <;> first | rfl | cases h

theorem startMode_zero {v2616A : Bool} {t : BoardType} (h : takesModes v2616A t = true)
    (hne : t ≠ .cp132el) : startMode v2616A 0 t = some moxaUirRs232 := by
  cases v2616A <;> cases t <;> first | rfl | exact absurd rfl hne | cases h

/-- **A turn that meets the condition** starts its ports as the loaded
parameter asks. -/
theorem ParamKept.startMode_eq {v2616A : Bool} {param : Byte} {hw : Nat → Iobar3} {s : Probing}
    {f : Found} (hs : ParamKept param hw s) (hup : s.SetsUp f)
    (hc : NoneBefore v2616A param s f) :
    startMode v2616A s.driver.interface f.boardType =
      startMode v2616A param f.boardType := by
  rcases hs.interface with heq | ⟨hzero, heq, hmem⟩
  · rw [heq]
  · rw [heq, hzero]
    cases htakes : takesModes v2616A f.boardType with
    | false => rw [startMode_of_not_takesModes _ htakes, startMode_of_not_takesModes _ htakes]
    | true =>
        by_cases ht : f.boardType = .cp132el
        · rw [ht]
          rfl
        · exact absurd hmem (hc hup hzero htakes ht)

/-- Only a CP132EL makes another variable of the parameter, and only of 0. -/
theorem pickInterface_param (param : Byte) (t : BoardType) :
    pickInterface param t = param ∨
      (param = 0 ∧ pickInterface param t = moxaUirRs4852w ∧ t = .cp132el) := by
  rw [pickInterface]
  by_cases hzero : param = 0
  · rw [if_pos hzero]
    cases t with
    | cp132el => exact .inr ⟨hzero, rfl, rfl⟩
    | cp102e => exact .inl hzero.symm
    | cp102el => exact .inl hzero.symm
    | cp114el => exact .inl hzero.symm
    | cp104elA => exact .inl hzero.symm
    | cp168elA => exact .inl hzero.symm
    | cp118elA => exact .inl hzero.symm
  · rw [if_neg hzero]
    exact .inl rfl

theorem probeStep_paramKept {v2616A : Bool} {param : Byte} {hw : Nat → Iobar3}
    {s t : Probing} {f : Found} (hs : ParamKept param hw s)
    (hstep : probeStep v2616A s f = .ok t) : ParamKept param hw t := by
  cases hstep
  rcases turn_cases v2616A s.driver f with ⟨hpast, hturn⟩ | ⟨hm, hen, u, hset, hturn⟩
  · have hup : ¬ s.SetsUp f := by
      rintro ⟨hm, hen⟩
      rcases hpast with h | h
      · omega
      · rw [hen] at h; cases h
    refine ⟨turn_tableOk v2616A f hs.table, ?_, ?_, ?_⟩
    · simpa [hturn, if_neg hup] using hs.interface
    · simpa [hturn, if_neg hup] using hs.seen
    · intro a ha
      rw [hturn] at ha ⊢
      exact hs.ahead a (Nat.le_of_succ_le ha)
  · have hup : s.SetsUp f := ⟨hm, hen⟩
    have hframe : (turn v2616A s.driver f).interface = u.interface ∧
        (turn v2616A s.driver f).index = u.index ∧
        (turn v2616A s.driver f).iobar3 = u.iobar3 := by
      rw [hturn]
      split
      · exact ⟨rfl, rfl, rfl⟩
      · exact ⟨rfl, rfl, rfl⟩
    have hiface : u.interface = pickInterface s.driver.interface f.boardType := by
      rw [hset.interface, if_neg (Nat.ne_of_gt (mxupcieNumports_pos f.boardType))]
    refine ⟨turn_tableOk v2616A f hs.table, ?_, ?_, ?_⟩
    · simp only [hframe.1, hiface, if_pos hup, List.mem_cons]
      rcases hs.interface with heq | ⟨hzero, heq, hmem⟩
      · rw [heq]
        obtain hpick | ⟨hzero, hpick, hboard⟩ := pickInterface_param param f.boardType
        · exact .inl hpick
        · exact .inr ⟨hzero, hpick, .inl hboard.symm⟩
      · rw [heq]
        exact .inr ⟨hzero, rfl, .inr hmem⟩
    · intro hzero hmem
      simp only [if_pos hup, List.mem_cons] at hmem
      simp only [hframe.1, hiface]
      rcases hmem with hboard | hmem
      · rw [← hboard]
        rcases hs.interface with heq | ⟨-, heq, -⟩
        · rw [heq, hzero]
          rfl
        · rw [heq]
          rfl
      · rw [hs.seen hzero hmem]
        rfl
    · intro a ha
      simp only [hframe.2.1, hframe.2.2, hset.index] at ha ⊢
      rw [hset.others a (Nat.ne_of_gt (Nat.lt_of_succ_le ha))]
      exact hs.ahead a (Nat.le_of_succ_le ha)

/-- What a board starts its ports with, when its mode is the one asked for. -/
theorem startsOwn_of_turned {v2616A : Bool} {param : Byte} {hw : Nat → Iobar3} {t : BoardType}
    {board b : Nat} {d u : Driver} (hset : PortsTurned v2616A t board b (mxupcieNumports t) d u)
    (hmode : startMode v2616A d.interface t = startMode v2616A param t) (hhw : d.iobar3 b = hw b)
    {i : Nat} (hi : i < mxupcieNumports t) :
    StartsOwn v2616A param hw u
      (startInfo v2616A d.interface t b i (board * mxupciePortsPerBoard + i)) := by
  have hold : d.mode (portInfo t b i (board * mxupciePortsPerBoard + i)) =
      (driver0 param hw).mode (portInfo t b i (board * mxupciePortsPerBoard + i)) :=
    Driver.mode_congr (by rw [show (portInfo t b i _).iobar3Addr = b from rfl, hhw]; rfl)
  have hnew := hset.mode i hi
  rw [if_pos hi, hmode, startMode_eq_own, hold] at hnew
  constructor
  · show (startMode v2616A d.interface t).getD 0 = _
    rw [hmode, startMode_eq_own]
    show _ = if interfaceOk v2616A t (ownInterface param t) then _ else _
    split
    · rfl
    · rfl
  · refine Eq.trans (show _ = u.mode (portInfo t b i (board * mxupciePortsPerBoard + i)) from rfl)
      (hnew.trans ?_)
    show _ = if interfaceOk v2616A t (ownInterface param t) then _ else _
    split
    · rfl
    · rfl

/-- Ports of boards that were set up before keep their mode. -/
theorem StartsOwn.congr {v2616A : Bool} {param : Byte} {hw : Nat → Iobar3} {d u : Driver}
    {e : PortInfo} (h : StartsOwn v2616A param hw d e)
    (hb : u.iobar3 e.iobar3Addr = d.iobar3 e.iobar3Addr) : StartsOwn v2616A param hw u e :=
  ⟨h.uir, (Driver.mode_congr (by rw [hb])).trans h.mode⟩

theorem probeStep_allStartOwn {v2616A : Bool} {param : Byte} {hw : Nat → Iobar3}
    {s t : Probing} {f : Found} (hs : ParamKept param hw s)
    (hall : AllStartOwn v2616A param hw s.driver) (hc : NoneBefore v2616A param s f)
    (hstep : probeStep v2616A s f = .ok t) : AllStartOwn v2616A param hw t.driver := by
  cases hstep
  rcases turn_cases v2616A s.driver f with ⟨-, hturn⟩ | ⟨hm, hen, u, hset, hturn⟩
  · intro n e he
    simp only [hturn] at he ⊢
    exact (hall n e he).congr rfl
  · have hu : AllStartOwn v2616A param hw u := by
      intro n e he
      rcases hset.entry_cases he with ⟨i, hi, rfl, rfl⟩ | hold
      · exact startsOwn_of_turned hset (hs.startMode_eq ⟨hm, hen⟩ hc)
          (hs.ahead _ (Nat.le_refl _)) hi
      · refine (hall n e hold).congr (hset.others _ ?_)
        exact Nat.ne_of_lt (hs.table.entry n e hold).found
    intro n e he
    simp only [hturn] at he ⊢
    split at he
    · rename_i hirq
      rw [if_pos hirq]
      exact (hu n e he).congr rfl
    · rename_i hirq
      rw [if_neg hirq]
      exact hu n e he

/-- **A turn that does not meet it** starts the first port of the board in the
mode of the CP132EL. -/
theorem probeStep_not_own {v2616A : Bool} {param : Byte} {hw : Nat → Iobar3}
    {s : Probing} {f : Found} (hs : ParamKept param hw s) (hc : ¬ NoneBefore v2616A param s f) :
    ∃ t, probeStep v2616A s f = .ok t ∧ ¬ AllStartOwn v2616A param hw t.driver := by
  simp only [NoneBefore, Classical.not_imp, not_not] at hc
  obtain ⟨⟨hm, hen⟩, hzero, htakes, hne, hmem⟩ := hc
  refine ⟨_, rfl, fun hall => ?_⟩
  rcases turn_cases v2616A s.driver f with ⟨hpast, -⟩ | ⟨-, -, u, hset, hturn⟩
  · rcases hpast with h | h
    · omega
    · rw [hen] at h; cases h
  · have htable : (turn v2616A s.driver f).mxvarTable = u.mxvarTable := by
      rw [hturn]
      split
      · rfl
      · rfl
    have hentry := hset.table_new 0 (mxupcieNumports_pos f.boardType)
    rw [← htable] at hentry
    have hmode := (hall _ _ hentry).uir
    have hown := startMode_eq_own v2616A param f.boardType
    rw [hzero, startMode_zero htakes hne] at hown
    simp only [startInfo, portInfo, hs.seen hzero hmem, startMode_rs485 htakes, hzero] at hmode
    split at hown
    · rename_i hok
      rw [if_pos hok, ← Option.some.inj hown] at hmode
      cases hmode
    · cases hown

/-- **The mode a port starts with** is that of its own board and the loaded
parameter exactly as long as, with the parameter 0, no board of another type
that takes modes is set up after a CP132EL. -/
theorem interface_own_iff (v2616A : Bool) (param : Byte) (hw : Nat → Iobar3)
    (found : List Found) :
    Always (probeStep v2616A) (fun s => AllStartOwn v2616A param hw s.driver)
        (probing0 param hw) found ↔
      Guarded (probeStep v2616A) (NoneBefore v2616A param) (probing0 param hw) found := by
  refine always_iff_guarded
    (J := fun s => ParamKept param hw s ∧ AllStartOwn v2616A param hw s.driver)
    (fun s hs => hs.2) ?_ (fun s f hs hc => probeStep_not_own hs.1 hc)
    ⟨probing0_paramKept param hw, fun n e he => absurd he nofun⟩
  intro s f t hs hc hstep
  exact ⟨probeStep_paramKept hs.1 hstep, probeStep_allStartOwn hs.1 hs.2 hc hstep⟩

/-- Boards as they come out of reset. -/
def resetBoards : Nat → Iobar3 := fun _ => ⟨fun _ => 0, 0, 0⟩

/-- A CP132EL and then a CP114EL, with nothing on the command line: the RS-232
ports of the second start as two-wire RS-485. -/
theorem interface_not_own :
    ¬ Always (probeStep false) (fun s => AllStartOwn false 0 resetBoards s.driver)
      (probing0 0 resetBoards)
      [⟨.cp132el, true, true⟩, ⟨.cp114el, true, true⟩] := by
  intro h
  have hlast := h.last (t := ⟨turn false (turn false (driver0 0 resetBoards)
    ⟨.cp132el, true, true⟩) ⟨.cp114el, true, true⟩, [.cp114el, .cp132el]⟩) rfl
  have hport := (hlast 8 ⟨8, 1, 0, .cp114el, moxaUirRs4852w, 0⟩ (by decide)).uir
  exact absurd hport (by decide)

end MoxaDrivers.Mxupcie.Board

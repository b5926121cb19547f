import Mathlib.Data.List.Pairwise
import MoxaDrivers.Lib.Machine
import MoxaDrivers.Mxser.Probe

/-!
# Operating modes across boards

`MOXA_SET_OP_MODE` puts two bits of mode into the register at
`info->opmode_ioaddr`, four ports to a register. Only a board with the MU860
chip has such registers, and only its set-up writes `opmode_ioaddr`; the record
it is taken from is not cleared between boards, so a later board of another
kind has the addresses of an earlier one, or zero. The ioctl does not ask.
-/

namespace MoxaDrivers.Mxser.Probe

open MoxaDrivers.Bits
open MoxaDrivers.Machine

/-! ## The ioctls -/

/-- The driver when boards are in use: its entries, the I/O ports, and the I/O
ports that the ioctls have written so far, the last one first. -/
structure OpModes where
  mxvarTable : Nat → MxvarEntry
  io : Nat → Byte
  outbs : List Nat

def rs232Mode : Word := 0
def rs4852WireMode : Word := 1
def rs422Mode : Word := 2
def rs4854WireMode : Word := 3
def opModeMask : Byte := 3

/-- `ModeMask`. -/
def modeMask : Nat → Byte
  | 0 => 0xfc
  | 1 => 0xf3
  | 2 => 0xcf
  | _ => 0x3f

/-- `mxser_open` refuses a port without a base. -/
def OpModes.Openable (s : OpModes) (n : Nat) : Prop := (s.mxvarTable n).base ≠ 0

instance (s : OpModes) (n : Nat) : Decidable (s.Openable n) :=
  inferInstanceAs (Decidable (_ ≠ _))

/-- `MOXA_SET_OP_MODE`. -/
def mxserSetOpMode (s : OpModes) (n : Nat) (opmode : Word) : Except Errno OpModes :=
  let info := s.mxvarTable n
  let p := info.port % 4
  if ¬ s.Openable n then .error .enodev
  else if opmode ≠ rs232Mode ∧ opmode ≠ rs4852WireMode ∧ opmode ≠ rs422Mode ∧
      opmode ≠ rs4854WireMode then .error .efault
  else
    let val := s.io info.opmodeIoaddr &&& modeMask p ||| opmode.setWidth 8 <<< (p * 2)
    .ok { s with io := outb s.io val info.opmodeIoaddr, outbs := info.opmodeIoaddr :: s.outbs }

/-- `MOXA_GET_OP_MODE`. -/
def mxserGetOpMode (s : OpModes) (n : Nat) : Word :=
  let info := s.mxvarTable n
  let p := info.port % 4
  (s.io info.opmodeIoaddr >>> (p * 2) &&& opModeMask).setWidth 32

inductive OpModeOp where
  | set (n : Nat) (opmode : Word)
  | get (n : Nat)

/-- A call that is refused changes nothing. -/
def opModeStep (s : OpModes) : OpModeOp → Except Errno OpModes
  | .set n opmode =>
      match mxserSetOpMode s n opmode with
      | .ok t => .ok t
      | .error _ => .ok s
  | .get _ => .ok s

/-! ## What isolation asks -/

/-- The op-mode registers of the board that a port is on. -/
def MxvarEntry.opModeRegs (e : MxvarEntry) : List Nat :=
  if e.isMoxaMustChipFlag = moxaMustMu860Hwid then [e.vector + 4, e.vector + 0x0c] else []

/-- The register of its board that has the mode of the port, for a board that
has such registers. -/
def MxvarEntry.ownReg (e : MxvarEntry) : Option Nat :=
  if e.isMoxaMustChipFlag = moxaMustMu860Hwid then
    some (opmodeReg e.vector (e.port % mxserPortsPerBoard))
  else none

/-- The mode bits that the hardware holds for a port. -/
def OpModes.modeBits (s : OpModes) (n : Nat) : Option Byte :=
  (s.mxvarTable n).ownReg.map fun a =>
    field (s.io a) ((s.mxvarTable n).port % 4 * 2) opModeMask

/-- What a successful `MOXA_SET_OP_MODE` of `opmode` on port `n` may do. -/
structure SetIsolated (s : OpModes) (n : Nat) (opmode : Word) (t : OpModes) : Prop where
  modes : ∀ q ≠ n, s.Openable q → t.modeBits q = s.modeBits q
  writes : ∃ as, t.outbs = as ++ s.outbs ∧ ∀ a ∈ as, a ∈ (s.mxvarTable n).opModeRegs
  get_self : mxserGetOpMode t n = opmode
  get_others : ∀ q ≠ n, s.Openable q → mxserGetOpMode t q = mxserGetOpMode s q

/-- What any call may do. -/
def OpModeIsolated (s : OpModes) (op : OpModeOp) (t : OpModes) : Prop :=
  match op with
  | .set n opmode => (∃ u, mxserSetOpMode s n opmode = .ok u) → SetIsolated s n opmode t
  | .get _ => t = s

/-- Two entries have the same two bits of the same register. -/
def SameField (e f : MxvarEntry) : Prop :=
  e.opmodeIoaddr = f.opmodeIoaddr ∧ e.port % 4 = f.port % 4

/-- A successful `MOXA_SET_OP_MODE` is on a port of an MU860 board, and no other
port was left with the same bits of the same register, unless the mode is
already set. -/
def OwnMode (s : OpModes) (op : OpModeOp) : Prop :=
  match op with
  | .set n opmode => (∃ u, mxserSetOpMode s n opmode = .ok u) →
      (s.mxvarTable n).isMoxaMustChipFlag = moxaMustMu860Hwid ∧
      ∀ q ≠ n, s.Openable q → SameField (s.mxvarTable q) (s.mxvarTable n) →
        mxserGetOpMode s n = opmode
  | .get _ => True

/-! ## One call -/

/-- What probing leaves in the entries: an MU860 port has its own register, and
two of them never have the same bits of one register. -/
structure ModesOk (table : Nat → MxvarEntry) : Prop where
  port : ∀ n, (table n).base ≠ 0 → (table n).port = n
  own : ∀ n, (table n).isMoxaMustChipFlag = moxaMustMu860Hwid →
    (table n).opmodeIoaddr = opmodeReg (table n).vector (n % mxserPortsPerBoard)
  apart : ∀ n q, n ≠ q → (table n).isMoxaMustChipFlag = moxaMustMu860Hwid →
    (table q).isMoxaMustChipFlag = moxaMustMu860Hwid →
    (table n).opmodeIoaddr = (table q).opmodeIoaddr → n % 4 ≠ q % 4

theorem modeMask_eq {p : Nat} (hp : p < 4) : modeMask p = ~~~(opModeMask <<< (p * 2)) := by
  match p, hp with
  | 0, _ => rfl
  | 1, _ => rfl
  | 2, _ => rfl
  | 3, _ => rfl

theorem opModeMask_fits {p : Nat} (hp : p < 4) :
    opModeMask <<< (p * 2) >>> (p * 2) = opModeMask := by
  have hall : ∀ p < 4, opModeMask <<< (p * 2) >>> (p * 2) = opModeMask := by decide
  exact hall p hp

theorem opModeMask_disjoint {p q : Nat} (hp : p < 4) (hq : q < 4) (hne : p ≠ q) :
    opModeMask <<< (p * 2) &&& opModeMask <<< (q * 2) = 0 := by
  have hall : ∀ p < 4, ∀ q < 4, p ≠ q →
      opModeMask <<< (p * 2) &&& opModeMask <<< (q * 2) = 0 := by decide
  exact hall p hp q hq hne

/-- Where the mode of an entry stands in its register. -/
def MxvarEntry.shift (e : MxvarEntry) : Nat := e.port % 4 * 2

theorem MxvarEntry.port_lt (e : MxvarEntry) : e.port % 4 < 4 := Nat.mod_lt _ (by decide)

/-- The mode `v` goes into the two bits of port `n`, and the rest of the register
stays. -/
def OpModes.putMode (s : OpModes) (n : Nat) (v : Byte) : OpModes :=
  let info := s.mxvarTable n
  { s with
    io := outb s.io (setField (s.io info.opmodeIoaddr) info.shift opModeMask v) info.opmodeIoaddr
    outbs := info.opmodeIoaddr :: s.outbs }

/-- What a `MOXA_SET_OP_MODE` that is not refused does. -/
theorem mxserSetOpMode_ok {s t : OpModes} {n : Nat} {opmode : Word}
    (h : mxserSetOpMode s n opmode = .ok t) :
    s.Openable n ∧ ∃ v : Byte, v &&& opModeMask = v ∧ v.setWidth 32 = opmode ∧
      t = s.putMode n v := by
  simp only [mxserSetOpMode] at h
  split at h
  · cases h
  · rename_i hopen
    split at h
    · cases h
    · rename_i hmode
      refine ⟨not_not.mp hopen, opmode.setWidth 8, ?_⟩
      have hmodes : opmode = 0 ∨ opmode = 1 ∨ opmode = 2 ∨ opmode = 3 := by
        simp only [rs232Mode, rs4852WireMode, rs422Mode, rs4854WireMode] at hmode
        grind
      have hmasked : opmode.setWidth 8 &&& opModeMask = opmode.setWidth 8 ∧
          (opmode.setWidth 8).setWidth 32 = opmode := by
        rcases hmodes with rfl | rfl | rfl | rfl <;> decide
      refine ⟨hmasked.1, hmasked.2, ?_⟩
      rw [modeMask_eq (MxvarEntry.port_lt _)] at h
      exact (Except.ok.inj h).symm

theorem mxserGetOpMode_same {s : OpModes} {q n : Nat}
    (h : SameField (s.mxvarTable q) (s.mxvarTable n)) :
    mxserGetOpMode s q = mxserGetOpMode s n := by
  simp only [mxserGetOpMode, h.1, h.2]

theorem putMode_get_self (s : OpModes) (n : Nat) {v : Byte} (hv : v &&& opModeMask = v) :
    mxserGetOpMode (s.putMode n v) n = v.setWidth 32 := by
  have hreg : (s.putMode n v).io (s.mxvarTable n).opmodeIoaddr =
      setField (s.io (s.mxvarTable n).opmodeIoaddr) (s.mxvarTable n).shift opModeMask v :=
    Function.update_self _ _ _
  show (field ((s.putMode n v).io (s.mxvarTable n).opmodeIoaddr) (s.mxvarTable n).shift
    opModeMask).setWidth 32 = v.setWidth 32
  rw [hreg]
  exact congrArg (BitVec.setWidth 32) (field_setField (opModeMask_fits (MxvarEntry.port_lt _)) hv)

/-- The bits of an entry that are elsewhere stay what they were. -/
theorem putMode_field (s : OpModes) {n : Nat} {v : Byte} (hv : v &&& opModeMask = v)
    {e : MxvarEntry} (h : ¬ SameField e (s.mxvarTable n)) :
    field ((s.putMode n v).io e.opmodeIoaddr) e.shift opModeMask =
      field (s.io e.opmodeIoaddr) e.shift opModeMask := by
  by_cases ha : e.opmodeIoaddr = (s.mxvarTable n).opmodeIoaddr
  · have hport : (s.mxvarTable n).port % 4 ≠ e.port % 4 := fun heq => h ⟨ha, heq.symm⟩
    have hreg : (s.putMode n v).io e.opmodeIoaddr =
        setField (s.io e.opmodeIoaddr) (s.mxvarTable n).shift opModeMask v := by
      rw [ha]
      exact Function.update_self _ _ _
    rw [hreg]
    exact field_setField_of_disjoint
      (opModeMask_disjoint (MxvarEntry.port_lt _) e.port_lt hport) (opModeMask_fits e.port_lt) hv
  · have hreg : (s.putMode n v).io e.opmodeIoaddr = s.io e.opmodeIoaddr :=
      Function.update_of_ne ha _ _
    rw [hreg]

theorem mem_opModeRegs {e : MxvarEntry} (h : e.isMoxaMustChipFlag = moxaMustMu860Hwid) (i : Nat) :
    opmodeReg e.vector i ∈ e.opModeRegs := by
  rw [MxvarEntry.opModeRegs, if_pos h, opmodeReg]
  split <;> simp

/-- **One call**: what a successful `MOXA_SET_OP_MODE` does stays with its port
exactly when the port has a register of its own and no other port was left with
the same bits, or the mode is not a new one. -/
theorem setIsolated_iff {s t : OpModes} {n : Nat} {opmode : Word} (hs : ModesOk s.mxvarTable)
    (h : mxserSetOpMode s n opmode = .ok t) :
    SetIsolated s n opmode t ↔
      (s.mxvarTable n).isMoxaMustChipFlag = moxaMustMu860Hwid ∧
      ∀ q ≠ n, s.Openable q → SameField (s.mxvarTable q) (s.mxvarTable n) →
        mxserGetOpMode s n = opmode := by
  obtain ⟨hopen, v, hv, hopmode, rfl⟩ := mxserSetOpMode_ok h
  have hself : mxserGetOpMode (s.putMode n v) n = opmode :=
    (putMode_get_self s n hv).trans hopmode
  -- a port with the same bits reads what port `n` reads, before and after
  have hsameAfter : ∀ q, SameField (s.mxvarTable q) (s.mxvarTable n) →
      mxserGetOpMode (s.putMode n v) q = opmode :=
    fun q hsame => (show _ = mxserGetOpMode (s.putMode n v) n from
      mxserGetOpMode_same hsame).trans hself
  constructor
  · intro hiso
    constructor
    · obtain ⟨as, happend, hmem⟩ := hiso.writes
      -- the one write is to the address of the entry
      have happend : [(s.mxvarTable n).opmodeIoaddr] ++ s.outbs = as ++ s.outbs := happend
      have has := List.append_cancel_right happend
      have hreg := hmem (s.mxvarTable n).opmodeIoaddr (by simp [← has])
      by_contra hchip
      rw [MxvarEntry.opModeRegs, if_neg hchip] at hreg
      cases hreg
    · intro q hq hqopen hsame
      have hother := hiso.get_others q hq hqopen
      rw [hsameAfter q hsame, mxserGetOpMode_same hsame] at hother
      exact hother.symm
  · rintro ⟨hchip, hshared⟩
    have hnport := hs.port n hopen
    refine ⟨?_, ⟨[(s.mxvarTable n).opmodeIoaddr], rfl, ?_⟩, hself, ?_⟩
    · intro q hq hqopen
      show (s.mxvarTable q).ownReg.map _ = (s.mxvarTable q).ownReg.map _
      by_cases hqchip : (s.mxvarTable q).isMoxaMustChipFlag = moxaMustMu860Hwid
      · have hreg : (s.mxvarTable q).ownReg = some (s.mxvarTable q).opmodeIoaddr := by
          rw [MxvarEntry.ownReg, if_pos hqchip, hs.port q hqopen, hs.own q hqchip]
        rw [hreg]
        have helse : ¬ SameField (s.mxvarTable q) (s.mxvarTable n) := by
          intro hsame
          have hports := hsame.2
          rw [hs.port q hqopen, hnport] at hports
          exact hs.apart q n hq hqchip hchip hsame.1 hports
        exact congrArg some (putMode_field s hv helse)
      · rw [MxvarEntry.ownReg, if_neg hqchip]
        rfl
    · intro a ha
      rw [List.mem_singleton.mp ha, hs.own n hchip]
      exact mem_opModeRegs hchip _
    · intro q hq hqopen
      by_cases hsame : SameField (s.mxvarTable q) (s.mxvarTable n)
      · rw [hsameAfter q hsame, mxserGetOpMode_same hsame]
        exact (hshared q hq hqopen hsame).symm
      · exact congrArg (BitVec.setWidth 32) (putMode_field s hv hsame)

/-- A call leaves the entries alone. -/
theorem opModeStep_table {s t : OpModes} {op : OpModeOp} (h : opModeStep s op = .ok t) :
    t.mxvarTable = s.mxvarTable := by
  cases op with
  | get n =>
      cases h
      rfl
  | set n opmode =>
      simp only [opModeStep] at h
      split at h
      · rename_i u hu
        cases h
        obtain ⟨-, v, -, -, rfl⟩ := mxserSetOpMode_ok hu
        rfl
      · cases h
        rfl

theorem opModeStep_isolated_iff {s : OpModes} (hs : ModesOk s.mxvarTable) (op : OpModeOp) :
    (∀ t, opModeStep s op = .ok t → OpModeIsolated s op t) ↔ OwnMode s op := by
  cases op with
  | get n =>
      constructor
      · exact fun _ => trivial
      · intro _ t ht
        cases ht
        rfl
  | set n opmode =>
      simp only [opModeStep, OpModeIsolated, OwnMode]
      cases hset : mxserSetOpMode s n opmode with
      | error e => simp
      | ok u =>
          have hiff := setIsolated_iff hs hset
          constructor
          · exact fun h _ => hiff.mp (h u rfl ⟨u, rfl⟩)
          · rintro h t ⟨⟩ -
            exact hiff.mpr (h ⟨u, rfl⟩)

/-! ## What probing leaves in the entries -/

/-- The PCI devices of a machine: their vector regions do not overlap, and that
of an MU860 board has room for the two registers. -/
structure PciBus where
  devs : List PciFound
  apart : devs.Pairwise fun f g =>
    f.dev.vectorStart + f.dev.vectorLen ≤ g.dev.vectorStart ∨
    g.dev.vectorStart + g.dev.vectorLen ≤ f.dev.vectorStart
  room : ∀ f ∈ devs, f.chip = moxaMustMu860Hwid → 0x0c < f.dev.vectorLen

/-- The vector region of an MU860 board. -/
def Found.mu860Vector : Found → Option Nat
  | .isa _ => none
  | .pci f => if f.chip = moxaMustMu860Hwid then some f.dev.vectorStart else none

/-- The register pairs of two boards have no address in common. -/
def RegsApart (v w : Nat) : Prop := v + 0x0c < w ∨ w + 0x0c < v

/-- The entries after some boards, whose vector regions are `vs`. -/
structure TableOk (table : Nat → MxvarEntry) (vs : List Nat) : Prop where
  port : ∀ n, (table n).base ≠ 0 → (table n).port = n
  own : ∀ n, (table n).isMoxaMustChipFlag = moxaMustMu860Hwid →
    (table n).opmodeIoaddr = opmodeReg (table n).vector (n % mxserPortsPerBoard) ∧
      (table n).vector ∈ vs
  slot : ∀ n q, (table n).isMoxaMustChipFlag = moxaMustMu860Hwid →
    (table q).isMoxaMustChipFlag = moxaMustMu860Hwid → (table n).vector = (table q).vector →
    n / mxserPortsPerBoard = q / mxserPortsPerBoard

theorem tableOk_zero : TableOk (fun _ => zeroEntry) [] where
  port n h := absurd rfl h
  own n h := absurd h (show (0 : Nat) ≠ 2 by decide)
  slot n q h := absurd h (show (0 : Nat) ≠ 2 by decide)

theorem TableOk.weaken {table : Nat → MxvarEntry} {vs ws : List Nat} (h : TableOk table vs) :
    TableOk table (vs ++ ws) where
  port := h.port
  own n hn := ⟨(h.own n hn).1, List.mem_append_left _ (h.own n hn).2⟩
  slot := h.slot

/-- The entries of a slot that a board is given: `hw` is its record. -/
theorem tableOk_claim {d : Driver} {f : Found} {hw : MxserHwconf} {io : Nat → Byte}
    {granted : Bool} {vs : List Nat} (hrecord : BoardRecord f hw)
    (hd : TableOk d.mxvarTable vs) (hnew : ∀ v ∈ f.mu860Vector, v ∉ vs) :
    TableOk (claimSlot granted (taken d hw io)).mxvarTable (vs ++ f.mu860Vector.toList) := by
  have hports := hrecord.ports
  -- an entry of the slot is the record's, any other is an old one
  have hentry : ∀ n, ((n / mxserPortsPerBoard = d.m ∧ n % mxserPortsPerBoard < hw.ports) ∧
        (claimSlot granted (taken d hw io)).mxvarTable n = hw.entry (n % mxserPortsPerBoard) n) ∨
      (claimSlot granted (taken d hw io)).mxvarTable n = d.mxvarTable n := by
    intro n
    rw [claimSlot_table]
    split
    · rename_i hslot
      simp only [mxserPortsPerBoard] at hslot hports ⊢
      have hindex : n - d.m * 8 = n % 8 := by omega
      exact .inl ⟨by omega, by rw [hindex]⟩
    · exact .inr rfl
  have hown : hw.isMoxaMustChipFlag = moxaMustMu860Hwid → hw.vector ∈ f.mu860Vector ∧
      ∀ i < hw.ports, hw.opmodeIoaddr i = opmodeReg hw.vector i := by
    intro hchip
    obtain ⟨g, rfl, hg, hvector, hregs⟩ := hrecord.opmode hchip
    refine ⟨?_, hregs⟩
    rw [Found.mu860Vector, if_pos hg, hvector]
    rfl
  constructor
  · intro n
    rcases hentry n with ⟨-, hn⟩ | hn
    · rw [hn]
      exact fun _ => rfl
    · rw [hn]
      exact hd.port n
  · intro n
    rcases hentry n with ⟨hslot, hn⟩ | hn
    · rw [hn]
      intro hchip
      obtain ⟨hvector, hregs⟩ := hown hchip
      exact ⟨hregs _ hslot.2, List.mem_append_right _ (Option.mem_toList.mpr hvector)⟩
    · rw [hn]
      exact hd.weaken.own n
  · intro n q
    rcases hentry n with ⟨hslot, hn⟩ | hn <;> rcases hentry q with ⟨hslot', hq⟩ | hq <;>
      rw [hn, hq]
    · exact fun _ _ _ => hslot.1.trans hslot'.1.symm
    · intro hchip hold heq
      have hvector : hw.vector = (d.mxvarTable q).vector := heq
      exact absurd (hvector ▸ (hd.own q hold).2) (hnew _ (hown hchip).1)
    · intro hold hchip heq
      have hvector : (d.mxvarTable n).vector = hw.vector := heq
      exact absurd (hvector ▸ (hd.own n hold).2) (hnew _ (hown hchip).1)
    · exact hd.slot n q

theorem findBoards_tableOk {fs : List Found} :
    ∀ {d : Driver} {vs : List Nat}, TableOk d.mxvarTable vs →
      (vs ++ fs.filterMap Found.mu860Vector).Nodup →
      TableOk (fs.foldl turn d).mxvarTable (vs ++ fs.filterMap Found.mu860Vector) := by
  induction fs with
  | nil =>
      intro d vs hd _
      exact hd.weaken
  | cons f fs ih =>
      intro d vs hd hnodup
      have hsplit : vs ++ (f :: fs).filterMap Found.mu860Vector =
          (vs ++ f.mu860Vector.toList) ++ fs.filterMap Found.mu860Vector := by
        cases hv : f.mu860Vector with
        | none => simp [hv]
        | some v => simp [hv]
      rw [hsplit] at hnodup ⊢
      rw [List.foldl_cons]
      apply ih ?_ hnodup
      have hnew : ∀ v ∈ f.mu860Vector, v ∉ vs := by
        intro v hv hmem
        have happ := (List.nodup_append.mp hnodup).1
        exact (List.nodup_append.mp happ).2.2 v hmem v (Option.mem_toList.mpr hv) rfl
      rcases turn_cases d f with ⟨hw, hturn, -⟩ | ⟨hw, io, hrecord, -, -, hturn⟩
      · rw [hturn]
        exact hd.weaken
      · rw [hturn]
        exact tableOk_claim hrecord hd hnew

/-- The vector regions of the MU860 boards among the boards of a machine. -/
theorem boards_vectors (isa : List IsaFound) (pci : List PciFound) :
    (boards isa pci).filterMap Found.mu860Vector =
      pci.filterMap fun f => (Found.pci f).mu860Vector := by
  rw [boards, List.filterMap_append, List.filterMap_map, List.filterMap_map]
  have hisa : isa.filterMap (Found.mu860Vector ∘ Found.isa) = [] := by
    rw [List.filterMap_eq_nil_iff]
    exact fun _ _ => rfl
  rw [hisa]
  rfl

theorem PciBus.vectors_apart (bus : PciBus) :
    (bus.devs.filterMap fun f => (Found.pci f).mu860Vector).Pairwise RegsApart := by
  rw [List.pairwise_filterMap]
  apply bus.apart.imp_of_mem
  intro f g hf hg hapart v hv w hw
  -- only MU860 boards count, and theirs have room for both registers
  have hvector : ∀ h ∈ bus.devs, ∀ u, (Found.pci h).mu860Vector = some u →
      u = h.dev.vectorStart ∧ 0x0c < h.dev.vectorLen := by
    intro h hh u hu
    by_cases hchip : h.chip = moxaMustMu860Hwid
    · rw [Found.mu860Vector, if_pos hchip] at hu
      exact ⟨(Option.some.inj hu).symm, bus.room h hh hchip⟩
    · rw [Found.mu860Vector, if_neg hchip] at hu
      cases hu
  obtain ⟨rfl, hroomf⟩ := hvector f hf v hv
  obtain ⟨rfl, hroomg⟩ := hvector g hg w hw
  simp only [RegsApart]
  omega

theorem RegsApart.ne {v w : Nat} (h : RegsApart v w) (i j : Nat) :
    opmodeReg v i ≠ opmodeReg w j := by
  simp only [RegsApart] at h
  simp only [opmodeReg]
  split <;> split <;> omega

/-- The ports of a board that share a register are the first or the last four. -/
theorem opmodeReg_group {v i j : Nat} (h : opmodeReg v i = opmodeReg v j) : i < 4 ↔ j < 4 := by
  simp only [opmodeReg] at h
  grind

instance : Std.Symm RegsApart where
  symm _ _ h := Or.symm h

theorem TableOk.modesOk {table : Nat → MxvarEntry} {vs : List Nat} (h : TableOk table vs)
    (hvs : vs.Pairwise RegsApart) : ModesOk table where
  port := h.port
  own n hn := (h.own n hn).1
  apart := by
    intro n q hne hn hq haddr
    obtain ⟨hregn, hvn⟩ := h.own n hn
    obtain ⟨hregq, hvq⟩ := h.own q hq
    rw [hregn, hregq] at haddr
    by_cases hvector : (table n).vector = (table q).vector
    · -- two ports of one board
      have hslot := h.slot n q hn hq hvector
      rw [hvector] at haddr
      have hgroup := opmodeReg_group haddr
      simp only [mxserPortsPerBoard] at hgroup hslot
      omega
    · have hapart := hvs.forall hvn hvq hvector
      exact absurd haddr (hapart.ne _ _)

/-! ## Whole runs -/

/-- The driver after a successful `mxser_init`. -/
def opModes0 (io : Nat → Byte) (isa : List IsaFound) (pci : List PciFound) : OpModes :=
  let d := (mxserInit io true isa pci true).2
  ⟨d.mxvarTable, d.io, []⟩

theorem opModes0_modesOk (io : Nat → Byte) (isa : List IsaFound) (bus : PciBus) :
    ModesOk (opModes0 io isa bus.devs).mxvarTable := by
  have hvs : ((boards isa bus.devs).filterMap Found.mu860Vector).Pairwise RegsApart := by
    rw [boards_vectors]
    exact bus.vectors_apart
  have hnodup : ((boards isa bus.devs).filterMap Found.mu860Vector).Nodup := by
    apply hvs.imp
    intro v w hapart heq
    exact hapart.ne 0 0 (congrArg (opmodeReg · 0) heq)
  have htable : TableOk (findBoards isa bus.devs (driver0 io)).mxvarTable
      ([] ++ (boards isa bus.devs).filterMap Found.mu860Vector) :=
    findBoards_tableOk tableOk_zero hnodup
  exact htable.modesOk hvs

/-- **When modes are isolated.** Whatever boards are found in whatever order, all
calls of a sequence of `MOXA_SET_OP_MODE` and `MOXA_GET_OP_MODE` keep to their
own port if and only if every set that is not refused is on a port of an MU860
board and no port was left with the same bits of its register, unless the mode
is already set. -/
theorem op_modes_isolated_iff (io : Nat → Byte) (isa : List IsaFound) (bus : PciBus)
    (ops : List OpModeOp) :
    EachStep opModeStep OpModeIsolated (opModes0 io isa bus.devs) ops ↔
      Guarded opModeStep OwnMode (opModes0 io isa bus.devs) ops :=
  eachStep_iff_guarded (J := fun s => ModesOk s.mxvarTable)
    (fun _ _ _ hs _ h => (opModeStep_table h).symm ▸ hs)
    (fun _ op hs => opModeStep_isolated_iff hs op)
    (opModes0_modesOk io isa bus)

/-- The `driver_data` of the rows of `mxser_pcibrds`, from C168 to CP-112UL. The
search goes through the table row by row. -/
def mxserPcibrds : List Nat :=
  [4, 5, 9, 10, 11, 12, 13, 14, 15, 16, 17, 18, 19, 20, 21, 22, 23, 24, 25, 26, 27, 28, 29, 30,
    31, 32]

/-- The boards are in the table, and found in its order. -/
def PciBus.InTableOrder (bus : PciBus) : Prop :=
  (∀ f ∈ bus.devs, f.boardType ∈ mxserPcibrds) ∧
    bus.devs.Pairwise fun f g =>
      mxserPcibrds.idxOf f.boardType ≤ mxserPcibrds.idxOf g.boardType

instance (bus : PciBus) : Decidable bus.InTableOrder := inferInstanceAs (Decidable (_ ∧ _))

/-- A CP-104EL with the MU860 chip and a CB-108 with the MU150. -/
def cp104elAndCb108 : PciBus where
  devs := [⟨⟨11, 0xD000, 0x40, 0xD100, 0x10⟩, 24, true, 0, moxaMustMu860Hwid, true⟩,
    ⟨⟨10, 0xD200, 0x40, 0xD300, 0x10⟩, 25, true, 0, moxaMustMu150Hwid, true⟩]
  apart := by decide
  room := by decide

/-- A mode set on the first port of the CB-108 is set on the first port of the
CP-104EL, which is found before it. -/
theorem set_op_mode_on_other_board :
    cp104elAndCb108.InTableOrder ∧
    ¬ EachStep opModeStep OpModeIsolated (opModes0 (fun _ => 0) [] cp104elAndCb108.devs)
      [.set 8 rs422Mode] := by
  refine ⟨by decide, fun h => ?_⟩
  have hset : ∃ t, mxserSetOpMode (opModes0 (fun _ => 0) [] cp104elAndCb108.devs) 8 rs422Mode
      = .ok t ∧ mxserGetOpMode t 0 = rs422Mode := ⟨_, rfl, by decide⟩
  obtain ⟨t, ht, hmode⟩ := hset
  have hstep : opModeStep (opModes0 (fun _ => 0) [] cp104elAndCb108.devs) (.set 8 rs422Mode)
      = .ok t := by
    rw [opModeStep, ht]
  have hiso := (guarded_cons.mp h).1 t hstep ⟨t, ht⟩
  have hkept := hiso.get_others 0 (by decide) (by decide)
  rw [hmode] at hkept
  exact absurd hkept (by decide)

end MoxaDrivers.Mxser.Probe

import Mathlib.Data.List.Basic
import MoxaDrivers.Mxser.Probe

/-!
# What the driver holds after probing

The regions of a board are requested when its configuration is read and its
record goes to `mxsercfg` before `request_irq` is tried; nothing of that is
undone when the interrupt is refused, and the exit path goes by `mxsercfg`. The
accounts are right as long as no board is refused its interrupt. A failure of
`tty_register_driver` gives the interrupts back and keeps the regions.
-/

namespace MoxaDrivers.Mxser.Probe

/-- `request_irq` has succeeded for the slot. -/
def IrqGranted (d : Driver) (i : Nat) : Prop :=
  ∃ irq, Resource.irq irq (i * mxserPortsPerBoard) ∈ d.held

/-- The accounts of the driver after `mxser_init`: on success `mxsercfg` lists
the slots with an interrupt, only their ports have a base, and the exit path
frees what is held, each once; on failure nothing is held. -/
structure ResourcesExact (r : Int × Driver) : Prop where
  slots : r.1 = 0 → ∀ i < mxserBoards, (r.2.mxsercfg i).boardType ≠ -1 ↔ IrqGranted r.2 i
  ports : r.1 = 0 → ∀ n, (r.2.mxvarTable n).base ≠ 0 → IrqGranted r.2 (n / mxserPortsPerBoard)
  exit : r.1 = 0 → (mxserModuleExit r.2).Perm r.2.held
  failure : r.1 ≠ 0 → r.2.held = []

/-- The boards of a list that get as far as `request_irq` when they are given a
slot. -/
def attempts (fs : List Found) : List Found := fs.filter Found.configures

/-- The boards that `room` free slots can take are all granted their interrupt. -/
def AllGranted (room : Nat) (fs : List Found) : Prop :=
  ∀ f ∈ (attempts fs).take room, f.irqGranted = true

/-! ## The two accounts -/

/-- What holds while no board has been refused: the slots below `m` are those in
use, and what is held is what the exit path would free for them. -/
structure Settled (d : Driver) : Prop where
  slots : ∀ i, (d.mxsercfg i).boardType ≠ -1 ↔ i < d.m
  ports : ∀ n, (d.mxvarTable n).base ≠ 0 → n / mxserPortsPerBoard < d.m
  held : d.held.Perm ((List.range d.m).flatMap fun i => slotResources (d.mxsercfg i) i)

/-- What holds in any case: two regions are held for every board taken up, and
an interrupt for every slot below `m`. -/
structure Accounted (d : Driver) (refused : Nat) : Prop where
  m_le : d.m ≤ mxserBoards
  irqs : ∀ i, IrqGranted d i ↔ i < d.m
  length : d.held.length = 3 * d.m + 2 * refused

theorem driver0_settled (io : Nat → Byte) : Settled (driver0 io) where
  slots i := by simp [driver0]
  ports n h := absurd rfl h
  held := .nil

theorem driver0_accounted (io : Nat → Byte) : Accounted (driver0 io) 0 where
  m_le := Nat.zero_le _
  irqs i := by simp [driver0, IrqGranted]
  length := rfl

/-! ## Taking a slot -/

variable {d : Driver} {hw : MxserHwconf} {io : Nat → Byte}

theorem slotResources_length (hw : MxserHwconf) (i : Nat) : (slotResources hw i).length = 3 := by
  simp only [slotResources]
  cases hw.pdev with
  | none => rfl
  | some dev => rfl

/-- The regions of a slot are not interrupts. -/
theorem irq_notMem_tail (hw : MxserHwconf) (i : Nat) (irq : Int) (dev : Nat) :
    Resource.irq irq dev ∉ (slotResources hw i).tail := by
  simp only [slotResources]
  cases hw.pdev with
  | none => simp [isaRegions]
  | some dev => simp [pciRegions]

theorem irqGranted_taken (i : Nat) : IrqGranted (taken d hw io) i ↔ IrqGranted d i := by
  simp [IrqGranted, taken, irq_notMem_tail]

/-- An entry that taking the slot changes belongs to the slot. -/
theorem base_taken {f : Found} (hrecord : BoardRecord f hw) (granted : Bool) {n : Nat}
    (h : ((claimSlot granted (taken d hw io)).mxvarTable n).base ≠ 0) :
    n / mxserPortsPerBoard = d.m ∨ (d.mxvarTable n).base ≠ 0 := by
  rw [claimSlot_table] at h
  split at h
  · rename_i hslot
    have hports := hrecord.ports
    simp only [mxserPortsPerBoard] at hslot hports ⊢
    omega
  · exact .inr h

theorem settled_claim {f : Found} (hrecord : BoardRecord f hw) (hd : Settled d) :
    Settled (claimSlot true (taken d hw io)) where
  slots i := by
    show ((Function.update d.mxsercfg d.m hw) i).boardType ≠ -1 ↔ i < d.m + 1
    by_cases hi : i = d.m
    · subst hi
      simpa using hrecord.boardType
    · rw [Function.update_of_ne hi, hd.slots]
      omega
  ports n h := by
    show n / mxserPortsPerBoard < d.m + 1
    rcases base_taken hrecord true h with hslot | hold
    · omega
    · have := hd.ports n hold
      omega
  held := by
    show (slotResources hw d.m ++ d.held).Perm ((List.range (d.m + 1)).flatMap fun i =>
      slotResources (Function.update d.mxsercfg d.m hw i) i)
    have hold : ((List.range d.m).flatMap fun i =>
          slotResources (Function.update d.mxsercfg d.m hw i) i) =
        (List.range d.m).flatMap fun i => slotResources (d.mxsercfg i) i := by
      apply List.flatMap_congr
      intro i hi
      rw [Function.update_of_ne (Nat.ne_of_lt (List.mem_range.mp hi))]
    rw [List.range_succ, List.flatMap_append, hold]
    simp only [List.flatMap_cons, List.flatMap_nil, List.append_nil, Function.update_self]
    exact (hd.held.append_left _).trans List.perm_append_comm

theorem accounted_claim_granted {k : Nat} (hm : d.m < mxserBoards) (hd : Accounted d k) :
    Accounted (claimSlot true (taken d hw io)) k where
  m_le := hm
  irqs i := by
    show (∃ irq, Resource.irq irq (i * mxserPortsPerBoard) ∈
      Resource.irq hw.irq (d.m * mxserPortsPerBoard) :: (taken d hw io).held) ↔ i < d.m + 1
    have hold : IrqGranted (taken d hw io) i ↔ i < d.m := (irqGranted_taken i).trans (hd.irqs i)
    constructor
    · rintro ⟨irq, hmem⟩
      rcases List.mem_cons.mp hmem with heq | hmem
      · injection heq with _ hdev
        simp only [mxserPortsPerBoard] at hdev
        omega
      · have := hold.mp ⟨irq, hmem⟩
        omega
    · intro hi
      by_cases heq : i = d.m
      · subst heq
        exact ⟨hw.irq, List.mem_cons_self⟩
      · obtain ⟨irq, hmem⟩ := hold.mpr (by omega)
        exact ⟨irq, List.mem_cons_of_mem _ hmem⟩
  length := by
    show (slotResources hw d.m ++ d.held).length = 3 * (d.m + 1) + 2 * k
    rw [List.length_append, slotResources_length, hd.length]
    omega

theorem accounted_claim_refused {k : Nat} (hd : Accounted d k) :
    Accounted (claimSlot false (taken d hw io)) (k + 1) where
  m_le := hd.m_le
  irqs i := by
    have htaken : IrqGranted (taken d hw io) i ↔ IrqGranted d i := irqGranted_taken i
    exact htaken.trans (hd.irqs i)
  length := by
    show ((slotResources hw d.m).tail ++ d.held).length = 3 * d.m + 2 * (k + 1)
    rw [List.length_append, List.length_tail, slotResources_length, hd.length]
    omega

/-! ## The loops -/

/-- A board that gets no slot leaves the boards to come with the same room. -/
theorem take_attempts_skip {f : Found} {fs : List Found} {m : Nat}
    (h : f.configures = false ∨ mxserBoards ≤ m) :
    (attempts (f :: fs)).take (mxserBoards - m) = (attempts fs).take (mxserBoards - m) := by
  rcases h with hconf | hm
  · simp [attempts, hconf]
  · simp [Nat.sub_eq_zero_of_le hm]

theorem take_attempts_cons {f : Found} {fs : List Found} {m : Nat}
    (hconf : f.configures = true) (hm : m < mxserBoards) :
    (attempts (f :: fs)).take (mxserBoards - m) =
      f :: (attempts fs).take (mxserBoards - (m + 1)) := by
  have hroom : mxserBoards - m = (mxserBoards - (m + 1)) + 1 := by omega
  rw [hroom]
  simp [attempts, hconf]

theorem findBoards_settled {fs : List Found} :
    ∀ {d : Driver}, Settled d → AllGranted (mxserBoards - d.m) fs → Settled (fs.foldl turn d) := by
  induction fs with
  | nil => exact fun hd _ => hd
  | cons f fs ih =>
      intro d hd hgranted
      rw [List.foldl_cons]
      rcases turn_cases d f with ⟨hw, hturn, hskip⟩ | ⟨hw, io, hrecord, hconf, hm, hturn⟩
      · rw [AllGranted, take_attempts_skip hskip] at hgranted
        rw [hturn]
        exact ih ⟨hd.slots, hd.ports, hd.held⟩ hgranted
      · rw [AllGranted, take_attempts_cons hconf hm, List.forall_mem_cons] at hgranted
        rw [hturn, hgranted.1]
        exact ih (settled_claim hrecord hd) hgranted.2

/-- Along the boards the number of refusals grows unless all are granted. -/
theorem findBoards_accounted {fs : List Found} :
    ∀ {d : Driver} {k : Nat}, Accounted d k →
      ∃ k', Accounted (fs.foldl turn d) k' ∧ k ≤ k' ∧
        (¬ AllGranted (mxserBoards - d.m) fs → k < k') := by
  induction fs with
  | nil =>
      intro d k hd
      exact ⟨k, hd, Nat.le_refl k, fun h => absurd (by simp [AllGranted, attempts]) h⟩
  | cons f fs ih =>
      intro d k hd
      rw [List.foldl_cons]
      rcases turn_cases d f with ⟨hw, hturn, hskip⟩ | ⟨hw, io, hrecord, hconf, hm, hturn⟩
      · rw [AllGranted, take_attempts_skip hskip, hturn]
        exact ih ⟨hd.m_le, hd.irqs, hd.length⟩
      · rw [AllGranted, take_attempts_cons hconf hm, List.forall_mem_cons, hturn]
        cases hgranted : f.irqGranted with
        | true =>
            have hclaim : Accounted (claimSlot true (taken d hw io)) k :=
              accounted_claim_granted hm hd
            obtain ⟨k', hk', hle, hlt⟩ := ih hclaim
            exact ⟨k', hk', hle, fun hno => hlt fun hall => hno ⟨rfl, hall⟩⟩
        | false =>
            have hclaim : Accounted (claimSlot false (taken d hw io)) (k + 1) :=
              accounted_claim_refused hd
            obtain ⟨k', hk', hle, -⟩ := ih hclaim
            exact ⟨k', hk', by omega, fun _ => by omega⟩

/-- What is held stays held while boards are found. -/
theorem mem_held_of_mem {fs : List Found} {r : Resource} :
    ∀ {d : Driver}, r ∈ d.held → r ∈ (fs.foldl turn d).held := by
  induction fs with
  | nil => exact fun h => h
  | cons f fs ih =>
      intro d h
      rw [List.foldl_cons]
      rcases turn_cases d f with ⟨hw, hturn, -⟩ | ⟨hw, io, -, -, -, hturn⟩
      · rw [hturn]
        exact ih h
      · rw [hturn]
        apply ih
        have htaken : r ∈ (taken d hw io).held := List.mem_append_right _ h
        cases f.irqGranted with
        | true => exact List.mem_cons_of_mem _ htaken
        | false => exact htaken

/-- The first board that is taken up leaves a region held. -/
theorem region_held_of_attempt {fs : List Found} :
    ∀ {d : Driver}, d.m < mxserBoards → attempts fs ≠ [] →
      ∃ start len, Resource.region start len ∈ (fs.foldl turn d).held := by
  induction fs with
  | nil => exact fun _ h => absurd rfl h
  | cons f fs ih =>
      intro d hm hsome
      rw [List.foldl_cons]
      rcases turn_cases d f with ⟨hw, hturn, hskip⟩ | ⟨hw, io, -, -, -, hturn⟩
      · have hconf : f.configures = false := hskip.resolve_right (Nat.not_le.mpr hm)
        have hrest : attempts fs ≠ [] := by simpa [attempts, hconf] using hsome
        rw [hturn]
        exact ih hm hrest
      · have htaken : ∃ start len, Resource.region start len ∈ (taken d hw io).held := by
          show ∃ start len, Resource.region start len ∈ (slotResources hw d.m).tail ++ d.held
          simp only [slotResources]
          cases hw.pdev with
          | none => exact ⟨_, _, List.mem_cons_self⟩
          | some dev => exact ⟨_, _, List.mem_cons_self⟩
        obtain ⟨start, len, hmem⟩ := htaken
        rw [hturn]
        refine ⟨start, len, mem_held_of_mem ?_⟩
        cases f.irqGranted with
        | true => exact List.mem_cons_of_mem _ hmem
        | false => exact hmem

/-- Without a board that configures nothing is taken up. -/
theorem held_of_no_attempt {fs : List Found} (h : attempts fs = []) :
    ∀ {d : Driver}, (fs.foldl turn d).held = d.held := by
  induction fs with
  | nil => exact fun {_} => rfl
  | cons f fs ih =>
      intro d
      have hnot := List.filter_eq_nil_iff.mp h
      have hrest : attempts fs = [] :=
        List.filter_eq_nil_iff.mpr fun g hg => hnot g (List.mem_cons_of_mem _ hg)
      rw [List.foldl_cons, ih hrest]
      rcases turn_cases d f with ⟨hw, hturn, -⟩ | ⟨hw, io, -, hconf, -, -⟩
      · rw [hturn]
      · exact absurd hconf (hnot f List.mem_cons_self)

/-! ## The exit path -/

/-- The exit path frees the slots that `mxsercfg` lists. -/
theorem mxserModuleExit_eq {m : Nat} (hm : m ≤ mxserBoards)
    (hslots : ∀ i < mxserBoards, (d.mxsercfg i).boardType ≠ -1 ↔ i < m) :
    mxserModuleExit d = (List.range m).flatMap fun i => slotResources (d.mxsercfg i) i := by
  have hsplit : List.range mxserBoards =
      List.range m ++ (List.range (mxserBoards - m)).map (m + ·) := by
    rw [← List.range_add, Nat.add_sub_cancel' hm]
  rw [mxserModuleExit, hsplit, List.flatMap_append]
  have hused : ((List.range m).flatMap fun i =>
      if (d.mxsercfg i).boardType = -1 then [] else slotResources (d.mxsercfg i) i) =
        (List.range m).flatMap fun i => slotResources (d.mxsercfg i) i := by
    apply List.flatMap_congr
    intro i hi
    have hi := List.mem_range.mp hi
    exact if_neg ((hslots i (by omega)).mpr hi)
  have hunused : (((List.range (mxserBoards - m)).map (m + ·)).flatMap fun i =>
      if (d.mxsercfg i).boardType = -1 then [] else slotResources (d.mxsercfg i) i) = [] := by
    rw [List.flatMap_eq_nil_iff]
    intro i hi
    obtain ⟨j, hj, rfl⟩ := List.mem_map.mp hi
    have hj := List.mem_range.mp hj
    exact if_pos (by_contra fun hne => absurd ((hslots _ (by omega)).mp hne) (by omega))
  rw [hused, hunused, List.append_nil]

theorem slotResources_flatMap_length (cfg : Nat → MxserHwconf) (m : Nat) :
    ((List.range m).flatMap fun i => slotResources (cfg i) i).length = 3 * m := by
  induction m with
  | zero => rfl
  | succ m ih =>
      rw [List.range_succ, List.flatMap_append, List.length_append, ih]
      simp only [List.flatMap_cons, List.flatMap_nil, List.append_nil, slotResources_length]
      omega

/-! ## The accounts of `mxser_init` -/

theorem settled_exact (hd : Settled d) (haccount : Accounted d 0) :
    ResourcesExact ((0, d) : Int × Driver) where
  slots _ i _ := (hd.slots i).trans (haccount.irqs i).symm
  ports _ n hn := (haccount.irqs _).mpr (hd.ports n hn)
  exit _ := by
    rw [mxserModuleExit_eq haccount.m_le fun i _ => hd.slots i]
    exact hd.held.symm
  failure h := absurd rfl h

/-- After a refusal more regions are held than the exit path gives back, or a
slot is listed that has no interrupt. -/
theorem refused_not_exact {k : Nat} (hd : Accounted d k) (hk : 0 < k) :
    ¬ ResourcesExact ((0, d) : Int × Driver) := by
  intro h
  have hslots : ∀ i < mxserBoards, (d.mxsercfg i).boardType ≠ -1 ↔ i < d.m :=
    fun i hi => (h.slots rfl i hi).trans (hd.irqs i)
  have hlength := (h.exit rfl).length_eq
  rw [mxserModuleExit_eq hd.m_le hslots, slotResources_flatMap_length, hd.length] at hlength
  omega

/-- A region that is held when `tty_register_driver` fails stays held. -/
theorem region_survives_freeIrqs {start len : Nat} (h : Resource.region start len ∈ d.held) :
    Resource.region start len ∈ d.held.diff (freeIrqs d) := by
  apply List.mem_diff_of_mem h
  intro hmem
  obtain ⟨i, -, hi⟩ := List.mem_flatMap.mp hmem
  split at hi
  · cases hi
  · simp at hi

theorem registered_exact_iff (io : Nat → Byte) (isa : List IsaFound) (pci : List PciFound) :
    ResourcesExact (mxserInit io true isa pci true) ↔ AllGranted mxserBoards (boards isa pci) := by
  show ResourcesExact (0, findBoards isa pci (driver0 io)) ↔ _
  obtain ⟨k, hk, -, hrefused⟩ : ∃ k, Accounted (findBoards isa pci (driver0 io)) k ∧
      0 ≤ k ∧ (¬ AllGranted mxserBoards (boards isa pci) → 0 < k) :=
    findBoards_accounted (driver0_accounted io)
  constructor
  · intro h
    by_contra hno
    exact refused_not_exact hk (hrefused hno) h
  · intro hall
    have hsettled : Settled (findBoards isa pci (driver0 io)) :=
      findBoards_settled (driver0_settled io) hall
    -- with every slot settled, what is held has no room for a refusal
    have hzero : k = 0 := by
      have hlength := hsettled.held.length_eq
      rw [slotResources_flatMap_length, hk.length] at hlength
      omega
    rw [hzero] at hk
    exact settled_exact hsettled hk

theorem unregistered_exact_iff (io : Nat → Byte) (isa : List IsaFound) (pci : List PciFound) :
    ResourcesExact (mxserInit io true isa pci false) ↔ attempts (boards isa pci) = [] := by
  let d := findBoards isa pci (driver0 io)
  show ResourcesExact (-1, { d with held := d.held.diff (freeIrqs d) }) ↔ _
  have hret : (-1 : Int) ≠ 0 := by decide
  constructor
  · intro h
    by_contra hsome
    have hm : (driver0 io).m < mxserBoards := Nat.zero_lt_succ 3
    obtain ⟨start, len, hmem⟩ := region_held_of_attempt hm hsome
    have hkept : Resource.region start len ∈ d.held.diff (freeIrqs d) :=
      region_survives_freeIrqs hmem
    have hnone : d.held.diff (freeIrqs d) = [] := h.failure hret
    rw [hnone] at hkept
    cases hkept
  · intro hnone
    have hheld : d.held = [] := held_of_no_attempt hnone
    refine ⟨fun h => absurd h hret, fun h => absurd h hret, fun h => absurd h hret, fun _ => ?_⟩
    show d.held.diff (freeIrqs d) = []
    rw [hheld, List.nil_diff]

/-- **When the accounts are right.** Whatever boards are found and whatever
fails, the accounts after `mxser_init` are right if and only if the driver was
not allocated, or it was registered and none of the boards that came to a slot
was refused its interrupt, or it was not registered and there was no board. -/
theorem resources_exact_iff (io : Nat → Byte) (allocated : Bool) (isa : List IsaFound)
    (pci : List PciFound) (registered : Bool) :
    ResourcesExact (mxserInit io allocated isa pci registered) ↔
      allocated = false ∨
      (registered = true ∧ AllGranted mxserBoards (boards isa pci)) ∨
      (registered = false ∧ attempts (boards isa pci) = []) := by
  cases allocated with
  | false =>
      have hret : (mxserInit io false isa pci registered).1 ≠ 0 := by
        show enomem ≠ 0
        decide
      refine ⟨fun _ => .inl rfl, fun _ => ?_⟩
      exact ⟨fun h => absurd h hret, fun h => absurd h hret, fun h => absurd h hret, fun _ => rfl⟩
  | true =>
      cases registered with
      | true =>
          rw [registered_exact_iff]
          simp
      | false =>
          rw [unregistered_exact_iff]
          simp

/-- A CP-104EL whose interrupt is refused. -/
def cp104elRefused : PciFound :=
  ⟨⟨11, 0xD000, 0x40, 0xD100, 0x10⟩, 24, true, 0, moxaMustMu860Hwid, false⟩

/-- The board that is refused its interrupt is listed in `mxsercfg`. -/
theorem refused_board_is_listed :
    ¬ ResourcesExact (mxserInit (fun _ => 0) true [] [cp104elRefused] true) := by
  intro h
  have hlisted : ((mxserInit (fun _ => 0) true [] [cp104elRefused] true).2.mxsercfg 0).boardType
      ≠ -1 := by decide
  obtain ⟨irq, hirq⟩ := (h.slots rfl 0 (by decide)).mp hlisted
  have hheld : (mxserInit (fun _ => 0) true [] [cp104elRefused] true).2.held =
      [.region 0xD000 0x40, .region 0xD100 0x10] := by decide
  rw [hheld] at hirq
  simp at hirq

end MoxaDrivers.Mxser.Probe

import Mathlib.Data.List.GetD
import MoxaDrivers.Mxser.Board

/-!
# Finding the boards

`mxser_init` goes through the I/O addresses of the module argument and then
through the PCI devices of its table. What it finds it puts into one local
`hwconf`, which is zeroed before the first board and not again; from there it
goes to the slot `m` of `mxsercfg` and to the entries of `mxvar_table` for that
slot, and the slot is taken once `request_irq` succeeds. The labels of the
probing are what the hardware and the kernel answer. `request_region` is taken
to grant what it is asked for: the driver does not look at its result.
-/

namespace MoxaDrivers.Mxser.Probe

open MoxaDrivers.Bits

def mxserBoards : Nat := 4
def mxserPortsPerBoard : Nat := 8

def mxserErrIrq : Int := -2
def mxserErrIrqConflit : Int := -3
def mxserErrVector : Int := -4

/-! ## The records -/

/-- What the driver reads of a `struct pci_dev`: its interrupt, and where its
I/O region (BAR 2) and its vector region (BAR 3) start and how long they are. -/
structure PciDev where
  irq : Int
  ioStart : Nat
  ioLen : Nat
  vectorStart : Nat
  vectorLen : Nat
  deriving DecidableEq, Repr

/-- `struct mxser_hwconf`; its arrays have an element for each port of a board. -/
structure MxserHwconf where
  boardType : Int
  ports : Nat
  irq : Int
  vector : Nat
  vectorMask : Nat
  uartType : Int
  ioaddr : Nat → Nat
  baudBase : Nat → Int
  pdev : Option PciDev
  isMoxaMustChipFlag : Nat
  maxCanSetBaudRate : Nat → Int
  opmodeIoaddr : Nat → Nat

/-- A record of zeros. -/
def zeroHwconf : MxserHwconf :=
  ⟨0, 0, 0, 0, 0, 0, fun _ => 0, fun _ => 0, none, 0, fun _ => 0, fun _ => 0⟩

/-- What `mxser_initbrd` copies into an entry of `mxvar_table`. -/
structure MxvarEntry where
  port : Nat
  base : Nat
  irq : Int
  vector : Nat
  vectormask : Nat
  opmodeIoaddr : Nat
  isMoxaMustChipFlag : Nat
  type : Int
  baudBase : Int
  maxCanSetBaudRate : Int
  deriving DecidableEq, Repr

def zeroEntry : MxvarEntry := ⟨0, 0, 0, 0, 0, 0, 0, 0, 0, 0⟩

/-- What the kernel hands out: an interrupt line with the `dev_id` it was
requested for (here the index into `mxvar_table`), and a range of I/O ports. -/
inductive Resource where
  | irq (irq : Int) (dev : Nat)
  | region (start len : Nat)
  deriving DecidableEq, Repr

/-- The state of the driver while `mxser_init` runs: its locals `hwconf` and
`m`, the tables `mxsercfg` and `mxvar_table`, the I/O ports as far as the
op-mode registers go, and what the kernel has handed out to it. -/
structure Driver where
  hwconf : MxserHwconf
  m : Nat
  mxsercfg : Nat → MxserHwconf
  mxvarTable : Nat → MxvarEntry
  io : Nat → Byte
  held : List Resource

/-- The state in front of the first board. -/
def driver0 (io : Nat → Byte) : Driver :=
  ⟨zeroHwconf, 0, fun _ => { zeroHwconf with boardType := -1 }, fun _ => zeroEntry, io, []⟩

/-- `outb(v, a)`. -/
def outb (io : Nat → Byte) (v : Byte) (a : Nat) : Nat → Byte := Function.update io a v

/-! ## ISA boards -/

/-- What an ISA board answers: its ASIC id, its configuration registers and the
`UART_IIR` of its first UART. -/
structure IsaChip where
  id : Int
  regs : Nat → BitVec 16
  iir : Byte

/-- The board type and the number of ports of an ASIC id. -/
def isaBoard (id : Int) : Option (Int × Nat) :=
  if id = 1 then some (1, 8)          -- C168_ASIC_ID, MXSER_BOARD_C168_ISA
  else if id = 2 then some (2, 4)     -- C104_ASIC_ID, MXSER_BOARD_C104_ISA
  else if id = 0xB then some (6, 2)   -- C102_ASIC_ID, MXSER_BOARD_C102_ISA
  else if id = 4 then some (7, 2)     -- CI132_ASIC_ID, MXSER_BOARD_CI132
  else if id = 3 then some (8, 4)     -- CI134_ASIC_ID, MXSER_BOARD_CI134
  else if id = 5 then some (3, 4)     -- CI104J_ASIC_ID, MXSER_BOARD_CI104J
  else none

/-- The interrupt number of the first port, repeated for every port of the
board; `none` when the registers do not show that. -/
def isaIrq (ports : Nat) (regs : Nat → BitVec 16) : Option (BitVec 16) :=
  let irq := regs 9 &&& 0xF000
  let irq2 := irq ||| irq >>> 4
  let irq4 := irq2 ||| irq2 >>> 8
  if ports = 2 then if irq2 ≠ regs 9 &&& 0xFF00 then none else some irq2
  else if ports = 4 then if irq4 ≠ regs 9 then none else some irq4
  else if ports = 8 then if irq4 ≠ regs 9 ∨ irq4 ≠ regs 10 then none else some irq4
  else some 0

/-- The two rates an ISA port can have: bit `15 - i` of register 12. -/
def isaBaud (regs : Nat → BitVec 16) (i : Nat) : Int :=
  if test (regs 12) (0x0100 <<< (7 - i)) then 921600 else 115200

def mxserGetIsaConf (chip : IsaChip) (hw : MxserHwconf) : Int × MxserHwconf :=
  let hw := { hw with isMoxaMustChipFlag := moxaOtherUart }
  match isaBoard chip.id with
  | none => (0, hw)
  | some (boardType, ports) =>
      let hw := { hw with boardType := boardType, ports := ports }
      match isaIrq ports chip.regs with
      | none => (mxserErrIrqConflit, hw)
      | some irq =>
          if irq = 0 then (mxserErrIrq, hw)
          else
            let hw := { hw with
              irq := ((irq &&& 0xF000) >>> 12).toNat
              ioaddr := fun i => (chip.regs (i + 1) &&& 0xFFF8).toNat }
            if test (chip.regs 12) 0x80 = false then (mxserErrVector, hw)
            else (ports, { hw with
              vector := (chip.regs 11).toNat
              vectorMask := if chip.id = 1 then 0x00FF else 0x000F
              baudBase := isaBaud chip.regs
              maxCanSetBaudRate := isaBaud chip.regs
              uartType := if test chip.iir 0xC0 then port16550A else port16450 })

/-! ## PCI boards -/

/-- `mxser_numports`, by `board_type - 1`. -/
def mxserNumports : List Nat :=
  [8, 4, 4, 8, 4, 2, 2, 4, 2, 4, 4, 2, 4, 8, 2, 4,
   4, 8, 8, 2, 2, 8, 8, 4, 8, 4, 4, 8, 4, 4, 2, 2]

def mxserBoardCp102 : Nat := 12

/-- `CheckIsMoxaMust`, of what it reads back from `UART_MCR` after the write of
`XON1` and of the hardware id. -/
def checkIsMoxaMust (mcr : Byte) (hwid : Nat) : Nat :=
  if mcr ≠ 0 then moxaOtherUart
  else if hwid = moxaMustMu150Hwid ∨ hwid = moxaMustMu860Hwid then hwid
  else moxaOtherUart

/-- A PCI device that is found: the device, the `driver_data` of its row in
`mxser_pcibrds`, whether it can be enabled, what its chip answers and whether
`request_irq` succeeds. -/
structure PciFound where
  dev : PciDev
  boardType : Nat
  enables : Bool
  mcr : Byte
  hwid : Nat
  irqGranted : Bool

def PciFound.chip (f : PciFound) : Nat := checkIsMoxaMust f.mcr f.hwid

def PciFound.ports (f : PciFound) : Nat := mxserNumports.getD (f.boardType - 1) 0

/-- The op-mode register of the port `i` of a board whose vector region starts
at `vector`. -/
def opmodeReg (vector i : Nat) : Nat := if i < 4 then vector + 4 else vector + 0x0c

/-- The rate limit of a port of the board; a chip outside the table keeps what
is there. -/
def pciMaxBaud (f : PciFound) (old : Int) : Int :=
  match gpciUartInfo.find? (fun u => u.type == f.chip) with
  | some u => if f.boardType = mxserBoardCp102 then 921600 else u.maxBaud
  | none => old

/-- `mxser_get_PCI_conf`. Only a board with the MU860 chip sets `opmode_ioaddr`. -/
def mxserGetPciConf (f : PciFound) (hw : MxserHwconf) : MxserHwconf :=
  { hw with
    boardType := f.boardType
    ports := f.ports
    ioaddr := fun i => if i < f.ports then f.dev.ioStart + 8 * i else hw.ioaddr i
    vector := f.dev.vectorStart
    irq := f.dev.irq
    isMoxaMustChipFlag := f.chip
    uartType := port16550A
    vectorMask := (List.range f.ports).foldl (fun v i => v ||| 1 <<< i) 0
    maxCanSetBaudRate := fun i =>
      if i < f.ports then pciMaxBaud f (hw.maxCanSetBaudRate i) else hw.maxCanSetBaudRate i
    opmodeIoaddr := fun i =>
      if f.chip = moxaMustMu860Hwid ∧ i < f.ports then opmodeReg f.dev.vectorStart i
      else hw.opmodeIoaddr i
    baudBase := fun i => if i < f.ports then 921600 else hw.baudBase i }

/-- The two op-mode registers of an MU860 board are set to RS-232. -/
def resetOpmode (f : PciFound) (io : Nat → Byte) : Nat → Byte :=
  if f.chip = moxaMustMu860Hwid then
    outb (outb io 0 (f.dev.vectorStart + 4)) 0 (f.dev.vectorStart + 0x0c)
  else io

/-! ## Taking a slot -/

/-- The entry that port `i` of the board gets as port `n` of the driver. -/
def MxserHwconf.entry (hw : MxserHwconf) (i n : Nat) : MxvarEntry where
  port := n
  base := hw.ioaddr i
  irq := hw.irq
  vector := hw.vector
  vectormask := hw.vectorMask
  opmodeIoaddr := hw.opmodeIoaddr i
  isMoxaMustChipFlag := hw.isMoxaMustChipFlag
  type := hw.uartType
  baudBase := hw.baudBase i
  maxCanSetBaudRate := hw.maxCanSetBaudRate i

/-- `mxser_getcfg`. -/
def mxserGetcfg (board : Nat) (hw : MxserHwconf) (d : Driver) : Driver :=
  { d with mxsercfg := Function.update d.mxsercfg board hw }

/-- `mxser_initbrd`: the entries of the slot, then the interrupt. -/
def mxserInitbrd (board : Nat) (hw : MxserHwconf) (irqGranted : Bool) (d : Driver) :
    Bool × Driver :=
  (irqGranted,
   { d with
     mxvarTable := fun n =>
       if board * mxserPortsPerBoard ≤ n ∧ n < board * mxserPortsPerBoard + hw.ports then
         hw.entry (n - board * mxserPortsPerBoard) n
       else d.mxvarTable n
     held :=
       if irqGranted then .irq hw.irq (board * mxserPortsPerBoard) :: d.held else d.held })

/-- `mxser_getcfg(m, &hwconf)`, `mxser_initbrd(m, &hwconf)` and, if that
succeeds, `m++`. -/
def claimSlot (irqGranted : Bool) (d : Driver) : Driver :=
  let r := mxserInitbrd d.m d.hwconf irqGranted (mxserGetcfg d.m d.hwconf d)
  if r.1 then { r.2 with m := r.2.m + 1 } else r.2

/-! ## The loops of `mxser_init` -/

/-- An element of the array `ioaddr`, what answers at that address, and whether
`request_irq` succeeds. -/
structure IsaFound where
  cap : Nat
  chip : IsaChip
  irqGranted : Bool

/-- What a turn of one of the loops is about. -/
inductive Found where
  | isa (f : IsaFound)
  | pci (f : PciFound)

/-- The regions of an ISA board. -/
def isaRegions (hw : MxserHwconf) : List Resource :=
  [.region (hw.ioaddr 0) (8 * hw.ports), .region hw.vector 1]

/-- The regions of a PCI board. -/
def pciRegions (dev : PciDev) : List Resource :=
  [.region dev.ioStart dev.ioLen, .region dev.vectorStart dev.vectorLen]

/-- A turn of the loop over the ISA addresses. The loop ends when all slots are
taken, so a turn does nothing from there on. -/
def isaTurn (f : IsaFound) (d : Driver) : Driver :=
  if d.m ≥ mxserBoards ∨ f.cap = 0 then d
  else
    let r := mxserGetIsaConf f.chip d.hwconf
    if r.1 ≤ 0 then { d with hwconf := r.2 }
    else claimSlot f.irqGranted { d with
      hwconf := { r.2 with pdev := none }
      held := isaRegions r.2 ++ d.held }

/-- A turn of the loop over the PCI devices. -/
def pciTurn (f : PciFound) (d : Driver) : Driver :=
  let hw := { d.hwconf with pdev := some f.dev }
  if d.m ≥ mxserBoards ∨ f.enables = false then { d with hwconf := hw }
  else claimSlot f.irqGranted { d with
    hwconf := mxserGetPciConf f hw
    io := resetOpmode f d.io
    held := pciRegions f.dev ++ d.held }

def turn (d : Driver) : Found → Driver
  | .isa f => isaTurn f d
  | .pci f => pciTurn f d

/-- The boards in the order in which `mxser_init` comes to them. The array
`mxserBoardCAP` of its first loop is all zeros, so that one finds nothing. -/
def boards (isa : List IsaFound) (pci : List PciFound) : List Found :=
  isa.map Found.isa ++ pci.map Found.pci

/-- The loops over the boards, one after the other. -/
def findBoards (isa : List IsaFound) (pci : List PciFound) (d : Driver) : Driver :=
  (boards isa pci).foldl turn d

/-! ## Giving back -/

/-- What the driver frees for a slot: the interrupt, and what its record in
`mxsercfg` says the regions are. -/
def slotResources (hw : MxserHwconf) (board : Nat) : List Resource :=
  .irq hw.irq (board * mxserPortsPerBoard) ::
    match hw.pdev with
    | some dev => pciRegions dev
    | none => isaRegions hw

/-- The frees of `mxser_module_exit`. -/
def mxserModuleExit (d : Driver) : List Resource :=
  (List.range mxserBoards).flatMap fun i =>
    if (d.mxsercfg i).boardType = -1 then [] else slotResources (d.mxsercfg i) i

/-- The frees after `tty_register_driver` fails; the regions are a "todo". -/
def freeIrqs (d : Driver) : List Resource :=
  (List.range mxserBoards).flatMap fun i =>
    if (d.mxsercfg i).boardType = -1 then []
    else [.irq (d.mxsercfg i).irq (i * mxserPortsPerBoard)]

/-- `-ENOMEM`. -/
def enomem : Int := -12

/-- `mxser_init`: what it returns and how it leaves the driver. `allocated` is
the result of `alloc_tty_driver`, `registered` that of `tty_register_driver`. -/
def mxserInit (io : Nat → Byte) (allocated : Bool) (isa : List IsaFound) (pci : List PciFound)
    (registered : Bool) : Int × Driver :=
  if allocated = false then (enomem, driver0 io)
  else
    let d := findBoards isa pci (driver0 io)
    if registered then (0, d)
    else (-1, { d with held := d.held.diff (freeIrqs d) })

/-! ## What a turn can do -/

/-- The board answers and its configuration is accepted, so that a turn with a
free slot goes on to `request_irq`. -/
def Found.configures : Found → Bool
  | .isa f => f.cap != 0 && decide (0 < (mxserGetIsaConf f.chip zeroHwconf).1)
  | .pci f => f.enables

def Found.irqGranted : Found → Bool
  | .isa f => f.irqGranted
  | .pci f => f.irqGranted

/-- What `mxser_get_ISA_conf` returns depends on the board alone. -/
theorem mxserGetIsaConf_fst (chip : IsaChip) (hw hw' : MxserHwconf) :
    (mxserGetIsaConf chip hw).1 = (mxserGetIsaConf chip hw').1 := by
  simp only [mxserGetIsaConf]
  cases isaBoard chip.id with
  | none => rfl
  | some b =>
      cases hirq : isaIrq b.2 chip.regs with
      | none => simp only [hirq]
      | some irq =>
          simp only [hirq]
          split
          · rfl
          · split
            · rfl
            · rfl

/-- The record that a board leaves in `hwconf` when its configuration is
accepted. -/
structure BoardRecord (f : Found) (hw : MxserHwconf) : Prop where
  boardType : hw.boardType ≠ -1
  ports : hw.ports ≤ mxserPortsPerBoard
  /-- A record of an MU860 board has the addresses of that board's registers. -/
  opmode : hw.isMoxaMustChipFlag = moxaMustMu860Hwid →
    ∃ g, f = .pci g ∧ g.chip = moxaMustMu860Hwid ∧ hw.vector = g.dev.vectorStart ∧
      ∀ i < hw.ports, hw.opmodeIoaddr i = opmodeReg hw.vector i

theorem isaBoard_bounds {id : Int} {b : Int × Nat} (h : isaBoard id = some b) :
    b.1 ≠ -1 ∧ b.2 ≤ mxserPortsPerBoard := by
  simp only [isaBoard] at h
  grind [mxserPortsPerBoard]

theorem mxserGetIsaConf_record {f : IsaFound} {hw : MxserHwconf}
    (h : 0 < (mxserGetIsaConf f.chip hw).1) :
    BoardRecord (.isa f) { (mxserGetIsaConf f.chip hw).2 with pdev := none } := by
  simp only [mxserGetIsaConf] at h ⊢
  cases hboard : isaBoard f.chip.id with
  | none => simp [hboard] at h
  | some b =>
      obtain ⟨htype, hports⟩ := isaBoard_bounds hboard
      rw [hboard] at h
      cases hirq : isaIrq b.2 f.chip.regs with
      | none => simp [hirq, mxserErrIrqConflit] at h
      | some irq =>
          simp only [hirq] at h ⊢
          split at h
          · simp [mxserErrIrq] at h
          · split at h
            · simp [mxserErrVector] at h
            · rename_i hzero hvector
              rw [if_neg hzero, if_neg hvector]
              exact ⟨htype, hports, fun hchip => absurd hchip (show (0 : Nat) ≠ 2 by decide)⟩

theorem PciFound.ports_le (f : PciFound) : f.ports ≤ mxserPortsPerBoard := by
  have hall : ∀ n ∈ mxserNumports, n ≤ mxserPortsPerBoard := by decide
  show mxserNumports.getD (f.boardType - 1) 0 ≤ mxserPortsPerBoard
  by_cases hlt : f.boardType - 1 < mxserNumports.length
  · rw [List.getD_eq_getElem _ _ hlt]
    exact hall _ (List.getElem_mem hlt)
  · rw [List.getD_eq_default _ _ (by omega)]
    exact Nat.zero_le _

theorem mxserGetPciConf_record (f : PciFound) (hw : MxserHwconf) :
    BoardRecord (.pci f) (mxserGetPciConf f hw) where
  boardType := by
    show (f.boardType : Int) ≠ -1
    omega
  ports := f.ports_le
  opmode hchip := ⟨f, rfl, hchip, rfl, fun i hi => if_pos ⟨hchip, hi⟩⟩

/-- The state in which a board is taken up: its record is in `hwconf` and the
regions that the record names are requested. -/
def taken (d : Driver) (hw : MxserHwconf) (io : Nat → Byte) : Driver :=
  { d with hwconf := hw, io := io, held := (slotResources hw d.m).tail ++ d.held }

/-- The entries of the slot are those of the board's ports. -/
theorem claimSlot_table (d : Driver) (hw : MxserHwconf) (io : Nat → Byte) (granted : Bool)
    (n : Nat) :
    (claimSlot granted (taken d hw io)).mxvarTable n =
      if d.m * mxserPortsPerBoard ≤ n ∧ n < d.m * mxserPortsPerBoard + hw.ports then
        hw.entry (n - d.m * mxserPortsPerBoard) n
      else d.mxvarTable n := by
  cases granted <;> rfl

/-- **What a turn can do**: with a free slot and a board that configures, it
takes up the board with a record of it; otherwise it changes nothing but
`hwconf`. -/
theorem turn_cases (d : Driver) (f : Found) :
    (∃ hw, turn d f = { d with hwconf := hw } ∧ (f.configures = false ∨ mxserBoards ≤ d.m)) ∨
    (∃ hw io, BoardRecord f hw ∧ f.configures = true ∧ d.m < mxserBoards ∧
      turn d f = claimSlot f.irqGranted (taken d hw io)) := by
  cases f with
  | isa f =>
      show (∃ hw, isaTurn f d = _ ∧ _) ∨ (∃ hw io, _ ∧ _ ∧ _ ∧ isaTurn f d = _)
      simp only [isaTurn]
      by_cases hskip : d.m ≥ mxserBoards ∨ f.cap = 0
      · rw [if_pos hskip]
        refine .inl ⟨d.hwconf, rfl, ?_⟩
        rcases hskip with hm | hcap
        · exact .inr hm
        · exact .inl (by simp [Found.configures, hcap])
      · obtain ⟨hm, hcap⟩ := not_or.mp hskip
        rw [if_neg hskip]
        by_cases hret : (mxserGetIsaConf f.chip d.hwconf).1 ≤ 0
        · rw [if_pos hret]
          refine .inl ⟨_, rfl, .inl ?_⟩
          rw [mxserGetIsaConf_fst f.chip d.hwconf zeroHwconf] at hret
          simp [Found.configures, hret]
        · rw [if_neg hret]
          have hpos := Int.not_le.mp hret
          refine .inr ⟨_, d.io, mxserGetIsaConf_record hpos, ?_, Nat.not_le.mp hm, rfl⟩
          rw [mxserGetIsaConf_fst f.chip d.hwconf zeroHwconf] at hpos
          simp [Found.configures, hcap, hpos]
  | pci f =>
      show (∃ hw, pciTurn f d = _ ∧ _) ∨ (∃ hw io, _ ∧ _ ∧ _ ∧ pciTurn f d = _)
      simp only [pciTurn]
      by_cases hskip : d.m ≥ mxserBoards ∨ f.enables = false
      · rw [if_pos hskip]
        refine .inl ⟨_, rfl, ?_⟩
        exact hskip.symm
      · obtain ⟨hm, henables⟩ := not_or.mp hskip
        rw [if_neg hskip]
        have henables : f.enables = true := by simpa using henables
        exact .inr ⟨_, resetOpmode f d.io, mxserGetPciConf_record f _, henables,
          Nat.not_le.mp hm, rfl⟩

end MoxaDrivers.Mxser.Probe

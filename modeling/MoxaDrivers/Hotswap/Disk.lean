import MoxaDrivers.Lib.HoldTime
import MoxaDrivers.Lib.Machine

/-!
# Disk activity in the hotswap driver

Ten times a second `hotswap_check_disk` compares a register of each disk's port
with what it was before, and reports the disk busy until there have been no
changes for long enough. The values to begin with are read when the module is
loaded, of disk 2 from another register than the timer's.
-/

namespace MoxaDrivers.Hotswap

open MoxaDrivers.HoldTime MoxaDrivers.Machine

abbrev Word := BitVec 32

/-- `disk_info`. -/
structure DiskInfo where
  status : Word
  busy : Bool
  idleCnt : Nat
  deriving DecidableEq, Repr

/-- `d1` and `d2`. -/
structure Disks where
  d1 : DiskInfo
  d2 : DiskInfo
  deriving DecidableEq, Repr

/-- What the words of the SATA controller read at a time, by `vaddr + offset`. -/
abbrev Ports := Nat → Word

/-- `hotswap_check_disk` on one disk, with what it reads. -/
def checkDisk (now : Word) (d : DiskInfo) : DiskInfo :=
  if now ≠ d.status then { status := now, busy := true, idleCnt := 0 }
  else if d.idleCnt > 10 then { d with busy := false, idleCnt := 0 }
  else { d with idleCnt := d.idleCnt + 1 }

def hotswapCheckDisk (s : Disks) (ports : Ports) : Disks :=
  ⟨checkDisk (ports 0x219) s.d1, checkDisk (ports 0x2A0) s.d2⟩

/-- The disks as `hotswap_init_module` leaves them. -/
def hotswapInitModule (ports : Ports) : Disks :=
  ⟨⟨ports 0x219, false, 0⟩, ⟨ports 0x299, false, 0⟩⟩

/-- The disk that `disk_num` names. -/
def Disks.disk (s : Disks) (diskNum : Int) : Option DiskInfo :=
  if diskNum = 1 then some s.d1 else if diskNum = 2 then some s.d2 else none

/-- `IOCTL_GET_DISK_STATUS`: `val`, if the request is not refused. -/
def getDiskStatus (s : Disks) (diskNum : Int) : Option Int :=
  (s.disk diskNum).map fun d => if d.busy then 1 else 0

/-! ## The registers over time -/

/-- The driver with what there was to read, at the last run of the timer first
and when the module was loaded last. -/
structure Polled where
  dev : Disks
  runs : List Ports
  load : Ports

def pollStep (s : Polled) (ports : Ports) : Except Empty Polled :=
  .ok ⟨hotswapCheckDisk s.dev ports, ports :: s.runs, s.load⟩

def loaded (load : Ports) : Polled := ⟨hotswapInitModule load, [], load⟩

/-- The register of a disk that is recorded at load. -/
def activityReg (diskNum : Int) : Nat := if diskNum = 1 then 0x219 else 0x299

/-- The register of a disk that the timer reads. -/
def polledReg (diskNum : Int) : Nat := if diskNum = 1 then 0x219 else 0x2A0

/-- The value of a register at the last run, or the one recorded at load. -/
def latest (reg : Nat) (recorded : Word) : List Ports → Word
  | [] => recorded
  | ports :: _ => ports reg

/-- At which runs a register changed, the last one first. -/
def changes (reg : Nat) (recorded : Word) : List Ports → List Bool
  | [] => []
  | ports :: runs => (ports reg != latest reg recorded runs) :: changes reg recorded runs

/-- The activity of a disk: its register has changed at one of the last 12 runs. -/
def Polled.active (s : Polled) (diskNum : Int) : Bool :=
  recent 12 (changes (activityReg diskNum) (s.load (activityReg diskNum)) s.runs)

/-- The same of the register that is polled, after the value that is recorded. -/
def Polled.polledActive (s : Polled) (diskNum : Int) : Bool :=
  recent 12 (changes (polledReg diskNum) (s.load (activityReg diskNum)) s.runs)

/-- Each disk is reported busy exactly if it is active. -/
def BusyExact (s : Polled) : Prop :=
  ∀ diskNum, diskNum = 1 ∨ diskNum = 2 →
    getDiskStatus s.dev diskNum = some (if s.active diskNum then 1 else 0)

/-- The register of disk 2 that is polled looks as active as the one that is
recorded. -/
def SameActivity (s : Polled) : Prop := s.polledActive 2 = s.active 2

/-! ## One disk -/

def DiskInfo.hold (d : DiskInfo) : Hold := ⟨d.busy, d.idleCnt⟩

theorem checkDisk_hold (now : Word) (d : DiskInfo) :
    (checkDisk now d).hold = d.hold.next 10 (now != d.status) := by
  rw [checkDisk, Hold.next]
  by_cases hsame : now = d.status
  · rw [if_neg (not_not.mpr hsame), hsame, bne_self_eq_false, if_neg Bool.false_ne_true]
    show DiskInfo.hold (if d.idleCnt > 10 then _ else _) = if d.idleCnt > 10 then _ else _
    split
    · rfl
    · rfl
  · rw [if_pos hsame, if_pos (bne_iff_ne.mpr hsame)]
    rfl

theorem checkDisk_status (now : Word) (d : DiskInfo) : (checkDisk now d).status = now := by
  rw [checkDisk]
  split
  · rfl
  · next hsame =>
      rw [not_not.mp hsame]
      split
      · rfl
      · rfl

/-- A disk that has followed a register since it was recorded. -/
structure Follows (reg : Nat) (recorded : Word) (runs : List Ports) (d : DiskInfo) : Prop where
  status : d.status = latest reg recorded runs
  holds : Holds 10 d.hold (changes reg recorded runs)

/-- **One run** for one disk. -/
theorem Follows.run {reg : Nat} {recorded : Word} {runs : List Ports} {d : DiskInfo}
    (h : Follows reg recorded runs d) (ports : Ports) :
    Follows reg recorded (ports :: runs) (checkDisk (ports reg) d) where
  status := checkDisk_status (ports reg) d
  holds := by
    rw [checkDisk_hold, h.status]
    exact h.holds.next _

theorem Follows.busy {reg : Nat} {recorded : Word} {runs : List Ports} {d : DiskInfo}
    (h : Follows reg recorded runs d) : d.busy = recent 12 (changes reg recorded runs) :=
  h.holds.up_eq

/-! ## Both disks -/

/-- What is true of the driver whatever the registers do: each disk follows the
register that is polled. -/
structure PollInv (s : Polled) : Prop where
  d1 : Follows (polledReg 1) (s.load (activityReg 1)) s.runs s.dev.d1
  d2 : Follows (polledReg 2) (s.load (activityReg 2)) s.runs s.dev.d2

theorem pollInv_loaded (load : Ports) : PollInv (loaded load) :=
  ⟨⟨rfl, .start 10⟩, ⟨rfl, .start 10⟩⟩

theorem pollInv_step {s t : Polled} {ports : Ports} (h : PollInv s)
    (ht : pollStep s ports = .ok t) : PollInv t := by
  cases ht
  exact ⟨h.d1.run ports, h.d2.run ports⟩

theorem PollInv.busyExact_iff {s : Polled} (h : PollInv s) : BusyExact s ↔ SameActivity s := by
  have hone : s.dev.d1.busy = s.active 1 := h.d1.busy
  have htwo : s.dev.d2.busy = s.polledActive 2 := h.d2.busy
  have hreport (x y : Bool) :
      some (if x then (1 : Int) else 0) = some (if y then 1 else 0) ↔ x = y := by
    cases x <;> cases y <;> decide
  constructor
  · intro hexact
    have hreported := hexact 2 (.inr rfl)
    rw [SameActivity, ← htwo]
    exact (hreport _ _).mp hreported
  · rintro hsame diskNum (rfl | rfl)
    · exact (hreport _ _).mpr hone
    · exact (hreport _ _).mpr (htwo.trans hsame)

/-! ## Whole runs -/

/-- **Busy disks** are reported exactly as long as the polled register of disk 2
looks as active as the recorded one. For disk 1 the two are the same register. -/
theorem busy_exact_iff (load : Ports) (runs : List Ports) :
    Always pollStep BusyExact (loaded load) runs ↔
      Always pollStep SameActivity (loaded load) runs := by
  have hinv : Always pollStep PollInv (loaded load) runs :=
    always_of_invariant (fun s ports t hs ht => pollInv_step hs ht) (pollInv_loaded load)
  constructor
  · intro h pre hpre t ht
    exact (hinv pre hpre t ht).busyExact_iff.mp (h pre hpre t ht)
  · intro h pre hpre t ht
    exact (hinv pre hpre t ht).busyExact_iff.mpr (h pre hpre t ht)

/-- Nothing changes, but the two registers of disk 2 differ. -/
theorem idle_disk_reported_busy :
    let ports : Ports := fun reg => if reg = 0x2A0 then 0x50 else 0
    (run pollStep (loaded ports) [ports]).map (fun s => (getDiskStatus s.dev 2, s.active 2)) =
        .ok (some 1, false) ∧
      ¬ Always pollStep BusyExact (loaded ports) [ports] := by
  intro ports
  refine ⟨rfl, fun h => ?_⟩
  have hexact := h [ports] (List.prefix_refl _) _ rfl 2 (.inr rfl)
  exact absurd hexact (by decide)

end MoxaDrivers.Hotswap

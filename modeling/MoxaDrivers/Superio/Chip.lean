import Mathlib.Logic.Function.Basic
import Mathlib.Tactic.Common

/-!
# The super I/O chip

`moxa_v2100_superio` reaches the configuration registers of the chip through
an index port and a data port: the index 7 selects a logical device, the indexes
above are registers of the device that is selected. Each call of `superio_read`
and `superio_write` holds `superio_lock` from its selection to its access.
-/

namespace MoxaDrivers.Superio

abbrev Byte := BitVec 8

def logicDeviceNumber : Byte := 0x07
def gpioConfigReg : Byte := 0x07
def uartAutodirectionControlAddress : Byte := 0xF0

/-- The chip: the logical device that is selected and the registers of each. -/
structure Chip where
  logicDev : Byte
  reg : Byte → Byte → Byte

/-- A chip whose registers are all 0. -/
def blankChip : Chip := ⟨0, fun _ _ => 0⟩

/-- The data port is written with an index in the index port. -/
def Chip.put (c : Chip) (index val : Byte) : Chip :=
  if index = logicDeviceNumber then { c with logicDev := val }
  else { c with
    reg := Function.update c.reg c.logicDev (Function.update (c.reg c.logicDev) index val) }

/-- The data port is read. -/
def Chip.get (c : Chip) (index : Byte) : Byte :=
  if index = logicDeviceNumber then c.logicDev else c.reg c.logicDev index

def superioSelectDev (c : Chip) (val index : Byte) : Chip := c.put index val

def superioRead (c : Chip) (logicDev index portNum : Byte) : Byte × Chip :=
  let c := superioSelectDev c portNum logicDev
  (c.get index, c)

def superioWrite (c : Chip) (logicDev index portNum val : Byte) : Chip :=
  (superioSelectDev c portNum logicDev).put index val

/-! ## What a call does to the registers -/

@[simp] theorem superioRead_val (c : Chip) {index : Byte} (hi : index ≠ logicDeviceNumber)
    (dev : Byte) : (superioRead c logicDeviceNumber index dev).1 = c.reg dev index := by
  simp [superioRead, superioSelectDev, Chip.put, Chip.get, hi]

@[simp] theorem superioRead_reg (c : Chip) (index dev : Byte) :
    (superioRead c logicDeviceNumber index dev).2.reg = c.reg := by
  simp [superioRead, superioSelectDev, Chip.put]

theorem superioWrite_reg (c : Chip) {index : Byte} (hi : index ≠ logicDeviceNumber)
    (dev val : Byte) : (superioWrite c logicDeviceNumber index dev val).reg =
      Function.update c.reg dev (Function.update (c.reg dev) index val) := by
  simp [superioWrite, superioSelectDev, Chip.put, hi]

/-- The register that is written. -/
theorem superioWrite_self (c : Chip) {index : Byte} (hi : index ≠ logicDeviceNumber)
    (dev val : Byte) : (superioWrite c logicDeviceNumber index dev val).reg dev index = val := by
  rw [superioWrite_reg c hi, Function.update_self, Function.update_self]

/-- Any other register. -/
theorem superioWrite_other (c : Chip) {index : Byte} (hi : index ≠ logicDeviceNumber)
    (dev val : Byte) {d i : Byte} (h : d ≠ dev ∨ i ≠ index) :
    (superioWrite c logicDeviceNumber index dev val).reg d i = c.reg d i := by
  rw [superioWrite_reg c hi]
  by_cases hd : d = dev
  · subst hd
    have hne : i ≠ index := h.resolve_left fun hne => hne rfl
    rw [Function.update_self, Function.update_of_ne hne]
  · rw [Function.update_of_ne hd]

end MoxaDrivers.Superio

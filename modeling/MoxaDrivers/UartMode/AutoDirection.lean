import MoxaDrivers.Lib.Bits
import MoxaDrivers.Superio.Chip

/-!
# Auto direction

A logical device of the super I/O chip has the auto direction of its serial port
in the top bit of register 0xF0. The mode drivers change the bit by a
`superio_read` and a `superio_write`.
-/

namespace MoxaDrivers.UartMode

open MoxaDrivers.Superio MoxaDrivers.Bits

def autoDirectionBit : Byte := 0x80

/-- The register read, changed and written back. -/
def changeAutoDirection (c : Chip) (portNum : Byte) (f : Byte → Byte) : Chip :=
  let (regVal, c) := superioRead c logicDeviceNumber uartAutodirectionControlAddress portNum
  superioWrite c logicDeviceNumber uartAutodirectionControlAddress portNum (f regVal)

/-- The bit set, or cleared. -/
def direct (on : Bool) (regVal : Byte) : Byte :=
  if on then regVal ||| autoDirectionBit else regVal &&& ~~~autoDirectionBit

/-- The register of a device. -/
def autoDirectionReg (c : Chip) (portNum : Byte) : Byte :=
  c.reg portNum uartAutodirectionControlAddress

def autoDirection (c : Chip) (portNum : Byte) : Bool :=
  test (autoDirectionReg c portNum) autoDirectionBit

theorem address_ne : uartAutodirectionControlAddress ≠ logicDeviceNumber := by decide

theorem changeAutoDirection_self (c : Chip) (portNum : Byte) (f : Byte → Byte) :
    autoDirectionReg (changeAutoDirection c portNum f) portNum = f (autoDirectionReg c portNum) := by
  rw [autoDirectionReg, changeAutoDirection]
  simp only [superioWrite_self _ address_ne, superioRead_val _ address_ne]
  rfl

/-- Any other register of the chip. -/
theorem changeAutoDirection_other (c : Chip) (portNum : Byte) (f : Byte → Byte) {d i : Byte}
    (h : d ≠ portNum ∨ i ≠ uartAutodirectionControlAddress) :
    (changeAutoDirection c portNum f).reg d i = c.reg d i := by
  rw [changeAutoDirection]
  simp only [superioWrite_other _ address_ne _ _ h, superioRead_reg]

theorem test_direct (on : Bool) (regVal : Byte) :
    test (direct on regVal) autoDirectionBit = on := by
  cases on with
  | true => exact test_or_self (by decide)
  | false => exact test_clear_self _ _

theorem direct_sameOn (on : Bool) (regVal : Byte) :
    SameOn (~~~autoDirectionBit) (direct on regVal) regVal := by
  cases on with
  | true =>
      show (regVal ||| autoDirectionBit) &&& ~~~autoDirectionBit = _
      ext i hi
      simp only [BitVec.getElem_and, BitVec.getElem_or, BitVec.getElem_not]
      cases regVal[i] <;> cases autoDirectionBit[i] <;> rfl
  | false =>
      show regVal &&& ~~~autoDirectionBit &&& ~~~autoDirectionBit = _
      rw [BitVec.and_assoc, BitVec.and_self]

/-- The change of one port's auto direction. -/
structure Directed (c c' : Chip) (portNum : Byte) (on : Bool) : Prop where
  self : autoDirection c' portNum = on
  rest : SameOn (~~~autoDirectionBit) (autoDirectionReg c' portNum) (autoDirectionReg c portNum)
  others : ∀ d i, d ≠ portNum ∨ i ≠ uartAutodirectionControlAddress → c'.reg d i = c.reg d i

theorem directed (c : Chip) (portNum : Byte) (on : Bool) :
    Directed c (changeAutoDirection c portNum (direct on)) portNum on where
  self := by
    rw [autoDirection, changeAutoDirection_self]
    exact test_direct on _
  rest := by
    rw [changeAutoDirection_self]
    exact direct_sameOn on _
  others _ _ h := changeAutoDirection_other c portNum (direct on) h

end MoxaDrivers.UartMode

import MoxaDrivers.Lib.Bits
import Mathlib.Algebra.BigOperators.Group.List.Basic
import Mathlib.Tactic.Ring

/-!
# CAN frames

`struct can_frame` with the flags of its identifier, and the data length codes of
`dev.c`.
-/

namespace MoxaDrivers.Can

open MoxaDrivers.Bits

abbrev Byte := BitVec 8

/-- `canid_t`. -/
abbrev Canid := BitVec 32

def canEffFlag : Canid := 0x80000000
def canRtrFlag : Canid := 0x40000000
def canErrFlag : Canid := 0x20000000
def canSffMask : Canid := 0x7FF
def canEffMask : Canid := 0x1FFFFFFF

/-- `CAN_MAX_DLEN`. -/
def canMaxDlen : Nat := 8

structure CanFrame where
  canId : Canid
  canDlc : Byte
  data : Vector Byte canMaxDlen
  deriving DecidableEq, Repr

def CanFrame.isRtr (cf : CanFrame) : Bool := test cf.canId canRtrFlag

def CanFrame.isEff (cf : CanFrame) : Bool := test cf.canId canEffFlag

/-- The data bytes in front, and zeros behind them. -/
def payload (bytes : List Byte) : Vector Byte canMaxDlen := Vector.ofFn fun i => bytes.getD i 0

/-- What a receiver is told of a frame: the identifier as wide as its format has it,
and the data that the length counts, of which a remote frame has none. -/
def CanFrame.canonical (cf : CanFrame) : CanFrame where
  canId := cf.canId &&& (canRtrFlag ||| canEffFlag ||| if cf.isEff then canEffMask else canSffMask)
  canDlc := cf.canDlc
  data := payload (if cf.isRtr then [] else cf.data.toList.take cf.canDlc.toNat)

/-- A frame with a length that the bus has. -/
def CanFrame.Valid (cf : CanFrame) : Prop := cf.canDlc.toNat ≤ canMaxDlen

instance (cf : CanFrame) : Decidable cf.Valid := inferInstanceAs (Decidable (_ ≤ _))

theorem payload_getElem (bytes : List Byte) {i : Nat} (h : i < canMaxDlen) :
    (payload bytes)[i] = bytes.getD i 0 := by
  simp [payload]

end MoxaDrivers.Can

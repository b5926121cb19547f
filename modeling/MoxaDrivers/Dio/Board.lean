import MoxaDrivers.Lib.Bits
import MoxaDrivers.Lib.CInt

/-!
# Digital inputs and outputs

`moxa_x86_dio` is one ioctl handler over nine boards. A board's file gives its
`dio_dev` and three functions: `dio_inb`, `dio_outb` and `get_outb`. All boards
have their lines in I/O ports (`gpio_method` is `gpio`), several lines in a port.

`Product.outLine` and `Product.inLine` say where the lines are. On most boards
the comments have them where the functions do; for the V2201 and the two boards
with tables the two differ, and `Wiring` tells them apart.
-/

namespace MoxaDrivers.Dio

open MoxaDrivers.Bits MoxaDrivers.CInt

abbrev Byte := BitVec 8

def dioHigh : Int := 1
def dioLow : Int := 0
def ioctlSetDout : Nat := 15
def ioctlGetDout : Nat := 16
def ioctlGetDin : Nat := 17
def allPort : Int := -1

/-- `struct dio_set_struct`. -/
structure DioSet where
  ioNumber : Int
  modeData : Int
  deriving DecidableEq, Repr

/-- `dio_dev`, with `do_state` as compiled in. -/
structure DioDev where
  name : String
  doState : Byte
  addr : Nat
  diNum : Nat
  doNum : Nat
  deriving DecidableEq, Repr

/-- A line of `DIN` or `DOUT`, `do_state` as compiled in. -/
structure IoaddrDef where
  ioAddress : Nat
  dataBit : Nat
  doState : Byte
  deriving DecidableEq, Repr

/-- Whether a board has its lines where the comments or the functions do. -/
inductive Wiring where
  | commented
  | coded
  deriving DecidableEq, Repr

inductive Product where
  | v2201 (wiring : Wiring)
  | v2400A
  | v2403
  | v2416A
  | v2616A
  | da820
  | da682B
  | mc7130 (wiring : Wiring)
  | mc7200 (wiring : Wiring)
  deriving DecidableEq, Repr

def v2201 : DioDev := ⟨"V2201", 0, 0x305, 4, 4⟩
def v2400A : DioDev := ⟨"V2400A", 0xFF, 0x305, 6, 2⟩
def v2403 : DioDev := ⟨"V2403", 0xf0, 0x305, 4, 4⟩
def v2416A : DioDev := ⟨"V2416A", 0, 0x305, 6, 2⟩
def v2616A : DioDev := ⟨"V2616A", 0x03, 0x304, 6, 2⟩
def da820 : DioDev := ⟨"DA-820", 0, 0x304, 2, 6⟩
def da682BDo : DioDev := ⟨"DA-682B", 0xFF, 0x206, 0, 8⟩
def mc7130Mp : DioDev := ⟨"MC-7130-MP", 0, 0x0, 8, 8⟩
def mc7200Mp : DioDev := ⟨"MC-7200-MP", 0, 0x0, 8, 8⟩

def Product.mdev : Product → DioDev
  | .v2201 _ => Dio.v2201
  | .v2400A => Dio.v2400A
  | .v2403 => Dio.v2403
  | .v2416A => Dio.v2416A
  | .v2616A => Dio.v2616A
  | .da820 => Dio.da820
  | .da682B => da682BDo
  | .mc7130 _ => mc7130Mp
  | .mc7200 _ => mc7200Mp

def ioAddressGp1x : Nat := 0x300
def ioAddressGp2x : Nat := 0x301
def ioAddressGp3x : Nat := 0x302
def ioAddressGp4x : Nat := 0x303
def ioAddressGp5x : Nat := 0x304

def din7130 : List IoaddrDef :=
  [⟨ioAddressGp2x, 0, 0⟩, ⟨ioAddressGp2x, 1, 0⟩, ⟨ioAddressGp2x, 2, 0⟩, ⟨ioAddressGp2x, 3, 0⟩,
    ⟨ioAddressGp1x, 6, 0⟩, ⟨ioAddressGp1x, 7, 0⟩, ⟨ioAddressGp3x, 2, 0⟩, ⟨ioAddressGp1x, 4, 0⟩]

def dout7130 : List IoaddrDef :=
  [⟨ioAddressGp2x, 4, 0⟩, ⟨ioAddressGp2x, 5, 0⟩, ⟨ioAddressGp2x, 6, 0⟩, ⟨ioAddressGp2x, 7, 0⟩,
    ⟨ioAddressGp5x, 0, 0⟩, ⟨ioAddressGp5x, 1, 0⟩, ⟨ioAddressGp5x, 2, 0⟩, ⟨ioAddressGp5x, 3, 0⟩]

def din7200 : List IoaddrDef :=
  [⟨ioAddressGp2x, 0, 0⟩, ⟨ioAddressGp2x, 1, 0⟩, ⟨ioAddressGp2x, 2, 0⟩, ⟨ioAddressGp2x, 3, 0⟩,
    ⟨ioAddressGp3x, 0, 0⟩, ⟨ioAddressGp3x, 1, 0⟩, ⟨ioAddressGp3x, 2, 0⟩, ⟨ioAddressGp1x, 4, 0⟩]

def dout7200 : List IoaddrDef :=
  [⟨ioAddressGp2x, 4, 0xFF⟩, ⟨ioAddressGp2x, 5, 0xFF⟩, ⟨ioAddressGp2x, 6, 0xFF⟩,
    ⟨ioAddressGp1x, 5, 0xFF⟩, ⟨ioAddressGp5x, 6, 0xFF⟩, ⟨ioAddressGp4x, 5, 0xFF⟩,
    ⟨ioAddressGp3x, 3, 0xFF⟩, ⟨ioAddressGp3x, 7, 0xFF⟩]

/-! ## The lines -/

/-- A bit of an I/O port. -/
@[ext] structure Line where
  addr : Nat
  bit : Nat
  deriving DecidableEq, Repr

def tableLine (t : List IoaddrDef) (k : Nat) : Line :=
  match t[k]? with
  | some e => ⟨e.ioAddress, e.dataBit⟩
  | none => ⟨0, 0⟩

/-- The bitmap in the comments of both boards with tables. -/
def bitmapDi : List Line :=
  [⟨0x301, 0⟩, ⟨0x301, 1⟩, ⟨0x301, 2⟩, ⟨0x301, 3⟩, ⟨0x302, 0⟩, ⟨0x302, 1⟩, ⟨0x302, 2⟩, ⟨0x300, 4⟩]

def bitmapDo : List Line :=
  [⟨0x301, 4⟩, ⟨0x301, 5⟩, ⟨0x301, 6⟩, ⟨0x300, 5⟩, ⟨0x305, 6⟩, ⟨0x304, 5⟩, ⟨0x302, 3⟩, ⟨0x302, 7⟩]

def Product.outLine (p : Product) (k : Nat) : Line :=
  match p with
  | .v2201 .commented | .v2400A | .v2403 | .v2416A => ⟨p.mdev.addr, k + p.mdev.diNum⟩
  | .v2201 .coded | .v2616A | .da820 | .da682B => ⟨p.mdev.addr, k⟩
  | .mc7130 .commented | .mc7200 .commented => bitmapDo.getD k ⟨0, 0⟩
  | .mc7130 .coded => tableLine dout7130 k
  | .mc7200 .coded => tableLine dout7200 k

def Product.inLine (p : Product) (i : Nat) : Line :=
  match p with
  | .v2201 .commented | .v2400A | .v2403 | .v2416A => ⟨p.mdev.addr, i⟩
  | .v2201 .coded | .v2616A | .da820 | .da682B => ⟨p.mdev.addr, i + p.mdev.doNum⟩
  | .mc7130 .commented | .mc7200 .commented => bitmapDi.getD i ⟨0, 0⟩
  | .mc7130 .coded => tableLine din7130 i
  | .mc7200 .coded => tableLine din7200 i

/-- The output bits of a port. -/
def Product.outMask (p : Product) (addr : Nat) : Byte :=
  (List.range p.mdev.doNum).foldl
    (fun m k => if (p.outLine k).addr = addr then m ||| (1 : Byte) <<< (p.outLine k).bit else m) 0

/-- The I/O ports: the output bits last written, and the levels at the pins of
the others. -/
structure Ports where
  latch : Nat → Byte
  pins : Nat → Byte

def Ports.inb (b : Ports) (p : Product) (addr : Nat) : Byte :=
  b.latch addr &&& p.outMask addr ||| b.pins addr &&& ~~~p.outMask addr

def Ports.outb (b : Ports) (val : Byte) (addr : Nat) : Ports :=
  { b with latch := Function.update b.latch addr val }

def Ports.level (b : Ports) (p : Product) (k : Nat) : Bool :=
  (b.latch (p.outLine k).addr).getLsbD (p.outLine k).bit

/-! ## The functions of the boards -/

/-- `do_state` of the `dio_dev` and of the entries of `DOUT`. -/
structure Driver where
  doState : Byte
  dout : Nat → Byte

/-- `|= 1 << n` or `&= ~(1 << n)`. -/
def drive (doState : Byte) (n : Nat) (modeData : Int) : Byte :=
  if modeData = dioHigh then doState ||| (1 : Byte) <<< n
  else if modeData = dioLow then doState &&& ~~~((1 : Byte) <<< n)
  else doState

/-- The `dio_outb` of the boards whose whole port is in `do_state`. -/
def portOutb (mdev : DioDev) (n : Int) (d : Driver) (b : Ports) (set : DioSet) :
    Except CFault (Driver × Ports) := do
  let n ← shiftCount n
  let doState := drive d.doState n set.modeData
  return ({ d with doState := doState }, b.outb doState mdev.addr)

def v2201DioOutb (d : Driver) (b : Ports) (set : DioSet) := portOutb v2201 set.ioNumber d b set
def v2400ADioOutb (d : Driver) (b : Ports) (set : DioSet) :=
  portOutb v2400A (set.ioNumber + v2400A.diNum) d b set
def v2403DioOutb (d : Driver) (b : Ports) (set : DioSet) :=
  portOutb v2403 (set.ioNumber + v2403.diNum) d b set
def v2416ADioOutb (d : Driver) (b : Ports) (set : DioSet) :=
  portOutb v2416A (set.ioNumber + v2416A.diNum) d b set
def v2616ADioOutb (d : Driver) (b : Ports) (set : DioSet) := portOutb v2616A set.ioNumber d b set
def da820DioOutb (d : Driver) (b : Ports) (set : DioSet) := portOutb da820 set.ioNumber d b set

/-- The DA-682B reads the port back first. -/
def da682BDoDioOutb (d : Driver) (b : Ports) (set : DioSet) : Except CFault (Driver × Ports) :=
  portOutb da682BDo set.ioNumber { d with doState := b.inb .da682B da682BDo.addr } b set

/-- The boards with a table, which has a `do_state` for each line. -/
def tableOutb (p : Product) (dout : List IoaddrDef) (d : Driver) (b : Ports) (set : DioSet) :
    Except CFault (Driver × Ports) := do
  let e ← entry dout set.ioNumber
  let doState := drive (b.inb p e.ioAddress) e.dataBit set.modeData
  return ({ d with dout := Function.update d.dout set.ioNumber.toNat doState },
    b.outb doState e.ioAddress)

def mc7130MpDioOutb (wiring : Wiring) (d : Driver) (b : Ports) (set : DioSet) :=
  tableOutb (.mc7130 wiring) dout7130 d b set
def mc7200MpDioOutb (wiring : Wiring) (d : Driver) (b : Ports) (set : DioSet) :=
  tableOutb (.mc7200 wiring) dout7200 d b set

/-- The `mode_data` of a level. -/
def modeOf (v : Bool) : Int := if v then dioHigh else dioLow

theorem modeOf_inj {u v : Bool} (h : modeOf u = modeOf v) : u = v := by
  revert h
  cases u <;> cases v <;> decide

/-- A bit of a `do_state` in `mode_data`. -/
def DioSet.read (set : DioSet) (doState : Byte) (n : Nat) : DioSet :=
  { set with modeData := if test doState ((1 : Byte) <<< n) then 1 else 0 }

def portGetOutb (n : Int) (d : Driver) (set : DioSet) : Except CFault DioSet := do
  let n ← shiftCount n
  return set.read d.doState n

def v2201GetOutb (d : Driver) (set : DioSet) := portGetOutb set.ioNumber d set
def v2400AGetOutb (d : Driver) (set : DioSet) := portGetOutb (set.ioNumber + v2400A.diNum) d set
def v2403GetOutb (d : Driver) (set : DioSet) := portGetOutb (set.ioNumber + v2403.diNum) d set
def v2416AGetOutb (d : Driver) (set : DioSet) := portGetOutb (set.ioNumber + v2416A.diNum) d set
def v2616AGetOutb (d : Driver) (set : DioSet) := portGetOutb set.ioNumber d set
def da820GetOutb (d : Driver) (set : DioSet) := portGetOutb set.ioNumber d set
def da682BDoGetOutb (d : Driver) (set : DioSet) := portGetOutb set.ioNumber d set

def tableGetOutb (dout : List IoaddrDef) (d : Driver) (set : DioSet) : Except CFault DioSet := do
  let e ← entry dout set.ioNumber
  return set.read (d.dout set.ioNumber.toNat) e.dataBit

def mc7130MpGetOutb (d : Driver) (set : DioSet) := tableGetOutb dout7130 d set
def mc7200MpGetOutb (d : Driver) (set : DioSet) := tableGetOutb dout7200 d set

/-- `val` as an `int`, shifted and returned as a `u8`. -/
def shiftDown (val : BitVec 32) (n : Int) : Except CFault Byte := do
  let n ← shiftCount n
  return (val >>> n).setWidth 8

def v2201DioInb (wiring : Wiring) (b : Ports) (set : DioSet) : Except CFault Byte :=
  let val := (b.inb (.v2201 wiring) v2201.addr).setWidth 32
  shiftDown (val >>> v2201.doNum) set.ioNumber

/-- Moved up and down again, which takes nothing out of an `int`. -/
def maskedInb (p : Product) (mdev : DioDev) (b : Ports) (set : DioSet) : Except CFault Byte :=
  let val := (b.inb p mdev.addr).setWidth 32
  shiftDown (val <<< mdev.doNum >>> mdev.doNum) set.ioNumber

def v2400ADioInb (b : Ports) (set : DioSet) := maskedInb .v2400A v2400A b set
def v2403DioInb (b : Ports) (set : DioSet) := maskedInb .v2403 v2403 b set
def v2416ADioInb (b : Ports) (set : DioSet) := maskedInb .v2416A v2416A b set

def v2616ADioInb (b : Ports) (set : DioSet) : Except CFault Byte :=
  let val := (b.inb .v2616A v2616A.addr).setWidth 32
  shiftDown val (v2616A.doNum + set.ioNumber)

/-- The number of the line is not used. -/
def da820DioInb (b : Ports) (_set : DioSet) : Except CFault Byte :=
  let val := (b.inb .da820 da820.addr).setWidth 32
  shiftDown val da820.doNum

def da682BDoDioInb (b : Ports) (set : DioSet) : Except CFault Byte :=
  let val := (b.inb .da682B da682BDo.addr).setWidth 32
  shiftDown val set.ioNumber

def tableInb (p : Product) (din : List IoaddrDef) (b : Ports) (set : DioSet) :
    Except CFault Byte := do
  let e ← entry din set.ioNumber
  let val := (b.inb p e.ioAddress).setWidth 32
  shiftDown val e.dataBit

def mc7130MpDioInb (wiring : Wiring) (b : Ports) (set : DioSet) :=
  tableInb (.mc7130 wiring) din7130 b set
def mc7200MpDioInb (wiring : Wiring) (b : Ports) (set : DioSet) :=
  tableInb (.mc7200 wiring) din7200 b set

/-! ## `io_ioctl` -/

def Product.dioOutb : Product → Driver → Ports → DioSet → Except CFault (Driver × Ports)
  | .v2201 _ => v2201DioOutb
  | .v2400A => v2400ADioOutb
  | .v2403 => v2403DioOutb
  | .v2416A => v2416ADioOutb
  | .v2616A => v2616ADioOutb
  | .da820 => da820DioOutb
  | .da682B => da682BDoDioOutb
  | .mc7130 wiring => mc7130MpDioOutb wiring
  | .mc7200 wiring => mc7200MpDioOutb wiring

def Product.getDout : Product → Driver → DioSet → Except CFault DioSet
  | .v2201 _ => v2201GetOutb
  | .v2400A => v2400AGetOutb
  | .v2403 => v2403GetOutb
  | .v2416A => v2416AGetOutb
  | .v2616A => v2616AGetOutb
  | .da820 => da820GetOutb
  | .da682B => da682BDoGetOutb
  | .mc7130 _ => mc7130MpGetOutb
  | .mc7200 _ => mc7200MpGetOutb

def Product.dioInb : Product → Ports → DioSet → Except CFault Byte
  | .v2201 wiring => v2201DioInb wiring
  | .v2400A => v2400ADioInb
  | .v2403 => v2403DioInb
  | .v2416A => v2416ADioInb
  | .v2616A => v2616ADioInb
  | .da820 => da820DioInb
  | .da682B => da682BDoDioInb
  | .mc7130 wiring => mc7130MpDioInb wiring
  | .mc7200 wiring => mc7200MpDioInb wiring

/-- `DOUT`. -/
def Product.dout : Product → List IoaddrDef
  | .mc7130 _ => dout7130
  | .mc7200 _ => dout7200
  | _ => []

/-- `moxa_platform_dio_init`: the DA-682B keeps what its port has. -/
def Product.init (p : Product) (b : Ports) : Driver where
  doState := if p = .da682B then b.inb p p.mdev.addr else p.mdev.doState
  dout k := ((p.dout[k]?).map (·.doState)).getD 0

inductive Errno where
  | efault
  | einval
  deriving DecidableEq, Repr

/-- The memory at `arg`: what `copy_from_user` finds, and whether it can be
written. -/
structure UserArg where
  set : Option DioSet
  writable : Bool
  deriving DecidableEq, Repr

/-- What a request returns, with what it leaves in the memory of its caller. -/
abbrev Reply := Except Errno (Option DioSet)

def copyToUser (arg : UserArg) (set : DioSet) : Reply :=
  if arg.writable then .ok (some set) else .error .efault

/-- The line number is not one of `num` lines. -/
def badLine (num : Nat) (ioNumber : Int) : Bool :=
  decide (ioNumber < 0) || decide (ioNumber ≥ num)

theorem badLine_line {num k : Nat} (h : k < num) : badLine num (k : Int) = false := by
  rw [badLine, Bool.or_eq_false_iff]
  exact ⟨decide_eq_false (by omega), decide_eq_false (by omega)⟩

theorem line_of_not_bad {num : Nat} {ioNumber : Int} (h : badLine num ioNumber = false) :
    ∃ k : Nat, ioNumber = k ∧ k < num := by
  obtain ⟨hneg, hge⟩ := Bool.or_eq_false_iff.mp h
  have hneg : ¬ ioNumber < 0 := of_decide_eq_false hneg
  have hge : ¬ ioNumber ≥ num := of_decide_eq_false hge
  exact ⟨ioNumber.toNat, by omega, by omega⟩

def setDout (p : Product) (d : Driver) (b : Ports) (set : DioSet) :
    Except CFault (Driver × Ports × Reply) :=
  if badLine p.mdev.doNum set.ioNumber then .ok (d, b, .error .einval)
  else if set.modeData ≠ dioHigh ∧ set.modeData ≠ dioLow then .ok (d, b, .error .einval)
  else do
    let (d, b) ← p.dioOutb d b set
    return (d, b, .ok none)

def getDoutReply (p : Product) (d : Driver) (arg : UserArg) (set : DioSet) : Except CFault Reply :=
  if set.ioNumber = allPort then
    .ok (copyToUser arg { set with modeData := d.doState.toNat })
  else if badLine p.mdev.doNum set.ioNumber then .ok (.error .einval)
  else do
    let set ← p.getDout d set
    return copyToUser arg set

/-- The port is read before the number of the line is looked at. -/
def getDin (p : Product) (b : Ports) (arg : UserArg) (set : DioSet) : Except CFault Reply := do
  let diState ← p.dioInb b set
  if set.ioNumber = allPort then
    return copyToUser arg { set with modeData := diState.toNat }
  else if badLine p.mdev.diNum set.ioNumber then return .error .einval
  else return copyToUser arg { set with modeData := if test diState 1 then 1 else 0 }

def ioIoctl (p : Product) (d : Driver) (b : Ports) (cmd : Nat) (arg : UserArg) :
    Except CFault (Driver × Ports × Reply) :=
  match arg.set with
  | none => .ok (d, b, .error .efault)
  | some set =>
      if cmd = ioctlSetDout then setDout p d b set
      else if cmd = ioctlGetDout then (getDoutReply p d arg set).map (d, b, ·)
      else if cmd = ioctlGetDin then (getDin p b arg set).map (d, b, ·)
      else .ok (d, b, .error .einval)

end MoxaDrivers.Dio

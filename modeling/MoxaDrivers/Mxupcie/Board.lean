import MoxaDrivers.Mxser.Port

/-!
# The boards of `mxupcie`

Each board has one I/O region (BAR 3) for all its ports: the UIR registers with
the interface mode of two ports each, and the GPIO register with the
terminators. `mx_init` numbers the boards as it finds them, and that number
stands here for the address of the region. Each call that changes one of these
registers is cut at its register read and its register write: `ioctlRead` is
what it does up to the read, `Driver.write` the write, `ioctl` both.

`MOXA_PUART_GPIO_IN` is taken to read back what `MOXA_PUART_GPIO_OUT` was
written with. `v2616A` is the build for that product.
-/

namespace MoxaDrivers.Mxupcie.Board

open MoxaDrivers.Bits MoxaDrivers.Mxser

def mxupcieBoards : Nat := 4
def mxupciePortsPerBoard : Nat := 8

def moxaUirRs232 : Byte := 0x00
def moxaUirRs422 : Byte := 0x01
def moxaUirRs4854w : Byte := 0x0B
def moxaUirRs4852w : Byte := 0x0F
def moxaUirEvenPortValueOffset : Nat := 4

def moxaGpioSetAllOutput : Byte := 0x0F

def mxTermNone : Byte := 0x00
def mxTerm120 : Byte := 0x01

/-- `MX_PORT4`. -/
def mxPort4 : Nat := 3

inductive Errno where
  | enodev
  | eio
  | einval
  deriving DecidableEq, Repr

inductive BoardType where
  | cp102e
  | cp102el
  | cp132el
  | cp114el
  | cp104elA
  | cp168elA
  | cp118elA
  deriving DecidableEq, Repr

/-- `mxupcie_numports`. -/
def mxupcieNumports : BoardType → Nat
  | .cp102e => 2
  | .cp102el => 2
  | .cp132el => 2
  | .cp114el => 4
  | .cp104elA => 4
  | .cp168elA => 8
  | .cp118elA => 8

/-! ## The state -/

/-- The registers of the I/O region of a board. -/
structure Iobar3 where
  uir : Nat → Byte
  gpioEn : Byte
  gpioOut : Byte

/-- A read of `MOXA_PUART_GPIO_IN`. -/
def Iobar3.gpioIn (r : Iobar3) : Byte := r.gpioOut

/-- What an entry of `mxvar_table` has about the shared registers: `iobar3Addr`
says which board, `uirAddr` which of its UIR registers. -/
structure PortInfo where
  port : Nat
  iobar3Addr : Nat
  uirAddr : Nat
  boardType : BoardType
  uir : Byte
  terminatorFlag : Byte
  deriving DecidableEq, Repr

/-- The driver: the variable behind the module parameter `interface`, the
locals `index` and `m` of `mx_init`, `mxvar_table` (an entry that was never set
up has no base, and its port cannot be opened) and the boards. -/
structure Driver where
  interface : Byte
  index : Nat
  m : Nat
  mxvarTable : Nat → Option PortInfo
  iobar3 : Nat → Iobar3

namespace Driver

def setInfo (d : Driver) (n : Nat) (info : PortInfo) : Driver :=
  { d with mxvarTable := Function.update d.mxvarTable n (some info) }

def setIobar3 (d : Driver) (b : Nat) (r : Iobar3) : Driver :=
  { d with iobar3 := Function.update d.iobar3 b r }

@[simp] theorem setInfo_iobar3 (d : Driver) (n : Nat) (info : PortInfo) :
    (d.setInfo n info).iobar3 = d.iobar3 := rfl

@[simp] theorem setInfo_self (d : Driver) (n : Nat) (info : PortInfo) :
    (d.setInfo n info).mxvarTable n = some info := by
  simp [setInfo]

theorem setInfo_of_ne (d : Driver) {n q : Nat} (info : PortInfo) (h : q ≠ n) :
    (d.setInfo n info).mxvarTable q = d.mxvarTable q := by
  simp [setInfo, h]

@[simp] theorem setIobar3_mxvarTable (d : Driver) (b : Nat) (r : Iobar3) :
    (d.setIobar3 b r).mxvarTable = d.mxvarTable := rfl

end Driver

/-- A register write that a call has worked out. -/
inductive RegWrite where
  | uir (iobar3Addr uirAddr : Nat) (chipVal : Byte)
  | gpioOut (iobar3Addr : Nat) (chipVal : Byte)
  deriving DecidableEq, Repr

/-- The write itself; the terminators get `MOXA_PUART_GPIO_EN` first. -/
def Driver.write (d : Driver) : RegWrite → Driver
  | .uir b a v =>
      d.setIobar3 b { d.iobar3 b with uir := Function.update (d.iobar3 b).uir a v }
  | .gpioOut b v => d.setIobar3 b { d.iobar3 b with gpioEn := 0xff, gpioOut := v }

/-! ## The calls -/

/-- The board types whose ports take an interface mode. -/
def takesModes (v2616A : Bool) : BoardType → Bool
  | .cp102e => v2616A
  | .cp102el => v2616A
  | .cp168elA => false
  | .cp104elA => false
  | .cp132el => true
  | .cp114el => true
  | .cp118elA => true

/-- The two switches at the head of `mx_set_interface`. -/
def interfaceOk (v2616A : Bool) (t : BoardType) (val : Byte) : Bool :=
  if val = moxaUirRs232 then t != .cp132el && takesModes v2616A t
  else if val = moxaUirRs422 ∨ val = moxaUirRs4854w ∨ val = moxaUirRs4852w then
    takesModes v2616A t
  else false

/-- The register with the mode of one of its two ports put in. -/
def uirVal (port : Nat) (chipVal val : Byte) : Byte :=
  if port % 2 = 1 then chipVal &&& 0x0F ||| val <<< moxaUirEvenPortValueOffset
  else chipVal &&& 0xF0 ||| val

/-- `mx_set_interface` up to its read of the register; what is left is the
write. -/
def mxSetInterfaceRead (v2616A : Bool) (d : Driver) (n : Nat) (info : PortInfo) (val : Byte) :
    Driver × Except Errno RegWrite :=
  if interfaceOk v2616A info.boardType val then
    let chipVal := (d.iobar3 info.iobar3Addr).uir info.uirAddr
    (d.setInfo n { info with uir := val },
      .ok (.uir info.iobar3Addr info.uirAddr (uirVal info.port chipVal val)))
  else (d, .error .einval)

/-- How far `mx_set_terminator` shifts; `none` where the board type is refused. -/
def terminatorShift (info : PortInfo) : Option Nat :=
  match info.boardType with
  | .cp132el => some (info.port + 2)
  | .cp114el => some info.port
  | .cp118elA => some info.port
  | .cp104elA => none
  | .cp102e => none
  | .cp102el => none
  | .cp168elA => none

/-- The register with one terminator put in. -/
def terminatorVal (s : Nat) (chipVal val : Byte) : Byte :=
  chipVal &&& ~~~((1 : Byte) <<< s) ||| val <<< s

/-- `mx_set_terminator` up to its read of the register. The flag is recorded
before the board type is looked at. -/
def mxSetTerminatorRead (d : Driver) (n : Nat) (info : PortInfo) (val : Byte) :
    Driver × Except Errno RegWrite :=
  if info.uir = moxaUirRs232 then (d, .error .einval)
  else if val = mxTermNone ∨ val = mxTerm120 then
    let d := d.setInfo n { info with terminatorFlag := val }
    let chipVal := (d.iobar3 info.iobar3Addr).gpioIn
    match terminatorShift info with
    | some s => (d, .ok (.gpioOut info.iobar3Addr (terminatorVal s chipVal val)))
    | none => (d, .error .einval)
  else (d, .error .einval)

/-- A call goes on from its register read to its register write. -/
def finish (r : Driver × Except Errno RegWrite) : Driver × Except Errno Unit :=
  match r.2 with
  | .ok w => (r.1.write w, .ok ())
  | .error e => (r.1, .error e)

def mxSetInterface (v2616A : Bool) (d : Driver) (n : Nat) (info : PortInfo) (val : Byte) :
    Driver × Except Errno Unit :=
  finish (mxSetInterfaceRead v2616A d n info val)

def mxSetTerminator (d : Driver) (n : Nat) (info : PortInfo) (val : Byte) :
    Driver × Except Errno Unit :=
  finish (mxSetTerminatorRead d n info val)

inductive Cmd where
  | setInterface
  | setTerminator
  deriving DecidableEq, Repr

/-- An ioctl on an open port. `ioError` is the flag `TTY_IO_ERROR` of its tty. -/
structure Request where
  port : Nat
  cmd : Cmd
  arg : BitVec 64
  ioError : Bool
  deriving DecidableEq, Repr

/-- `(unsigned char)arg`. -/
def Request.val (r : Request) : Byte := r.arg.setWidth 8

/-- `mxupcie_ioctl` up to the register read of the call. -/
def ioctlRead (v2616A : Bool) (d : Driver) (r : Request) : Driver × Except Errno RegWrite :=
  match d.mxvarTable r.port with
  | none => (d, .error .enodev)
  | some info =>
      if r.ioError then (d, .error .eio)
      else
        match r.cmd with
        | .setInterface => mxSetInterfaceRead v2616A d r.port info r.val
        | .setTerminator => mxSetTerminatorRead d r.port info r.val

def mxupcieIoctl (v2616A : Bool) (d : Driver) (r : Request) : Driver × Except Errno Unit :=
  finish (ioctlRead v2616A d r)

/-- On a port that is there the ioctl is the function that it calls. -/
theorem mxupcieIoctl_eq (v2616A : Bool) {d : Driver} {r : Request} {info : PortInfo}
    (hinfo : d.mxvarTable r.port = some info) (hio : r.ioError = false) :
    mxupcieIoctl v2616A d r =
      match r.cmd with
      | .setInterface => mxSetInterface v2616A d r.port info r.val
      | .setTerminator => mxSetTerminator d r.port info r.val := by
  unfold mxupcieIoctl ioctlRead
  rw [hinfo, hio]
  cases r.cmd with
  | setInterface => rfl
  | setTerminator => rfl

/-- `SMARTIO_PUART_GET_TERMINATOR`. -/
def getTerminator (d : Driver) (n : Nat) : Option Byte :=
  (d.mxvarTable n).map PortInfo.terminatorFlag

/-! ## Setting up the boards -/

/-- The UIR register of port `i` of a board. -/
def uirReg (t : BoardType) (i : Nat) : Nat :=
  if i = mxPort4 ∧ (t = .cp114el ∨ t = .cp104elA) then 3 else i / 2

/-- The entry of port `i` of the board `b`, as port `n` of the driver. -/
def portInfo (t : BoardType) (b i n : Nat) : PortInfo where
  port := n
  iobar3Addr := b
  uirAddr := uirReg t i
  boardType := t
  uir := 0
  terminatorFlag := 0

/-- `mx_init_terminator`. -/
def mxInitTerminator (d : Driver) (info : PortInfo) : Driver :=
  match info.boardType with
  | .cp118elA =>
      d.setIobar3 info.iobar3Addr
        { d.iobar3 info.iobar3Addr with gpioEn := 0xff, gpioOut := 0x00 }
  | .cp132el => d
  | .cp114el => d
  | .cp104elA => d
  | .cp102e => d
  | .cp102el => d
  | .cp168elA => d

/-- What `mxupcie_initbrd` puts in place of `interface` 0. -/
def defaultInterface : BoardType → Byte
  | .cp132el => moxaUirRs4852w
  | .cp102e => moxaUirRs232
  | .cp102el => moxaUirRs232
  | .cp114el => moxaUirRs232
  | .cp104elA => moxaUirRs232
  | .cp168elA => moxaUirRs232
  | .cp118elA => moxaUirRs232

/-- The variable `interface` when `mxupcie_initbrd` calls `mx_set_interface`. -/
def pickInterface (interface : Byte) (t : BoardType) : Byte :=
  if interface = 0 then defaultInterface t else interface

/-- A turn of the loop of `mxupcie_initbrd`: port `i` of the board `b`, which is
of type `t` and gets the slot `board`. -/
def initPort (v2616A : Bool) (t : BoardType) (board b : Nat) (d : Driver) (i : Nat) : Driver :=
  let n := board * mxupciePortsPerBoard + i
  let info := portInfo t b i n
  let d := d.setInfo n info
  let d := d.setIobar3 b { d.iobar3 b with gpioEn := moxaGpioSetAllOutput }
  let d := mxInitTerminator d info
  let d := { d with interface := pickInterface d.interface t }
  (mxSetInterface v2616A d n info d.interface).1

/-- `mxupcie_initbrd`. -/
def mxupcieInitbrd (v2616A : Bool) (t : BoardType) (board b : Nat) (d : Driver) : Driver :=
  (List.range (mxupcieNumports t)).foldl (initPort v2616A t board b) d

/-- A board that is found: its type, whether it can be enabled and whether
`request_irq` succeeds. -/
structure Found where
  boardType : BoardType
  enables : Bool
  irqGranted : Bool
  deriving DecidableEq, Repr

/-- A turn of the loop of `mx_init`. Its slot is taken once the interrupt is
granted. -/
def turn (v2616A : Bool) (d : Driver) (f : Found) : Driver :=
  let b := d.index
  let d := { d with index := d.index + 1 }
  if d.m ≥ mxupcieBoards ∨ f.enables = false then d
  else
    let d := mxupcieInitbrd v2616A f.boardType d.m b d
    if f.irqGranted then { d with m := d.m + 1 } else d

/-- The driver with the module parameter `interface` loaded, in front of the
first board. -/
def driver0 (interface : Byte) (iobar3 : Nat → Iobar3) : Driver :=
  ⟨interface, 0, 0, fun _ => none, iobar3⟩

/-- The boards in the order in which they are found. -/
def mxInit (v2616A : Bool) (interface : Byte) (iobar3 : Nat → Iobar3) (found : List Found) :
    Driver :=
  found.foldl (turn v2616A) (driver0 interface iobar3)

/-! ## Whose bits are whose -/

/-- The half of a UIR register that one port has. -/
def modeMask : Byte := 0x0F

/-- The mode that the hardware holds for a port. -/
def Driver.mode (d : Driver) (info : PortInfo) : Byte :=
  field ((d.iobar3 info.iobar3Addr).uir info.uirAddr) (4 * (info.port % 2)) modeMask

/-- The terminator at the position `s` of a board. -/
def Driver.terminator (d : Driver) (b s : Nat) : Byte := field (d.iobar3 b).gpioOut s 1

theorem Driver.mode_congr {d u : Driver} {e : PortInfo}
    (h : (u.iobar3 e.iobar3Addr).uir = (d.iobar3 e.iobar3Addr).uir) : u.mode e = d.mode e := by
  rw [Driver.mode, h, Driver.mode]

theorem uirVal_eq_setField (port : Nat) (chipVal val : Byte) :
    uirVal port chipVal val = setField chipVal (4 * (port % 2)) modeMask val := by
  rcases Nat.mod_two_eq_zero_or_one port with h | h
  · simp [uirVal, setField, modeMask, h]
  · simp [uirVal, setField, modeMask, h, moxaUirEvenPortValueOffset]

theorem terminatorVal_eq_setField (s : Nat) (chipVal val : Byte) :
    terminatorVal s chipVal val = setField chipVal s 1 val := rfl

/-- An accepted mode fits into its half of the register. -/
theorem interfaceOk_fits {v2616A : Bool} {t : BoardType} {val : Byte}
    (h : interfaceOk v2616A t val = true) : val &&& modeMask = val := by
  simp only [interfaceOk] at h
  split at h
  · rename_i hval
    rw [hval]
    decide
  · split at h
    · rename_i hval
      rcases hval with rfl | rfl | rfl <;> decide
    · cases h

theorem interfaceOk_takesModes {v2616A : Bool} {t : BoardType} {val : Byte}
    (h : interfaceOk v2616A t val = true) : takesModes v2616A t = true := by
  simp only [interfaceOk] at h
  split at h
  · exact (Bool.and_eq_true_iff.mp h).2
  · split at h
    · exact h
    · cases h

theorem mode_fits (port : Nat) :
    modeMask <<< (4 * (port % 2)) >>> (4 * (port % 2)) = modeMask := by
  rcases Nat.mod_two_eq_zero_or_one port with h | h
  · rw [h]; decide
  · rw [h]; decide

theorem mode_disjoint {p q : Nat} (h : p % 2 ≠ q % 2) :
    modeMask <<< (4 * (p % 2)) &&& modeMask <<< (4 * (q % 2)) = 0 := by
  rcases Nat.mod_two_eq_zero_or_one p with hp | hp
  · have hq : q % 2 = 1 := by omega
    rw [hp, hq]; decide
  · have hq : q % 2 = 0 := by omega
    rw [hp, hq]; decide

/-- Two entries have the same half of the same register. -/
def SameUir (e f : PortInfo) : Prop :=
  e.iobar3Addr = f.iobar3Addr ∧ e.uirAddr = f.uirAddr ∧ e.port % 2 = f.port % 2

/-- The write of a mode is seen by the port it is for. -/
theorem mode_write_self (d : Driver) (e : PortInfo) {val : Byte} (hval : val &&& modeMask = val)
    (chipVal : Byte) :
    (d.write (.uir e.iobar3Addr e.uirAddr (uirVal e.port chipVal val))).mode e = val := by
  rw [uirVal_eq_setField]
  simp [Driver.mode, Driver.write, Driver.setIobar3,
    field_setField (mode_fits e.port) hval]

/-- It is not seen by the ports that have other bits, when the register is as
it was read. -/
theorem mode_write_other (d : Driver) {e f : PortInfo} {val : Byte} (hval : val &&& modeMask = val)
    (hne : ¬ SameUir e f) :
    (d.write (.uir e.iobar3Addr e.uirAddr
      (uirVal e.port ((d.iobar3 e.iobar3Addr).uir e.uirAddr) val))).mode f = d.mode f := by
  rw [uirVal_eq_setField]
  by_cases hb : f.iobar3Addr = e.iobar3Addr
  · by_cases ha : f.uirAddr = e.uirAddr
    · have hp : e.port % 2 ≠ f.port % 2 := fun hp => hne ⟨hb.symm, ha.symm, hp⟩
      simp [Driver.mode, Driver.write, Driver.setIobar3, hb, ha,
        field_setField_of_disjoint (mode_disjoint hp) (mode_fits f.port) hval]
    · simp [Driver.mode, Driver.write, Driver.setIobar3, hb, Function.update_of_ne ha]
  · simp [Driver.mode, Driver.write, Driver.setIobar3, Function.update_of_ne hb]

/-! ## What a call can do -/

/-- `SMARTIO_PUART_SET_INTERFACE` that passes all checks. -/
structure TakesInterface (v2616A : Bool) (d : Driver) (r : Request) (e : PortInfo) : Prop where
  cmd : r.cmd = .setInterface
  info : d.mxvarTable r.port = some e
  ioError : r.ioError = false
  ok : interfaceOk v2616A e.boardType r.val = true

/-- `SMARTIO_PUART_SET_TERMINATOR` that passes the checks in front of the flag. -/
structure TakesTerminator (d : Driver) (r : Request) (e : PortInfo) : Prop where
  cmd : r.cmd = .setTerminator
  info : d.mxvarTable r.port = some e
  ioError : r.ioError = false
  uir : e.uir ≠ moxaUirRs232
  val : r.val = mxTermNone ∨ r.val = mxTerm120

/-- The state of the driver when a call comes to the read of its register. -/
def recorded (d : Driver) (r : Request) (e : PortInfo) : Driver :=
  match r.cmd with
  | .setInterface => d.setInfo r.port { e with uir := r.val }
  | .setTerminator => d.setInfo r.port { e with terminatorFlag := r.val }

/-- The write it works out from what it reads. -/
def regWrite (d : Driver) (r : Request) (e : PortInfo) (s : Nat) : RegWrite :=
  match r.cmd with
  | .setInterface => .uir e.iobar3Addr e.uirAddr
      (uirVal e.port ((d.iobar3 e.iobar3Addr).uir e.uirAddr) r.val)
  | .setTerminator => .gpioOut e.iobar3Addr
      (terminatorVal s (d.iobar3 e.iobar3Addr).gpioOut r.val)

section Takes

variable {v2616A : Bool} {d : Driver} {r : Request} {e : PortInfo}

theorem TakesInterface.recorded (h : TakesInterface v2616A d r e) :
    recorded d r e = d.setInfo r.port { e with uir := r.val } := by
  rw [Board.recorded, h.cmd]

theorem TakesInterface.regWrite (h : TakesInterface v2616A d r e) (s : Nat) :
    regWrite d r e s = .uir e.iobar3Addr e.uirAddr
      (uirVal e.port ((d.iobar3 e.iobar3Addr).uir e.uirAddr) r.val) := by
  rw [Board.regWrite, h.cmd]

theorem TakesTerminator.recorded (h : TakesTerminator d r e) :
    recorded d r e = d.setInfo r.port { e with terminatorFlag := r.val } := by
  rw [Board.recorded, h.cmd]

theorem TakesTerminator.regWrite (h : TakesTerminator d r e) (s : Nat) :
    regWrite d r e s = .gpioOut e.iobar3Addr
      (terminatorVal s (d.iobar3 e.iobar3Addr).gpioOut r.val) := by
  rw [Board.regWrite, h.cmd]

/-- No call is both. -/
theorem TakesInterface.not_terminator (h : TakesInterface v2616A d r e) {f : PortInfo} :
    ¬ TakesTerminator d r f := by
  intro hf
  have hcmd := h.cmd.symm.trans hf.cmd
  cases hcmd

end Takes

/-- A call sets a mode, sets a terminator, records a terminator that its board
does not have, or is refused and changes nothing. -/
inductive ReadCases (v2616A : Bool) (d : Driver) (r : Request) :
    Driver × Except Errno RegWrite → Prop
  | interface (e : PortInfo) (h : TakesInterface v2616A d r e) :
      ReadCases v2616A d r (recorded d r e, .ok (regWrite d r e 0))
  | terminator (e : PortInfo) (s : Nat) (h : TakesTerminator d r e)
      (hs : terminatorShift e = some s) :
      ReadCases v2616A d r (recorded d r e, .ok (regWrite d r e s))
  | flagged (e : PortInfo) (h : TakesTerminator d r e) (hs : terminatorShift e = none) :
      ReadCases v2616A d r (recorded d r e, .error .einval)
  | refused (err : Errno) (hi : ∀ e, ¬ TakesInterface v2616A d r e)
      (ht : ∀ e, ¬ TakesTerminator d r e) : ReadCases v2616A d r (d, .error err)

theorem ioctlRead_cases (v2616A : Bool) (d : Driver) (r : Request) :
    ReadCases v2616A d r (ioctlRead v2616A d r) := by
  simp only [ioctlRead]
  cases hinfo : d.mxvarTable r.port with
  | none =>
      refine .refused .enodev (fun e h => ?_) (fun e h => ?_)
      · rw [h.info] at hinfo; cases hinfo
      · rw [h.info] at hinfo; cases hinfo
  | some info =>
      have huniq {e : PortInfo} (h : d.mxvarTable r.port = some e) : e = info :=
        Option.some.inj (h.symm.trans hinfo)
      cases hio : r.ioError with
      | true =>
          refine .refused .eio (fun e h => ?_) (fun e h => ?_)
          · rw [h.ioError] at hio; cases hio
          · rw [h.ioError] at hio; cases hio
      | false =>
          cases hcmd : r.cmd with
          | setInterface =>
              have hno (e : PortInfo) : ¬ TakesTerminator d r e := fun h => by
                rw [h.cmd] at hcmd; cases hcmd
              show ReadCases v2616A d r (mxSetInterfaceRead v2616A d r.port info r.val)
              simp only [mxSetInterfaceRead]
              cases hok : interfaceOk v2616A info.boardType r.val with
              | true =>
                  have hcase := ReadCases.interface info ⟨hcmd, hinfo, hio, hok⟩
                  simpa only [recorded, regWrite, hcmd, if_true] using hcase
              | false =>
                  refine .refused .einval (fun e h => ?_) hno
                  rw [huniq h.info] at h
                  rw [h.ok] at hok
                  cases hok
          | setTerminator =>
              have hno (e : PortInfo) : ¬ TakesInterface v2616A d r e := fun h => by
                rw [h.cmd] at hcmd; cases hcmd
              show ReadCases v2616A d r (mxSetTerminatorRead d r.port info r.val)
              simp only [mxSetTerminatorRead]
              by_cases huir : info.uir = moxaUirRs232
              · rw [if_pos huir]
                exact .refused .einval hno fun e h => h.uir (huniq h.info ▸ huir)
              rw [if_neg huir]
              by_cases hval : r.val = mxTermNone ∨ r.val = mxTerm120
              · have htakes : TakesTerminator d r info := ⟨hcmd, hinfo, hio, huir, hval⟩
                rw [if_pos hval]
                cases hs : terminatorShift info with
                | some s =>
                    have hcase : ReadCases v2616A d r _ := .terminator info s htakes hs
                    simpa only [recorded, regWrite, hcmd, Iobar3.gpioIn, Driver.setInfo_iobar3] using hcase
                | none =>
                    have hcase : ReadCases v2616A d r _ := .flagged info htakes hs
                    simpa only [recorded, hcmd] using hcase
              · rw [if_neg hval]
                exact .refused .einval hno fun e h => hval h.val

end MoxaDrivers.Mxupcie.Board

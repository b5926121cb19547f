import MoxaDrivers.Can.Frame
import MoxaDrivers.Lib.Codewords

/-!
# CAN frames over a serial line

`slc_encaps` writes a frame as a line of text, `slcan_unesc` collects the bytes of a
line in `rbuff`, and `slc_bump` reads it when a CR or BEL ends it. What is behind the
line in `rbuff` is left from earlier lines. An access behind an array is a `Fault`.
-/

namespace MoxaDrivers.Can

open MoxaDrivers.Bits MoxaDrivers.Machine

/-- `SLC_MTU`. -/
def slcMtu : Nat := 33

def slcCmdLen : Nat := 1
def slcSffIdLen : Nat := 3
def slcEffIdLen : Nat := 8

def chr (c : Char) : Byte := BitVec.ofNat 8 c.toNat

inductive Fault where
  /-- `rbuff` is accessed at this index. -/
  | rbuff (i : Nat)
  /-- `xbuff` is written at this index. -/
  | xbuff (i : Nat)
  /-- `cf->data` is read at this index. -/
  | data (i : Nat)
  deriving DecidableEq, Repr

/-! ## Hexadecimal digits -/

def hexAscUpper (d : Nat) : Byte := ("0123456789ABCDEF".toList.map chr).getD d 0

/-- `hex_byte_pack_upper`. -/
def hexBytePackUpper (b : Byte) : List Byte :=
  [hexAscUpper (b >>> 4).toNat, hexAscUpper (b &&& 0x0F).toNat]

def hexToBin (ch : Byte) : Option Byte :=
  if chr '0' ≤ ch ∧ ch ≤ chr '9' then some (ch - chr '0')
  else if chr 'a' ≤ ch ∧ ch ≤ chr 'f' then some (ch - chr 'a' + 10)
  else if chr 'A' ≤ ch ∧ ch ≤ chr 'F' then some (ch - chr 'A' + 10)
  else none

/-- The digits in front of a text as a number. -/
def hexValue (digits : List Byte) : Nat :=
  digits.foldl (fun n ch => n * 16 + ((hexToBin ch).getD 0).toNat) 0

/-- `kstrtou32` to the base 16: a plus sign and `0x` may stand in front, a line feed at
the end. -/
def kstrtou32 (s : List Byte) : Option Canid :=
  let s := if s.head? = some (chr '+') then s.tail else s
  let s := if s.head? = some (chr '0') ∧ (s[1]?.map (· ||| 0x20)) = some (chr 'x') then s.drop 2 else s
  let digits := s.takeWhile fun ch => (hexToBin ch).isSome
  let rest := s.dropWhile fun ch => (hexToBin ch).isSome
  if digits = [] ∨ 2 ^ 32 ≤ hexValue digits ∨ (rest ≠ [] ∧ rest ≠ [chr '\n']) then none
  else some (BitVec.ofNat 32 (hexValue digits))

/-! ## The receiver -/

/-- The receive side of `struct slcan`, and what it has passed on with `netif_rx_ni`. The
counters are of type `unsigned long`. -/
structure Slcan where
  rbuff : Vector Byte slcMtu
  rcount : Nat
  /-- `SLF_ERROR`. -/
  error : Bool
  frames : List CanFrame
  rxPackets : BitVec 64
  rxBytes : BitVec 64
  rxErrors : BitVec 64
  rxOverErrors : BitVec 64

/-- What `slc_open` and `slcan_open` leave. -/
def Slcan.opened : Slcan := ⟨Vector.replicate slcMtu 0, 0, false, [], 0, 0, 0, 0⟩

def Slcan.read (sl : Slcan) (i : Nat) : Except Fault Byte :=
  match sl.rbuff[i]? with
  | some b => .ok b
  | none => .error (.rbuff i)

def Slcan.write (sl : Slcan) (i : Nat) (b : Byte) : Except Fault Slcan :=
  if h : i < slcMtu then .ok { sl with rbuff := sl.rbuff.set i b } else .error (.rbuff i)

/-- The C string at `i`. -/
def Slcan.cstr (sl : Slcan) (i : Nat) : List Byte := (sl.rbuff.toList.drop i).takeWhile (· ≠ 0)

/-- The flags and the length of the identifier that go with a type. -/
def command (ch : Byte) : Option (Canid × Nat) :=
  if ch = chr 'r' then some (canRtrFlag, slcSffIdLen)
  else if ch = chr 't' then some (0, slcSffIdLen)
  else if ch = chr 'R' then some (canRtrFlag ||| canEffFlag, slcEffIdLen)
  else if ch = chr 'T' then some (canEffFlag, slcEffIdLen)
  else none

/-- Two digits; `none` when one of them is none. -/
def Slcan.readByte (sl : Slcan) (cmd : Nat) : Except Fault (Option Byte) := do
  match hexToBin (← sl.read cmd) with
  | none => return none
  | some high =>
      match hexToBin (← sl.read (cmd + 1)) with
      | none => return none
      | some low => return some (high <<< 4 ||| low)

def Slcan.readData (sl : Slcan) : Nat → Nat → Except Fault (Option (List Byte))
  | 0, _ => .ok (some [])
  | n + 1, cmd => do
      match ← sl.readByte cmd with
      | none => return none
      | some b => return (← sl.readData n (cmd + 2)).map (b :: ·)

def Slcan.netifRx (sl : Slcan) (cf : CanFrame) : Slcan :=
  { sl with
    frames := sl.frames ++ [cf]
    rxPackets := sl.rxPackets + 1
    rxBytes := sl.rxBytes + cf.canDlc.setWidth 64 }

/-- The data of a frame that is no remote frame. The flag may as well have come with the
identifier. -/
def Slcan.readPayload (sl : Slcan) (canId : Canid) (n cmd : Nat) :
    Except Fault (Option (List Byte)) :=
  if test canId canRtrFlag then .ok (some []) else sl.readData n cmd

/-- From `kstrtou32` on. -/
def Slcan.bumpFrame (sl : Slcan) (flags : Canid) (idLen : Nat) (dlc : Byte) (skb : Bool) :
    Except Fault Slcan :=
  match kstrtou32 (sl.cstr slcCmdLen) with
  | none => .ok sl
  | some tmpid =>
      if chr '0' ≤ dlc ∧ dlc < chr '9' then do
        let canId := flags ||| tmpid
        let canDlc := dlc - chr '0'
        match ← sl.readPayload canId canDlc.toNat (slcCmdLen + idLen + 1) with
        | none => return sl
        | some bytes => return if skb then sl.netifRx ⟨canId, canDlc, payload bytes⟩ else sl
      else .ok sl

/-- `skb` says whether `dev_alloc_skb` has memory. -/
def slcBump (sl : Slcan) (skb : Bool) : Except Fault Slcan := do
  match command (← sl.read 0) with
  | none => return sl
  | some (flags, idLen) =>
      let dlc ← sl.read (slcCmdLen + idLen)
      let sl ← sl.write (slcCmdLen + idLen) 0
      sl.bumpFrame flags idLen dlc skb

def isPduEnd (s : Byte) : Bool := s == chr '\r' || s == 0x07

def slcanUnesc (sl : Slcan) (s : Byte) (skb : Bool) : Except Fault Slcan :=
  if isPduEnd s then do
    let sl ← if !sl.error && sl.rcount > 4 then slcBump sl skb else .ok sl
    return { sl with error := false, rcount := 0 }
  else if sl.error then .ok sl
  else if sl.rcount < slcMtu then do
    let sl' ← sl.write sl.rcount s
    return { sl' with rcount := sl.rcount + 1 }
  else .ok { sl with rxOverErrors := sl.rxOverErrors + 1, error := true }

/-- A byte from the tty: `cp`, `fp`, and whether there is memory for a frame. -/
structure RxByte where
  ch : Byte
  flag : Byte
  skb : Bool

/-- A turn of the loop of `slcan_receive_buf`. -/
def receiveTurn (sl : Slcan) (b : RxByte) : Except Fault Slcan :=
  if b.flag ≠ 0 then
    .ok { sl with error := true, rxErrors := if sl.error then sl.rxErrors else sl.rxErrors + 1 }
  else slcanUnesc sl b.ch b.skb

def slcanReceiveBuf (running : Bool) (sl : Slcan) (bytes : List RxByte) : Except Fault Slcan :=
  if running then run receiveTurn sl bytes else .ok sl

/-! ## The sender -/

/-- The loop that writes the identifier from its last digit on. -/
def idDigits : Nat → Canid → List Byte
  | 0, _ => []
  | n + 1, id => idDigits n (id >>> 4) ++ [hexAscUpper (id &&& 0xF).toNat]

def CanFrame.readData (cf : CanFrame) (i : Nat) : Except Fault Byte :=
  match cf.data[i]? with
  | some b => .ok b
  | none => .error (.data i)

/-- The type and the identifier. -/
def CanFrame.head (cf : CanFrame) : List Byte :=
  let type := if cf.isRtr then chr 'R' else chr 'T'
  if cf.isEff then type :: idDigits slcEffIdLen (cf.canId &&& canEffMask)
  else (type ||| 0x20) :: idDigits slcSffIdLen (cf.canId &&& canSffMask)

def CanFrame.readPayload (cf : CanFrame) : Except Fault (List Byte) :=
  if cf.isRtr then .ok [] else (List.range cf.canDlc.toNat).mapM cf.readData

/-- What `slc_encaps` puts into `xbuff`. -/
def slcEncaps (cf : CanFrame) : Except Fault (List Byte) := do
  let data ← cf.readPayload
  let xbuff := cf.head ++ (cf.canDlc + chr '0') :: data.flatMap hexBytePackUpper ++ [chr '\r']
  if xbuff.length ≤ slcMtu then return xbuff else .error (.xbuff slcMtu)

end MoxaDrivers.Can

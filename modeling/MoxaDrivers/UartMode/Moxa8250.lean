import MoxaDrivers.Lib.CInt
import MoxaDrivers.Lib.Machine
import MoxaDrivers.UartMode.AutoDirection

/-!
# The serial modes of the DA-820, the DA-720, the EXPC-1519 and the MC-7200

`moxa_uart8250_mode_ioctl` looks up the bit of a mode in a table with a row for
each port and a column for each type, neither of which it checks. The table of
the MC-7200 has rows for the ports 0 and 1, which have no modes.
-/

namespace MoxaDrivers.UartMode.Moxa8250

open MoxaDrivers.Superio MoxaDrivers.Bits MoxaDrivers.CInt MoxaDrivers.Machine

inductive Build where
  | da820
  | da720
  | expc1519
  | mc7200
  deriving DecidableEq, Repr

/-- For each port the bits of RS-232, RS-485 and RS-422 in the mode register. -/
def Build.uartModeBit : Build → List (List Nat)
  | .da820 => [[0, 2, 1], [4, 6, 5]]
  | .da720 => [[3, 1, 2], [6, 4, 5]]
  | .expc1519 => [[1, 0, 3], [4, 5, 2]]
  | .mc7200 => [[0, 0, 0], [0, 0, 0], [1, 0, 3], [4, 5, 2]]

/-- The ports whose mode can be switched. -/
def Build.ports : Build → List Nat
  | .mc7200 => [2, 3]
  | _ => [0, 1]

def uartMask (row : List Nat) : BitVec 32 :=
  row.foldl (fun m bit => m ||| (1 : BitVec 32) <<< bit) 0

/-- The logical device of a port's serial port. -/
def Build.logicDev (b : Build) (portNum : Int) : Byte :=
  match b with
  | .mc7200 => BitVec.ofInt 8 (portNum + 6)
  | _ => BitVec.ofInt 8 (portNum + 1)

def enableAutoDirectionControl (b : Build) (c : Chip) (portNum : Int) : Chip :=
  changeAutoDirection c (b.logicDev portNum) fun regVal => regVal ||| 0x80

def disableAutoDirectionControl (b : Build) (c : Chip) (portNum : Int) : Chip :=
  changeAutoDirection c (b.logicDev portNum) fun regVal => regVal &&& ~~~0x80

/-- `port_type_t`. -/
structure PortType where
  portNumber : Int
  portType : Int
  deriving DecidableEq, Repr

/-- The mode register and the super I/O chip. -/
structure Modes where
  modeReg : Byte
  chip : Chip

inductive Errno where
  | efault
  deriving DecidableEq, Repr

/-- The memory at `arg`. -/
structure UserArg where
  uartPort : Option PortType
  writable : Bool

/-- What a request returns, with what it leaves at `arg`. -/
abbrev Reply := Except Errno (Option PortType)

/-- The first type whose bit is set, `portType` if none is. -/
def readType (row : List Nat) (regVal : Byte) (portType : Int) : Int :=
  match (List.range 3).find? fun i => test regVal ((1 : Byte) <<< row.getD i 0) with
  | some i => i
  | none => portType

def getMode (b : Build) (s : Modes) (arg : UserArg) : Except CFault (Modes × Reply) :=
  match arg.uartPort with
  | none => .ok (s, .error .efault)
  | some uartPort => do
      let row ← entry b.uartModeBit uartPort.portNumber
      let portType := readType row s.modeReg uartPort.portType
      return (s, if arg.writable then .ok (some { uartPort with portType := portType })
        else .error .efault)

/-- The `switch` has cases for the ports of the build only. -/
def clearMode (b : Build) (portNumber : Int) (regVal : Byte) : Byte :=
  match b.ports.find? (fun port : Nat => (port : Int) = portNumber) with
  | some port => clearBits regVal (uartMask (b.uartModeBit.getD port []))
  | none => regVal

def setMode (b : Build) (s : Modes) (arg : UserArg) : Except CFault (Modes × Reply) :=
  match arg.uartPort with
  | none => .ok (s, .error .efault)
  | some uartPort => do
      let regVal := clearMode b uartPort.portNumber s.modeReg
      let row ← entry b.uartModeBit uartPort.portNumber
      let bit ← entry row uartPort.portType
      let regVal := setBits regVal ((1 : BitVec 32) <<< bit)
      let chip :=
        if uartPort.portType ≠ 1 then disableAutoDirectionControl b s.chip uartPort.portNumber
        else enableAutoDirectionControl b s.chip uartPort.portNumber
      return (⟨regVal, chip⟩, .ok none)

/-! ## Runs -/

/-- A request with a `port_type_t` that can be read and written. -/
inductive Request where
  | set8250Mode (uartPort : PortType)
  | get8250Mode (uartPort : PortType)
  deriving DecidableEq, Repr

def moxaUart8250ModeIoctl (b : Build) (s : Modes) : Request → Except CFault (Modes × Reply)
  | .set8250Mode uartPort => setMode b s ⟨some uartPort, true⟩
  | .get8250Mode uartPort => getMode b s ⟨some uartPort, true⟩

/-- The driver, what the last request returned, and the type last set with
success on each port. -/
structure Served where
  modes : Modes
  reply : Reply
  last : Int → Option Int

def Served.note (s : Served) : Request → Served
  | .set8250Mode uartPort =>
      if s.reply = .ok none then
        { s with last := Function.update s.last uartPort.portNumber (some uartPort.portType) }
      else s
  | .get8250Mode _ => s

def servedStep (b : Build) (s : Served) (r : Request) : Except CFault Served :=
  (moxaUart8250ModeIoctl b s.modes r).map fun (modes, reply) => Served.note ⟨modes, reply, s.last⟩ r

def served0 (s : Modes) : Served := ⟨s, .ok none, fun _ => none⟩

/-- The port is one of the build's. -/
def Build.hasPort (b : Build) (portNumber : Int) : Prop := ∃ port ∈ b.ports, portNumber = (port : Nat)

def hasType (portType : Int) : Prop := 0 ≤ portType ∧ portType < 3

/-- The build has what the request is about. -/
def Request.Has (b : Build) : Request → Prop
  | .set8250Mode uartPort => b.hasPort uartPort.portNumber ∧ hasType uartPort.portType
  | .get8250Mode uartPort => b.hasPort uartPort.portNumber

/-- Everything that the driver sets is as it was. -/
structure Unchanged (s t : Modes) : Prop where
  modeReg : t.modeReg = s.modeReg
  chip : t.chip.reg = s.chip.reg

/-- The mode bits of a port. -/
def Build.modeMask (b : Build) (port : Nat) : Byte :=
  (uartMask (b.uartModeBit.getD port [])).setWidth 8

/-- What a request does: one that the build has nothing for is refused and
changes nothing, an accepted one leaves the other port alone, and one that asks
changes nothing. -/
structure RequestExact (b : Build) (s : Served) (r : Request) (t : Served) : Prop where
  rejects : ¬ r.Has b → (∃ e, t.reply = .error e) ∧ Unchanged s.modes t.modes
  accepts : ∀ uartPort, r = .set8250Mode uartPort → t.reply = .ok none →
    autoDirection t.modes.chip (b.logicDev uartPort.portNumber) = decide (uartPort.portType = 1) ∧
    ∀ port ∈ b.ports, (port : Int) ≠ uartPort.portNumber →
      SameOn (b.modeMask port) t.modes.modeReg s.modes.modeReg ∧
      autoDirection t.modes.chip (b.logicDev port) = autoDirection s.modes.chip (b.logicDev port)
  asks : ∀ uartPort, r = .get8250Mode uartPort → Unchanged s.modes t.modes

/-- A port is said to be of the type last set. -/
def ReadsLast (b : Build) (s : Served) : Prop :=
  ∀ port ∈ b.ports, ∀ portType, s.last port = some portType → ∀ before,
    moxaUart8250ModeIoctl b s.modes (.get8250Mode ⟨(port : Nat), before⟩) =
      .ok (s.modes, .ok (some ⟨(port : Nat), portType⟩))

/-- **Modes are checked, and set apart from each other.** -/
structure Validated (b : Build) (s : Modes) (rs : List Request) : Prop where
  completes : ∃ t, run (servedStep b) (served0 s) rs = .ok t
  requests : EachStep (servedStep b) (RequestExact b) (served0 s) rs
  reads : Always (servedStep b) (ReadsLast b) (served0 s) rs

/-! ## The tables -/

/-- The bit of a type of a port. -/
def Build.bit (b : Build) (port type : Nat) : Nat := (b.uartModeBit.getD port []).getD type 0

theorem bit_lt (b : Build) : ∀ port ∈ b.ports, ∀ type < 3, b.bit port type < 8 := by
  cases b <;> decide

theorem bit_inj (b : Build) : ∀ port ∈ b.ports, ∀ i < 3, ∀ j < 3,
    b.bit port i = b.bit port j → i = j := by
  cases b <;> decide

/-- The mask of a port has the bits of its types. -/
theorem bit_mask (b : Build) : ∀ port ∈ b.ports, ∀ type < 3,
    (1 : Byte) <<< b.bit port type &&& b.modeMask port = (1 : Byte) <<< b.bit port type := by
  cases b <;> decide

theorem bit_covered {b : Build} {port i : Nat} (hport : port ∈ b.ports) (hi : i < 3) :
    (b.modeMask port).getLsbD (b.bit port i) = true :=
  getLsbD_covered (bit_mask b port hport i hi) (by
    rw [getLsbD_bit (bit_lt b port hport i hi), decide_eq_true rfl])

/-- The two ports of a build have nothing in common. -/
theorem masks_apart (b : Build) : ∀ port ∈ b.ports, ∀ port' ∈ b.ports, port' ≠ port →
    b.modeMask port &&& b.modeMask port' = 0 := by
  cases b <;> decide

theorem logicDev_apart (b : Build) : ∀ port ∈ b.ports, ∀ port' ∈ b.ports, port' ≠ port →
    b.logicDev (port' : Nat) ≠ b.logicDev (port : Nat) := by
  cases b <;> decide

theorem row_eq (b : Build) : ∀ port ∈ b.ports,
    b.uartModeBit[port]? = some (b.uartModeBit.getD port []) := by
  cases b <;> decide

theorem bit_eq (b : Build) : ∀ port ∈ b.ports, ∀ type < 3,
    (b.uartModeBit.getD port [])[type]? = some (b.bit port type) := by
  cases b <;> decide

/-! ## One request -/

/-- The mode register with the bit of one type of a port. -/
def Build.withMode (b : Build) (port type : Nat) (regVal : Byte) : Byte :=
  regVal &&& ~~~b.modeMask port ||| (1 : Byte) <<< b.bit port type

theorem clearMode_eq {b : Build} {port : Nat} (hport : port ∈ b.ports) (regVal : Byte) :
    clearMode b (port : Nat) regVal = regVal &&& ~~~b.modeMask port := by
  have hfind : b.ports.find? (fun port' : Nat => ((port' : Nat) : Int) = (port : Nat)) =
      some port := by
    revert port
    cases b <;> decide
  rw [clearMode, hfind]
  exact clearBits_eq regVal _

/-- Setting a type that the build has on a port that it has. -/
theorem setMode_eq {b : Build} {port type : Nat} (hport : port ∈ b.ports) (htype : type < 3)
    (s : Modes) :
    setMode b s ⟨some ⟨(port : Nat), (type : Nat)⟩, true⟩ = .ok (
      { modeReg := b.withMode port type s.modeReg
        chip := changeAutoDirection s.chip (b.logicDev (port : Nat))
          (direct (decide (type = 1))) }, .ok none) := by
  have hrow := entry_natCast (row_eq b port hport)
  have hbit := entry_natCast (bit_eq b port hport type htype)
  have hset : setBits (clearMode b (port : Nat) s.modeReg) ((1 : BitVec 32) <<< b.bit port type) =
      b.withMode port type s.modeReg := by
    rw [clearMode_eq hport, setBits_eq, BitVec.setWidth_shiftLeft_of_le (by decide)]
    rfl
  have hchip : (if (type : Int) ≠ 1 then disableAutoDirectionControl b s.chip (port : Nat)
      else enableAutoDirectionControl b s.chip (port : Nat)) =
      changeAutoDirection s.chip (b.logicDev (port : Nat)) (direct (decide (type = 1))) := by
    by_cases hone : type = 1
    · rw [hone]
      rfl
    · have hne : (type : Int) ≠ 1 := by omega
      rw [if_pos hne, decide_eq_false hone]
      rfl
  simp only [setMode, hrow, ← hset, ← hchip]
  show (entry _ _ >>= _) = _
  rw [hbit]
  rfl

theorem readType_eq {row : List Nat} {regVal : Byte} {type : Nat} (htype : type < 3)
    (h : ∀ i < 3, test regVal ((1 : Byte) <<< row.getD i 0) = decide (i = type)) (before : Int) :
    readType row regVal before = (type : Nat) := by
  have hfind : (List.range 3).find? (fun i => test regVal ((1 : Byte) <<< row.getD i 0)) =
      some type := by
    rw [List.find?_range_eq_some]
    refine ⟨?_, List.mem_range.mpr htype, ?_⟩
    · rw [h type htype, decide_eq_true rfl]
    · intro j hj
      rw [h j (Nat.lt_trans hj htype), decide_eq_false (Nat.ne_of_lt hj)]
      rfl
  rw [readType, hfind]

/-- A request that comes to an end is answered with 0. -/
theorem ioctl_ok {b : Build} {s t : Modes} {r : Request} {reply : Reply}
    (h : moxaUart8250ModeIoctl b s r = .ok (t, reply)) : ∃ left, reply = .ok left := by
  cases r with
  | set8250Mode uartPort =>
      obtain ⟨row, -, h⟩ := bind_ok_iff.mp h
      obtain ⟨bit, -, h⟩ := bind_ok_iff.mp h
      cases h
      exact ⟨none, rfl⟩
  | get8250Mode uartPort =>
      obtain ⟨row, -, h⟩ := bind_ok_iff.mp h
      cases h
      exact ⟨_, rfl⟩

theorem getMode_port {b : Build} {port : Nat} (hport : port ∈ b.ports) (s : Modes) (before : Int) :
    getMode b s ⟨some ⟨(port : Nat), before⟩, true⟩ =
      .ok (s, .ok (some ⟨(port : Nat),
        readType (b.uartModeBit.getD port []) s.modeReg before⟩)) := by
  simp only [getMode, entry_natCast (row_eq b port hport)]
  rfl

/-! ## The invariant -/

/-- The bits of the register are those of a type. -/
def Build.OfType (b : Build) (port type : Nat) (regVal : Byte) : Prop :=
  ∀ i < 3, regVal.getLsbD (b.bit port i) = decide (i = type)

theorem withMode_ofType {b : Build} {port type : Nat} (hport : port ∈ b.ports) (htype : type < 3)
    (regVal : Byte) : b.OfType port type (b.withMode port type regVal) := by
  intro i hi
  rw [Build.withMode, getLsbD_or_bit _ (bit_lt b port hport type htype), BitVec.getLsbD_and,
    BitVec.getLsbD_not, bit_covered hport hi]
  by_cases heq : i = type
  · rw [heq, if_pos rfl, decide_eq_true rfl]
  · have hne : ¬ b.bit port i = b.bit port type := fun hbit =>
      heq (bit_inj b port hport i hi type htype hbit)
    rw [if_neg hne, decide_eq_false heq]
    simp

theorem withMode_sameOn {b : Build} {port port' type : Nat} (hport : port ∈ b.ports)
    (hport' : port' ∈ b.ports) (hne : port' ≠ port) (htype : type < 3) (regVal : Byte) :
    SameOn (b.modeMask port') (b.withMode port type regVal) regVal :=
  replace_sameOn (bit_mask b port hport type htype) (masks_apart b port hport port' hport' hne)

/-- Words that agree on the mask of a port are of the same type. -/
theorem ofType_of_sameOn {b : Build} {port type : Nat} (hport : port ∈ b.ports) {x y : Byte}
    (hsame : SameOn (b.modeMask port) x y) (h : b.OfType port type y) : b.OfType port type x := by
  intro i hi
  have hcovered := bit_covered hport hi
  have hbit : (x &&& b.modeMask port).getLsbD (b.bit port i) =
      (y &&& b.modeMask port).getLsbD (b.bit port i) := by rw [hsame]
  rw [BitVec.getLsbD_and, BitVec.getLsbD_and, hcovered, Bool.and_true, Bool.and_true] at hbit
  rw [hbit, h i hi]

/-- The register has the types last set. -/
def Kept (b : Build) (s : Served) : Prop :=
  ∀ port ∈ b.ports, ∀ portType, s.last port = some portType →
    ∃ type < 3, portType = (type : Nat) ∧ b.OfType port type s.modes.modeReg

theorem Kept.reads {b : Build} {s : Served} (h : Kept b s) : ReadsLast b s := by
  intro port hport portType hlast before
  obtain ⟨type, htype, rfl, hof⟩ := h port hport portType hlast
  have hread : readType (b.uartModeBit.getD port []) s.modes.modeReg before = (type : Nat) := by
    refine readType_eq htype (fun i hi => ?_) before
    rw [← hof i hi]
    exact test_bit _ (bit_lt b port hport i hi)
  rw [moxaUart8250ModeIoctl, getMode_port hport, hread]

theorem servedStep_ok {b : Build} {s : Served} {r : Request} {modes : Modes} {reply : Reply}
    (h : moxaUart8250ModeIoctl b s.modes r = .ok (modes, reply)) :
    servedStep b s r = .ok (Served.note ⟨modes, reply, s.last⟩ r) := by
  rw [servedStep, h]
  rfl

theorem hasType_cases {portType : Int} (h : hasType portType) :
    ∃ type : Nat, type < 3 ∧ portType = (type : Nat) := by
  obtain ⟨hlow, hhigh⟩ := h
  exact ⟨portType.toNat, by omega, by omega⟩

theorem Kept.step {b : Build} {s t : Served} {r : Request} (h : Kept b s) (hr : r.Has b)
    (hstep : servedStep b s r = .ok t) : Kept b t := by
  cases r with
  | get8250Mode uartPort =>
      obtain ⟨portNumber, before⟩ := uartPort
      obtain ⟨port, hport, heq⟩ := hr
      cases heq
      have hget := getMode_port hport s.modes before
      cases (servedStep_ok (r := .get8250Mode _) hget).symm.trans hstep
      exact h
  | set8250Mode uartPort =>
      obtain ⟨portNumber, portType⟩ := uartPort
      obtain ⟨⟨port, hport, heq⟩, hhas⟩ := hr
      obtain ⟨type, htype, htypeEq⟩ := hasType_cases hhas
      cases heq
      cases htypeEq
      have hset := setMode_eq hport htype s.modes
      cases (servedStep_ok (r := .set8250Mode _) hset).symm.trans hstep
      intro port' hport' portType' hlast
      simp only [Served.note, if_true, Function.update_apply] at hlast
      by_cases hsame : port' = port
      · subst hsame
        rw [if_pos rfl] at hlast
        cases hlast
        exact ⟨type, htype, rfl, withMode_ofType hport htype _⟩
      · have hne : ¬ ((port' : Nat) : Int) = (port : Nat) := by omega
        rw [if_neg hne] at hlast
        obtain ⟨type', htype', htypeEq', hof⟩ := h port' hport' portType' hlast
        exact ⟨type', htype', htypeEq',
          ofType_of_sameOn hport' (withMode_sameOn hport hport' hsame htype _) hof⟩

/-- A request completes and is exact exactly if the build has what it is about. -/
theorem exact_iff (b : Build) (s : Served) (r : Request) :
    (∃ t, servedStep b s r = .ok t ∧ RequestExact b s r t) ↔ r.Has b := by
  constructor
  · rintro ⟨t, hstep, hrejects, -, -⟩
    by_contra hnot
    obtain ⟨⟨e, he⟩, -⟩ := hrejects hnot
    cases hioctl : moxaUart8250ModeIoctl b s.modes r with
    | error fault =>
        rw [servedStep, hioctl] at hstep
        cases hstep
    | ok result =>
        obtain ⟨modes, reply⟩ := result
        obtain ⟨left, rfl⟩ := ioctl_ok hioctl
        have hreply : t.reply = .ok left := by
          cases (servedStep_ok hioctl).symm.trans hstep
          cases r with
          | get8250Mode uartPort => rfl
          | set8250Mode uartPort =>
              rw [Served.note]
              split
              · rfl
              · rfl
        cases he.symm.trans hreply
  · intro hr
    cases r with
    | get8250Mode uartPort =>
        obtain ⟨portNumber, before⟩ := uartPort
        obtain ⟨port, hport, heq⟩ := id hr
        cases heq
        have hget := getMode_port hport s.modes before
        refine ⟨_, servedStep_ok (r := .get8250Mode _) hget, fun hnot => absurd hr hnot, ?_, ?_⟩
        · intro _ heq
          cases heq
        · intro _ _
          exact ⟨rfl, rfl⟩
    | set8250Mode uartPort =>
        obtain ⟨portNumber, portType⟩ := uartPort
        obtain ⟨⟨port, hport, heq⟩, hhas⟩ := id hr
        obtain ⟨type, htype, htypeEq⟩ := hasType_cases hhas
        cases heq
        cases htypeEq
        have hset := setMode_eq hport htype s.modes
        have hdirected := directed s.modes.chip (b.logicDev (port : Nat)) (decide (type = 1))
        refine ⟨_, servedStep_ok (r := .set8250Mode _) hset, fun hnot => absurd hr hnot, ?_, ?_⟩
        · intro _ heq _
          cases heq
          have hone : decide (((type : Nat) : Int) = 1) = decide (type = 1) :=
            decide_eq_decide.mpr (by omega)
          refine ⟨hdirected.self.trans hone.symm, fun port' hport' hne => ?_⟩
          have hne' : port' ≠ port := by
            rintro rfl
            exact hne rfl
          refine ⟨withMode_sameOn hport hport' hne' htype _, ?_⟩
          have hdev := logicDev_apart b port hport port' hport' hne'
          exact congrArg (test · autoDirectionBit) (hdirected.others _ _ (.inl hdev))
        · intro _ heq
          cases heq

/-! ## Whole runs -/

/-- **When the modes are checked**: whenever all requests are about what the
build has. -/
theorem uart8250_modes_validated_iff (b : Build) (s : Modes) (rs : List Request) :
    Validated b s rs ↔ ∀ r ∈ rs, r.Has b := by
  have hkept : Kept b (served0 s) := by
    intro port _ portType hlast
    cases hlast
  have hexact := ok_eachStep_always_iff_forall (fun _ _ _ hs hr ht => Kept.step hs hr ht)
    (fun s r _ => exact_iff b s r) (fun _ => Kept.reads) rs hkept
  constructor
  · rintro ⟨hcompletes, hrequests, hreads⟩
    exact hexact.mp ⟨hcompletes, hrequests, hreads⟩
  · intro h
    obtain ⟨hcompletes, hrequests, hreads⟩ := hexact.mpr h
    exact ⟨hcompletes, hrequests, hreads⟩

/-- A DA-820 is asked for the mode of a third port, which its table has not. -/
theorem third_port_is_looked_up :
    ¬ Validated .da820 ⟨0x11, blankChip⟩ [.get8250Mode ⟨2, 0⟩] := by
  intro h
  obtain ⟨t, ht⟩ := h.completes
  cases ht

end MoxaDrivers.UartMode.Moxa8250

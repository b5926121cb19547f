import MoxaDrivers.Lib.CInt
import MoxaDrivers.Lib.Machine
import MoxaDrivers.UartMode.AutoDirection

/-!
# The serial modes of a V2201

`moxa_v2200_uart` takes one byte for a request, the port in its upper half and
the mode in its lower half. The mode bits of both ports are in I/O port 0x304,
where they cannot be read back as a mode, so the driver keeps the modes in
`keep_opmode`. A request is refused only if both of its halves are bad.
-/

namespace MoxaDrivers.UartMode.V2201

open MoxaDrivers.Superio MoxaDrivers.Bits MoxaDrivers.CInt MoxaDrivers.Machine

def rs232Mode : Byte := 0
def rs4852wireMode : Byte := 1
def rs422Mode : Byte := 2
def rs4854wireMode : Byte := 3

inductive Errno where
  | efault
  | einval
  deriving DecidableEq, Repr

/-- The mode register, `keep_opmode` and the super I/O chip. -/
structure Modes where
  modeReg : Byte
  keepOpmode : Byte
  chip : Chip

/-- A request with the byte at `arg`. -/
inductive Request where
  | setOpMode (opmode : Byte)
  | getOpMode (port : Byte)
  deriving DecidableEq, Repr

/-- What a request returns, with the byte that it leaves at `arg`. -/
abbrev Reply := Except Errno (Option Byte)

/-- The bits of a mode in the low half of the register. -/
def modeBits (opmode : Byte) : BitVec 32 :=
  if opmode = rs232Mode then 0x8
  else if opmode = rs4852wireMode then 0x2
  else if opmode = rs422Mode ∨ opmode = rs4854wireMode then 0x4
  else 0

def setOpMode (s : Modes) (request : Byte) : Except CFault (Modes × Reply) :=
  let port := request >>> 4
  let opmode := request &&& 0xF
  if opmode ≠ rs232Mode ∧ opmode ≠ rs4852wireMode ∧ opmode ≠ rs422Mode ∧
      opmode ≠ rs4854wireMode ∧ port > 1 then .ok (s, .error .efault)
  else do
    let n ← shiftCount (4 * port.toNat : Nat)
    let val := setBits (clearBits s.modeReg ((0xE : BitVec 32) <<< n)) (modeBits opmode <<< n)
    let keepOpmode :=
      setBits (clearBits s.keepOpmode ((0xF : BitVec 32) <<< n)) (opmode.setWidth 32 <<< n)
    let chip := changeAutoDirection s.chip (port + 1) fun val =>
      if opmode ≠ rs4852wireMode then val &&& ~~~0x80 else val ||| 0x80
    return (⟨val, keepOpmode, chip⟩, .ok none)

def getOpMode (s : Modes) (port : Byte) : Except CFault (Modes × Reply) :=
  if port > 1 then .ok (s, .error .einval)
  else do
    let n ← shiftCount (port.toNat * 4 : Nat)
    return (s, .ok (some ((s.keepOpmode.setWidth 32 >>> n &&& 0xF).setWidth 8)))

def ioIoctl (s : Modes) : Request → Except CFault (Modes × Reply)
  | .setOpMode opmode => setOpMode s opmode
  | .getOpMode port => getOpMode s port

/-! ## Runs -/

/-- The driver, what the last request returned, and the mode last set with
success on each port. -/
structure Served where
  modes : Modes
  reply : Reply
  last : Byte → Option Byte

def Served.note (s : Served) : Request → Served
  | .setOpMode opmode =>
      if s.reply = .ok none then
        { s with last := Function.update s.last (opmode >>> 4) (some (opmode &&& 0xF)) }
      else s
  | .getOpMode _ => s

def servedStep (s : Served) (r : Request) : Except CFault Served :=
  (ioIoctl s.modes r).map fun (modes, reply) => Served.note ⟨modes, reply, s.last⟩ r

def served0 (s : Modes) : Served := ⟨s, .ok none, fun _ => none⟩

/-- The port and the mode of a request exist. -/
def portOk (opmode : Byte) : Prop := opmode >>> 4 ≤ 1
def modeOk (opmode : Byte) : Prop := opmode &&& 0xF ≤ 3

instance (opmode : Byte) : Decidable (portOk opmode) := inferInstanceAs (Decidable (_ ≤ _))
instance (opmode : Byte) : Decidable (modeOk opmode) := inferInstanceAs (Decidable (_ ≤ _))

/-- Everything that the driver keeps is as it was. -/
structure Unchanged (s t : Modes) : Prop where
  modeReg : t.modeReg = s.modeReg
  keepOpmode : t.keepOpmode = s.keepOpmode
  chip : t.chip.reg = s.chip.reg

/-- What a request does: a bad one is refused and changes nothing, an accepted
one changes its own port, and one that asks changes nothing. -/
structure RequestExact (s : Served) (r : Request) (t : Served) : Prop where
  rejects : ∀ opmode, r = .setOpMode opmode → ¬ (portOk opmode ∧ modeOk opmode) →
    (∃ e, t.reply = .error e) ∧ Unchanged s.modes t.modes
  accepts : ∀ opmode, r = .setOpMode opmode → t.reply = .ok none →
    SameOn (~~~((0xE : Byte) <<< (4 * (opmode >>> 4).toNat))) t.modes.modeReg s.modes.modeReg ∧
    Directed s.modes.chip t.modes.chip (opmode >>> 4 + 1) (decide (opmode &&& 0xF = rs4852wireMode))
  asks : ∀ port, r = .getOpMode port → Unchanged s.modes t.modes

/-- A port is said to be in the mode last set. -/
def ReadsLast (s : Served) : Prop :=
  ∀ port mode, port ≤ 1 → s.last port = some mode →
    ∃ modes, ioIoctl s.modes (.getOpMode port) = .ok (modes, .ok (some mode))

/-- **Modes are checked, and set apart from each other.** -/
structure Validated (s : Modes) (rs : List Request) : Prop where
  completes : ∃ t, run servedStep (served0 s) rs = .ok t
  requests : EachStep servedStep RequestExact (served0 s) rs
  reads : Always servedStep ReadsLast (served0 s) rs

/-- A request whose halves are both good or both bad. -/
def Request.Halves : Request → Prop
  | .setOpMode opmode => portOk opmode ↔ modeOk opmode
  | .getOpMode _ => True

instance : DecidablePred Request.Halves
  | .setOpMode opmode => inferInstanceAs (Decidable (portOk opmode ↔ modeOk opmode))
  | .getOpMode _ => .isTrue trivial

/-! ## One request -/

theorem modeOk_iff {opmode : Byte} : modeOk opmode ↔ opmode &&& 0xF = rs232Mode ∨
    opmode &&& 0xF = rs4852wireMode ∨ opmode &&& 0xF = rs422Mode ∨
    opmode &&& 0xF = rs4854wireMode := by
  simp only [modeOk, rs232Mode, rs4852wireMode, rs422Mode, rs4854wireMode]
  generalize opmode &&& 0xF = mode
  bv_omega

theorem port_cases {port : Byte} (h : port ≤ 1) : port = 0 ∨ port = 1 := by bv_omega

/-- The only test of a request. -/
theorem refused_iff (opmode : Byte) :
    (opmode &&& 0xF ≠ rs232Mode ∧ opmode &&& 0xF ≠ rs4852wireMode ∧ opmode &&& 0xF ≠ rs422Mode ∧
        opmode &&& 0xF ≠ rs4854wireMode ∧ opmode >>> 4 > 1) ↔
      ¬ portOk opmode ∧ ¬ modeOk opmode := by
  have hport : opmode >>> 4 > 1 ↔ ¬ portOk opmode := by
    simp only [portOk]
    bv_omega
  rw [hport, modeOk_iff]
  tauto

theorem setOpMode_refused {opmode : Byte} (hport : ¬ portOk opmode) (hmode : ¬ modeOk opmode)
    (s : Modes) : setOpMode s opmode = .ok (s, .error .efault) := by
  have hrefused := (refused_iff opmode).mpr ⟨hport, hmode⟩
  rw [setOpMode]
  exact if_pos hrefused

/-- A request that is not refused is not checked any more. -/
theorem setOpMode_unrefused {opmode : Byte} (h : portOk opmode ∨ modeOk opmode) {s t : Modes}
    {reply : Reply} (hset : setOpMode s opmode = .ok (t, reply)) : reply = .ok none := by
  have hrefused := (refused_iff opmode).not.mpr (fun hboth => h.elim hboth.1 hboth.2)
  simp only [setOpMode, if_neg hrefused] at hset
  obtain ⟨n, -, hdone⟩ := bind_ok_iff.mp hset
  cases hdone
  rfl

/-- The place of a port's bits. -/
def place (port : Byte) : Nat := 4 * port.toNat

theorem place_lt {port : Byte} (h : port ≤ 1) : place port < 32 := by
  rw [place]
  bv_omega

/-- A request for a port that exists. -/
theorem setOpMode_port {opmode : Byte} (h : portOk opmode) (s : Modes) :
    setOpMode s opmode = .ok (
      { modeReg := setField s.modeReg (place (opmode >>> 4)) 0xE
          ((modeBits (opmode &&& 0xF)).setWidth 8)
        keepOpmode := setField s.keepOpmode (place (opmode >>> 4)) 0xF (opmode &&& 0xF)
        chip := changeAutoDirection s.chip (opmode >>> 4 + 1)
          (direct (decide (opmode &&& 0xF = rs4852wireMode))) }, .ok none) := by
  have hrefused := (refused_iff opmode).not.mpr (fun hboth => hboth.1 h)
  have hcount : shiftCount (4 * (opmode >>> 4).toNat : Nat) = .ok (place (opmode >>> 4)) :=
    shiftCount_natCast (place_lt h)
  have hdirect : (fun val : Byte =>
      if opmode &&& 0xF ≠ rs4852wireMode then val &&& ~~~(0x80 : Byte) else val ||| 0x80) =
        direct (decide (opmode &&& 0xF = rs4852wireMode)) := by
    funext val
    by_cases hmode : opmode &&& 0xF = rs4852wireMode
    · rw [if_neg (not_not.mpr hmode), decide_eq_true hmode]
      rfl
    · rw [if_pos hmode, decide_eq_false hmode]
      rfl
  have hwidth : ((opmode &&& 0xF).setWidth 32).setWidth 8 = opmode &&& 0xF := by
    rw [BitVec.setWidth_setWidth_of_le _ (by decide), BitVec.setWidth_eq]
  simp only [setOpMode, if_neg hrefused, hcount, hdirect, setField_int, hwidth]
  rfl

theorem getOpMode_port {port : Byte} (h : port ≤ 1) (s : Modes) :
    getOpMode s port = .ok (s, .ok (some (field s.keepOpmode (place port) 0xF))) := by
  have hbig : ¬ port > 1 := by bv_omega
  have hcount : shiftCount (port.toNat * 4 : Nat) = .ok (place port) := by
    rw [Nat.mul_comm]
    exact shiftCount_natCast (place_lt h)
  simp only [getOpMode, if_neg hbig, hcount, field_int]
  rfl

theorem getOpMode_ok (s : Modes) (port : Byte) : ∃ reply, getOpMode s port = .ok (s, reply) := by
  by_cases h : port ≤ 1
  · exact ⟨_, getOpMode_port h s⟩
  · have hbig : port > 1 := by bv_omega
    exact ⟨.error .einval, if_pos hbig⟩

/-! ## The invariant -/

/-- `keep_opmode` has the modes last set. -/
def Kept (s : Served) : Prop :=
  ∀ port mode, port ≤ 1 → s.last port = some mode →
    field s.modes.keepOpmode (place port) 0xF = mode

theorem Kept.reads {s : Served} (h : Kept s) : ReadsLast s := by
  intro port mode hport hlast
  refine ⟨s.modes, ?_⟩
  rw [ioIoctl, getOpMode_port hport, h port mode hport hlast]

/-- The halves of `keep_opmode` do not meet. -/
theorem field_keepOpmode {port port' : Byte} (hport : port ≤ 1) (hport' : port' ≤ 1)
    (x : Byte) {mode : Byte} (hmode : mode &&& 0xF = mode) :
    field (setField x (place port) 0xF mode) (place port') 0xF =
      if port' = port then mode else field x (place port') 0xF := by
  have hapart : ∀ port ∈ ([0, 1] : List Byte), ∀ port' ∈ ([0, 1] : List Byte), port' ≠ port →
      (0xF : Byte) <<< place port &&& 0xF <<< place port' = 0 := by decide
  have hfits : ∀ port ∈ ([0, 1] : List Byte),
      (0xF : Byte) <<< place port >>> place port = 0xF := by decide
  have hin : ∀ {port : Byte}, port ≤ 1 → port ∈ ([0, 1] : List Byte) := by
    intro port hport
    simpa using port_cases hport
  by_cases heq : port' = port
  · rw [if_pos heq, heq]
    exact field_setField (hfits port (hin hport)) hmode
  · rw [if_neg heq]
    exact field_setField_of_disjoint (hapart port (hin hport) port' (hin hport') heq)
      (hfits port' (hin hport')) hmode

theorem servedStep_ok {s : Served} {r : Request} {modes : Modes} {reply : Reply}
    (h : ioIoctl s.modes r = .ok (modes, reply)) :
    servedStep s r = .ok (Served.note ⟨modes, reply, s.last⟩ r) := by
  rw [servedStep, h]
  rfl

/-- A request for a port that exists keeps it. -/
theorem Kept.step {s t : Served} {r : Request} (h : Kept s) (hr : r.Halves)
    (hstep : servedStep s r = .ok t) : Kept t := by
  cases r with
  | getOpMode port =>
      obtain ⟨reply, hget⟩ := getOpMode_ok s.modes port
      cases (servedStep_ok (r := .getOpMode port) hget).symm.trans hstep
      exact h
  | setOpMode opmode =>
      by_cases hport : portOk opmode
      · have hset := setOpMode_port hport s.modes
        cases (servedStep_ok (r := .setOpMode opmode) hset).symm.trans hstep
        intro port mode hle hlast
        have hmask : opmode &&& 0xF &&& 0xF = opmode &&& 0xF := by
          rw [BitVec.and_assoc, BitVec.and_self]
        show field (setField s.modes.keepOpmode _ _ _) _ _ = mode
        rw [field_keepOpmode hport hle _ hmask]
        simp only [Served.note, if_true, Function.update_apply] at hlast
        split
        · next heq =>
            rw [if_pos heq] at hlast
            exact Option.some.inj hlast
        · next heq =>
            rw [if_neg heq] at hlast
            exact h port mode hle hlast
      · have hset := setOpMode_refused hport (fun hmode => hport (hr.mpr hmode)) s.modes
        cases (servedStep_ok (r := .setOpMode opmode) hset).symm.trans hstep
        exact h

theorem Unchanged.refl (s : Modes) : Unchanged s s := ⟨rfl, rfl, rfl⟩

theorem modeBits_mask (opmode : Byte) :
    (modeBits opmode).setWidth 8 &&& 0xE = (modeBits opmode).setWidth 8 := by
  simp only [modeBits]
  split
  · decide
  · split
    · decide
    · split
      · decide
      · decide

/-- A request completes and is exact exactly if its halves are both good or both
bad. -/
theorem exact_iff (s : Served) (r : Request) :
    (∃ t, servedStep s r = .ok t ∧ RequestExact s r t) ↔ r.Halves := by
  cases r with
  | getOpMode port =>
      obtain ⟨reply, hget⟩ := getOpMode_ok s.modes port
      refine iff_of_true ⟨_, servedStep_ok (r := .getOpMode port) hget, ?_, ?_, ?_⟩ trivial
      · intro _ hr
        cases hr
      · intro _ hr
        cases hr
      · intro _ _
        exact Unchanged.refl s.modes
  | setOpMode opmode =>
      constructor
      · rintro ⟨t, hstep, hrejects, -, -⟩
        by_contra hbad
        have hone : portOk opmode ∨ modeOk opmode := by
          simp only [Request.Halves] at hbad
          tauto
        have hnot : ¬ (portOk opmode ∧ modeOk opmode) := fun hboth =>
          hbad (iff_of_true hboth.1 hboth.2)
        obtain ⟨e, he⟩ := (hrejects opmode rfl hnot).1
        -- it is answered with 0
        cases hset : setOpMode s.modes opmode with
        | error fault =>
            rw [servedStep, ioIoctl, hset] at hstep
            cases hstep
        | ok result =>
            obtain ⟨modes, reply⟩ := result
            obtain rfl := setOpMode_unrefused hone hset
            cases (servedStep_ok (r := .setOpMode opmode) hset).symm.trans hstep
            cases he
      · intro hr
        by_cases hport : portOk opmode
        · have hset := setOpMode_port hport s.modes
          refine ⟨_, servedStep_ok (r := .setOpMode opmode) hset, ?_, ?_, ?_⟩
          · intro _ heq hbad
            cases heq
            exact absurd ⟨hport, hr.mp hport⟩ hbad
          · intro _ heq _
            cases heq
            exact ⟨setField_sameOn (modeBits_mask _) _ _, directed _ _ _⟩
          · intro _ heq
            cases heq
        · have hset := setOpMode_refused hport (fun hmode => hport (hr.mpr hmode)) s.modes
          refine ⟨_, servedStep_ok (r := .setOpMode opmode) hset, ?_, ?_, ?_⟩
          · intro _ _ _
            exact ⟨⟨_, rfl⟩, Unchanged.refl s.modes⟩
          · intro _ _ hok
            cases hok
          · intro _ heq
            cases heq

/-! ## Whole runs -/

/-- **When the modes of a V2201 are checked**: whenever a request that sets a mode
has a bad half, the other is bad too. -/
theorem modes_validated_iff (s : Modes) (rs : List Request) :
    Validated s rs ↔ ∀ r ∈ rs, r.Halves := by
  have hkept : Kept (served0 s) := by
    intro port mode _ hlast
    cases hlast
  have hexact := ok_eachStep_always_iff_forall (fun _ _ _ hs hr ht => Kept.step hs hr ht)
    (fun s r _ => exact_iff s r) (fun _ => Kept.reads) rs hkept
  constructor
  · rintro ⟨hcompletes, hrequests, hreads⟩
    exact hexact.mp ⟨hcompletes, hrequests, hreads⟩
  · intro h
    obtain ⟨hcompletes, hrequests, hreads⟩ := hexact.mpr h
    exact ⟨hcompletes, hrequests, hreads⟩

/-- Mode 4, which does not exist, is set on port 0. -/
theorem mode_4_is_set :
    ¬ Validated ⟨0x88, 0, blankChip⟩ [.setOpMode 0x04] := by
  intro h
  obtain ⟨⟨e, he⟩, -⟩ := (h.requests [] (.setOpMode 0x04) (List.prefix_refl _) _ rfl _ rfl).rejects
    0x04 rfl (by decide)
  cases he

end MoxaDrivers.UartMode.V2201

import MoxaDrivers.Mxupcie.Terminator

/-!
# Calls that share a register

The ports of a board share its UIR registers and its GPIO register, and neither
`mx_set_interface` nor `mx_set_terminator` takes a lock: another call may come
between the register read of one and its register write. `begin` is a call up
to its read, `finish` its write and its return.
-/

namespace MoxaDrivers.Mxupcie.Board

open MoxaDrivers.Bits MoxaDrivers.Mxser
open MoxaDrivers.Machine

/-- A call between its register read and its register write. -/
structure InProgress where
  req : Request
  write : RegWrite
  deriving DecidableEq, Repr

/-- The driver with the calls in progress, and for each port the value of the
last call that completed and succeeded. -/
structure Sharing where
  driver : Driver
  inProgress : List InProgress
  lastMode : Nat → Option Byte
  lastTerminator : Nat → Option Byte

def sharing0 (d : Driver) : Sharing := ⟨d, [], fun _ => none, fun _ => none⟩

inductive ShareOp where
  | begin (r : Request)
  | finish (i : Nat)
  deriving DecidableEq, Repr

/-- A call returns 0. -/
def Sharing.complete (s : Sharing) (r : Request) : Sharing :=
  match r.cmd with
  | .setInterface => { s with lastMode := Function.update s.lastMode r.port (some r.val) }
  | .setTerminator =>
      { s with lastTerminator := Function.update s.lastTerminator r.port (some r.val) }

def shareBegin (v2616A : Bool) (s : Sharing) (r : Request) : Sharing :=
  match ioctlRead v2616A s.driver r with
  | (d, .ok w) => { s with driver := d, inProgress := ⟨r, w⟩ :: s.inProgress }
  | (d, .error _) => { s with driver := d }

def shareFinish (s : Sharing) (i : Nat) : Sharing :=
  match s.inProgress[i]? with
  | none => s
  | some c => Sharing.complete
      { s with driver := s.driver.write c.write, inProgress := s.inProgress.eraseIdx i } c.req

def shareStep (v2616A : Bool) (s : Sharing) : ShareOp → Except Empty Sharing
  | .begin r => .ok (shareBegin v2616A s r)
  | .finish i => .ok (shareFinish s i)

/-- A call that no other comes between is the ioctl in one go. -/
theorem shareFinish_begin (v2616A : Bool) {s : Sharing} (hnone : s.inProgress = []) (r : Request) :
    (shareFinish (shareBegin v2616A s r) 0).driver = (mxupcieIoctl v2616A s.driver r).1 := by
  unfold mxupcieIoctl shareBegin
  rcases ioctlRead v2616A s.driver r with ⟨d, w | e⟩
  · show (shareFinish { s with driver := d } 0).driver = d
    rw [shareFinish, hnone]
    rfl
  · show (Sharing.complete _ r).driver = _
    rw [Sharing.complete]
    cases r.cmd with
    | setInterface => rfl
    | setTerminator => rfl

/-! ## What is asked, and when it holds -/

/-- The mode that the hardware holds for port `n`. -/
def Driver.modeOf (d : Driver) (n : Nat) : Option Byte := (d.mxvarTable n).map d.mode

/-- With no call in progress, each port has the mode and the terminator of the
last call for it, or those of the set-up `d0` of the boards. -/
def SettingsKept (d0 : Driver) (s : Sharing) : Prop :=
  s.inProgress = [] → ∀ n,
    s.driver.modeOf n = (s.lastMode n).or (d0.modeOf n) ∧
    s.driver.terminatorBit n = (s.lastTerminator n).or (d0.terminatorBit n)

/-- The bits of its register that a call is about. -/
def Driver.ownBits (d : Driver) (r : Request) : Byte :=
  match d.mxvarTable r.port with
  | none => 0
  | some e =>
      match r.cmd with
      | .setInterface => modeMask <<< (4 * (e.port % 2))
      | .setTerminator => (terminatorShift e).elim 0 fun s => 1 <<< s

/-- What is in the register that a write goes to. -/
def Driver.target (d : Driver) : RegWrite → Byte
  | .uir b a _ => (d.iobar3 b).uir a
  | .gpioOut b _ => (d.iobar3 b).gpioOut

def RegWrite.chipVal : RegWrite → Byte
  | .uir _ _ v => v
  | .gpioOut _ v => v

/-- A call that comes to its write finds the register as it read it, outside of
its own bits; a terminator is set on a port of the first slot. -/
def Unraced (s : Sharing) : ShareOp → Prop
  | .begin r => ∀ e, TakesTerminator s.driver r e → (terminatorShift e).isSome →
      r.port < mxupciePortsPerBoard
  | .finish i => ∀ c, s.inProgress[i]? = some c →
      SameOn (~~~(s.driver.ownBits c.req)) c.write.chipVal (s.driver.target c.write)

/-! ## The calls in progress -/

/-- The write of a call in progress puts its value into some reading of the
register of its port. -/
inductive CallOk (d : Driver) (c : InProgress) : Prop
  | interface (e : PortInfo) (chipVal : Byte) (hcmd : c.req.cmd = .setInterface)
      (hinfo : d.mxvarTable c.req.port = some e) (hval : c.req.val &&& modeMask = c.req.val)
      (hwrite : c.write = .uir e.iobar3Addr e.uirAddr (uirVal e.port chipVal c.req.val))
  | terminator (e : PortInfo) (s : Nat) (chipVal : Byte) (hcmd : c.req.cmd = .setTerminator)
      (hinfo : d.mxvarTable c.req.port = some e)
      (hval : c.req.val = mxTermNone ∨ c.req.val = mxTerm120)
      (hs : terminatorShift e = some s) (hfirst : c.req.port < mxupciePortsPerBoard)
      (hwrite : c.write = .gpioOut e.iobar3Addr (terminatorVal s chipVal c.req.val))

theorem terminatorShift_congr {f e : PortInfo} (h : SamePlace f e) :
    terminatorShift f = terminatorShift e := by
  rw [terminatorShift, h.boardType, h.port, terminatorShift]

/-- What other calls record does not matter to it. -/
theorem CallOk.recorded {d : Driver} {c : InProgress} (h : CallOk d c) {r : Request}
    {e : PortInfo} (he : d.mxvarTable r.port = some e) : CallOk (recorded d r e) c := by
  cases h with
  | interface f chipVal hcmd hinfo hval hwrite =>
      obtain ⟨f', hf', hs⟩ := recorded_of_entry he hinfo
      rw [← hs.iobar3Addr, ← hs.uirAddr, ← hs.port] at hwrite
      exact .interface f' chipVal hcmd hf' hval hwrite
  | terminator f s chipVal hcmd hinfo hval hs hfirst hwrite =>
      obtain ⟨f', hf', hp⟩ := recorded_of_entry he hinfo
      rw [← terminatorShift_congr hp] at hs
      rw [← hp.iobar3Addr] at hwrite
      exact .terminator f' s chipVal hcmd hf' hval hs hfirst hwrite

/-- Nor do their writes. -/
theorem CallOk.write {d : Driver} {c : InProgress} (h : CallOk d c) (w : RegWrite) :
    CallOk (d.write w) c := by
  have htable : (d.write w).mxvarTable = d.mxvarTable := by
    cases w with
    | uir b a v => rfl
    | gpioOut b v => rfl
  cases h with
  | interface f chipVal hcmd hinfo hval hwrite =>
      exact .interface f chipVal hcmd (htable ▸ hinfo) hval hwrite
  | terminator f s chipVal hcmd hinfo hval hs hfirst hwrite =>
      exact .terminator f s chipVal hcmd (htable ▸ hinfo) hval hs hfirst hwrite

/-- The call that has come to its read. -/
theorem CallOk.of_read {v2616A : Bool} {d d' : Driver} {r : Request} {w : RegWrite}
    (hread : ioctlRead v2616A d r = (d', .ok w))
    (hfirst : ∀ e, TakesTerminator d r e → (terminatorShift e).isSome →
      r.port < mxupciePortsPerBoard) :
    (∃ e, d.mxvarTable r.port = some e ∧ d' = Board.recorded d r e) ∧ CallOk d' ⟨r, w⟩ := by
  have hcases := ioctlRead_cases v2616A d r
  rw [hread] at hcases
  cases hcases with
  | interface e h =>
      refine ⟨⟨e, h.info, rfl⟩, CallOk.recorded ?_ h.info⟩
      exact .interface e ((d.iobar3 e.iobar3Addr).uir e.uirAddr) h.cmd h.info
        (interfaceOk_fits h.ok) (h.regWrite 0)
  | terminator e s h hs =>
      refine ⟨⟨e, h.info, rfl⟩, CallOk.recorded ?_ h.info⟩
      exact .terminator e s (d.iobar3 e.iobar3Addr).gpioOut h.cmd h.info h.val hs
        (hfirst e h (by rw [hs]; rfl)) (h.regWrite s)

/-! ## The writes -/

theorem modeOf_congr {d u : Driver} {n : Nat} (htable : u.mxvarTable n = d.mxvarTable n)
    (huir : ∀ b, (u.iobar3 b).uir = (d.iobar3 b).uir) : u.modeOf n = d.modeOf n := by
  have hmode : u.mode = d.mode := by
    funext e
    exact Driver.mode_congr (huir e.iobar3Addr)
  rw [Driver.modeOf, htable, hmode, Driver.modeOf]

theorem modeOf_recorded (d : Driver) (r : Request) {e : PortInfo}
    (he : d.mxvarTable r.port = some e) (n : Nat) :
    (recorded d r e).modeOf n = d.modeOf n := by
  cases hn : d.mxvarTable n with
  | none =>
      cases hnew : (recorded d r e).mxvarTable n with
      | none => simp [Driver.modeOf, hn, hnew]
      | some g =>
          obtain ⟨g', hg', -⟩ := recorded_entry he hnew
          cases hn.symm.trans hg'
  | some g =>
      obtain ⟨g', hg', hs⟩ := recorded_of_entry he hn
      simp [Driver.modeOf, hn, hg', Driver.mode, hs.iobar3Addr, hs.uirAddr, hs.port]

theorem modeOf_write_gpio (d : Driver) (b : Nat) (v : Byte) (n : Nat) :
    (d.write (.gpioOut b v)).modeOf n = d.modeOf n := by
  refine modeOf_congr rfl fun c => ?_
  by_cases hc : c = b
  · simp [Driver.write, Driver.setIobar3, hc]
  · simp [Driver.write, Driver.setIobar3, Function.update_of_ne hc]

/-- **The write of a mode** that finds the register as it was read sets the mode
of its port and no other. -/
theorem modeOf_write {d : Driver} (hd : TableOk d) {n : Nat} {e : PortInfo}
    (he : d.mxvarTable n = some e) {chipVal val : Byte} (hval : val &&& modeMask = val)
    (hsame : SameOn (~~~(modeMask <<< (4 * (e.port % 2)))) (uirVal e.port chipVal val)
      ((d.iobar3 e.iobar3Addr).uir e.uirAddr)) (q : Nat) :
    (d.write (.uir e.iobar3Addr e.uirAddr (uirVal e.port chipVal val))).modeOf q =
      if q = n then some val else d.modeOf q := by
  by_cases hq : q = n
  · subst hq
    rw [if_pos rfl, Driver.modeOf, show (d.write (.uir e.iobar3Addr e.uirAddr
      (uirVal e.port chipVal val))).mxvarTable q = some e from he]
    exact congrArg some (mode_write_self d e hval chipVal)
  · rw [if_neg hq, Driver.modeOf, Driver.modeOf]
    show (d.mxvarTable q).map _ = (d.mxvarTable q).map _
    cases hf : d.mxvarTable q with
    | none => rfl
    | some f =>
        rw [uirVal_eq_setField] at hsame ⊢
        rw [setField_of_sameOn hval hsame, ← uirVal_eq_setField]
        refine congrArg some (mode_write_other d hval ?_)
        exact fun h => hq (hd.sameUir he hf h).symm

/-- The same for a terminator. -/
theorem terminatorBit_write_fresh {d : Driver} (hd : TableOk d) {n k : Nat} {e : PortInfo}
    (he : d.mxvarTable n = some e) (hk : terminatorShift e = some k)
    (hfirst : n < mxupciePortsPerBoard) {chipVal val : Byte}
    (hval : val = mxTermNone ∨ val = mxTerm120)
    (hsame : SameOn (~~~((1 : Byte) <<< k)) (terminatorVal k chipVal val)
      (d.iobar3 e.iobar3Addr).gpioOut) (q : Nat) :
    (d.write (.gpioOut e.iobar3Addr (terminatorVal k chipVal val))).terminatorBit q =
      if q = n then some val else d.terminatorBit q := by
  have hfit : val &&& 1 = val := by
    rcases hval with rfl | rfl
    · rfl
    · rfl
  have hplace : terminatorPlace e.boardType n = some k := by
    rw [← terminatorShift_first (hd.entry n e he).port hfirst, hk]
  have hcur : terminatorVal k chipVal val =
      terminatorVal k (d.iobar3 e.iobar3Addr).gpioOut val :=
    setField_of_sameOn hfit hsame
  rw [hcur]
  exact terminatorBit_write hd he hplace hval q

/-! ## The runs -/

/-- What holds with calls in progress too. -/
structure SharingOk (d0 : Driver) (s : Sharing) : Prop where
  table : TableOk s.driver
  calls : ∀ c ∈ s.inProgress, CallOk s.driver c
  modes : ∀ n, s.driver.modeOf n = (s.lastMode n).or (d0.modeOf n)
  terminators : ∀ n, s.driver.terminatorBit n = (s.lastTerminator n).or (d0.terminatorBit n)

theorem sharing0_ok {d : Driver} (h : TableOk d) : SharingOk d (sharing0 d) where
  table := h
  calls := fun _ hc => absurd hc List.not_mem_nil
  modes := fun _ => rfl
  terminators := fun _ => rfl

theorem shareBegin_ok {v2616A : Bool} {d0 : Driver} {s : Sharing} {r : Request}
    (hs : SharingOk d0 s) (hc : Unraced s (.begin r)) : SharingOk d0 (shareBegin v2616A s r) := by
  cases hread : ioctlRead v2616A s.driver r with
  | mk d res =>
      cases res with
      | ok w =>
          obtain ⟨⟨e, he, hd⟩, hcall⟩ := CallOk.of_read hread hc
          simp only [shareBegin, hread]
          subst hd
          exact {
            table := hs.table.recorded he
            calls := fun c hmem => by
              rcases List.mem_cons.mp hmem with rfl | hold
              · exact hcall
              · exact (hs.calls c hold).recorded he
            modes := fun n => (modeOf_recorded s.driver r he n).trans (hs.modes n)
            terminators := fun n =>
              (terminatorBit_recorded s.driver r he n).trans (hs.terminators n) }
      | error err =>
          simp only [shareBegin, hread]
          have hcases := ioctlRead_cases v2616A s.driver r
          rw [hread] at hcases
          cases hcases with
          | flagged e h hk =>
              exact {
                table := hs.table.recorded h.info
                calls := fun c hmem => (hs.calls c hmem).recorded h.info
                modes := fun n => (modeOf_recorded s.driver r h.info n).trans (hs.modes n)
                terminators := fun n =>
                  (terminatorBit_recorded s.driver r h.info n).trans (hs.terminators n) }
          | refused err hi ht => exact ⟨hs.table, hs.calls, hs.modes, hs.terminators⟩

theorem or_update (f : Nat → Option Byte) (n q : Nat) (v : Byte) (x : Option Byte) :
    (Function.update f n (some v) q).or x = if q = n then some v else (f q).or x := by
  by_cases hq : q = n
  · simp [hq]
  · simp [hq]

theorem shareFinish_ok {d0 : Driver} {s : Sharing} {i : Nat} (hs : SharingOk d0 s)
    (hc : Unraced s (.finish i)) : SharingOk d0 (shareFinish s i) := by
  cases hi : s.inProgress[i]? with
  | none =>
      simp only [shareFinish, hi]
      exact hs
  | some c =>
      have hmem : c ∈ s.inProgress := List.mem_of_getElem? hi
      have hcalls : ∀ c' ∈ s.inProgress.eraseIdx i, CallOk (s.driver.write c.write) c' :=
        fun c' h => (hs.calls c' (List.mem_of_mem_eraseIdx h)).write _
      have hsame := hc c hi
      have hcall := hs.calls c hmem
      simp only [shareFinish, hi, Sharing.complete]
      cases hcall with
      | interface e chipVal hcmd hinfo hval hwrite =>
          simp only [Driver.ownBits, hinfo, hcmd, hwrite, RegWrite.chipVal, Driver.target] at hsame
          rw [hwrite] at hcalls
          simp only [hcmd, hwrite]
          exact {
            table := hs.table.write (.uir _ _ _)
            calls := hcalls
            modes := fun n => by
              rw [modeOf_write hs.table hinfo hval hsame, or_update, hs.modes]
            terminators := fun n =>
              (terminatorBit_write_uir s.driver _ _ _ n).trans (hs.terminators n) }
      | terminator e k chipVal hcmd hinfo hval hk hfirst hwrite =>
          simp only [Driver.ownBits, hinfo, hcmd, hk, hwrite, RegWrite.chipVal, Driver.target,
            Option.elim] at hsame
          rw [hwrite] at hcalls
          simp only [hcmd, hwrite]
          exact {
            table := hs.table.write (.gpioOut _ _)
            calls := hcalls
            modes := fun n => (modeOf_write_gpio s.driver _ _ n).trans (hs.modes n)
            terminators := fun n => by
              rw [terminatorBit_write_fresh hs.table hinfo hk hfirst hval hsame, or_update,
                hs.terminators] }

/-- **Every port keeps its settings** in every run in which no call overwrites
what another has changed since its read, and terminators are set on ports of the
first slot only. -/
theorem settings_kept (v2616A : Bool) (interface : Byte) (hw : Nat → Iobar3)
    (found : List Found) (ops : List ShareOp)
    (h : Guarded (shareStep v2616A) Unraced
      (sharing0 (mxInit v2616A interface hw found)) ops) :
    Always (shareStep v2616A) (SettingsKept (mxInit v2616A interface hw found))
      (sharing0 (mxInit v2616A interface hw found)) ops := by
  have hok := always_of_guarded (I := SharingOk (mxInit v2616A interface hw found))
    (fun s op t hs hc hstep => by
      cases op with
      | begin r => cases hstep; exact shareBegin_ok hs hc
      | finish i => cases hstep; exact shareFinish_ok hs hc)
    (sharing0_ok (mxInit_tableOk v2616A interface hw found)) h
  exact hok.mono fun s hs _ n => ⟨hs.modes n, hs.terminators n⟩

/-- A CP118EL_A as it comes out of reset. -/
def cp118elADriver : Driver :=
  mxInit false 0 (fun _ => ⟨fun _ => 0, 0, 0⟩) [⟨.cp118elA, true, true⟩]

/-- Ports 0 and 2 have different UIR registers, so their calls may overlap. -/
theorem settings_kept_apart :
    Always (shareStep false) (SettingsKept cp118elADriver) (sharing0 cp118elADriver)
      [.begin ⟨0, .setInterface, 1, false⟩, .begin ⟨2, .setInterface, 0x0F, false⟩,
        .finish 1, .finish 0] := by
  refine settings_kept false 0 (fun _ => ⟨fun _ => 0, 0, 0⟩) [⟨.cp118elA, true, true⟩] _ ?_
  have hbegin (s : Sharing) (n : Nat) (arg : BitVec 64) :
      Unraced s (.begin ⟨n, .setInterface, arg, false⟩) := fun e h => absurd h.cmd nofun
  refine guarded_cons.mpr ⟨hbegin _ _ _, fun s hs => ?_⟩
  cases hs
  refine guarded_cons.mpr ⟨hbegin _ _ _, fun s hs => ?_⟩
  cases hs
  refine guarded_cons.mpr ⟨fun c hc => ?_, fun s hs => ?_⟩
  · cases hc
    exact Eq.refl _
  cases hs
  refine guarded_cons.mpr ⟨fun c hc => ?_, fun s hs => guarded_nil⟩
  cases hc
  exact Eq.refl _

/-- Ports 0 and 1 share a UIR register. Both calls set RS-422 and return 0; the
second write puts back the RS-232 that it read for port 1. -/
theorem settings_lost :
    ¬ Always (shareStep false) (SettingsKept cp118elADriver) (sharing0 cp118elADriver)
      [.begin ⟨0, .setInterface, 1, false⟩, .begin ⟨1, .setInterface, 1, false⟩,
        .finish 0, .finish 0] := by
  intro h
  have hmode := ((h.last rfl) rfl 1).1
  exact absurd hmode (by decide)

end MoxaDrivers.Mxupcie.Board

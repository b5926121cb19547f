import MoxaDrivers.Lib.Machine
import MoxaDrivers.Mxser.Modem
import MoxaDrivers.Mxu11x0.SetTermios

/-!
# DTR and RTS at `B0`

At `B0` both lines are to be low, and to come back when the rate leaves it. The
one shadow `mxp_shadow_mcr` holds what was last sent to the device, so it is at
once what the user asked for and what `B0` makes of it. `Lines` is what the user
asked for.
-/

namespace MoxaDrivers.Mxu11x0

open MoxaDrivers.Bits MoxaDrivers.Machine MoxaDrivers.Mxser

/-! ## `mxu1_tiocmset` -/

def mxu1McrLoop : Byte := 0x04

def tiocmLoop : Word := 0x8000

/-- The value for the modem control register. -/
def tiocmsetMcr (mcr : Byte) (set clear : Word) : Byte :=
  let mcr := if test set tiocmRts then mcr ||| mxu1McrRts else mcr
  let mcr := if test set tiocmDtr then mcr ||| mxu1McrDtr else mcr
  let mcr := if test set tiocmLoop then mcr ||| mxu1McrLoop else mcr
  let mcr := if test clear tiocmRts then mcr &&& ~~~mxu1McrRts else mcr
  let mcr := if test clear tiocmDtr then mcr &&& ~~~mxu1McrDtr else mcr
  if test clear tiocmLoop then mcr &&& ~~~mxu1McrLoop else mcr

/-- `mxu1_tiocmset`, given the status of the write. -/
def mxu1Tiocmset (p : Port) (set clear : Word) (status : Int) : Int × Port :=
  (status, mxu1SetMcr p (tiocmsetMcr p.shadowMcr set clear) status)

/-! ## The lines -/

structure Lines where
  dtr : Bool
  rts : Bool
  deriving DecidableEq, Repr

namespace Lines

def low : Lines := ⟨false, false⟩

/-- The lines of a modem control register. -/
def of (mcr : Byte) : Lines := ⟨test mcr mxu1McrDtr, test mcr mxu1McrRts⟩

/-- The lines after a request to set some and then to clear some. -/
def request (l : Lines) (set clear : Word) : Lines :=
  ⟨(l.dtr || test set tiocmDtr) && !test clear tiocmDtr,
    (l.rts || test set tiocmRts) && !test clear tiocmRts⟩

/-- The request raises no line that is low. -/
def RaisesNone (set clear : Word) : Prop :=
  (test set tiocmDtr = true → test clear tiocmDtr = true) ∧
    (test set tiocmRts = true → test clear tiocmRts = true)

theorem low_request_iff (set clear : Word) :
    low.request set clear = low ↔ RaisesNone set clear := by
  simp only [low, request, RaisesNone, Lines.mk.injEq, Bool.false_or]
  cases test set tiocmDtr <;> cases test clear tiocmDtr <;>
    cases test set tiocmRts <;> cases test clear tiocmRts <;> simp

end Lines

theorem test_setIf (c : Bool) (x k m : Byte) :
    test (if c = true then x ||| k else x) m = (test x m || (c && test k m)) := by
  cases c with
  | false => simp
  | true => simp [test_or]

/-- Clearing `m` itself, or something beside it. -/
theorem test_clearIf_self (c : Bool) (x m : Byte) :
    test (if c = true then x &&& ~~~m else x) m = (test x m && !c) := by
  cases c with
  | false => simp
  | true => simp

theorem test_clearIf_of_disjoint (c : Bool) (x : Byte) {k m : Byte} (h : k &&& m = 0) :
    test (if c = true then x &&& ~~~k else x) m = test x m := by
  cases c with
  | false => simp
  | true => simp [test_clear_of_disjoint h]

/-- The request arrives in the lines of the register. -/
theorem linesOf_tiocmset (mcr : Byte) (set clear : Word) :
    Lines.of (tiocmsetMcr mcr set clear) = (Lines.of mcr).request set clear := by
  have hld : mxu1McrLoop &&& mxu1McrDtr = 0 := by decide
  have hlr : mxu1McrLoop &&& mxu1McrRts = 0 := by decide
  have hrd : mxu1McrRts &&& mxu1McrDtr = 0 := by decide
  have hdr : mxu1McrDtr &&& mxu1McrRts = 0 := by decide
  have hdtr : test mxu1McrDtr mxu1McrDtr = true ∧ test mxu1McrRts mxu1McrDtr = false ∧
      test mxu1McrLoop mxu1McrDtr = false := by decide
  have hrts : test mxu1McrRts mxu1McrRts = true ∧ test mxu1McrDtr mxu1McrRts = false ∧
      test mxu1McrLoop mxu1McrRts = false := by decide
  simp only [Lines.of, Lines.request, tiocmsetMcr, test_setIf, test_clearIf_self,
    test_clearIf_of_disjoint _ _ hld, test_clearIf_of_disjoint _ _ hlr,
    test_clearIf_of_disjoint _ _ hrd, test_clearIf_of_disjoint _ _ hdr, hdtr, hrts]
  simp

/-! ## `mxu1_set_termios` -/

/-- The call gets to the device: there is memory, and something to change. -/
def TakesEffect (tty : TtyStruct) (old : Option Termios) (alloc : Option UartConfig) : Prop :=
  alloc.isSome = true ∧ sameSettings tty.termios old = false

instance (tty : TtyStruct) (old : Option Termios) (alloc : Option UartConfig) :
    Decidable (TakesEffect tty old alloc) := inferInstanceAs (Decidable (_ ∧ _))

/-- What a call whose commands succeed does to the lines. -/
theorem mxu1SetTermios_lines (p : Port) (tty : TtyStruct) (old : Option Termios)
    (alloc : Option UartConfig) :
    let r := mxu1SetTermios { p with tty := some tty } old ⟨alloc, 0⟩
    (TakesEffect tty old alloc → r.mcr = some (b0Mcr p tty.termios.cCflag) ∧
      r.port.shadowMcr = b0Mcr p tty.termios.cCflag ∧ r.port.setB0 = isB0 tty.termios.cCflag) ∧
    (¬ TakesEffect tty old alloc →
      r.mcr = none ∧ r.port.shadowMcr = p.shadowMcr ∧ r.port.setB0 = p.setB0) := by
  cases alloc with
  | none => exact ⟨fun h => absurd h.1 (by simp), fun _ => ⟨rfl, rfl, rfl⟩⟩
  | some mem =>
      simp only [mxu1SetTermios]
      cases hsame : sameSettings tty.termios old with
      | true => exact ⟨fun h => absurd (h.2.symm.trans hsame) (by simp), fun _ => ⟨rfl, rfl, rfl⟩⟩
      | false => exact ⟨fun _ => ⟨rfl, rfl, rfl⟩, fun h => absurd ⟨rfl, hsame⟩ h⟩

/-- What `b0Mcr` makes of the lines. -/
theorem linesOf_b0Mcr (p : Port) (cflag : Word) :
    Lines.of (b0Mcr p cflag) = if isB0 cflag = true then Lines.low
      else if p.setB0 = true then ⟨true, (Lines.of p.shadowMcr).rts⟩
      else Lines.of p.shadowMcr := by
  have hboth : test (p.shadowMcr &&& ~~~(mxu1McrDtr ||| mxu1McrRts)) (mxu1McrDtr ||| mxu1McrRts) =
      false := test_clear_self _ _
  rw [test_mask_or, Bool.or_eq_false_iff] at hboth
  simp only [b0Mcr]
  cases isB0 cflag with
  | true =>
      simp only [if_true, Lines.of, Lines.low, hboth]
  | false =>
      cases p.setB0 with
      | true =>
          simp only [Bool.false_eq_true, if_false, if_true, Lines.of,
            test_or_self (show mxu1McrDtr ≠ 0 by decide),
            test_or_of_disjoint (show mxu1McrDtr &&& mxu1McrRts = 0 by decide)]
      | false => simp

/-! ## Sequences of calls -/

/-- A port with what the device has in its modem control register, the lines
that the user asked for, and whether the last rate set was `B0`. -/
structure ZeroRate where
  port : Port
  device : Byte
  wanted : Lines
  atB0 : Bool

/-- A port that is not at `B0`. -/
def ZeroRate.start (p : Port) : ZeroRate := ⟨p, p.shadowMcr, Lines.of p.shadowMcr, false⟩

inductive LineCall where
  /-- The tty core has put `tty.termios` in place of `old`. -/
  | setTermios (tty : TtyStruct) (old : Option Termios) (alloc : Option UartConfig)
  | tiocmset (set clear : Word)
  deriving DecidableEq, Repr

/-- One call; the device takes every command. -/
def zeroRateStep (s : ZeroRate) : LineCall → Except Empty ZeroRate
  | .setTermios tty old alloc =>
      let r := mxu1SetTermios { s.port with tty := some tty } old ⟨alloc, 0⟩
      .ok { s with
        port := r.port
        device := r.mcr.getD s.device
        atB0 := if r.mcr.isSome then isB0 tty.termios.cCflag else s.atB0 }
  | .tiocmset set clear =>
      .ok { s with
        port := (mxu1Tiocmset s.port set clear 0).2
        device := tiocmsetMcr s.port.shadowMcr set clear
        wanted := s.wanted.request set clear }

/-- At `B0` the lines are low, elsewhere as the user asked for. -/
structure LinesRight (s : ZeroRate) : Prop where
  low : s.atB0 = true → Lines.of s.device = Lines.low
  kept : s.atB0 = false → Lines.of s.device = s.wanted

/-- A change of settings that neither enters nor leaves `B0` does not show. -/
def Steady (s : ZeroRate) (c : LineCall) (t : ZeroRate) : Prop :=
  (∃ tty old alloc, c = .setTermios tty old alloc) → t.atB0 = s.atB0 →
    Lines.of t.device = Lines.of s.device

/-- What a call must not do: raise a line at `B0`, or leave `B0` for any lines
but a raised DTR and a low RTS. -/
def KeepsLines (s : ZeroRate) : LineCall → Prop
  | .setTermios tty old alloc =>
      TakesEffect tty old alloc → s.atB0 = true → isB0 tty.termios.cCflag = false →
        s.wanted = ⟨true, false⟩
  | .tiocmset set clear => s.atB0 = true → Lines.RaisesNone set clear

/-- What the sequence keeps while its calls keep the lines. -/
structure ZeroRateInv (s : ZeroRate) : Prop where
  device : s.device = s.port.shadowMcr
  flag : s.port.setB0 = s.atB0
  low : s.atB0 = true → Lines.of s.port.shadowMcr = Lines.low
  kept : s.atB0 = false → Lines.of s.port.shadowMcr = s.wanted

theorem ZeroRateInv.right {s : ZeroRate} (h : ZeroRateInv s) : LinesRight s :=
  ⟨fun hb => h.device ▸ h.low hb, fun hb => h.device ▸ h.kept hb⟩

/-- A call of `mxu1_set_termios` that takes effect. -/
theorem zeroRateStep_applied {s : ZeroRate} {tty : TtyStruct} {old : Option Termios}
    {alloc : Option UartConfig} (heffect : TakesEffect tty old alloc) :
    ∃ port, zeroRateStep s (.setTermios tty old alloc) = .ok
        ⟨port, b0Mcr s.port tty.termios.cCflag, s.wanted, isB0 tty.termios.cCflag⟩ ∧
      port.shadowMcr = b0Mcr s.port tty.termios.cCflag ∧ port.setB0 = isB0 tty.termios.cCflag := by
  obtain ⟨hmcr, hshadow, hflag⟩ := (mxu1SetTermios_lines s.port tty old alloc).1 heffect
  refine ⟨_, ?_, hshadow, hflag⟩
  simp only [zeroRateStep, hmcr]
  rfl

/-- One that does not. -/
theorem zeroRateStep_skipped {s : ZeroRate} {tty : TtyStruct} {old : Option Termios}
    {alloc : Option UartConfig} (hno : ¬ TakesEffect tty old alloc) :
    ∃ port, zeroRateStep s (.setTermios tty old alloc) = .ok ⟨port, s.device, s.wanted, s.atB0⟩ ∧
      port.shadowMcr = s.port.shadowMcr ∧ port.setB0 = s.port.setB0 := by
  obtain ⟨hmcr, hshadow, hflag⟩ := (mxu1SetTermios_lines s.port tty old alloc).2 hno
  refine ⟨_, ?_, hshadow, hflag⟩
  simp only [zeroRateStep, hmcr]
  rfl

theorem zeroRateInv_step {s t : ZeroRate} {c : LineCall} (h : ZeroRateInv s) (hc : KeepsLines s c)
    (hstep : zeroRateStep s c = .ok t) : ZeroRateInv t := by
  cases c with
  | setTermios tty old alloc =>
      by_cases heffect : TakesEffect tty old alloc
      · obtain ⟨port, hok, hshadow, hflag⟩ := zeroRateStep_applied (s := s) heffect
        obtain rfl := Except.ok.inj (hok.symm.trans hstep)
        have hlines := linesOf_b0Mcr s.port tty.termios.cCflag
        refine ⟨hshadow.symm, hflag, fun hb => ?_, fun hb => ?_⟩
        · rw [if_pos hb] at hlines
          exact (congrArg Lines.of hshadow).trans hlines
        · rw [if_neg (by simpa using hb), h.flag] at hlines
          rw [show Lines.of port.shadowMcr = _ from (congrArg Lines.of hshadow).trans hlines]
          show _ = s.wanted
          cases hat : s.atB0 with
          | true =>
              rw [if_pos rfl, h.low hat, hc heffect hat hb]
              rfl
          | false =>
              rw [if_neg (by simp)]
              exact h.kept hat
      · obtain ⟨port, hok, hshadow, hflag⟩ := zeroRateStep_skipped (s := s) heffect
        obtain rfl := Except.ok.inj (hok.symm.trans hstep)
        refine ⟨h.device.trans hshadow.symm, hflag.trans h.flag, fun hb => ?_, fun hb => ?_⟩
        · exact (congrArg Lines.of hshadow).trans (h.low hb)
        · exact (congrArg Lines.of hshadow).trans (h.kept hb)
  | tiocmset set clear =>
      cases hstep
      have hlines := linesOf_tiocmset s.port.shadowMcr set clear
      refine ⟨rfl, h.flag, fun hb => ?_, fun hb => ?_⟩
      · show Lines.of (tiocmsetMcr s.port.shadowMcr set clear) = Lines.low
        rw [hlines, h.low hb]
        exact (Lines.low_request_iff set clear).mpr (hc hb)
      · show Lines.of (tiocmsetMcr s.port.shadowMcr set clear) = s.wanted.request set clear
        rw [hlines, h.kept hb]

/-- A call that does not keep the lines shows at once. -/
theorem not_right_of_call {s : ZeroRate} {c : LineCall} (h : ZeroRateInv s)
    (hc : ¬ KeepsLines s c) : ∃ t, zeroRateStep s c = .ok t ∧ ¬ LinesRight t := by
  cases c with
  | setTermios tty old alloc =>
      simp only [KeepsLines, Classical.not_imp] at hc
      obtain ⟨heffect, hat, hleave, hwanted⟩ := hc
      obtain ⟨port, hok, -⟩ := zeroRateStep_applied (s := s) heffect
      refine ⟨_, hok, fun hr => hwanted ?_⟩
      have hlines := linesOf_b0Mcr s.port tty.termios.cCflag
      rw [if_neg (by simpa using hleave), h.flag, if_pos hat, h.low hat] at hlines
      exact (hr.kept hleave).symm.trans hlines
  | tiocmset set clear =>
      simp only [KeepsLines, Classical.not_imp] at hc
      obtain ⟨hat, hraise⟩ := hc
      refine ⟨_, rfl, fun hr => hraise ?_⟩
      have hlow := hr.low hat
      rw [← Lines.low_request_iff, ← h.low hat, ← linesOf_tiocmset]
      exact hlow.trans (h.low hat).symm

theorem steady_step {s t : ZeroRate} {c : LineCall} (hs : LinesRight s) (ht : LinesRight t)
    (hstep : zeroRateStep s c = .ok t) : Steady s c t := by
  rintro ⟨tty, old, alloc, rfl⟩ hsame
  have hwanted : t.wanted = s.wanted := by
    cases hstep
    rfl
  cases hat : s.atB0 with
  | true => rw [hs.low hat, ht.low (hsame.trans hat)]
  | false => rw [hs.kept hat, ht.kept (hsame.trans hat), hwanted]

/-- **A trip to `B0` and back** leaves the lines as the user asked for exactly if
no call raises a line while the rate is `B0`, and whenever it leaves `B0` DTR is
wanted and RTS is not. -/
theorem b0_round_trip_iff {p : Port} (hp : p.setB0 = false) (cs : List LineCall) :
    Always zeroRateStep LinesRight (ZeroRate.start p) cs ∧
        EachStep zeroRateStep Steady (ZeroRate.start p) cs ↔
      Guarded zeroRateStep KeepsLines (ZeroRate.start p) cs := by
  have hs : ZeroRateInv (ZeroRate.start p) := ⟨rfl, hp, nofun, fun _ => rfl⟩
  have hiff : Always zeroRateStep LinesRight (ZeroRate.start p) cs ↔
      Guarded zeroRateStep KeepsLines (ZeroRate.start p) cs :=
    always_iff_guarded (fun _ h => ZeroRateInv.right h)
      (fun _ _ _ h hc hstep => zeroRateInv_step h hc hstep)
      (fun _ _ h hc => not_right_of_call h hc) hs
  have hsteady : Always zeroRateStep LinesRight (ZeroRate.start p) cs →
      EachStep zeroRateStep Steady (ZeroRate.start p) cs := by
    intro hright
    refine eachStep_of_always ?_ hright
    intro s c t hs ht hstep
    exact steady_step hs ht hstep
  rw [← hiff]
  exact ⟨And.left, fun hright => ⟨hright, hsteady hright⟩⟩

/-- The tty of a line at `B0`. -/
def ttyB0 : TtyStruct := ⟨⟨cs8, 0, 0x11, 0x13⟩, false, 0⟩

def zeroedConfig : UartConfig := ⟨0, 0, 0, 0, 0, 0, 0, 0⟩

/-- RTS is dropped before the trip. -/
theorem b0_round_trip_iff_rts_low :
    let s := ZeroRate.start (openPort (startupPort .model1150 fun _ => 0) tty9600)
    let cs := [.tiocmset 0 tiocmRts, .setTermios ttyB0 (some tty9600.termios) (some zeroedConfig),
      .setTermios tty9600 (some ttyB0.termios) (some zeroedConfig)]
    Always zeroRateStep LinesRight s cs ∧ EachStep zeroRateStep Steady s cs ↔
      Guarded zeroRateStep KeepsLines s cs :=
  b0_round_trip_iff rfl _

/-- From 9600 baud with both lines raised to `B0` and back: RTS stays low. -/
theorem b0_round_trip_loses_rts :
    ∃ t, run zeroRateStep
        (ZeroRate.start (openPort (startupPort .model1150 fun _ => 0) tty9600))
        [.setTermios ttyB0 (some tty9600.termios) (some zeroedConfig),
          .setTermios tty9600 (some ttyB0.termios) (some zeroedConfig)] = .ok t ∧
      t.atB0 = false ∧ t.wanted = ⟨true, true⟩ ∧ Lines.of t.device = ⟨true, false⟩ ∧
      ¬ LinesRight t := by
  refine ⟨_, rfl, rfl, rfl, rfl, fun h => ?_⟩
  exact absurd (h.kept rfl) (by decide)

end MoxaDrivers.Mxu11x0

import MoxaDrivers.Lib.Machine
import MoxaDrivers.Mxupcie.BoardSetup

/-!
# The terminators of the boards

Each board has one GPIO register for the terminators of its ports.
`mx_set_terminator` shifts by the number that the port has in the driver, which
is its number on the board for the first board alone, and it records the value
before it looks at the type of the board.
-/

namespace MoxaDrivers.Mxupcie.Board

open MoxaDrivers.Bits MoxaDrivers.Mxser
open MoxaDrivers.Machine

/-! ## The bit of a port -/

/-- The position of the terminator of port `n` in the register of its board. -/
def terminatorPlace (t : BoardType) (n : Nat) : Option Nat :=
  match t with
  | .cp132el => some (n % mxupciePortsPerBoard + 2)
  | .cp114el => some (n % mxupciePortsPerBoard)
  | .cp118elA => some (n % mxupciePortsPerBoard)
  | .cp104elA => none
  | .cp102e => none
  | .cp102el => none
  | .cp168elA => none

/-- The output bit of the terminator of port `n`, where its board has one. -/
def Driver.terminatorBit (d : Driver) (n : Nat) : Option Byte :=
  (d.mxvarTable n).bind fun e =>
    (terminatorPlace e.boardType n).map (d.terminator e.iobar3Addr)

theorem terminatorPlace_lt {t : BoardType} {n s : Nat}
    (hn : n % mxupciePortsPerBoard < mxupcieNumports t) (h : terminatorPlace t n = some s) :
    s < 8 := by
  cases t with
  | cp132el =>
      have hn : n % mxupciePortsPerBoard < 2 := hn
      cases h
      omega
  | cp114el =>
      have hn : n % mxupciePortsPerBoard < 4 := hn
      cases h
      omega
  | cp118elA =>
      have hn : n % mxupciePortsPerBoard < 8 := hn
      cases h
      exact hn
  | cp104elA => cases h
  | cp102e => cases h
  | cp102el => cases h
  | cp168elA => cases h

theorem terminatorPlace_inj {t : BoardType} {n q s : Nat} (hn : terminatorPlace t n = some s)
    (hq : terminatorPlace t q = some s) :
    n % mxupciePortsPerBoard = q % mxupciePortsPerBoard := by
  have heq := hn.trans hq.symm
  cases t with
  | cp132el => exact Nat.add_right_cancel (Option.some.inj heq)
  | cp114el => exact Option.some.inj heq
  | cp118elA => exact Option.some.inj heq
  | cp104elA => cases hn
  | cp102e => cases hn
  | cp102el => cases hn
  | cp168elA => cases hn

/-- The position that `mx_set_terminator` works out is the one on the board for
the ports of the first slot. -/
theorem terminatorShift_first {e : PortInfo} {n : Nat} (hp : e.port = n)
    (hn : n < mxupciePortsPerBoard) : terminatorShift e = terminatorPlace e.boardType n := by
  have hmod : n % mxupciePortsPerBoard = n := Nat.mod_eq_of_lt hn
  cases ht : e.boardType <;> simp [terminatorShift, terminatorPlace, ht, hp, hmod]

/-- For the others it lies outside of the register. -/
theorem terminatorShift_other {e : PortInfo} {n s : Nat} (hp : e.port = n)
    (hn : ¬ n < mxupciePortsPerBoard) (h : terminatorShift e = some s) : ¬ s < 8 := by
  have hn : ¬ n < 8 := hn
  simp only [terminatorShift] at h
  split at h
  · have hs := Option.some.inj h
    omega
  · have hs := Option.some.inj h
    omega
  · have hs := Option.some.inj h
    omega
  all_goals cases h

theorem terminator_fits {s : Nat} (h : s < 8) : (1 : Byte) <<< s >>> s = 1 := by
  have hall : ∀ s < 8, (1 : Byte) <<< s >>> s = 1 := by decide
  exact hall s h

theorem terminator_disjoint {s t : Nat} (hs : s < 8) (ht : t < 8) (h : s ≠ t) :
    (1 : Byte) <<< s &&& 1 <<< t = 0 := by
  have hall : ∀ s < 8, ∀ t < 8, s ≠ t → (1 : Byte) <<< s &&& 1 <<< t = 0 := by decide
  exact hall s hs t ht h

/-! ## The writes and the bits -/

theorem terminatorBit_some {d : Driver} {n : Nat} {b : Byte} :
    d.terminatorBit n = some b ↔ ∃ e s, d.mxvarTable n = some e ∧
      terminatorPlace e.boardType n = some s ∧ d.terminator e.iobar3Addr s = b := by
  simp only [Driver.terminatorBit, Option.bind_eq_some_iff, Option.map_eq_some_iff]
  constructor
  · rintro ⟨e, he, s, hs, hb⟩
    exact ⟨e, s, he, hs, hb⟩
  · rintro ⟨e, s, he, hs, hb⟩
    exact ⟨e, he, s, hs, hb⟩

/-- Whether a port has a terminator is a matter of its board. -/
theorem terminatorBit_of_entry {d : Driver} {n s : Nat} {e : PortInfo}
    (he : d.mxvarTable n = some e) (hs : terminatorPlace e.boardType n = some s) :
    d.terminatorBit n = some (d.terminator e.iobar3Addr s) :=
  terminatorBit_some.mpr ⟨e, s, he, hs, rfl⟩

theorem terminatorBit_congr {d u : Driver} {q : Nat} (htable : u.mxvarTable q = d.mxvarTable q)
    (hout : ∀ b, (u.iobar3 b).gpioOut = (d.iobar3 b).gpioOut) :
    u.terminatorBit q = d.terminatorBit q := by
  have hterm : u.terminator = d.terminator := by
    funext b s
    rw [Driver.terminator, hout, Driver.terminator]
  rw [Driver.terminatorBit, htable, hterm, Driver.terminatorBit]

/-- What is recorded about a port does not show in the registers. -/
theorem terminatorBit_recorded (d : Driver) (r : Request) {e : PortInfo}
    (he : d.mxvarTable r.port = some e) (q : Nat) :
    (recorded d r e).terminatorBit q = d.terminatorBit q := by
  have hterm : (recorded d r e).terminator = d.terminator := by
    funext b s
    rw [Driver.terminator, recorded_iobar3, Driver.terminator]
  cases hq : d.mxvarTable q with
  | none =>
      cases hnew : (recorded d r e).mxvarTable q with
      | none => simp [Driver.terminatorBit, hq, hnew]
      | some g =>
          obtain ⟨g', hg', -⟩ := recorded_entry he hnew
          cases hq.symm.trans hg'
  | some g =>
      obtain ⟨g', hg', hs⟩ := recorded_of_entry he hq
      simp [Driver.terminatorBit, hq, hg', hterm, hs.boardType, hs.iobar3Addr]

theorem terminatorBit_write_uir (d : Driver) (b a : Nat) (v : Byte) (q : Nat) :
    (d.write (.uir b a v)).terminatorBit q = d.terminatorBit q := by
  refine terminatorBit_congr rfl fun c => ?_
  by_cases hc : c = b
  · simp [Driver.write, Driver.setIobar3, hc]
  · simp [Driver.write, Driver.setIobar3, Function.update_of_ne hc]

/-- The terminator of a port after the register of a board is written. -/
theorem terminatorBit_write_gpio (d : Driver) (b : Nat) (v : Byte) {q s : Nat} {e : PortInfo}
    (he : d.mxvarTable q = some e) (hs : terminatorPlace e.boardType q = some s) :
    (d.write (.gpioOut b v)).terminatorBit q =
      some (if e.iobar3Addr = b then field v s 1 else d.terminator e.iobar3Addr s) := by
  rw [terminatorBit_of_entry (d := d.write (.gpioOut b v)) he hs]
  by_cases hb : e.iobar3Addr = b
  · simp [Driver.terminator, Driver.write, Driver.setIobar3, hb]
  · simp [Driver.terminator, Driver.write, Driver.setIobar3, hb]

/-- **The write of one terminator**, worked out from the register as it is, sets
the bit of its port and no other. -/
theorem terminatorBit_write {d : Driver} (hd : TableOk d) {n s : Nat} {e : PortInfo}
    (he : d.mxvarTable n = some e) (hs : terminatorPlace e.boardType n = some s) {val : Byte}
    (hval : val = mxTermNone ∨ val = mxTerm120) (q : Nat) :
    (d.write (.gpioOut e.iobar3Addr
      (terminatorVal s (d.iobar3 e.iobar3Addr).gpioOut val))).terminatorBit q =
      if q = n then some val else d.terminatorBit q := by
  have hslt := terminatorPlace_lt (hd.entry n e he).place hs
  have hfit : val &&& 1 = val := by
    rcases hval with rfl | rfl
    · rfl
    · rfl
  rw [terminatorVal_eq_setField]
  by_cases hq : q = n
  · subst hq
    rw [terminatorBit_write_gpio d _ _ he hs, if_pos rfl, if_pos rfl,
      field_setField (terminator_fits hslt) hfit]
  · rw [if_neg hq]
    cases hf : d.mxvarTable q with
    | none => simp [Driver.terminatorBit, Driver.write, hf]
    | some f =>
        cases ht : terminatorPlace f.boardType q with
        | none => simp [Driver.terminatorBit, Driver.write, hf, ht]
        | some t =>
            rw [terminatorBit_write_gpio d _ _ hf ht, terminatorBit_of_entry hf ht]
            by_cases hb : f.iobar3Addr = e.iobar3Addr
            · have htype := (hd.board q n f e hf he hb).1
              -- two ports of one board have different places
              have hst : s ≠ t := by
                rintro rfl
                rw [htype] at ht
                exact hq (hd.place_inj hf he hb (terminatorPlace_inj ht hs))
              have htlt := terminatorPlace_lt (hd.entry q f hf).place ht
              rw [if_pos hb, hb, field_setField_of_disjoint
                (terminator_disjoint hslt htlt hst) (terminator_fits htlt) hfit]
              rfl
            · rw [if_neg hb]

/-! ## The calls, with a record of the terminators set -/

/-- The driver in use, and the ports that had a `SMARTIO_PUART_SET_TERMINATOR`
that succeeded. -/
structure Use where
  driver : Driver
  terminated : List Nat

def useStep (v2616A : Bool) (s : Use) (r : Request) : Except Empty Use :=
  let res := mxupcieIoctl v2616A s.driver r
  .ok ⟨res.1,
    if r.cmd = .setTerminator ∧ res.2 = .ok () then r.port :: s.terminated else s.terminated⟩

/-- What a call may do to the terminators. -/
structure TerminatorExact (v2616A : Bool) (d : Driver) (r : Request) (u : Driver) : Prop where
  /-- After a call that succeeds, the flag is the bit of the port. -/
  flag : (mxupcieIoctl v2616A d r).2 = .ok () →
    ∀ b, u.terminatorBit r.port = some b → getTerminator u r.port = some b
  others : (mxupcieIoctl v2616A d r).2 = .ok () →
    ∀ q ≠ r.port, u.terminatorBit q = d.terminatorBit q
  /-- It shifts within the register, on a board that has terminators. -/
  shift : (mxupcieIoctl v2616A d r).2 = .ok () → r.cmd = .setTerminator →
    ∃ e s, d.mxvarTable r.port = some e ∧ terminatorShift e = some s ∧ s < 8
  refused : ∀ err, (mxupcieIoctl v2616A d r).2 = .error err →
    ∀ q, getTerminator u q = getTerminator d q

/-- A mode is set where the terminator of the port has been set, or was off
after the set-up `d0` of the boards; a terminator is set on a port of the first
slot; a value that is recorded for a board without terminators is there
already. -/
structure OnFirstSlot (v2616A : Bool) (d0 : Driver) (s : Use) (r : Request) : Prop where
  interface : ∀ e, TakesInterface v2616A s.driver r e →
    r.port ∈ s.terminated ∨ d0.terminatorBit r.port ≠ some mxTerm120
  terminator : ∀ e, TakesTerminator s.driver r e → (terminatorShift e).isSome →
    r.port < mxupciePortsPerBoard
  flagged : ∀ e, TakesTerminator s.driver r e → terminatorShift e = none →
    e.terminatorFlag = r.val

/-- The flags and the bits, as calls that meet the condition leave them. -/
structure TerminatorsOk (d0 : Driver) (s : Use) : Prop where
  table : TableOk s.driver
  set : ∀ n ∈ s.terminated, ∀ b, s.driver.terminatorBit n = some b →
    getTerminator s.driver n = some b
  unset : ∀ n ∉ s.terminated, s.driver.terminatorBit n = d0.terminatorBit n
  flag : ∀ n ∉ s.terminated, ∀ v, getTerminator s.driver n = some v → v = mxTermNone

/-! ## One call -/

/-- No terminator is recorded. -/
def NoFlags (d : Driver) : Prop := ∀ n v, getTerminator d n = some v → v = mxTermNone

theorem turn_noFlags (v2616A : Bool) {d : Driver} (f : Found) (h : NoFlags d) :
    NoFlags (turn v2616A d f) := by
  intro n v hv
  rcases turn_cases v2616A d f with ⟨-, hturn⟩ | ⟨-, -, u, hset, hturn⟩
  · rw [hturn] at hv
    exact h n v hv
  · have hu : getTerminator u n = some v := by
      rw [hturn] at hv
      split at hv
      · exact hv
      · exact hv
    obtain ⟨e, he, rfl⟩ := Option.map_eq_some_iff.mp hu
    rcases hset.entry_cases he with ⟨i, -, -, rfl⟩ | hold
    · rfl
    · exact h n e.terminatorFlag (Option.map_eq_some_iff.mpr ⟨e, hold, rfl⟩)

theorem mxInit_terminatorsOk (v2616A : Bool) (interface : Byte) (iobar3 : Nat → Iobar3)
    (found : List Found) :
    TerminatorsOk (mxInit v2616A interface iobar3 found)
      ⟨mxInit v2616A interface iobar3 found, []⟩ where
  table := mxInit_tableOk v2616A interface iobar3 found
  set := fun _ h => absurd h List.not_mem_nil
  unset := fun _ _ => rfl
  flag := fun n _ => mxInit_invariant (I := NoFlags) (fun _ f hd => turn_noFlags v2616A f hd)
    (fun _ _ h => absurd h nofun) found n

/-- The flag and the bits after a mode is set. -/
theorem interface_terminators {v2616A : Bool} {d : Driver} {r : Request} {e : PortInfo}
    (h : TakesInterface v2616A d r e) (s : Nat) (q : Nat) :
    ((recorded d r e).write (regWrite d r e s)).terminatorBit q = d.terminatorBit q ∧
    getTerminator ((recorded d r e).write (regWrite d r e s)) q = getTerminator d q := by
  constructor
  · rw [h.regWrite, terminatorBit_write_uir, terminatorBit_recorded d r h.info]
  · rw [h.regWrite, h.recorded]
    show ((d.setInfo r.port { e with uir := r.val }).mxvarTable q).map _ = _
    by_cases hq : q = r.port
    · rw [hq, Driver.setInfo_self, getTerminator, h.info]
      rfl
    · rw [Driver.setInfo_of_ne d _ hq, getTerminator]

/-- The write of a terminator is not recorded a second time. -/
theorem TakesTerminator.getTerminator_write {d u : Driver} {r : Request} {e : PortInfo}
    (h : TakesTerminator d r e) (s q : Nat) :
    getTerminator (u.write (Board.regWrite d r e s)) q = getTerminator u q := by
  rw [h.regWrite]
  rfl

/-- The flag after a value is recorded. -/
theorem terminator_flag {d : Driver} {r : Request} {e : PortInfo} (h : TakesTerminator d r e)
    (q : Nat) :
    getTerminator (recorded d r e) q =
      if q = r.port then some r.val else getTerminator d q := by
  rw [h.recorded]
  by_cases hq : q = r.port
  · rw [if_pos hq, hq, getTerminator, Driver.setInfo_self]
    rfl
  · rw [if_neg hq, getTerminator, Driver.setInfo_of_ne d _ hq, getTerminator]

/-- A value that is there already changes no flag. -/
theorem terminator_flag_same {d : Driver} {r : Request} {e : PortInfo} (h : TakesTerminator d r e)
    (hval : e.terminatorFlag = r.val) (q : Nat) :
    getTerminator (recorded d r e) q = getTerminator d q := by
  rw [terminator_flag h q]
  split
  · next hq =>
      rw [hq, getTerminator, h.info, ← hval]
      rfl
  · rfl

/-- The entry of a call's port is one. -/
theorem TakesTerminator.info_inj {d : Driver} {r : Request} {e f : PortInfo}
    (h : TakesTerminator d r e) (hf : TakesTerminator d r f) : f = e :=
  Option.some.inj (hf.info.symm.trans h.info)

/-- The bits after a terminator of the first slot is set. -/
theorem terminator_bit {d : Driver} (hd : TableOk d) {r : Request} {e : PortInfo} {s : Nat}
    (h : TakesTerminator d r e) (hs : terminatorShift e = some s)
    (hfirst : r.port < mxupciePortsPerBoard) (q : Nat) :
    ((recorded d r e).write (regWrite d r e s)).terminatorBit q =
      if q = r.port then some r.val else d.terminatorBit q := by
  have hplace : terminatorPlace e.boardType r.port = some s := by
    rw [← terminatorShift_first (hd.entry r.port e h.info).port hfirst, hs]
  have hbit := terminatorBit_write (hd.recorded h.info)
    (e := { e with terminatorFlag := r.val }) (by rw [h.recorded, Driver.setInfo_self]) hplace h.val q
  rw [terminatorBit_recorded d r h.info] at hbit
  rw [h.regWrite, ← hbit, recorded_iobar3]

theorem terminatorBit_cases {d : Driver} {n : Nat} {b : Byte} (h : d.terminatorBit n = some b) :
    b = mxTermNone ∨ b = mxTerm120 := by
  obtain ⟨e, s, -, -, rfl⟩ := terminatorBit_some.mp h
  have hall : ∀ x : Byte, x &&& 1 = 0 ∨ x &&& 1 = 1 := by decide
  exact hall _

/-- **A call that meets the condition** keeps the flags and the bits in order. -/
theorem useStep_terminatorsOk {v2616A : Bool} {d0 : Driver} {s t : Use} {r : Request}
    (hs : TerminatorsOk d0 s) (hc : OnFirstSlot v2616A d0 s r)
    (hstep : useStep v2616A s r = .ok t) : TerminatorsOk d0 t := by
  cases hstep
  have hcases := ioctlRead_cases v2616A s.driver r
  unfold mxupcieIoctl
  generalize ioctlRead v2616A s.driver r = res at hcases
  cases hcases with
  | interface e h =>
      have hframe := interface_terminators h 0
      simp only [finish, h.cmd, reduceCtorEq, false_and, if_false]
      exact {
        table := (hs.table.recorded h.info).write _
        set := fun n hn b hb => by
          rw [(hframe n).2]
          exact hs.set n hn b ((hframe n).1 ▸ hb)
        unset := fun n hn => (hframe n).1.trans (hs.unset n hn)
        flag := fun n hn v hv => hs.flag n hn v ((hframe n).2 ▸ hv) }
  | terminator e k h hk =>
      have hfirst := hc.terminator e h (by rw [hk]; rfl)
      have hbit := terminator_bit hs.table h hk hfirst
      have hflag (q : Nat) : getTerminator ((recorded s.driver r e).write
          (regWrite s.driver r e k)) q =
          if q = r.port then some r.val else getTerminator s.driver q := by
        rw [h.getTerminator_write, terminator_flag h q]
      simp only [finish, h.cmd, true_and, if_true]
      exact {
        table := (hs.table.recorded h.info).write _
        set := fun n hn b hb => by
          rw [hbit] at hb
          rw [hflag]
          split at hb
          · rename_i hn'
            rw [if_pos hn', ← hb]
          · rename_i hn'
            rw [if_neg hn']
            exact hs.set n ((List.mem_cons.mp hn).resolve_left hn') b hb
        unset := fun n hn => by
          obtain ⟨hne, hold⟩ := not_or.mp (mt List.mem_cons.mpr hn)
          rw [hbit, if_neg hne]
          exact hs.unset n hold
        flag := fun n hn v hv => by
          obtain ⟨hne, hold⟩ := not_or.mp (mt List.mem_cons.mpr hn)
          rw [hflag, if_neg hne] at hv
          exact hs.flag n hold v hv }
  | flagged e h hk =>
      have hsame := terminator_flag_same h (hc.flagged e h hk)
      have hbit := terminatorBit_recorded s.driver r h.info
      simp only [finish, h.cmd, reduceCtorEq, and_false, if_false]
      exact {
        table := hs.table.recorded h.info
        set := fun n hn b hb => by
          rw [hsame]
          exact hs.set n hn b (hbit n ▸ hb)
        unset := fun n hn => (hbit n).trans (hs.unset n hn)
        flag := fun n hn v hv => hs.flag n hn v (hsame n ▸ hv) }
  | refused err hi ht =>
      simp only [finish, reduceCtorEq, and_false, if_false]
      exact ⟨hs.table, hs.set, hs.unset, hs.flag⟩

/-- What is right of a call that succeeds. -/
theorem exact_of_ok {v2616A : Bool} {d u : Driver} {r : Request}
    (h : mxupcieIoctl v2616A d r = (u, .ok ())) :
    TerminatorExact v2616A d r u ↔
      (∀ b, u.terminatorBit r.port = some b → getTerminator u r.port = some b) ∧
      (∀ q ≠ r.port, u.terminatorBit q = d.terminatorBit q) ∧
      (r.cmd = .setTerminator →
        ∃ e s, d.mxvarTable r.port = some e ∧ terminatorShift e = some s ∧ s < 8) := by
  have hok : (mxupcieIoctl v2616A d r).2 = .ok () := by rw [h]
  constructor
  · intro hex
    exact ⟨hex.flag hok, hex.others hok, hex.shift hok⟩
  · rintro ⟨hflag, hothers, hshift⟩
    refine ⟨fun _ => hflag, fun _ => hothers, fun _ => hshift, fun err herr => ?_⟩
    rw [hok] at herr
    cases herr

/-- What is right of one that fails. -/
theorem exact_of_error {v2616A : Bool} {d u : Driver} {r : Request} {err : Errno}
    (h : mxupcieIoctl v2616A d r = (u, .error err)) :
    TerminatorExact v2616A d r u ↔ ∀ q, getTerminator u q = getTerminator d q := by
  have hnot : ¬ (mxupcieIoctl v2616A d r).2 = .ok () := by
    rw [h]
    intro hok
    cases hok
  constructor
  · intro hex
    exact hex.refused err (by rw [h])
  · intro hsame
    exact ⟨fun hok => absurd hok hnot, fun hok => absurd hok hnot, fun hok => absurd hok hnot,
      fun _ _ => hsame⟩

/-- Setting a mode leaves the flag as it is, so the bit has to fit it. -/
theorem setInterface_exact_iff {v2616A : Bool} {d0 : Driver} {s : Use} {r : Request} {e : PortInfo}
    (hs : TerminatorsOk d0 s) (h : TakesInterface v2616A s.driver r e) {u : Driver}
    (hres : mxupcieIoctl v2616A s.driver r = (u, .ok ()))
    (hu : ∀ q, u.terminatorBit q = s.driver.terminatorBit q ∧
      getTerminator u q = getTerminator s.driver q) :
    TerminatorExact v2616A s.driver r u ↔ OnFirstSlot v2616A d0 s r := by
  have hflag : getTerminator s.driver r.port = some e.terminatorFlag := by
    rw [getTerminator, h.info]
    rfl
  rw [exact_of_ok hres]
  constructor
  · rintro ⟨hagree, -, -⟩
    refine ⟨fun f _ => ?_, fun f hf => absurd hf h.not_terminator,
      fun f hf => absurd hf h.not_terminator⟩
    by_cases hmem : r.port ∈ s.terminated
    · exact .inl hmem
    · refine .inr fun hbit => ?_
      rw [← hs.unset r.port hmem, ← (hu r.port).1] at hbit
      -- the flag is still the one of the set-up
      have hset := hagree mxTerm120 hbit
      rw [(hu r.port).2] at hset
      have hnone := hs.flag r.port hmem mxTerm120 hset
      cases hnone
  · intro hc
    refine ⟨fun b hb => ?_, fun q _ => (hu q).1, fun hcmd => ?_⟩
    · rw [(hu r.port).1] at hb
      rw [(hu r.port).2]
      by_cases hmem : r.port ∈ s.terminated
      · exact hs.set r.port hmem b hb
      · have hoff := (hc.interface e h).resolve_left hmem
        rw [← hs.unset r.port hmem, hb] at hoff
        have hb0 := (terminatorBit_cases hb).resolve_right fun h1 => hoff (h1 ▸ rfl)
        rw [hflag, hs.flag r.port hmem _ hflag, hb0]
    · have habs := h.cmd.symm.trans hcmd
      cases habs

/-- Setting a terminator reaches its bit from the first slot only. -/
theorem setTerminator_exact_iff {v2616A : Bool} {d0 : Driver} {s : Use} {r : Request}
    {e : PortInfo} {k : Nat} (hs : TerminatorsOk d0 s) (h : TakesTerminator s.driver r e)
    (hk : terminatorShift e = some k)
    (hres : mxupcieIoctl v2616A s.driver r =
      ((recorded s.driver r e).write (regWrite s.driver r e k), .ok ())) :
    TerminatorExact v2616A s.driver r ((recorded s.driver r e).write (regWrite s.driver r e k)) ↔
      OnFirstSlot v2616A d0 s r := by
  have hentry := hs.table.entry r.port e h.info
  rw [exact_of_ok hres]
  constructor
  · rintro ⟨-, -, hshift⟩
    refine ⟨fun f hf => absurd h hf.not_terminator, fun f hf _ => ?_, fun f hf hnone => ?_⟩
    · obtain ⟨e', k', he', hk', hlt⟩ := hshift h.cmd
      by_contra hslot
      have hport := (hs.table.entry r.port e' he').port
      exact terminatorShift_other hport hslot hk' hlt
    · rw [h.info_inj hf, hk] at hnone
      cases hnone
  · intro hc
    have hfirst := hc.terminator e h (by rw [hk]; rfl)
    have hbit := terminator_bit hs.table h hk hfirst
    refine ⟨fun b hb => ?_, fun q hq => (hbit q).trans (if_neg hq), fun _ => ?_⟩
    · have hval := (hbit r.port).symm.trans hb
      rw [if_pos rfl] at hval
      rw [h.getTerminator_write, terminator_flag h, if_pos rfl, hval]
    · refine ⟨e, k, h.info, hk, ?_⟩
      rw [terminatorShift_first hentry.port hfirst] at hk
      exact terminatorPlace_lt hentry.place hk

/-- A value recorded for a board without terminators has to be there already. -/
theorem flagged_exact_iff {v2616A : Bool} {d0 : Driver} {s : Use} {r : Request} {e : PortInfo}
    (h : TakesTerminator s.driver r e) (hk : terminatorShift e = none)
    (hres : mxupcieIoctl v2616A s.driver r = (recorded s.driver r e, .error .einval)) :
    TerminatorExact v2616A s.driver r (recorded s.driver r e) ↔ OnFirstSlot v2616A d0 s r := by
  rw [exact_of_error hres]
  constructor
  · intro hsame
    refine ⟨fun f hf => absurd h hf.not_terminator, fun f hf hsome => ?_, fun f hf _ => ?_⟩
    · rw [h.info_inj hf, hk] at hsome
      cases hsome
    · have hnew := hsame r.port
      rw [terminator_flag h, if_pos rfl, getTerminator, hf.info] at hnew
      exact (Option.some.inj hnew).symm
  · intro hc
    exact terminator_flag_same h (hc.flagged e h hk)

/-- **What a call does to the terminators** is right exactly when it meets the
condition. -/
theorem terminatorExact_iff {v2616A : Bool} {d0 : Driver} {s : Use} (r : Request)
    (hs : TerminatorsOk d0 s) :
    (∀ t, useStep v2616A s r = .ok t → TerminatorExact v2616A s.driver r t.driver) ↔
      OnFirstSlot v2616A d0 s r := by
  have hone : (∀ t, useStep v2616A s r = .ok t → TerminatorExact v2616A s.driver r t.driver) ↔
      TerminatorExact v2616A s.driver r (mxupcieIoctl v2616A s.driver r).1 :=
    ⟨fun h => h _ rfl, fun h t ht => by cases ht; exact h⟩
  rw [hone]
  have hcases := ioctlRead_cases v2616A s.driver r
  have hdef : mxupcieIoctl v2616A s.driver r = finish (ioctlRead v2616A s.driver r) := rfl
  generalize ioctlRead v2616A s.driver r = res at hcases hdef
  rw [hdef]
  cases hcases with
  | interface e h => exact setInterface_exact_iff hs h hdef fun q => interface_terminators h 0 q
  | terminator e k h hk => exact setTerminator_exact_iff hs h hk hdef
  | flagged e h hk => exact flagged_exact_iff h hk hdef
  | refused err hi ht =>
      refine iff_of_true ((exact_of_error hdef).mpr fun _ => rfl) ?_
      exact ⟨fun e he => absurd he (hi e), fun e he => absurd he (ht e),
        fun e he => absurd he (ht e)⟩

/-- **Terminator control** is exact, for all boards and all calls, exactly as
long as every call meets the condition. -/
theorem terminator_exact_iff (v2616A : Bool) (interface : Byte) (hw : Nat → Iobar3)
    (found : List Found) (rs : List Request) :
    EachStep (useStep v2616A) (fun s r t => TerminatorExact v2616A s.driver r t.driver)
        ⟨mxInit v2616A interface hw found, []⟩ rs ↔
      Guarded (useStep v2616A) (OnFirstSlot v2616A (mxInit v2616A interface hw found))
        ⟨mxInit v2616A interface hw found, []⟩ rs :=
  eachStep_iff_guarded (J := TerminatorsOk (mxInit v2616A interface hw found))
    (fun _ _ _ hs hc hstep => useStep_terminatorsOk hs hc hstep)
    (fun _ r hs => terminatorExact_iff r hs)
    (mxInit_terminatorsOk v2616A interface hw found)

/-- Two CP114EL; port 8, the first one of the second, is set to RS-422 and then
gets its terminator: the flag says so, the bit does not. -/
theorem terminator_not_exact :
    ¬ EachStep (useStep false) (fun s r t => TerminatorExact false s.driver r t.driver)
      ⟨mxInit false 0 (fun _ => ⟨fun _ => 0, 0, 0⟩)
        [⟨.cp114el, true, true⟩, ⟨.cp114el, true, true⟩], []⟩
      [⟨8, .setInterface, 1, false⟩, ⟨8, .setTerminator, 1, false⟩] := by
  intro h
  have hlast := h [⟨8, .setInterface, 1, false⟩] ⟨8, .setTerminator, 1, false⟩
    (List.prefix_refl _) _ rfl _ rfl
  have hflag := hlast.flag rfl mxTermNone rfl
  exact absurd hflag (by decide)

end MoxaDrivers.Mxupcie.Board

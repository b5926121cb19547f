import MoxaDrivers.IrigB.Interrupt
import MoxaDrivers.Lib.Machine

/-!
# The register requests of the IRIG-B board

`irigb_ioctl` reads and writes registers for its caller, a list of up to
`MAX_PAIRS` of them or the bits of one. Number and indices come from the caller
as they are. `reg` is a `u32 *`: the register `addr` is the word at `reg + addr`,
and `MAX_ITEMS` registers there are.
-/

namespace MoxaDrivers.IrigB

open MoxaDrivers.Machine

abbrev Word64 := BitVec 64

def mxIrigbMinor : Nat := 111

/-- `_IOC(dir, type, nr, sizeof(unsigned long))`. -/
def ioc (dir nr : Nat) : Word :=
  BitVec.ofNat 32 (dir <<< 30 ||| 8 <<< 16 ||| mxIrigbMinor <<< 8 ||| nr)

def ioctlGetRegister : Word := ioc 2 0x800
def ioctlSetRegister : Word := ioc 1 0x801
def ioctlSetclrRegisterBit : Word := ioc 1 0x802
def ioctlGetTimesrcStatus : Word := ioc 1 0x803

def maxPairs : Nat := 4
def maxItems : Nat := 32

def einval : Int := 22

/-- `reg_val_pair_struct`. -/
structure RegValPair where
  count : Word64
  addr : Fin maxPairs → Word64
  val : Fin maxPairs → Word64

/-- `reg_bit_pair_struct`. -/
structure RegBitPair where
  addr : Word64
  setBit : Word64
  clearBit : Word64

/-- The memory at `arg`: what `copy_from_user` finds there for each of the two
structures, and how many bytes it and `copy_to_user` leave over. -/
structure UserArg where
  pairs : RegValPair
  bits : RegBitPair
  notRead : Nat
  notWritten : Nat

/-! ## Registers and arrays -/

/-- An access outside. -/
inductive OutOfBounds where
  /-- `addr[i]` or `val[i]` of a `reg_val_pair_struct`. -/
  | pair (i : Nat)
  | register (addr : Word64)
  deriving DecidableEq, Repr

inductive Access where
  | read (addr : Nat)
  | write (addr : Nat) (v : Word)
  deriving DecidableEq, Repr

/-- The registers: what one of them reads after the accesses so far, and these,
the last one first. -/
structure Regs where
  answer : List Access → Nat → Word
  accesses : List Access

def readl (r : Regs) (addr : Word64) : Except OutOfBounds (Word × Regs) :=
  if addr.toNat < maxItems then
    .ok (r.answer r.accesses addr.toNat, { r with accesses := .read addr.toNat :: r.accesses })
  else .error (.register addr)

def writel (v : Word) (r : Regs) (addr : Word64) : Except OutOfBounds Regs :=
  if addr.toNat < maxItems then
    .ok { r with accesses := .write addr.toNat v :: r.accesses }
  else .error (.register addr)

/-- `a[i]`. -/
def pairAt (a : Fin maxPairs → Word64) (i : Nat) : Except OutOfBounds Word64 :=
  if h : i < maxPairs then .ok (a ⟨i, h⟩) else .error (.pair i)

/-- `val[i] = v`. -/
def RegValPair.setVal (p : RegValPair) (i : Nat) (v : Word64) : Except OutOfBounds RegValPair :=
  if h : i < maxPairs then .ok { p with val := Function.update p.val ⟨i, h⟩ v }
  else .error (.pair i)

/-! ## The requests -/

/-- `for (i = 0; i < count; i++)`, with the number of turns to come: `i` is past
the arrays long before it is past an `int`. -/
def pairLoop (body : Nat → RegValPair × Regs → Except OutOfBounds (RegValPair × Regs)) :
    Nat → Nat → RegValPair × Regs → Except OutOfBounds (RegValPair × Regs)
  | 0, _, s => .ok s
  | turns + 1, i, s => do
      let s ← body i s
      pairLoop body turns (i + 1) s

def getRegister (i : Nat) : RegValPair × Regs → Except OutOfBounds (RegValPair × Regs)
  | (p, r) => do
      let addr ← pairAt p.addr i
      let (v, r) ← readl r addr
      let p ← p.setVal i (v.setWidth 64)
      return (p, r)

def setRegister (i : Nat) : RegValPair × Regs → Except OutOfBounds (RegValPair × Regs)
  | (p, r) => do
      let v ← pairAt p.val i
      let addr ← pairAt p.addr i
      let r ← writel (v.setWidth 32) r addr
      return (p, r)

def setclrRegisterBit (b : RegBitPair) (r : Regs) : Except OutOfBounds Regs := do
  let (v, r) ← readl r b.addr
  let v := (v.setWidth 64 &&& ~~~b.clearBit).setWidth 32
  let v := (v.setWidth 64 ||| b.setBit).setWidth 32
  writel v r b.addr

/-- What a request leaves in the memory of its caller. -/
inductive Answer where
  | nothing
  | pairs (p : RegValPair)
  | status (timeStatus : Word)

structure Reply where
  retval : Int
  answer : Answer
  regs : Regs

/-- `irigb_ioctl`. What is left over of a copy is not negative, so that it is
returned at the end and not before. -/
def irigbIoctl (timeStatus cmd : Word) (arg : UserArg) (r : Regs) : Except OutOfBounds Reply :=
  let p := arg.pairs
  if cmd = ioctlGetRegister then
    if p.count = 0 then .ok ⟨-einval, .nothing, r⟩
    else do
      let (p, r) ← pairLoop getRegister p.count.toNat 0 (p, r)
      return ⟨arg.notWritten, .pairs p, r⟩
  else if cmd = ioctlSetRegister then
    if p.count = 0 then .ok ⟨-einval, .nothing, r⟩
    else do
      let (_, r) ← pairLoop setRegister p.count.toNat 0 (p, r)
      return ⟨arg.notRead, .nothing, r⟩
  else if cmd = ioctlSetclrRegisterBit then do
    let r ← setclrRegisterBit arg.bits r
    return ⟨arg.notRead, .nothing, r⟩
  else if cmd = ioctlGetTimesrcStatus then .ok ⟨arg.notWritten, .status timeStatus, r⟩
  else .ok ⟨-einval, .nothing, r⟩

/-! ## The limits -/

/-- The values that have been written to registers. -/
def Regs.writes (r : Regs) : List Access :=
  r.accesses.filter fun a => match a with
    | .read _ => false
    | .write _ _ => true

/-- A request for `MAX_PAIRS` registers at most, all of which exist. -/
def RegValPair.WithinLimits (p : RegValPair) : Prop :=
  p.count.toNat ≤ maxPairs ∧ ∀ i : Fin maxPairs, i.val < p.count.toNat → (p.addr i).toNat < maxItems

def WithinLimits (cmd : Word) (arg : UserArg) : Prop :=
  if cmd = ioctlGetRegister ∨ cmd = ioctlSetRegister then arg.pairs.WithinLimits
  else if cmd = ioctlSetclrRegisterBit then arg.bits.addr.toNat < maxItems
  else True

/-- A request comes to its end with all of its accesses within bounds, and is
refused before anything is written if it is not within the limits. -/
def Confined (timeStatus cmd : Word) (arg : UserArg) (r : Regs) : Prop :=
  ∃ reply, irigbIoctl timeStatus cmd arg r = .ok reply ∧
    (¬ WithinLimits cmd arg → reply.retval = -einval ∧ reply.regs.writes = r.writes)

/-! ## Turns and loops -/

theorem readl_ok_iff {r : Regs} {addr : Word64} :
    (∃ t, readl r addr = .ok t) ↔ addr.toNat < maxItems := by
  rw [readl]
  split
  · next h => exact iff_of_true ⟨_, rfl⟩ h
  · next h => exact iff_of_false (fun ⟨_, ht⟩ => nomatch ht) h

theorem writel_ok_iff {v : Word} {r : Regs} {addr : Word64} :
    (∃ t, writel v r addr = .ok t) ↔ addr.toNat < maxItems := by
  rw [writel]
  split
  · next h => exact iff_of_true ⟨_, rfl⟩ h
  · next h => exact iff_of_false (fun ⟨_, ht⟩ => nomatch ht) h

theorem pairAt_of_lt {a : Fin maxPairs → Word64} {i : Nat} (h : i < maxPairs) :
    pairAt a i = .ok (a ⟨i, h⟩) :=
  dif_pos h

theorem pairAt_ok {a : Fin maxPairs → Word64} {i : Nat} {v : Word64} (h : pairAt a i = .ok v) :
    ∃ hi : i < maxPairs, a ⟨i, hi⟩ = v := by
  rw [pairAt] at h
  split at h
  · next hi => exact ⟨hi, Except.ok.inj h⟩
  · cases h

/-- The pair `i` and its register exist. -/
def PairFits (p : RegValPair) (i : Nat) : Prop :=
  ∃ h : i < maxPairs, (p.addr ⟨i, h⟩).toNat < maxItems

/-- A turn for a pair: it completes if the pair and its register exist, and leaves
the addresses alone. -/
structure PairTurn (body : Nat → RegValPair × Regs → Except OutOfBounds (RegValPair × Regs)) :
    Prop where
  completes : ∀ i s, (∃ t, body i s = .ok t) ↔ PairFits s.1 i
  addr : ∀ i s t, body i s = .ok t → t.1.addr = s.1.addr

theorem getRegister_turn : PairTurn getRegister where
  completes i s := by
    obtain ⟨p, r⟩ := s
    constructor
    · rintro ⟨t, ht⟩
      obtain ⟨addr, haddr, ht⟩ := bind_ok_iff.mp ht
      obtain ⟨read, hread, -⟩ := bind_ok_iff.mp ht
      obtain ⟨hi, rfl⟩ := pairAt_ok haddr
      exact ⟨hi, readl_ok_iff.mp ⟨read, hread⟩⟩
    · rintro ⟨hi, haddr⟩
      obtain ⟨read, hread⟩ := readl_ok_iff (r := r).mpr haddr
      refine ⟨({ p with val := Function.update p.val ⟨i, hi⟩ (read.1.setWidth 64) }, read.2), ?_⟩
      refine bind_ok_iff.mpr ⟨p.addr ⟨i, hi⟩, pairAt_of_lt hi, bind_ok_iff.mpr ⟨read, hread, ?_⟩⟩
      exact bind_ok_iff.mpr ⟨_, dif_pos hi, rfl⟩
  addr i s t ht := by
    obtain ⟨p, r⟩ := s
    obtain ⟨addr, -, ht⟩ := bind_ok_iff.mp ht
    obtain ⟨read, -, ht⟩ := bind_ok_iff.mp ht
    obtain ⟨q, hq, ht⟩ := bind_ok_iff.mp ht
    cases ht
    rw [RegValPair.setVal] at hq
    split at hq
    · cases hq
      rfl
    · cases hq

theorem setRegister_turn : PairTurn setRegister where
  completes i s := by
    obtain ⟨p, r⟩ := s
    constructor
    · rintro ⟨t, ht⟩
      obtain ⟨v, -, ht⟩ := bind_ok_iff.mp ht
      obtain ⟨addr, haddr, ht⟩ := bind_ok_iff.mp ht
      obtain ⟨r', hwrite, -⟩ := bind_ok_iff.mp ht
      obtain ⟨hi, rfl⟩ := pairAt_ok haddr
      exact ⟨hi, writel_ok_iff.mp ⟨r', hwrite⟩⟩
    · rintro ⟨hi, haddr⟩
      obtain ⟨r', hwrite⟩ := writel_ok_iff (v := (p.val ⟨i, hi⟩).setWidth 32) (r := r).mpr haddr
      refine ⟨(p, r'), bind_ok_iff.mpr ⟨p.val ⟨i, hi⟩, pairAt_of_lt hi, ?_⟩⟩
      exact bind_ok_iff.mpr ⟨p.addr ⟨i, hi⟩, pairAt_of_lt hi, bind_ok_iff.mpr ⟨r', hwrite, rfl⟩⟩
  addr i s t ht := by
    obtain ⟨p, r⟩ := s
    obtain ⟨v, -, ht⟩ := bind_ok_iff.mp ht
    obtain ⟨addr, -, ht⟩ := bind_ok_iff.mp ht
    obtain ⟨r', -, ht⟩ := bind_ok_iff.mp ht
    cases ht
    rfl

/-- **The loop** completes if the pairs of all its turns and their registers
exist. -/
theorem PairTurn.loop_ok_iff
    {body : Nat → RegValPair × Regs → Except OutOfBounds (RegValPair × Regs)}
    (hbody : PairTurn body) (turns : Nat) : ∀ (i : Nat) (s : RegValPair × Regs),
      (∃ t, pairLoop body turns i s = .ok t) ↔ ∀ k, i ≤ k → k < i + turns → PairFits s.1 k := by
  induction turns with
  | zero =>
      intro i s
      exact iff_of_true ⟨s, rfl⟩ (fun k hle hlt => absurd hlt (by omega))
  | succ turns ih =>
      intro i s
      constructor
      · rintro ⟨t, ht⟩ k hle hlt
        obtain ⟨u, hu, ht⟩ := bind_ok_iff.mp ht
        obtain rfl | hne := Nat.eq_or_lt_of_le hle
        · exact (hbody.completes i s).mp ⟨u, hu⟩
        · have hrest := (ih (i + 1) u).mp ⟨t, ht⟩ k hne (by omega)
          rwa [PairFits, hbody.addr i s u hu] at hrest
      · intro hfits
        obtain ⟨u, hu⟩ := (hbody.completes i s).mpr (hfits i (Nat.le_refl i) (by omega))
        obtain ⟨t, ht⟩ := (ih (i + 1) u).mpr (fun k hle hlt => by
          rw [PairFits, hbody.addr i s u hu]
          exact hfits k (by omega) (by omega))
        exact ⟨t, bind_ok_iff.mpr ⟨u, hu, ht⟩⟩

theorem withinLimits_iff (p : RegValPair) :
    p.WithinLimits ↔ ∀ k, 0 ≤ k → k < 0 + p.count.toNat → PairFits p k := by
  constructor
  · rintro ⟨hcount, haddr⟩ k - hk
    have hlt : k < maxPairs := by omega
    rw [Nat.zero_add] at hk
    exact ⟨hlt, haddr ⟨k, hlt⟩ hk⟩
  · intro h
    refine ⟨?_, fun i hi => ?_⟩
    · by_contra hcount
      obtain ⟨hlt, -⟩ := h maxPairs (Nat.zero_le _) (by omega)
      exact Nat.lt_irrefl _ hlt
    · obtain ⟨_, haddr⟩ := h i (Nat.zero_le _) (by omega)
      exact haddr

/-- A request for a list of registers, whatever it replies. -/
theorem listed_ok_iff {body : Nat → RegValPair × Regs → Except OutOfBounds (RegValPair × Regs)}
    (hbody : PairTurn body) (p : RegValPair) (r : Regs) (refused : Reply)
    (reply : RegValPair × Regs → Reply) :
    (∃ t, (if p.count = 0 then Except.ok refused
      else pairLoop body p.count.toNat 0 (p, r) >>= fun s => .ok (reply s)) = .ok t) ↔
        p.WithinLimits := by
  rw [withinLimits_iff, ← hbody.loop_ok_iff p.count.toNat 0 (p, r)]
  split
  · next hzero =>
      rw [hzero]
      exact iff_of_true ⟨refused, rfl⟩ ⟨(p, r), rfl⟩
  · constructor
    · rintro ⟨t, ht⟩
      obtain ⟨s, hs, -⟩ := bind_ok_iff.mp ht
      exact ⟨s, hs⟩
    · rintro ⟨s, hs⟩
      exact ⟨reply s, bind_ok_iff.mpr ⟨s, hs, rfl⟩⟩

theorem setclrRegisterBit_ok_iff {b : RegBitPair} {r : Regs} :
    (∃ t, setclrRegisterBit b r = .ok t) ↔ b.addr.toNat < maxItems := by
  constructor
  · rintro ⟨t, ht⟩
    obtain ⟨read, hread, -⟩ := bind_ok_iff.mp ht
    exact readl_ok_iff.mp ⟨read, hread⟩
  · intro h
    obtain ⟨⟨v, r'⟩, hread⟩ := readl_ok_iff (r := r).mpr h
    obtain ⟨t, ht⟩ := writel_ok_iff (r := r') (v := _).mpr h
    exact ⟨t, bind_ok_iff.mpr ⟨⟨v, r'⟩, hread, ht⟩⟩

/-! ## The requests within the limits -/

/-- **A request** completes exactly if it is within the limits: none is refused
for being outside. -/
theorem irigbIoctl_ok_iff (timeStatus cmd : Word) (arg : UserArg) (r : Regs) :
    (∃ reply, irigbIoctl timeStatus cmd arg r = .ok reply) ↔ WithinLimits cmd arg := by
  rw [WithinLimits, irigbIoctl]
  by_cases hget : cmd = ioctlGetRegister
  · have hlist : cmd = ioctlGetRegister ∨ cmd = ioctlSetRegister := .inl hget
    rw [if_pos hget, if_pos hlist]
    exact listed_ok_iff getRegister_turn arg.pairs r _ _
  · rw [if_neg hget]
    by_cases hset : cmd = ioctlSetRegister
    · have hlist : cmd = ioctlGetRegister ∨ cmd = ioctlSetRegister := .inr hset
      rw [if_pos hset, if_pos hlist]
      exact listed_ok_iff setRegister_turn arg.pairs r _ _
    · rw [if_neg hset, if_neg (not_or.mpr ⟨hget, hset⟩)]
      split
      · rw [← setclrRegisterBit_ok_iff (r := r)]
        constructor
        · rintro ⟨reply, hreply⟩
          obtain ⟨t, ht, -⟩ := bind_ok_iff.mp hreply
          exact ⟨t, ht⟩
        · rintro ⟨t, ht⟩
          exact ⟨_, bind_ok_iff.mpr ⟨t, ht, rfl⟩⟩
      · split
        · exact iff_of_true ⟨_, rfl⟩ trivial
        · exact iff_of_true ⟨_, rfl⟩ trivial

/-- **The register requests** stay in bounds, and refuse what is outside, exactly
as far as their callers keep to the limits. -/
theorem register_requests_confined_iff (timeStatus cmd : Word) (arg : UserArg) (r : Regs) :
    Confined timeStatus cmd arg r ↔ WithinLimits cmd arg := by
  rw [← irigbIoctl_ok_iff timeStatus cmd arg r]
  constructor
  · rintro ⟨reply, hreply, -⟩
    exact ⟨reply, hreply⟩
  · rintro ⟨reply, hreply⟩
    refine ⟨reply, hreply, fun houtside => absurd ?_ houtside⟩
    exact (irigbIoctl_ok_iff timeStatus cmd arg r).mp ⟨reply, hreply⟩

/-- Five registers are to be set: four are, and the fifth pair is read from
beyond the arrays. -/
theorem fifth_register_out_of_bounds :
    let arg : UserArg := ⟨⟨5, fun _ => 2, fun _ => 1⟩, ⟨0, 0, 0⟩, 0, 0⟩
    let r : Regs := ⟨fun _ _ => 0, []⟩
    irigbIoctl 0 ioctlSetRegister arg r = .error (.pair 4) ∧
      ¬ Confined 0 ioctlSetRegister arg r := by
  intro arg r
  have hfault : irigbIoctl 0 ioctlSetRegister arg r = .error (.pair 4) := rfl
  refine ⟨hfault, ?_⟩
  rintro ⟨reply, hreply, -⟩
  cases hfault.symm.trans hreply

end MoxaDrivers.IrigB

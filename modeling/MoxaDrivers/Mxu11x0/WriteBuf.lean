import MoxaDrivers.Lib.Ring
import MoxaDrivers.Mxser.Port

/-!
# The write buffer

`struct circ_buf` with the macros of `linux/circ_buf.h`, and the functions
`mxu1_buf_*` over it. `mxu1_buf_put` is here in the three sections that each
take `mxp_lock` (`putSpace`, `putCopy`, `putAdvance`); `mxu1_buf_get` runs in a
section of its caller.

`CircBuf.Ok` is the representation invariant and `CircBuf.bytes` the queue that
the buffer stands for.
-/

namespace MoxaDrivers.Mxu11x0

open MoxaDrivers.Bits MoxaDrivers.Mxser

def mxu1WriteBufSize : Nat := 1024

/-! ## `linux/circ_buf.h`

`size` is a power of two, where `& (size - 1)` is `%`. -/

def circCnt (head tail size : Int) : Int := (head - tail) % size

def circCntToEnd (head tail size : Int) : Int :=
  let toEnd := size - tail
  let n := (head + toEnd) % size
  if n < toEnd then n else toEnd

def circSpaceToEnd (head tail size : Int) : Int :=
  let toEnd := size - 1 - head
  let n := (toEnd + tail) % size
  if n ≤ toEnd then n else toEnd + 1

structure CircBuf where
  buf : Nat → Byte
  head : Int
  tail : Int

/-- `mxu1_buf_data_avail`. -/
def mxu1BufDataAvail (cb : CircBuf) : Int := circCnt cb.head cb.tail mxu1WriteBufSize

/-! ## `mxu1_buf_put` and `mxu1_buf_get` -/

/-- The first section of a turn of `mxu1_buf_put`, and the `c` that follows. -/
def putSpace (cb : CircBuf) (count : Int) : Int :=
  let c := circSpaceToEnd cb.head cb.tail mxu1WriteBufSize
  if count < c then count else c

/-- The second section: the copy to the cells from the head on. -/
def putCopy (cb : CircBuf) (xs : List Byte) : CircBuf :=
  { cb with buf := Ring.blit cb.buf cb.head.toNat xs }

/-- The third section: the head moves. -/
def putAdvance (cb : CircBuf) (c : Int) : CircBuf :=
  { cb with head := (cb.head + c) % mxu1WriteBufSize }

/-- One block of `mxu1_buf_get`. -/
def getChunk (cb : CircBuf) (count : Int) : Int :=
  let c := circCntToEnd cb.head cb.tail mxu1WriteBufSize
  if count < c then count else c

/-- The tail moves over a block. -/
def getAdvance (cb : CircBuf) (c : Int) : CircBuf :=
  { cb with tail := (cb.tail + c) % mxu1WriteBufSize }

/-- The loop of `mxu1_buf_get`, with what it copied so far; each turn but the
last copies at least one byte. -/
def bufGetLoop : Nat → CircBuf → Int → List Byte → CircBuf × List Byte
  | 0, cb, _, out => (cb, out)
  | fuel + 1, cb, count, out =>
      let c := getChunk cb count
      if c ≤ 0 then (cb, out)
      else bufGetLoop fuel (getAdvance cb c) (count - c)
        (out ++ Ring.block cb.buf cb.tail.toNat c.toNat)

/-- `mxu1_buf_get`: the buffer, and the bytes copied. -/
def mxu1BufGet (cb : CircBuf) (count : Int) : CircBuf × List Byte :=
  bufGetLoop count.toNat cb count []

/-! ## The queue that the buffer stands for -/

structure CircBuf.Ok (cb : CircBuf) : Prop where
  head_nonneg : 0 ≤ cb.head
  head_lt : cb.head < mxu1WriteBufSize
  tail_nonneg : 0 ≤ cb.tail
  tail_lt : cb.tail < mxu1WriteBufSize

/-- The bytes in the buffer, oldest first. -/
def CircBuf.bytes (cb : CircBuf) : List Byte :=
  Ring.window mxu1WriteBufSize cb.buf cb.tail.toNat (mxu1BufDataAvail cb).toNat

variable {cb : CircBuf}

theorem CircBuf.Ok.avail_nonneg (_h : cb.Ok) : 0 ≤ mxu1BufDataAvail cb :=
  Int.emod_nonneg _ (by decide)

/-- The head is as many cells after the tail as there are bytes. -/
theorem CircBuf.Ok.head_toNat (h : cb.Ok) :
    cb.head.toNat = (cb.tail.toNat + (mxu1BufDataAvail cb).toNat) % mxu1WriteBufSize := by
  obtain ⟨hh0, hh1, ht0, ht1⟩ := h
  simp only [mxu1BufDataAvail, circCnt, mxu1WriteBufSize] at *
  omega

/-- What fits up to the end of the buffer. -/
theorem CircBuf.Ok.le_spaceToEnd_iff (h : cb.Ok) (c : Int) :
    c ≤ circSpaceToEnd cb.head cb.tail mxu1WriteBufSize ↔
      mxu1BufDataAvail cb + c ≤ mxu1WriteBufSize - 1 ∧ cb.head + c ≤ mxu1WriteBufSize := by
  obtain ⟨hh0, hh1, ht0, ht1⟩ := h
  simp only [circSpaceToEnd, mxu1BufDataAvail, circCnt]
  by_cases hn : (mxu1WriteBufSize - 1 - cb.head + cb.tail) % mxu1WriteBufSize ≤
      mxu1WriteBufSize - 1 - cb.head
  · rw [if_pos hn]
    simp only [mxu1WriteBufSize] at *
    omega
  · rw [if_neg hn]
    simp only [mxu1WriteBufSize] at *
    omega

theorem CircBuf.Ok.le_cntToEnd_iff (h : cb.Ok) (c : Int) :
    c ≤ circCntToEnd cb.head cb.tail mxu1WriteBufSize ↔
      c ≤ mxu1BufDataAvail cb ∧ cb.tail + c ≤ mxu1WriteBufSize := by
  obtain ⟨hh0, hh1, ht0, ht1⟩ := h
  simp only [circCntToEnd, mxu1BufDataAvail, circCnt]
  by_cases hn : (cb.head + (mxu1WriteBufSize - cb.tail)) % mxu1WriteBufSize <
      mxu1WriteBufSize - cb.tail
  · rw [if_pos hn]
    simp only [mxu1WriteBufSize] at *
    omega
  · rw [if_neg hn]
    simp only [mxu1WriteBufSize] at *
    omega

/-! ## A block is put -/

/-- The copy leaves the queue alone. -/
theorem CircBuf.Ok.putCopy_bytes (h : cb.Ok) (xs : List Byte)
    (hfit : xs.length ≤ circSpaceToEnd cb.head cb.tail mxu1WriteBufSize) :
    (putCopy cb xs).bytes = cb.bytes := by
  obtain ⟨hroom, hend⟩ := (h.le_spaceToEnd_iff xs.length).mp hfit
  have havail := h.avail_nonneg
  have htail0 := h.tail_nonneg
  have htail1 := h.tail_lt
  have hhead := h.head_toNat
  have hhead0 := h.head_nonneg
  have hhead' : cb.head.toNat + xs.length ≤ mxu1WriteBufSize := by omega
  show Ring.window mxu1WriteBufSize (Ring.blit cb.buf cb.head.toNat xs) cb.tail.toNat
    (mxu1BufDataAvail cb).toNat = cb.bytes
  apply Ring.window_congr
  intro i hi
  apply Ring.blit_of_not_mem
  rw [hhead] at hhead' ⊢
  exact Ring.mod_not_mem_block (by omega) hi (by omega) hhead'

/-- The copied block is in the cells from the head on. -/
theorem putCopy_block (cb : CircBuf) (xs : List Byte)
    (hend : cb.head.toNat + xs.length ≤ mxu1WriteBufSize) :
    Ring.block (putCopy cb xs).buf cb.head.toNat xs.length = xs := by
  rw [Ring.block_eq_window hend]
  exact Ring.window_blit_self hend

theorem CircBuf.Ok.putCopy (h : cb.Ok) (xs : List Byte) : (putCopy cb xs).Ok :=
  ⟨h.head_nonneg, h.head_lt, h.tail_nonneg, h.tail_lt⟩

theorem CircBuf.Ok.putAdvance (h : cb.Ok) (c : Int) : (putAdvance cb c).Ok where
  head_nonneg := Int.emod_nonneg _ (by decide)
  head_lt := Int.emod_lt_of_pos _ (by decide)
  tail_nonneg := h.tail_nonneg
  tail_lt := h.tail_lt

/-- The head's move appends the block of the cells that it passes. -/
theorem CircBuf.Ok.putAdvance_bytes (h : cb.Ok) {c : Nat}
    (hfit : c ≤ circSpaceToEnd cb.head cb.tail mxu1WriteBufSize) :
    (Mxu11x0.putAdvance cb c).bytes = cb.bytes ++ Ring.block cb.buf cb.head.toNat c := by
  obtain ⟨hroom, hend⟩ := (h.le_spaceToEnd_iff c).mp hfit
  have hhead := h.head_toNat
  obtain ⟨hh0, hh1, ht0, ht1⟩ := h
  have hcnt : (mxu1BufDataAvail (Mxu11x0.putAdvance cb c)).toNat =
      (mxu1BufDataAvail cb).toNat + c := by
    simp only [Mxu11x0.putAdvance, mxu1BufDataAvail, circCnt, mxu1WriteBufSize] at *
    omega
  have hblock : Ring.block cb.buf cb.head.toNat c =
      Ring.window mxu1WriteBufSize cb.buf (cb.tail.toNat + (mxu1BufDataAvail cb).toNat) c := by
    rw [← Ring.window_mod, ← hhead]
    apply Ring.block_eq_window
    simp only [mxu1WriteBufSize] at *
    omega
  rw [hblock, CircBuf.bytes, CircBuf.bytes, hcnt, ← Ring.window_add]
  rfl

/-! ## A block is taken -/

theorem CircBuf.Ok.getAdvance (h : cb.Ok) (c : Int) : (getAdvance cb c).Ok where
  head_nonneg := h.head_nonneg
  head_lt := h.head_lt
  tail_nonneg := Int.emod_nonneg _ (by decide)
  tail_lt := Int.emod_lt_of_pos _ (by decide)

theorem CircBuf.Ok.getAdvance_avail (h : cb.Ok) {c : Nat} (hc : c ≤ mxu1BufDataAvail cb) :
    mxu1BufDataAvail (Mxu11x0.getAdvance cb c) = mxu1BufDataAvail cb - c := by
  obtain ⟨hh0, hh1, ht0, ht1⟩ := h
  simp only [Mxu11x0.getAdvance, mxu1BufDataAvail, circCnt, mxu1WriteBufSize] at *
  omega

theorem CircBuf.Ok.getAdvance_bytes (h : cb.Ok) {c : Nat} (hc : c ≤ mxu1BufDataAvail cb) :
    (Mxu11x0.getAdvance cb c).bytes = cb.bytes.drop c := by
  have hcnt : (mxu1BufDataAvail (Mxu11x0.getAdvance cb c)).toNat =
      (mxu1BufDataAvail cb).toNat - c := by
    rw [h.getAdvance_avail hc]
    omega
  have htail : (Mxu11x0.getAdvance cb c).tail.toNat =
      (cb.tail.toNat + c) % mxu1WriteBufSize := by
    obtain ⟨hh0, hh1, ht0, ht1⟩ := h
    simp only [Mxu11x0.getAdvance, mxu1WriteBufSize] at *
    omega
  rw [CircBuf.bytes, CircBuf.bytes, hcnt, htail, Ring.window_mod, Ring.window_drop (by omega)]
  rfl

/-- The block at the tail is the oldest bytes. -/
theorem CircBuf.Ok.tail_block (h : cb.Ok) {c : Nat}
    (hc : c ≤ circCntToEnd cb.head cb.tail mxu1WriteBufSize) :
    Ring.block cb.buf cb.tail.toNat c = cb.bytes.take c := by
  obtain ⟨hcnt, hend⟩ := (h.le_cntToEnd_iff c).mp hc
  have ht0 := h.tail_nonneg
  have hend' : cb.tail.toNat + c ≤ mxu1WriteBufSize := by omega
  rw [Ring.block_eq_window hend', CircBuf.bytes, Ring.window_take (by omega)]

/-- Room at the head stays while bytes are taken. -/
theorem CircBuf.Ok.getAdvance_space (h : cb.Ok) {c : Nat} (hc : c ≤ mxu1BufDataAvail cb) {k : Int}
    (hk : k ≤ circSpaceToEnd cb.head cb.tail mxu1WriteBufSize) :
    k ≤ circSpaceToEnd cb.head (Mxu11x0.getAdvance cb c).tail mxu1WriteBufSize := by
  obtain ⟨hroom, hend⟩ := (h.le_spaceToEnd_iff k).mp hk
  refine ((h.getAdvance c).le_spaceToEnd_iff k).mpr ⟨?_, hend⟩
  rw [h.getAdvance_avail hc]
  omega

/-! ## `mxu1_buf_get` takes the oldest bytes -/

/-- A ring after some of its bytes were taken. -/
structure Taken (cb cb' : CircBuf) (xs : List Byte) : Prop where
  ok : cb'.Ok
  buf : cb'.buf = cb.buf
  head : cb'.head = cb.head
  bytes : cb.bytes = xs ++ cb'.bytes
  space : ∀ k, k ≤ circSpaceToEnd cb.head cb.tail mxu1WriteBufSize →
    k ≤ circSpaceToEnd cb.head cb'.tail mxu1WriteBufSize

theorem Taken.refl (h : cb.Ok) : Taken cb cb [] := ⟨h, rfl, rfl, rfl, fun _ hk => hk⟩

theorem Taken.trans {cb₁ cb₂ : CircBuf} {xs ys : List Byte} (h : Taken cb cb₁ xs)
    (h' : Taken cb₁ cb₂ ys) : Taken cb cb₂ (xs ++ ys) where
  ok := h'.ok
  buf := h'.buf.trans h.buf
  head := h'.head.trans h.head
  bytes := by rw [h.bytes, h'.bytes, List.append_assoc]
  space := by
    intro k hk
    have hk₁ := h.space k hk
    rw [← h.head] at hk₁ ⊢
    exact h'.space k hk₁

/-- One turn of the loop. -/
theorem getAdvance_taken (h : cb.Ok) {c : Nat}
    (hc : c ≤ circCntToEnd cb.head cb.tail mxu1WriteBufSize) :
    Taken cb (getAdvance cb c) (Ring.block cb.buf cb.tail.toNat c) := by
  have hcnt := ((h.le_cntToEnd_iff c).mp hc).1
  refine ⟨h.getAdvance c, rfl, rfl, ?_, fun k hk => h.getAdvance_space hcnt hk⟩
  rw [h.tail_block hc, h.getAdvance_bytes hcnt, List.take_append_drop]

theorem bufGetLoop_spec (fuel : Nat) : ∀ {cb : CircBuf} (count : Int) (out : List Byte), cb.Ok →
    ∃ xs, Taken cb (bufGetLoop fuel cb count out).1 xs ∧
      (bufGetLoop fuel cb count out).2 = out ++ xs := by
  induction fuel with
  | zero =>
      intro cb count out h
      exact ⟨[], Taken.refl h, (List.append_nil out).symm⟩
  | succ fuel ih =>
      intro cb count out h
      rw [bufGetLoop]
      by_cases hc : getChunk cb count ≤ 0
      · rw [if_pos hc]
        exact ⟨[], Taken.refl h, (List.append_nil out).symm⟩
      · rw [if_neg hc]
        obtain ⟨c, hcn⟩ : ∃ c : Nat, getChunk cb count = c :=
          ⟨_, (Int.toNat_of_nonneg (by omega)).symm⟩
        have hle : (c : Int) ≤ circCntToEnd cb.head cb.tail mxu1WriteBufSize := by
          simp only [getChunk] at hcn
          split at hcn
          · omega
          · omega
        rw [hcn, Int.toNat_natCast]
        have hturn := getAdvance_taken h hle
        obtain ⟨xs, hxs, hout⟩ := ih (count - c)
          (out ++ Ring.block cb.buf cb.tail.toNat c) hturn.ok
        exact ⟨_, hturn.trans hxs, by rw [hout, List.append_assoc]⟩

theorem mxu1BufGet_taken (h : cb.Ok) (count : Int) :
    Taken cb (mxu1BufGet cb count).1 (mxu1BufGet cb count).2 := by
  obtain ⟨xs, hxs, hout⟩ := bufGetLoop_spec count.toNat count [] h
  rw [List.nil_append] at hout
  rw [mxu1BufGet, hout]
  exact hxs

end MoxaDrivers.Mxu11x0

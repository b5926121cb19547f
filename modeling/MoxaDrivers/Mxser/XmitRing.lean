import MoxaDrivers.Lib.Ring
import MoxaDrivers.Mxser.Port

/-!
# The transmit ring

The ring of `xmit_buf`, `xmit_head`, `xmit_tail` and `xmit_cnt`, which both
drivers keep in the same way. `RingOk` is its representation invariant and
`ringBytes` the queue it stands for; a block is pushed at the head (`push`) and
popped at the tail (`pop`), and `fill` is the loop with which a write pushes as
much of a buffer as there is room for.
-/

namespace MoxaDrivers.Mxser

/-! ## The representation -/

/-- The indices of the ring: at most `SERIAL_XMIT_SIZE - 1` bytes, and the head
lies `xmit_cnt` cells after the tail. -/
structure RingOk (r : XmitRing) : Prop where
  cnt_nonneg : 0 ≤ r.cnt
  cnt_le : r.cnt ≤ serialXmitSize - 1
  tail_nonneg : 0 ≤ r.tail
  tail_lt : r.tail < serialXmitSize
  head_eq : r.head = (r.tail + r.cnt) % serialXmitSize

/-- The bytes in the ring, oldest first; none where there is no page. -/
def ringBytes (r : XmitRing) : List Byte :=
  match r.buf with
  | none => []
  | some page => Ring.window serialXmitSize page r.tail.toNat r.cnt.toNat

theorem RingOk.head_nonneg {r : XmitRing} (h : RingOk r) : 0 ≤ r.head := by
  rw [h.head_eq]
  exact Int.emod_nonneg _ (by decide)

theorem RingOk.head_lt {r : XmitRing} (h : RingOk r) : r.head < serialXmitSize := by
  rw [h.head_eq]
  exact Int.emod_lt_of_pos _ (by decide)

/-- The head as a cell of the page. -/
theorem RingOk.head_toNat {r : XmitRing} (h : RingOk r) :
    r.head.toNat = (r.tail.toNat + r.cnt.toNat) % serialXmitSize := by
  have := h.cnt_nonneg
  have := h.tail_nonneg
  have := h.head_eq
  simp only [serialXmitSize] at *
  omega

/-- An emptied ring. -/
theorem ringOk_empty {r : XmitRing} (hc : r.cnt = 0) (hh : r.head = 0)
    (ht : r.tail = 0) : RingOk r where
  cnt_nonneg := by omega
  cnt_le := by simp only [hc, serialXmitSize]; omega
  tail_nonneg := by omega
  tail_lt := by simp only [ht, serialXmitSize]; omega
  head_eq := by simp [hc, hh, ht]

theorem ringBytes_of_cnt_zero {r : XmitRing} (hc : r.cnt = 0) : ringBytes r = [] := by
  cases hb : r.buf <;> simp [ringBytes, hb, hc]

theorem ringBytes_of_no_page {r : XmitRing} (hb : r.buf = none) : ringBytes r = [] := by
  simp [ringBytes, hb]

/-! ## A block stored at the head -/

/-- The ring after `xs` is copied to the cells from the head on and counted. -/
def XmitRing.push (r : XmitRing) (xs : List Byte) : XmitRing where
  buf := r.buf.map fun page => Ring.blit page r.head.toNat xs
  head := (r.head + xs.length) % serialXmitSize
  tail := r.tail
  cnt := r.cnt + xs.length

@[simp] theorem XmitRing.push_cnt (r : XmitRing) (xs : List Byte) :
    (r.push xs).cnt = r.cnt + xs.length := rfl

theorem RingOk.push {r : XmitRing} (h : RingOk r) {xs : List Byte}
    (hroom : r.cnt + xs.length ≤ serialXmitSize - 1) : RingOk (r.push xs) where
  cnt_nonneg := by
    have := h.cnt_nonneg
    simp only [XmitRing.push]
    omega
  cnt_le := hroom
  tail_nonneg := h.tail_nonneg
  tail_lt := h.tail_lt
  head_eq := by
    simp only [XmitRing.push]
    rw [h.head_eq, Int.emod_add_emod, Int.add_assoc]

theorem ringBytes_push {r : XmitRing} (h : RingOk r) (hbuf : r.buf.isSome)
    {xs : List Byte} (hroom : r.cnt + xs.length ≤ serialXmitSize - 1)
    (hend : r.head + xs.length ≤ serialXmitSize) :
    ringBytes (r.push xs) = ringBytes r ++ xs := by
  obtain ⟨page, hp⟩ := Option.isSome_iff_exists.mp hbuf
  have hcnt := h.cnt_nonneg
  have htail := h.tail_nonneg
  have hlt := h.tail_lt
  have hhead := h.head_nonneg
  simp only [serialXmitSize] at hroom hend hlt
  have hblock : Ring.window serialXmitSize
        (Ring.blit page ((r.tail.toNat + r.cnt.toNat) % serialXmitSize) xs)
        r.tail.toNat (r.cnt.toNat + xs.length)
      = Ring.window serialXmitSize page r.tail.toNat r.cnt.toNat ++ xs := by
    apply Ring.window_blit
    · simp only [serialXmitSize]
      omega
    · simp only [serialXmitSize]
      omega
    · rw [← h.head_toNat]
      simp only [serialXmitSize]
      omega
  rw [← h.head_toNat] at hblock
  simp only [ringBytes, XmitRing.push, hp, Option.map_some]
  rw [show (r.cnt + xs.length).toNat = r.cnt.toNat + xs.length from by omega]
  exact hblock

/-! ## A block taken at the tail -/

/-- The ring after the `k` oldest bytes are taken. -/
def XmitRing.pop (r : XmitRing) (k : Nat) : XmitRing :=
  { r with tail := (r.tail + k) % serialXmitSize, cnt := r.cnt - k }

theorem RingOk.pop {r : XmitRing} (h : RingOk r) {k : Nat} (hk : (k : Int) ≤ r.cnt) :
    RingOk (r.pop k) where
  cnt_nonneg := by
    simp only [XmitRing.pop]
    omega
  cnt_le := by
    have := h.cnt_le
    simp only [XmitRing.pop]
    omega
  tail_nonneg := Int.emod_nonneg _ (by decide)
  tail_lt := Int.emod_lt_of_pos _ (by decide)
  head_eq := by
    simp only [XmitRing.pop]
    rw [h.head_eq, Int.emod_add_emod]
    congr 1
    omega

theorem ringBytes_pop {r : XmitRing} (h : RingOk r) {k : Nat} (hk : (k : Int) ≤ r.cnt) :
    ringBytes (r.pop k) = (ringBytes r).drop k := by
  have htail := h.tail_nonneg
  cases hb : r.buf with
  | none => simp [ringBytes, XmitRing.pop, hb]
  | some page =>
      have hmod : ((r.tail + k) % serialXmitSize).toNat
          = (r.tail.toNat + k) % serialXmitSize := by
        simp only [serialXmitSize]
        omega
      have hcnt : (r.cnt - k).toNat = r.cnt.toNat - k := by omega
      simp only [ringBytes, XmitRing.pop, hb, hmod, hcnt, Ring.window_mod]
      rw [Ring.window_drop (by omega)]

/-- The oldest bytes, read from the page in one block: the block may not reach
past the end of the page. -/
theorem ringBytes_take {r : XmitRing} {page : Page} (h : RingOk r) (hb : r.buf = some page)
    {k : Nat} (hk : (k : Int) ≤ r.cnt) (hend : r.tail + k ≤ serialXmitSize) :
    (ringBytes r).take k = Ring.block page r.tail.toNat k := by
  have := h.tail_nonneg
  simp only [ringBytes, hb]
  rw [Ring.window_take (by omega), ← Ring.block_eq_window (by omega)]

/-! ## The loop of a write -/

/-- `c = MIN(count, MIN(SERIAL_XMIT_SIZE - xmit_cnt - 1, SERIAL_XMIT_SIZE - xmit_head))`. -/
def writeChunk (r : XmitRing) (count : Int) : Int :=
  min count (min (serialXmitSize - r.cnt - 1) (serialXmitSize - r.head))

/-- The loop of a write: chunk after chunk is copied to the head, until the
buffer or the room is used up. Every turn takes at least one byte of `buf`, so
that `buf.length + 1` turns reach its end. -/
def XmitRing.fill : Nat → XmitRing → List Byte → Nat × XmitRing
  | 0, r, _ => (0, r)
  | fuel + 1, r, buf =>
      let c := writeChunk r buf.length
      if c ≤ 0 then (0, r)
      else
        let rest := (r.push (buf.take c.toNat)).fill fuel (buf.drop c.toNat)
        (c.toNat + rest.1, rest.2)

/-- What the loop does with a page: it stores the first `min count room` bytes,
in as many turns as the wrap takes. -/
theorem fill_spec (fuel : Nat) {r : XmitRing} {buf : List Byte} (hf : buf.length < fuel)
    (hok : RingOk r) (hbuf : r.buf.isSome) :
    let k := min buf.length (serialXmitSize - 1 - r.cnt).toNat
    (r.fill fuel buf).1 = k ∧ RingOk (r.fill fuel buf).2 ∧ (r.fill fuel buf).2.buf.isSome ∧
      ringBytes (r.fill fuel buf).2 = ringBytes r ++ buf.take k := by
  induction fuel generalizing r buf with
  | zero => omega
  | succ fuel ih =>
      intro k
      have hcnt := hok.cnt_le
      have hhead := hok.head_lt
      by_cases hchunk : writeChunk r buf.length ≤ 0
      · have hk : k = 0 := by
          simp only [writeChunk] at hchunk
          omega
        simp [XmitRing.fill, hchunk, hk, hok, hbuf]
      · obtain ⟨c, hc⟩ : ∃ c : Nat, writeChunk r buf.length = c :=
          ⟨_, (Int.toNat_of_nonneg (by omega)).symm⟩
        have hchunk' := hc
        simp only [writeChunk] at hchunk'
        have hle : c ≤ buf.length := by omega
        have hlen : (buf.take c).length = c := by simp [hle]
        have hroom : r.cnt + (buf.take c).length ≤ serialXmitSize - 1 := by omega
        have hend : r.head + (buf.take c).length ≤ serialXmitSize := by omega
        have hpush : (r.push (buf.take c)).buf.isSome := by simpa [XmitRing.push] using hbuf
        have hfuel : (buf.drop c).length < fuel := by
          simp only [List.length_drop]
          omega
        obtain ⟨hnum, hokr, hbufr, hbytes⟩ := ih hfuel (hok.push hroom) hpush
        have hk : k = c + min (buf.length - c) (serialXmitSize - 1 - (r.cnt + c)).toNat := by
          simp only [k, serialXmitSize] at *
          omega
        simp only [XmitRing.push_cnt, hlen, List.length_drop] at hnum hbytes
        simp only [XmitRing.fill, hc, Int.toNat_natCast, if_neg (hc ▸ hchunk)]
        refine ⟨by rw [hnum, hk], hokr, hbufr, ?_⟩
        rw [hbytes, ringBytes_push hok hbuf hroom hend, List.append_assoc, hk, List.take_add]

end MoxaDrivers.Mxser

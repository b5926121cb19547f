import MoxaDrivers.Lib.Machine
import MoxaDrivers.Mxupcie.Startup
import MoxaDrivers.Mxupcie.Transmit

/-!
# The transmit path is a bounded FIFO

The ring and the transmit memory of a port, under any sequence of
`mxupcie_write`, `mxupcie_put_char`, `mx_transmit_chars`,
`mxupcie_flush_buffer`, `mx_startup` and `mx_shutdown`, implement the queue
`Ring.Ledger`. The blocks that leave are clipped by the ring, by the free room
of the FIFO and by the end of the page.

One step breaks it: a start-up that bails out at the presence check puts a
fresh page under the indices of the old one.
-/

namespace MoxaDrivers.Mxupcie

open MoxaDrivers.Bits MoxaDrivers.Machine MoxaDrivers.Mxser

/-- The block fits the free room of the FIFO and ends within the page. -/
structure Block.Within (b : Block) : Prop where
  room : (b.data.length : Int) ≤ mxTxFifoSize - b.tcnt.toNat
  page : b.pos + b.data.length ≤ serialXmitSize

/-! ## The operations one by one -/

theorem mxupcieWrite_no_page {p : Port} (hbuf : p.ring.buf = none) (buf : List Byte) :
    mxupcieWrite p buf = (0, p) := by
  simp [mxupcieWrite, hbuf]

/-- What `mxupcie_write` does to a port that holds a page. -/
theorem mxupcieWrite_spec {p : Port} (h : RingOk p.ring) (hbuf : p.ring.buf.isSome)
    (buf : List Byte) :
    RingOk (mxupcieWrite p buf).2.ring ∧
      ringBytes (mxupcieWrite p buf).2.ring
        = ringBytes p.ring ++ buf.take (mxupcieWrite p buf).1 ∧
      (mxupcieWrite p buf).2.uart.memthr = p.uart.memthr := by
  obtain ⟨hnum, hok, -, hbytes⟩ := fill_spec (buf.length + 1) (Nat.lt_succ_self _) h hbuf
  obtain ⟨ier, uier, hkick⟩ :=
    writeKick_frame { p with ring := (p.ring.fill (buf.length + 1) buf).2 }
  have hn : p.ring.buf.isNone = false := by simpa using hbuf
  simp only [mxupcieWrite, hn, Bool.false_eq_true, if_false, hkick, hnum]
  exact ⟨hok, hbytes, trivial⟩

theorem mxupciePutChar_spec {p : Port} (h : RingOk p.ring) (ch : Byte) :
    RingOk (mxupciePutChar p ch).2.ring ∧
      ringBytes (mxupciePutChar p ch).2.ring
        = ringBytes p.ring ++ [ch].take (mxupciePutChar p ch).1 ∧
      (mxupciePutChar p ch).2.uart.memthr = p.uart.memthr := by
  simp only [mxupciePutChar]
  split
  · simp [h]
  · rename_i hbuf
    split
    · simp [h]
    · rename_i hroom
      obtain ⟨ier, uier, hkick⟩ := putCharKick_frame { p with ring := p.ring.push [ch] }
      have hle : p.ring.cnt + ([ch].length : Nat) ≤ serialXmitSize - 1 := by
        simp only [List.length_singleton]
        omega
      have hend : p.ring.head + ([ch].length : Nat) ≤ serialXmitSize := by
        have := h.head_lt
        simp only [List.length_singleton]
        omega
      have hpage : p.ring.buf.isSome := Option.isSome_iff_ne_none.mpr (by simpa using hbuf)
      rw [hkick]
      exact ⟨h.push hle, ringBytes_push h hpage hle hend, rfl⟩

theorem ringBytes_length {r : XmitRing} {page : Page} (hb : r.buf = some page) :
    (ringBytes r).length = r.cnt.toNat := by
  simp [ringBytes, hb]

/-- A transmit interrupt moves the oldest bytes, in at most one block, to the
transmit memory. -/
theorem mxTransmitChars_spec {p q : Port} {tcnt : Byte} (h : RingOk p.ring)
    (hq : mxTransmitChars p tcnt = .ok q) :
    ∃ k sent, k ≤ (ringBytes p.ring).length ∧ RingOk q.ring ∧
      ringBytes q.ring = (ringBytes p.ring).drop k ∧
      q.uart.memthr = p.uart.memthr ++ sent ∧
      sent.flatMap Block.data = (ringBytes p.ring).take k ∧ ∀ b ∈ sent, b.Within := by
  rcases mxTransmitChars_cases hq with ⟨event, rfl, -⟩ | ⟨-, rfl⟩ |
    ⟨page, cnt, event, hbuf, -, hcnt, rfl⟩
  · exact ⟨0, [], Nat.zero_le _, h, by simp, by simp, by simp, by simp⟩
  · exact ⟨0, [], Nat.zero_le _, h, by simp, by simp [Port.thriOff, Port.setIer], by simp, by simp⟩
  · by_cases hzero : cnt = 0
    · subst hzero
      exact ⟨0, [], Nat.zero_le _, h, by simp [countSent], by simp [countSent], by simp, by simp⟩
    · -- the block, clipped three ways
      simp only [sendChunk] at hcnt
      have htail := h.tail_nonneg
      have hle : (cnt : Int) ≤ p.ring.cnt := by omega
      have hend : p.ring.tail + cnt ≤ serialXmitSize := by omega
      refine ⟨cnt, [⟨tcnt, p.ring.tail.toNat, Ring.block page p.ring.tail.toNat cnt⟩],
        ?_, ?_, ?_, ?_, ?_, ?_⟩
      · rw [ringBytes_length hbuf]
        omega
      · simp only [ne_eq, hzero, not_false_eq_true, if_true]
        exact h.pop hle
      · simp only [ne_eq, hzero, not_false_eq_true, if_true]
        exact ringBytes_pop h hle
      · simp [countSent, sendBlock, hzero]
      · simp [ringBytes_take h hbuf hle hend]
      · intro b hb
        rw [List.mem_singleton] at hb
        subst hb
        refine ⟨?_, ?_⟩
        · simp only [Ring.block_length]
          omega
        · simp only [Ring.block_length]
          omega

/-- With a count that the FIFO can hold, the interrupt never copies a negative
length. -/
theorem mxTransmitChars_ok {p : Port} {tcnt : Byte} (h : RingOk p.ring)
    (ht : tcnt.toNat ≤ mxTxFifoSize) : ∃ q, mxTransmitChars p tcnt = .ok q := by
  have := h.cnt_nonneg
  have := h.tail_lt
  have hpos : ¬ sendChunk p.ring tcnt < 0 := by
    simp only [sendChunk]
    omega
  unfold mxTransmitChars
  split
  · exact ⟨_, rfl⟩
  · split
    · exact ⟨_, rfl⟩
    · split
      · exact ⟨_, rfl⟩
      · simp only [if_neg hpos]
        exact ⟨_, rfl⟩

/-! ## The operations as steps, with the ledger -/

/-- A reading of `MOXA_PUART_TCNT` that the FIFO allows for. -/
abbrev Tcnt := { t : Byte // t.toNat ≤ mxTxFifoSize }

/-- The operations; the arguments of `startup` are those of `mx_startup`, and
`flushBuffer` takes what its read of the UART returns. -/
inductive TxOp where
  | write (buf : List Byte)
  | putChar (ch : Byte)
  | transmitChars (tcnt : Tcnt)
  | flushBuffer (iir : Byte)
  | startup (page : Option Page) (lsr : Byte) (admin : Bool)
  | shutdown

/-- The port after an operation. -/
def TxOp.apply (op : TxOp) (p : Port) : Except Fault Port :=
  match op with
  | .write buf => .ok (mxupcieWrite p buf).2
  | .putChar ch => .ok (mxupciePutChar p ch).2
  | .transmitChars tcnt => mxTransmitChars p tcnt.val
  | .flushBuffer iir => .ok (mxupcieFlushBuffer p iir)
  | .startup page lsr admin => .ok (mxStartup p page lsr admin).2
  | .shutdown => .ok (mxShutdown p)

/-- What the operation that led from `p` to `q` means for the queue: bytes are
accepted as its return value says, sent as the transmit memory shows, and
dropped by a flush, by a shutdown (the page is freed) and by a start-up that
resets the ring. -/
def TxOp.account (op : TxOp) (p q : Port) (L : Ring.Ledger Byte) : Ring.Ledger Byte :=
  match op with
  | .write buf => L.accept (buf.take (mxupcieWrite p buf).1)
  | .putChar ch => L.accept ([ch].take (mxupciePutChar p ch).1)
  | .transmitChars _ => L.send (q.uart.dataOut.length - p.uart.dataOut.length)
  | .flushBuffer _ => L.flush
  | .startup .. => if !p.initialized && q.initialized then L.flush else L
  | .shutdown => if p.initialized then L.flush else L

/-- A port and the queue it stands for. -/
structure Sending where
  port : Port
  ledger : Ring.Ledger Byte

def txStep (s : Sending) (op : TxOp) : Except Fault Sending := do
  let q ← op.apply s.port
  return ⟨q, op.account s.port q s.ledger⟩

/-- A start-up that gives up at the presence check (`LSR` reads `0xFF`) after
it took a fresh page, while `xmit_cnt` still counts the bytes of the page that
was freed. -/
def StaleStartup (p : Port) (op : TxOp) : Prop :=
  ∃ page admin, op = .startup (some page) 0xFF admin ∧ p.initialized = false ∧
    p.base ≠ 0 ∧ p.type ≠ 0 ∧ p.ring.buf = none ∧ p.ring.cnt ≠ 0

/-- What ties a port to its queue; `old` are the blocks copied before. -/
structure FifoInv (old : List Block) (s : Sending) : Prop where
  ring : RingOk s.port.ring
  queued : ringBytes s.port.ring = s.ledger.queued
  output : s.port.uart.dataOut = s.ledger.output
  blocks : ∃ sent, s.port.uart.memthr = old ++ sent ∧ ∀ b ∈ sent, b.Within

variable {old : List Block} {s : Sending}

/-- An operation that copies nothing to the transmit memory. -/
theorem FifoInv.keep (h : FifoInv old s) {q : Port} {L : Ring.Ledger Byte}
    (hring : RingOk q.ring) (hqueued : ringBytes q.ring = L.queued)
    (hout : L.output = s.ledger.output) (hmem : q.uart.memthr = s.port.uart.memthr) :
    FifoInv old ⟨q, L⟩ where
  ring := hring
  queued := hqueued
  output := by rw [hout, ← h.output, Uart.dataOut_congr hmem]
  blocks := by simpa [hmem] using h.blocks

/-! ## What one step preserves -/

theorem fifoInv_write (h : FifoInv old s) (buf : List Byte) :
    FifoInv old ⟨(mxupcieWrite s.port buf).2,
      s.ledger.accept (buf.take (mxupcieWrite s.port buf).1)⟩ := by
  cases hb : s.port.ring.buf with
  | none =>
      rw [mxupcieWrite_no_page hb]
      exact h.keep h.ring (by simp [h.queued]) (by simp) rfl
  | some page =>
      obtain ⟨hok, hbytes, hmem⟩ := mxupcieWrite_spec h.ring (by simp [hb]) buf
      exact h.keep hok (by simp [hbytes, h.queued]) (by simp) hmem

theorem fifoInv_putChar (h : FifoInv old s) (ch : Byte) :
    FifoInv old ⟨(mxupciePutChar s.port ch).2,
      s.ledger.accept ([ch].take (mxupciePutChar s.port ch).1)⟩ := by
  obtain ⟨hok, hbytes, hmem⟩ := mxupciePutChar_spec h.ring ch
  exact h.keep hok (by rw [hbytes, Ring.Ledger.queued_accept, h.queued]) (by simp) hmem

theorem fifoInv_transmitChars (h : FifoInv old s) {tcnt : Byte} {q : Port}
    (hq : mxTransmitChars s.port tcnt = .ok q) :
    FifoInv old ⟨q, s.ledger.send (q.uart.dataOut.length - s.port.uart.dataOut.length)⟩ := by
  obtain ⟨k, sent, hk, hok, hbytes, hmem, hdata, hwithin⟩ := mxTransmitChars_spec h.ring hq
  have hout : q.uart.dataOut = s.port.uart.dataOut ++ (ringBytes s.port.ring).take k := by
    simp [Uart.dataOut, hmem, hdata]
  -- as many bytes leave the queue as are copied
  have hnum : q.uart.dataOut.length - s.port.uart.dataOut.length = k := by
    simp [hout, hk]
  refine ⟨hok, ?_, ?_, ?_⟩
  · simp [hnum, hbytes, h.queued]
  · simp [hout, h.output, h.queued]
  · obtain ⟨before, hbefore, hall⟩ := h.blocks
    refine ⟨before ++ sent, by simp [hmem, hbefore], ?_⟩
    intro b hb
    rcases List.mem_append.mp hb with hb | hb
    · exact hall b hb
    · exact hwithin b hb

theorem fifoInv_flushBuffer (h : FifoInv old s) (iir : Byte) :
    FifoInv old ⟨mxupcieFlushBuffer s.port iir, s.ledger.flush⟩ := by
  have hbytes : ringBytes (mxupcieFlushBuffer s.port iir).ring = [] := ringBytes_of_cnt_zero rfl
  exact h.keep (ringOk_empty rfl rfl rfl) (by simp [hbytes]) (by simp) rfl

/-- Without its page the ring is as it was, and holds no bytes. -/
theorem ringOk_buf {r : XmitRing} (h : RingOk r) (buf : Option Page) :
    RingOk { r with buf := buf } :=
  ⟨h.cnt_nonneg, h.cnt_le, h.tail_nonneg, h.tail_lt, h.head_eq⟩

theorem fifoInv_shutdown (h : FifoInv old s) :
    FifoInv old ⟨mxShutdown s.port,
      if s.port.initialized then s.ledger.flush else s.ledger⟩ := by
  cases hi : s.port.initialized with
  | false => simpa [mxShutdown, hi] using h
  | true =>
      have hring : (mxShutdown s.port).ring = { s.port.ring with buf := none } := by
        simp [mxShutdown, hi, shutdownUart, markIoError, clearFifos, Port.setIer, Port.setMcr]
      have hmem : (mxShutdown s.port).uart.memthr = s.port.uart.memthr := by
        simp [mxShutdown, hi, shutdownUart, markIoError, clearFifos, Port.setIer, Port.setMcr]
      rw [if_pos rfl]
      refine h.keep ?_ ?_ (by simp) hmem
      · rw [hring]
        exact ringOk_buf h.ring none
      · simp [hring, ringBytes_of_no_page]

/-- What `mx_startup` does with the ring: nothing, or it resets it on a port it
brings up, or it puts a page under its indices. -/
theorem mxStartup_ring (p : Port) (page : Option Page) (lsr : Byte) (admin : Bool) :
    (mxStartup p page lsr admin).2.uart.memthr = p.uart.memthr ∧
    (((mxStartup p page lsr admin).2.initialized = p.initialized ∧
        (mxStartup p page lsr admin).2.ring = p.ring) ∨
      (p.initialized = false ∧ (mxStartup p page lsr admin).2.initialized = true ∧
        ∃ buf, (mxStartup p page lsr admin).2.ring = ⟨buf, 0, 0, 0⟩) ∨
      (∃ pg, page = some pg ∧ lsr = 0xFF ∧ p.base ≠ 0 ∧ p.type ≠ 0 ∧ p.initialized = false ∧
        (mxStartup p page lsr admin).2.initialized = false ∧
        (mxStartup p page lsr admin).2.ring = { p.ring with buf := some (p.ring.buf.getD pg) })) := by
  rcases mxStartup_cases p page lsr admin with
    ⟨-, he⟩ | ⟨-, -, he⟩ | ⟨-, -, -, he⟩ | ⟨pg, hpage, hi, hb, ht, hl, he⟩ |
    ⟨pg, -, hi, -, -, -, he⟩
  · rw [he]
    exact ⟨rfl, .inl ⟨rfl, rfl⟩⟩
  · rw [he]
    exact ⟨rfl, .inl ⟨rfl, rfl⟩⟩
  · rw [he]
    exact ⟨rfl, .inl ⟨rfl, rfl⟩⟩
  · rw [he]
    cases admin with
    | true => exact ⟨rfl, .inr (.inr ⟨pg, hpage, hl, hb, ht, hi, hi, rfl⟩)⟩
    | false => exact ⟨rfl, .inr (.inr ⟨pg, hpage, hl, hb, ht, hi, hi, rfl⟩)⟩
  · rw [he]
    exact ⟨rfl, .inr (.inl ⟨hi, startupUart_initialized _, _, rfl⟩)⟩

theorem fifoInv_startup (h : FifoInv old s) (page : Option Page) (lsr : Byte) (admin : Bool)
    (hstale : ¬ StaleStartup s.port (.startup page lsr admin)) :
    FifoInv old ⟨(mxStartup s.port page lsr admin).2,
      if !s.port.initialized && (mxStartup s.port page lsr admin).2.initialized then
        s.ledger.flush else s.ledger⟩ := by
  obtain ⟨hmem, hcases⟩ := mxStartup_ring s.port page lsr admin
  rcases hcases with ⟨hinit, hring⟩ | ⟨hi, hup, buf, hring⟩ | ⟨pg, rfl, rfl, hb, ht, hi, hno, hring⟩
  · rw [hinit]
    refine h.keep (by rw [hring]; exact h.ring) ?_ (by simp) hmem
    simp [hring, h.queued]
  · rw [hi, hup]
    refine h.keep ?_ ?_ (by simp) hmem
    · rw [hring]
      exact ringOk_empty rfl rfl rfl
    · simp [hring, ringBytes_of_cnt_zero]
  · -- the presence check failed: only a fresh page could bring bytes back
    have hbytes : ringBytes (mxStartup s.port (some pg) 0xFF admin).2.ring
        = ringBytes s.port.ring := by
      rw [hring]
      cases hpage : s.port.ring.buf with
      | some old => simp [ringBytes, hpage]
      | none =>
          have hcnt : s.port.ring.cnt = 0 := by
            by_contra hc
            exact hstale ⟨pg, admin, rfl, hi, hb, ht, hpage, hc⟩
          rw [ringBytes_of_cnt_zero (r := s.port.ring) hcnt]
          exact ringBytes_of_cnt_zero hcnt
    rw [hi, hno]
    refine h.keep ?_ (hbytes.trans h.queued) (by simp) hmem
    rw [hring]
    exact ringOk_buf h.ring _

theorem fifoInv_step {t : Sending} {op : TxOp} (h : FifoInv old s)
    (hop : ¬ StaleStartup s.port op) (hstep : txStep s op = .ok t) : FifoInv old t := by
  cases op with
  | write buf =>
      cases hstep
      exact fifoInv_write h buf
  | putChar ch =>
      cases hstep
      exact fifoInv_putChar h ch
  | transmitChars tcnt =>
      obtain ⟨q, hq, ht⟩ := bind_ok_iff.mp hstep
      cases ht
      exact fifoInv_transmitChars h hq
  | flushBuffer iir =>
      cases hstep
      exact fifoInv_flushBuffer h iir
  | startup page lsr admin =>
      cases hstep
      exact fifoInv_startup h page lsr admin hop
  | shutdown =>
      cases hstep
      exact fifoInv_shutdown h

/-! ## Whole runs -/

/-- What the ring of a port promises: the bounds of its indices, that every
block stayed within the FIFO and within the page, and that the transmit memory
and the ring together hold what was accepted and not flushed, in order. -/
structure XmitIsFifo (old : List Block) (s : Sending) : Prop where
  cnt : 0 ≤ s.port.ring.cnt ∧ s.port.ring.cnt ≤ serialXmitSize - 1
  head : 0 ≤ s.port.ring.head ∧ s.port.ring.head < serialXmitSize
  tail : 0 ≤ s.port.ring.tail ∧ s.port.ring.tail < serialXmitSize
  head_eq : s.port.ring.head = (s.port.ring.tail + s.port.ring.cnt) % serialXmitSize
  blocks : ∃ sent, s.port.uart.memthr = old ++ sent ∧ ∀ b ∈ sent, b.Within
  fifo : s.port.uart.dataOut ++ ringBytes s.port.ring = s.ledger.kept

theorem FifoInv.xmitIsFifo (h : FifoInv old s) : XmitIsFifo old s where
  cnt := ⟨h.ring.cnt_nonneg, h.ring.cnt_le⟩
  head := ⟨h.ring.head_nonneg, h.ring.head_lt⟩
  tail := ⟨h.ring.tail_nonneg, h.ring.tail_lt⟩
  head_eq := h.ring.head_eq
  blocks := h.blocks
  fifo := by rw [h.output, h.queued, Ring.Ledger.output_append_queued]

theorem Started.fifoInv {p : Port} (hp : Started p) :
    FifoInv p.uart.memthr ⟨p, Ring.Ledger.start p.uart.dataOut⟩ := by
  obtain ⟨-, hhead, htail, hcnt⟩ := hp.ring
  refine ⟨ringOk_empty hcnt hhead htail, ?_, by simp, [], by simp, by simp⟩
  simp [ringBytes_of_cnt_zero hcnt]

/-- Every operation completes and keeps the indices in order, a stale start-up
included. -/
theorem ringOk_step (h : RingOk s.port.ring) (op : TxOp) :
    ∃ t, txStep s op = .ok t ∧ RingOk t.port.ring := by
  cases op with
  | write buf =>
      refine ⟨_, rfl, ?_⟩
      show RingOk (mxupcieWrite s.port buf).2.ring
      cases hb : s.port.ring.buf with
      | none => simpa [mxupcieWrite_no_page hb] using h
      | some page => exact (mxupcieWrite_spec h (by simp [hb]) buf).1
  | putChar ch => exact ⟨_, rfl, (mxupciePutChar_spec h ch).1⟩
  | transmitChars tcnt =>
      obtain ⟨q, hq⟩ := mxTransmitChars_ok h tcnt.property
      obtain ⟨-, -, -, hok, -⟩ := mxTransmitChars_spec h hq
      exact ⟨_, bind_ok_iff.mpr ⟨q, hq, rfl⟩, hok⟩
  | flushBuffer iir => exact ⟨_, rfl, ringOk_empty rfl rfl rfl⟩
  | startup page lsr admin =>
      refine ⟨_, rfl, ?_⟩
      show RingOk (mxStartup s.port page lsr admin).2.ring
      rcases (mxStartup_ring s.port page lsr admin).2 with
        ⟨-, hring⟩ | ⟨-, -, buf, hring⟩ | ⟨pg, -, -, -, -, -, -, hring⟩
      · rw [hring]
        exact h
      · rw [hring]
        exact ringOk_empty rfl rfl rfl
      · rw [hring]
        exact ringOk_buf h _
  | shutdown =>
      refine ⟨_, rfl, ?_⟩
      show RingOk (mxShutdown s.port).ring
      simp only [mxShutdown]
      split
      · exact ringOk_buf h none
      · exact h

theorem txStep_completes (h : RingOk s.port.ring) (ops : List TxOp) :
    ∃ t, run txStep s ops = .ok t := by
  induction ops generalizing s with
  | nil => exact ⟨s, rfl⟩
  | cons op ops ih =>
      obtain ⟨t, ht, hok⟩ := ringOk_step h op
      obtain ⟨u, hu⟩ := ih hok
      exact ⟨u, run_cons_ok.mpr ⟨t, ht, hu⟩⟩

/-- After a stale start-up the ring counts bytes of the fresh page, which nobody
wrote. -/
theorem not_fifo_of_stale (h : FifoInv old s) {op : TxOp} (hop : StaleStartup s.port op) :
    ∃ t, txStep s op = .ok t ∧ ¬ XmitIsFifo old t := by
  obtain ⟨pg, admin, rfl, hi, hb, ht, hpage, hcnt⟩ := hop
  have hring : (mxStartup s.port (some pg) 0xFF admin).2.ring
      = { s.port.ring with buf := some pg } := by
    cases admin with
    | true => simp [mxStartup, hi, hb, ht, startupPage, clearFifos, markIoError, hpage]
    | false => simp [mxStartup, hi, hb, ht, startupPage, clearFifos, hpage]
  have hno : (mxStartup s.port (some pg) 0xFF admin).2.initialized = false := by
    cases admin with
    | true =>
        simp only [mxStartup, hi, Bool.false_eq_true, if_false, hb, ht, or_self, if_true]
        exact hi
    | false =>
        simp only [mxStartup, hi, Bool.false_eq_true, if_false, hb, ht, or_self, if_true]
        exact hi
  have hmem := (mxStartup_ring s.port (some pg) 0xFF admin).1
  refine ⟨_, rfl, fun hfifo => ?_⟩
  -- the page that was freed left nothing in the queue
  have hfull := hfifo.fifo
  simp only [TxOp.account, hno, Bool.and_false, Bool.false_eq_true, if_false] at hfull
  rw [Uart.dataOut_congr hmem, h.output, ← Ring.Ledger.output_append_queued, ← h.queued,
    ringBytes_of_no_page hpage, List.append_cancel_left_eq] at hfull
  have hlen : (ringBytes { s.port.ring with buf := some pg }).length = s.port.ring.cnt.toNat :=
    ringBytes_length rfl
  have hpos := h.ring.cnt_nonneg
  rw [← hring, hfull] at hlen
  simp only [List.length_nil] at hlen
  omega

/-- **The transmit path is a bounded FIFO.** After a start-up every run of the
operations completes, `TCNT` reading at most 128. In every state of it the
indices are in range, every block fits the free room of the FIFO and ends within
the page, and the bytes copied to the transmit memory followed by those in the
ring are the accepted bytes less the flushed segments, if and only if no
start-up of the run fails its presence check on a fresh page while bytes are
still counted. -/
theorem transmit_path_is_fifo_iff {p : Port} (hp : Started p) (ops : List TxOp) :
    (∃ t, run txStep ⟨p, Ring.Ledger.start p.uart.dataOut⟩ ops = .ok t) ∧
    (Always txStep (XmitIsFifo p.uart.memthr) ⟨p, Ring.Ledger.start p.uart.dataOut⟩ ops ↔
      Guarded txStep (fun s op => ¬ StaleStartup s.port op)
        ⟨p, Ring.Ledger.start p.uart.dataOut⟩ ops) := by
  have hinv := hp.fifoInv
  refine ⟨txStep_completes hinv.ring ops, ?_⟩
  apply always_iff_guarded (J := FifoInv p.uart.memthr) (fun s hs => hs.xmitIsFifo)
  · exact fun s op t hs hop hstep => fifoInv_step hs hop hstep
  · exact fun s op hs hop => not_fifo_of_stale hs (not_not.mp hop)
  · exact hinv

/-- A run over all six operations. -/
theorem transmit_path_is_fifo_iff_cp102 :
    Always txStep (XmitIsFifo (cp102Started (cp102Termios 0)).uart.memthr)
      ⟨cp102Started (cp102Termios 0),
        Ring.Ledger.start (cp102Started (cp102Termios 0)).uart.dataOut⟩
      [.write [1, 2, 3], .transmitChars ⟨126, by decide⟩, .putChar 4, .flushBuffer 0xC1,
        .shutdown, .startup (some fun _ => 0) 0x60 false] :=
  (transmit_path_is_fifo_iff (cp102Started_started (cp102Termios 0)) _).2.mpr (by
    refine guarded_of_mem fun op hop t => ?_
    rintro ⟨page, admin, rfl, -⟩
    simp at hop)

/-- A byte is accepted, the port shut down, and started up again where nothing
answers: the next transmit interrupt sends a byte of the fresh page. -/
theorem stale_count_sends_fresh_page :
    ∃ t, Started (cp102Started (cp102Termios 0)) ∧
      run txStep ⟨cp102Started (cp102Termios 0),
          Ring.Ledger.start (cp102Started (cp102Termios 0)).uart.dataOut⟩
        [.write [0x41], .shutdown, .startup (some fun _ => 0) 0xFF true,
          .transmitChars ⟨0, by decide⟩] = .ok t ∧
      t.port.uart.dataOut = [0x00] ∧ ringBytes t.port.ring = [] ∧ t.ledger.kept = [] :=
  ⟨_, cp102Started_started (cp102Termios 0), rfl, by decide, by decide, by decide⟩

end MoxaDrivers.Mxupcie

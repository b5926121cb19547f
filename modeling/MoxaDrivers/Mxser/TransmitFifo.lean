import MoxaDrivers.Lib.Machine
import MoxaDrivers.Mxser.Board
import MoxaDrivers.Mxser.Transmit

/-!
# The transmit ring is a bounded FIFO

The ring of a port, under any sequence of `mxser_write`, `mxser_put_char`,
`mxser_transmit_chars`, `mxser_flush_buffer`, `mxser_startup` and
`mxser_shutdown`, implements the queue `Ring.Ledger`: bytes are accepted at one
end, leave for `UART_TX` at the other, and flushed segments drop out.

`RingOk` is the representation invariant and `ringBytes` the abstraction.
Each operation has one lemma that says what it does to both; `FifoInv` ties them
to the ledger and is what every step preserves.
-/

namespace MoxaDrivers.Mxser

open MoxaDrivers.Bits MoxaDrivers.Machine

/-! ## `mxser_write` -/

/-- A turn of the loop stores a non-empty prefix of the buffer. -/
theorem writeCopy_some {p q : Port} {buf : List Byte} {c : Nat}
    (hc : writeCopy p buf = some (c, q)) :
    0 < c ∧ c ≤ buf.length ∧ p.ring.cnt + c ≤ serialXmitSize - 1 ∧
      p.ring.head + c ≤ serialXmitSize ∧
      writeCommit q c = { p with ring := p.ring.push (buf.take c) } := by
  by_cases hchunk : writeChunk p.ring buf.length ≤ 0
  · simp [writeCopy, hchunk] at hc
  · simp only [writeCopy, hchunk, if_false, Option.some.injEq, Prod.mk.injEq] at hc
    obtain ⟨hceq, hq⟩ := hc
    simp only [writeChunk] at hchunk hceq
    have hle : c ≤ buf.length := by omega
    refine ⟨by omega, hle, by omega, by omega, ?_⟩
    rw [← hq]
    simp [writeCommit, XmitRing.push, writeChunk, hceq, Nat.min_eq_left hle]

/-- What the operation leaves of the port besides the ring and the transmit
interrupt. -/
theorem kick_ring (p : Port) : (kick p).ring = p.ring := by
  simp only [kick]
  split <;> rfl

theorem kick_dataOut (p : Port) : (kick p).uart.dataOut = p.uart.dataOut := by
  simp only [kick]
  split <;> rfl

theorem kick_initialized (p : Port) : (kick p).initialized = p.initialized := by
  simp only [kick]
  split <;> rfl

theorem writeKick_ring (p : Port) : (writeKick p).ring = p.ring := by
  simp only [writeKick]
  split
  · exact kick_ring p
  · rfl

theorem writeKick_dataOut (p : Port) : (writeKick p).uart.dataOut = p.uart.dataOut := by
  simp only [writeKick]
  split
  · exact kick_dataOut p
  · rfl

/-- The loop of `mxser_write` is the one of the ring. -/
theorem writeLoop_eq (fuel : Nat) (p : Port) (buf : List Byte) :
    writeLoop fuel p buf
      = ((p.ring.fill fuel buf).1, { p with ring := (p.ring.fill fuel buf).2 }) := by
  induction fuel generalizing p buf with
  | zero => rfl
  | succ fuel ih =>
      by_cases hchunk : writeChunk p.ring buf.length ≤ 0
      · simp [writeLoop, writeCopy, XmitRing.fill, hchunk]
      · have hcopy : ∃ q, writeCopy p buf = some ((writeChunk p.ring buf.length).toNat, q) := by
          simp [writeCopy, hchunk]
        obtain ⟨q, hq⟩ := hcopy
        obtain ⟨-, -, -, -, hcommit⟩ := writeCopy_some hq
        simp only [writeLoop, hq, hcommit, ih, XmitRing.fill, if_neg hchunk]

/-- What the loop of `mxser_write` does with a page: it stores the first
`min count room` bytes, in as many turns as the wrap takes. -/
theorem writeLoop_spec (fuel : Nat) (p : Port) (buf : List Byte) (hf : buf.length < fuel)
    (hok : RingOk p.ring) (hbuf : p.ring.buf.isSome) :
    let k := min buf.length (serialXmitSize - 1 - p.ring.cnt).toNat
    (writeLoop fuel p buf).1 = k ∧
      RingOk (writeLoop fuel p buf).2.ring ∧
      (writeLoop fuel p buf).2.ring.buf.isSome ∧
      ringBytes (writeLoop fuel p buf).2.ring = ringBytes p.ring ++ buf.take k ∧
      (writeLoop fuel p buf).2.uart = p.uart := by
  obtain ⟨hnum, hokr, hbufr, hbytes⟩ := fill_spec fuel hf hok hbuf
  rw [writeLoop_eq]
  exact ⟨hnum, hokr, hbufr, hbytes, rfl⟩

/-- **`mxser_write` accepts exactly what `mxser_write_room` offers**, as long as
the port holds a page. -/
theorem mxserWrite_accepted {p : Port} (h : RingOk p.ring) (hbuf : p.ring.buf.isSome)
    (buf : List Byte) :
    ((mxserWrite p buf).1 : Int) = min (buf.length : Int) (mxserWriteRoom p) := by
  have hle := h.cnt_le
  have hspec := (writeLoop_spec (buf.length + 1) p buf (by omega) h hbuf).1
  have hn : p.ring.buf.isNone = false := by simpa using hbuf
  simp only [mxserWrite, hn, mxserWriteRoom]
  simp only [Bool.false_eq_true, if_false, hspec, serialXmitSize] at hle ⊢
  omega

theorem mxserWrite_no_page {p : Port} (hbuf : p.ring.buf = none) (buf : List Byte) :
    mxserWrite p buf = (0, p) := by
  simp [mxserWrite, hbuf]

/-- What `mxser_write` does to a port that holds a page. -/
theorem mxserWrite_spec {p : Port} (h : RingOk p.ring) (hbuf : p.ring.buf.isSome)
    (buf : List Byte) :
    RingOk (mxserWrite p buf).2.ring ∧
      ringBytes (mxserWrite p buf).2.ring
        = ringBytes p.ring ++ buf.take (mxserWrite p buf).1 ∧
      (mxserWrite p buf).2.uart.dataOut = p.uart.dataOut := by
  obtain ⟨hnum, hok, -, hbytes, huart⟩ :=
    writeLoop_spec (buf.length + 1) p buf (by omega) h hbuf
  have hn : p.ring.buf.isNone = false := by simpa using hbuf
  simp only [mxserWrite, hn, Bool.false_eq_true, if_false, writeKick_ring,
    writeKick_dataOut, hnum]
  exact ⟨hok, hbytes, by rw [huart]⟩

/-! ## `mxser_put_char` -/

theorem putCharStore_eq (p : Port) (ch : Byte) :
    putCharStore p ch = { p with ring := p.ring.push [ch] } := by
  simp [putCharStore, XmitRing.push]

theorem mxserPutChar_spec {p : Port} (h : RingOk p.ring) (ch : Byte) :
    RingOk (mxserPutChar p ch).2.ring ∧
      ringBytes (mxserPutChar p ch).2.ring
        = ringBytes p.ring ++ [ch].take (mxserPutChar p ch).1 ∧
      (mxserPutChar p ch).2.uart.dataOut = p.uart.dataOut := by
  simp only [mxserPutChar]
  split
  · simp [h]
  · split
    · simp [h]
    · rename_i hbuf hroom
      have hle : p.ring.cnt + ([ch].length : Nat) ≤ serialXmitSize - 1 := by
        simp only [List.length_singleton]
        omega
      have hlt := h.head_lt
      have hring : (if (!(putCharStore p ch).tty.stopped) = true then kick (putCharStore p ch)
          else putCharStore p ch).ring = p.ring.push [ch] := by
        rw [putCharStore_eq]
        split
        · exact kick_ring _
        · rfl
      have hout : (if (!(putCharStore p ch).tty.stopped) = true then kick (putCharStore p ch)
          else putCharStore p ch).uart.dataOut = p.uart.dataOut := by
        rw [putCharStore_eq]
        split
        · exact kick_dataOut _
        · rfl
      refine ⟨?_, ?_, hout⟩
      · rw [hring]
        exact h.push hle
      · rw [hring, ringBytes_push h (Option.isSome_iff_ne_none.mpr (by simpa using hbuf)) hle
          (by simp only [List.length_singleton]; omega)]
        rfl

/-! ## `mxser_transmit_chars` -/

/-- One byte leaves: the oldest one. -/
theorem sendByte_spec {p : Port} {page : Page} (h : RingOk p.ring)
    (hbuf : p.ring.buf = some page) (hpos : 0 < p.ring.cnt) :
    RingOk (sendByte p page).ring ∧ (sendByte p page).ring.buf = some page ∧
      (sendByte p page).ring.cnt = p.ring.cnt - 1 ∧
      (sendByte p page).uart.dataOut
        = p.uart.dataOut ++ (ringBytes p.ring).take 1 ∧
      ringBytes (sendByte p page).ring = (ringBytes p.ring).drop 1 := by
  have hlt := h.tail_lt
  have hring : (sendByte p page).ring = p.ring.pop 1 := rfl
  have hone : ((1 : Nat) : Int) ≤ p.ring.cnt := by omega
  refine ⟨?_, hbuf, rfl, ?_, ?_⟩
  · rw [hring]
    exact h.pop hone
  · rw [ringBytes_take h hbuf hone (by omega)]
    simp [sendByte, Uart.dataOut, Ring.block]
  · rw [hring]
    exact ringBytes_pop h hone

/-- The loop sends the oldest bytes, as many as the FIFO depth and the ring
allow. -/
theorem sendLoop_spec (page : Page) :
    ∀ (n : Nat) (p : Port), RingOk p.ring → p.ring.buf = some page → 0 < p.ring.cnt →
      let k := min n p.ring.cnt.toNat
      RingOk (sendLoop page n p).ring ∧ (sendLoop page n p).ring.buf = some page ∧
      (sendLoop page n p).uart.dataOut = p.uart.dataOut ++ (ringBytes p.ring).take k ∧
      ringBytes (sendLoop page n p).ring = (ringBytes p.ring).drop k := by
  intro n
  induction n with
  | zero =>
      intro p hok hbuf hpos k
      simp [sendLoop, hok, hbuf, k]
  | succ n ih =>
      intro p hok hbuf hpos k
      obtain ⟨hok', hbuf', hcnt', hout', hbytes'⟩ := sendByte_spec hok hbuf hpos
      simp only [sendLoop]
      split
      · -- the ring has run empty
        rename_i hempty
        have hk : k = 1 := by simp only [k]; omega
        rw [hk]
        exact ⟨hok', hbuf', hout', hbytes'⟩
      · rename_i hmore
        obtain ⟨hokr, hbufr, houtr, hbytesr⟩ := ih _ hok' hbuf' (by omega)
        have hk : k = 1 + min n (sendByte p page).ring.cnt.toNat := by
          simp only [k]
          omega
        refine ⟨hokr, hbufr, ?_, ?_⟩
        · rw [houtr, hout', hbytes', List.append_assoc, hk, List.take_add]
        · rw [hbytesr, hbytes', List.drop_drop, hk]

theorem wakeLow_ring (p : Port) : (wakeLow p).ring = p.ring := by
  simp only [wakeLow]
  split <;> rfl

theorem wakeLow_uart (p : Port) : (wakeLow p).uart = p.uart := by
  simp only [wakeLow]
  split <;> rfl

/-- A transmit interrupt moves some number of the oldest bytes to `UART_TX`. -/
theorem mxserTransmitChars_spec {p : Port} (h : RingOk p.ring) :
    ∃ k, RingOk (mxserTransmitChars p).ring ∧
      (mxserTransmitChars p).uart.dataOut = p.uart.dataOut ++ (ringBytes p.ring).take k ∧
      ringBytes (mxserTransmitChars p).ring = (ringBytes p.ring).drop k := by
  simp only [mxserTransmitChars]
  split
  · exact ⟨0, h, by simp [sendXChar, countSent, Uart.dataOut], by simp [sendXChar, countSent]⟩
  · split
    · exact ⟨0, h, by simp, by simp⟩
    · rename_i page hbuf
      split
      · exact ⟨0, by rw [wakeLow_ring]; exact h, by simp [wakeLow_uart], by simp [wakeLow_ring]⟩
      · split
        · exact ⟨0, h, by simp [Port.thriOff, Port.setIer, Uart.dataOut], by simp⟩
        · have := h.cnt_nonneg
          obtain ⟨hok, -, hout, hbytes⟩ :=
            sendLoop_spec page (max 1 p.fifo.xmitFifoSize).toNat p h hbuf (by omega)
          simp only [wakeLow_ring, wakeLow_uart]
          exact ⟨_, hok, hout, hbytes⟩

/-! ## The operations as steps, with the ledger -/

/-- The operations; the arguments of `startup` are those of `mxserStartup`,
`flushBuffer` takes what its read of the UART returns. -/
inductive TxOp where
  | write (buf : List Byte)
  | putChar (ch : Byte)
  | transmitChars
  | flushBuffer (iir : Byte)
  | startup (page : Option Page) (lsr : Byte) (admin : Bool)
  | shutdown

/-- The port after an operation. -/
def TxOp.apply (op : TxOp) (p : Port) : Port :=
  match op with
  | .write buf => (mxserWrite p buf).2
  | .putChar ch => (mxserPutChar p ch).2
  | .transmitChars => mxserTransmitChars p
  | .flushBuffer iir => mxserFlushBuffer p iir
  | .startup page lsr admin => (mxserStartup p page lsr admin).2
  | .shutdown => mxserShutdown p

/-- What the operation means for the queue: bytes are accepted as its return
value says, sent as `UART_TX` shows, and dropped by a flush, by a shutdown (the
page is freed) and by a start-up that resets the ring. -/
def TxOp.account (op : TxOp) (p : Port) (L : Ring.Ledger Byte) : Ring.Ledger Byte :=
  match op with
  | .write buf => L.accept (buf.take (mxserWrite p buf).1)
  | .putChar ch => L.accept ([ch].take (mxserPutChar p ch).1)
  | .transmitChars =>
      L.send ((mxserTransmitChars p).uart.dataOut.length - p.uart.dataOut.length)
  | .flushBuffer _ => L.flush
  | .startup page lsr admin =>
      if !p.initialized && (mxserStartup p page lsr admin).2.initialized then L.flush else L
  | .shutdown => if p.initialized then L.flush else L

/-- A port and the queue it stands for. -/
structure Sending where
  port : Port
  ledger : Ring.Ledger Byte

def txStep (s : Sending) (op : TxOp) : Except Fault Sending :=
  .ok ⟨op.apply s.port, op.account s.port s.ledger⟩

/-- A start-up that gives up at the presence check (`LSR` reads `0xFF`) after
it took a fresh page, while `xmit_cnt` still counts the bytes of the page that
was freed. -/
def StaleStartup (p : Port) (op : TxOp) : Prop :=
  ∃ page admin, op = .startup (some page) 0xFF admin ∧ p.initialized = false ∧
    p.base ≠ 0 ∧ p.type ≠ 0 ∧ p.ring.buf = none ∧ p.ring.cnt ≠ 0

/-- What ties a port to its queue. -/
structure FifoInv (s : Sending) : Prop where
  ring : RingOk s.port.ring
  queued : ringBytes s.port.ring = s.ledger.queued
  output : s.port.uart.dataOut = s.ledger.output

/-! ## What one step preserves -/

theorem fifoInv_write {s : Sending} (h : FifoInv s) (buf : List Byte) :
    FifoInv ⟨(TxOp.write buf).apply s.port, (TxOp.write buf).account s.port s.ledger⟩ := by
  cases hb : s.port.ring.buf with
  | none =>
      have hnone := mxserWrite_no_page hb buf
      refine ⟨?_, ?_, ?_⟩
      · show RingOk (mxserWrite s.port buf).2.ring
        rw [hnone]
        exact h.ring
      · show ringBytes (mxserWrite s.port buf).2.ring = (s.ledger.accept _).queued
        rw [Ring.Ledger.queued_accept, ← h.queued, hnone]
        simp
      · show (mxserWrite s.port buf).2.uart.dataOut = (s.ledger.accept _).output
        rw [Ring.Ledger.output_accept, ← h.output, hnone]
  | some page =>
      obtain ⟨hok, hbytes, hout⟩ := mxserWrite_spec h.ring (by simp [hb]) buf
      refine ⟨hok, ?_, ?_⟩
      · show ringBytes (mxserWrite s.port buf).2.ring = (s.ledger.accept _).queued
        rw [Ring.Ledger.queued_accept, ← h.queued, hbytes]
      · show (mxserWrite s.port buf).2.uart.dataOut = (s.ledger.accept _).output
        rw [Ring.Ledger.output_accept, ← h.output, hout]

theorem fifoInv_putChar {s : Sending} (h : FifoInv s) (ch : Byte) :
    FifoInv ⟨(TxOp.putChar ch).apply s.port, (TxOp.putChar ch).account s.port s.ledger⟩ := by
  obtain ⟨hok, hbytes, hout⟩ := mxserPutChar_spec h.ring ch
  refine ⟨hok, ?_, ?_⟩
  · show ringBytes (mxserPutChar s.port ch).2.ring = (s.ledger.accept _).queued
    rw [Ring.Ledger.queued_accept, ← h.queued, hbytes]
  · show (mxserPutChar s.port ch).2.uart.dataOut = (s.ledger.accept _).output
    rw [Ring.Ledger.output_accept, ← h.output, hout]

theorem fifoInv_transmitChars {s : Sending} (h : FifoInv s) :
    FifoInv ⟨TxOp.transmitChars.apply s.port, TxOp.transmitChars.account s.port s.ledger⟩ := by
  obtain ⟨k, hok, hout, hbytes⟩ := mxserTransmitChars_spec h.ring
  -- as many bytes leave the queue as `UART_TX` shows
  have hnum : (mxserTransmitChars s.port).uart.dataOut.length - s.port.uart.dataOut.length
      = min k (ringBytes s.port.ring).length := by
    rw [hout, List.length_append, List.length_take]
    omega
  refine ⟨hok, ?_, ?_⟩
  · show ringBytes (mxserTransmitChars s.port).ring = (s.ledger.send _).queued
    rw [Ring.Ledger.queued_send, ← h.queued, hbytes, hnum]
    by_cases hk : k ≤ (ringBytes s.port.ring).length
    · rw [Nat.min_eq_left hk]
    · rw [Nat.min_eq_right (by omega), List.drop_length, List.drop_of_length_le (by omega)]
  · show (mxserTransmitChars s.port).uart.dataOut = (s.ledger.send _).output
    rw [Ring.Ledger.output_send, ← h.queued, ← h.output, hnum, hout, List.take_eq_take_min]

theorem fifoInv_flushBuffer {s : Sending} (h : FifoInv s) (iir : Byte) :
    FifoInv ⟨(TxOp.flushBuffer iir).apply s.port,
      (TxOp.flushBuffer iir).account s.port s.ledger⟩ := by
  refine ⟨ringOk_empty rfl rfl rfl, ?_, ?_⟩
  · show ringBytes (mxserFlushBuffer s.port iir).ring = s.ledger.flush.queued
    rw [Ring.Ledger.queued_flush]
    exact ringBytes_of_cnt_zero rfl
  · show (mxserFlushBuffer s.port iir).uart.dataOut = s.ledger.flush.output
    rw [Ring.Ledger.output_flush, ← h.output]
    exact Uart.dataOut_congr rfl

theorem fifoInv_shutdown {s : Sending} (h : FifoInv s) :
    FifoInv ⟨TxOp.shutdown.apply s.port, TxOp.shutdown.account s.port s.ledger⟩ := by
  cases hi : s.port.initialized with
  | false => simpa [TxOp.apply, TxOp.account, mxserShutdown, hi] using h
  | true =>
      simp only [TxOp.apply, TxOp.account, mxserShutdown, hi, if_true]
      refine ⟨⟨h.ring.cnt_nonneg, h.ring.cnt_le, h.ring.tail_nonneg, h.ring.tail_lt,
        h.ring.head_eq⟩, ?_, ?_⟩
      · rw [Ring.Ledger.queued_flush]
        exact ringBytes_of_no_page rfl
      · rw [Ring.Ledger.output_flush, ← h.output]
        exact Uart.dataOut_congr rfl

/-- A start-up that stops at the presence check leaves the ring as it is, if it
kept the old page or nothing is counted in the ring. -/
theorem startupPage_ring {p : Port} (page : Page) (h : p.ring.buf = none → p.ring.cnt = 0) :
    ringBytes (startupPage p page).ring = ringBytes p.ring := by
  cases hb : p.ring.buf with
  | none =>
      rw [ringBytes_of_no_page hb]
      exact ringBytes_of_cnt_zero (h hb)
  | some pg =>
      have hring : (startupPage p page).ring = p.ring := by
        show { p.ring with buf := some (p.ring.buf.getD page) } = p.ring
        rw [hb, Option.getD_some, ← hb]
      rw [hring]

theorem fifoInv_startup {s : Sending} (h : FifoInv s) (page : Option Page) (lsr : Byte)
    (admin : Bool) (hstale : ¬ StaleStartup s.port (.startup page lsr admin)) :
    FifoInv ⟨(TxOp.startup page lsr admin).apply s.port,
      (TxOp.startup page lsr admin).account s.port s.ledger⟩ := by
  -- what a start-up that initialises nothing has to leave alone
  have hkeep : ∀ q : Port, (mxserStartup s.port page lsr admin).2 = q →
      q.initialized = s.port.initialized → RingOk q.ring →
      ringBytes q.ring = ringBytes s.port.ring → q.uart.dataOut = s.port.uart.dataOut →
      FifoInv ⟨(TxOp.startup page lsr admin).apply s.port,
        (TxOp.startup page lsr admin).account s.port s.ledger⟩ := by
    intro q hq hinit hok hbytes hout
    simp only [TxOp.apply, TxOp.account, hq, hinit, Bool.not_and_self, Bool.false_eq_true,
      if_false]
    exact ⟨hok, by rw [hbytes, h.queued], by rw [hout, h.output]⟩
  rcases mxserStartup_cases s.port page lsr admin with
    ⟨-, he⟩ | ⟨-, -, he⟩ | ⟨-, -, -, he⟩ | ⟨pg, rfl, hi, hb, ht, rfl, he⟩ |
    ⟨pg, -, hi, -, -, -, he⟩
  · exact hkeep s.port (by rw [he]) rfl h.ring rfl rfl
  · exact hkeep s.port (by rw [he]) rfl h.ring rfl rfl
  · exact hkeep (markIoError s.port true) (by rw [he]) (Port.initialized_congr rfl) h.ring rfl
      (Uart.dataOut_congr rfl)
  · -- the presence check failed: only a fresh page could bring bytes back
    have hcnt : s.port.ring.buf = none → s.port.ring.cnt = 0 := by
      intro hn
      by_contra hc
      exact hstale ⟨pg, admin, rfl, hi, hb, ht, hn, hc⟩
    have hok : RingOk (startupPage s.port pg).ring :=
      ⟨h.ring.cnt_nonneg, h.ring.cnt_le, h.ring.tail_nonneg, h.ring.tail_lt, h.ring.head_eq⟩
    have hbytes := startupPage_ring pg hcnt
    cases admin with
    | true =>
        exact hkeep (markIoError (startupPage s.port pg) true) (by rw [he]; rfl)
          (Port.initialized_congr rfl) hok hbytes (Uart.dataOut_congr rfl)
    | false =>
        exact hkeep (startupPage s.port pg) (by rw [he]; rfl)
          (Port.initialized_congr rfl) hok hbytes (Uart.dataOut_congr rfl)
  · simp only [TxOp.apply, TxOp.account, he, hi, startupUart_initialized, Bool.not_false,
      Bool.and_self, if_true]
    refine ⟨ringOk_empty rfl rfl rfl, ?_, ?_⟩
    · rw [Ring.Ledger.queued_flush]
      exact ringBytes_of_cnt_zero rfl
    · rw [Ring.Ledger.output_flush, ← h.output, startupUart_dataOut]
      exact Uart.dataOut_congr rfl

theorem fifoInv_step {s t : Sending} {op : TxOp} (h : FifoInv s)
    (hop : ¬ StaleStartup s.port op) (hstep : txStep s op = .ok t) : FifoInv t := by
  cases hstep
  cases op with
  | write buf => exact fifoInv_write h buf
  | putChar ch => exact fifoInv_putChar h ch
  | transmitChars => exact fifoInv_transmitChars h
  | flushBuffer iir => exact fifoInv_flushBuffer h iir
  | startup page lsr admin => exact fifoInv_startup h page lsr admin hop
  | shutdown => exact fifoInv_shutdown h

/-! ## Whole runs -/

/-- What the ring of a port promises: the bounds of its indices, what a write
accepts, and that `UART_TX` and the ring together hold what was accepted and
not flushed, in order. -/
structure RingIsFifo (s : Sending) : Prop where
  cnt : 0 ≤ s.port.ring.cnt ∧ s.port.ring.cnt ≤ serialXmitSize - 1
  head : 0 ≤ s.port.ring.head ∧ s.port.ring.head < serialXmitSize
  tail : 0 ≤ s.port.ring.tail ∧ s.port.ring.tail < serialXmitSize
  head_eq : s.port.ring.head = (s.port.ring.tail + s.port.ring.cnt) % serialXmitSize
  accepts : ∀ buf : List Byte, ((mxserWrite s.port buf).1 : Int)
    = if s.port.ring.buf.isSome then min (buf.length : Int) (mxserWriteRoom s.port) else 0
  fifo : s.port.uart.dataOut ++ ringBytes s.port.ring = s.ledger.kept

theorem FifoInv.ringIsFifo {s : Sending} (h : FifoInv s) : RingIsFifo s where
  cnt := ⟨h.ring.cnt_nonneg, h.ring.cnt_le⟩
  head := ⟨h.ring.head_nonneg, h.ring.head_lt⟩
  tail := ⟨h.ring.tail_nonneg, h.ring.tail_lt⟩
  head_eq := h.ring.head_eq
  accepts := by
    intro buf
    cases hb : s.port.ring.buf with
    | none => simp [mxserWrite_no_page hb]
    | some page => simpa using mxserWrite_accepted h.ring (by simp [hb]) buf
  fifo := by rw [h.output, h.queued, Ring.Ledger.output_append_queued]

theorem Started.fifoInv {p : Port} (hp : Started p) :
    FifoInv ⟨p, Ring.Ledger.start p.uart.dataOut⟩ := by
  obtain ⟨-, hhead, htail, hcnt⟩ := hp.ring
  refine ⟨ringOk_empty hcnt hhead htail, ?_, ?_⟩
  · rw [Ring.Ledger.queued_start]
    exact ringBytes_of_cnt_zero hcnt
  · rw [Ring.Ledger.output_start]

/-- **The transmit ring is a bounded FIFO.** In every state of every run after
a start-up the indices are in range, a write accepts as many bytes as there is
room for while the port holds a page and none while it does not, and the bytes
at `UART_TX` followed by those in the ring are the accepted bytes less the
flushed segments. Runs with a start-up that fails its presence check on a fresh
page while bytes are still counted are left out. -/
theorem transmit_ring_is_fifo {p : Port} (hp : Started p) {ops : List TxOp}
    (hops : Guarded txStep (fun s op => ¬ StaleStartup s.port op)
      ⟨p, Ring.Ledger.start p.uart.dataOut⟩ ops) :
    Always txStep RingIsFifo ⟨p, Ring.Ledger.start p.uart.dataOut⟩ ops := by
  have hinv : Always txStep FifoInv ⟨p, Ring.Ledger.start p.uart.dataOut⟩ ops :=
    always_of_guarded (fun s op t h hop ht => fifoInv_step h hop ht) hp.fifoInv hops
  exact hinv.mono fun t ht => ht.ringIsFifo

/-- A run over all six operations. -/
theorem transmit_ring_is_fifo_run :
    Always txStep RingIsFifo
      ⟨c104Started port16450 zeroTermios,
        Ring.Ledger.start (c104Started port16450 zeroTermios).uart.dataOut⟩
      [.write [1, 2, 3], .transmitChars, .putChar 4, .flushBuffer 0xC1, .shutdown,
        .startup (some fun _ => 0) 0x60 false] :=
  transmit_ring_is_fifo (c104Started_started (by decide) zeroTermios) (by
    refine guarded_of_mem fun op hop t => ?_
    rintro ⟨page, admin, rfl, -⟩
    simp at hop)

/-- After a shutdown there is room by `mxser_write_room`, and `mxser_write`
takes nothing. -/
theorem write_room_without_page :
    ∃ t, Started (c104Started port16450 zeroTermios) ∧
      run txStep ⟨c104Started port16450 zeroTermios,
        Ring.Ledger.start (c104Started port16450 zeroTermios).uart.dataOut⟩ [.shutdown] = .ok t ∧
      ((mxserWrite t.port [0x41]).1 : Int) ≠ min 1 (mxserWriteRoom t.port) :=
  ⟨_, c104Started_started (by decide) zeroTermios, rfl, by decide⟩

end MoxaDrivers.Mxser

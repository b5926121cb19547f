import MoxaDrivers.Lib.CellLog
import MoxaDrivers.Mxser.TransmitFifo

/-!
# `mxser_write` against flushes and transmit interrupts

`mxser_write` copies a chunk to `xmit_buf + xmit_head` without `slock` and takes
the lock only to advance `xmit_head` and `xmit_cnt`. Here the two are separate
steps, `copy` and `commit`, between which a flush or a transmit interrupt may
come. The log of the cells of the page records what is copied, sent and
flushed; it is sound when every byte handed to the UART was copied to its cell
and neither sent nor flushed since.

A flush between the two steps moves `xmit_head` away from the copy that is
under way. The log stays sound in runs without such a flush, or where the copy
lies at cell 0, the place the flush moves `xmit_head` to.
-/

namespace MoxaDrivers.Mxser

open MoxaDrivers.Machine MoxaDrivers.CellLog

/-! ## The steps -/

/-- Where the one call of `mxser_write` stands (the tty core serialises the
calls): before its next turn with `buf` left, or with `c` bytes of `buf` copied
and not committed. -/
inductive Writer where
  | idle
  | looping (buf : List Byte)
  | copied (buf : List Byte) (c : Nat)
  deriving DecidableEq, Repr

/-- The bytes copied and not committed. -/
def Writer.pending : Writer → Nat
  | .idle => 0
  | .looping _ => 0
  | .copied _ c => c

structure Racing where
  port : Port
  writer : Writer
  log : List (Event Byte)

inductive RaceOp where
  | call (buf : List Byte)
  | copy
  | commit
  | flushBuffer (iir : Byte)
  | transmitChars
  deriving DecidableEq, Repr

/-- The ring bytes among what the UART was given, as events. -/
def takenBy (tx : List TxByte) : List (Event Byte) :=
  tx.filterMap fun
    | .data pos c => some (.taken pos c)
    | .flow _ => none

def raceCall (s : Racing) (buf : List Byte) : Racing :=
  match s.writer with
  | .idle => if s.port.ring.buf.isNone then s else { s with writer := .looping buf }
  | _ => s

/-- Step A, or the end of the loop and of the call. -/
def raceCopy (s : Racing) : Racing :=
  match s.writer with
  | .looping buf =>
      match writeCopy s.port buf with
      | none => { s with port := writeKick s.port, writer := .idle }
      | some (c, port) =>
          { port
            writer := .copied buf c
            log := s.log ++ storeBlock s.port.ring.head.toNat (buf.take c) }
  | _ => s

/-- Step B. -/
def raceCommit (s : Racing) : Racing :=
  match s.writer with
  | .copied buf c => { s with port := writeCommit s.port c, writer := .looping (buf.drop c) }
  | _ => s

/-- A flush drops what is committed. -/
def raceFlush (s : Racing) (iir : Byte) : Racing :=
  { s with
    port := mxserFlushBuffer s.port iir
    log := s.log ++ [.dropped s.port.ring.tail.toNat s.port.ring.cnt.toNat] }

def raceTransmit (s : Racing) : Racing :=
  { s with
    port := mxserTransmitChars s.port
    log := s.log ++ takenBy ((mxserTransmitChars s.port).uart.tx.drop s.port.uart.tx.length) }

/-- A step that the writer is not ready for changes nothing. -/
def raceStep (s : Racing) : RaceOp → Except Fault Racing
  | .call buf => .ok (raceCall s buf)
  | .copy => .ok (raceCopy s)
  | .commit => .ok (raceCommit s)
  | .flushBuffer iir => .ok (raceFlush s iir)
  | .transmitChars => .ok (raceTransmit s)

/-! ## The steps of an undisturbed call make up `mxser_write` -/

theorem race_loop_alone :
    ∀ (fuel : Nat) (p : Port) (buf : List Byte) (log : List (Event Byte)),
      buf.length < fuel → ∃ ops log',
        run raceStep ⟨p, .looping buf, log⟩ ops
          = .ok ⟨writeKick (writeLoop fuel p buf).2, .idle, log'⟩ := by
  intro fuel
  induction fuel with
  | zero => intro p buf log h; omega
  | succ fuel ih =>
      intro p buf log hfuel
      cases hc : writeCopy p buf with
      | none =>
          refine ⟨[.copy], log, ?_⟩
          rw [run_single_ok]
          simp [raceStep, raceCopy, hc, writeLoop]
      | some r =>
          obtain ⟨c, q⟩ := r
          obtain ⟨hpos, hle, -⟩ := writeCopy_some hc
          obtain ⟨ops, log', hrun⟩ := ih (writeCommit q c) (buf.drop c)
            (log ++ storeBlock p.ring.head.toNat (buf.take c))
            (by simp only [List.length_drop]; omega)
          -- one turn of the loop is a copy and a commit
          refine ⟨.copy :: .commit :: ops, log', ?_⟩
          have hcopy : raceStep ⟨p, .looping buf, log⟩ .copy
              = .ok ⟨q, .copied buf c, log ++ storeBlock p.ring.head.toNat (buf.take c)⟩ := by
            simp [raceStep, raceCopy, hc]
          rw [run_cons_of_ok hcopy, run_cons_of_ok rfl]
          simp only [writeLoop, hc]
          exact hrun

/-- **Left alone, a call is `mxser_write`.** -/
theorem race_write_alone (p : Port) (buf : List Byte) (log : List (Event Byte)) :
    ∃ ops log', run raceStep ⟨p, .idle, log⟩ ops = .ok ⟨(mxserWrite p buf).2, .idle, log'⟩ := by
  by_cases hn : p.ring.buf.isNone
  · refine ⟨[], log, ?_⟩
    simp [mxserWrite, hn]
  · obtain ⟨ops, log', hrun⟩ := race_loop_alone (buf.length + 1) p buf log (by omega)
    refine ⟨.call buf :: ops, log', ?_⟩
    have hcall : raceStep ⟨p, .idle, log⟩ (.call buf) = .ok ⟨p, .looping buf, log⟩ := by
      simp [raceStep, raceCall, hn]
    rw [run_cons_of_ok hcall, hrun]
    simp [mxserWrite, hn]

/-! ## The invariant -/

/-- The committed bytes and, right behind them, the `pend` copied ones are all
live. -/
structure RaceRing (log : List (Event Byte)) (r : XmitRing) (pend : Nat) : Prop where
  sound : Sound serialXmitSize log
  ring : RingOk r
  page : r.buf.isSome
  room : r.cnt + pend ≤ serialXmitSize - 1
  block : r.head + pend ≤ serialXmitSize
  live : ∀ page, r.buf = some page →
    LiveWindow serialXmitSize log page r.tail.toNat (r.cnt.toNat + pend)

def RaceInv (s : Racing) : Prop := RaceRing s.log s.port.ring s.writer.pending

def RaceOp.isFlush : RaceOp → Bool
  | .flushBuffer _ => true
  | _ => false

/-- A flush is taken while a copy is under way at a cell other than 0. -/
def FlushUnderCopy (s : Racing) (op : RaceOp) : Prop :=
  op.isFlush ∧ s.writer.pending ≠ 0 ∧ s.port.ring.head ≠ 0

instance (s : Racing) (op : RaceOp) : Decidable (FlushUnderCopy s op) :=
  inferInstanceAs (Decidable (_ ∧ _ ∧ _))

theorem RaceRing.congr {log : List (Event Byte)} {r r' : XmitRing} {pend : Nat}
    (h : RaceRing log r pend) (hr : r' = r) : RaceRing log r' pend := by
  rw [hr]
  exact h

/-! ## What one step preserves -/

theorem raceInv_call {s : Racing} (h : RaceInv s) (buf : List Byte) :
    RaceInv (raceCall s buf) := by
  simp only [raceCall]
  split
  · rename_i hidle
    split
    · exact h
    · simp only [RaceInv] at h ⊢
      rw [hidle] at h
      exact h
  · exact h

theorem writeCopy_port {p q : Port} {buf : List Byte} {c : Nat}
    (hc : writeCopy p buf = some (c, q)) :
    q = { p with ring := { p.ring with
      buf := p.ring.buf.map fun page => Ring.blit page p.ring.head.toNat (buf.take c) } } := by
  by_cases hchunk : writeChunk p.ring buf.length ≤ 0
  · simp [writeCopy, hchunk] at hc
  · simp only [writeCopy, hchunk, if_false, Option.some.injEq, Prod.mk.injEq] at hc
    rw [← hc.2, hc.1]

theorem raceInv_copy {s : Racing} (h : RaceInv s) : RaceInv (raceCopy s) := by
  simp only [raceCopy]
  split
  · rename_i buf hloop
    simp only [RaceInv] at h
    rw [hloop] at h
    split
    · exact h.congr (writeKick_ring s.port)
    · -- step A: the chunk lands in free cells
      rename_i c port hc
      obtain ⟨-, hle, hroom, hend, -⟩ := writeCopy_some hc
      rw [writeCopy_port hc]
      have hlen : (buf.take c).length = c := by simp [hle]
      refine ⟨h.sound.storeBlock _ _, ?_, ?_, hroom, hend, ?_⟩
      · exact ⟨h.ring.cnt_nonneg, h.ring.cnt_le, h.ring.tail_nonneg, h.ring.tail_lt,
          h.ring.head_eq⟩
      · simpa using h.page
      · intro page hpage
        obtain ⟨old, hold, rfl⟩ := Option.map_eq_some_iff.mp hpage
        have htail := h.ring.tail_nonneg
        have htail' := h.ring.tail_lt
        have hcnt := h.ring.cnt_nonneg
        have hhead := h.ring.head_toNat
        have hhead' := h.ring.head_nonneg
        have hlive : LiveWindow serialXmitSize s.log old s.port.ring.tail.toNat
            s.port.ring.cnt.toNat := h.live old hold
        show LiveWindow serialXmitSize
          (s.log ++ storeBlock s.port.ring.head.toNat (buf.take c))
          (Ring.blit old s.port.ring.head.toNat (buf.take c)) s.port.ring.tail.toNat
          (s.port.ring.cnt.toNat + c)
        have hfits : s.port.ring.cnt.toNat + (buf.take c).length ≤ serialXmitSize := by
          rw [hlen]
          omega
        have hblock : (s.port.ring.tail.toNat + s.port.ring.cnt.toNat) % serialXmitSize
            + (buf.take c).length ≤ serialXmitSize := by
          rw [hlen, ← hhead]
          omega
        have hwin := hlive.store (by omega) hfits hblock
        rwa [← hhead, hlen] at hwin
  · exact h

theorem raceInv_commit {s : Racing} (h : RaceInv s) : RaceInv (raceCommit s) := by
  simp only [raceCommit]
  split
  · rename_i buf c hcopied
    simp only [RaceInv] at h
    rw [hcopied] at h
    have hroom : s.port.ring.cnt + c ≤ serialXmitSize - 1 := h.room
    have hblock : s.port.ring.head + c ≤ serialXmitSize := h.block
    have hcnt := h.ring.cnt_nonneg
    have hhead := h.ring.head_nonneg
    refine ⟨h.sound, ?_, h.page, ?_, ?_, ?_⟩
    · refine ⟨?_, hroom, h.ring.tail_nonneg, h.ring.tail_lt, ?_⟩
      · show 0 ≤ s.port.ring.cnt + c
        omega
      · show (s.port.ring.head + c) % serialXmitSize
          = (s.port.ring.tail + (s.port.ring.cnt + c)) % serialXmitSize
        rw [h.ring.head_eq, Int.emod_add_emod, Int.add_assoc]
    · show s.port.ring.cnt + c + (0 : Nat) ≤ serialXmitSize - 1
      omega
    · show (s.port.ring.head + c) % serialXmitSize + (0 : Nat) ≤ serialXmitSize
      simp only [serialXmitSize] at *
      omega
    · -- what was pending is now in the window
      intro page hpage
      have hlive : LiveWindow serialXmitSize s.log page s.port.ring.tail.toNat
          (s.port.ring.cnt.toNat + c) := h.live page hpage
      show LiveWindow serialXmitSize s.log page s.port.ring.tail.toNat
        ((s.port.ring.cnt + c).toNat + 0)
      rwa [show (s.port.ring.cnt + c).toNat + 0 = s.port.ring.cnt.toNat + c by omega]
  · exact h

theorem raceInv_flush {s : Racing} (h : RaceInv s) (iir : Byte)
    (hop : ¬ FlushUnderCopy s (.flushBuffer iir)) : RaceInv (raceFlush s iir) := by
  -- a copy under way lies at cell 0
  have hzero : s.writer.pending = 0 ∨ s.port.ring.head = 0 := by
    by_cases hpend : s.writer.pending = 0
    · exact .inl hpend
    · right
      by_contra hne
      exact hop ⟨rfl, hpend, hne⟩
  have hcnt := h.ring.cnt_nonneg
  have htail := h.ring.tail_nonneg
  have htail' := h.ring.tail_lt
  have hhead := h.ring.head_toNat
  have hroom := h.room
  refine ⟨h.sound.snoc nofun, ringOk_empty rfl rfl rfl, h.page, ?_, ?_, ?_⟩
  · show (0 : Int) + s.writer.pending ≤ serialXmitSize - 1
    omega
  · show (0 : Int) + s.writer.pending ≤ serialXmitSize
    omega
  · intro page hpage
    show LiveWindow serialXmitSize
      (s.log ++ [.dropped s.port.ring.tail.toNat s.port.ring.cnt.toNat]) page 0
      (0 + s.writer.pending)
    rw [Nat.zero_add]
    rcases hzero with hnone | hcell
    · rw [hnone]
      exact liveWindow_zero _ _
    · have hdrop := (h.live page hpage).drop (by omega) (by omega)
      rw [← liveWindow_mod, ← hhead, hcell] at hdrop
      exact hdrop

/-! ## The transmit interrupt -/

theorem raceRing_sendByte {p : Port} {page : Page} {log : List (Event Byte)} {pend : Nat}
    (h : RaceRing log p.ring pend) (hbuf : p.ring.buf = some page) (hpos : 0 < p.ring.cnt) :
    RaceRing (log ++ [.taken p.ring.tail.toNat (page p.ring.tail.toNat)])
      (sendByte p page).ring pend := by
  have htail := h.ring.tail_nonneg
  have htail' := h.ring.tail_lt
  have hroom := h.room
  have hlive := h.live page hbuf
  rw [show p.ring.cnt.toNat + pend = (p.ring.cnt - 1).toNat + pend + 1 by omega] at hlive
  refine ⟨?_, (sendByte_spec h.ring hbuf hpos).1, by rw [sendByte, hbuf]; rfl, ?_, h.block, ?_⟩
  · -- the byte at the tail is live
    apply h.sound.snoc
    rintro pos v ⟨⟩
    have htaken := hlive 0 (by omega)
    rwa [Nat.add_zero, Nat.mod_eq_of_lt (by omega)] at htaken
  · show p.ring.cnt - 1 + pend ≤ serialXmitSize - 1
    omega
  · intro page' hpage'
    cases hbuf.symm.trans hpage'
    -- the rest of the window stays live
    have hrest := hlive.take (by omega) (by omega)
    show LiveWindow serialXmitSize _ page ((p.ring.tail + 1) % serialXmitSize).toNat
      ((p.ring.cnt - 1).toNat + pend)
    rwa [show ((p.ring.tail + 1) % serialXmitSize).toNat
      = (p.ring.tail.toNat + 1) % serialXmitSize by simp only [serialXmitSize]; omega]

theorem raceRing_sendLoop (page : Page) {pend : Nat} :
    ∀ (n : Nat) (p : Port) (log : List (Event Byte)),
      RaceRing log p.ring pend → p.ring.buf = some page → 0 < p.ring.cnt →
      ∃ out, (sendLoop page n p).uart.tx = p.uart.tx ++ out ∧
        RaceRing (log ++ takenBy out) (sendLoop page n p).ring pend := by
  intro n
  induction n with
  | zero =>
      intro p log h hbuf hpos
      exact ⟨[], by simp [sendLoop], by simpa [sendLoop, takenBy] using h⟩
  | succ n ih =>
      intro p log h hbuf hpos
      have hbyte := raceRing_sendByte h hbuf hpos
      simp only [sendLoop]
      split
      · exact ⟨[.data p.ring.tail.toNat (page p.ring.tail.toNat)], rfl, hbyte⟩
      · rename_i hmore
        obtain ⟨out, htx, hrest⟩ := ih _ _ hbyte hbuf (by omega)
        refine ⟨.data p.ring.tail.toNat (page p.ring.tail.toNat) :: out, ?_, ?_⟩
        · rw [htx]
          simp [sendByte]
        · simpa [takenBy] using hrest

theorem raceRing_transmitChars {p : Port} {log : List (Event Byte)} {pend : Nat}
    (h : RaceRing log p.ring pend) :
    ∃ out, (mxserTransmitChars p).uart.tx = p.uart.tx ++ out ∧
      RaceRing (log ++ takenBy out) (mxserTransmitChars p).ring pend := by
  have hsame : RaceRing (log ++ takenBy []) p.ring pend := by simpa [takenBy] using h
  simp only [mxserTransmitChars]
  split
  · exact ⟨[.flow p.xChar], rfl, hsame⟩
  · split
    · exact ⟨[], by simp, hsame⟩
    · rename_i page hbuf
      split
      · exact ⟨[], by simp [wakeLow_uart], hsame.congr (wakeLow_ring p)⟩
      · split
        · exact ⟨[], by simp [Port.thriOff, Port.setIer], hsame⟩
        · have := h.ring.cnt_nonneg
          obtain ⟨out, htx, hloop⟩ :=
            raceRing_sendLoop page (max 1 p.fifo.xmitFifoSize).toNat p log h hbuf (by omega)
          refine ⟨out, ?_, ?_⟩
          · rw [wakeLow_uart]
            exact htx
          · exact hloop.congr (wakeLow_ring _)

theorem raceInv_transmit {s : Racing} (h : RaceInv s) : RaceInv (raceTransmit s) := by
  obtain ⟨out, htx, hring⟩ := raceRing_transmitChars h
  show RaceRing
    (s.log ++ takenBy ((mxserTransmitChars s.port).uart.tx.drop s.port.uart.tx.length))
    (mxserTransmitChars s.port).ring s.writer.pending
  rw [htx, List.drop_left]
  exact hring

theorem raceInv_step {s t : Racing} {op : RaceOp} (h : RaceInv s)
    (hop : ¬ FlushUnderCopy s op) (hstep : raceStep s op = .ok t) : RaceInv t := by
  cases op with
  | call buf => cases hstep; exact raceInv_call h buf
  | copy => cases hstep; exact raceInv_copy h
  | commit => cases hstep; exact raceInv_commit h
  | flushBuffer iir => cases hstep; exact raceInv_flush h iir hop
  | transmitChars => cases hstep; exact raceInv_transmit h

/-! ## Whole runs -/

theorem Started.raceInv {p : Port} (hp : Started p) : RaceInv ⟨p, .idle, []⟩ := by
  obtain ⟨hbuf, hhead, htail, hcnt⟩ := hp.ring
  refine ⟨sound_nil, ringOk_empty hcnt hhead htail, hbuf, ?_, ?_, ?_⟩
  · show p.ring.cnt + (0 : Nat) ≤ serialXmitSize - 1
    simp only [hcnt, serialXmitSize]
    omega
  · show p.ring.head + (0 : Nat) ≤ serialXmitSize
    simp only [hhead, serialXmitSize]
    omega
  · intro page _
    show LiveWindow serialXmitSize [] page p.ring.tail.toNat (p.ring.cnt.toNat + 0)
    rw [hcnt]
    exact liveWindow_zero _ _

/-- **No stale byte is sent in runs without a flush under a copy.** As long as
no flush comes between the copy and the commit of a chunk that lies at a cell
other than 0, every ring byte the UART is given was copied to that cell by
`mxser_write` and neither sent nor flushed since. -/
theorem sent_bytes_live {p : Port} (hp : Started p) {ops : List RaceOp}
    (hops : Guarded raceStep (fun s op => ¬ FlushUnderCopy s op) ⟨p, .idle, []⟩ ops) :
    Always raceStep (fun s => Sound serialXmitSize s.log) ⟨p, .idle, []⟩ ops := by
  have hinv : Always raceStep RaceInv ⟨p, .idle, []⟩ ops :=
    always_of_guarded (fun s op t h hop ht => raceInv_step h hop ht) hp.raceInv hops
  exact hinv.mono fun t ht => ht.sound

/-- A call cut in two by a transmit interrupt, and a flush under a copy at cell
0. -/
theorem sent_bytes_live_run :
    Always raceStep (fun s => Sound serialXmitSize s.log)
      ⟨c104Started port16450 zeroTermios, .idle, []⟩
      [.call [0x41], .copy, .flushBuffer 0xC1, .commit, .transmitChars, .copy] :=
  sent_bytes_live (c104Started_started (by decide) zeroTermios) (by decide)

/-- A flush after `B` is copied to cell 1: the commit then counts cell 0, whose
`A` has been sent, and it is sent again. -/
theorem flush_under_copy_sends_stale :
    ∃ t, Started (c104Started port16450 zeroTermios) ∧
      run raceStep ⟨c104Started port16450 zeroTermios, .idle, []⟩
        [.call [0x41], .copy, .commit, .copy, .transmitChars,
          .call [0x42], .copy, .flushBuffer 0xC1, .commit, .transmitChars] = .ok t ∧
      ¬ Sound serialXmitSize t.log := by
  refine ⟨_, c104Started_started (by decide) zeroTermios, rfl, fun h => ?_⟩
  have hlive := h [.stored 0 0x41, .taken 0 0x41, .stored 1 0x42, .dropped 1 0] 0 0x41
    (by decide)
  exact absurd hlive (by decide)

end MoxaDrivers.Mxser

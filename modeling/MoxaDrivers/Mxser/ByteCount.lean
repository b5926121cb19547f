import MoxaDrivers.Lib.Machine
import MoxaDrivers.Mxser.Receive
import MoxaDrivers.Mxser.Board

/-!
# The byte counts

Three requests report how many bytes a port received and sent: `TIOCGICOUNT`
from `info->icount`, `MOXA_GETDATACOUNT` from `mxvar_log`, and `MOXA_ASPP_MON`
from `info->mon_data`. The transmitter counts in all three. The receiver counts
in the last two: `icount.rx` is reported and never counted.
-/

namespace MoxaDrivers.Mxser

open MoxaDrivers.Bits MoxaDrivers.Machine

/-! ## The reports -/

/-- `struct serial_icounter_struct`; nothing counts its `buf_overrun`. -/
structure SerialIcounter where
  cts : Word
  dsr : Word
  rng : Word
  dcd : Word
  rx : Word
  tx : Word
  frame : Word
  overrun : Word
  parity : Word
  brk : Word
  deriving DecidableEq, Repr

def tiocgicount (l : Line) : SerialIcounter where
  cts := l.port.icount.cts
  dsr := l.port.icount.dsr
  rng := l.port.icount.rng
  dcd := l.port.icount.dcd
  rx := l.rx.icount.rx
  tx := l.port.icount.tx
  frame := l.rx.icount.frame
  overrun := l.rx.icount.overrun
  parity := l.rx.icount.parity
  brk := l.rx.icount.brk

/-- The port's entries of the `mxvar_log` that `MOXA_GETDATACOUNT` copies. -/
structure DataCount where
  rxcnt : BitVec 64
  txcnt : BitVec 64
  deriving DecidableEq, Repr

def getdatacount (l : Line) : DataCount := ⟨l.rx.logRxcnt, l.port.logTxcnt⟩

/-- `MOXA_SDS_RSTICOUNTER` resets the two counts that are not `up_`. -/
def sdsRsticounter (p : Port) : Port := { p with mon := { p.mon with rxcnt := 0, txcnt := 0 } }

/-- All three reports of a count are `n`, up to 2^32. -/
structure Reported (n : Nat) (icount : Word) (log up : BitVec 64) : Prop where
  icount : icount = BitVec.ofNat 32 n
  log : log.setWidth 32 = BitVec.ofNat 32 n
  up : up.setWidth 32 = BitVec.ofNat 32 n

instance (n : Nat) (icount : Word) (log up : BitVec 64) : Decidable (Reported n icount log up) :=
  decidable_of_iff (icount = BitVec.ofNat 32 n ∧ log.setWidth 32 = BitVec.ofNat 32 n ∧
      up.setWidth 32 = BitVec.ofNat 32 n)
    ⟨fun h => ⟨h.1, h.2.1, h.2.2⟩, fun h => ⟨h.icount, h.log, h.up⟩⟩

/-- The bytes written to `UART_TX` are reported by all three. -/
def SentReported (l : Line) : Prop :=
  Reported l.port.uart.tx.length (tiocgicount l).tx (getdatacount l).txcnt l.port.mon.upTxcnt

/-- The bytes passed to the tty are reported by all three. -/
def ReceivedReported (l : Line) : Prop :=
  Reported l.rx.flip.length (tiocgicount l).rx (getdatacount l).rxcnt l.port.mon.upRxcnt

/-- Every report of a count is the number of bytes. -/
structure CountsReported (l : Line) : Prop where
  received : ReceivedReported l
  sent : SentReported l

instance (l : Line) : Decidable (SentReported l) :=
  inferInstanceAs (Decidable (Reported _ _ _ _))

instance (l : Line) : Decidable (ReceivedReported l) :=
  inferInstanceAs (Decidable (Reported _ _ _ _))

instance (l : Line) : Decidable (CountsReported l) :=
  decidable_of_iff (ReceivedReported l ∧ SentReported l)
    ⟨fun h => ⟨h.1, h.2⟩, fun h => ⟨h.received, h.sent⟩⟩

/-! ## The operations -/

inductive CountOp where
  | receive (a : ReceiveReads)
  | transmit
  | write (buf : List Byte)
  | putChar (ch : Byte)
  | flushBuffer (iir : Byte)
  | rsticounter
  | asppMon (mcr : Byte)

def countStep (l : Line) : CountOp → Except Fault Line
  | .receive a => .ok (mxserReceiveChars l a).2
  | .transmit => .ok { l with port := mxserTransmitChars l.port }
  | .write buf => .ok { l with port := (mxserWrite l.port buf).2 }
  | .putChar ch => .ok { l with port := (mxserPutChar l.port ch).2 }
  | .flushBuffer iir => .ok { l with port := mxserFlushBuffer l.port iir }
  | .rsticounter => .ok { l with port := sdsRsticounter l.port }
  | .asppMon mcr => .ok { l with port := (asppMon l.port mcr).2 }

/-- A call of `mxser_receive_chars` has no byte for the tty. -/
def KeepsCounts (l : Line) : CountOp → Prop
  | .receive a => ¬ Delivers l.port a
  | _ => True

/-! ## Counting -/

/-- The counters of a port, with the bytes sent, move by `n` bytes sent. -/
structure Sends (p q : Port) (n : Nat) : Prop where
  tx : q.uart.tx.length = p.uart.tx.length + n
  icount : q.icount.tx = p.icount.tx + BitVec.ofNat 32 n
  log : q.logTxcnt = p.logTxcnt + BitVec.ofNat 64 n
  upTx : q.mon.upTxcnt = p.mon.upTxcnt + BitVec.ofNat 64 n
  upRx : q.mon.upRxcnt = p.mon.upRxcnt

theorem Sends.refl (p : Port) : Sends p p 0 := by
  refine ⟨rfl, ?_, ?_, ?_, rfl⟩
  · exact (BitVec.add_zero _).symm
  · exact (BitVec.add_zero _).symm
  · exact (BitVec.add_zero _).symm

theorem Reported.add {m : Nat} {icount : Word} {log up : BitVec 64} (h : Reported m icount log up)
    (n : Nat) :
    Reported (m + n) (icount + BitVec.ofNat 32 n) (log + BitVec.ofNat 64 n)
      (up + BitVec.ofNat 64 n) := by
  have hcut : ∀ x : BitVec 64, x.setWidth 32 = BitVec.ofNat 32 m →
      (x + BitVec.ofNat 64 n).setWidth 32 = BitVec.ofNat 32 (m + n) := by
    intro x hx
    rw [BitVec.setWidth_add _ _ (by decide), hx, BitVec.setWidth_ofNat_of_le (by decide),
      BitVec.ofNat_add]
  refine ⟨?_, hcut log h.log, hcut up h.up⟩
  rw [h.icount, BitVec.ofNat_add]

/-- What a call that sends nothing may touch. -/
theorem Sends.none {p q : Port} (htx : q.uart.tx = p.uart.tx) (hicount : q.icount.tx = p.icount.tx)
    (hlog : q.logTxcnt = p.logTxcnt) (hmon : q.mon.upTxcnt = p.mon.upTxcnt)
    (hrx : q.mon.upRxcnt = p.mon.upRxcnt) : Sends p q 0 := by
  have hp := Sends.refl p
  exact ⟨(congrArg List.length htx).trans hp.tx, hicount.trans hp.icount, hlog.trans hp.log,
    hmon.trans hp.upTx, hrx⟩

theorem Sends.counts {l : Line} {q : Port} {n : Nat} (h : Sends l.port q n)
    (hl : CountsReported l) : CountsReported { l with port := q } := by
  have hsent := hl.sent.add n
  constructor
  · show Reported _ _ _ q.mon.upRxcnt
    rw [h.upRx]
    exact hl.received
  · show Reported q.uart.tx.length q.icount.tx q.logTxcnt q.mon.upTxcnt
    rw [h.tx, h.icount, h.log, h.upTx]
    exact hsent

/-- The send loop takes from the ring what it writes to `UART_TX`. -/
theorem sendLoop_balance (page : Page) (n : Nat) (p : Port) :
    (sendLoop page n p).uart.tx.length + (sendLoop page n p).ring.cnt
      = p.uart.tx.length + p.ring.cnt := by
  induction n generalizing p with
  | zero => rfl
  | succ n ih =>
      have hone : ((sendByte p page).uart.tx.length : Int) + (sendByte p page).ring.cnt
          = p.uart.tx.length + p.ring.cnt := by
        simp only [sendByte, List.length_append, List.length_singleton]
        omega
      simp only [sendLoop]
      split
      · exact hone
      · rw [ih, hone]

theorem sends_sendXChar (p : Port) : Sends p (sendXChar p) 1 :=
  ⟨by simp [sendXChar, countSent], rfl, rfl, rfl, rfl⟩

/-- What the loop wrote is what is counted after it. -/
theorem sends_sendLoop (page : Page) (n : Nat) (p : Port) :
    ∃ k, Sends p (countSent (sendLoop page n p) (p.ring.cnt - (sendLoop page n p).ring.cnt)) k := by
  have hbalance := sendLoop_balance page n p
  obtain ⟨head, tail, cnt, out, hle, -, heq⟩ := sendLoop_frame page n p
  rw [heq] at hbalance ⊢
  have hout : p.ring.cnt - cnt = (out.length : Int) := by
    simp only [List.length_append] at hbalance
    omega
  refine ⟨out.length, ?_, ?_, ?_, ?_, rfl⟩
  · simp [countSent]
  · simp only [countSent, hout, BitVec.ofInt_natCast]
  · simp only [countSent, hout, BitVec.ofInt_natCast]
  · simp only [countSent, hout, BitVec.ofInt_natCast]

theorem wakeLow_sends {p q : Port} {n : Nat} (h : Sends p q n) : Sends p (wakeLow q) n := by
  simp only [wakeLow]
  split
  · exact ⟨h.tx, h.icount, h.log, h.upTx, h.upRx⟩
  · exact h

/-- **Every branch of the transmit interrupt** counts what it writes. -/
theorem sends_transmitChars (p : Port) : ∃ n, Sends p (mxserTransmitChars p) n := by
  simp only [mxserTransmitChars]
  split
  · exact ⟨1, sends_sendXChar p⟩
  · split
    · exact ⟨0, Sends.refl p⟩
    · split
      · exact ⟨0, wakeLow_sends (Sends.refl p)⟩
      · split
        · have hsame := Sends.refl p
          exact ⟨0, hsame.tx, hsame.icount, hsame.log, hsame.upTx, hsame.upRx⟩
        · rename_i page _ _ _
          obtain ⟨n, hn⟩ := sends_sendLoop page (max 1 p.fifo.xmitFifoSize).toNat p
          exact ⟨n, wakeLow_sends hn⟩

theorem sends_write (p : Port) (buf : List Byte) : Sends p (mxserWrite p buf).2 0 := by
  obtain ⟨ring, ier, uier, heq⟩ := mxserWrite_frame p buf
  rw [heq]
  exact Sends.none rfl rfl rfl rfl rfl

theorem sends_putChar (p : Port) (ch : Byte) : Sends p (mxserPutChar p ch).2 0 := by
  obtain ⟨ring, ier, uier, heq⟩ := mxserPutChar_frame p ch
  rw [heq]
  exact Sends.none rfl rfl rfl rfl rfl

theorem sends_checkModemStatus (p : Port) (status : Byte) :
    Sends p (mxserCheckModemStatus p status) 0 := by
  obtain ⟨ev, ier, uier, heq⟩ := mxserCheckModemStatus_eq p status
  rw [heq]
  exact Sends.none rfl rfl rfl rfl rfl

/-- `MOXA_ASPP_MON` leaves the counts as they are, and returns them. -/
theorem sends_asppMon (p : Port) (mcr : Byte) :
    Sends p (asppMon p mcr).2 0 ∧
      ∀ m, (asppMon p mcr).1 = .ok m →
        m.upRxcnt = p.mon.upRxcnt ∧ m.upTxcnt = p.mon.upTxcnt := by
  have hchecked := sends_checkModemStatus (mxserGetMsr p 1).2 (mxserGetMsr p 1).1
  unfold asppMon
  split
  · exact ⟨Sends.refl p, nofun⟩
  · refine ⟨⟨hchecked.tx, hchecked.icount, hchecked.log, hchecked.upTx, hchecked.upRx⟩, ?_⟩
    intro m hm
    cases hm
    exact ⟨hchecked.upRx, hchecked.upTx.trans (BitVec.add_zero _)⟩

/-- Receiving keeps the reports right exactly when nothing goes to the tty. -/
theorem Received.counts_iff {l l' : Line} {n : Nat} (h : Received l l' n) (hn : n < 2 ^ 32)
    (hl : CountsReported l) : CountsReported l' ↔ n = 0 := by
  have hrx := hl.received
  have hsent : SentReported l' := by
    show Reported l'.port.uart.tx.length l'.port.icount.tx l'.port.logTxcnt l'.port.mon.upTxcnt
    rw [h.tx, h.icount, h.logTx, h.upTx]
    exact hl.sent
  constructor
  · intro hl'
    have hbefore : l.rx.icount.rx = BitVec.ofNat 32 l.rx.flip.length := hrx.icount
    have hafter : l'.rx.icount.rx = BitVec.ofNat 32 l'.rx.flip.length := hl'.received.icount
    rw [h.icountRx, hbefore, h.flip] at hafter
    have hmod := congrArg BitVec.toNat hafter
    simp only [BitVec.toNat_ofNat] at hmod
    omega
  · rintro rfl
    refine ⟨?_, hsent⟩
    show Reported l'.rx.flip.length l'.rx.icount.rx l'.rx.logRxcnt l'.port.mon.upRxcnt
    rw [h.flip, h.icountRx, h.log, h.up]
    simpa [ReceivedReported, tiocgicount, getdatacount] using hrx

/-! ## Whole runs -/

/-- **One step** keeps all reports right exactly if it passes nothing to the
tty. -/
theorem countStep_counts_iff {l l' : Line} {op : CountOp} (hl : CountsReported l)
    (h : countStep l op = .ok l') : CountsReported l' ↔ KeepsCounts l op := by
  cases op with
  | receive a =>
      cases h
      have hreceived := mxserReceiveChars_received l a
      rw [hreceived.counts_iff (receiveBytes_lt l a) hl]
      exact receiveBytes_nothing_iff l a
  | transmit =>
      cases h
      obtain ⟨n, hn⟩ := sends_transmitChars l.port
      exact ⟨fun _ => trivial, fun _ => hn.counts hl⟩
  | write buf =>
      cases h
      exact ⟨fun _ => trivial, fun _ => (sends_write l.port buf).counts hl⟩
  | putChar ch =>
      cases h
      exact ⟨fun _ => trivial, fun _ => (sends_putChar l.port ch).counts hl⟩
  | flushBuffer iir =>
      cases h
      have hflush : Sends l.port (mxserFlushBuffer l.port iir) 0 := Sends.none rfl rfl rfl rfl rfl
      exact ⟨fun _ => trivial, fun _ => hflush.counts hl⟩
  | rsticounter =>
      cases h
      have hreset : Sends l.port (sdsRsticounter l.port) 0 := Sends.none rfl rfl rfl rfl rfl
      exact ⟨fun _ => trivial, fun _ => hreset.counts hl⟩
  | asppMon mcr =>
      cases h
      exact ⟨fun _ => trivial, fun _ => (sends_asppMon l.port mcr).1.counts hl⟩

theorem countStep_completes (l : Line) (op : CountOp) : ∃ l', countStep l op = .ok l' := by
  cases op with
  | _ => exact ⟨_, rfl⟩

/-- **When the byte counts agree.** `TIOCGICOUNT`, `MOXA_GETDATACOUNT` and the
`up_` counts of `MOXA_ASPP_MON` report the number of bytes passed to the tty and
of bytes written to `UART_TX` after every step of a run if and only if no call
of `mxser_receive_chars` passes a byte to the tty. -/
theorem byte_counts_agree_iff {l : Line} (h : CountsReported l) (ops : List CountOp) :
    Always countStep CountsReported l ops ↔ Guarded countStep KeepsCounts l ops := by
  apply always_iff_guarded (J := CountsReported)
  · exact fun _ hl => hl
  · exact fun l op l' hl hkeep hstep => (countStep_counts_iff hl hstep).mpr hkeep
  · intro l op hl hno
    obtain ⟨l', hstep⟩ := countStep_completes l op
    exact ⟨l', hstep, fun hl' => hno ((countStep_counts_iff hl hstep).mp hl')⟩
  · exact h

/-- On a plain port: two bytes are written and sent, and one is received. -/
theorem byte_counts_agree_iff_c104 :
    Always countStep CountsReported (Line.start (c104Started port16450 (c104Termios 0)))
        [.write [0x41, 0x42], .transmit, .transmit,
          .receive ⟨0x61, 0, fun _ => 0x43, fun _ => 0x60, 4096⟩] ↔
      Guarded countStep KeepsCounts (Line.start (c104Started port16450 (c104Termios 0)))
        [.write [0x41, 0x42], .transmit, .transmit,
          .receive ⟨0x61, 0, fun _ => 0x43, fun _ => 0x60, 4096⟩] :=
  byte_counts_agree_iff (by decide) _

/-- A received byte is in `mxvar_log` and `mon_data`, and `TIOCGICOUNT` says
that none was received. -/
theorem received_byte_missing_from_icount :
    ∃ l, run countStep (Line.start (c104Started port16450 (c104Termios 0)))
        [.receive ⟨0x61, 0, fun _ => 0x43, fun _ => 0x60, 4096⟩] = .ok l ∧
      l.rx.flip = [(0x43, .normal)] ∧ (getdatacount l).rxcnt = 1 ∧ l.port.mon.upRxcnt = 1 ∧
      (tiocgicount l).rx = 0 :=
  ⟨_, rfl, by decide⟩

end MoxaDrivers.Mxser

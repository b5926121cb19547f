import Mathlib.Data.List.Induction
import MoxaDrivers.Lib.Machine
import MoxaDrivers.Lib.Intake
import MoxaDrivers.Mxser.Board
import MoxaDrivers.Mxser.Receive

/-!
# The receiver as a stream

The calls of `mxser_receive_chars` over the whole life of a line: what arrives is read
once and in order, and each byte goes to the tty with the flag of the status that was read
for it, or is dropped if that status is to be ignored. What the chip reads of the lines is
any `ReceiveReads` that is truthful about the bytes it holds.
-/

namespace MoxaDrivers.Mxser

open MoxaDrivers.Bits MoxaDrivers.Machine MoxaDrivers.Intake

/-! ## Readings -/

/-- `read_status_mask` and `ignore_status_mask`. -/
structure StatusMasks where
  read : Byte
  ignore : Byte
  deriving DecidableEq, Repr

def Port.statusMasks (p : Port) : StatusMasks := ⟨p.readStatusMask, p.ignoreStatusMask⟩

/-- A byte that was read, with the status for it, and the masks then. Good data is read
without one. -/
structure Reading where
  byte : Byte
  status : Option Byte
  masks : StatusMasks
  deriving DecidableEq, Repr

def StatusMasks.ignores (m : StatusMasks) (status : Byte) : Bool :=
  test (status &&& m.read) m.ignore

/-- What goes to the tty. -/
def Reading.handed (r : Reading) : List (Byte × TtyFlag) :=
  match r.status with
  | none => [(r.byte, .normal)]
  | some status =>
      if r.masks.ignores status then [] else [(r.byte, byteFlag (status &&& r.masks.read))]

/-- The error loop ends: too many bytes were ignored, a MUST chip is read one byte at a
time, or there are no more. -/
def loopEnds (m : StatusMasks) (must : Bool) (ignored : Nat) (status lsr : Byte) : Bool :=
  (m.ignores status && decide (ignored > 100)) || must || !test lsr uartLsrDr

/-- What the error loop reads from `UART_RX`. -/
def loopReads (a : ReceiveReads) (m : StatusMasks) (must : Bool) :
    Nat → (k ignored : Nat) → (status : Byte) → List Reading
  | 0, _, _, _ => []
  | max + 1, k, ignored, status =>
      let ignored := if m.ignores status then ignored + 1 else ignored
      ⟨a.rx k, some status, m⟩ ::
        if loopEnds m must ignored status (a.lsr k) then []
        else loopReads a m must max (k + 1) ignored (a.lsr k)

/-- What a call reads from `UART_RX`. -/
def callReads (p : Port) (a : ReceiveReads) : List Reading :=
  if goodData p a.status then
    (List.range (goodLength p a.gdl)).map fun k => ⟨a.rx k, none, p.statusMasks⟩
  else loopReads a p.statusMasks (p.isMoxaMustChipFlag != 0) 257 0 0 a.status

/-- The error counters after one more byte with the flag. -/
def countFlag (c : ReceiveIcount) : TtyFlag → ReceiveIcount
  | .normal => c
  | .brk => { c with brk := c.brk + 1 }
  | .parity => { c with parity := c.parity + 1 }
  | .frame => { c with frame := c.frame + 1 }
  | .overrun => { c with overrun := c.overrun + 1 }

def countFlags (c : ReceiveIcount) (bytes : List (Byte × TtyFlag)) : ReceiveIcount :=
  bytes.foldl (fun c b => countFlag c b.2) c

theorem countFlags_append (c : ReceiveIcount) (xs ys : List (Byte × TtyFlag)) :
    countFlags c (xs ++ ys) = countFlags (countFlags c xs) ys := List.foldl_append

/-! ## One call -/

/-- An error status has one of the four errors. -/
theorem special_eq (status : Byte) : test status uartLsrSpecial =
    (test status uartLsrBi || test status uartLsrPe || test status uartLsrFe ||
      test status uartLsrOe) := by
  rw [show uartLsrSpecial = uartLsrBi ||| uartLsrPe ||| uartLsrFe ||| uartLsrOe from by decide,
    test_mask_or, test_mask_or, test_mask_or]

/-- The counters count what the tty is told. -/
theorem countError_eq (c : ReceiveIcount) (status : Byte) :
    countError c status = countFlag c (byteFlag status) := by
  unfold countError byteFlag
  rw [special_eq]
  cases test status uartLsrBi <;> cases test status uartLsrPe <;>
    cases test status uartLsrFe <;> cases test status uartLsrOe <;> rfl

/-- What the readings `rs` make of a line. -/
structure HandsOn (l l' : Line) (cnt : Nat) (rs : List Reading) : Prop where
  flip : l'.rx.flip = l.rx.flip ++ rs.flatMap Reading.handed
  count : cnt = (rs.flatMap Reading.handed).length
  icount : l'.rx.icount = countFlags l.rx.icount (rs.flatMap Reading.handed)

theorem HandsOn.trans {l l' l'' : Line} {m n : Nat} {rs rs' : List Reading}
    (h : HandsOn l l' m rs) (h' : HandsOn l' l'' n rs') : HandsOn l l'' (m + n) (rs ++ rs') where
  flip := by rw [h'.flip, h.flip, List.flatMap_append, List.append_assoc]
  count := by rw [h.count, h'.count, List.flatMap_append, List.length_append]
  icount := by rw [h'.icount, h.icount, List.flatMap_append, countFlags_append]

theorem handed_turn (p : Port) (ch status : Byte) :
    [(⟨ch, some status, p.statusMasks⟩ : Reading)].flatMap Reading.handed =
      if p.ignores status then [] else [(ch, byteFlag (status &&& p.readStatusMask))] :=
  List.append_nil _

/-- One turn of the error loop. -/
theorem handsOn_receiveTurn (l : Line) (ch status : Byte) :
    HandsOn l (receiveTurn l ch status) (if l.port.ignores status then 0 else 1)
      [⟨ch, some status, l.port.statusMasks⟩] := by
  obtain ⟨fcr, hport⟩ := (takes_resetOverrun l status).port
  have hrx : (resetOverrun l status).rx = l.rx := by
    unfold resetOverrun
    split <;> rfl
  have hsame : (resetOverrun l status).port.ignores status = l.port.ignores status := by
    rw [hport]
    rfl
  have hmask : (resetOverrun l status).port.readStatusMask = l.port.readStatusMask := by
    rw [hport]
  cases hi : l.port.ignores status with
  | true =>
      have hturn : receiveTurn l ch status = resetOverrun l status := by
        unfold receiveTurn
        simp only [hsame, hi, if_true]
      rw [hturn]
      constructor
      · rw [handed_turn, hi, hrx, if_pos rfl, List.append_nil]
      · rw [handed_turn, hi]
        rfl
      · rw [handed_turn, hi, hrx]
        rfl
  | false =>
      have hturn : receiveTurn l ch status =
          takeByte (resetOverrun l status) ch (status &&& l.port.readStatusMask) := by
        unfold receiveTurn
        simp only [hsame, hi, Bool.false_eq_true, if_false, hmask]
      rw [hturn]
      constructor
      · rw [handed_turn, hi, takeByte, hrx]
        rfl
      · rw [handed_turn, hi]
        rfl
      · rw [handed_turn, hi, takeByte, hrx]
        exact countError_eq _ _

theorem handsOn_receiveLoop (a : ReceiveReads) (max k ignored : Nat) (status : Byte) (l : Line) :
    HandsOn l (receiveLoop a max k ignored status l).2.2
      (receiveLoop a max k ignored status l).1
      (loopReads a l.port.statusMasks (l.port.isMoxaMustChipFlag != 0) max k ignored status) := by
  induction max generalizing k ignored status l with
  | zero => exact ⟨by simp [receiveLoop, loopReads], rfl, rfl⟩
  | succ max ih =>
      have hturn := handsOn_receiveTurn l (a.rx k) status
      obtain ⟨fcr, hport⟩ := (takes_receiveTurn l (a.rx k) status).port
      have hmust : (receiveTurn l (a.rx k) status).port.isMoxaMustChipFlag =
          l.port.isMoxaMustChipFlag := by rw [hport]
      have hmasks : (receiveTurn l (a.rx k) status).port.statusMasks = l.port.statusMasks := by
        rw [hport]
        rfl
      rw [loopReads, receiveLoop]
      have hig : l.port.statusMasks.ignores status = l.port.ignores status := rfl
      simp only [hig, hmust]
      set ignored' := if l.port.ignores status then ignored + 1 else ignored
      by_cases hmany : l.port.ignores status = true ∧ ignored' > 100
      · have hend : loopEnds l.port.statusMasks (l.port.isMoxaMustChipFlag != 0) ignored' status
            (a.lsr k) = true := by
          simp [loopEnds, hig, hmany.1, hmany.2]
        simp only [hmany, hend, and_self, if_true]
        simp only [hmany.1, if_true] at hturn
        exact hturn
      · by_cases hm : l.port.isMoxaMustChipFlag ≠ 0
        · have hend : loopEnds l.port.statusMasks (l.port.isMoxaMustChipFlag != 0) ignored' status
              (a.lsr k) = true := by
            simp [loopEnds, hm]
          simp only [hmany, hm, hend, if_true, if_false, ne_eq, not_false_eq_true]
          exact hturn
        · by_cases hdr : test (a.lsr k) uartLsrDr = true
          · have hend : loopEnds l.port.statusMasks (l.port.isMoxaMustChipFlag != 0) ignored'
                status (a.lsr k) = false := by
              rw [not_not] at hm
              simpa [loopEnds, hig, hm, hdr] using hmany
            have hrest := ih (k + 1) ignored' (a.lsr k) (receiveTurn l (a.rx k) status)
            rw [hmasks, hmust] at hrest
            simp only [hmany, hm, hdr, hend, if_true, if_false, Bool.false_eq_true]
            exact hturn.trans hrest
          · have hend : loopEnds l.port.statusMasks (l.port.isMoxaMustChipFlag != 0) ignored'
                status (a.lsr k) = true := by
              simp [loopEnds, hdr]
            simp only [hmany, hm, hdr, hend, if_true, if_false, Bool.false_eq_true]
            exact hturn

theorem countFlags_normal (c : ReceiveIcount) (bytes : List Byte) :
    countFlags c (bytes.map fun b => (b, TtyFlag.normal)) = c := by
  induction bytes with
  | nil => rfl
  | cons b bytes ih => exact ih

theorem handsOn_receiveGood (l : Line) (rx : Nat → Byte) (n : Nat) (m : StatusMasks) :
    HandsOn l (receiveGood rx l n) n ((List.range n).map fun k => ⟨rx k, none, m⟩) := by
  have hhanded : ((List.range n).map fun k => (⟨rx k, none, m⟩ : Reading)).flatMap
      Reading.handed = (List.range n).map fun k => (rx k, TtyFlag.normal) := by
    rw [List.flatMap_map, List.map_eq_flatMap]
    rfl
  constructor
  · rw [hhanded]
    rfl
  · rw [hhanded, List.length_map, List.length_range]
  · have hnormal := countFlags_normal l.rx.icount ((List.range n).map rx)
    rw [List.map_map] at hnormal
    rw [hhanded]
    exact hnormal.symm

theorem handsOn_receiveBytes (l : Line) (a : ReceiveReads) :
    HandsOn l (receiveBytes l a).2.2 (receiveBytes l a).1 (callReads l.port a) := by
  unfold receiveBytes callReads
  split
  · exact handsOn_receiveGood l a.rx _ _
  · exact handsOn_receiveLoop a 257 0 0 a.status l

/-- What a call leaves: the log counts what was handed on. -/
structure ReceiveCall (l l' : Line) (bytes : List (Byte × TtyFlag)) : Prop where
  flip : l'.rx.flip = l.rx.flip ++ bytes
  icount : l'.rx.icount = countFlags l.rx.icount bytes
  log : l'.rx.logRxcnt = l.rx.logRxcnt + BitVec.ofNat 64 bytes.length
  must : l'.port.isMoxaMustChipFlag = l.port.isMoxaMustChipFlag

theorem mxserReceiveChars_call (l : Line) (a : ReceiveReads) :
    ReceiveCall l (mxserReceiveChars l a).2 ((callReads l.port a).flatMap Reading.handed) := by
  have hands := handsOn_receiveBytes l a
  have htakes := takes_receiveBytes l a
  obtain ⟨fcr, hport⟩ := htakes.port
  have hlog : (receiveBytes l a).2.2.rx.logRxcnt + BitVec.ofNat 64 (receiveBytes l a).1 =
      l.rx.logRxcnt +
        BitVec.ofNat 64 ((callReads l.port a).flatMap Reading.handed).length := by
    rw [htakes.log, hands.count]
  have hmust : (countReceived (receiveBytes l a).2.2 (receiveBytes l a).1).port.isMoxaMustChipFlag =
      l.port.isMoxaMustChipFlag := by
    simp only [countReceived, hport]
  simp only [mxserReceiveChars]
  split
  · obtain ⟨x, ier, uier, mcr, umcr, hstop, -⟩ :=
      mxserStoprx_frame (countReceived (receiveBytes l a).2.2 (receiveBytes l a).1).port
    refine ⟨hands.flip, hands.icount, hlog, ?_⟩
    rw [hstop]
    exact hmust
  · exact ⟨hands.flip, hands.icount, hlog, hmust⟩

/-! ## What the chip holds -/

/-- What a call reads is what the chip holds: there is a byte when it is called, and
`UART_LSR` and the register for the good data do not promise more than there is. -/
structure ReceiveReads.Truthful (a : ReceiveReads) (p : Port) (rest : List Byte) : Prop where
  ready : 0 < rest.length
  rx_eq : ∀ k (h : k < rest.length), a.rx k = rest[k]
  lsr_true : ∀ k, test (a.lsr k) uartLsrDr = true → k + 1 < rest.length
  gdl_le : goodLength p a.gdl ≤ rest.length

section Truthful

variable {a : ReceiveReads} {p : Port} {rest : List Byte}

theorem loopReads_bytes (h : a.Truthful p rest) (m : StatusMasks) (must : Bool)
    (max k ignored : Nat) (status : Byte) (hk : k < rest.length) :
    (loopReads a m must max k ignored status).map Reading.byte =
      (rest.drop k).take (loopReads a m must max k ignored status).length := by
  induction max generalizing k ignored status with
  | zero => rfl
  | succ max ih =>
      rw [loopReads, List.drop_eq_getElem_cons hk]
      simp only [List.map_cons, List.length_cons, List.take_succ_cons, h.rx_eq k hk]
      congr 1
      cases hend : loopEnds m must (if m.ignores status then ignored + 1 else ignored) status
          (a.lsr k) with
      | true => rfl
      | false =>
          have hdr : test (a.lsr k) uartLsrDr = true := by
            simp only [loopEnds, Bool.or_eq_false_iff, Bool.not_eq_false'] at hend
            exact hend.2
          exact ih (k + 1) _ _ (h.lsr_true k hdr)

theorem callReads_bytes (h : a.Truthful p rest) :
    (callReads p a).map Reading.byte = rest.take (callReads p a).length := by
  unfold callReads
  split
  · rw [List.map_map, List.length_map, List.length_range]
    apply List.ext_getElem
    · rw [List.length_map, List.length_range, List.length_take, Nat.min_eq_left h.gdl_le]
    · intro k h1 h2
      rw [List.length_map, List.length_range] at h1
      have hlt : k < rest.length := Nat.lt_of_lt_of_le h1 h.gdl_le
      rw [List.getElem_map, List.getElem_range, List.getElem_take]
      exact h.rx_eq k hlt
  · exact loopReads_bytes h _ _ 257 0 0 a.status h.ready

end Truthful

/-! ## The life of a line -/

/-- A line, and what came of the bytes that arrived at it. -/
structure RxLine where
  line : Line
  reader : Reader Byte Reading (Byte × TtyFlag)

/-- The receive FIFO is reset by the error loop, with all that is left in it. -/
def resetsFifo (p : Port) (a : ReceiveReads) : Bool :=
  !goodData p a.status && p.isMoxaMustChipFlag != 0 && test a.status uartLsrOe

inductive RxOp where
  | arrive (b : Byte)
  /-- `mxser_set_termios` sets the masks. -/
  | setMasks (m : StatusMasks)
  | receive (a : ReceiveReads)

def rxStep (s : RxLine) : RxOp → Except Empty RxLine
  | .arrive b => .ok { s with reader := s.reader.arrive b }
  | .setMasks m =>
      .ok { s with line := { s.line with port := { s.line.port with
        readStatusMask := m.read, ignoreStatusMask := m.ignore } } }
  | .receive a =>
      let l := (mxserReceiveChars s.line a).2
      let r := s.reader.read (callReads s.line.port a) l.rx.flip
      .ok ⟨l, if resetsFifo s.line.port a then r.drop else r⟩

def RxLine.start (p : Port) : RxLine := ⟨.start p, .start⟩

/-- The chip is truthful when it is read. -/
def ReadsTrue (s : RxLine) : RxOp → Prop
  | .receive a => a.Truthful s.line.port s.reader.rest
  | _ => True

/-- How many bytes went to the tty with the flag. -/
def flagged (flip : List (Byte × TtyFlag)) (f : TtyFlag) : Nat := flip.countP fun b => b.2 == f

/-- The tty has what was read, each byte once and in order and as its status says, or not
at all if that was to be ignored; nothing was lost but to a reset of the FIFO, which only
a MUST chip has; and the counters tell how many bytes went to the tty, with which flag. -/
structure RxLine.Streams (s : RxLine) : Prop where
  flip : s.line.rx.flip = s.reader.readings.flatMap Reading.handed
  inOrder : (s.reader.readings.map Reading.byte ++ s.reader.rest).Sublist s.reader.arrived
  whole : s.reader.reset = false →
    s.reader.readings.map Reading.byte ++ s.reader.rest = s.reader.arrived
  resetMust : s.reader.reset = true → s.line.port.isMoxaMustChipFlag ≠ 0
  log : s.line.rx.logRxcnt = BitVec.ofNat 64 s.line.rx.flip.length
  brk : s.line.rx.icount.brk = BitVec.ofNat 32 (flagged s.line.rx.flip .brk)
  parity : s.line.rx.icount.parity = BitVec.ofNat 32 (flagged s.line.rx.flip .parity)
  frame : s.line.rx.icount.frame = BitVec.ofNat 32 (flagged s.line.rx.flip .frame)
  overrun : s.line.rx.icount.overrun = BitVec.ofNat 32 (flagged s.line.rx.flip .overrun)

structure RxInv (s : RxLine) : Prop where
  accounted : Accounted Reading.byte Reading.handed s.reader
  flip : s.reader.out = s.line.rx.flip
  resetMust : s.reader.reset = true → s.line.port.isMoxaMustChipFlag ≠ 0
  log : s.line.rx.logRxcnt = BitVec.ofNat 64 s.line.rx.flip.length
  icount : s.line.rx.icount = countFlags ⟨0, 0, 0, 0, 0⟩ s.line.rx.flip

theorem rxInv_start (p : Port) : RxInv (.start p) where
  accounted := accounted_start
  flip := rfl
  resetMust := nofun
  log := rfl
  icount := rfl

theorem RxInv.receive {s : RxLine} (h : RxInv s) {a : ReceiveReads}
    (ha : a.Truthful s.line.port s.reader.rest) {t : RxLine} (he : rxStep s (.receive a) = .ok t) :
    RxInv t := by
  have hcall := mxserReceiveChars_call s.line a
  have hread : Accounted Reading.byte Reading.handed
      (s.reader.read (callReads s.line.port a) (mxserReceiveChars s.line a).2.rx.flip) :=
    h.accounted.read (callReads_bytes ha) (by rw [h.flip, hcall.flip])
  have hlog : (mxserReceiveChars s.line a).2.rx.logRxcnt =
      BitVec.ofNat 64 (mxserReceiveChars s.line a).2.rx.flip.length := by
    rw [hcall.log, hcall.flip, h.log, List.length_append, BitVec.ofNat_add]
  have hicount : (mxserReceiveChars s.line a).2.rx.icount =
      countFlags ⟨0, 0, 0, 0, 0⟩ (mxserReceiveChars s.line a).2.rx.flip := by
    rw [hcall.icount, hcall.flip, h.icount, countFlags_append]
  rw [← Except.ok.inj he]
  cases hreset : resetsFifo s.line.port a with
  | true =>
      have hmust : (mxserReceiveChars s.line a).2.port.isMoxaMustChipFlag ≠ 0 := by
        simp only [resetsFifo, Bool.and_eq_true, bne_iff_ne] at hreset
        rw [hcall.must]
        exact hreset.1.2
      exact ⟨hread.drop, rfl, fun _ => hmust, hlog, hicount⟩
  | false => exact ⟨hread, rfl, fun hr => hcall.must.trans_ne (h.resetMust hr), hlog, hicount⟩

theorem RxInv.step {s t : RxLine} {op : RxOp} (h : RxInv s) (ho : ReadsTrue s op)
    (he : rxStep s op = .ok t) : RxInv t := by
  cases op with
  | arrive b =>
      rw [← Except.ok.inj he]
      exact ⟨h.accounted.arrive b, h.flip, h.resetMust, h.log, h.icount⟩
  | setMasks m =>
      rw [← Except.ok.inj he]
      exact ⟨h.accounted, h.flip, h.resetMust, h.log, h.icount⟩
  | receive a => exact h.receive ho he

/-- The counters tell the flags apart. -/
theorem countFlags_counts (flip : List (Byte × TtyFlag)) :
    (countFlags ⟨0, 0, 0, 0, 0⟩ flip).brk = BitVec.ofNat 32 (flagged flip .brk) ∧
      (countFlags ⟨0, 0, 0, 0, 0⟩ flip).parity = BitVec.ofNat 32 (flagged flip .parity) ∧
      (countFlags ⟨0, 0, 0, 0, 0⟩ flip).frame = BitVec.ofNat 32 (flagged flip .frame) ∧
      (countFlags ⟨0, 0, 0, 0, 0⟩ flip).overrun = BitVec.ofNat 32 (flagged flip .overrun) := by
  induction flip using List.reverseRecOn with
  | nil => exact ⟨rfl, rfl, rfl, rfl⟩
  | append_singleton flip b ih =>
      obtain ⟨hbrk, hparity, hframe, hoverrun⟩ := ih
      have hone : countFlags ⟨0, 0, 0, 0, 0⟩ (flip ++ [b]) =
          countFlag (countFlags ⟨0, 0, 0, 0, 0⟩ flip) b.2 := countFlags_append _ _ _
      have hcount : ∀ f, flagged (flip ++ [b]) f =
          flagged flip f + if b.2 == f then 1 else 0 := by
        intro f
        rw [flagged, List.countP_append, List.countP_singleton]
        rfl
      rw [hone]
      simp only [hcount]
      have hsucc : ∀ {c : Word} {n : Nat},
          c = BitVec.ofNat 32 n → c + 1 = BitVec.ofNat 32 (n + 1) :=
        fun {_ n} h => h ▸ (BitVec.ofNat_add n 1).symm
      generalize countFlags ⟨0, 0, 0, 0, 0⟩ flip = c at hbrk hparity hframe hoverrun ⊢
      cases b.2 with
      | normal => exact ⟨hbrk, hparity, hframe, hoverrun⟩
      | brk => exact ⟨hsucc hbrk, hparity, hframe, hoverrun⟩
      | parity => exact ⟨hbrk, hsucc hparity, hframe, hoverrun⟩
      | frame => exact ⟨hbrk, hparity, hsucc hframe, hoverrun⟩
      | overrun => exact ⟨hbrk, hparity, hframe, hsucc hoverrun⟩

theorem RxInv.streams {s : RxLine} (h : RxInv s) : s.Streams := by
  obtain ⟨hbrk, hparity, hframe, hoverrun⟩ := countFlags_counts s.line.rx.flip
  rw [← h.icount] at hbrk hparity hframe hoverrun
  exact ⟨h.flip.symm.trans h.accounted.out_eq, h.accounted.inOrder, h.accounted.whole,
    h.resetMust, h.log, hbrk, hparity, hframe, hoverrun⟩

/-- Through all calls, whatever the line status, the masks and the room at the tty. -/
theorem receiver_streams (p : Port) (ops : List RxOp)
    (hg : Guarded rxStep ReadsTrue (.start p) ops) :
    Always rxStep RxLine.Streams (.start p) ops :=
  (always_of_guarded (fun _ _ _ hs ho he => RxInv.step hs ho he) (rxInv_start p) hg).mono
    fun _ hs => hs.streams

/-- What a call reads of two bytes, the first with a parity error. -/
def twoBytes : ReceiveReads where
  status := 0x65
  gdl := 0
  rx k := if k = 0 then 0x41 else 0x42
  lsr k := if k = 0 then 0x61 else 0x60
  room := 4096

theorem receiver_streams_twoBytes :
    Always rxStep RxLine.Streams (.start (c104Started port16450 (c104Termios 0)))
      [.setMasks ⟨0x1F, 0⟩, .arrive 0x41, .arrive 0x42, .receive twoBytes] := by
  apply receiver_streams
  rw [guarded_cons]
  refine ⟨trivial, fun s hs => ?_⟩
  cases hs
  rw [guarded_cons]
  refine ⟨trivial, fun s hs => ?_⟩
  cases hs
  rw [guarded_cons]
  refine ⟨trivial, fun s hs => ?_⟩
  cases hs
  rw [guarded_cons]
  refine ⟨⟨by decide, ?_, ?_, by decide⟩, fun s _ => guarded_nil⟩
  · show ∀ k (h : k < 2), twoBytes.rx k = [0x41, 0x42][k]
    decide
  · intro k hk
    cases k with
    | zero => decide
    | succ k =>
        have hlsr : test 0x60 uartLsrDr = true := hk
        exact absurd hlsr (by decide)

end MoxaDrivers.Mxser

import MoxaDrivers.Mxser.Modem
import MoxaDrivers.Mxser.Transmit

/-!
# The receive side of a port

`mxser_receive_chars` as the interrupt calls it. What it keeps besides `Port`
is `ReceiveInfo`; its `flip` is not kept by the driver: it lists the bytes
passed to the tty by `tty_insert_flip_char`, in order. Handing them on
(`tty_flip_buffer_push`) changes nothing here.
-/

namespace MoxaDrivers.Mxser

open MoxaDrivers.Bits

def uartLsrSpecial : Byte := 0x1E
def moxaMustLsrRerr : Byte := 0x80
def moxaMustGdlMask : Byte := 0x7F
def asyncSak : Word := 0x0004

/-! ## The state -/

/-- What a byte is passed to the tty as. -/
inductive TtyFlag where
  | normal
  | brk
  | parity
  | frame
  | overrun
  deriving DecidableEq, Repr

/-- The counters of `info->icount` that are about the receiver. -/
structure ReceiveIcount where
  rx : Word
  brk : Word
  parity : Word
  frame : Word
  overrun : Word
  deriving DecidableEq, Repr

structure ReceiveInfo where
  icount : ReceiveIcount
  /-- The port's entry of `mxvar_log.rxcnt`. -/
  logRxcnt : BitVec 64
  /-- The `TTY_THROTTLED` bit of `tty->flags`. -/
  throttled : Bool
  /-- `do_SAK` was called. -/
  sak : Bool
  flip : List (Byte × TtyFlag)
  deriving DecidableEq, Repr

/-- A port with its receive side. -/
structure Line where
  port : Port
  rx : ReceiveInfo

/-- Nothing was received yet. -/
def Line.start (p : Port) : Line := ⟨p, ⟨0, 0, 0, 0, 0⟩, 0, false, false, []⟩

/-- What one call reads: the line status from the interrupt,
`MOXA_MUST_GDL_REGISTER`, `UART_RX` and `UART_LSR` at each turn of the loop, and
`tty->receive_room`. -/
structure ReceiveReads where
  status : Byte
  gdl : Byte
  rx : Nat → Byte
  lsr : Nat → Byte
  room : Int

/-! ## One byte -/

def byteFlag (status : Byte) : TtyFlag :=
  if test status uartLsrSpecial then
    if test status uartLsrBi then .brk
    else if test status uartLsrPe then .parity
    else if test status uartLsrFe then .frame
    else if test status uartLsrOe then .overrun
    else .brk
  else .normal

def countError (c : ReceiveIcount) (status : Byte) : ReceiveIcount :=
  if test status uartLsrSpecial then
    if test status uartLsrBi then { c with brk := c.brk + 1 }
    else if test status uartLsrPe then { c with parity := c.parity + 1 }
    else if test status uartLsrFe then { c with frame := c.frame + 1 }
    else if test status uartLsrOe then { c with overrun := c.overrun + 1 }
    else c
  else c

/-- A byte goes to the tty, flagged and counted by its status. -/
def takeByte (l : Line) (ch status : Byte) : Line :=
  { l with rx := { l.rx with
    icount := countError l.rx.icount status
    sak := l.rx.sak ||
      (test status uartLsrSpecial && test status uartLsrBi && test l.port.flags asyncSak)
    flip := l.rx.flip ++ [(ch, byteFlag status)] } }

/-! ## The two ways to receive -/

/-- A MUST chip without an error in its FIFO says how much good data it has. -/
def goodData (p : Port) (status : Byte) : Bool :=
  p.isMoxaMustChipFlag != moxaOtherUart && !test status uartLsrSpecial &&
    !test status moxaMustLsrRerr

/-- How much it is. -/
def goodLength (p : Port) (gdl : Byte) : Nat :=
  (if p.isMoxaMustChipFlag = moxaMustMu150Hwid then gdl &&& moxaMustGdlMask else gdl).toNat

/-- The loop over the good data. -/
def receiveGood (rx : Nat → Byte) (l : Line) (gdl : Nat) : Line :=
  { l with rx := { l.rx with
    flip := l.rx.flip ++ (List.range gdl).map fun k => (rx k, .normal) } }

/-- On a MUST chip an overrun resets the receive FIFO. -/
def resetOverrun (l : Line) (status : Byte) : Line :=
  if l.port.isMoxaMustChipFlag ≠ 0 ∧ test status uartLsrOe then
    { l with port := { l.port with uart := { l.port.uart with fcr := 0x23 } } }
  else l

/-- A byte with this status is dropped. -/
def Port.ignores (p : Port) (status : Byte) : Bool :=
  test (status &&& p.readStatusMask) p.ignoreStatusMask

/-- What one turn of the error loop does with its byte. -/
def receiveTurn (l : Line) (ch status : Byte) : Line :=
  let l := resetOverrun l status
  if l.port.ignores status then l else takeByte l ch (status &&& l.port.readStatusMask)

/-- The error loop with `max` turns left, after `k` turns of which `ignored`
dropped their byte: how many bytes the rest passes on, `*status` after it, and
the line. -/
def receiveLoop (a : ReceiveReads) :
    Nat → (k ignored : Nat) → (status : Byte) → Line → Nat × Byte × Line
  | 0, _, _, status, l => (0, status, l)
  | max + 1, k, ignored, status, l =>
      let skip := l.port.ignores status
      let ignored := if skip then ignored + 1 else ignored
      let cnt := if skip then 0 else 1
      let l := receiveTurn l (a.rx k) status
      if skip ∧ ignored > 100 then (cnt, status &&& l.port.readStatusMask, l)
      -- a MUST chip is read one byte at a time
      else if l.port.isMoxaMustChipFlag ≠ 0 then (cnt, status &&& l.port.readStatusMask, l)
      else if test (a.lsr k) uartLsrDr then
        let r := receiveLoop a max (k + 1) ignored (a.lsr k) l
        (cnt + r.1, r.2)
      else (cnt, a.lsr k, l)

/-- Up to `end_intr`. `max` is 256 and tested before it is decremented. -/
def receiveBytes (l : Line) (a : ReceiveReads) : Nat × Byte × Line :=
  if goodData l.port a.status then
    (goodLength l.port a.gdl, a.status, receiveGood a.rx l (goodLength l.port a.gdl))
  else receiveLoop a 257 0 0 a.status l

/-- `cnt` more bytes are counted as received, in `mxvar_log` and in `mon_data`. -/
def countReceived (l : Line) (cnt : Nat) : Line :=
  { port := { l.port with mon := { l.port.mon with
      rxcnt := l.port.mon.rxcnt + BitVec.ofNat 64 cnt
      upRxcnt := l.port.mon.upRxcnt + BitVec.ofNat 64 cnt } }
    rx := { l.rx with logRxcnt := l.rx.logRxcnt + BitVec.ofNat 64 cnt } }

/-- `mxser_receive_chars`: `*status` after it, and the line. -/
def mxserReceiveChars (l : Line) (a : ReceiveReads) : Byte × Line :=
  let r := receiveBytes l a
  let l := countReceived r.2.2 r.1
  (r.2.1, if a.room < 256 then
      ⟨mxserStoprx l.port, { l.rx with throttled := true }⟩
    else l)

/-! ## What is passed on -/

/-- The status of turn `k`. -/
def ReceiveReads.statusAt (a : ReceiveReads) : Nat → Byte
  | 0 => a.status
  | k + 1 => a.lsr k

/-- A byte goes to the tty: there is good data, or one of the first 101 turns
comes to a status that is not ignored (a MUST chip has one turn). -/
def Delivers (p : Port) (a : ReceiveReads) : Prop :=
  if goodData p a.status then goodLength p a.gdl ≠ 0
  else if p.isMoxaMustChipFlag ≠ 0 then p.ignores a.status = false
  else ∃ k, k ≤ 100 ∧ (∀ j < k, test (a.lsr j) uartLsrDr = true) ∧
    p.ignores (a.statusAt k) = false

/-- What the receive side of a line and the masks of its port are before and
after: `cnt` bytes more at the tty, and `icount.rx` as it was. -/
structure Takes (l l' : Line) (cnt : Nat) : Prop where
  flip : l'.rx.flip.length = l.rx.flip.length + cnt
  icountRx : l'.rx.icount.rx = l.rx.icount.rx
  log : l'.rx.logRxcnt = l.rx.logRxcnt
  port : ∃ fcr, l'.port = { l.port with uart := { l.port.uart with fcr := fcr } }

theorem Takes.refl (l : Line) : Takes l l 0 := ⟨rfl, rfl, rfl, l.port.uart.fcr, rfl⟩

theorem Takes.trans {l l' l'' : Line} {m n : Nat} (h : Takes l l' m) (h' : Takes l' l'' n) :
    Takes l l'' (m + n) := by
  obtain ⟨fcr, hport⟩ := h.port
  obtain ⟨fcr', hport'⟩ := h'.port
  refine ⟨?_, h'.icountRx.trans h.icountRx, h'.log.trans h.log, fcr', ?_⟩
  · rw [h'.flip, h.flip, Nat.add_assoc]
  · rw [hport', hport]

theorem countError_rx (c : ReceiveIcount) (status : Byte) : (countError c status).rx = c.rx := by
  simp only [countError]
  split
  · split
    · rfl
    · split
      · rfl
      · split
        · rfl
        · split
          · rfl
          · rfl
  · rfl

theorem takes_takeByte (l : Line) (ch status : Byte) : Takes l (takeByte l ch status) 1 := by
  refine ⟨?_, countError_rx _ _, rfl, l.port.uart.fcr, rfl⟩
  simp [takeByte]

theorem takes_resetOverrun (l : Line) (status : Byte) : Takes l (resetOverrun l status) 0 := by
  simp only [resetOverrun]
  split
  · exact ⟨rfl, rfl, rfl, 0x23, rfl⟩
  · exact Takes.refl l

/-- One turn takes the byte or drops it. -/
theorem takes_receiveTurn (l : Line) (ch status : Byte) :
    Takes l (receiveTurn l ch status) (if l.port.ignores status then 0 else 1) := by
  have hreset := takes_resetOverrun l status
  obtain ⟨fcr, hport⟩ := hreset.port
  have hsame : (resetOverrun l status).port.ignores status = l.port.ignores status := by
    rw [hport]
    rfl
  simp only [receiveTurn]
  simp only [hsame]
  cases l.port.ignores status with
  | true => exact hreset
  | false => simpa using hreset.trans (takes_takeByte _ ch _)

theorem Takes.masks {l l' : Line} {n : Nat} (h : Takes l l' n) :
    l'.port.ignores = l.port.ignores ∧
      l'.port.isMoxaMustChipFlag = l.port.isMoxaMustChipFlag := by
  obtain ⟨fcr, hport⟩ := h.port
  rw [hport]
  exact ⟨rfl, rfl⟩

/-- A turn ends the loop or goes on to the next. -/
theorem receiveLoop_succ (a : ReceiveReads) (max k ignored : Nat) (status : Byte) (l : Line) :
    (∃ status', receiveLoop a (max + 1) k ignored status l =
      (if l.port.ignores status then 0 else 1, status', receiveTurn l (a.rx k) status)) ∨
    (∃ ignored', receiveLoop a (max + 1) k ignored status l =
      let r := receiveLoop a max (k + 1) ignored' (a.lsr k) (receiveTurn l (a.rx k) status)
      ((if l.port.ignores status then 0 else 1) + r.1, r.2)) := by
  rw [receiveLoop]
  simp only []
  by_cases hmany : l.port.ignores status = true ∧
      (if l.port.ignores status then ignored + 1 else ignored) > 100
  · exact .inl ⟨_, if_pos hmany⟩
  · rw [if_neg hmany]
    by_cases hmust : (receiveTurn l (a.rx k) status).port.isMoxaMustChipFlag ≠ 0
    · exact .inl ⟨_, if_pos hmust⟩
    · rw [if_neg hmust]
      by_cases hdr : test (a.lsr k) uartLsrDr = true
      · exact .inr ⟨_, if_pos hdr⟩
      · exact .inl ⟨_, if_neg hdr⟩

theorem takes_receiveLoop (a : ReceiveReads) (max k ignored : Nat) (status : Byte) (l : Line) :
    Takes l (receiveLoop a max k ignored status l).2.2
      (receiveLoop a max k ignored status l).1 := by
  induction max generalizing k ignored status l with
  | zero => exact Takes.refl l
  | succ max ih =>
      have hturn := takes_receiveTurn l (a.rx k) status
      rcases receiveLoop_succ a max k ignored status l with ⟨status', h⟩ | ⟨ignored', h⟩
      · rw [h]
        exact hturn
      · rw [h]
        exact hturn.trans (ih _ _ _ _)

theorem receiveLoop_le (a : ReceiveReads) (max k ignored : Nat) (status : Byte) (l : Line) :
    (receiveLoop a max k ignored status l).1 ≤ max := by
  induction max generalizing k ignored status l with
  | zero => exact Nat.le_refl 0
  | succ max ih =>
      have hone : (if l.port.ignores status then 0 else 1) ≤ 1 := by
        split
        · exact Nat.zero_le 1
        · exact Nat.le_refl 1
      rcases receiveLoop_succ a max k ignored status l with ⟨status', h⟩ | ⟨ignored', h⟩
      · rw [h]
        show (if l.port.ignores status then 0 else 1) ≤ max + 1
        omega
      · have hrest := ih (k + 1) ignored' (a.lsr k) (receiveTurn l (a.rx k) status)
        rw [h]
        show (if l.port.ignores status then 0 else 1) + _ ≤ max + 1
        omega

/-- What is asked of each turn up to the last one that a loop comes to, asked of
the first turn and of the rest. -/
theorem turns_from_iff {drop ready : Nat → Bool} {k last : Nat} (hk : k ≤ last) :
    (∀ n, k ≤ n → n ≤ last → (∀ j, k ≤ j → j < n → ready j = true) → drop n = true) ↔
      drop k = true ∧ (ready k = true → ∀ n, k + 1 ≤ n → n ≤ last →
        (∀ j, k + 1 ≤ j → j < n → ready j = true) → drop n = true) := by
  constructor
  · intro h
    refine ⟨h k (Nat.le_refl k) hk fun j h1 h2 => by omega, fun hready n h1 h2 hall => ?_⟩
    refine h n (by omega) h2 fun j h3 h4 => ?_
    by_cases hj : j = k
    · rw [hj]
      exact hready
    · exact hall j (by omega) h4
  · intro h n h1 h2 hall
    by_cases hn : n = k
    · rw [hn]
      exact h.1
    · have hready := hall k (Nat.le_refl k) (by omega)
      exact h.2 hready n (by omega) h2 fun j h3 h4 => hall j (by omega) h4

/-- On a chip that is read until it is empty: the loop passes nothing on from
turn `k` exactly if each of the first 101 statuses that it comes to is to be
ignored. All turns before `k` dropped their byte. -/
theorem receiveLoop_nothing_iff (a : ReceiveReads) :
    ∀ (max k : Nat) (l : Line), max + k = 257 → k ≤ 100 → l.port.isMoxaMustChipFlag = 0 →
      ((receiveLoop a max k k (a.statusAt k) l).1 = 0 ↔
        ∀ n, k ≤ n → n ≤ 100 → (∀ j, k ≤ j → j < n → test (a.lsr j) uartLsrDr = true) →
          l.port.ignores (a.statusAt n) = true) := by
  intro max
  induction max with
  | zero =>
      intro k l hmax hk
      omega
  | succ max ih =>
      intro k l hmax hk hmust
      have hmasks := (takes_receiveTurn l (a.rx k) (a.statusAt k)).masks
      rw [turns_from_iff hk]
      simp only [receiveLoop]
      cases hskip : l.port.ignores (a.statusAt k) with
      | false =>
          have hpassed : ∀ r : Nat, 1 + r ≠ 0 := by omega
          simp only [Bool.false_eq_true, false_and, if_false, hmasks.2, hmust, ne_eq,
            not_true_eq_false, iff_false]
          split
          · exact hpassed _
          · exact Nat.one_ne_zero
      | true =>
          by_cases hlast : k + 1 > 100
          · simp only [if_true, hlast, and_self, true_and, true_iff]
            intro _ n h1 h2
            omega
          · simp only [if_true, hlast, and_false, if_false, hmasks.2, hmust, ne_eq,
              not_true_eq_false, true_and]
            cases hdr : test (a.lsr k) uartLsrDr with
            | false => simp
            | true =>
                have hrest := ih (k + 1) (receiveTurn l (a.rx k) (a.statusAt k)) (by omega)
                  (by omega) (hmasks.2.trans hmust)
                rw [hmasks.1] at hrest
                simp only [if_true, Nat.zero_add, forall_const]
                exact hrest

theorem receiveLoop_must {a : ReceiveReads} {status : Byte} {l : Line} (max : Nat)
    (h : l.port.isMoxaMustChipFlag ≠ 0) :
    (receiveLoop a (max + 1) 0 0 status l).1 = if l.port.ignores status then 0 else 1 := by
  have hmust : (receiveTurn l (a.rx 0) status).port.isMoxaMustChipFlag ≠ 0 := by
    rw [(takes_receiveTurn l (a.rx 0) status).masks.2]
    exact h
  rw [receiveLoop]
  cases l.port.ignores status with
  | true => simp [hmust]
  | false => simp [hmust]

/-- Up to `end_intr` nothing is passed on exactly without a byte to deliver. -/
theorem receiveBytes_nothing_iff (l : Line) (a : ReceiveReads) :
    (receiveBytes l a).1 = 0 ↔ ¬ Delivers l.port a := by
  simp only [receiveBytes, Delivers]
  by_cases hgood : goodData l.port a.status = true
  · simp [if_pos hgood]
  · rw [if_neg hgood, if_neg hgood]
    by_cases hmust : l.port.isMoxaMustChipFlag ≠ 0
    · rw [if_pos hmust, receiveLoop_must 256 hmust]
      cases l.port.ignores a.status with
      | true => simp
      | false => simp
    · have hnothing := receiveLoop_nothing_iff a 257 0 l rfl (Nat.zero_le 100)
        (not_not.mp hmust)
      rw [if_neg hmust]
      refine hnothing.trans ⟨?_, ?_⟩
      · rintro h ⟨k, hk, hdr, hpass⟩
        rw [h k (Nat.zero_le k) hk fun j _ hj => hdr j hj] at hpass
        cases hpass
      · intro h n _ hn hdr
        by_contra hpass
        exact h ⟨n, hn, fun j hj => hdr j (Nat.zero_le j) hj, Bool.eq_false_iff.mpr hpass⟩

/-- One call passes on fewer than 2^32 bytes. -/
theorem receiveBytes_lt (l : Line) (a : ReceiveReads) : (receiveBytes l a).1 < 2 ^ 32 := by
  simp only [receiveBytes]
  split
  · exact lt_trans (BitVec.isLt _) (by decide)
  · exact lt_of_le_of_lt (receiveLoop_le a 257 0 0 a.status l) (by decide)

theorem takes_receiveBytes (l : Line) (a : ReceiveReads) :
    Takes l (receiveBytes l a).2.2 (receiveBytes l a).1 := by
  simp only [receiveBytes]
  split
  · refine ⟨?_, rfl, rfl, l.port.uart.fcr, rfl⟩
    simp [receiveGood]
  · exact takes_receiveLoop a 257 0 0 a.status l

/-- What a call leaves in the counters: `n` bytes more at the tty. -/
structure Received (l l' : Line) (n : Nat) : Prop where
  flip : l'.rx.flip.length = l.rx.flip.length + n
  icountRx : l'.rx.icount.rx = l.rx.icount.rx
  log : l'.rx.logRxcnt = l.rx.logRxcnt + BitVec.ofNat 64 n
  up : l'.port.mon.upRxcnt = l.port.mon.upRxcnt + BitVec.ofNat 64 n
  tx : l'.port.uart.tx = l.port.uart.tx
  icount : l'.port.icount = l.port.icount
  logTx : l'.port.logTxcnt = l.port.logTxcnt
  upTx : l'.port.mon.upTxcnt = l.port.mon.upTxcnt

/-- **One call** counts what it passes on in `mxvar_log` and `mon_data`, and
nowhere in `icount`. -/
theorem mxserReceiveChars_received (l : Line) (a : ReceiveReads) :
    Received l (mxserReceiveChars l a).2 (receiveBytes l a).1 := by
  have htakes := takes_receiveBytes l a
  obtain ⟨fcr, hport⟩ := htakes.port
  have hcounted : Received l (countReceived (receiveBytes l a).2.2 (receiveBytes l a).1)
      (receiveBytes l a).1 := by
    simp only [countReceived]
    rw [hport]
    refine ⟨htakes.flip, htakes.icountRx, ?_, rfl, rfl, rfl, rfl, rfl⟩
    show (receiveBytes l a).2.2.rx.logRxcnt + _ = _
    rw [htakes.log]
  simp only [mxserReceiveChars]
  split
  · obtain ⟨x, ier, uier, mcr, umcr, hstop, -⟩ :=
      mxserStoprx_frame (countReceived (receiveBytes l a).2.2 (receiveBytes l a).1).port
    rw [hstop]
    exact ⟨hcounted.flip, hcounted.icountRx, hcounted.log, hcounted.up, hcounted.tx,
      hcounted.icount, hcounted.logTx, hcounted.upTx⟩
  · exact hcounted

end MoxaDrivers.Mxser

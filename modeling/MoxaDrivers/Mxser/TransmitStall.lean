import MoxaDrivers.Lib.Machine
import MoxaDrivers.Mxser.SerialInfo
import MoxaDrivers.Mxser.TransmitFifo

/-!
# Queued bytes and the transmit interrupt

A byte in the ring leaves through the transmit interrupt, so the interrupt must
be enabled whenever bytes are queued and nothing holds the transmitter: the tty
is not stopped, and `hw_stopped` is clear or the chip looks after CTS itself.

Every operation keeps this but one: `TIOCSSERIAL` can declare a plain UART a
16550A while `hw_stopped` holds it, and then nothing enables the interrupt.
-/

namespace MoxaDrivers.Mxser

open MoxaDrivers.Bits MoxaDrivers.Machine

/-- Queued bytes with nothing that holds them have the transmit interrupt on. -/
def StallFree (p : Port) : Prop :=
  0 < p.ring.cnt → p.ring.buf.isSome = true → p.tty.stopped = false →
    ¬ (p.tty.hwStopped = true ∧ p.autoCts = false) → p.thri = true

/-! ## Ports that the property cannot tell apart -/

structure SameTx (p q : Port) : Prop where
  ring : q.ring = p.ring
  stopped : q.tty.stopped = p.tty.stopped
  hwStopped : q.tty.hwStopped = p.tty.hwStopped
  autoCts : q.autoCts = p.autoCts
  thri : q.thri = p.thri
  initialized : q.initialized = p.initialized

theorem SameTx.trans {p q r : Port} (h : SameTx p q) (h' : SameTx q r) : SameTx p r where
  ring := h'.ring.trans h.ring
  stopped := h'.stopped.trans h.stopped
  hwStopped := h'.hwStopped.trans h.hwStopped
  autoCts := h'.autoCts.trans h.autoCts
  thri := h'.thri.trans h.thri
  initialized := h'.initialized.trans h.initialized

theorem SameTx.stallFree_iff {p q : Port} (h : SameTx p q) : StallFree q ↔ StallFree p := by
  simp only [StallFree]
  rw [h.ring, h.stopped, h.hwStopped, h.autoCts, h.thri]

/-- What a run keeps: the port stays initialised. -/
structure StallInv (p : Port) : Prop where
  initialized : p.initialized = true
  free : StallFree p

theorem StallInv.congr {p q : Port} (h : StallInv p) (hpq : SameTx p q) : StallInv q :=
  ⟨hpq.initialized.trans h.initialized, hpq.stallFree_iff.mpr h.free⟩

/-! ## Filling, stopping, starting -/

/-- The kick is taken whenever nothing holds the transmitter. -/
theorem kick_stallFree (p : Port) : StallFree (kick p) := by
  simp only [kick]
  split
  · intro _ _ _ _
    exact p.thriOff.thriOn_thri
  · rename_i hheld
    intro _ _ _ hfree
    refine absurd ?_ hfree
    simpa using hheld

theorem writeKick_stallFree (p : Port) : StallFree (writeKick p) := by
  simp only [writeKick]
  split
  · exact kick_stallFree p
  · rename_i hno
    intro hcnt _ hstop _
    exact absurd ⟨by omega, by simp [hstop]⟩ hno

theorem writeKick_initialized (p : Port) : (writeKick p).initialized = p.initialized := by
  simp only [writeKick]
  split
  · exact kick_initialized p
  · rfl

theorem stallInv_write {p : Port} (h : StallInv p) (buf : List Byte) :
    StallInv (mxserWrite p buf).2 := by
  simp only [mxserWrite]
  split
  · exact h
  · obtain ⟨ring, hloop⟩ := writeLoop_frame (buf.length + 1) p buf
    refine ⟨?_, writeKick_stallFree _⟩
    show (writeKick (writeLoop (buf.length + 1) p buf).2).initialized = true
    rw [writeKick_initialized, hloop]
    exact h.initialized

theorem stallInv_putChar {p : Port} (h : StallInv p) (ch : Byte) :
    StallInv (mxserPutChar p ch).2 := by
  simp only [mxserPutChar]
  split
  · exact h
  · split
    · exact h
    · refine ⟨?_, ?_⟩
      · show (if (!(putCharStore p ch).tty.stopped) = true then kick (putCharStore p ch)
          else putCharStore p ch).initialized = true
        split
        · rw [kick_initialized]
          exact h.initialized
        · exact h.initialized
      · show StallFree (if (!(putCharStore p ch).tty.stopped) = true then kick (putCharStore p ch)
          else putCharStore p ch)
        split
        · exact kick_stallFree _
        · rename_i hstopped
          intro _ _ hstop _
          exact absurd (by simp [hstop]) hstopped

/-- A stopped tty asks for nothing. -/
theorem stallFree_of_stopped {p : Port} (h : p.tty.stopped = true) : StallFree p := by
  intro _ _ hstop _
  rw [h] at hstop
  cases hstop

theorem mxserStop_frame (p : Port) :
    (mxserStop p).tty = p.tty ∧ (mxserStop p).initialized = p.initialized := by
  simp only [mxserStop]
  split <;> exact ⟨rfl, rfl⟩

/-- A start enables the interrupt if anything is queued. -/
theorem mxserStart_stallFree (p : Port) : StallFree (mxserStart p) := by
  simp only [mxserStart]
  split
  · intro _ _ _ _
    exact p.thriOff.thriOn_thri
  · rename_i hnone
    intro hcnt hbuf _ _
    exact absurd ⟨by omega, hbuf⟩ hnone

theorem mxserStart_initialized (p : Port) : (mxserStart p).initialized = p.initialized := by
  simp only [mxserStart]
  split <;> rfl

theorem stallInv_start {p : Port} (h : p.initialized = true) : StallInv (mxserStart p) :=
  ⟨(mxserStart_initialized p).trans h, mxserStart_stallFree p⟩

/-! ## The transmit interrupt -/

theorem wakeLow_same (p : Port) : SameTx p (wakeLow p) := by
  simp only [wakeLow]
  split <;> exact ⟨rfl, rfl, rfl, rfl, rfl, rfl⟩

/-- Held back, it turns itself off; else it leaves the interrupt enabled. -/
theorem stallInv_transmitChars {p : Port} (h : StallInv p) : StallInv (mxserTransmitChars p) := by
  simp only [mxserTransmitChars]
  split
  · exact h.congr ⟨rfl, rfl, rfl, rfl, rfl, rfl⟩
  · split
    · exact h
    · rename_i page hbuf
      split
      · exact h.congr (wakeLow_same p)
      · split
        · -- the interrupt goes off only where the property asks for nothing
          rename_i hheld
          refine ⟨h.initialized, ?_⟩
          intro _ _ hstop hfree
          rcases Bool.or_eq_true_iff.mp hheld with hstopped | hhold
          · exact absurd hstopped (by simpa using hstop)
          · refine absurd ?_ hfree
            simpa using hhold
        · obtain ⟨head, tail, cnt, out, hle, -, heq⟩ :=
            sendLoop_frame page (max 1 p.fifo.xmitFifoSize).toNat p
          simp only [heq]
          refine StallInv.congr ?_ (wakeLow_same _)
          refine ⟨h.initialized, ?_⟩
          intro hcnt _ hstop hfree
          have hpos : 0 < cnt := hcnt
          exact h.free (by omega) (by rw [hbuf]; rfl) hstop hfree

/-! ## CTS and the line settings -/

/-- Whatever CTS is taken to be, the interrupt follows. -/
theorem ctsChange_stallFree {p : Port} (h : StallFree p) (status : Byte) :
    StallFree (ctsChange p status) := by
  obtain ⟨ev, ier, uier, heq⟩ := ctsChange_eq p status
  have hier : (ctsChange p status).ier = ier := by rw [heq]
  by_cases hsame : p.autoCts = true ∨ p.tty.hwStopped = !test status uartMsrCts
  · -- the interrupt is as it was, and nothing holds now that did not hold before
    rw [ctsChange_ier hsame] at hier
    rw [heq]
    intro hcnt hbuf hstop hfree
    have hfree' : ¬ (p.tty.hwStopped = true ∧ p.autoCts = false) := by
      rintro ⟨hheld, hauto⟩
      rcases hsame with hyes | hlevel
      · rw [hyes] at hauto
        cases hauto
      · exact hfree ⟨hlevel.symm.trans hheld, hauto⟩
    show test ier uartIerThri = true
    rw [← hier]
    exact h hcnt hbuf hstop hfree'
  · obtain ⟨hauto, hlevel⟩ := not_or.mp hsame
    have hauto' : p.autoCts = false := by simpa using hauto
    cases hs : p.tty.hwStopped with
    | true =>
        intro _ _ _ _
        exact ctsChange_thri hauto' hs (by simpa [hs] using hlevel)
    | false =>
        rw [heq]
        intro _ _ _ hfree
        exact absurd ⟨by simpa [hs] using hlevel, hauto'⟩ hfree

theorem stallInv_checkModemStatus {p : Port} (h : StallInv p) (status : Byte) :
    StallInv (mxserCheckModemStatus p status) := by
  have hsame : SameTx p (carrierChange (countDeltas p status) status) :=
    ⟨rfl, rfl, rfl, rfl, rfl, rfl⟩
  have hcount := h.congr hsame
  by_cases hflow : test (carrierChange (countDeltas p status) status).flags asyncCtsFlow = true
  · have hcts : mxserCheckModemStatus p status
        = ctsChange (carrierChange (countDeltas p status) status) status := if_pos hflow
    obtain ⟨ev, ier, uier, heq⟩ := mxserCheckModemStatus_eq p status
    refine ⟨?_, ?_⟩
    · rw [heq]
      exact h.initialized
    · rw [hcts]
      exact ctsChange_stallFree hcount.free status
  · have hno : mxserCheckModemStatus p status
        = carrierChange (countDeltas p status) status := if_neg hflow
    rw [hno]
    exact hcount

/-! ## The line settings -/

/-- The modem status interrupt comes and goes beside the transmit interrupt. -/
theorem thri_msi (ier : Byte) (cd : Bool) :
    test (if cd then ier else ier ||| uartIerMsi) uartIerThri = test ier uartIerThri := by
  cases cd with
  | true => rfl
  | false => exact test_or_of_disjoint (by decide)

theorem initialized_carrier (flags : Word) (cd : Bool) :
    test (if cd then flags &&& ~~~asyncCheckCd else flags ||| asyncCheckCd) asyncInitialized
      = test flags asyncInitialized := by
  cases cd with
  | true => exact test_clear_of_disjoint (by decide)
  | false => exact test_or_of_disjoint (by decide)

/-- What follows the CTS section makes no difference here. -/
theorem changeSpeedLine_same (p : Port) :
    SameTx (changeSpeedCts (setMustFifo p) p.tty.termios.cCflag) (changeSpeedLine p) := by
  obtain ⟨rs, is, must, fcr, lcr, heq⟩ := changeSpeedLine_eq p
  rw [heq]
  exact ⟨rfl, rfl, rfl, rfl, thri_msi _ _, initialized_carrier _ _⟩

/-- Nor does the CTS section, where CTS is left to the chip or to nobody. -/
theorem changeSpeedCts_same {p : Port} {cflag : Word}
    (h : test cflag crtscts = false ∨ p.autoCts = true) : SameTx p (changeSpeedCts p cflag) := by
  obtain ⟨flags, ier, mcr, umcr, heq, hier, hflags⟩ := changeSpeedCts_free h
  rw [heq]
  refine ⟨rfl, rfl, rfl, rfl, ?_, ?_⟩
  · show test ier uartIerThri = test p.ier uartIerThri
    rcases hier with rfl | rfl
    · exact test_clear_of_disjoint (by decide)
    · rw [test_or_of_disjoint (by decide), test_clear_of_disjoint (by decide)]
  · show test flags asyncInitialized = test p.flags asyncInitialized
    rcases hflags with rfl | rfl
    · exact test_clear_of_disjoint (by decide)
    · exact test_or_of_disjoint (by decide)

theorem enableCts_same (p : Port) : SameTx p (enableCts (clearCts p)) := by
  refine ⟨rfl, rfl, rfl, rfl, ?_, test_or_of_disjoint (by decide)⟩
  show test (p.ier &&& ~~~uartIerMsi ||| uartIerMsi) uartIerThri = test p.ier uartIerThri
  rw [test_or_of_disjoint (by decide), test_clear_of_disjoint (by decide)]

/-- Taking CTS over keeps the invariant. -/
theorem stallInv_takeCts {p : Port} (h : StallInv p) : StallInv (takeCts p) := by
  have hread : SameTx p p.inbMsr.2 := ⟨rfl, rfl, rfl, rfl, rfl, rfl⟩
  refine ⟨?_, ctsChange_stallFree (h.congr hread).free p.uart.msr⟩
  obtain ⟨ev, ier, uier, heq⟩ := takeCts_eq p
  rw [heq]
  exact h.initialized

theorem stallInv_changeSpeedCts {p : Port} (h : StallInv p) (cflag : Word) :
    StallInv (changeSpeedCts p cflag) := by
  by_cases hfree : test cflag crtscts = false ∨ p.autoCts = true
  · exact h.congr (changeSpeedCts_same hfree)
  · obtain ⟨hc, ha⟩ := not_or.mp hfree
    rw [changeSpeedCts_held (by simpa using hc) (by simpa using ha)]
    exact (stallInv_takeCts (h.congr (enableCts_same p))).congr ⟨rfl, rfl, rfl, rfl, rfl, rfl⟩

theorem changeSpeedBaud_same {HZ : Int} {p q : Port} (h : changeSpeedBaud HZ p = .ok q) :
    SameTx p q ∧ q.tty = p.tty := by
  obtain ⟨rate, mcr, umcr, fcr, dll, dlm, must, heq⟩ := changeSpeedBaud_frame h
  rw [heq]
  exact ⟨⟨rfl, rfl, rfl, rfl, rfl, rfl⟩, rfl⟩

theorem setMustFifo_same (p : Port) : SameTx p (setMustFifo p) :=
  ⟨rfl, rfl, rfl, rfl, rfl, rfl⟩

theorem stallInv_changeSpeed {HZ : Int} {p q : Port} (h : StallInv p)
    (hq : mxserChangeSpeed HZ p = .ok q) : StallInv q := by
  rcases mxserChangeSpeed_ok hq with ⟨-, rfl⟩ | ⟨-, -, r, hr, rfl⟩
  · exact h
  · have hr' := h.congr (changeSpeedBaud_same hr).1
    exact (stallInv_changeSpeedCts (hr'.congr (setMustFifo_same r)) _).congr
      (changeSpeedLine_same r)

/-- On a chip that looks after CTS a change of speed makes no difference. -/
theorem changeSpeed_same {HZ : Int} {p q : Port} (ha : p.autoCts = true)
    (hq : mxserChangeSpeed HZ p = .ok q) : SameTx p q := by
  rcases mxserChangeSpeed_ok hq with ⟨-, rfl⟩ | ⟨-, -, r, hr, rfl⟩
  · exact ⟨rfl, rfl, rfl, rfl, rfl, rfl⟩
  · have hsame := (changeSpeedBaud_same hr).1
    have hcts : SameTx (setMustFifo r)
        (changeSpeedCts (setMustFifo r) r.tty.termios.cCflag) :=
      changeSpeedCts_same (.inr (hsame.autoCts.trans ha))
    exact ((hsame.trans (setMustFifo_same r)).trans hcts).trans (changeSpeedLine_same r)

theorem stallInv_startAfterTermios {p : Port} (h : StallInv p) (old : Termios)
    (changed : Bool) : StallInv (startAfterTermios p old changed) := by
  have hfirst : StallInv
      (if (changed && test old.cCflag crtscts && !test p.tty.termios.cCflag crtscts) = true then
        mxserStart { p with tty := { p.tty with hwStopped := false } } else p) := by
    split
    · exact stallInv_start h.initialized
    · exact h
  show StallInv (if (test old.cIflag ixon && !test p.tty.termios.cIflag ixon) = true then _ else _)
  split
  · exact stallInv_start hfirst.initialized
  · exact hfirst

theorem stallInv_setTermios {HZ : Int} {p q : Port} (h : StallInv p) (old : Termios)
    (hq : mxserSetTermios HZ p old = .ok q) : StallInv q := by
  simp only [mxserSetTermios] at hq
  obtain ⟨r, hr, hq⟩ := bind_ok_iff.mp hq
  cases hq
  apply stallInv_startAfterTermios
  split at hr
  · exact stallInv_changeSpeed h hr
  · cases hr
    exact h

/-! ## `TIOCSSERIAL` -/

/-- A 16550A is declared while `hw_stopped` holds a plain UART with bytes in
the ring and the interrupt off. -/
structure DeclaredWhileHeld (p : Port) (new : SerialStruct) (admin : Bool) : Prop where
  reached : p.tty.ioError = false
  accepted : ¬ SerialInfoRefused p new admin
  completes : SerialInfoDivides p new admin → new.customDivisor ≠ 0
  type : new.type = port16550A
  plain : p.autoCts = false
  held : p.tty.hwStopped = true
  off : p.thri = false
  queued : 0 < p.ring.cnt
  page : p.ring.buf.isSome = true
  running : p.tty.stopped = false

theorem SerialInfoSet.same {p q : Port} (h : SerialInfoSet p q) : SameTx p q := by
  obtain ⟨flags, opens, low, custom, rfl, hflags⟩ := h
  exact ⟨rfl, rfl, rfl, rfl, rfl, hflags⟩

/-- A new type changes who looks after CTS, and nothing else here. -/
theorem declared_autoCts {p q : Port} (hset : SerialInfoSet p q) (type : Int) :
    (processTxrxFifo { q with type := type }).autoCts
      = (type == port16550A || p.isMoxaMustChipFlag != 0) := by
  obtain ⟨flags, opens, low, custom, rfl, -⟩ := hset
  rfl

theorem stallInv_declare {p q : Port} (h : StallInv p) (hset : SerialInfoSet p q)
    {type : Int} (hno : type = port16550A → p.autoCts = false → p.tty.hwStopped = true →
      p.thri = false → 0 < p.ring.cnt → p.ring.buf.isSome = true → p.tty.stopped = false → False) :
    StallInv (processTxrxFifo { q with type := type }) := by
  have hsame := hset.same
  refine ⟨hsame.initialized.trans h.initialized, ?_⟩
  intro hcnt hbuf hstop hfree
  show q.thri = true
  rw [hsame.thri]
  have hcnt' : 0 < p.ring.cnt := by rw [← hsame.ring]; exact hcnt
  have hbuf' : p.ring.buf.isSome = true := by rw [← hsame.ring]; exact hbuf
  have hstop' : p.tty.stopped = false := by rw [← hsame.stopped]; exact hstop
  by_contra hoff
  -- without the interrupt the old type held the bytes, and the new one does not
  have hheld : p.tty.hwStopped = true ∧ p.autoCts = false := by
    by_contra hnot
    exact hoff (h.free hcnt' hbuf' hstop' hnot)
  have hauto : (processTxrxFifo { q with type := type }).autoCts = true := by
    by_contra hplain
    exact hfree ⟨hsame.hwStopped.trans hheld.1, by simpa using hplain⟩
  rw [declared_autoCts hset] at hauto
  have hchip : (p.isMoxaMustChipFlag != 0) = false := (Bool.or_eq_false_iff.mp hheld.2).2
  rw [hchip, Bool.or_false] at hauto
  exact hno (by simpa using hauto) hheld.2 hheld.1 (by simpa using hoff) hcnt' hbuf' hstop'

theorem stallInv_tiocsserial {HZ : Int} {p q : Port} {new : SerialStruct} {admin : Bool}
    {page : Option Page} {lsr : Byte} {e : Option Errno} (h : StallInv p)
    (hno : ¬ DeclaredWhileHeld p new admin)
    (hq : tiocsserial HZ p new admin page lsr = .ok (e, q)) : StallInv q := by
  simp only [tiocsserial] at hq
  by_cases herr : p.tty.ioError = true
  · rw [if_pos herr] at hq
    cases hq
    exact h
  · rw [if_neg herr] at hq
    rcases mxserSetSerialInfo_cases HZ p new admin page lsr with
      ⟨-, e', he⟩ | ⟨-, -, -, he⟩ | ⟨hacc, hdiv, r, hset, he⟩
    · rw [he] at hq
      cases hq
      exact h
    · rw [he] at hq
      cases hq
    · have hdeclared : StallInv (processTxrxFifo { r with type := new.type }) :=
        stallInv_declare h hset fun htype ha hs hoff hcnt hbuf hstop =>
          hno ⟨by simpa using herr, hacc, hdiv, htype, ha, hs, hoff, hcnt, hbuf, hstop⟩
      obtain ⟨q', hq', hcase⟩ := applySerialInfo_initialized HZ
        (hset.same.initialized.trans h.initialized) new.type (p.flags &&& asyncSpdMask) page lsr
        admin
      rw [he, hq'] at hq
      cases hq
      rcases hcase with rfl | hspeed
      · exact hdeclared
      · exact stallInv_changeSpeed hdeclared hspeed

/-- Declared while held, the bytes are stuck: on a 16550A nothing that the call
still does enables the interrupt. -/
theorem tiocsserial_stalls (HZ : Int) {p : Port} {new : SerialStruct} {admin : Bool}
    (page : Option Page) (lsr : Byte) (h : StallInv p) (hd : DeclaredWhileHeld p new admin) :
    ∃ q, tiocsserial HZ p new admin page lsr = .ok (none, q) ∧ ¬ StallFree q := by
  have herr : ¬ p.tty.ioError = true := by simp [hd.reached]
  rcases mxserSetSerialInfo_cases HZ p new admin page lsr with
    ⟨hrefused, -⟩ | ⟨-, hdiv, hzero, -⟩ | ⟨-, -, r, hset, he⟩
  · exact absurd hrefused hd.accepted
  · exact absurd hzero (hd.completes hdiv)
  · have hsame := hset.same
    obtain ⟨q, hq, hcase⟩ := applySerialInfo_initialized HZ
      (hsame.initialized.trans h.initialized) new.type (p.flags &&& asyncSpdMask) page lsr admin
    refine ⟨q, by rw [tiocsserial, if_neg herr, he, hq], ?_⟩
    have hauto : (processTxrxFifo { r with type := new.type }).autoCts = true := by
      rw [declared_autoCts hset, hd.type]
      rfl
    -- the hold no longer counts as one, and the interrupt is still off
    have hstuck : ¬ StallFree (processTxrxFifo { r with type := new.type }) := by
      intro hfree
      have hcnt : 0 < r.ring.cnt := by rw [hsame.ring]; exact hd.queued
      have hbuf : r.ring.buf.isSome = true := by rw [hsame.ring]; exact hd.page
      have hstop : r.tty.stopped = false := hsame.stopped.trans hd.running
      have hon : r.thri = true := hfree hcnt hbuf hstop (by simp [hauto])
      rw [hsame.thri, hd.off] at hon
      cases hon
    rcases hcase with rfl | hspeed
    · exact hstuck
    · rw [(changeSpeed_same hauto hspeed).stallFree_iff]
      exact hstuck

/-! ## Whole runs -/

inductive StallOp where
  | write (buf : List Byte)
  | putChar (ch : Byte)
  | stop
  | start
  | transmitChars
  | checkModemStatus (status : Byte)
  | setTermios (new : Termios)
  | changeSpeed
  | tiocsserial (new : SerialStruct) (admin : Bool) (page : Option Page) (lsr : Byte)

/-- The tty core sets `tty->stopped` before it calls `mxser_stop` and clears it
before `mxser_start`, and it changes `tty->termios` before `mxser_set_termios`. -/
def stallStep (HZ : Int) (p : Port) : StallOp → Except Fault Port
  | .write buf => .ok (mxserWrite p buf).2
  | .putChar ch => .ok (mxserPutChar p ch).2
  | .stop => .ok (mxserStop { p with tty := { p.tty with stopped := true } })
  | .start => .ok (mxserStart { p with tty := { p.tty with stopped := false } })
  | .transmitChars => .ok (mxserTransmitChars p)
  | .checkModemStatus status => .ok (mxserCheckModemStatus p status)
  | .setTermios new =>
      mxserSetTermios HZ { p with tty := { p.tty with termios := new } } p.tty.termios
  | .changeSpeed => mxserChangeSpeed HZ p
  | .tiocsserial new admin page lsr => do
      let r ← tiocsserial HZ p new admin page lsr
      return r.2

/-- The step does not declare a 16550A over held bytes. -/
def KeepsType (p : Port) (op : StallOp) : Prop :=
  ∀ new admin page lsr, op = .tiocsserial new admin page lsr → ¬ DeclaredWhileHeld p new admin

theorem stallInv_step {HZ : Int} {p q : Port} {op : StallOp} (h : StallInv p)
    (hop : KeepsType p op) (hstep : stallStep HZ p op = .ok q) : StallInv q := by
  cases op with
  | write buf =>
      cases hstep
      exact stallInv_write h buf
  | putChar ch =>
      cases hstep
      exact stallInv_putChar h ch
  | stop =>
      cases hstep
      obtain ⟨htty, hinit⟩ := mxserStop_frame { p with tty := { p.tty with stopped := true } }
      exact ⟨hinit.trans h.initialized, stallFree_of_stopped (by rw [htty])⟩
  | start =>
      cases hstep
      exact stallInv_start h.initialized
  | transmitChars =>
      cases hstep
      exact stallInv_transmitChars h
  | checkModemStatus status =>
      cases hstep
      exact stallInv_checkModemStatus h status
  | setTermios new =>
      have hnew : StallInv { p with tty := { p.tty with termios := new } } :=
        h.congr ⟨rfl, rfl, rfl, rfl, rfl, rfl⟩
      exact stallInv_setTermios hnew _ hstep
  | changeSpeed => exact stallInv_changeSpeed h hstep
  | tiocsserial new admin page lsr =>
      obtain ⟨⟨e, r⟩, hr, hq⟩ := bind_ok_iff.mp hstep
      cases hq
      exact stallInv_tiocsserial h (hop new admin page lsr rfl) hr

theorem stall_bad_step {HZ : Int} {p : Port} {op : StallOp} (h : StallInv p)
    (hop : ¬ KeepsType p op) : ∃ q, stallStep HZ p op = .ok q ∧ ¬ StallFree q := by
  simp only [KeepsType, not_forall, not_not] at hop
  obtain ⟨new, admin, page, lsr, rfl, hd⟩ := hop
  obtain ⟨q, hq, hstuck⟩ := tiocsserial_stalls HZ page lsr h hd
  exact ⟨q, bind_ok_iff.mpr ⟨_, hq, rfl⟩, hstuck⟩

theorem Started.stallInv {p : Port} (hp : Started p) : StallInv p := by
  obtain ⟨-, -, -, hcnt⟩ := hp.ring
  obtain ⟨p₀, page, heq⟩ := hp.eq
  refine ⟨by rw [heq]; exact startupUart_initialized _, ?_⟩
  intro hpos _ _ _
  omega

/-- **Queued bytes always have the transmit interrupt on, in exactly these
runs.** After a start-up the property holds in every state if and only if no
`TIOCSSERIAL` declares a plain UART a 16550A while `hw_stopped` holds queued
bytes with the interrupt off. -/
theorem no_transmit_stall_iff {HZ : Int} {p : Port} (hp : Started p) (ops : List StallOp) :
    Always (stallStep HZ) StallFree p ops ↔ Guarded (stallStep HZ) KeepsType p ops := by
  apply always_iff_guarded (J := StallInv)
  · exact fun q hq => hq.free
  · exact fun q op t hq hop ht => stallInv_step hq hop ht
  · exact fun q op hq hop => stall_bad_step hq hop
  · exact hp.stallInv

/-- A write, a loss of CTS and its return on a plain UART. -/
theorem no_transmit_stall_iff_run :
    Always (stallStep 100) StallFree (c104Started port16450 (c104Termios crtscts))
        [.changeSpeed, .write [0x41], .checkModemStatus 0, .checkModemStatus uartMsrCts] ↔
      Guarded (stallStep 100) KeepsType (c104Started port16450 (c104Termios crtscts))
        [.changeSpeed, .write [0x41], .checkModemStatus 0, .checkModemStatus uartMsrCts] :=
  no_transmit_stall_iff (c104Started_started (by decide) (c104Termios crtscts)) _

/-- CTS is low when `A` is written to a plain UART, and the UART is declared a
16550A: CTS flow control is now the chip's, and nothing ever sends `A`. -/
theorem declare_16550A_stalls :
    ∃ t, Started (c104Started port16450 (c104Termios crtscts)) ∧
      run (stallStep 100) (c104Started port16450 (c104Termios crtscts))
        [.changeSpeed, .checkModemStatus 0, .write [0x41],
          .tiocsserial ⟨port16550A, 0x180, 5, asyncShareIrq, 921600, 50, 3000, 14745600⟩ true
            none 0] = .ok t ∧
      ¬ StallFree t := by
  refine ⟨_, c104Started_started (by decide) (c104Termios crtscts), rfl, fun hfree => ?_⟩
  exact absurd (hfree (by decide) (by decide) (by decide) (by decide)) (by decide)

end MoxaDrivers.Mxser

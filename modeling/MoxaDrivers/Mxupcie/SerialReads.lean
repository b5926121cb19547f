import MoxaDrivers.Lib.CInt
import MoxaDrivers.Lib.Machine
import MoxaDrivers.Mxupcie.RateSafety

/-!
# `TIOCGSERIAL`, `TIOCSSERIAL` and the received bytes

Both calls take `*info->base` for the address of the port. It is a read of the
register at offset 0, which gives the oldest received byte and removes it, or,
where there is none, some byte that is an argument here. `mx_set_serial_info`
compares `irq` first and reads only if that is right.
-/

namespace MoxaDrivers.Mxupcie

open MoxaDrivers.Bits MoxaDrivers.CInt MoxaDrivers.Mxser
open MoxaDrivers.Machine

/-- `MX_RX_FIFO_SIZE`. -/
def mxRxFifoSize : Nat := 128

/-- An open port with the bytes its UART has received, the oldest first, and
what `TIOCGSERIAL` returned if only the line has changed since. -/
structure Receiving where
  serial : SerialPort
  rx : List Byte
  held : Option SerialInfo

/-- A read of the register at offset 0: the low byte of the divisor latch while
`UART_LCR_DLAB` is set, else `UART_RX`. An empty receiver returns `stale`. -/
def readBase (u : Uart) (rx : List Byte) (stale : Byte) : Byte × List Byte :=
  if test u.lcr uartLcrDlab then (u.dll, rx)
  else
    match rx with
    | [] => (stale, [])
    | b :: rx => (b, rx)

/-- `mx_get_serial_info`; `rbr` is what the read of `*info->base` returns. -/
def mxGetSerialInfo (s : SerialPort) (rbr : Byte) : SerialInfo where
  type := s.port.type
  line := s.port.port
  port := rbr.toNat
  irq := s.port.irq
  flags := s.port.flags
  baudBase := s.port.rate.baudBase
  closeDelay := BitVec.ofInt 16 s.closeDelay
  closingWait := s.closingWait
  customDivisor := s.customDivisor
  hub6 := 0

/-- What `mx_set_serial_info` reads, and the bytes that are left. -/
def setRead (s : Receiving) (new : SerialStruct) (stale : Byte) : Byte × List Byte :=
  if s.serial.port.base = 0 ∨ new.irq ≠ s.serial.port.irq then (stale, s.rx)
  else readBase s.serial.port.uart s.rx stale

/-- The call comes to the part of `mx_startup` that clears the receiver. -/
def startsUp (s : SerialPort) (new : SerialStruct) (rbr : Byte) (admin : Bool)
    (page : Option Page) : Prop :=
  s.port.base ≠ 0 ∧ ¬ SerialInfoDenied s new rbr admin ∧ s.port.initialized = false ∧
    page.isSome ∧ new.type ≠ 0

instance (s : SerialPort) (new : SerialStruct) (rbr : Byte) (admin : Bool) (page : Option Page) :
    Decidable (startsUp s new rbr admin page) :=
  inferInstanceAs (Decidable (_ ∧ _))

/-- `mx_set_serial_info` with its read. -/
def setSerial (HZ : Int) (s : Receiving) (new : SerialStruct) (stale : Byte) (admin : Bool)
    (page : Option Page) (lsr : Byte) : Except Fault (Option Errno × Receiving) := do
  let read := setRead s new stale
  let r ← mxSetSerialInfo HZ s.serial new read.1 admin page lsr
  return (r.1, {
    serial := r.2
    rx := if startsUp s.serial new read.1 admin page then [] else read.2
    held := none })

/-! ## The operations -/

/-- What comes over the line, the receive interrupt, and requests. -/
inductive ReceiveOp where
  | arrive (b : Byte)
  /-- `mx_receive_chars` takes the oldest `n` bytes. -/
  | receiveChars (n : Nat)
  | setTermios (new : Termios)
  | smartioSet (speed : Int)
  | getSerial (stale : Byte)
  | setSerial (new : SerialStruct) (stale : Byte) (admin : Bool) (page : Option Page) (lsr : Byte)

/-- A byte that finds the receiver full is lost. -/
def receiveStep (HZ : Int) (s : Receiving) : ReceiveOp → Except Fault Receiving
  | .arrive b => .ok { s with rx := if s.rx.length < mxRxFifoSize then s.rx ++ [b] else s.rx }
  | .receiveChars n => .ok { s with rx := s.rx.drop n }
  | .setTermios new =>
      (rateOpStep HZ s.serial (.setTermios new)).map fun t => ⟨t, s.rx, none⟩
  | .smartioSet speed =>
      (rateOpStep HZ s.serial (.smartioSet speed)).map fun t => ⟨t, s.rx, none⟩
  | .getSerial stale =>
      let read := readBase s.serial.port.uart s.rx stale
      .ok ⟨s.serial, read.2, some (mxGetSerialInfo s.serial read.1)⟩
  | .setSerial new stale admin page lsr =>
      (setSerial HZ s new stale admin page lsr).map (·.2)

/-- What is asked of the two calls: no received byte goes, and what
`TIOCGSERIAL` has just returned is not refused. -/
def SerialHarmless (HZ : Int) (s : Receiving) : ReceiveOp → Prop
  | .getSerial stale => (readBase s.serial.port.uart s.rx stale).2 = s.rx
  | .setSerial new stale admin page lsr =>
      (setRead s new stale).2 = s.rx ∧
        ∀ r, setSerial HZ s new stale admin page lsr = .ok r → r.2.rx = s.rx ∧
          ∀ i, s.held = some i → new = i.toSerialStruct → r.1 ≠ some .eperm
  | _ => True

/-- `close_delay` fits in the structure. -/
def DelayFits (s : SerialPort) : Prop := 0 ≤ s.closeDelay ∧ s.closeDelay < 65536

/-- No byte is waiting when a call reads, and what is handed back meets the byte
again that it was made with. -/
def ReceiverQuiet (s : Receiving) : ReceiveOp → Prop
  | .getSerial _ => s.rx = []
  | .setSerial new stale admin _ _ =>
      (new.irq = s.serial.port.irq → s.rx = []) ∧
        ∀ i, s.held = some i → new = i.toSerialStruct →
          i.port = stale.toNat ∧ (admin = true ∨ DelayFits s.serial)
  | _ => True

/-! ## The register at offset 0 -/

/-- The UART is mapped, and its divisor latch is not in the way. -/
structure Mapped (p : Port) : Prop where
  base : p.base ≠ 0
  latch : test p.uart.lcr uartLcrDlab = false

theorem readBase_of_mapped {p : Port} (hp : Mapped p) (rx : List Byte) (stale : Byte) :
    readBase p.uart rx stale = (rx.headD stale, rx.tail) := by
  simp only [readBase, hp.latch, Bool.false_eq_true, if_false]
  cases rx with
  | nil => rfl
  | cons b rx => rfl

theorem tail_eq_self_iff {α : Type} {l : List α} : l.tail = l ↔ l = [] := by
  cases l with
  | nil => simp
  | cons a l => simp

theorem readBase_keeps_iff {p : Port} (hp : Mapped p) {rx : List Byte} {stale : Byte} :
    (readBase p.uart rx stale).2 = rx ↔ rx = [] := by
  rw [readBase_of_mapped hp]
  exact tail_eq_self_iff

theorem setRead_of_irq {s : Receiving} (hs : Mapped s.serial.port) {new : SerialStruct}
    (hirq : new.irq = s.serial.port.irq) (stale : Byte) :
    setRead s new stale = readBase s.serial.port.uart s.rx stale := by
  have hgo : ¬ (s.serial.port.base = 0 ∨ new.irq ≠ s.serial.port.irq) := by
    simp [hs.base, hirq]
  rw [setRead, if_neg hgo]

theorem setRead_keeps_iff {s : Receiving} (hs : Mapped s.serial.port) {new : SerialStruct}
    {stale : Byte} :
    (setRead s new stale).2 = s.rx ↔ (new.irq = s.serial.port.irq → s.rx = []) := by
  by_cases hirq : new.irq = s.serial.port.irq
  · rw [setRead_of_irq hs hirq, readBase_keeps_iff hs]
    simp [hirq]
  · rw [setRead, if_pos (.inr hirq)]
    simp [hirq]

/-! ## It stays as it is -/

theorem Mapped.congr {p q : Port} (h : Mapped p) (hbase : q.base = p.base)
    (hlcr : q.uart.lcr = p.uart.lcr) : Mapped q :=
  ⟨hbase ▸ h.base, by rw [hlcr]; exact h.latch⟩

theorem Mapped.withTty {p : Port} (h : Mapped p) (tty : TtyStruct) :
    Mapped { p with tty := tty } :=
  h.congr rfl rfl

/-- The line settings do not open the latch. -/
theorem lineControl_latch (cflag : Word) : test (lineControl cflag) uartLcrDlab = false := by
  have hif : ∀ (c : Prop) [Decidable c] {a b : Byte}, test a uartLcrDlab = false →
      test b uartLcrDlab = false → test (if c then a else b) uartLcrDlab = false := by
    intro c _ a b ha hb
    split
    · exact ha
    · exact hb
  have hsize := hif (cflag &&& csize = cs6) (a := 0x01) (by decide)
    (hif (cflag &&& csize = cs7) (a := 0x02) (by decide)
      (hif (cflag &&& csize = cs8) (a := 0x03) (b := 0x00) (by decide) (by decide)))
  simp only [lineControl, test_or]
  rw [hsize, hif _ (by decide) (by decide), hif _ (by decide) (by decide),
    hif _ (by decide) (by decide), hif _ (by decide) (by decide)]
  rfl

theorem mapped_changeSpeed {HZ : Int} {p q : Port} (hp : Mapped p)
    (h : mxChangeSpeed HZ p = .ok q) : Mapped q := by
  simp only [mxChangeSpeed] at h
  split at h
  · cases h
    exact hp
  · split at h
    · cases h
      exact hp
    · obtain ⟨r, hr, hq⟩ := bind_ok_iff.mp h
      cases hq
      obtain ⟨rate, mcr, u, rfl, -⟩ := mxSetBaud_frame hr
      obtain ⟨flags, ier, rs, is, u', hline, -, -⟩ :=
        changeSpeedLine_frame { p.setSpeed _ with rate := rate, mcr := mcr, uart := u }
      refine ⟨?_, lineControl_latch _⟩
      rw [hline]
      exact hp.base

theorem mapped_mxupcieStart {p : Port} (hp : Mapped p) : Mapped (mxupcieStart p) := by
  simp only [mxupcieStart]
  split
  · exact hp.congr rfl rfl
  · exact hp

theorem mapped_startAfterTermios {p : Port} (hp : Mapped p) (old : Termios) (changed : Bool) :
    Mapped (startAfterTermios p old changed) := by
  simp only [startAfterTermios]
  split
  · refine mapped_mxupcieStart (Mapped.withTty ?_ _)
    split
    · exact mapped_mxupcieStart (hp.withTty _)
    · exact hp
  · split
    · exact mapped_mxupcieStart (hp.withTty _)
    · exact hp

theorem mapped_startupUart {p : Port} (hp : p.base ≠ 0) : Mapped (startupUart p) := by
  refine ⟨?_, ?_⟩
  · rw [startupUart_base]
    exact hp
  · show test uartLcrWlen8 uartLcrDlab = false
    decide

theorem mapped_mxStartup {p : Port} (hp : Mapped p) (page : Option Page) (lsr : Byte)
    (admin : Bool) : Mapped (mxStartup p page lsr admin).2 := by
  rcases mxStartup_cases p page lsr admin with
    ⟨-, h⟩ | ⟨-, -, h⟩ | ⟨-, -, -, h⟩ | ⟨pg, -, -, -, -, -, h⟩ | ⟨pg, -, -, -, -, -, h⟩
  · rw [h]
    exact hp
  · rw [h]
    exact hp
  · rw [h]
    exact hp.congr rfl rfl
  · rw [h]
    split
    · exact hp.congr rfl rfl
    · exact hp.congr rfl rfl
  · rw [h]
    exact mapped_startupUart (p := startupPage p pg) hp.base

theorem Started.mapped {p : Port} (h : Started p) : Mapped p := by
  obtain ⟨p₀, page, hbase, rfl⟩ := h.eq
  rw [startupUart_base] at hbase
  exact mapped_startupUart hbase

/-! ## What `TIOCSSERIAL` returns -/

/-- The errors of the end of the call are those of `mx_startup`. -/
theorem applySerialInfo_ok {HZ : Int} {s : SerialPort} {type : Int} {oldSpd : Word}
    {page : Option Page} {lsr : Byte} {admin : Bool} {r : Option Errno × SerialPort}
    (hs : Mapped s.port) (h : applySerialInfo HZ s type oldSpd page lsr admin = .ok r) :
    r.1 ≠ some .eperm ∧ Mapped r.2.port := by
  have htype : Mapped (withType s type).port := hs.congr rfl rfl
  simp only [applySerialInfo] at h
  split at h
  · split at h
    · obtain ⟨q, hq, hr⟩ := bind_ok_iff.mp h
      cases hr
      exact ⟨by simp, mapped_changeSpeed htype hq⟩
    · cases h
      exact ⟨by simp, htype⟩
  · cases h
    refine ⟨?_, mapped_mxStartup htype page lsr admin⟩
    rcases mxStartup_cases (withType s type).port page lsr admin with
      ⟨-, h⟩ | ⟨-, -, h⟩ | ⟨-, -, -, h⟩ | ⟨pg, -, -, -, -, -, h⟩ | ⟨pg, -, -, -, -, -, h⟩
    · simp [h]
    · simp [h]
    · simp [h]
    · simp only [h]
      split
      · simp
      · simp
    · simp [h]

theorem adminSerialInfo_ok {HZ : Int} {s q : SerialPort} {new : SerialStruct}
    (hs : Mapped s.port) (h : adminSerialInfo HZ s new = .ok q) : Mapped q.port := by
  simp only [adminSerialInfo] at h
  split at h
  · obtain ⟨custom, -, hq⟩ := bind_ok_iff.mp h
    cases hq
    exact hs.congr rfl rfl
  · cases h
    exact hs.congr rfl rfl

/-- **`-EPERM` is for the calls that are denied**, and no other. -/
theorem mxSetSerialInfo_ok {HZ : Int} {s : SerialPort} {new : SerialStruct} {rbr : Byte}
    {admin : Bool} {page : Option Page} {lsr : Byte} {r : Option Errno × SerialPort}
    (hs : Mapped s.port) (h : mxSetSerialInfo HZ s new rbr admin page lsr = .ok r) :
    (r.1 = some .eperm ↔ SerialInfoDenied s new rbr admin) ∧ Mapped r.2.port := by
  simp only [mxSetSerialInfo] at h
  rw [if_neg hs.base] at h
  split at h
  · rename_i hdenied
    cases h
    exact ⟨by simp [hdenied], hs⟩
  · rename_i hok
    obtain ⟨q, hq, happly⟩ := bind_ok_iff.mp h
    have hmapped : Mapped q.port := by
      split at hq
      · exact adminSerialInfo_ok hs hq
      · cases hq
        exact hs.congr rfl rfl
    obtain ⟨hperm, hlast⟩ := applySerialInfo_ok hmapped happly
    exact ⟨by simp [hok, hperm], hlast⟩

/-- What `TIOCGSERIAL` returned is denied where the register gives another byte,
and to an unprivileged caller where `close_delay` did not fit. -/
theorem returned_denied_iff {s : SerialPort} {held rbr : Byte} {admin : Bool} :
    SerialInfoDenied s (mxGetSerialInfo s held).toSerialStruct rbr admin ↔
      held ≠ rbr ∨ (admin = false ∧ ¬ DelayFits s) := by
  have hport : (mxGetSerialInfo s held).port ≠ rbr.toNat ↔ held ≠ rbr :=
    not_congr BitVec.toNat_inj
  have hdelay : ((mxGetSerialInfo s held).closeDelay.toNat : Int) ≠ s.closeDelay ↔
      ¬ DelayFits s := by
    have hlow : ((mxGetSerialInfo s held).closeDelay.toNat : Int) = s.closeDelay % 2 ^ 16 :=
      toNat_ofInt s.closeDelay
    rw [hlow, DelayFits]
    omega
  have hirq : (mxGetSerialInfo s held).irq = s.port.irq := rfl
  have hbaud : (mxGetSerialInfo s held).baudBase = s.port.rate.baudBase := rfl
  have hflags : (mxGetSerialInfo s held).flags = s.port.flags := rfl
  rw [SerialInfoDenied, hport, hdelay, hirq, hbaud, hflags]
  simp

/-- It makes no change of the flags, and no division. -/
theorem returned_taken (HZ : Int) (s : SerialPort) (held : Byte) (admin : Bool) :
    ∃ q, (if admin then adminSerialInfo HZ s (mxGetSerialInfo s held).toSerialStruct
        else .ok (userSerialInfo s (mxGetSerialInfo s held).toSerialStruct)) = .ok q ∧
      q.port.flags = s.port.flags := by
  cases admin with
  | false => exact ⟨_, rfl, replace_self asyncUsrMask s.port.flags⟩
  | true =>
      have hsame : ¬ ((mxGetSerialInfo s held).baudBase ≠ s.port.rate.baudBase ∨
          (mxGetSerialInfo s held).customDivisor ≠ s.customDivisor) := by
        rintro (h | h)
        · exact h rfl
        · exact h rfl
      simp only [if_true, adminSerialInfo]
      rw [if_neg hsame]
      exact ⟨_, rfl, replace_self asyncFlags s.port.flags⟩

/-- The call with it completes. -/
theorem mxSetSerialInfo_returned (HZ : Int) (s : SerialPort) (held rbr : Byte) (admin : Bool)
    (page : Option Page) (lsr : Byte) :
    ∃ r, mxSetSerialInfo HZ s (mxGetSerialInfo s held).toSerialStruct rbr admin page lsr
      = .ok r := by
  simp only [mxSetSerialInfo]
  split
  · exact ⟨_, rfl⟩
  · split
    · exact ⟨_, rfl⟩
    · obtain ⟨q, hq, hflags⟩ := returned_taken HZ s held admin
      have hspd : ¬ s.port.flags &&& asyncSpdMask ≠
          (withType q (mxGetSerialInfo s held).type).port.flags &&& asyncSpdMask := by
        rw [not_not]
        exact congrArg (· &&& asyncSpdMask) hflags.symm
      rw [hq]
      show ∃ r, applySerialInfo HZ q (mxGetSerialInfo s held).type
        (s.port.flags &&& asyncSpdMask) page lsr admin = .ok r
      simp only [applySerialInfo, if_neg hspd]
      split
      · exact ⟨_, rfl⟩
      · exact ⟨_, rfl⟩

/-! ## One operation -/

structure ReceivingInv (s : Receiving) : Prop where
  mapped : Mapped s.serial.port
  held : ∀ i, s.held = some i → ∃ rbr, i = mxGetSerialInfo s.serial rbr

theorem setSerial_ok {HZ : Int} {s : Receiving} {new : SerialStruct} {stale : Byte} {admin : Bool}
    {page : Option Page} {lsr : Byte} {r : Option Errno × Receiving} (hs : Mapped s.serial.port)
    (h : setSerial HZ s new stale admin page lsr = .ok r) :
    (r.1 = some .eperm ↔ SerialInfoDenied s.serial new (setRead s new stale).1 admin) ∧
      r.2.held = none ∧ Mapped r.2.serial.port ∧
      r.2.rx = if startsUp s.serial new (setRead s new stale).1 admin page then []
        else (setRead s new stale).2 := by
  obtain ⟨t, ht, hr⟩ := bind_ok_iff.mp h
  cases hr
  obtain ⟨hperm, hmapped⟩ := mxSetSerialInfo_ok hs ht
  exact ⟨hperm, rfl, hmapped, rfl⟩

/-- A request for a rate leaves the register at offset 0 what it is. -/
theorem mapped_rateOp {HZ : Int} {s t : SerialPort} {op : RateOp} (hs : Mapped s.port)
    (h : rateOpStep HZ s op = .ok t) : Mapped t.port := by
  cases op with
  | setTermios new =>
      obtain ⟨p, hp, ht⟩ := bind_ok_iff.mp h
      cases ht
      obtain ⟨q, hq, hlast⟩ := bind_ok_iff.mp hp
      cases hlast
      apply mapped_startAfterTermios
      split at hq
      · exact mapped_changeSpeed (p := withTermios s.port new) (hs.congr rfl rfl) hq
      · cases hq
        exact hs.congr rfl rfl
  | smartioSet speed =>
      obtain ⟨r, hr, ht⟩ := bind_ok_iff.mp h
      cases ht
      simp only [smartioSetSpecialBaudRate] at hr
      split at hr
      · cases hr
        exact hs
      · split at hr
        · cases hr
          exact hs
        · obtain ⟨q, hq, hlast⟩ := bind_ok_iff.mp hr
          cases hlast
          exact mapped_changeSpeed (p := requested s.port speed) (hs.congr rfl rfl) hq
  | tiocsserial new rbr admin page lsr =>
      obtain ⟨r, hr, ht⟩ := bind_ok_iff.mp h
      cases ht
      simp only [Mxupcie.tiocsserial] at hr
      split at hr
      · cases hr
        exact hs
      · exact (mxSetSerialInfo_ok hs hr).2

theorem rate_receivingInv {HZ : Int} {s t : Receiving} {op : RateOp} (hs : ReceivingInv s)
    (h : (rateOpStep HZ s.serial op).map (fun u => (⟨u, s.rx, none⟩ : Receiving)) = .ok t) :
    ReceivingInv t := by
  cases hu : rateOpStep HZ s.serial op with
  | error e =>
      rw [hu] at h
      cases h
  | ok u =>
      rw [hu] at h
      cases h
      exact ⟨mapped_rateOp hs.mapped hu, nofun⟩

/-- **Every operation** keeps the invariant. -/
theorem receiveStep_inv {HZ : Int} {s t : Receiving} {op : ReceiveOp} (hs : ReceivingInv s)
    (h : receiveStep HZ s op = .ok t) : ReceivingInv t := by
  cases op with
  | arrive b =>
      cases h
      exact ⟨hs.mapped, hs.held⟩
  | receiveChars n =>
      cases h
      exact ⟨hs.mapped, hs.held⟩
  | setTermios new => exact rate_receivingInv hs h
  | smartioSet speed => exact rate_receivingInv hs h
  | getSerial stale =>
      cases h
      refine ⟨hs.mapped, fun i hi => ?_⟩
      cases hi
      exact ⟨_, rfl⟩
  | setSerial new stale admin page lsr =>
      cases hr : setSerial HZ s new stale admin page lsr with
      | error e =>
          simp only [receiveStep, hr] at h
          cases h
      | ok r =>
          simp only [receiveStep, hr] at h
          cases h
          obtain ⟨-, hheld, hmapped, -⟩ := setSerial_ok hs.mapped hr
          exact ⟨hmapped, fun i hi => absurd (hheld.symm.trans hi) nofun⟩

/-- With what `TIOCGSERIAL` returned and no byte waiting, the call is denied to
exactly those for whom the bytes or the delay differ. -/
theorem setSerial_returned (HZ : Int) {s : Receiving} (held stale : Byte) (admin : Bool)
    (page : Option Page) (lsr : Byte) (hs : Mapped s.serial.port) (hrx : s.rx = []) :
    ∃ r, setSerial HZ s (mxGetSerialInfo s.serial held).toSerialStruct stale admin page lsr
        = .ok r ∧
      (r.1 ≠ some .eperm ↔ held = stale ∧ (admin = true ∨ DelayFits s.serial)) := by
  have hread : (setRead s (mxGetSerialInfo s.serial held).toSerialStruct stale).1 = stale := by
    rw [setRead_of_irq hs rfl, readBase_of_mapped hs, hrx]
    rfl
  obtain ⟨t, ht⟩ := mxSetSerialInfo_returned HZ s.serial held
    (setRead s (mxGetSerialInfo s.serial held).toSerialStruct stale).1 admin page lsr
  have hcall : ∃ r, setSerial HZ s (mxGetSerialInfo s.serial held).toSerialStruct stale admin
      page lsr = .ok r := by
    simp only [setSerial, ht]
    exact ⟨_, rfl⟩
  obtain ⟨r, hr⟩ := hcall
  refine ⟨r, hr, ?_⟩
  rw [Ne, (setSerial_ok hs hr).1, hread, returned_denied_iff]
  cases admin with
  | true => simp
  | false => simp

/-- **One operation** is harmless exactly under the condition. -/
theorem serialHarmless_iff (HZ : Int) {s : Receiving} (hs : ReceivingInv s) (op : ReceiveOp) :
    SerialHarmless HZ s op ↔ ReceiverQuiet s op := by
  cases op with
  | getSerial stale => exact readBase_keeps_iff hs.mapped
  | setSerial new stale admin page lsr =>
      simp only [SerialHarmless, ReceiverQuiet, setRead_keeps_iff hs.mapped]
      apply and_congr_right
      intro hquiet
      constructor
      · intro hall i hi hnew
        obtain ⟨held, rfl⟩ := hs.held i hi
        subst hnew
        obtain ⟨r, hr, hperm⟩ := setSerial_returned HZ held stale admin page lsr
          hs.mapped (hquiet rfl)
        obtain ⟨rfl, hfits⟩ := hperm.mp ((hall r hr).2 _ hi rfl)
        exact ⟨rfl, hfits⟩
      · intro hheld r hr
        obtain ⟨-, -, -, hrx⟩ := setSerial_ok hs.mapped hr
        constructor
        · rw [hrx]
          split
          · rename_i hup
            -- what passed the checks has the right `irq`
            have hirq : new.irq = s.serial.port.irq := by
              by_contra hne
              exact hup.2.1 (.inl hne)
            exact (hquiet hirq).symm
          · exact (setRead_keeps_iff hs.mapped).mpr hquiet
        · intro i hi hnew
          obtain ⟨held, rfl⟩ := hs.held i hi
          subst hnew
          obtain ⟨r', hr', hperm⟩ := setSerial_returned HZ held stale admin page lsr
            hs.mapped (hquiet rfl)
          cases hr'.symm.trans hr
          obtain ⟨hport, hfits⟩ := hheld _ hi rfl
          exact hperm.mpr ⟨BitVec.toNat_inj.mp hport, hfits⟩
  | _ => exact Iff.rfl

/-! ## Whole runs -/

/-- **When the two calls touch nothing.** On a port that is up, whatever arrives
and is taken by the interrupt in between and whatever is requested: no
`TIOCGSERIAL` or `TIOCSSERIAL` removes a received byte, and none is refused what
the last `TIOCGSERIAL` returned, if and only if no byte is waiting at any of
their reads, an empty receiver gives the byte again that the returned structure
was made with, and an unprivileged caller is not given a `close_delay` that was
cut down to 16 bits. -/
theorem serial_calls_harmless_iff (HZ : Int) {s : SerialPort} (hs : Started s.port)
    (rx : List Byte) (ops : List ReceiveOp) :
    Guarded (receiveStep HZ) (SerialHarmless HZ) ⟨s, rx, none⟩ ops ↔
      Guarded (receiveStep HZ) ReceiverQuiet ⟨s, rx, none⟩ ops := by
  have hstart : ReceivingInv ⟨s, rx, none⟩ := by
    refine ⟨hs.mapped, ?_⟩
    intro i hi
    cases hi
  exact guarded_congr (J := ReceivingInv) (fun _ _ _ hs _ h => receiveStep_inv hs h)
    (fun _ op hs => serialHarmless_iff HZ hs op) hstart

/-- A port of a CP-102E on which nothing is received between the calls. -/
theorem serial_calls_harmless_idle :
    Guarded (receiveStep 100) (SerialHarmless 100)
      ⟨serialInit 100 (cp102Started (cp102Termios 0)), [], none⟩
      [.arrive 0x41, .receiveChars 1, .getSerial 0,
        .setSerial (mxGetSerialInfo (serialInit 100 (cp102Started (cp102Termios 0))) 0).toSerialStruct
          0 false none 0x60] := by
  refine (serial_calls_harmless_iff 100
    (s := serialInit 100 (cp102Started (cp102Termios 0))) (cp102Started_started _) [] _).mpr ?_
  refine guarded_cons.mpr ⟨trivial, fun t ht => ?_⟩
  cases ht
  refine guarded_cons.mpr ⟨trivial, fun t ht => ?_⟩
  cases ht
  refine guarded_cons.mpr ⟨rfl, fun t ht => ?_⟩
  cases ht
  refine guarded_cons.mpr ⟨⟨fun _ => rfl, fun i hi _ => ?_⟩, fun t _ => guarded_nil⟩
  cases hi
  exact ⟨by decide, .inr ⟨by decide, by decide⟩⟩

/-- A byte arrives after `TIOCGSERIAL`: the call with what that returned takes it
and is refused. -/
theorem serial_call_takes_byte :
    ∃ s i t, run (receiveStep 100) ⟨serialInit 100 (cp102Started (cp102Termios 0)), [], none⟩
        [.getSerial 0, .arrive 0x41] = .ok s ∧
      s.rx = [0x41] ∧ s.held = some i ∧
      setSerial 100 s i.toSerialStruct 0 true none 0x60 = .ok (some .eperm, t) ∧ t.rx = [] :=
  ⟨_, _, _, rfl, by decide, rfl, rfl, by decide⟩

end MoxaDrivers.Mxupcie

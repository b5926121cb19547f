import MoxaDrivers.Lib.Machine
import MoxaDrivers.Mxser.OpenClose
import MoxaDrivers.Mxser.SerialInfo

/-!
# `TIOCSSERIAL` by an unprivileged caller

`mxser_set_serial_info` asks for `CAP_SYS_ADMIN` before it changes anything but
the `ASYNC_USR_MASK` flags, and then takes over `type` from whoever calls; the
FIFO depths follow from it. The runs here are those of a line with its files,
every operation of the driver on its port, and `TIOCSSERIAL` from any open file.
-/

namespace MoxaDrivers.Mxser

open MoxaDrivers.Bits MoxaDrivers.Machine

/-! ## The operations -/

/-- The operations on a port other than opening, closing and `TIOCSSERIAL`. -/
inductive PortOp where
  | write (buf : List Byte)
  | putChar (ch : Byte)
  | flushChars
  | flushBuffer (iir : Byte)
  | setStopped (stopped : Bool)
  | stop
  | start
  | stoprx
  | startrx
  | transmitChars
  | setTermios (new : Termios)
  | specialBaudRate (speed : Int)
  | setBaud (baud : Int)
  | setBaudMethod (method : Int)
  | tiocmset (set clear : Word)
  | modem (op : ModemOp)

def portStep (HZ : Int) (p : Port) : PortOp → Except Fault Port
  | .write buf => .ok (mxserWrite p buf).2
  | .putChar ch => .ok (mxserPutChar p ch).2
  | .flushChars => .ok (mxserFlushChars p)
  | .flushBuffer iir => .ok (mxserFlushBuffer p iir)
  | .setStopped stopped => .ok { p with tty := { p.tty with stopped := stopped } }
  | .stop => .ok (mxserStop p)
  | .start => .ok (mxserStart p)
  | .stoprx => .ok (mxserStoprx p)
  | .startrx => .ok (mxserStartrx p)
  | .transmitChars => .ok (mxserTransmitChars p)
  | .setTermios new =>
      mxserSetTermios HZ { p with tty := { p.tty with termios := new } } p.tty.termios
  | .specialBaudRate speed => (smartioSetSpecialBaudRate HZ p speed).map (·.2)
  | .setBaud baud => mxserSetBaud HZ p baud
  | .setBaudMethod method => .ok { p with rate := { p.rate with setBaudMethod := method } }
  | .tiocmset set clear => .ok (mxserTiocmset p set clear).2
  | .modem op => .ok (op.apply p)

/-- A line with its files. -/
structure Served where
  opens : Opens
  /-- A privileged caller has changed the port by `TIOCSSERIAL`. -/
  byAdmin : Bool

def Served.start (p : Port) : Served := ⟨Opens.start p, false⟩

inductive SerialOp where
  | opens (op : OpenOp)
  | port (op : PortOp)
  | tiocsserial (i : Nat) (new : SerialStruct) (admin : Bool) (page : Option Page) (lsr : Byte)

/-- A file can make a request from where its open succeeded to its close or a
hangup. -/
def serialStep (HZ : Int) (s : Served) : SerialOp → Except Fault Served
  | .opens op => (openStep HZ s.opens op).map fun t => { s with opens := t }
  | .port op => (portStep HZ s.opens.port op).map fun p =>
      { s with opens := { s.opens with port := p } }
  | .tiocsserial i new admin page lsr =>
      match s.opens.handles[i]? with
      | some h =>
          if h.live then do
            let r ← tiocsserial HZ s.opens.port new admin page lsr
            return ⟨{ s.opens with port := r.2 }, s.byAdmin || (admin && r.1.isNone)⟩
          else .ok s
      | none => .ok s

/-! ## What an unprivileged call may do -/

/-- The user flags changed, and with them at most the line rate. -/
structure UserFlagsOnly (HZ : Int) (p q : Port) (new : SerialStruct) : Prop where
  type : q.type = p.type
  fifo : q.fifo = p.fifo
  opens : q.opens = p.opens
  custom : q.rate.customBaudRate = p.rate.customBaudRate
  same : new.flags &&& asyncSpdMask = p.flags &&& asyncSpdMask →
    q = { p with flags := (p.flags &&& ~~~asyncUsrMask) ||| (new.flags &&& asyncUsrMask) }
  rate : new.flags &&& asyncSpdMask ≠ p.flags &&& asyncSpdMask →
    mxserChangeSpeed HZ { p with
      flags := (p.flags &&& ~~~asyncUsrMask) ||| (new.flags &&& asyncUsrMask) } = .ok q

/-- An error and nothing changed, or success and the user flags. -/
def Confined (HZ : Int) (p : Port) (new : SerialStruct) (r : Option Errno × Port) : Prop :=
  (r.1 ≠ none ∧ r.2 = p) ∨ (r.1 = none ∧ UserFlagsOnly HZ p r.2 new)

/-- What each step is to do: an unprivileged `TIOCSSERIAL` is confined, and until
a privileged one a transmit interrupt writes at most `depth` bytes. -/
def SerialConfined (HZ depth : Int) (s : Served) (op : SerialOp) (t : Served) : Prop :=
  match op with
  | .tiocsserial i new false page lsr => ∀ h r, s.opens.handles[i]? = some h → h.live = true →
      tiocsserial HZ s.opens.port new false page lsr = .ok r → Confined HZ s.opens.port new r
  | .port .transmitChars => s.byAdmin = false →
      (t.opens.port.uart.tx.length : Int) ≤ s.opens.port.uart.tx.length + max 1 depth
  | _ => True

/-- An unprivileged `TIOCSSERIAL` is refused, or asks for the type the port has. -/
def KeepsOwnType (s : Served) (op : SerialOp) : Prop :=
  match op with
  | .tiocsserial i new false _ _ => ∀ h, s.opens.handles[i]? = some h → h.live = true →
      s.opens.port.tty.ioError = true ∨ SerialInfoRefused s.opens.port new false ∨
        new.type = s.opens.port.type
  | _ => True

/-! ## What stays through the operations -/

/-- The UART and the depths of its FIFO are the same. -/
structure SameUart (p q : Port) : Prop where
  type : q.type = p.type
  chip : q.isMoxaMustChipFlag = p.isMoxaMustChipFlag
  fifo : q.fifo = p.fifo

/-- And the port is up or down, and its tty fit for use, as before. -/
structure SameSetup (p q : Port) : Prop extends SameUart p q where
  initialized : q.initialized = p.initialized
  infoTty : q.infoTty = p.infoTty
  ioError : q.tty.ioError = p.tty.ioError

theorem SameUart.refl (p : Port) : SameUart p p := ⟨rfl, rfl, rfl⟩

theorem SameUart.trans {p q r : Port} (h : SameUart p q) (h' : SameUart q r) : SameUart p r :=
  ⟨h'.type.trans h.type, h'.chip.trans h.chip, h'.fifo.trans h.fifo⟩

theorem SameSetup.refl (p : Port) : SameSetup p p := ⟨.refl p, rfl, rfl, rfl⟩

theorem SameSetup.trans {p q r : Port} (h : SameSetup p q) (h' : SameSetup q r) :
    SameSetup p r where
  toSameUart := h.toSameUart.trans h'.toSameUart
  initialized := h'.initialized.trans h.initialized
  infoTty := h'.infoTty.trans h.infoTty
  ioError := h'.ioError.trans h.ioError

/-- An operation that touches none of it. -/
theorem sameSetup_frame {p q : Port} (huart : SameUart p q) (hflags : q.flags = p.flags)
    (htty : q.infoTty = p.infoTty) (herror : q.tty.ioError = p.tty.ioError) : SameSetup p q :=
  ⟨huart, Port.initialized_congr hflags, htty, herror⟩

/-- And with the same counts and delays. -/
structure SamePort (p q : Port) : Prop extends SameSetup p q where
  opens : q.opens = p.opens

theorem SamePort.refl (p : Port) : SamePort p p := ⟨.refl p, rfl⟩

theorem SamePort.trans {p q r : Port} (h : SamePort p q) (h' : SamePort q r) : SamePort p r :=
  ⟨h.toSameSetup.trans h'.toSameSetup, h'.opens.trans h.opens⟩

theorem samePort_frame {p q : Port} (huart : SameUart p q) (hflags : q.flags = p.flags)
    (htty : q.infoTty = p.infoTty) (herror : q.tty.ioError = p.tty.ioError)
    (hopens : q.opens = p.opens) : SamePort p q :=
  ⟨sameSetup_frame huart hflags htty herror, hopens⟩

theorem samePort_setBaud {HZ : Int} {p q : Port} {newspd : Int}
    (h : mxserSetBaud HZ p newspd = .ok q) : SamePort p q := by
  obtain ⟨rate, mcr, umcr, fcr, dll, dlm, must, rfl⟩ := mxserSetBaud_frame h
  exact samePort_frame ⟨rfl, rfl, rfl⟩ rfl rfl rfl rfl

theorem samePort_changeSpeed {HZ : Int} {p q : Port} (h : mxserChangeSpeed HZ p = .ok q) :
    SamePort p q := by
  have hinit := (mxserChangeSpeed_keeps h).2.2.2.2
  rcases mxserChangeSpeed_ok h with ⟨-, rfl⟩ | ⟨-, -, r, hr, rfl⟩
  · exact .refl q
  · obtain ⟨rate, rmcr, umcr, fcr, dll, dlm, must, rfl⟩ := changeSpeedBaud_frame hr
    obtain ⟨flags, ier, mcr, ev, hw, rs, is, uart, heq, -, -⟩ := changeSpeedLine_frame _
    rw [heq] at hinit ⊢
    exact ⟨⟨⟨rfl, rfl, rfl⟩, hinit, rfl, rfl⟩, rfl⟩

/-- A change of speed keeps the counts of the opens and `custom_baud_rate`. -/
theorem changeSpeed_custom {HZ : Int} {p q : Port} (h : mxserChangeSpeed HZ p = .ok q) :
    q.rate.customBaudRate = p.rate.customBaudRate := by
  have hbaud : ∀ {r : Port} {baud : Int}, mxserSetBaud HZ (p.setSpeed baud) baud = .ok r →
      r.rate.customBaudRate = p.rate.customBaudRate := by
    intro r baud hr
    rcases mxserSetBaud_ok hr with
      ⟨-, rfl⟩ | ⟨-, -, -, quot, timeout, -, ⟨-, rfl⟩ | ⟨-, enum, rfl⟩⟩
    · rfl
    · rfl
    · rfl
  rcases mxserChangeSpeed_ok h with ⟨-, rfl⟩ | ⟨-, -, r, hr, rfl⟩
  · rfl
  · rw [(changeSpeedLine_rate r).1]
    simp only [changeSpeedBaud] at hr
    split at hr
    · exact hbaud hr
    · cases hr
      rfl

theorem samePort_checkModemStatus (p : Port) (status : Byte) :
    SamePort p (mxserCheckModemStatus p status) := by
  obtain ⟨ev, ier, uier, heq⟩ := mxserCheckModemStatus_eq p status
  rw [heq]
  exact samePort_frame ⟨rfl, rfl, rfl⟩ rfl rfl rfl rfl

theorem samePort_transmitChars (p : Port) : SamePort p (mxserTransmitChars p) := by
  have hwake : ∀ q : Port, SamePort p q → SamePort p (wakeLow q) := by
    intro q hq
    simp only [wakeLow]
    split
    · exact hq.trans (samePort_frame ⟨rfl, rfl, rfl⟩ rfl rfl rfl rfl)
    · exact hq
  simp only [mxserTransmitChars]
  split
  · exact samePort_frame ⟨rfl, rfl, rfl⟩ rfl rfl rfl rfl
  · split
    · exact .refl p
    · split
      · exact hwake p (.refl p)
      · split
        · exact samePort_frame ⟨rfl, rfl, rfl⟩ rfl rfl rfl rfl
        · rename_i page _ _ _
          obtain ⟨head, tail, cnt, out, -, -, heq⟩ :=
            sendLoop_frame page (max 1 p.fifo.xmitFifoSize).toNat p
          apply hwake
          rw [heq]
          exact samePort_frame ⟨rfl, rfl, rfl⟩ rfl rfl rfl rfl

theorem samePort_modem (p : Port) (op : ModemOp) : SamePort p (op.apply p) := by
  have hread : SamePort p p.inbMsr.2 := samePort_frame ⟨rfl, rfl, rfl⟩ rfl rfl rfl rfl
  have hserved : SamePort p (if test p.inbMsr.1 uartMsrAnyDelta
      then mxserCheckModemStatus p.inbMsr.2 p.inbMsr.1 else p.inbMsr.2) := by
    split
    · exact hread.trans (samePort_checkModemStatus _ _)
    · exact hread
  cases op with
  | setLines levels => exact samePort_frame ⟨rfl, rfl, rfl⟩ rfl rfl rfl rfl
  | interrupt =>
      show SamePort p (interruptMsr p)
      simp only [interruptMsr]
      split
      · exact samePort_frame ⟨rfl, rfl, rfl⟩ rfl rfl rfl rfl
      · exact hserved
  | tiocmget =>
      show SamePort p (mxserTiocmget p).2
      simp only [mxserTiocmget]
      split
      · exact .refl p
      · exact hserved
  | asppMon mcr =>
      have hsticky : SamePort p (mxserGetMsr p 1).2 :=
        samePort_frame ⟨rfl, rfl, rfl⟩ rfl rfl rfl rfl
      have hchecked := hsticky.trans
        (samePort_checkModemStatus (mxserGetMsr p 1).2 (mxserGetMsr p 1).1)
      show SamePort p (Mxser.asppMon p mcr).2
      simp only [Mxser.asppMon]
      split
      · exact .refl p
      · exact ⟨⟨⟨hchecked.type, hchecked.chip, hchecked.fifo⟩, hchecked.initialized,
          hchecked.infoTty, hchecked.ioError⟩, hchecked.opens⟩
  | asppMonExt opmode =>
      show SamePort p (monExtPort p opmode).2
      simp only [monExtPort]
      split
      · exact .refl p
      · exact samePort_frame ⟨rfl, rfl, rfl⟩ rfl rfl rfl rfl
  | getmstatus old =>
      show SamePort p (getmstatusPort p old).2
      simp only [getmstatusPort]
      split
      · exact .refl p
      · exact hread

theorem samePort_setTermios {HZ : Int} {p q : Port} {old : Termios}
    (h : mxserSetTermios HZ p old = .ok q) : SamePort p q := by
  obtain ⟨r, hr, hq⟩ := bind_ok_iff.mp h
  cases hq
  have hspeed : SamePort p r := by
    split at hr
    · exact samePort_changeSpeed hr
    · cases hr
      exact .refl p
  obtain ⟨stopped, hw, ier, uier, must, heq⟩ := startAfterTermios_frame r old
    (p.tty.termios.cCflag != old.cCflag ||
      relevantIflag p.tty.termios.cIflag != relevantIflag old.cIflag)
  rw [heq]
  exact hspeed.trans (samePort_frame ⟨rfl, rfl, rfl⟩ rfl rfl rfl rfl)

theorem samePort_specialBaudRate {HZ : Int} {p : Port} {speed : Int} {r : Option Errno × Port}
    (h : smartioSetSpecialBaudRate HZ p speed = .ok r) : SamePort p r.2 := by
  have hreq : SamePort p (requested p speed) := samePort_frame ⟨rfl, rfl, rfl⟩ rfl rfl rfl rfl
  simp only [smartioSetSpecialBaudRate] at h
  split at h
  · cases h
    exact .refl p
  · split at h
    · cases h
      exact .refl p
    · obtain ⟨q, hq, hr⟩ := bind_ok_iff.mp h
      cases hr
      exact hreq.trans (samePort_changeSpeed hq)

/-- **None of the operations on a port** touches its set-up, its counts or its
delays. -/
theorem portStep_samePort {HZ : Int} {p q : Port} {op : PortOp} (h : portStep HZ p op = .ok q) :
    SamePort p q := by
  cases op with
  | write buf =>
      obtain ⟨ring, ier, uier, heq⟩ := mxserWrite_frame p buf
      cases heq.symm.trans (Except.ok.inj h)
      exact samePort_frame ⟨rfl, rfl, rfl⟩ rfl rfl rfl rfl
  | putChar ch =>
      obtain ⟨ring, ier, uier, heq⟩ := mxserPutChar_frame p ch
      cases heq.symm.trans (Except.ok.inj h)
      exact samePort_frame ⟨rfl, rfl, rfl⟩ rfl rfl rfl rfl
  | flushChars =>
      cases h
      simp only [mxserFlushChars]
      split
      · exact .refl p
      · exact samePort_frame ⟨rfl, rfl, rfl⟩ rfl rfl rfl rfl
  | flushBuffer iir =>
      cases h
      exact samePort_frame ⟨rfl, rfl, rfl⟩ rfl rfl rfl rfl
  | setStopped stopped =>
      cases h
      exact samePort_frame ⟨rfl, rfl, rfl⟩ rfl rfl rfl rfl
  | stop =>
      cases h
      simp only [mxserStop]
      split
      · exact samePort_frame ⟨rfl, rfl, rfl⟩ rfl rfl rfl rfl
      · exact .refl p
  | start =>
      obtain ⟨ier, uier, heq⟩ := mxserStart_frame p
      cases heq.symm.trans (Except.ok.inj h)
      exact samePort_frame ⟨rfl, rfl, rfl⟩ rfl rfl rfl rfl
  | stoprx =>
      obtain ⟨x, ier, uier, mcr, umcr, heq, -⟩ := mxserStoprx_frame p
      cases heq.symm.trans (Except.ok.inj h)
      exact samePort_frame ⟨rfl, rfl, rfl⟩ rfl rfl rfl rfl
  | startrx =>
      obtain ⟨x, ier, uier, mcr, umcr, heq, -⟩ := mxserStartrx_frame p
      cases heq.symm.trans (Except.ok.inj h)
      exact samePort_frame ⟨rfl, rfl, rfl⟩ rfl rfl rfl rfl
  | transmitChars =>
      cases h
      exact samePort_transmitChars p
  | setTermios new =>
      have hnew : SamePort p { p with tty := { p.tty with termios := new } } :=
        samePort_frame ⟨rfl, rfl, rfl⟩ rfl rfl rfl rfl
      exact hnew.trans (samePort_setTermios h)
  | specialBaudRate speed =>
      have h : (smartioSetSpecialBaudRate HZ p speed).map (·.2) = .ok q := h
      cases hr : smartioSetSpecialBaudRate HZ p speed with
      | error e =>
          rw [hr] at h
          cases h
      | ok r =>
          rw [hr] at h
          cases h
          exact samePort_specialBaudRate hr
  | setBaud baud => exact samePort_setBaud h
  | setBaudMethod method =>
      cases h
      exact samePort_frame ⟨rfl, rfl, rfl⟩ rfl rfl rfl rfl
  | tiocmset set clear =>
      cases h
      simp only [mxserTiocmset]
      split
      · exact .refl p
      · exact samePort_frame ⟨rfl, rfl, rfl⟩ rfl rfl rfl rfl
  | modem op =>
      cases h
      exact samePort_modem p op

/-! ## How much a transmit interrupt sends -/

theorem sendLoop_sent_le (page : Page) (n : Nat) (p : Port) :
    (sendLoop page n p).uart.tx.length ≤ p.uart.tx.length + n := by
  induction n generalizing p with
  | zero => exact Nat.le_refl _
  | succ n ih =>
      have hone : (sendByte p page).uart.tx.length = p.uart.tx.length + 1 := by simp [sendByte]
      simp only [sendLoop]
      split
      · omega
      · have hrest := ih (sendByte p page)
        omega

/-- At most the depth of the FIFO. -/
theorem transmitChars_sent_le (p : Port) :
    ((mxserTransmitChars p).uart.tx.length : Int) ≤
      p.uart.tx.length + max 1 p.fifo.xmitFifoSize := by
  have hwake : ∀ q : Port, (wakeLow q).uart.tx = q.uart.tx := by
    intro q
    simp only [wakeLow]
    split
    · rfl
    · rfl
  simp only [mxserTransmitChars]
  split
  · show ((p.uart.tx ++ [TxByte.flow p.xChar]).length : Int) ≤ _
    rw [List.length_append, List.length_singleton]
    omega
  · split
    · omega
    · split
      · rw [hwake]
        omega
      · split
        · show (p.uart.tx.length : Int) ≤ _
          omega
        · rename_i page _ _ _
          have hsent := sendLoop_sent_le page (max 1 p.fifo.xmitFifoSize).toNat p
          rw [hwake]
          show ((sendLoop page (max 1 p.fifo.xmitFifoSize).toNat p).uart.tx.length : Int) ≤ _
          omega

/-! ## Opening and closing -/

/-- The port is up, or the tty says that it is not. -/
def Alive (p : Port) : Prop := p.initialized = true ∨ p.tty.ioError = true

theorem SameSetup.alive {p q : Port} (h : SameSetup p q) (hp : Alive p) : Alive q := by
  simp only [Alive]
  rw [h.initialized, h.ioError]
  exact hp

theorem SameSetup.up {p q : Port} (h : SameSetup p q)
    (hp : p.initialized = true → p.infoTty = true) :
    q.initialized = true → q.infoTty = true := by
  rw [h.initialized, h.infoTty]
  exact hp

theorem sameSetup_normalActive (p : Port) : SameSetup p (normalActive p) :=
  ⟨⟨rfl, rfl, rfl⟩, test_or_of_disjoint (by decide), rfl, rfl⟩

theorem sameSetup_blockTurn (p : Port) (hungUp doClocal signal : Bool) :
    SameSetup p (blockTurn p hungUp doClocal signal).2 := by
  obtain ⟨uart, h | ⟨e, h⟩ | ⟨-, -, h⟩⟩ := blockTurn_cases p hungUp doClocal signal
  · rw [h]
    exact sameSetup_frame ⟨rfl, rfl, rfl⟩ rfl rfl rfl
  · rw [h]
    exact sameSetup_frame ⟨rfl, rfl, rfl⟩ rfl rfl rfl
  · have hleft : SameSetup p (leaveWait { p with uart := uart } hungUp) :=
      sameSetup_frame ⟨rfl, rfl, rfl⟩ rfl rfl rfl
    rw [h]
    exact hleft.trans (sameSetup_normalActive _)

theorem sameSetup_openReady {HZ : Int} {p q : Port} (h : openReady HZ p = .ok q) :
    SameSetup p q := by
  have hsettings : SameSetup p { p with tty := { p.tty with termios := p.normalTermios } } :=
    sameSetup_frame ⟨rfl, rfl, rfl⟩ rfl rfl rfl
  obtain ⟨r, hr, hq⟩ := bind_ok_iff.mp h
  cases hq
  have hspeed : SameSetup p r := by
    split at hr
    · exact hsettings.trans (samePort_changeSpeed hr).toSameSetup
    · cases hr
      exact .refl p
  exact hspeed.trans (sameSetup_frame ⟨rfl, rfl, rfl⟩ rfl rfl rfl)

theorem sameSetup_finishOpen {HZ : Int} {r t : HandleState × Port}
    (h : finishOpen HZ r = .ok t) : SameSetup r.2 t.2 := by
  simp only [finishOpen] at h
  split at h
  · obtain ⟨q, hq⟩ := openReady_completes HZ r.2
    rw [hq] at h
    cases h
    exact sameSetup_openReady hq
  · cases h
    exact .refl _

theorem sameUart_startupUart (p : Port) : SameUart p (startupUart p) := by
  constructor
  · simp [startupUart, markIoError, Port.setIer, Port.setMcr, Port.inbMsr]
  · simp [startupUart, markIoError, Port.setIer, Port.setMcr, Port.inbMsr]
  · simp [startupUart, markIoError, Port.setIer, Port.setMcr, Port.inbMsr]

/-- A start-up that returns success leaves a port that is up, or says so. -/
theorem mxserStartup_alive {p q : Port} {page : Option Page} {lsr : Byte} {admin : Bool}
    {e : Option Errno} (htty : p.infoTty = true) (h : mxserStartup p page lsr admin = (e, q)) :
    SameUart p q ∧ q.infoTty = true ∧ (Alive p → Alive q) ∧ (e = none → Alive q) := by
  have herror : ∀ r : Port, r.infoTty = true → Alive (markIoError r true) := by
    intro r hr
    right
    show (if r.infoTty then true else r.tty.ioError) = true
    rw [hr]
    rfl
  rcases mxserStartup_cases p page lsr admin with
    ⟨-, hs⟩ | ⟨-, hinit, hs⟩ | ⟨-, -, -, hs⟩ | ⟨pg, -, -, -, -, -, hs⟩ | ⟨pg, -, -, -, -, -, hs⟩
  · cases hs.symm.trans h
    exact ⟨.refl p, htty, id, nofun⟩
  · cases hs.symm.trans h
    exact ⟨.refl p, htty, id, fun _ => .inl hinit⟩
  · cases hs.symm.trans h
    exact ⟨⟨rfl, rfl, rfl⟩, htty, fun _ => herror p htty, fun _ => herror p htty⟩
  · have hpage := herror (startupPage p pg) htty
    rw [h] at hs
    cases admin with
    | true =>
        cases hs
        exact ⟨⟨rfl, rfl, rfl⟩, htty, fun _ => hpage, fun _ => hpage⟩
    | false =>
        cases hs
        exact ⟨⟨rfl, rfl, rfl⟩, htty, id, nofun⟩
  · have hup : Alive (startupUart (startupPage p pg)) := .inl (startupUart_initialized _)
    have hpage : SameUart p (startupPage p pg) := ⟨rfl, rfl, rfl⟩
    have hsame := hpage.trans (sameUart_startupUart _)
    cases hs.symm.trans h
    exact ⟨hsame, (startupUart_infoTty _).trans htty, fun _ => hup, fun _ => hup⟩

theorem mxserOpen_alive {HZ : Int} {p : Port} {a : OpenArgs} {r : HandleState × Port}
    (hup : p.initialized = true → p.infoTty = true) (h : mxserOpen HZ p a = .ok r) :
    SameUart p r.2 ∧ (r.2.initialized = true → r.2.infoTty = true) ∧
      (Alive p → Alive r.2) ∧ (r.1 = .opened → Alive r.2) := by
  rcases mxserOpen_cases h with ⟨-, rfl⟩ | ⟨e, q, hstart, rfl⟩ | ⟨-, q, hstart, hfinish⟩
  · exact ⟨.refl p, hup, id, nofun⟩
  · obtain ⟨hsame, htty, hkeep, -⟩ := mxserStartup_alive (p := attach p) rfl hstart
    exact ⟨⟨hsame.type, hsame.chip, hsame.fifo⟩, fun _ => htty, hkeep, nofun⟩
  · obtain ⟨hsame, htty, -, hnone⟩ := mxserStartup_alive (p := attach p) rfl hstart
    have hblock : SameSetup q (mxserBlockTilReady q a.nonblock a.signal).2 := by
      simp only [mxserBlockTilReady]
      split
      · exact sameSetup_normalActive q
      · have hwait : SameSetup q (enterWait q) := sameSetup_frame ⟨rfl, rfl, rfl⟩ rfl rfl rfl
        exact hwait.trans (sameSetup_blockTurn _ _ _ _)
    have hopen := hblock.trans (sameSetup_finishOpen hfinish)
    have halive := hopen.alive (hnone rfl)
    have huart : SameUart p q := ⟨hsame.type, hsame.chip, hsame.fifo⟩
    exact ⟨huart.trans hopen.toSameUart, hopen.up fun _ => htty, fun _ => halive, fun _ => halive⟩

/-- A shutdown says that the port is down. -/
theorem mxserShutdown_alive {p : Port} (hup : p.initialized = true → p.infoTty = true) :
    SameUart p (mxserShutdown p) ∧ (mxserShutdown p).initialized = false ∧
      (Alive p → Alive (mxserShutdown p)) := by
  simp only [mxserShutdown]
  split
  · rename_i hinit
    have herror : (shutdownUart p).tty.ioError = true := by
      show (if p.infoTty then true else p.tty.ioError) = true
      rw [hup hinit]
      rfl
    refine ⟨?_, shutdownUart_initialized p, fun _ => .inr herror⟩
    constructor
    · simp [shutdownUart, markIoError, clearFifos, Port.setIer, Port.setMcr]
    · simp [shutdownUart, markIoError, clearFifos, Port.setIer, Port.setMcr]
    · simp [shutdownUart, markIoError, clearFifos, Port.setIer, Port.setMcr]
  · rename_i hdown
    exact ⟨.refl p, Bool.eq_false_iff.mpr hdown, id⟩

/-! ## A line with its files -/

structure LineInv (s : Opens) : Prop where
  /-- The depths are those of the type. -/
  fifo : (processTxrxFifo s.port).fifo = s.port.fifo
  up : s.port.initialized = true → s.port.infoTty = true
  /-- A file that is open finds a port that is up, or an error. -/
  live : ∀ h ∈ s.handles, h.live = true → Alive s.port

theorem SameUart.derived {p q : Port} (h : SameUart p q)
    (hp : (processTxrxFifo p).fifo = p.fifo) : (processTxrxFifo q).fifo = q.fifo := by
  have hsame : (processTxrxFifo q).fifo = (processTxrxFifo p).fifo := by
    simp only [processTxrxFifo, h.type, h.chip, h.fifo]
  rw [hsame, hp, h.fifo]

/-- Deriving the depths once more changes nothing. -/
theorem processTxrxFifo_derived (p : Port) :
    (processTxrxFifo (processTxrxFifo p)).fifo = (processTxrxFifo p).fifo := by
  simp only [processTxrxFifo]
  split
  · rfl
  · split
    · rfl
    · rfl

theorem LineInv.setup {s : Opens} {p : Port} (hs : LineInv s) (h : SameSetup s.port p) :
    LineInv { s with port := p } :=
  ⟨h.derived hs.fifo, h.up hs.up, fun k hk hlive => h.alive (hs.live k hk hlive)⟩

theorem LineInv.put {s : Opens} {i : Nat} {h' : Handle} {p : Port} (hs : LineInv s)
    (h : SameSetup s.port p) (hlive : h'.live = true → Alive s.port) :
    LineInv (s.put i h' p) := by
  refine ⟨h.derived hs.fifo, h.up hs.up, fun k hk hklive => h.alive ?_⟩
  rcases List.mem_or_eq_of_mem_set hk with hk | rfl
  · exact hs.live k hk hklive
  · exact hlive hklive

theorem lineInv_open {HZ : Int} {s t : Opens} {a : OpenArgs} (hs : LineInv s)
    (h : s.openHandle HZ a = .ok t) : LineInv t ∧ SameUart s.port t.port := by
  obtain ⟨r, hr, ht⟩ := bind_ok_iff.mp h
  cases ht
  have hup : (s.withTty a.termios).initialized = true → (s.withTty a.termios).infoTty = true :=
    hs.up
  obtain ⟨hsame, hup, hkeep, hopened⟩ := mxserOpen_alive hup hr
  have huart : SameUart s.port r.2 := ⟨hsame.type, hsame.chip, hsame.fifo⟩
  refine ⟨⟨huart.derived hs.fifo, hup, fun k hk hlive => ?_⟩, huart⟩
  rcases List.mem_append.mp hk with hk | hk
  · -- with an open file the tty is not a new one
    have hcount : s.ttyCount ≠ 0 := by
      have hun : k.unreleased = true := by
        simp only [Handle.live, Bool.and_eq_true, beq_iff_eq] at hlive
        simp [Handle.unreleased, hlive.2]
      have hpos : 0 < s.ttyCount := List.countP_pos_iff.mpr ⟨k, hk, hun⟩
      omega
    apply hkeep
    have hsame : Alive (s.withTty a.termios) ↔ Alive s.port := by
      simp only [Opens.withTty]
      rw [if_neg hcount]
    exact hsame.mpr (hs.live k hk hlive)
  · cases List.mem_singleton.mp hk
    apply hopened
    simpa [Handle.live] using hlive

theorem lineInv_wake {HZ : Int} {s t : Opens} {i : Nat} {k : Handle} {signal : Bool}
    (hs : LineInv s) (h : s.wakeHandle HZ i k signal = .ok t) :
    LineInv t ∧ SameUart s.port t.port := by
  obtain ⟨hungUp, state, last⟩ := k
  cases state with
  | asleep doClocal =>
      obtain ⟨r, hr, ht⟩ := bind_ok_iff.mp h
      cases ht
      have hturn := sameSetup_blockTurn s.port hungUp doClocal signal
      have hsame := hturn.trans (sameSetup_finishOpen hr)
      refine ⟨hs.put hsame fun hlive => .inl ?_, hsame.toSameUart⟩
      have hopened : (blockTurn s.port hungUp doClocal signal).1 = .opened := by
        rw [← (finishOpen_ok hr).1]
        simp only [Handle.live, Bool.and_eq_true, beq_iff_eq] at hlive
        exact hlive.2
      obtain ⟨uart, hb | ⟨e, hb⟩ | ⟨-, hinit, -⟩⟩ := blockTurn_cases s.port hungUp doClocal signal
      · rw [hb] at hopened
        cases hopened
      · rw [hb] at hopened
        cases hopened
      · exact hinit
  | _ =>
      cases h
      exact ⟨hs, .refl _⟩

theorem lineInv_hangUp {s t : Opens} {iir : Byte} (hs : LineInv s) (h : s.hangUp iir = .ok t) :
    LineInv t ∧ SameUart s.port t.port := by
  simp only [Opens.hangUp] at h
  split at h
  · cases h
    exact ⟨hs, .refl _⟩
  · split at h
    · cases h
    · cases h
      obtain ⟨hsame, hdown, -⟩ := mxserShutdown_alive (p := mxserFlushBuffer s.port iir) hs.up
      have huart : SameUart s.port (mxserHangup s.port iir) :=
        ⟨hsame.type, hsame.chip, hsame.fifo⟩
      refine ⟨⟨huart.derived hs.fifo, fun hup => ?_, fun k hk hlive => ?_⟩, huart⟩
      · have hdown' : (mxserHangup s.port iir).initialized = false :=
          (test_clear_of_disjoint (by decide)).trans hdown
        rw [hdown'] at hup
        cases hup
      · -- no file is open after a hangup
        obtain ⟨k, -, rfl⟩ := List.mem_map.mp hk
        obtain ⟨hungUp, state, last⟩ := k
        cases state with
        | opened => cases hlive
        | _ => simp [Handle.hangUp, Handle.live] at hlive

theorem sameSetup_close (p : Port) (hungUp : Bool) (ttyCount : Nat) :
    SameSetup p (mxserClose p hungUp ttyCount).2 := by
  simp only [mxserClose]
  split
  · exact .refl _
  · by_cases hcount : (countClosed p ttyCount).opens.count ≠ 0
    · simp only [if_pos hcount]
      exact sameSetup_frame ⟨rfl, rfl, rfl⟩ rfl rfl rfl
    · simp only [if_neg hcount]
      exact ⟨⟨rfl, rfl, rfl⟩, test_or_of_disjoint (by decide), rfl, rfl⟩

theorem opened_of_live {k : Handle} (h : k.live = true) : k.state = .opened := by
  simp only [Handle.live, Bool.and_eq_true, beq_iff_eq] at h
  exact h.2

theorem lineInv_closeHandle {s : Opens} (hs : LineInv s) (i : Nat) (k : Handle) :
    LineInv (s.closeHandle i k) ∧ SameUart s.port (s.closeHandle i k).port := by
  have hclose := sameSetup_close s.port k.hungUp s.ttyCount
  have hput : ∀ last, LineInv (s.put i { k with
      state := if (mxserClose s.port k.hungUp s.ttyCount).1 then .draining else .closed
      last := last } (mxserClose s.port k.hungUp s.ttyCount).2) := by
    intro last
    apply hs.put hclose
    intro hlive
    have hopen := opened_of_live hlive
    simp only at hopen
    split at hopen
    · cases hopen
    · cases hopen
  unfold Opens.closeHandle
  split
  · exact ⟨hs.put (.refl _) fun hlive => (nomatch opened_of_live hlive), .refl _⟩
  · exact ⟨hput _, hclose.toSameUart⟩
  · exact ⟨hput _, hclose.toSameUart⟩
  · exact ⟨hs, .refl _⟩

/-- The shutdown at the end of a close: a file that is still open has the error
flag of the tty. -/
theorem lineInv_emptiedHandle {s : Opens} (hs : LineInv s) (i : Nat) (k : Handle) (iir : Byte) :
    LineInv (s.emptiedHandle i k iir) ∧ SameUart s.port (s.emptiedHandle i k iir).port := by
  unfold Opens.emptiedHandle
  split
  · obtain ⟨hsame, hdown, hkeep⟩ := mxserShutdown_alive hs.up
    have huart : SameUart s.port (closeShutdown s.port iir) :=
      ⟨hsame.type, hsame.chip, hsame.fifo⟩
    refine ⟨⟨huart.derived hs.fifo, fun hup => ?_, fun h' hk hlive => ?_⟩, huart⟩
    · have hdown' : (closeShutdown s.port iir).initialized = false := hdown
      have hup : (closeShutdown s.port iir).initialized = true := hup
      rw [hdown'] at hup
      cases hup
    · show Alive (closeShutdown s.port iir)
      have halive : Alive (mxserShutdown s.port) → Alive (closeShutdown s.port iir) := id
      apply halive
      apply hkeep
      rcases List.mem_or_eq_of_mem_set hk with hk | rfl
      · exact hs.live h' hk hlive
      · exact nomatch opened_of_live hlive
  · exact ⟨hs, .refl _⟩

theorem lineInv_part {HZ : Int} {s t : Opens} {op : OpenOp} (hs : LineInv s) {i : Nat} {k : Handle}
    (hpart : (∃ signal, op = .wake i signal ∧ s.wakeHandle HZ i k signal = .ok t) ∨
        (op = .close i ∧ t = s.closeHandle i k) ∨ (op = .drained i ∧ t = s.drainedHandle i k) ∨
        (∃ iir, op = .emptied i iir ∧ t = s.emptiedHandle i k iir) ∨
        (op = .delayed i ∧ t = s.delayedHandle i k)) :
    LineInv t ∧ SameUart s.port t.port := by
  rcases hpart with ⟨signal, -, hwake⟩ | ⟨-, rfl⟩ | ⟨-, rfl⟩ | ⟨iir, -, rfl⟩ | ⟨-, rfl⟩
  · exact lineInv_wake hs hwake
  · exact lineInv_closeHandle hs i k
  · unfold Opens.drainedHandle
    split
    · have hstop : SameSetup s.port (stopInput s.port) :=
        sameSetup_frame ⟨rfl, rfl, rfl⟩ rfl rfl rfl
      exact ⟨hs.put hstop fun hlive => (nomatch opened_of_live hlive), hstop.toSameUart⟩
    · exact ⟨hs, .refl _⟩
  · exact lineInv_emptiedHandle hs i k iir
  · unfold Opens.delayedHandle
    split
    · have hend : SameSetup s.port (endClosing s.port) :=
        ⟨⟨rfl, rfl, rfl⟩, test_clear_of_disjoint (by decide), rfl, rfl⟩
      exact ⟨hs.put hend fun hlive => (nomatch opened_of_live hlive), hend.toSameUart⟩
    · exact ⟨hs, .refl _⟩

/-- **Opening and closing** keep the invariant, and the UART with its depths. -/
theorem lineInv_openStep {HZ : Int} {s t : Opens} {op : OpenOp} (hs : LineInv s)
    (h : openStep HZ s op = .ok t) : LineInv t ∧ SameUart s.port t.port := by
  rcases openStep_cases h with
    rfl | ⟨levels, -, rfl⟩ | ⟨a, -, hopen⟩ | ⟨iir, -, hhang⟩ | ⟨i, k, -, hpart⟩
  · exact ⟨hs, .refl _⟩
  · have hlines : SameSetup s.port { s.port with uart := s.port.uart.setLines levels } :=
      sameSetup_frame ⟨rfl, rfl, rfl⟩ rfl rfl rfl
    exact ⟨hs.setup hlines, hlines.toSameUart⟩
  · exact lineInv_open hs hopen
  · exact lineInv_hangUp hs hhang
  · exact lineInv_part hs hpart

/-! ## One call -/

/-- An unprivileged call that is not refused goes on with the user flags. -/
theorem mxserSetSerialInfo_user (HZ : Int) {p : Port} {new : SerialStruct} (page : Option Page)
    (lsr : Byte) (h : ¬ SerialInfoRefused p new false) :
    mxserSetSerialInfo HZ p new false page lsr
      = applySerialInfo HZ (userSerialInfo p new) new.type (p.flags &&& asyncSpdMask) page lsr
        false := by
  simp only [SerialInfoRefused, not_or, not_and, ne_eq, not_not] at h
  obtain ⟨hbase, hirq, hport, huser⟩ := h
  obtain ⟨hbaud, hdelay, hflags⟩ := huser trivial
  have hok : ¬ (new.baudBase ≠ p.rate.baudBase ∨ (new.closeDelay.toNat : Int) ≠ p.opens.closeDelay ∨
      new.flags &&& ~~~asyncUsrMask ≠ p.flags &&& ~~~asyncUsrMask) := by
    simp [hbaud, hdelay, hflags]
  simp only [mxserSetSerialInfo]
  rw [if_neg hbase, if_neg (by simp [hirq, hport]), if_neg Bool.false_ne_true, if_neg hok]

/-- A refused one comes back with an error and the port as it was. -/
theorem mxserSetSerialInfo_refused (HZ : Int) {p : Port} {new : SerialStruct} {admin : Bool}
    (page : Option Page) (lsr : Byte) (h : SerialInfoRefused p new admin) :
    ∃ e, mxserSetSerialInfo HZ p new admin page lsr = .ok (some e, p) := by
  rcases mxserSetSerialInfo_cases HZ p new admin page lsr with
    ⟨-, h'⟩ | ⟨hno, -⟩ | ⟨hno, -⟩
  · exact h'
  · exact absurd h hno
  · exact absurd h hno

/-- On a port that is up, what a call leaves has the type it asked for, with its
depths. -/
theorem applySerialInfo_type {HZ : Int} {p : Port} (hp : p.initialized = true) {type : Int}
    {oldSpd : Word} {page : Option Page} {lsr : Byte} {admin : Bool} {r : Option Errno × Port}
    (h : applySerialInfo HZ p type oldSpd page lsr admin = .ok r) :
    r.1 = none ∧ SameSetup (processTxrxFifo { p with type := type }) r.2 := by
  obtain ⟨q, hq, hcase⟩ := applySerialInfo_initialized HZ hp type oldSpd page lsr admin
  cases hq.symm.trans h
  refine ⟨rfl, ?_⟩
  rcases hcase with rfl | hspeed
  · exact .refl _
  · exact (samePort_changeSpeed hspeed).toSameSetup

/-- **One call** that is not refused, on a port that is up: it is confined exactly
if it asks for the type the port has. -/
theorem confined_iff {HZ : Int} {p : Port} {new : SerialStruct} {page : Option Page} {lsr : Byte}
    {r : Option Errno × Port} (hfifo : (processTxrxFifo p).fifo = p.fifo)
    (hup : p.initialized = true)
    (h : applySerialInfo HZ (userSerialInfo p new) new.type (p.flags &&& asyncSpdMask) page lsr
      false = .ok r) :
    Confined HZ p new r ↔ new.type = p.type := by
  obtain ⟨flags, opens, low, custom, huser, hinit⟩ := userSerialInfo_set p new
  have hup' : (userSerialInfo p new).initialized = true := by
    rw [huser]
    exact hinit.trans hup
  obtain ⟨hnone, hsetup⟩ := applySerialInfo_type hup' h
  constructor
  · rintro (⟨hsome, -⟩ | ⟨-, huser⟩)
    · exact absurd hnone hsome
    · rw [← huser.type, hsetup.type]
      rfl
  · intro htype
    have hderived : processTxrxFifo { userSerialInfo p new with type := new.type }
        = userSerialInfo p new := by
      have hsame : (processTxrxFifo { userSerialInfo p new with type := new.type }).fifo
          = (processTxrxFifo p).fifo := by
        rw [htype]
        rfl
      have hset : processTxrxFifo { userSerialInfo p new with type := new.type }
          = { userSerialInfo p new with
              type := new.type
              fifo := (processTxrxFifo { userSerialInfo p new with type := new.type }).fifo } := rfl
      rw [hset, hsame, hfifo, htype]
      rfl
    have hspd : (userSerialInfo p new).flags &&& asyncSpdMask = new.flags &&& asyncSpdMask :=
      sameOn_replace (by decide) _ _
    simp only [applySerialInfo] at h
    simp only [hderived, if_pos hup', hspd] at h
    right
    by_cases hchange : p.flags &&& asyncSpdMask ≠ new.flags &&& asyncSpdMask
    · rw [if_pos hchange] at h
      obtain ⟨q, hq, hr⟩ := bind_ok_iff.mp h
      cases hr
      have hkeep := samePort_changeSpeed hq
      have hcustom := changeSpeed_custom hq
      exact ⟨rfl, hkeep.type, hkeep.fifo, (mxserChangeSpeed_keeps hq).2.1, hcustom,
        fun hsame => absurd hsame.symm hchange, fun _ => hq⟩
    · rw [if_neg hchange] at h
      cases h
      exact ⟨rfl, rfl, rfl, rfl, rfl, fun _ => rfl,
        fun hother => absurd (not_not.mp hchange).symm hother⟩

/-! ## Whole runs -/

/-- What a run keeps as long as no unprivileged call changes the type. -/
structure ServedInv (depth : Int) (s : Served) : Prop where
  line : LineInv s.opens
  depth : s.byAdmin = false → s.opens.port.fifo.xmitFifoSize = depth

/-- A call does nothing, or is made by an open file. -/
theorem serialStep_call {HZ : Int} {s t : Served} {i : Nat} {new : SerialStruct} {admin : Bool}
    {page : Option Page} {lsr : Byte}
    (h : serialStep HZ s (.tiocsserial i new admin page lsr) = .ok t) :
    t = s ∨ ∃ k r, s.opens.handles[i]? = some k ∧ k.live = true ∧
      tiocsserial HZ s.opens.port new admin page lsr = .ok r ∧
      t = ⟨{ s.opens with port := r.2 }, s.byAdmin || (admin && r.1.isNone)⟩ := by
  simp only [serialStep] at h
  cases hi : s.opens.handles[i]? with
  | none =>
      rw [hi] at h
      cases h
      exact .inl rfl
  | some k =>
      simp only [hi] at h
      split at h
      · rename_i hlive
        obtain ⟨r, hr, ht⟩ := bind_ok_iff.mp h
        cases ht
        exact .inr ⟨k, r, rfl, hlive, hr, rfl⟩
      · cases h
        exact .inl rfl

/-- A call on a port that is up sets the type and its depths, or nothing. -/
theorem tiocsserial_setup {HZ : Int} {p : Port} {new : SerialStruct} {admin : Bool}
    {page : Option Page} {lsr : Byte} {r : Option Errno × Port} (hlive : Alive p)
    (h : tiocsserial HZ p new admin page lsr = .ok r) :
    (r.2 = p ∧ r.1 ≠ none) ∨
      (p.tty.ioError = false ∧ ¬ SerialInfoRefused p new admin ∧ r.1 = none ∧
        ∃ q, SerialInfoSet p q ∧ p.initialized = true ∧
          SameSetup (processTxrxFifo { q with type := new.type }) r.2) := by
  simp only [tiocsserial] at h
  cases herror : p.tty.ioError with
  | true =>
      rw [herror] at h
      cases h
      exact .inl ⟨rfl, nofun⟩
  | false =>
      rw [herror] at h
      have hup : p.initialized = true := hlive.resolve_right (by simp [herror])
      rcases mxserSetSerialInfo_cases HZ p new admin page lsr with
        ⟨-, e, he⟩ | ⟨-, -, -, hfault⟩ | ⟨hno, -, q, hset, happly⟩
      · cases he.symm.trans h
        exact .inl ⟨rfl, nofun⟩
      · cases hfault.symm.trans h
      · obtain ⟨flags, opens, low, custom, hq, hinit⟩ := hset
        have hq' : q.initialized = true := by
          rw [hq]
          exact hinit.trans hup
        obtain ⟨hnone, hsetup⟩ := applySerialInfo_type hq' (happly.symm.trans h)
        exact .inr ⟨rfl, hno, hnone, q, ⟨flags, opens, low, custom, hq, hinit⟩, hup, hsetup⟩

/-- `TIOCSSERIAL` keeps it, unless an unprivileged call declares another type. -/
theorem servedInv_serial {HZ depth : Int} {s t : Served} {i : Nat} {new : SerialStruct}
    {admin : Bool} {page : Option Page} {lsr : Byte} (hs : ServedInv depth s)
    (hc : KeepsOwnType s (.tiocsserial i new admin page lsr))
    (h : serialStep HZ s (.tiocsserial i new admin page lsr) = .ok t) : ServedInv depth t := by
  rcases serialStep_call h with rfl | ⟨k, r, hi, hlive, hr, rfl⟩
  · exact hs
  · have halive := hs.line.live k (List.mem_of_getElem? hi) hlive
    rcases tiocsserial_setup halive hr with
      ⟨hsame, hsome⟩ |
      ⟨herror, hno, hnone, q, ⟨flags, opens, low, custom, hq, hflags⟩, hup, hsetup⟩
    · have herror : r.1.isNone = false := by
        rw [Option.isNone_eq_false_iff]
        exact Option.isSome_iff_ne_none.mpr hsome
      rw [hsame, herror]
      refine ⟨hs.line, fun hno => hs.depth ?_⟩
      simpa using hno
    · have hinit : r.2.initialized = s.opens.port.initialized := by
        rw [hsetup.initialized, hq]
        exact hflags
      refine ⟨⟨?_, ?_, ?_⟩, ?_⟩
      · exact hsetup.toSameUart.derived (processTxrxFifo_derived _)
      · intro _
        show r.2.infoTty = true
        rw [hsetup.infoTty, hq]
        exact hs.line.up hup
      · exact fun _ _ _ => .inl (hinit.trans hup)
      · intro hadmin
        rw [hnone] at hadmin
        simp only [Option.isNone_none, Bool.and_true, Bool.or_eq_false_iff] at hadmin
        obtain ⟨hbefore, rfl⟩ := hadmin
        -- an unprivileged call, and so one for the type that the port has
        have htype : new.type = s.opens.port.type := by
          rcases hc k hi hlive with hio | hrefused | htype
          · rw [herror] at hio
            cases hio
          · exact absurd hrefused hno
          · exact htype
        have hfifo : r.2.fifo = s.opens.port.fifo := by
          rw [hsetup.fifo, htype, hq]
          exact hs.line.fifo
        show r.2.fifo.xmitFifoSize = depth
        rw [hfifo]
        exact hs.depth hbefore

theorem servedInv_step {HZ depth : Int} {s t : Served} {op : SerialOp} (hs : ServedInv depth s)
    (hc : KeepsOwnType s op) (h : serialStep HZ s op = .ok t) : ServedInv depth t := by
  cases op with
  | opens op =>
      cases hu : openStep HZ s.opens op with
      | error e =>
          simp only [serialStep, hu] at h
          cases h
      | ok u =>
          simp only [serialStep, hu] at h
          cases h
          obtain ⟨hline, huart⟩ := lineInv_openStep hs.line hu
          refine ⟨hline, fun hno => ?_⟩
          show u.port.fifo.xmitFifoSize = depth
          rw [huart.fifo]
          exact hs.depth hno
  | port op =>
      cases hu : portStep HZ s.opens.port op with
      | error e =>
          simp only [serialStep, hu] at h
          cases h
      | ok q =>
          simp only [serialStep, hu] at h
          cases h
          have hsetup := (portStep_samePort hu).toSameSetup
          refine ⟨hs.line.setup hsetup, fun hno => ?_⟩
          show q.fifo.xmitFifoSize = depth
          rw [hsetup.fifo]
          exact hs.depth hno
  | tiocsserial i new admin page lsr => exact servedInv_serial hs hc h

/-- **One step** does what it is to do exactly under the condition. -/
theorem serialStep_confined_iff (HZ : Int) {depth : Int} {s : Served} (hs : ServedInv depth s)
    (op : SerialOp) :
    (∀ t, serialStep HZ s op = .ok t → SerialConfined HZ depth s op t) ↔ KeepsOwnType s op := by
  cases op with
  | opens op => exact ⟨fun _ => trivial, fun _ _ _ => trivial⟩
  | port op =>
      refine ⟨fun _ => trivial, fun _ t ht => ?_⟩
      cases op with
      | transmitChars =>
          cases ht
          intro hno
          have hsent := transmitChars_sent_le s.opens.port
          rw [hs.depth hno] at hsent
          exact hsent
      | _ => exact trivial
  | tiocsserial i new admin page lsr =>
      cases admin with
      | true => exact ⟨fun _ => trivial, fun _ _ _ => trivial⟩
      | false =>
          constructor
          · intro hall k hi hlive
            have halive := hs.line.live k (List.mem_of_getElem? hi) hlive
            by_cases herror : s.opens.port.tty.ioError = true
            · exact .inl herror
            · by_cases hrefused : SerialInfoRefused s.opens.port new false
              · exact .inr (.inl hrefused)
              · have hup : s.opens.port.initialized = true := halive.resolve_right herror
                have hup' : (userSerialInfo s.opens.port new).initialized = true := by
                  obtain ⟨flags, opens, low, custom, hq, hinit⟩ :=
                    userSerialInfo_set s.opens.port new
                  rw [hq]
                  exact hinit.trans hup
                obtain ⟨q, hq, -⟩ := applySerialInfo_initialized HZ hup' new.type
                  (s.opens.port.flags &&& asyncSpdMask) page lsr false
                have hcall : tiocsserial HZ s.opens.port new false page lsr = .ok (none, q) := by
                  rw [tiocsserial, if_neg herror, mxserSetSerialInfo_user HZ page lsr hrefused, hq]
                have hstep : serialStep HZ s (.tiocsserial i new false page lsr)
                    = .ok ⟨{ s.opens with port := q }, s.byAdmin || false⟩ := by
                  simp only [serialStep, hi, if_pos hlive, hcall]
                  rfl
                have hconf := hall _ hstep k (none, q) hi hlive hcall
                exact .inr (.inr ((confined_iff hs.line.fifo hup hq).mp hconf))
          · intro hkeep t _ k r hi hlive hr
            have halive := hs.line.live k (List.mem_of_getElem? hi) hlive
            by_cases herror : s.opens.port.tty.ioError = true
            · rw [tiocsserial, if_pos herror] at hr
              cases hr
              exact .inl ⟨nofun, rfl⟩
            · rw [tiocsserial, if_neg herror] at hr
              by_cases hrefused : SerialInfoRefused s.opens.port new false
              · obtain ⟨e, he⟩ := mxserSetSerialInfo_refused HZ page lsr hrefused
                cases he.symm.trans hr
                exact .inl ⟨nofun, rfl⟩
              · have htype := ((hkeep k hi hlive).resolve_left herror).resolve_left hrefused
                rw [mxserSetSerialInfo_user HZ page lsr hrefused] at hr
                exact (confined_iff hs.line.fifo (halive.resolve_right herror) hr).mpr htype

/-- A port as the set-up of its board leaves it. -/
theorem servedInv_start (HZ : Int) (hw : MxserHwconf) (init : Termios) (n : Nat) (uart : Uart) :
    ServedInv (mxserInitbrd HZ hw init n uart).fifo.xmitFifoSize
      (Served.start (mxserInitbrd HZ hw init n uart)) := by
  refine ⟨⟨processTxrxFifo_derived _, fun hup => ?_, nofun⟩, fun _ => rfl⟩
  have hdown : (mxserInitbrd HZ hw init n uart).initialized = false := by
    show test asyncShareIrq asyncInitialized = false
    decide
  have hup : (mxserInitbrd HZ hw init n uart).initialized = true := hup
  rw [hdown] at hup
  cases hup

/-- **When unprivileged callers are confined.** From the set-up of the board on,
whatever the files of a line do, every unprivileged `TIOCSSERIAL` returns an
error and changes nothing, or changes the user flags and at most the line rate,
and until a privileged one every transmit interrupt writes at most as many bytes
as the FIFO was detected to hold, if and only if every unprivileged call that is
not refused asks for the type that the port has. -/
theorem unprivileged_serial_confined_iff (HZ : Int) (hw : MxserHwconf) (init : Termios) (n : Nat)
    (uart : Uart) (ops : List SerialOp) :
    EachStep (serialStep HZ)
        (SerialConfined HZ (mxserInitbrd HZ hw init n uart).fifo.xmitFifoSize)
        (Served.start (mxserInitbrd HZ hw init n uart)) ops ↔
      Guarded (serialStep HZ) KeepsOwnType (Served.start (mxserInitbrd HZ hw init n uart)) ops :=
  eachStep_iff_guarded (J := ServedInv (mxserInitbrd HZ hw init n uart).fifo.xmitFifoSize)
    (fun _ _ _ hs hc h => servedInv_step hs hc h)
    (fun _ op hs => serialStep_confined_iff HZ hs op)
    (servedInv_start HZ hw init n uart)

/-- An unprivileged caller declares a 16450, whose FIFO holds one byte, to be a
16550A; the next transmit interrupt writes three bytes. -/
theorem declared_type_overruns_fifo :
    (mxserInitbrd 100 ⟨0x180, 5, port16450, 921600, by decide, moxaOtherUart, 921600⟩
      (c104Termios 0) 0 (resetUart uartMsrCts)).fifo.xmitFifoSize = 1 ∧
    ∃ t, run (serialStep 100)
        (Served.start (mxserInitbrd 100
          ⟨0x180, 5, port16450, 921600, by decide, moxaOtherUart, 921600⟩
          (c104Termios 0) 0 (resetUart uartMsrCts)))
        [.opens (.open ⟨true, some fun _ => 0, 0x60, false, false, c104Termios 0⟩),
          .tiocsserial 0 ⟨port16550A, 0x180, 5, 0xA3000000, 921600, 50, 0, 0⟩ false none 0,
          .port (.write [0x41, 0x42, 0x43]), .port .transmitChars] = .ok t ∧
      t.opens.port.type = port16550A ∧ t.opens.port.fifo.xmitFifoSize = 16 ∧
      t.opens.port.uart.tx.length = 3 :=
  ⟨by decide, _, rfl, by decide⟩

end MoxaDrivers.Mxser

import MoxaDrivers.Lib.Machine
import MoxaDrivers.Mxser.OpenClose
import MoxaDrivers.Mxser.Board

/-!
# DTR and RTS and their shadow

`info->MCR` is what `mxser_tiocmget` reports and what the next write of
`UART_MCR` puts there. Three places write the register and leave the shadow: a
turn of the loop of `mxser_block_til_ready` raises DTR and RTS, `SDS_PORT8_DTR`
moves the DTR of the port with index 7, and `mxser_set_baud` ends with a write
of the MUST chips' enumeration register, which is `UART_MCR` on any other chip.
An open that succeeds as the first one and `mxser_change_speed` write the shadow
back at once.
-/

namespace MoxaDrivers.Mxser

open MoxaDrivers.Bits MoxaDrivers.Machine

/-- DTR and RTS. -/
def uartMcrLines : Byte := uartMcrDtr ||| uartMcrRts

/-- DTR and RTS of `info->MCR` are those last written to `UART_MCR`. -/
def LinesAgree (p : Port) : Prop := SameOn uartMcrLines p.uart.mcr p.mcr

/-- The shadow has DTR and RTS up. -/
def LinesUp (p : Port) : Prop := p.mcr &&& uartMcrLines = uartMcrLines

instance (p : Port) : Decidable (LinesAgree p) := inferInstanceAs (Decidable (SameOn _ _ _))

theorem linesAgree_of_eq {p : Port} (h : p.uart.mcr = p.mcr) : LinesAgree p := by
  rw [LinesAgree, h]
  rfl

theorem startupUart_mcr (p : Port) : (startupUart p).mcr = uartMcrLines := by
  simp [startupUart, markIoError, Port.setIer, Port.setMcr, Port.inbMsr, uartMcrLines]

theorem startupUart_uartMcr (p : Port) : (startupUart p).uart.mcr = (startupUart p).mcr := by
  simp [startupUart, markIoError, Port.setIer, Port.setMcr, Port.inbMsr, Uart.inbMsr]

/-- `SDS_PORT8_DTR`, as far as it is about this port. -/
def sdsPort8Dtr (p : Port) (stat : Int) : Port :=
  { p with uart := { p.uart with mcr :=
      if p.port = 7 then
        if stat = 1 then p.uart.mcr ||| 0x01
        else if stat = 0 then p.uart.mcr &&& 0xfe
        else p.uart.mcr
      else p.uart.mcr } }

inductive McrOp where
  | opens (op : OpenOp)
  | tiocmset (set clear : Word)
  | stoprx
  | startrx
  | setTermios (new : Termios)
  | changeSpeed
  | setBaud (baud : Int)
  | port8Dtr (stat : Int)

/-- An operation on the port of the line. -/
def Opens.onPort (s : Opens) (x : Except Fault Port) : Except Fault Opens :=
  x.map fun p => { s with port := p }

theorem onPort_ok {s t : Opens} {x : Except Fault Port} (h : s.onPort x = .ok t) :
    ∃ q, x = .ok q ∧ t = { s with port := q } := by
  cases x with
  | error e => cases h
  | ok q =>
      cases h
      exact ⟨q, rfl, rfl⟩

def mcrStep (HZ : Int) (s : Opens) : McrOp → Except Fault Opens
  | .opens op => openStep HZ s op
  | .tiocmset set clear => s.onPort (.ok (mxserTiocmset s.port set clear).2)
  | .stoprx => s.onPort (.ok (mxserStoprx s.port))
  | .startrx => s.onPort (.ok (mxserStartrx s.port))
  | .setTermios new =>
      s.onPort (mxserSetTermios HZ { s.port with tty := { s.port.tty with termios := new } }
        s.port.tty.termios)
  | .changeSpeed => s.onPort (mxserChangeSpeed HZ s.port)
  | .setBaud baud => s.onPort (mxserSetBaud HZ s.port baud)
  | .port8Dtr stat => s.onPort (.ok (sdsPort8Dtr s.port stat))

/-- The turn of the wait finds the port ready, and the open goes on as the first
one, which writes the shadow to the register. -/
structure Reimposes (p : Port) (doClocal : Bool) : Prop where
  up : p.initialized = true
  ready : (carrierReady p doClocal).1 = true
  first : p.opens.count = 0

/-- An open that does not pass the wait by. -/
structure Waits (s : Opens) (a : OpenArgs) : Prop where
  up : s.port.initialized = true
  page : a.page ≠ none
  blocks : a.nonblock = false ∧ (s.withTty a.termios).tty.ioError = false

/-- `mxser_set_baud` gets as far as the divisor latch. -/
structure Latches (p : Port) (newspd : Int) : Prop where
  tty : p.infoTty = true
  base : p.base ≠ 0
  max : newspd ≤ p.rate.maxCanSetBaudRate
  divisor : if newspd ∈ mxvarBaudTable then newspd ≠ 0 ∧ (newspd = 134 → 135 ≤ p.rate.baudBase)
    else 0 < p.rate.speed ∧ p.rate.speed ≤ p.rate.maxCanSetBaudRate ∧
      p.rate.speed ≤ p.rate.baudBase

/-- The eighths of the divisor of a rate outside the table have DTR up and RTS
where the shadow has it. -/
def EighthsAgree (p : Port) (newspd : Int) : Prop :=
  newspd ∉ mxvarBaudTable ∧
    SameOn uartMcrLines (p.mcr ||| uartMcrDtr)
      (BitVec.ofInt 8 (roundEighths (p.rate.baudBase % p.rate.speed) p.rate.speed))

/-- A turn of the wait comes with DTR and RTS up in the shadow, or goes on to
write the shadow back; `SDS_PORT8_DTR` moves the DTR of port 7 to where the
shadow has it; a rate is latched on a MUST chip only, or its eighths happen to
be the lines. -/
def KeepsLines (s : Opens) (op : McrOp) : Prop :=
  match op with
  | .opens (.open a) => Waits s a → LinesUp s.port ∨
      Reimposes (s.withTty a.termios) (test (s.withTty a.termios).tty.termios.cCflag clocal)
  | .opens (.wake i _) => ∀ h doClocal, s.handles[i]? = some h → h.state = .asleep doClocal →
      LinesUp s.port ∨ (h.hungUp = false ∧ s.port.infoTty = true ∧ Reimposes s.port doClocal)
  | .port8Dtr stat => s.port.port = 7 →
      (stat = 1 → s.port.mcr &&& uartMcrDtr = uartMcrDtr) ∧
      (stat = 0 → s.port.mcr &&& uartMcrDtr = 0)
  | .setBaud baud => s.port.isMoxaMustChipFlag = 0 → Latches s.port baud → EighthsAgree s.port baud
  | _ => True

/-! ## Operations through the shadow -/

theorem linesAgree_frame {p q : Port} (hmcr : q.mcr = p.mcr) (huart : q.uart.mcr = p.uart.mcr) :
    LinesAgree q ↔ LinesAgree p := by
  rw [LinesAgree, hmcr, huart, LinesAgree]

theorem linesAgree_setMcr (p : Port) (v : Byte) : LinesAgree (p.setMcr v) := rfl

/-- A write of the register alone does not keep the lines; a write through the
shadow does, whatever was there. -/
theorem linesAgree_through {p q : Port} (hp : LinesAgree p)
    (h : q.mcr = p.mcr ∧ q.uart.mcr = p.uart.mcr ∨ q.uart.mcr = q.mcr) : LinesAgree q := by
  rcases h with ⟨hmcr, huart⟩ | hsame
  · exact (linesAgree_frame hmcr huart).mpr hp
  · rw [LinesAgree, hsame, SameOn]

theorem linesAgree_stoprx {p : Port} (h : LinesAgree p) : LinesAgree (mxserStoprx p) := by
  obtain ⟨x, ier, uier, mcr, umcr, heq, hmcr⟩ := mxserStoprx_frame p
  rw [heq]
  exact linesAgree_through h hmcr

theorem linesAgree_startrx {p : Port} (h : LinesAgree p) : LinesAgree (mxserStartrx p) := by
  obtain ⟨x, ier, uier, mcr, umcr, heq, hmcr⟩ := mxserStartrx_frame p
  rw [heq]
  exact linesAgree_through h hmcr

theorem linesAgree_tiocmset {p : Port} (h : LinesAgree p) (set clear : Word) :
    LinesAgree (mxserTiocmset p set clear).2 := by
  simp only [mxserTiocmset]
  split
  · exact h
  · exact linesAgree_setMcr p _

/-- The CTS section ends with a write of the shadow on each of its ways. -/
theorem linesAgree_changeSpeedCts (p : Port) (cflag : Word) :
    LinesAgree (changeSpeedCts p cflag) := by
  simp only [changeSpeedCts]
  split
  · split
    · exact linesAgree_setMcr _ _
    · exact linesAgree_setMcr _ _
  · exact linesAgree_setMcr _ _

theorem linesAgree_changeSpeedLine (p : Port) : LinesAgree (changeSpeedLine p) := by
  obtain ⟨rs, is, must, fcr, lcr, heq⟩ := changeSpeedLine_eq p
  rw [heq]
  exact linesAgree_changeSpeedCts (setMustFifo p) p.tty.termios.cCflag

theorem linesAgree_changeSpeed {HZ : Int} {p q : Port} (hp : LinesAgree p)
    (h : mxserChangeSpeed HZ p = .ok q) : LinesAgree q := by
  rcases mxserChangeSpeed_ok h with ⟨-, rfl⟩ | ⟨-, -, r, -, rfl⟩
  · exact hp
  · exact linesAgree_changeSpeedLine r

theorem linesAgree_setTermios {HZ : Int} {p q : Port} {old : Termios} (hp : LinesAgree p)
    (h : mxserSetTermios HZ p old = .ok q) : LinesAgree q := by
  obtain ⟨r, hr, hq⟩ := bind_ok_iff.mp h
  cases hq
  obtain ⟨stopped, hw, ier, uier, must, heq⟩ := startAfterTermios_frame r old
    (p.tty.termios.cCflag != old.cCflag ||
      relevantIflag p.tty.termios.cIflag != relevantIflag old.cIflag)
  have hspeed : LinesAgree r := by
    split at hr
    · exact linesAgree_changeSpeed hp hr
    · cases hr
      exact hp
  rw [heq]
  exact hspeed

theorem linesAgree_shutdown {p : Port} (h : LinesAgree p) : LinesAgree (mxserShutdown p) := by
  simp only [mxserShutdown]
  split
  · exact linesAgree_of_eq rfl
  · exact h

/-! ## Operations past the shadow -/

/-- `SDS_PORT8_DTR` keeps the agreement when it does what the shadow says. -/
theorem linesAgree_port8Dtr_iff {p : Port} (h : LinesAgree p) (stat : Int) :
    LinesAgree (sdsPort8Dtr p stat) ↔
      (p.port = 7 → (stat = 1 → p.mcr &&& uartMcrDtr = uartMcrDtr) ∧
        (stat = 0 → p.mcr &&& uartMcrDtr = 0)) := by
  have hmask : uartMcrDtr &&& uartMcrLines = uartMcrDtr := by decide
  show SameOn uartMcrLines (sdsPort8Dtr p stat).uart.mcr p.mcr ↔ _
  by_cases hport : p.port = 7
  · by_cases hon : stat = 1
    · have hset : (sdsPort8Dtr p stat).uart.mcr = p.uart.mcr ||| uartMcrDtr := by
        simp only [sdsPort8Dtr, if_pos hport, if_pos hon]
        rfl
      have hiff := sameOn_or_iff hmask h
      rw [hset]
      simpa [hport, hon] using hiff
    · by_cases hoff : stat = 0
      · have hclear : (sdsPort8Dtr p stat).uart.mcr = p.uart.mcr &&& ~~~uartMcrDtr := by
          simp only [sdsPort8Dtr, if_pos hport, if_neg hon, if_pos hoff]
          rfl
        have hiff := sameOn_clear_iff hmask h
        rw [hclear]
        simpa [hport, hoff] using hiff
      · have hsame : (sdsPort8Dtr p stat).uart.mcr = p.uart.mcr := by
          simp only [sdsPort8Dtr, if_pos hport, if_neg hon, if_neg hoff]
        rw [hsame]
        exact ⟨fun _ _ => ⟨fun h1 => absurd h1 hon, fun h0 => absurd h0 hoff⟩, fun _ => h⟩
  · have hsame : (sdsPort8Dtr p stat).uart.mcr = p.uart.mcr := by
      simp only [sdsPort8Dtr, if_neg hport]
    rw [hsame]
    exact ⟨fun _ h7 => absurd h7 hport, fun _ => h⟩

/-- The shadow has DTR up after a latch, and 0 has not. -/
theorem not_sameOn_raised (mcr : Byte) : ¬ SameOn uartMcrLines (mcr ||| uartMcrDtr) 0 := by
  intro hsame
  have hdtr : ((mcr ||| uartMcrDtr) &&& uartMcrLines)[0] = ((0 : Byte) &&& uartMcrLines)[0] := by
    rw [show (mcr ||| uartMcrDtr) &&& uartMcrLines = 0 &&& uartMcrLines from hsame]
  simp [uartMcrDtr, uartMcrLines, uartMcrRts] at hdtr

/-- What the latch of a rate leaves in the two registers. -/
theorem latchBaud_agrees_iff (p : Port) (quot enum : Int) :
    LinesAgree (latchBaud p quot enum) ↔ (p.isMoxaMustChipFlag = 0 →
      SameOn uartMcrLines (p.mcr ||| uartMcrDtr) (BitVec.ofInt 8 enum)) := by
  by_cases hplain : p.isMoxaMustChipFlag = 0
  · have hmcr : (latchBaud p quot enum).uart.mcr = BitVec.ofInt 8 enum := by
      simp only [latchBaud, setEnum, Port.setMcr, hplain, decide_true, if_true]
    rw [LinesAgree, hmcr]
    exact ⟨fun h _ => h.symm, fun h => (h hplain).symm⟩
  · have hmcr : (latchBaud p quot enum).uart.mcr = (latchBaud p quot enum).mcr := by
      simp only [latchBaud, setEnum, Port.setMcr, hplain, decide_false, Bool.false_eq_true,
        if_false]
    exact ⟨fun _ hno => absurd hno hplain, fun _ => linesAgree_of_eq hmcr⟩

/-- A rate that gets to the latch, and what goes to the enumeration register with
it. -/
theorem mxserSetBaud_latches {HZ : Int} {p q : Port} {newspd : Int} (hl : Latches p newspd)
    (h : mxserSetBaud HZ p newspd = .ok q) :
    ∃ quot timeout enum,
      q = latchBaud { p with rate := baudRate p.rate newspd timeout } quot enum ∧
      enum = if newspd ∈ mxvarBaudTable then 0
        else roundEighths (p.rate.baudBase % p.rate.speed) p.rate.speed := by
  obtain ⟨quot, timeout, hquot, -, hcase⟩ := mxserSetBaud_values hl.tty hl.base hl.max h
  have hne := (baudQuot_ne_zero_iff hquot).mpr hl.divisor
  obtain ⟨hzero, -⟩ | ⟨-, enum, henum, hq⟩ := hcase
  · exact absurd hzero hne
  · refine ⟨quot, timeout, enum, hq, ?_⟩
    have hdivisor := hl.divisor
    by_cases htable : newspd ∈ mxvarBaudTable
    · rw [baudEnum_table _ htable] at henum
      cases henum
      rw [if_pos htable]
    · rw [if_neg htable] at hdivisor ⊢
      -- 134 is in the table, so `info->speed` is still what it was
      have hsame : (baudRate p.rate newspd timeout).speed = p.rate.speed :=
        if_neg fun h134 => htable (by rw [h134]; decide)
      have hother := baudEnum_other (r := baudRate p.rate newspd timeout) htable
        (by rw [hsame]; exact hdivisor.1)
      rw [hsame, henum] at hother
      cases hother
      rfl

/-- A call that does not get to the latch leaves both registers or writes them
alike. -/
theorem mxserSetBaud_stops {HZ : Int} {p q : Port} {newspd : Int} (hp : LinesAgree p)
    (hl : ¬ Latches p newspd) (h : mxserSetBaud HZ p newspd = .ok q) : LinesAgree q := by
  rcases mxserSetBaud_ok h with
    ⟨-, rfl⟩ | ⟨htty, hbase, hmax, quot, timeout, hquot, ⟨-, rfl⟩ | ⟨hne, -⟩⟩
  · exact hp
  · exact linesAgree_setMcr _ _
  · exact absurd ⟨htty, hbase, hmax, (baudQuot_ne_zero_iff hquot).mp hne⟩ hl

/-- **One rate**: `mxser_set_baud` keeps the agreement unless it latches the
rate on a plain chip, whose `UART_MCR` takes the eighths. -/
theorem linesAgree_setBaud_iff {HZ : Int} {p q : Port} {newspd : Int} (hp : LinesAgree p)
    (h : mxserSetBaud HZ p newspd = .ok q) :
    LinesAgree q ↔ (p.isMoxaMustChipFlag = 0 → Latches p newspd → EighthsAgree p newspd) := by
  by_cases hl : Latches p newspd
  · obtain ⟨quot, timeout, enum, rfl, henum⟩ := mxserSetBaud_latches hl h
    rw [latchBaud_agrees_iff]
    have hiff : SameOn uartMcrLines (p.mcr ||| uartMcrDtr) (BitVec.ofInt 8 enum) ↔
        EighthsAgree p newspd := by
      by_cases htable : newspd ∈ mxvarBaudTable
      · rw [henum, if_pos htable]
        refine ⟨fun hsame => ?_, fun hagree => absurd htable hagree.1⟩
        exact absurd hsame (not_sameOn_raised p.mcr)
      · rw [henum, if_neg htable]
        exact ⟨fun hsame => ⟨htable, hsame⟩, fun hagree => hagree.2⟩
    exact ⟨fun hkeep hplain _ => hiff.mp (hkeep hplain),
      fun hkeep hplain => hiff.mpr (hkeep hplain hl)⟩
  · exact ⟨fun _ _ hno => absurd hno hl, fun _ => mxserSetBaud_stops hp hl h⟩

/-- What a turn of the wait leaves in the two registers. -/
theorem blockTurn_mcr (p : Port) (hungUp doClocal signal : Bool) :
    (blockTurn p hungUp doClocal signal).2.mcr = p.mcr ∧
      (blockTurn p hungUp doClocal signal).2.uart.mcr = p.uart.mcr ||| uartMcrLines := by
  have hraise : (raiseLines p).uart.mcr = p.uart.mcr ||| uartMcrLines := by
    show p.uart.mcr ||| uartMcrDtr ||| uartMcrRts = p.uart.mcr ||| (uartMcrDtr ||| uartMcrRts)
    rw [BitVec.or_assoc]
  have hready : ∀ q : Port, (carrierReady q doClocal).2.mcr = q.mcr ∧
      (carrierReady q doClocal).2.uart.mcr = q.uart.mcr := by
    intro q
    simp only [carrierReady]
    split
    · exact ⟨rfl, rfl⟩
    · split
      · exact ⟨rfl, rfl⟩
      · exact ⟨rfl, rfl⟩
  simp only [blockTurn]
  split
  · exact ⟨rfl, hraise⟩
  · split
    · exact ⟨(hready _).1, (hready _).2.trans hraise⟩
    · split
      · exact ⟨(hready _).1, (hready _).2.trans hraise⟩
      · exact ⟨(hready _).1, (hready _).2.trans hraise⟩

theorem carrierReady_fst (p : Port) (doClocal : Bool) :
    (carrierReady p doClocal).1 =
      (!test p.flags asyncClosing && (doClocal || test p.uart.msr uartMsrDcd)) := by
  simp only [carrierReady]
  cases test p.flags asyncClosing with
  | true => rfl
  | false =>
      cases doClocal with
      | true => rfl
      | false => rfl

/-- When a turn ends the wait with success. -/
theorem blockTurn_opened_iff (p : Port) (hungUp doClocal signal : Bool) :
    (blockTurn p hungUp doClocal signal).1 = .opened ↔
      hungUp = false ∧ p.initialized = true ∧ (carrierReady p doClocal).1 = true := by
  have hready : (carrierReady (raiseLines p) doClocal).1 = (carrierReady p doClocal).1 := by
    rw [carrierReady_fst, carrierReady_fst]
    rfl
  have hinit : (raiseLines p).initialized = p.initialized := rfl
  simp only [blockTurn, hready, hinit]
  cases hungUp with
  | true => simp
  | false =>
      cases p.initialized with
      | false => simp
      | true =>
          cases (carrierReady p doClocal).1 with
          | true => simp
          | false => cases signal <;> simp

/-- What the open goes on with then. -/
theorem blockTurn_opened {p : Port} {hungUp doClocal signal : Bool}
    (h : (blockTurn p hungUp doClocal signal).1 = .opened) :
    (blockTurn p hungUp doClocal signal).2.opens.count = p.opens.count + 1 ∧
      (blockTurn p hungUp doClocal signal).2.infoTty = p.infoTty ∧
      (blockTurn p hungUp doClocal signal).2.base = p.base := by
  obtain ⟨uart, hturn | ⟨e, hturn⟩ | ⟨hhere, -, hturn⟩⟩ := blockTurn_cases p hungUp doClocal signal
  · rw [hturn] at h
    cases h
  · rw [hturn] at h
    cases h
  · rw [hturn, hhere]
    exact ⟨rfl, rfl, rfl⟩

/-! ## Opening -/

/-- The end of an open writes the shadow to the register, if it writes it. -/
theorem openReady_agrees {HZ : Int} {p q : Port} (h : openReady HZ p = .ok q) :
    (p.opens.count = 1 ∧ p.infoTty = true ∧ p.base ≠ 0 ∧ LinesAgree q) ∨
    (¬ (p.opens.count = 1 ∧ p.infoTty = true ∧ p.base ≠ 0) ∧
      (LinesAgree q ↔ LinesAgree p)) := by
  simp only [openReady] at h
  by_cases hcount : p.opens.count = 1
  · rw [if_pos hcount] at h
    obtain ⟨r, hr, hq⟩ := bind_ok_iff.mp h
    cases hq
    rcases mxserChangeSpeed_ok hr with ⟨hskip, rfl⟩ | ⟨htty, hbase, u, -, rfl⟩
    · refine .inr ⟨?_, Iff.rfl⟩
      rintro ⟨-, htty, hbase⟩
      rcases hskip with hno | hno
      · rw [show p.infoTty = false from hno] at htty
        cases htty
      · exact hbase hno
    · exact .inl ⟨hcount, htty, hbase, linesAgree_changeSpeedLine u⟩
  · rw [if_neg hcount] at h
    cases h
    exact .inr ⟨fun hc => hcount hc.1, Iff.rfl⟩

/-- A turn of the wait with the rest of the open: the lines agree after it
exactly if they were up, or the shadow is written back. -/
theorem finishTurn_agrees_iff {HZ : Int} {p : Port} {hungUp doClocal signal : Bool}
    {r : HandleState × Port} (hp : LinesAgree p) (hbase : p.base ≠ 0)
    (h : finishOpen HZ (blockTurn p hungUp doClocal signal) = .ok r) :
    LinesAgree r.2 ↔
      LinesUp p ∨ (hungUp = false ∧ p.infoTty = true ∧ Reimposes p doClocal) := by
  obtain ⟨hmcr, huart⟩ := blockTurn_mcr p hungUp doClocal signal
  have hraised : LinesAgree (blockTurn p hungUp doClocal signal).2 ↔ LinesUp p := by
    rw [LinesAgree, hmcr, huart]
    exact sameOn_or_iff (BitVec.and_self) hp
  have hready := blockTurn_opened_iff p hungUp doClocal signal
  by_cases hopened : (blockTurn p hungUp doClocal signal).1 = .opened
  · obtain ⟨hcount, htty, hsame⟩ := blockTurn_opened hopened
    simp only [finishOpen] at h
    rw [if_pos hopened] at h
    obtain ⟨q, hq⟩ := openReady_completes HZ (blockTurn p hungUp doClocal signal).2
    rw [hq] at h
    cases h
    obtain ⟨hhere, hup, hcarrier⟩ := hready.mp hopened
    rcases openReady_agrees hq with ⟨hone, htty1, -, hagree⟩ | ⟨hno, hiff⟩
    · rw [htty] at htty1
      exact ⟨fun _ => .inr ⟨hhere, htty1, hup, hcarrier, by omega⟩, fun _ => hagree⟩
    · rw [hiff, hraised]
      refine ⟨.inl, fun hor => hor.resolve_right ?_⟩
      rintro ⟨-, htty1, hre⟩
      exact hno ⟨by rw [hcount, hre.first]; rfl, htty.trans htty1, hsame ▸ hbase⟩
  · simp only [finishOpen] at h
    rw [if_neg hopened] at h
    cases h
    rw [hraised]
    refine ⟨.inl, fun hor => hor.resolve_right ?_⟩
    rintro ⟨hhere, -, hre⟩
    exact hopened (hready.mpr ⟨hhere, hre.up, hre.ready⟩)

/-- An open that passes the wait by. -/
theorem finishSkip_agrees {HZ : Int} {p : Port} {nonblock signal : Bool} {r : HandleState × Port}
    (hp : LinesAgree p) (hskip : (nonblock || p.tty.ioError) = true)
    (h : finishOpen HZ (mxserBlockTilReady p nonblock signal) = .ok r) : LinesAgree r.2 := by
  simp only [mxserBlockTilReady] at h
  rw [if_pos hskip] at h
  obtain ⟨q, hq⟩ := openReady_completes HZ (normalActive p)
  simp only [finishOpen, if_true, hq] at h
  cases h
  rcases openReady_agrees hq with ⟨-, -, -, hagree⟩ | ⟨-, hiff⟩
  · exact hagree
  · exact hiff.mpr hp

/-- An open with the lines up in the shadow. -/
theorem finishUp_agrees {HZ : Int} {p : Port} {nonblock signal : Bool} {r : HandleState × Port}
    (hp : LinesAgree p) (hbase : p.base ≠ 0) (hup : LinesUp p)
    (h : finishOpen HZ (mxserBlockTilReady p nonblock signal) = .ok r) : LinesAgree r.2 := by
  by_cases hskip : (nonblock || p.tty.ioError) = true
  · exact finishSkip_agrees hp hskip h
  · simp only [mxserBlockTilReady] at h
    rw [if_neg hskip] at h
    have hwait : LinesAgree (enterWait p) := hp
    exact (finishTurn_agrees_iff hwait hbase h).mpr (.inl hup)

/-- An open that starts the port up: that has just raised the lines in both. -/
theorem finishStarted_agrees {HZ : Int} {p : Port} {nonblock signal : Bool}
    {r : HandleState × Port} (hbase : p.base ≠ 0)
    (h : finishOpen HZ (mxserBlockTilReady (startupUart p) nonblock signal) = .ok r) :
    LinesAgree r.2 := by
  have hagree : LinesAgree (startupUart p) := linesAgree_of_eq (startupUart_uartMcr p)
  have hup : LinesUp (startupUart p) := by
    rw [LinesUp, startupUart_mcr]
    decide
  have hbase' : (startupUart p).base ≠ 0 := by
    rw [(startupUart_port p).1]
    exact hbase
  exact finishUp_agrees hagree hbase' hup h

/-- Whether an open will write the shadow back is the same before it counts
itself as waiting. -/
theorem reimposes_enterWait (p : Port) (doClocal : Bool) :
    Reimposes (enterWait (attach p)) doClocal ↔ Reimposes p doClocal := by
  have hcount : (enterWait (attach p)).opens.count = p.opens.count := by
    show p.opens.count + 1 - 1 = p.opens.count
    omega
  have hready : (carrierReady (enterWait (attach p)) doClocal).1 = (carrierReady p doClocal).1 := by
    rw [carrierReady_fst, carrierReady_fst]
    rfl
  exact ⟨fun h => ⟨h.up, hready ▸ h.ready, hcount ▸ h.first⟩,
    fun h => ⟨h.up, hready.symm ▸ h.ready, hcount.symm ▸ h.first⟩⟩

/-- **One open**: the lines agree after it exactly if it passes the wait by, or
they were up in the shadow, or it writes the shadow back. -/
theorem mxserOpen_agrees_iff {HZ : Int} {p : Port} {a : OpenArgs} {r : HandleState × Port}
    (hp : LinesAgree p) (hbase : p.base ≠ 0) (h : mxserOpen HZ p a = .ok r) :
    LinesAgree r.2 ↔
      (p.initialized = true → a.page ≠ none → a.nonblock = false → p.tty.ioError = false →
        LinesUp p ∨ Reimposes p (test p.tty.termios.cCflag clocal)) := by
  simp only [mxserOpen] at h
  rw [if_neg hbase] at h
  rcases mxserStartup_cases (attach p) a.page a.lsr a.admin with
    ⟨hpage, hstart⟩ | ⟨hpage, hup, hstart⟩ | ⟨-, hdown, -, hstart⟩ |
    ⟨pg, -, hdown, -, -, -, hstart⟩ | ⟨pg, -, hdown, -, -, -, hstart⟩
  · rw [hstart] at h
    cases h
    exact ⟨fun _ _ hsome => absurd hpage hsome, fun _ => hp⟩
  · rw [hstart] at h
    have hup' : p.initialized = true := hup
    by_cases hskip : (a.nonblock || (attach p).tty.ioError) = true
    · refine ⟨fun _ _ _ hblock hio => ?_, fun _ => finishSkip_agrees (p := attach p) hp hskip h⟩
      have hio' : (attach p).tty.ioError = false := hio
      rw [hblock, hio'] at hskip
      cases hskip
    · have hskip' := hskip
      simp only [Bool.or_eq_true, not_or, Bool.not_eq_true] at hskip'
      simp only [mxserBlockTilReady, if_neg hskip] at h
      have hturn := finishTurn_agrees_iff (p := enterWait (attach p)) hp hbase h
      have hre := reimposes_enterWait p (test p.tty.termios.cCflag clocal)
      constructor
      · intro hagree _ _ _ _
        exact (hturn.mp hagree).imp_right fun hor => hre.mp hor.2.2
      · intro hkeep
        exact hturn.mpr ((hkeep hup' hpage hskip'.1 hskip'.2).imp_right
          fun hr => ⟨rfl, rfl, hre.mpr hr⟩)
  · have hdown' : p.initialized = false := hdown
    rw [hstart] at h
    refine ⟨fun _ hup => by simp [hdown'] at hup, fun _ => ?_⟩
    have hagree : LinesAgree (markIoError (attach p) true) := hp
    exact finishSkip_agrees hagree (by simp [markIoError, attach]) h
  · have hdown' : p.initialized = false := hdown
    rw [hstart] at h
    refine ⟨fun _ hup => by simp [hdown'] at hup, fun _ => ?_⟩
    cases hadmin : a.admin with
    | true =>
        simp only [hadmin, if_true] at h
        have hagree : LinesAgree (markIoError (startupPage (attach p) pg) true) := hp
        exact finishSkip_agrees hagree (by simp [markIoError, startupPage, clearFifos, attach]) h
    | false =>
        simp only [hadmin, Bool.false_eq_true, if_false] at h
        cases h
        exact hp
  · have hdown' : p.initialized = false := hdown
    rw [hstart] at h
    exact ⟨fun _ hup => by simp [hdown'] at hup,
      fun _ => finishStarted_agrees (p := startupPage (attach p) pg) hbase h⟩

/-! ## Every step -/

theorem linesAgree_close {p : Port} (hp : LinesAgree p) (hungUp : Bool) (ttyCount : Nat) :
    LinesAgree (mxserClose p hungUp ttyCount).2 := by
  simp only [mxserClose]
  split
  · exact hp
  · show LinesAgree (if (countClosed p ttyCount).opens.count ≠ 0
      then (false, countClosed p ttyCount)
      else (true, startClosing (countClosed p ttyCount))).2
    split
    · exact hp
    · exact hp

/-- The parts of a close and a hangup go through the shadow. -/
theorem closing_agrees {HZ : Int} {s t : Opens} {op : OpenOp} (hs : LinesAgree s.port)
    (h : openStep HZ s op = .ok t)
    (hop : (∀ a, op ≠ .open a) ∧ ∀ i signal, op ≠ .wake i signal) : LinesAgree t.port := by
  rcases openStep_cases h with
    rfl | ⟨levels, -, rfl⟩ | ⟨a, ha, -⟩ | ⟨iir, -, hhang⟩ | ⟨i, k, -, hpart⟩
  · exact hs
  · exact hs
  · exact absurd ha (hop.1 a)
  · simp only [Opens.hangUp] at hhang
    split at hhang
    · cases hhang
      exact hs
    · split at hhang
      · cases hhang
      · cases hhang
        have hflush : LinesAgree (mxserFlushBuffer s.port iir) := hs
        exact linesAgree_shutdown hflush
  · rcases hpart with ⟨signal, hwake, -⟩ | ⟨-, rfl⟩ | ⟨-, rfl⟩ | ⟨iir, -, rfl⟩ | ⟨-, rfl⟩
    · exact absurd hwake (hop.2 i signal)
    · simp only [Opens.closeHandle]
      split
      · exact hs
      · exact linesAgree_close hs _ _
      · exact linesAgree_close hs _ _
      · exact hs
    · simp only [Opens.drainedHandle]
      split
      · exact hs
      · exact hs
    · simp only [Opens.emptiedHandle]
      split
      · exact linesAgree_shutdown hs
      · exact hs
    · simp only [Opens.delayedHandle]
      split
      · exact hs
      · exact hs

theorem wake_agrees_iff {HZ : Int} {s t : Opens} {i : Nat} {signal : Bool}
    (hs : LinesAgree s.port) (hbase : s.port.base ≠ 0)
    (h : openStep HZ s (.wake i signal) = .ok t) :
    LinesAgree t.port ↔ KeepsLines s (.opens (.wake i signal)) := by
  have hwake : s.onHandle i (fun h => s.wakeHandle HZ i h signal) = .ok t := h
  show _ ↔ ∀ k doClocal, s.handles[i]? = some k → k.state = .asleep doClocal → _
  unfold Opens.onHandle at hwake
  cases hi : s.handles[i]? with
  | none =>
      rw [hi] at hwake
      cases hwake
      exact ⟨fun _ k _ hk => (nomatch hk), fun _ => hs⟩
  | some k =>
      simp only [hi, Opens.wakeHandle] at hwake
      split at hwake
      · rename_i doClocal hasleep
        obtain ⟨r, hr, ht⟩ := bind_ok_iff.mp hwake
        cases ht
        have hturn := finishTurn_agrees_iff hs hbase hr
        constructor
        · intro hagree k' d hk' hd
          cases hk'
          rw [hasleep] at hd
          cases hd
          exact hturn.mp hagree
        · intro hkeep
          exact hturn.mpr (hkeep k doClocal rfl hasleep)
      · rename_i hawake
        cases hwake
        refine ⟨fun _ k' d hk' hd => ?_, fun _ => hs⟩
        cases hk'
        exact absurd hd (hawake d)

theorem open_agrees_iff {HZ : Int} {s t : Opens} {a : OpenArgs} (hs : LinesAgree s.port)
    (hbase : s.port.base ≠ 0) (h : openStep HZ s (.open a) = .ok t) :
    LinesAgree t.port ↔ KeepsLines s (.opens (.open a)) := by
  have hopen : s.openHandle HZ a = .ok t := h
  obtain ⟨r, hr, ht⟩ := bind_ok_iff.mp hopen
  cases ht
  have htty : LinesAgree (s.withTty a.termios) := hs
  have hiff := mxserOpen_agrees_iff htty hbase hr
  show LinesAgree r.2 ↔ (Waits s a → LinesUp s.port ∨ _)
  rw [hiff]
  constructor
  · exact fun hkeep hw => hkeep hw.up hw.page hw.blocks.1 hw.blocks.2
  · exact fun hkeep hup hpage hblock hio => hkeep ⟨hup, hpage, hblock, hio⟩

/-- **One step**: DTR and RTS agree after it exactly under the condition. -/
theorem mcrStep_agrees_iff {HZ : Int} {s t : Opens} {op : McrOp} (hs : LinesAgree s.port)
    (hbase : s.port.base ≠ 0) (h : mcrStep HZ s op = .ok t) :
    LinesAgree t.port ↔ KeepsLines s op := by
  cases op with
  | opens op =>
      have h : openStep HZ s op = .ok t := h
      cases op with
      | «open» a => exact open_agrees_iff hs hbase h
      | wake i signal => exact wake_agrees_iff hs hbase h
      | close i => exact ⟨fun _ => trivial, fun _ => closing_agrees hs h ⟨nofun, nofun⟩⟩
      | drained i => exact ⟨fun _ => trivial, fun _ => closing_agrees hs h ⟨nofun, nofun⟩⟩
      | emptied i iir => exact ⟨fun _ => trivial, fun _ => closing_agrees hs h ⟨nofun, nofun⟩⟩
      | delayed i => exact ⟨fun _ => trivial, fun _ => closing_agrees hs h ⟨nofun, nofun⟩⟩
      | hangup iir => exact ⟨fun _ => trivial, fun _ => closing_agrees hs h ⟨nofun, nofun⟩⟩
      | setLines levels => exact ⟨fun _ => trivial, fun _ => closing_agrees hs h ⟨nofun, nofun⟩⟩
  | tiocmset set clear =>
      cases h
      exact ⟨fun _ => trivial, fun _ => linesAgree_tiocmset hs set clear⟩
  | stoprx =>
      cases h
      exact ⟨fun _ => trivial, fun _ => linesAgree_stoprx hs⟩
  | startrx =>
      cases h
      exact ⟨fun _ => trivial, fun _ => linesAgree_startrx hs⟩
  | setTermios new =>
      obtain ⟨q, hq, rfl⟩ := onPort_ok h
      have hnew : LinesAgree { s.port with tty := { s.port.tty with termios := new } } := hs
      exact ⟨fun _ => trivial, fun _ => linesAgree_setTermios hnew hq⟩
  | changeSpeed =>
      obtain ⟨q, hq, rfl⟩ := onPort_ok h
      exact ⟨fun _ => trivial, fun _ => linesAgree_changeSpeed hs hq⟩
  | setBaud baud =>
      obtain ⟨q, hq, rfl⟩ := onPort_ok h
      exact linesAgree_setBaud_iff hs hq
  | port8Dtr stat =>
      cases h
      exact linesAgree_port8Dtr_iff hs stat

/-- The steps keep the base address of the port. -/
theorem mcrStep_base {HZ : Int} {s t : Opens} {op : McrOp} (hbase : s.port.base ≠ 0)
    (h : mcrStep HZ s op = .ok t) : t.port.base = s.port.base := by
  cases op with
  | opens op =>
      obtain ⟨u, hu, hsame⟩ := openStep_completes HZ hbase op
      cases h.symm.trans hu
      exact hsame
  | tiocmset set clear =>
      cases h
      simp only [mxserTiocmset]
      split
      · rfl
      · rfl
  | stoprx =>
      cases h
      obtain ⟨x, ier, uier, mcr, umcr, heq, -⟩ := mxserStoprx_frame s.port
      rw [heq]
  | startrx =>
      cases h
      obtain ⟨x, ier, uier, mcr, umcr, heq, -⟩ := mxserStartrx_frame s.port
      rw [heq]
  | setTermios new =>
      obtain ⟨q, hq, rfl⟩ := onPort_ok h
      obtain ⟨r, hr, hq⟩ := bind_ok_iff.mp hq
      cases hq
      obtain ⟨stopped, hw, ier, uier, must, heq⟩ := startAfterTermios_frame r s.port.tty.termios
        (new.cCflag != s.port.tty.termios.cCflag ||
          relevantIflag new.cIflag != relevantIflag s.port.tty.termios.cIflag)
      show (startAfterTermios r _ _).base = _
      rw [heq]
      split at hr
      · exact (mxserChangeSpeed_keeps hr).1
      · cases hr
        rfl
  | changeSpeed =>
      obtain ⟨q, hq, rfl⟩ := onPort_ok h
      exact (mxserChangeSpeed_keeps hq).1
  | setBaud baud =>
      obtain ⟨q, hq, rfl⟩ := onPort_ok h
      obtain ⟨rate, mcr, umcr, fcr, dll, dlm, must, rfl⟩ := mxserSetBaud_frame hq
      rfl
  | port8Dtr stat =>
      cases h
      rfl

/-- A step that breaks the condition completes. -/
theorem mcrStep_completes {HZ : Int} {s : Opens} {op : McrOp} (hbase : s.port.base ≠ 0)
    (hno : ¬ KeepsLines s op) : ∃ t, mcrStep HZ s op = .ok t := by
  cases op with
  | opens op =>
      obtain ⟨t, ht, -⟩ := openStep_completes HZ hbase op
      exact ⟨t, ht⟩
  | port8Dtr stat => exact ⟨_, rfl⟩
  | setBaud baud =>
      obtain ⟨-, hno⟩ := Classical.not_imp.mp hno
      obtain ⟨hl, -⟩ := Classical.not_imp.mp hno
      have hdivides : baud ∈ mxvarBaudTable ∨ s.port.rate.speed ≠ 0 := by
        by_cases htable : baud ∈ mxvarBaudTable
        · exact .inl htable
        · have hdivisor := hl.divisor
          rw [if_neg htable] at hdivisor
          exact .inr hdivisor.1.ne'
      obtain ⟨q, hq⟩ := mxserSetBaud_completes HZ hdivides
      exact ⟨_, by simp only [mcrStep, Opens.onPort, hq]; rfl⟩
  | _ => exact absurd trivial hno

/-! ## Whole runs -/

theorem Started.linesAgree {p : Port} (h : Started p) : LinesAgree p := by
  obtain ⟨p₀, page, rfl⟩ := h.eq
  exact linesAgree_of_eq (startupUart_uartMcr _)

/-- **When the shadow of DTR and RTS is exact.** From a start-up on, `info->MCR`
and `UART_MCR` agree on DTR and RTS after every operation of a run if and only
if every turn of the wait in an open comes with both up in the shadow, or goes
on to write the shadow back, `SDS_PORT8_DTR` moves the DTR of port 7 only to
where the shadow has it, and on a plain chip `mxser_set_baud` called alone does
not get to the divisor, or has eighths that are the lines. -/
theorem modem_lines_shadowed_iff {HZ : Int} {s : Opens} (hup : Started s.port)
    (hbase : s.port.base ≠ 0) (ops : List McrOp) :
    Always (mcrStep HZ) (fun t => LinesAgree t.port) s ops ↔
      Guarded (mcrStep HZ) KeepsLines s ops := by
  apply always_iff_guarded (J := fun t => LinesAgree t.port ∧ t.port.base ≠ 0)
  · exact fun t ht => ht.1
  · intro t op u ht hkeep hstep
    refine ⟨(mcrStep_agrees_iff ht.1 ht.2 hstep).mpr hkeep, ?_⟩
    rw [mcrStep_base ht.2 hstep]
    exact ht.2
  · intro t op ht hno
    obtain ⟨u, hu⟩ := mcrStep_completes ht.2 hno
    exact ⟨u, hu, fun hagree => hno ((mcrStep_agrees_iff ht.1 ht.2 hu).mp hagree)⟩
  · exact ⟨hup.linesAgree, hbase⟩

/-- A file of a plain port lowers DTR and RTS, and another one is opened. -/
theorem modem_lines_shadowed_iff_c104 :
    Always (mcrStep 100) (fun t => LinesAgree t.port)
        (Opens.start (c104Started port16450 (c104Termios 0)))
        [.opens (.open ⟨true, some fun _ => 0, 0x60, false, false, c104Termios 0⟩),
          .tiocmset 0 (tiocmDtr ||| tiocmRts),
          .opens (.open ⟨false, some fun _ => 0, 0x60, false, false, c104Termios 0⟩)] ↔
      Guarded (mcrStep 100) KeepsLines (Opens.start (c104Started port16450 (c104Termios 0)))
        [.opens (.open ⟨true, some fun _ => 0, 0x60, false, false, c104Termios 0⟩),
          .tiocmset 0 (tiocmDtr ||| tiocmRts),
          .opens (.open ⟨false, some fun _ => 0, 0x60, false, false, c104Termios 0⟩)] :=
  modem_lines_shadowed_iff (c104Started_started (by decide) _) (by decide) _

/-- The second open waits for the carrier, and DTR and RTS are up again while
the shadow has them down. -/
theorem waiting_open_raises_lowered_lines :
    ∃ t, run (mcrStep 100) (Opens.start (c104Started port16450 (c104Termios 0)))
        [.opens (.open ⟨true, some fun _ => 0, 0x60, false, false, c104Termios 0⟩),
          .tiocmset 0 (tiocmDtr ||| tiocmRts),
          .opens (.open ⟨false, some fun _ => 0, 0x60, false, false, c104Termios 0⟩)] = .ok t ∧
      t.handles[1]? = some ⟨false, .asleep false, false⟩ ∧
      t.port.mcr &&& uartMcrLines = 0 ∧ t.port.uart.mcr &&& uartMcrLines = uartMcrLines :=
  ⟨_, rfl, by decide⟩

/-- `MOXA_ASPP_SETBAUD` drops both lines of a plain port too. -/
example :
    (run (mcrStep 100) (Opens.start (c104Started port16450 (c104Termios 0))) [
        .opens (.open ⟨true, some fun _ => 0, 0x60, false, false, c104Termios 0⟩),
        .setBaud 57600]).toOption.map
      (fun t => (t.port.mcr &&& uartMcrLines, t.port.uart.mcr &&& uartMcrLines))
    = some (uartMcrLines, 0) := by
  rfl

end MoxaDrivers.Mxser

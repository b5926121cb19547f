import MoxaDrivers.Mxser.Startup
import MoxaDrivers.Mxupcie.Port

/-!
# Setting a port up, starting it and shutting it down

The turn of the loop of `mxupcie_initbrd` for one port, `mx_startup` and
`mx_shutdown`. The outcome of the page allocation, the line status that the
presence check reads and whether the caller has `CAP_SYS_ADMIN` are arguments;
`none` is the return value 0.
-/

namespace MoxaDrivers.Mxupcie

open MoxaDrivers.Bits MoxaDrivers.Mxser

/-! ## The board set-up -/

/-- What `mxupcie_initbrd` takes from `struct mxupcie_hwconf` for one port. -/
structure MxupcieHwconf where
  ioaddr : Nat
  irq : Int
  uartType : Int
  baudBase : Int
  baudBase_pos : 0 < baudBase
  maxCanSetBaudRate : Int

theorem pciBaudBase_pos : (0 : Int) < 921600 := by decide

/-- What `mx_get_PCI_conf` puts there, whatever the board. -/
def mxGetPciConf (ioaddr : Nat) (irq : Int) : MxupcieHwconf :=
  ⟨ioaddr, irq, port16550A, 921600, pciBaudBase_pos, 921600⟩

/-- The registers of a UART that nothing has been written to. -/
def resetUart (msr : Byte) : Uart :=
  ⟨0, 0, 0, 0, msr, 0, 0, 0, 0, 0, 0, 0, 0, 0, 0, 0, 0, 0, 0, [], []⟩

/-- One turn of the loop of `mxupcie_initbrd`, over an entry of `mxvar_table`
that is zeroed; the interrupts of the UART are disabled as the loop after it
does. The FIFO depths are 128 and the trigger levels `MOXA_FCH_110`,
`MOXA_RTL_96` and `MOXA_FCL_16`. -/
def mxupcieInitbrd (hw : MxupcieHwconf) (n : Nat) (uart : Uart) : Port where
  port := n
  base := hw.ioaddr
  irq := hw.irq
  type := hw.uartType
  flags := asyncShareIrq
  infoTty := false
  ier := 0
  mcr := 0
  readStatusMask := 0
  ignoreStatusMask := 0
  ring := ⟨none, 0, 0, 0⟩
  rate := {
    baudBase := hw.baudBase
    baudBase_pos := hw.baudBase_pos
    maxCanSetBaudRate := hw.maxCanSetBaudRate
    speed := 9600
    realbaud := 0
    customBaudRate := 0
    timeout := 0 }
  fifo := {
    rxTrigger := 0x60
    rxHighWater := 0x6E
    rxLowWater := 0x10
    xmitFifoSize := mxTxFifoSize }
  icount := ⟨0, 0, 0, 0, 0⟩
  mon := ⟨0, 0, 0⟩
  event := ⟨false, false⟩
  logTxcnt := 0
  tty := ⟨⟨0, 0, 0, 0⟩, false, false, false, false, false⟩
  uart := { uart with ier := uart.ier &&& 0xF0 }

/-! ## Start-up and shutdown -/

/-- `set_bit(TTY_IO_ERROR, &info->tty->flags)`, or the clearing of the bit,
where there is a tty. -/
def markIoError (p : Port) (b : Bool) : Port :=
  { p with tty := { p.tty with ioError := if p.infoTty then b else p.tty.ioError } }

/-- The FIFOs are cleared and disabled. -/
def clearFifos (p : Port) : Port :=
  { p with uart := { p.uart with fcr := uartFcrClearRcvr ||| uartFcrClearXmit } }

/-- The part of `mx_startup` before the presence check: the new page is kept
only where the port holds none. -/
def startupPage (p : Port) (page : Page) : Port :=
  clearFifos { p with ring := { p.ring with buf := some (p.ring.buf.getD page) } }

/-- The enhanced mode registers and the trigger levels. -/
def startupEnhanced (p : Port) : Port :=
  { p with uart := { p.uart with
    efr := moxaEfrEnhance
    sfr := moxaSfr950 ||| moxaSfrEnableTcnt
    ttl := BitVec.ofInt 8 p.fifo.xmitFifoSize
    rtl := BitVec.ofInt 8 p.fifo.rxTrigger
    fcl := BitVec.ofInt 8 p.fifo.rxLowWater
    fch := BitVec.ofInt 8 p.fifo.rxHighWater } }

/-- The part of `mx_startup` after the presence check. -/
def startupUart (p : Port) : Port :=
  let p := p.readMsr.2
  let p := { p with uart := { p.uart with lcr := uartLcrWlen8 } }
  let p := p.setMcr (uartMcrDtr ||| uartMcrRts)
  let p := startupEnhanced p
  let p := p.setIer (uartIerMsi ||| uartIerRlsi ||| uartIerRdi)
  let p := p.readMsr.2
  let p := markIoError p false
  { p with
    ring := { p.ring with cnt := 0, head := 0, tail := 0 }
    flags := p.flags ||| asyncInitialized }

/-- `mx_startup`: what it returns, and the port. -/
def mxStartup (p : Port) (page : Option Page) (lsr : Byte) (admin : Bool) :
    Option Errno × Port :=
  match page with
  | none => (some .enomem, p)
  | some page =>
      if p.initialized then (none, p)
      else if p.base = 0 ∨ p.type = 0 then (none, markIoError p true)
      else
        let p := startupPage p page
        -- nothing answers: the ring keeps its indices, and the page if it had none
        if lsr = 0xFF then
          if admin then (none, markIoError p true) else (some .enodev, p)
        else (none, startupUart p)

/-- The part of `mx_shutdown` under `slock`. -/
def shutdownUart (p : Port) : Port :=
  let p := { p with
    ring := { p.ring with buf := none }
    uart := { p.uart with efr := 0, sfr := 0 } }
  let p := p.setIer 0
  let p := p.setMcr (
    -- without a tty there is no `HUPCL` to ask
    if !p.infoTty || test p.tty.termios.cCflag hupcl
    then p.mcr &&& ~~~(uartMcrDtr ||| uartMcrRts) else p.mcr)
  let p := clearFifos p
  let p := markIoError p true
  { p with flags := p.flags &&& ~~~asyncInitialized }

def mxShutdown (p : Port) : Port :=
  if p.initialized then shutdownUart p else p

/-! ## What the two do -/

theorem startupUart_initialized (p : Port) : (startupUart p).initialized = true :=
  test_or_self (by decide)

theorem startupUart_dataOut (p : Port) : (startupUart p).uart.dataOut = p.uart.dataOut :=
  Uart.dataOut_congr rfl

theorem startupUart_base (p : Port) : (startupUart p).base = p.base := by
  simp [startupUart, markIoError, startupEnhanced, Port.setIer, Port.setMcr, Port.readMsr]

theorem startupUart_infoTty (p : Port) : (startupUart p).infoTty = p.infoTty := by
  simp [startupUart, markIoError, startupEnhanced, Port.setIer, Port.setMcr, Port.readMsr]

theorem startupUart_rate (p : Port) : (startupUart p).rate = p.rate := by
  simp [startupUart, markIoError, startupEnhanced, Port.setIer, Port.setMcr, Port.readMsr]

theorem startupPage_base (p : Port) (page : Page) : (startupPage p page).base = p.base := rfl

/-- Everything `mx_startup` can do. -/
theorem mxStartup_cases (p : Port) (page : Option Page) (lsr : Byte) (admin : Bool) :
    (page = none ∧ mxStartup p page lsr admin = (some .enomem, p)) ∨
    (page ≠ none ∧ p.initialized = true ∧ mxStartup p page lsr admin = (none, p)) ∨
    (page ≠ none ∧ p.initialized = false ∧ (p.base = 0 ∨ p.type = 0) ∧
      mxStartup p page lsr admin = (none, markIoError p true)) ∨
    (∃ pg, page = some pg ∧ p.initialized = false ∧ p.base ≠ 0 ∧ p.type ≠ 0 ∧ lsr = 0xFF ∧
      mxStartup p page lsr admin =
        if admin then (none, markIoError (startupPage p pg) true)
        else (some .enodev, startupPage p pg)) ∨
    (∃ pg, page = some pg ∧ p.initialized = false ∧ p.base ≠ 0 ∧ p.type ≠ 0 ∧ lsr ≠ 0xFF ∧
      mxStartup p page lsr admin = (none, startupUart (startupPage p pg))) := by
  cases page with
  | none => exact .inl ⟨rfl, rfl⟩
  | some pg =>
      cases hi : p.initialized with
      | true => exact .inr (.inl ⟨nofun, rfl, by simp [mxStartup, hi]⟩)
      | false =>
          by_cases hb : p.base = 0 ∨ p.type = 0
          · exact .inr (.inr (.inl ⟨nofun, rfl, hb, by simp [mxStartup, hi, hb]⟩))
          · have hb' := not_or.mp hb
            by_cases hl : lsr = 0xFF
            · exact .inr (.inr (.inr (.inl ⟨pg, rfl, rfl, hb'.1, hb'.2, hl, by
                simp only [mxStartup, hi, Bool.false_eq_true, if_false, if_neg hb, if_pos hl]⟩)))
            · exact .inr (.inr (.inr (.inr ⟨pg, rfl, rfl, hb'.1, hb'.2, hl, by
                simp only [mxStartup, hi, Bool.false_eq_true, if_false, if_neg hb, if_neg hl]⟩)))

/-- A port that `mx_startup` has just brought up: the port was not initialised,
and the call initialised it. -/
def Started (p : Port) : Prop :=
  ∃ (p₀ : Port) (page : Page) (lsr : Byte) (admin : Bool), p₀.initialized = false ∧
    mxStartup p₀ (some page) lsr admin = (none, p) ∧ p.initialized = true

/-- It is the port that the last lines of `mx_startup` leave, of a UART that is
mapped. -/
theorem Started.eq {p : Port} (h : Started p) :
    ∃ p₀ page, p.base ≠ 0 ∧ p = startupUart (startupPage p₀ page) := by
  obtain ⟨p₀, page, lsr, admin, hi, hs, hp⟩ := h
  rcases mxStartup_cases p₀ (some page) lsr admin with
    ⟨h, -⟩ | ⟨-, h, -⟩ | ⟨-, -, -, h⟩ | ⟨pg, -, -, -, -, -, h⟩ | ⟨pg, -, -, hb, -, -, h⟩
  · cases h
  · simp [hi] at h
  · -- no base address or no UART type: the port is still not initialised
    have hsame : (markIoError p₀ true).initialized = p₀.initialized := rfl
    simp only [h, Prod.mk.injEq] at hs
    rw [← hs.2, hsame, hi] at hp
    cases hp
  · have hsame : (markIoError (startupPage p₀ pg) true).initialized = p₀.initialized := rfl
    rw [h] at hs
    cases admin with
    | true =>
        simp only [if_true, Prod.mk.injEq] at hs
        rw [← hs.2, hsame, hi] at hp
        cases hp
    | false => simp at hs
  · simp only [h, Prod.mk.injEq] at hs
    have heq := hs.2.symm
    refine ⟨p₀, pg, ?_, heq⟩
    rw [heq, startupUart_base, startupPage_base]
    exact hb

theorem Started.ring {p : Port} (h : Started p) :
    p.ring.buf.isSome ∧ p.ring.head = 0 ∧ p.ring.tail = 0 ∧ p.ring.cnt = 0 := by
  obtain ⟨p₀, page, -, rfl⟩ := h.eq
  exact ⟨rfl, rfl, rfl, rfl⟩

/-! ## A port to run things on -/

/-- Port 0 of a board whose UARTs are mapped at 0x10000, its tty open with the
settings `termios`. -/
def cp102Port (termios : Termios) : Port :=
  { mxupcieInitbrd (mxGetPciConf 0x10000 5) 0 (resetUart uartMsrCts) with
    infoTty := true
    tty := ⟨termios, false, false, true, false, false⟩ }

/-- 9600 baud and 8 bits, with `cflag` on top. -/
def cp102Termios (cflag : Word) : Termios := ⟨cflag ||| cs8 ||| 0x000D, 0, 0x11, 0x13⟩

/-- The same port started up on a page of zeros. -/
def cp102Started (termios : Termios) : Port :=
  startupUart (startupPage (cp102Port termios) fun _ => 0)

theorem cp102Started_started (termios : Termios) : Started (cp102Started termios) := by
  have hinit : (cp102Port termios).initialized = false := by
    show test asyncShareIrq asyncInitialized = false
    decide
  refine ⟨cp102Port termios, fun _ => 0, 0x60, false, hinit, ?_, startupUart_initialized _⟩
  have hbase : ¬ ((cp102Port termios).base = 0 ∨ (cp102Port termios).type = 0) :=
    not_or.mpr ⟨Nat.succ_ne_zero _, show port16550A ≠ 0 by decide⟩
  simp only [mxStartup, hinit, Bool.false_eq_true, if_false, if_neg hbase]
  rfl

end MoxaDrivers.Mxupcie

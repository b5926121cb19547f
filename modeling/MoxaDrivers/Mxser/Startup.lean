import MoxaDrivers.Mxser.Port

/-!
# Starting a port up and shutting it down

`mxser_startup` and `mxser_shutdown`. The outcome of the page allocation, the
line status that the presence check reads and whether the caller has
`CAP_SYS_ADMIN` are arguments; `none` is the return value 0.
-/

namespace MoxaDrivers.Mxser

open MoxaDrivers.Bits

inductive Errno where
  | enomem
  | enodev
  | eagain
  | erestartsys
  | ebusy
  | eio
  | eperm
  | efault
  deriving DecidableEq, Repr

/-- `set_bit(TTY_IO_ERROR, &info->tty->flags)`, or the clearing of the bit,
where there is a tty. -/
def markIoError (p : Port) (b : Bool) : Port :=
  { p with tty := { p.tty with ioError := if p.infoTty then b else p.tty.ioError } }

/-- The FIFOs are cleared and disabled. -/
def clearFifos (p : Port) : Port :=
  let clear := uartFcrClearRcvr ||| uartFcrClearXmit
  { p with uart := { p.uart with
    fcr := if p.isMoxaMustChipFlag ≠ 0 then clear ||| moxaMustFcrGdaModeEnable else clear } }

/-- The part of `mxser_startup` before the presence check: the new page is kept
only where the port holds none. -/
def startupPage (p : Port) (page : Page) : Port :=
  clearFifos { p with ring := { p.ring with buf := some (p.ring.buf.getD page) } }

/-- The part of `mxser_startup` after the presence check. -/
def startupUart (p : Port) : Port :=
  let p := p.inbMsr.2
  let p := { p with uart := { p.uart with lcr := uartLcrWlen8 } }
  let p := p.setMcr (uartMcrDtr ||| uartMcrRts)
  let ier := uartIerMsi ||| uartIerRlsi ||| uartIerRdi
  let p := p.setIer (if p.isMoxaMustChipFlag ≠ 0 then ier ||| moxaMustIerEgdai else ier)
  let p := p.inbMsr.2
  let p := markIoError p false
  { p with
    ring := { p.ring with cnt := 0, head := 0, tail := 0 }
    flags := p.flags ||| asyncInitialized }

/-- `mxser_startup`: what it returns, and the port. -/
def mxserStartup (p : Port) (page : Option Page) (lsr : Byte) (admin : Bool) :
    Option Errno × Port :=
  match page with
  | none => (some .enomem, p)
  | some page =>
      if p.initialized then (none, p)
      else if p.base = 0 ∨ p.type = 0 then (none, markIoError p true)
      else
        let p := startupPage p page
        -- nothing answers: success is for those who may set the port up by hand
        if lsr = 0xFF then
          if admin then (none, markIoError p true) else (some .enodev, p)
        else (none, startupUart p)

/-- The part of `mxser_shutdown` under `slock`. -/
def shutdownUart (p : Port) : Port :=
  let p := { p with ring := { p.ring with buf := none } }
  let p := p.setIer 0
  let p := p.setMcr (
    -- without a tty there is no `HUPCL` to ask
    if !p.infoTty || test p.tty.termios.cCflag hupcl
    then p.mcr &&& ~~~(uartMcrDtr ||| uartMcrRts) else p.mcr)
  let p := clearFifos p
  let p := markIoError p true
  { p with
    flags := p.flags &&& ~~~asyncInitialized
    uart := { p.uart with must :=
      if p.isMoxaMustChipFlag ≠ 0 then p.uart.must.setNoSoftwareFlowControl
      else p.uart.must } }

def mxserShutdown (p : Port) : Port :=
  if p.initialized then shutdownUart p else p

/-! ## What the two do -/

theorem startupUart_initialized (p : Port) : (startupUart p).initialized = true :=
  test_or_self (by decide)

theorem startupUart_dataOut (p : Port) : (startupUart p).uart.dataOut = p.uart.dataOut :=
  Uart.dataOut_congr rfl

theorem startupUart_infoTty (p : Port) : (startupUart p).infoTty = p.infoTty := by
  simp [startupUart, markIoError, Port.setIer, Port.setMcr, Port.inbMsr]

theorem startupUart_buf (p : Port) : (startupUart p).ring.buf = p.ring.buf := by
  simp [startupUart, markIoError, Port.setIer, Port.setMcr, Port.inbMsr]

theorem startupPage_infoTty (p : Port) (page : Page) :
    (startupPage p page).infoTty = p.infoTty := rfl

theorem shutdownUart_initialized (p : Port) : (shutdownUart p).initialized = false :=
  test_clear_self _ _

theorem mxserShutdown_down (p : Port) : (mxserShutdown p).initialized = false := by
  simp only [mxserShutdown]
  split
  · exact shutdownUart_initialized p
  · rename_i hdown
    exact Bool.eq_false_iff.mpr hdown

/-- Everything `mxser_startup` can do. -/
theorem mxserStartup_cases (p : Port) (page : Option Page) (lsr : Byte) (admin : Bool) :
    (page = none ∧ mxserStartup p page lsr admin = (some .enomem, p)) ∨
    (page ≠ none ∧ p.initialized = true ∧ mxserStartup p page lsr admin = (none, p)) ∨
    (page ≠ none ∧ p.initialized = false ∧ (p.base = 0 ∨ p.type = 0) ∧
      mxserStartup p page lsr admin = (none, markIoError p true)) ∨
    (∃ pg, page = some pg ∧ p.initialized = false ∧ p.base ≠ 0 ∧ p.type ≠ 0 ∧ lsr = 0xFF ∧
      mxserStartup p page lsr admin =
        if admin then (none, markIoError (startupPage p pg) true)
        else (some .enodev, startupPage p pg)) ∨
    (∃ pg, page = some pg ∧ p.initialized = false ∧ p.base ≠ 0 ∧ p.type ≠ 0 ∧ lsr ≠ 0xFF ∧
      mxserStartup p page lsr admin = (none, startupUart (startupPage p pg))) := by
  cases page with
  | none => exact .inl ⟨rfl, rfl⟩
  | some pg =>
      cases hi : p.initialized with
      | true => exact .inr (.inl ⟨nofun, rfl, by simp [mxserStartup, hi]⟩)
      | false =>
          by_cases hb : p.base = 0 ∨ p.type = 0
          · exact .inr (.inr (.inl ⟨nofun, rfl, hb, by simp [mxserStartup, hi, hb]⟩))
          · have hb' := not_or.mp hb
            by_cases hl : lsr = 0xFF
            · exact .inr (.inr (.inr (.inl ⟨pg, rfl, rfl, hb'.1, hb'.2, hl, by
                simp only [mxserStartup, hi, Bool.false_eq_true, if_false, if_neg hb, if_pos hl]⟩)))
            · exact .inr (.inr (.inr (.inr ⟨pg, rfl, rfl, hb'.1, hb'.2, hl, by
                simp only [mxserStartup, hi, Bool.false_eq_true, if_false, if_neg hb, if_neg hl]⟩)))

/-- A port that `mxser_startup` has just brought up: the port was not
initialised, and the call initialised it. -/
def Started (p : Port) : Prop :=
  ∃ (p₀ : Port) (page : Page) (lsr : Byte) (admin : Bool), p₀.initialized = false ∧
    mxserStartup p₀ (some page) lsr admin = (none, p) ∧ p.initialized = true

/-- It is the port that the last lines of `mxser_startup` leave. -/
theorem Started.eq {p : Port} (h : Started p) :
    ∃ p₀ page, p = startupUart (startupPage p₀ page) := by
  obtain ⟨p₀, page, lsr, admin, hi, hs, hp⟩ := h
  rcases mxserStartup_cases p₀ (some page) lsr admin with
    ⟨h, -⟩ | ⟨-, h, -⟩ | ⟨-, -, -, h⟩ | ⟨pg, -, -, -, -, -, h⟩ | ⟨pg, -, -, -, -, -, h⟩
  · cases h
  · rw [hi] at h
    cases h
  · -- no base address or no UART type: the port is still not initialised
    rw [h] at hs
    cases hs
    have hsame : (markIoError p₀ true).initialized = p₀.initialized :=
      Port.initialized_congr rfl
    rw [hsame, hi] at hp
    cases hp
  · rw [h] at hs
    split at hs
    · cases hs
      have hsame : (markIoError (startupPage p₀ pg) true).initialized = p₀.initialized :=
        Port.initialized_congr rfl
      rw [hsame, hi] at hp
      cases hp
    · cases hs
  · rw [h] at hs
    cases hs
    exact ⟨p₀, pg, rfl⟩

theorem Started.ring {p : Port} (h : Started p) :
    p.ring.buf.isSome ∧ p.ring.head = 0 ∧ p.ring.tail = 0 ∧ p.ring.cnt = 0 := by
  obtain ⟨p₀, page, rfl⟩ := h.eq
  exact ⟨rfl, rfl, rfl, rfl⟩

end MoxaDrivers.Mxser

import MoxaDrivers.Lib.Machine
import MoxaDrivers.Mxser.Speed
import MoxaDrivers.Mxupcie.Transmit

/-!
# Line rate and line settings

`write_div_scr`, `set_linear_baud`, `mx_set_baud`, `mx_change_speed` and
`mxupcie_set_termios`. `mxupcie.c` repeats from `mxser.c` the table of standard
rates, the rates of the `CBAUD` codes and the values for `UART_LCR`; these are
those of `Mxser.Speed`.

A rate of the table is made of the base rate and a divisor. Any other rate is
made of the clock `FREQUENCY`, a divisor, a prescaler `M` and a number of
samples per bit, which `set_linear_baud` looks for.
-/

namespace MoxaDrivers.Mxupcie

open MoxaDrivers.Bits MoxaDrivers.Machine MoxaDrivers.Mxser

/-! ## Rates outside the table -/

def frequency : Int := 14745600
def maxDivisor : Nat := 255
def maxSequence : Int := 46

/-- The value of `int` arithmetic, which wraps at 32 bits. -/
def int32 (x : Int) : Int := x.bmod (2 ^ 32)

/-- What the search has found: the smallest deviation so far and where. -/
structure LinearSearch where
  min : Int
  divisor : Int
  sequence : Int
  deriving DecidableEq, Repr

/-- The body of the loops: the pair `(i, j)` is taken if it comes closer. -/
def considerPair (setValue i : Int) (b : LinearSearch) (j : Int) : LinearSearch :=
  let rate := frequency.tdiv (i * j)
  let accuracy := if rate > setValue then int32 (rate - setValue) else int32 (setValue - rate)
  if b.min > accuracy then ⟨accuracy, i, j⟩ else b

/-- The values of `j`: from `MINSEQUENCE` in steps of one up to
`MAXSEQUENCE / 2`, from there in steps of two. -/
def sequences : List Int :=
  (List.range 21).map (fun k : Nat => (4 + k : Int)) ++
    (List.range 11).map fun k : Nat => (26 + 2 * k : Int)

/-- The double loop of `set_linear_baud`. -/
def searchLinear (setValue : Int) : LinearSearch :=
  (List.range maxDivisor).foldl
    (fun b k => sequences.foldl (considerPair setValue (k + 1 : Nat)) b) ⟨frequency, 0, 0⟩

/-- The second pair of loops, `SCR` from 12 down to 0 and `N` from 0 to 7: the
last pair with `16 - SCR + N = sequence` is kept. -/
def selectSamples (sequence : Int) : Int × Int :=
  (List.range 13).foldl (fun b i => (List.range 8).foldl
    (fun b (j : Nat) =>
      if (16 - (12 - i) + j : Int) = sequence then ((12 - i : Int), (j : Int)) else b) b) (0, 0)

/-- What `set_linear_baud` writes. -/
structure LinearBaud where
  div : Int
  scr : Byte
  cpr : Byte
  deriving DecidableEq, Repr

/-- The accuracy branch: a pair within three per cent is split into a prescaler
and samples, any other gets neither. -/
def splitSequence (best : LinearSearch) (deviation : Int) : LinearBaud :=
  if deviation ≤ 3 then
    let halved := best.sequence > maxSequence / 2
    let samples := selectSamples (if halved then best.sequence / 2 else best.sequence)
    let m : Int := if halved then 2 else 1
    ⟨best.divisor, BitVec.ofInt 8 samples.1, BitVec.ofInt 8 (m * 8 + samples.2)⟩
  else ⟨best.divisor, 0, 8⟩

/-- The computation of `set_linear_baud`. -/
def linearBaud (newspd : Int) : Except Fault LinearBaud := do
  let best := searchLinear newspd
  let deviation ← cdiv (int32 (best.min * 100)) (int32 (newspd * 100))
  return splitSequence best deviation

/-- The bit of `UART_MCR` that enables the prescaler. -/
def uartMcrPrescale : Byte := 0x80

/-- `write_div_scr`. -/
def writeDivScr (u : Uart) (div : Int) (scr : Byte) : Uart :=
  let oldsfr := u.sfr
  let u := { u with sfr := oldsfr &&& ~~~moxaSfrEnableTcnt }
  let u := { u with scr := scr }
  let u := { u with sfr := oldsfr }
  let lcr := u.lcr
  let u := { u with lcr := lcr ||| uartLcrDlab }
  let u := u.latch div
  { u with lcr := lcr }

/-- `set_linear_baud`; `UART_MCR` is read back and not taken from `info->MCR`. -/
def setLinearBaud (u : Uart) (newspd : Int) : Except Fault Uart := do
  let b ← linearBaud newspd
  let u := { u with mcr := u.mcr ||| uartMcrPrescale }
  let u := { u with cpr := b.cpr }
  return writeDivScr u b.div b.scr

/-! ## `mx_set_baud` -/

/-- The quotient; 0 asks for a hangup. -/
def baudQuot (r : RateInfo) (newspd : Int) : Except Fault Int :=
  if newspd ∉ mxvarBaudTable then do
    let quot ← cdiv r.baudBase r.speed
    return if r.speed ≤ 0 ∨ r.speed > r.maxCanSetBaudRate then 0 else quot
  else if newspd = 134 then return (2 * r.baudBase).tdiv 269
  else if newspd ≠ 0 then do
    let quot ← cdiv r.baudBase newspd
    return if quot = 0 then 1 else quot
  else return 0

/-- `info->timeout`: the time to send a FIFO full of data, computed in unsigned
32-bit arithmetic, and 0.02 seconds of slop. -/
def baudTimeout (HZ xmitFifoSize baudBase quot : Int) : Except Fault Int := do
  let t ← cdiv ((xmitFifoSize * HZ * 10 * quot) % 2 ^ 32) baudBase
  return t + HZ.tdiv 50

/-- The rate fields that `mx_set_baud` writes. -/
def baudRate (r : RateInfo) (newspd timeout : Int) : RateInfo :=
  { r with
    realbaud := newspd
    speed := if newspd = 134 then 134 else r.speed
    timeout := timeout }

/-- The registers of a standard rate: the divisor, and a prescaler of one. The
number of samples (`MOXA_PUART_SCR`) is not written. -/
def latchStandard (u : Uart) (quot : Int) : Uart :=
  let cval := u.lcr
  let u := { u with lcr := cval ||| uartLcrDlab }
  let u := u.latch quot
  let u := { u with lcr := cval }
  { u with cpr := 0x08 }

/-- The last part of `mx_set_baud`: DTR follows the quotient, and a standard
rate is latched. -/
def finishBaud (p : Port) (newspd quot : Int) : Port :=
  if quot = 0 then p.setMcr (p.mcr &&& ~~~uartMcrDtr)
  else
    let p := p.setMcr (p.mcr ||| uartMcrDtr)
    if newspd ∈ mxvarBaudTable then { p with uart := latchStandard p.uart quot } else p

def mxSetBaud (HZ : Int) (p : Port) (newspd : Int) : Except Fault Port :=
  if !p.infoTty then .ok p
  else if p.base = 0 then .ok p
  else if newspd > p.rate.maxCanSetBaudRate then .ok p
  else do
    let uart ← (if newspd ∉ mxvarBaudTable then setLinearBaud p.uart newspd else .ok p.uart)
    let quot ← baudQuot p.rate newspd
    let timeout ← baudTimeout HZ p.fifo.xmitFifoSize p.rate.baudBase quot
    return finishBaud { p with uart := uart, rate := baudRate p.rate newspd timeout } newspd quot

/-! ## `mx_change_speed` -/

/-- `baud`, which `info->speed` is set to as well. -/
def resolveBaud (p : Port) (cflag : Word) : Int :=
  if cflag &&& cbaudMask = b4000000 then p.rate.speed
  else match cbaudRates.lookup (cflag &&& cbaudMask) with
    | some 38400 => spdRate p.flags p.rate.customBaudRate
    | some r => r
    | none => 0

/-- `info->speed = speed`. -/
def Port.setSpeed (p : Port) (speed : Int) : Port :=
  { p with rate := { p.rate with speed := speed } }

/-- CTS flow control, with the write of `info->MCR` after it; `reg_flag` is
`MOXA_PUART_EFR` with the automatic flow control added or taken away. -/
def changeSpeedCts (p : Port) (cflag : Word) : Byte × Port :=
  let auto := moxaEfrAutoRts ||| moxaEfrAutoCts
  let p := { p with ier := p.ier &&& ~~~uartIerMsi }
  let regFlag := p.uart.efr
  if test cflag crtscts then
    let p := { p with flags := p.flags ||| asyncCtsFlow, ier := p.ier ||| uartIerMsi }
    (regFlag ||| auto, p.setMcr p.mcr)
  else
    let p := { p with flags := p.flags &&& ~~~asyncCtsFlow }
    (regFlag &&& ~~~auto, p.setMcr p.mcr)

/-- The carrier check. -/
def changeSpeedCd (p : Port) (cflag : Word) : Port :=
  let isLocal := test cflag clocal
  { p with flags := if isLocal then p.flags &&& ~~~asyncCheckCd else p.flags ||| asyncCheckCd }
    |>.setIer (if isLocal then p.ier else p.ier ||| uartIerMsi)

/-- The parity check flags. -/
def changeSpeedMasks (p : Port) : Port :=
  let iflag := p.tty.termios.cIflag
  let errors := uartLsrOe ||| uartLsrPe ||| uartLsrFe
  let both := test iflag ignbrk && test iflag ignpar
  { p with
    readStatusMask := (uartLsrOe ||| uartLsrThre ||| uartLsrDr) |||
      (if test iflag inpck then uartLsrFe ||| uartLsrPe else 0) |||
      (if test iflag (brkint ||| parmrk) then uartLsrBi else 0) |||
      (if test iflag ignbrk then uartLsrBi else 0) ||| (if both then errors else 0)
    ignoreStatusMask := (if test iflag ignbrk then uartLsrBi else 0) |||
      (if both then errors else 0) }

/-- Software flow control, and the writes at the end. -/
def changeSpeedFlow (u : Uart) (t : Termios) (regFlag fcr cval : Byte) : Uart :=
  let regFlag := if test t.cIflag ixon then regFlag ||| moxaEfrTxSw else regFlag &&& ~~~moxaEfrTxSw
  let regFlag := if test t.cIflag ixoff then regFlag ||| moxaEfrRxSw else regFlag &&& ~~~moxaEfrRxSw
  { u with
    xon1 := t.startChar
    xon2 := t.startChar
    xoff1 := t.stopChar
    xoff2 := t.stopChar
    efr := regFlag
    fcr := fcr
    lcr := cval }

/-- Everything after the rate. -/
def changeSpeedLine (p : Port) : Port :=
  let cflag := p.tty.termios.cCflag
  let (regFlag, p) := changeSpeedCts p cflag
  let p := changeSpeedMasks (changeSpeedCd p cflag)
  { p with uart :=
    changeSpeedFlow p.uart p.tty.termios regFlag uartFcrEnableFifo (lineControl cflag) }

def mxChangeSpeed (HZ : Int) (p : Port) : Except Fault Port :=
  if !p.infoTty then .ok p
  else if p.base = 0 then .ok p
  else do
    let baud := resolveBaud p p.tty.termios.cCflag
    let p ← mxSetBaud HZ (p.setSpeed baud) baud
    return changeSpeedLine p

/-- The end of `mxupcie_set_termios`: what leaving `CRTSCTS` and `IXON` starts. -/
def startAfterTermios (p : Port) (old : Termios) (changed : Bool) : Port :=
  let new := p.tty.termios
  let p :=
    if changed && test old.cCflag crtscts && !test new.cCflag crtscts then
      mxupcieStart { p with tty := { p.tty with hwStopped := false } }
    else p
  if test old.cIflag ixon && !test new.cIflag ixon then
    mxupcieStart { p with tty := { p.tty with stopped := false } }
  else p

/-- `mxupcie_set_termios`; the tty core has put the new settings in
`tty->termios`. -/
def mxupcieSetTermios (HZ : Int) (p : Port) (old : Termios) : Except Fault Port := do
  let new := p.tty.termios
  let changed := new.cCflag != old.cCflag ||
    relevantIflag new.cIflag != relevantIflag old.cIflag
  let p ← (if changed then mxChangeSpeed HZ p else .ok p)
  return startAfterTermios p old changed

/-! ## What a request for a rate does -/

/-- What is left of the writes of `set_linear_baud`: `SFR` and `LCR` are put
back. -/
theorem setLinearBaud_ok {u v : Uart} {newspd : Int} (h : setLinearBaud u newspd = .ok v) :
    ∃ b, linearBaud newspd = .ok b ∧ v = { u with
      mcr := u.mcr ||| uartMcrPrescale
      cpr := b.cpr
      scr := b.scr
      dll := BitVec.ofInt 8 b.div
      dlm := BitVec.ofInt 8 (b.div / 256) } := by
  obtain ⟨b, hb, hv⟩ := bind_ok_iff.mp h
  cases hv
  exact ⟨b, hb, rfl⟩

/-- What a request for a rate that is not refused works out. -/
theorem mxSetBaud_values {HZ : Int} {p q : Port} {newspd : Int} (htty : p.infoTty = true)
    (hbase : p.base ≠ 0) (hmax : newspd ≤ p.rate.maxCanSetBaudRate)
    (h : mxSetBaud HZ p newspd = .ok q) :
    ∃ uart quot timeout,
      (if newspd ∉ mxvarBaudTable then setLinearBaud p.uart newspd else .ok p.uart) = .ok uart ∧
      baudQuot p.rate newspd = .ok quot ∧
      baudTimeout HZ p.fifo.xmitFifoSize p.rate.baudBase quot = .ok timeout ∧
      q = finishBaud { p with uart := uart, rate := baudRate p.rate newspd timeout }
        newspd quot := by
  simp only [mxSetBaud] at h
  rw [if_neg (by simp [htty]), if_neg hbase, if_neg (Int.not_lt.mpr hmax)] at h
  obtain ⟨uart, huart, h⟩ := bind_ok_iff.mp h
  obtain ⟨quot, hquot, h⟩ := bind_ok_iff.mp h
  obtain ⟨timeout, htimeout, h⟩ := bind_ok_iff.mp h
  cases h
  exact ⟨uart, quot, timeout, huart, hquot, htimeout, rfl⟩

/-- Everything `mx_set_baud` can do: it refuses the request, or it programs the
rate and finishes. -/
theorem mxSetBaud_cases {HZ : Int} {p q : Port} {newspd : Int}
    (h : mxSetBaud HZ p newspd = .ok q) :
    (q = p ∧ (p.infoTty = false ∨ p.base = 0 ∨ newspd > p.rate.maxCanSetBaudRate)) ∨
    (newspd ≤ p.rate.maxCanSetBaudRate ∧ ∃ uart quot timeout,
      (if newspd ∉ mxvarBaudTable then setLinearBaud p.uart newspd else .ok p.uart) = .ok uart ∧
      baudQuot p.rate newspd = .ok quot ∧
      q = finishBaud { p with uart := uart, rate := baudRate p.rate newspd timeout }
        newspd quot) := by
  by_cases hno : p.infoTty = false ∨ p.base = 0 ∨ newspd > p.rate.maxCanSetBaudRate
  · have hskip : mxSetBaud HZ p newspd = .ok p := by
      simp only [mxSetBaud]
      split
      · rfl
      · split
        · rfl
        · split
          · rfl
          · next htty hbase hmax =>
              obtain hno | hno | hno := hno
              · rw [hno] at htty
                exact absurd rfl htty
              · exact absurd hno hbase
              · exact absurd hno hmax
    cases hskip.symm.trans h
    exact .inl ⟨rfl, hno⟩
  · obtain ⟨htty, hno⟩ := not_or.mp hno
    obtain ⟨hbase, hmax⟩ := not_or.mp hno
    have hmax := Int.not_lt.mp hmax
    obtain ⟨uart, quot, timeout, huart, hquot, -, hq⟩ :=
      mxSetBaud_values (by simpa using htty) hbase hmax h
    exact .inr ⟨hmax, uart, quot, timeout, huart, hquot, hq⟩

theorem finishBaud_frame (p : Port) (newspd quot : Int) :
    ∃ mcr u, finishBaud p newspd quot = { p with mcr := mcr, uart := u } ∧
      u.ier = p.uart.ier := by
  unfold finishBaud
  split
  · exact ⟨_, _, rfl, rfl⟩
  · simp only []
    split
    · exact ⟨_, _, rfl, rfl⟩
    · exact ⟨_, _, rfl, rfl⟩

/-- The rate, the modem control shadow and the UART, its interrupt enable
register excepted, are all that a request for a rate touches. -/
theorem mxSetBaud_frame {HZ : Int} {p q : Port} {newspd : Int}
    (h : mxSetBaud HZ p newspd = .ok q) :
    ∃ rate mcr u, q = { p with rate := rate, mcr := mcr, uart := u } ∧ u.ier = p.uart.ier := by
  rcases mxSetBaud_cases h with ⟨rfl, -⟩ | ⟨-, uart, quot, timeout, huart, -, rfl⟩
  · exact ⟨q.rate, q.mcr, q.uart, rfl, rfl⟩
  · obtain ⟨mcr, u, hfinish, hier⟩ := finishBaud_frame
      { p with uart := uart, rate := baudRate p.rate newspd timeout } newspd quot
    have hlinear : uart.ier = p.uart.ier := by
      split at huart
      · obtain ⟨b, -, rfl⟩ := setLinearBaud_ok huart
        rfl
      · cases huart
        rfl
    exact ⟨_, mcr, u, hfinish, hier.trans hlinear⟩

/-- The CTS section takes the modem status interrupt off in the shadow, and sets
it again under `CRTSCTS`. -/
theorem changeSpeedCts_frame (p : Port) (cflag : Word) :
    ∃ flags ier u, (changeSpeedCts p cflag).2
        = { p with flags := flags, ier := ier, uart := u } ∧
      test ier uartIerThri = test p.ier uartIerThri := by
  simp only [changeSpeedCts]
  split
  · refine ⟨_, _, _, rfl, ?_⟩
    rw [test_or_of_disjoint (by decide), test_clear_of_disjoint (by decide)]
  · exact ⟨_, _, _, rfl, test_clear_of_disjoint (by decide)⟩

/-- What follows the rate leaves the transmit interrupt as it is, and the
interrupt enable register as the shadow. -/
theorem changeSpeedLine_frame (p : Port) :
    ∃ flags ier rs is u, changeSpeedLine p = { p with
      flags := flags
      ier := ier
      readStatusMask := rs
      ignoreStatusMask := is
      uart := u } ∧ u.ier = ier ∧ test ier uartIerThri = test p.ier uartIerThri := by
  obtain ⟨flags, ier, u, hcts, hthri⟩ := changeSpeedCts_frame p p.tty.termios.cCflag
  simp only [changeSpeedLine]
  simp only [hcts]
  refine ⟨_, _, _, _, _, rfl, rfl, ?_⟩
  rw [← hthri]
  show test (if test p.tty.termios.cCflag clocal then ier else ier ||| uartIerMsi) uartIerThri = _
  split
  · rfl
  · exact test_or_of_disjoint (by decide)

/-- Everything `mx_change_speed` can do. -/
theorem mxChangeSpeed_frame {HZ : Int} {p q : Port} (h : mxChangeSpeed HZ p = .ok q) :
    q = p ∨ ∃ flags ier rs is rate mcr u, q = { p with
        flags := flags
        ier := ier
        mcr := mcr
        readStatusMask := rs
        ignoreStatusMask := is
        rate := rate
        uart := u } ∧ u.ier = ier ∧ test ier uartIerThri = test p.ier uartIerThri := by
  simp only [mxChangeSpeed] at h
  split at h
  · cases h
    exact .inl rfl
  · split at h
    · cases h
      exact .inl rfl
    · obtain ⟨r, hr, hq⟩ := bind_ok_iff.mp h
      cases hq
      obtain ⟨rate, mcr, u, rfl, -⟩ := mxSetBaud_frame hr
      obtain ⟨flags, ier, rs, is, u', hline, hier, hthri⟩ :=
        changeSpeedLine_frame { p.setSpeed _ with rate := rate, mcr := mcr, uart := u }
      exact .inr ⟨flags, ier, rs, is, rate, mcr, u', hline, hier, hthri⟩

/-! ## Rates that go through -/

/-- An open port, of any board: nothing changes `baud_base` and
`MaxCanSetBaudRate` after the set-up. -/
structure RateReady (p : Port) : Prop where
  tty : p.infoTty = true
  base : p.base ≠ 0
  baudBase : p.rate.baudBase = 921600
  maxRate : p.rate.maxCanSetBaudRate = 921600

theorem RateReady.congr {p q : Port} (h : RateReady p) (htty : q.infoTty = p.infoTty)
    (hbase : q.base = p.base) (hbb : q.rate.baudBase = p.rate.baudBase)
    (hmax : q.rate.maxCanSetBaudRate = p.rate.maxCanSetBaudRate) : RateReady q :=
  ⟨htty.trans h.tty, hbase ▸ h.base, hbb.trans h.baudBase, hmax.trans h.maxRate⟩

/-- Without tty or base address, or above the maximum, nothing is done. -/
theorem mxSetBaud_skips (HZ : Int) {p : Port} {newspd : Int}
    (h : p.infoTty = false ∨ p.base = 0 ∨ newspd > p.rate.maxCanSetBaudRate) :
    mxSetBaud HZ p newspd = .ok p := by
  rcases h with htty | hbase | hmax
  · simp [mxSetBaud, htty]
  · simp [mxSetBaud, hbase]
  · simp [mxSetBaud, hmax]

theorem int32_of_lt {x : Int} (h0 : 0 ≤ x) (hx : x < 2 ^ 31) : int32 x = x :=
  Int.bmod_eq_of_le (by omega) (by omega)

theorem mxvarBaudTable_of_zero : (0 : Int) ∈ mxvarBaudTable := List.mem_cons_self

/-- The search divides by the rate, in 32-bit arithmetic. -/
theorem linearBaud_ok {newspd : Int} (h1 : 1 ≤ newspd) (hmax : newspd ≤ 921600) :
    ∃ b, linearBaud newspd = .ok b := by
  have hfit : int32 (newspd * 100) = newspd * 100 := int32_of_lt (by omega) (by omega)
  have hne : int32 (newspd * 100) ≠ 0 := by omega
  rw [linearBaud, cdiv_of_ne _ hne]
  exact ⟨_, rfl⟩

theorem baudTimeout_ok (HZ xmitFifoSize quot : Int) {baudBase : Int} (h : baudBase ≠ 0) :
    ∃ t, baudTimeout HZ xmitFifoSize baudBase quot = .ok t := by
  rw [baudTimeout, cdiv_of_ne _ h]
  exact ⟨_, rfl⟩

theorem baudQuot_ok {r : RateInfo} {newspd : Int} (h : newspd ∈ mxvarBaudTable ∨ r.speed ≠ 0) :
    ∃ quot, baudQuot r newspd = .ok quot := by
  by_cases hstd : newspd ∈ mxvarBaudTable
  · simp only [baudQuot, not_not.mpr hstd, if_false]
    by_cases h134 : newspd = 134
    · exact ⟨_, if_pos h134⟩
    · rw [if_neg h134]
      by_cases h0 : newspd ≠ 0
      · rw [if_pos h0, cdiv_of_ne _ h0]
        exact ⟨_, rfl⟩
      · exact ⟨_, if_neg h0⟩
  · simp only [baudQuot, if_pos hstd, cdiv_of_ne _ (h.resolve_left hstd)]
    exact ⟨_, rfl⟩

/-- No division of `mx_set_baud` and `set_linear_baud` has a zero divisor then,
if the rate is a standard one or `info->speed` is not 0. -/
theorem mxSetBaud_returns (HZ : Int) {p : Port} {newspd : Int} (hp : RateReady p)
    (h0 : 0 ≤ newspd) (hdiv : newspd ∈ mxvarBaudTable ∨ p.rate.speed ≠ 0) :
    ∃ q, mxSetBaud HZ p newspd = .ok q := by
  by_cases hskip : p.infoTty = false ∨ p.base = 0 ∨ newspd > p.rate.maxCanSetBaudRate
  · exact ⟨p, mxSetBaud_skips HZ hskip⟩
  · obtain ⟨-, hrest⟩ := not_or.mp hskip
    obtain ⟨-, hle⟩ := not_or.mp hrest
    have hmax : newspd ≤ 921600 := by
      rw [hp.maxRate] at hle
      omega
    have hbb : p.rate.baudBase ≠ 0 := by
      rw [hp.baudBase]
      decide
    have huart : ∃ u, (if newspd ∉ mxvarBaudTable then setLinearBaud p.uart newspd
        else .ok p.uart) = .ok u := by
      by_cases hstd : newspd ∉ mxvarBaudTable
      · have hne : newspd ≠ 0 := fun hzero => hstd (hzero ▸ mxvarBaudTable_of_zero)
        obtain ⟨b, hb⟩ := linearBaud_ok (by omega) hmax
        rw [if_pos hstd, setLinearBaud, hb]
        exact ⟨_, rfl⟩
      · exact ⟨_, if_neg hstd⟩
    obtain ⟨u, hu⟩ := huart
    obtain ⟨quot, hquot⟩ := baudQuot_ok hdiv
    obtain ⟨t, ht⟩ := baudTimeout_ok HZ p.fifo.xmitFifoSize quot hbb
    have htty : ¬ (!p.infoTty) = true := by simp [hp.tty]
    rw [mxSetBaud, if_neg htty, if_neg hp.base, if_neg hle, hu]
    exact ⟨_, bind_ok_iff.mpr ⟨u, rfl, bind_ok_iff.mpr ⟨quot, hquot,
      bind_ok_iff.mpr ⟨t, ht, rfl⟩⟩⟩⟩

/-- So for the rate that `mx_change_speed` has put in `info->speed`. -/
theorem mxSetBaud_completes (HZ : Int) {p : Port} {newspd : Int} (hp : RateReady p)
    (hspeed : p.rate.speed = newspd) (h0 : 0 ≤ newspd) : ∃ q, mxSetBaud HZ p newspd = .ok q := by
  refine mxSetBaud_returns HZ hp h0 ?_
  by_cases hzero : newspd = 0
  · exact .inl (hzero ▸ mxvarBaudTable_of_zero)
  · exact .inr (hspeed ▸ hzero)

end MoxaDrivers.Mxupcie

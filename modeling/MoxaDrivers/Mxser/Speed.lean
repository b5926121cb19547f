import MoxaDrivers.Lib.Machine
import MoxaDrivers.Mxser.Board
import MoxaDrivers.Mxser.Modem
import MoxaDrivers.Mxser.Transmit

/-!
# Line rate and line settings

`mxser_set_baud`, `mxser_change_speed`, `mxser_set_termios` and the requests
`SMARTIO_SET_SPECIAL_BAUD_RATE`, `SMARTIO_GET_SPECIAL_BAUD_RATE`,
`MOXA_ASPP_SETBAUD` and `MOXA_ASPP_GETBAUD`.

A division whose divisor is zero is an error of the model. `mxser_change_speed`
is cut into the sections that its comments mark.
-/

namespace MoxaDrivers.Mxser

open MoxaDrivers.Bits MoxaDrivers.Machine

/-! ## Rates -/

def mxvarBaudTable : List Int :=
  [0, 50, 75, 110, 134, 150, 200, 300, 600, 1200, 1800, 2400, 4800, 9600, 19200, 38400,
    57600, 115200, 230400, 460800, 921600, 0]

/-- The `CBAUD` codes of the rates that `mxser_change_speed` knows. -/
def cbaudRates : List (Word × Int) :=
  [(0x1007, 921600), (0x1004, 460800), (0x1003, 230400), (0x1002, 115200), (0x1001, 57600),
    (0x000F, 38400), (0x000E, 19200), (0x000D, 9600), (0x000C, 4800), (0x000B, 2400),
    (0x000A, 1800), (0x0009, 1200), (0x0008, 600), (0x0007, 300), (0x0006, 200), (0x0005, 150),
    (0x0004, 134), (0x0003, 110), (0x0002, 75), (0x0001, 50)]

/-- The code that stands for a rate outside the table. -/
def b4000000 : Word := 0x100F

/-- The rate that `B38400` stands for under the `ASYNC_SPD` flags. -/
def spdRate (flags : Word) (customBaudRate : Int) : Int :=
  if flags &&& asyncSpdMask = asyncSpdHi then 57600
  else if flags &&& asyncSpdMask = asyncSpdVhi then 115200
  else if flags &&& asyncSpdMask = asyncSpdShi then 230400
  else if flags &&& asyncSpdMask = asyncSpdWarp then 460800
  else if flags &&& asyncSpdMask = asyncSpdCust then customBaudRate
  else 38400

/-- `baud`, which `info->speed` is set to as well. -/
def resolveBaud (p : Port) (cflag : Word) : Int :=
  if cflag &&& cbaudMask = b4000000 then p.rate.speed
  else match cbaudRates.lookup (cflag &&& cbaudMask) with
    | some 38400 => spdRate p.flags p.rate.customBaudRate
    | some r => r
    | none => 0

/-- `info->speed = speed`. -/
def Port.setSpeed (p : Port) (speed : Int) : Port :=
  { p with rate := { p.rate with speed := speed } }

/-! ## `mxser_set_baud` -/

/-- The quotient for the divisor latch; 0 asks for a hangup. -/
def baudQuot (r : RateInfo) (newspd : Int) : Except Fault Int :=
  if newspd ∉ mxvarBaudTable then do
    -- divided by what `info->speed` holds, which need not be `newspd`
    let quot ← cdiv r.baudBase r.speed
    return if r.speed ≤ 0 ∨ r.speed > r.maxCanSetBaudRate then 0 else quot
  else if newspd = 134 then return (2 * r.baudBase).tdiv 269
  else if newspd ≠ 0 then do
    let quot ← cdiv r.baudBase newspd
    return if quot = 0 then 1 else quot
  else return 0

/-- `info->timeout`: the time to send a FIFO full of data, computed in unsigned
32-bit arithmetic, and 0.02 seconds of slop. -/
def baudTimeout (HZ : Int) (p : Port) (quot : Int) : Except Fault Int := do
  let t ← cdiv ((p.fifo.xmitFifoSize * HZ * 10 * quot) % 2 ^ 32) p.rate.baudBase
  return t + HZ.tdiv 50

/-- What goes to the MUST chips' fractional divisor register. -/
def baudEnum (r : RateInfo) (newspd : Int) : Except Fault Int :=
  if newspd ∉ mxvarBaudTable then do
    let quot ← cmod r.baudBase r.speed
    let quot := quot * 8
    let rem ← cmod quot r.speed
    let div ← cdiv quot r.speed
    return if rem > r.speed.tdiv 2 then div + 1 else div
  else return 0

/-- The driver's rounding of `8 * rem / speed`. -/
def roundEighths (rem speed : Int) : Int :=
  if (rem * 8).tmod speed > speed.tdiv 2 then (rem * 8).tdiv speed + 1 else (rem * 8).tdiv speed

/-- The rate fields that `mxser_set_baud` writes. -/
def baudRate (r : RateInfo) (newspd timeout : Int) : RateInfo :=
  { r with
    realbaud := newspd
    speed := if newspd = 134 then 134 else r.speed
    timeout := timeout }

/-- The last part of `mxser_set_baud` with a zero quotient: DTR drops. -/
def hangupBaud (p : Port) : Port := p.setMcr (p.mcr &&& ~~~uartMcrDtr)

/-- `SET_MOXA_MUST_ENUM_VALUE`, which the source does not ask the chip for: one
without banks has `UART_IIR` and `UART_FCR` where the bank is selected, and
`UART_MCR` where the value goes. -/
def setEnum (p : Port) (value : Byte) : Port :=
  let plain : Bool := p.isMoxaMustChipFlag = 0
  { p with uart := { p.uart with
    must := p.uart.must.setEnumValue value
    fcr := if plain then (p.uart.iir &&& ~~~moxaMustEfrBankMask) ||| moxaMustEfrBank2
      else p.uart.fcr
    mcr := if plain then value else p.uart.mcr } }

/-- The last part of `mxser_set_baud`: DTR rises and the divisor is latched. -/
def latchBaud (p : Port) (quot enum : Int) : Port :=
  let p := p.setMcr (p.mcr ||| uartMcrDtr)
  let p := { p with uart := { p.uart with
    dll := BitVec.ofInt 8 quot
    dlm := BitVec.ofInt 8 (quot / 256) } }
  setEnum p (BitVec.ofInt 8 enum)

def mxserSetBaud (HZ : Int) (p : Port) (newspd : Int) : Except Fault Port :=
  if !p.infoTty then .ok p
  else if p.base = 0 then .ok p
  else if newspd > p.rate.maxCanSetBaudRate then .ok p
  else do
    let quot ← baudQuot p.rate newspd
    let timeout ← baudTimeout HZ p quot
    -- the rate is on record before it is known whether it can be latched
    let p := { p with rate := baudRate p.rate newspd timeout }
    if quot = 0 then return hangupBaud p
    else
      let enum ← baudEnum p.rate newspd
      return latchBaud p quot enum

/-! ## `mxser_change_speed` -/

/-- Byte size and parity, for `UART_LCR`. -/
def lineControl (cflag : Word) : Byte :=
  let size : Byte :=
    if cflag &&& csize = cs6 then 0x01
    else if cflag &&& csize = cs7 then 0x02
    else if cflag &&& csize = cs8 then 0x03
    else 0x00
  size ||| (if test cflag cstopb then 0x04 else 0) |||
    (if test cflag parenb then uartLcrParity else 0) |||
    (if test cflag parodd then 0 else uartLcrEpar) |||
    (if test cflag cmspar then uartLcrSpar else 0)

/-- The value for `UART_FCR`. -/
def fifoControl (p : Port) : Byte :=
  if p.type = port8250 ∨ p.type = port16450 then
    if p.isMoxaMustChipFlag ≠ 0 then uartFcrEnableFifo ||| moxaMustFcrGdaModeEnable else 0
  else if p.isMoxaMustChipFlag ≠ 0 then uartFcrEnableFifo ||| moxaMustFcrGdaModeEnable
  else uartFcrEnableFifo |||
    (if p.fifo.rxTrigger = 1 then uartFcrTrigger1
     else if p.fifo.rxTrigger = 4 then uartFcrTrigger4
     else if p.fifo.rxTrigger = 8 then uartFcrTrigger8
     else uartFcrTrigger14)

/-- The MUST chips' registers are written, on a MUST chip. -/
def setMust (p : Port) (f : MustRegs → MustRegs) : Port :=
  { p with uart := { p.uart with
    must := if p.isMoxaMustChipFlag ≠ 0 then f p.uart.must else p.uart.must } }

/-- `SET_MOXA_MUST_FIFO_VALUE(info)`. -/
def setMustFifo (p : Port) : Port :=
  setMust p fun m => m.setFifoValue (BitVec.ofInt 8 p.fifo.rxHighWater)
    (BitVec.ofInt 8 p.fifo.rxTrigger) (BitVec.ofInt 8 p.fifo.rxLowWater)

/-- `info->IER &= ~UART_IER_MSI; info->MCR &= ~UART_MCR_AFE`, both in the shadows
only. -/
def clearCts (p : Port) : Port :=
  { p with ier := p.ier &&& ~~~uartIerMsi, mcr := p.mcr &&& ~~~uartMcrAfe }

def enableCts (p : Port) : Port :=
  { p with flags := p.flags ||| asyncCtsFlow, ier := p.ier ||| uartIerMsi }

/-- CTS is read and taken over. -/
def takeCts (p : Port) : Port :=
  let (status, p) := p.inbMsr
  ctsChange p status

/-- CTS flow control flag and modem status interrupts, with the write of
`info->MCR` at the end. -/
def changeSpeedCts (p : Port) (cflag : Word) : Port :=
  let p := clearCts p
  if test cflag crtscts then
    let p := enableCts p
    if p.autoCts then p.setMcr (p.mcr ||| uartMcrAfe)
    else
      let p := takeCts p
      p.setMcr p.mcr
  else
    let p := { p with flags := p.flags &&& ~~~asyncCtsFlow }
    p.setMcr p.mcr

/-- The carrier check. -/
def changeSpeedCd (p : Port) (cflag : Word) : Port :=
  let isLocal := test cflag clocal
  { p with flags := if isLocal then p.flags &&& ~~~asyncCheckCd else p.flags ||| asyncCheckCd }
    |>.setIer (if isLocal then p.ier else p.ier ||| uartIerMsi)

/-- The parity check flags. -/
def changeSpeedMasks (p : Port) : Port :=
  let iflag := p.tty.termios.cIflag
  let errors := uartLsrOe ||| uartLsrPe ||| uartLsrFe
  let both := test iflag ignbrk && test iflag ignpar
  { p with
    readStatusMask := (uartLsrOe ||| uartLsrThre ||| uartLsrDr) |||
      (if test iflag inpck then uartLsrFe ||| uartLsrPe else 0) |||
      (if test iflag (brkint ||| parmrk) then uartLsrBi else 0) |||
      (if test iflag ignbrk then uartLsrBi else 0) ||| (if both then errors else 0)
    ignoreStatusMask := (if test iflag ignbrk then uartLsrBi else 0) |||
      (if both then errors else 0) }

/-- Software flow control in a MUST chip. -/
def mustFlowControl (t : Termios) (m : MustRegs) : MustRegs :=
  let m := (m.setXon1Value t.startChar).setXoff1Value t.stopChar
  let m :=
    if test t.cIflag ixon then m.enableRxSoftwareFlowControl else m.disableRxSoftwareFlowControl
  if test t.cIflag ixoff then m.enableTxSoftwareFlowControl else m.disableTxSoftwareFlowControl

/-- Everything after the rate. -/
def changeSpeedLine (p : Port) : Port :=
  let cflag := p.tty.termios.cCflag
  let cval := lineControl cflag
  let fcr := fifoControl p
  let p := setMustFifo p
  let p := changeSpeedCts p cflag
  let p := changeSpeedCd p cflag
  let p := changeSpeedMasks p
  let p := setMust p (mustFlowControl p.tty.termios)
  { p with uart := { p.uart with fcr := fcr, lcr := cval } }

/-- The rate, unless `mxser_set_baud_method` leaves it to `MOXA_ASPP_SETBAUD`. -/
def changeSpeedBaud (HZ : Int) (p : Port) : Except Fault Port :=
  if p.rate.setBaudMethod = 0 then
    let baud := resolveBaud p p.tty.termios.cCflag
    mxserSetBaud HZ (p.setSpeed baud) baud
  else .ok p

def mxserChangeSpeed (HZ : Int) (p : Port) : Except Fault Port :=
  if !p.infoTty then .ok p
  else if p.base = 0 then .ok p
  else do
    let p ← changeSpeedBaud HZ p
    return changeSpeedLine p

/-- `RELEVANT_IFLAG`. -/
def relevantIflag (iflag : Word) : Word :=
  iflag &&& (ignbrk ||| brkint ||| ignpar ||| parmrk ||| inpck ||| ixon ||| ixoff)

/-- The end of `mxser_set_termios`: what leaving `CRTSCTS` and `IXON` starts. -/
def startAfterTermios (p : Port) (old : Termios) (changed : Bool) : Port :=
  let new := p.tty.termios
  let p :=
    if changed && test old.cCflag crtscts && !test new.cCflag crtscts then
      mxserStart { p with tty := { p.tty with hwStopped := false } }
    else p
  if test old.cIflag ixon && !test new.cIflag ixon then
    mxserStart (setMust { p with tty := { p.tty with stopped := false } }
      MustRegs.disableRxSoftwareFlowControl)
  else p

/-- `mxser_set_termios`; the tty core has put the new settings in
`tty->termios`. -/
def mxserSetTermios (HZ : Int) (p : Port) (old : Termios) : Except Fault Port := do
  let new := p.tty.termios
  let changed := new.cCflag != old.cCflag ||
    relevantIflag new.cIflag != relevantIflag old.cIflag
  let p ← (if changed then mxserChangeSpeed HZ p else .ok p)
  return startAfterTermios p old changed

/-! ## Requests -/

/-- The `CBAUD` code that `SMARTIO_SET_SPECIAL_BAUD_RATE` puts in `c_cflag`. -/
def specialCbaud (speed : Int) : Word :=
  if speed ∉ mxvarBaudTable then b4000000
  else match cbaudRates.find? (fun r => r.2 == speed) with
    | some r => r.1
    | none => 0

/-- The rate in `c_cflag` and in `info->speed`. -/
def requested (p : Port) (speed : Int) : Port :=
  { p.setSpeed speed with
    tty := { p.tty with termios := { p.tty.termios with
      cCflag := (p.tty.termios.cCflag &&& ~~~cbaudMask) ||| specialCbaud speed } } }

/-- `SMARTIO_SET_SPECIAL_BAUD_RATE`: its error, and the port. -/
def smartioSetSpecialBaudRate (HZ : Int) (p : Port) (speed : Int) :
    Except Fault (Option Errno × Port) :=
  if speed ≤ 0 ∨ speed > p.rate.maxCanSetBaudRate then .ok (some .efault, p)
  else if !p.infoTty || p.base == 0 then .ok (none, p)
  else do
    let p ← mxserChangeSpeed HZ (requested p speed)
    return (none, p)

/-- `SMARTIO_GET_SPECIAL_BAUD_RATE`. -/
def smartioGetSpecialBaudRate (p : Port) : Int := p.rate.speed

/-- `MOXA_ASPP_SETBAUD`. -/
def asppSetbaud (HZ : Int) (p : Port) (baud : Int) : Except Fault (Option Errno × Port) :=
  if p.tty.ioError then .ok (some .eio, p)
  else do
    let p ← mxserSetBaud HZ p baud
    return (none, p)

/-- `MOXA_ASPP_GETBAUD`. -/
def asppGetbaud (p : Port) : Except Errno Int :=
  if p.tty.ioError then .error .eio else .ok p.rate.realbaud

/-! ## When the divisions go through -/

theorem baudTimeout_ok (HZ : Int) (p : Port) (quot : Int) :
    ∃ t, baudTimeout HZ p quot = .ok t := by
  have hbase : p.rate.baudBase ≠ 0 := by
    have := p.rate.baudBase_pos
    omega
  simp only [baudTimeout, cdiv_of_ne _ hbase]
  exact ⟨_, rfl⟩

theorem mxvarBaudTable_nonneg {newspd : Int} (h : newspd ∈ mxvarBaudTable) : 0 ≤ newspd := by
  have hall : ∀ r ∈ mxvarBaudTable, 0 ≤ r := by decide
  exact hall newspd h

/-- For a rate of the table the quotient does not depend on `info->speed`. -/
theorem baudQuot_table (r : RateInfo) {newspd : Int} (h : newspd ∈ mxvarBaudTable) :
    baudQuot r newspd = .ok (if newspd = 134 then (2 * r.baudBase).tdiv 269
      else if newspd = 0 then 0 else max 1 (r.baudBase.tdiv newspd)) := by
  simp only [baudQuot, not_not.mpr h, if_false]
  by_cases h134 : newspd = 134
  · rw [if_pos h134, if_pos h134]
    rfl
  · rw [if_neg h134, if_neg h134]
    by_cases h0 : newspd = 0
    · rw [if_neg (not_not.mpr h0), if_pos h0]
      rfl
    · have hquot : 0 ≤ r.baudBase.tdiv newspd :=
        Int.tdiv_nonneg (Int.le_of_lt r.baudBase_pos) (mxvarBaudTable_nonneg h)
      rw [if_pos h0, if_neg h0, cdiv_of_ne _ h0]
      show Except.ok (if r.baudBase.tdiv newspd = 0 then 1 else r.baudBase.tdiv newspd) = _
      congr 1
      split <;> omega

/-- For any other rate it is `baud_base / speed`, where `speed` is in range. -/
theorem baudQuot_other {r : RateInfo} {newspd : Int} (h : newspd ∉ mxvarBaudTable)
    (hspeed : r.speed ≠ 0) :
    baudQuot r newspd = .ok (if r.speed ≤ 0 ∨ r.speed > r.maxCanSetBaudRate then 0
      else r.baudBase.tdiv r.speed) := by
  simp only [baudQuot, if_pos h, cdiv_of_ne _ hspeed]
  rfl

theorem baudQuot_fault {r : RateInfo} {newspd : Int} (h : newspd ∉ mxvarBaudTable)
    (hspeed : r.speed = 0) : baudQuot r newspd = .error .divideByZero := by
  simp only [baudQuot, if_pos h, hspeed, cdiv_zero]
  rfl

theorem baudEnum_table (r : RateInfo) {newspd : Int} (h : newspd ∈ mxvarBaudTable) :
    baudEnum r newspd = .ok 0 := by
  simp only [baudEnum, not_not.mpr h, if_false]
  rfl

theorem baudEnum_ok {r : RateInfo} {newspd : Int}
    (h : newspd ∈ mxvarBaudTable ∨ r.speed ≠ 0) : ∃ e, baudEnum r newspd = .ok e := by
  by_cases htable : newspd ∈ mxvarBaudTable
  · exact ⟨0, baudEnum_table r htable⟩
  · have hspeed := h.resolve_left htable
    simp only [baudEnum, if_pos htable, cmod_of_ne _ hspeed, cdiv_of_ne _ hspeed]
    exact ⟨_, rfl⟩

/-- The enumeration of a rate outside the table. -/
theorem baudEnum_other {r : RateInfo} {newspd : Int} (h : newspd ∉ mxvarBaudTable)
    (hpos : 0 < r.speed) :
    baudEnum r newspd = .ok (roundEighths (r.baudBase % r.speed) r.speed) := by
  have hbase : 0 ≤ r.baudBase := r.baudBase_pos.le
  simp only [baudEnum, if_pos h, cmod_of_ne _ hpos.ne', cdiv_of_ne _ hpos.ne', roundEighths]
  rw [← Int.tmod_eq_emod_of_nonneg hbase]
  rfl

/-- When there is a divisor to latch. -/
theorem baudQuot_ne_zero_iff {r : RateInfo} {newspd quot : Int}
    (h : baudQuot r newspd = .ok quot) :
    quot ≠ 0 ↔ if newspd ∈ mxvarBaudTable then newspd ≠ 0 ∧ (newspd = 134 → 135 ≤ r.baudBase)
      else 0 < r.speed ∧ r.speed ≤ r.maxCanSetBaudRate ∧ r.speed ≤ r.baudBase := by
  have hbase := r.baudBase_pos
  by_cases htable : newspd ∈ mxvarBaudTable
  · rw [baudQuot_table r htable] at h
    cases h
    rw [if_pos htable]
    by_cases h134 : newspd = 134
    · rw [if_pos h134, Int.tdiv_eq_ediv_of_nonneg (by omega)]
      omega
    · rw [if_neg h134]
      split <;> omega
  · have hspeed : r.speed ≠ 0 := by
      intro hzero
      rw [baudQuot_fault htable hzero] at h
      cases h
    rw [baudQuot_other htable hspeed] at h
    cases h
    rw [if_neg htable]
    split
    · omega
    · rw [Int.tdiv_eq_ediv_of_nonneg hbase.le]
      have hpos : 0 < r.speed := by omega
      have hone : 1 ≤ r.baudBase / r.speed ↔ r.speed ≤ r.baudBase := by
        rw [Int.le_ediv_iff_mul_le hpos, one_mul]
      have hnonneg := Int.ediv_nonneg hbase.le hpos.le
      omega

/-! ## What they change -/

/-- What a call that gets past the checks works out. -/
theorem mxserSetBaud_values {HZ : Int} {p q : Port} {newspd : Int} (htty : p.infoTty = true)
    (hbase : p.base ≠ 0) (hmax : newspd ≤ p.rate.maxCanSetBaudRate)
    (h : mxserSetBaud HZ p newspd = .ok q) :
    ∃ quot timeout, baudQuot p.rate newspd = .ok quot ∧ baudTimeout HZ p quot = .ok timeout ∧
      ((quot = 0 ∧ q = hangupBaud { p with rate := baudRate p.rate newspd timeout }) ∨
      (quot ≠ 0 ∧ ∃ enum, baudEnum (baudRate p.rate newspd timeout) newspd = .ok enum ∧
        q = latchBaud { p with rate := baudRate p.rate newspd timeout } quot enum)) := by
  simp only [mxserSetBaud] at h
  rw [if_neg (by simp [htty]), if_neg hbase, if_neg (Int.not_lt.mpr hmax)] at h
  obtain ⟨quot, hquot, h⟩ := bind_ok_iff.mp h
  obtain ⟨timeout, htimeout, h⟩ := bind_ok_iff.mp h
  refine ⟨quot, timeout, hquot, htimeout, ?_⟩
  by_cases hzero : quot = 0
  · rw [if_pos hzero] at h
    cases h
    exact .inl ⟨hzero, rfl⟩
  · rw [if_neg hzero] at h
    obtain ⟨enum, henum, h⟩ := bind_ok_iff.mp h
    cases h
    exact .inr ⟨hzero, enum, henum, rfl⟩

/-- Everything a call of `mxser_set_baud` that completes can do. -/
theorem mxserSetBaud_ok {HZ : Int} {p q : Port} {newspd : Int}
    (h : mxserSetBaud HZ p newspd = .ok q) :
    ((p.infoTty = false ∨ p.base = 0 ∨ newspd > p.rate.maxCanSetBaudRate) ∧ q = p) ∨
    (p.infoTty = true ∧ p.base ≠ 0 ∧ newspd ≤ p.rate.maxCanSetBaudRate ∧
      ∃ quot timeout, baudQuot p.rate newspd = .ok quot ∧
        ((quot = 0 ∧ q = hangupBaud { p with rate := baudRate p.rate newspd timeout }) ∨
        (quot ≠ 0 ∧ ∃ enum,
          q = latchBaud { p with rate := baudRate p.rate newspd timeout } quot enum))) := by
  by_cases htty : p.infoTty = true
  · by_cases hbase : p.base = 0
    · simp only [mxserSetBaud] at h
      rw [if_neg (by simp [htty]), if_pos hbase] at h
      cases h
      exact .inl ⟨.inr (.inl hbase), rfl⟩
    · by_cases hmax : newspd > p.rate.maxCanSetBaudRate
      · simp only [mxserSetBaud] at h
        rw [if_neg (by simp [htty]), if_neg hbase, if_pos hmax] at h
        cases h
        exact .inl ⟨.inr (.inr hmax), rfl⟩
      · have hmax := Int.not_lt.mp hmax
        obtain ⟨quot, timeout, hquot, -, hcase⟩ := mxserSetBaud_values htty hbase hmax h
        refine .inr ⟨htty, hbase, hmax, quot, timeout, hquot, ?_⟩
        obtain hhangup | ⟨hne, enum, -, hlatch⟩ := hcase
        · exact .inl hhangup
        · exact .inr ⟨hne, enum, hlatch⟩
  · simp only [mxserSetBaud, htty, Bool.not_false, if_true] at h
    cases h
    exact .inl ⟨.inl (by simpa using htty), rfl⟩

/-- Without tty or base address, or above the maximum, nothing is done. -/
theorem mxserSetBaud_skips (HZ : Int) {p : Port} {newspd : Int}
    (h : p.infoTty = false ∨ p.base = 0 ∨ newspd > p.rate.maxCanSetBaudRate) :
    mxserSetBaud HZ p newspd = .ok p := by
  simp only [mxserSetBaud]
  by_cases htty : p.infoTty = true
  · rw [if_neg (by simp [htty])]
    by_cases hbase : p.base = 0
    · rw [if_pos hbase]
    · rw [if_neg hbase, if_pos]
      rcases h with hno | hno | hmax
      · rw [htty] at hno
        cases hno
      · exact absurd hno hbase
      · exact hmax
  · rw [if_pos (by simpa using htty)]

/-- It completes unless it has to divide by a zero `info->speed`. -/
theorem mxserSetBaud_completes (HZ : Int) {p : Port} {newspd : Int}
    (h : newspd ∈ mxvarBaudTable ∨ p.rate.speed ≠ 0) :
    ∃ q, mxserSetBaud HZ p newspd = .ok q := by
  simp only [mxserSetBaud]
  split
  · exact ⟨_, rfl⟩
  · split
    · exact ⟨_, rfl⟩
    · split
      · exact ⟨_, rfl⟩
      · have hquot : ∃ quot, baudQuot p.rate newspd = .ok quot := by
          by_cases htable : newspd ∈ mxvarBaudTable
          · exact ⟨_, baudQuot_table p.rate htable⟩
          · exact ⟨_, baudQuot_other htable (h.resolve_left htable)⟩
        obtain ⟨quot, hquot⟩ := hquot
        obtain ⟨timeout, htimeout⟩ := baudTimeout_ok HZ p quot
        have henum : ∃ e, baudEnum (baudRate p.rate newspd timeout) newspd = .ok e := by
          apply baudEnum_ok
          by_cases htable : newspd ∈ mxvarBaudTable
          · exact .inl htable
          · right
            -- only 134 is put in `info->speed`, and it is not zero
            show (if newspd = 134 then 134 else p.rate.speed) ≠ 0
            have := h.resolve_left htable
            split <;> omega
        obtain ⟨enum, henum⟩ := henum
        simp only [hquot, htimeout, bind, Except.bind]
        split
        · exact ⟨_, rfl⟩
        · simp only [henum]
          exact ⟨_, rfl⟩

/-- Outside the table, on a port with its tty and base address, a zero
`info->speed` traps. -/
theorem mxserSetBaud_fault {HZ : Int} {p : Port} {newspd : Int} (htty : p.infoTty = true)
    (hbase : p.base ≠ 0) (hmax : newspd ≤ p.rate.maxCanSetBaudRate)
    (htable : newspd ∉ mxvarBaudTable) (hspeed : p.rate.speed = 0) :
    mxserSetBaud HZ p newspd = .error .divideByZero := by
  simp only [mxserSetBaud, htty, Bool.not_true, Bool.false_eq_true, if_false, if_neg hbase,
    if_neg (Int.not_lt.mpr hmax), baudQuot_fault htable hspeed]
  rfl

/-- It touches the rate, the divisor latch, the modem and FIFO control and the MUST
registers only. -/
theorem mxserSetBaud_frame {HZ : Int} {p q : Port} {newspd : Int}
    (h : mxserSetBaud HZ p newspd = .ok q) :
    ∃ rate mcr umcr fcr dll dlm must, q = { p with
      rate := rate
      mcr := mcr
      uart := { p.uart with
        mcr := umcr, fcr := fcr, dll := dll, dlm := dlm, must := must } } := by
  rcases mxserSetBaud_ok h with
    ⟨-, rfl⟩ | ⟨-, -, -, quot, timeout, -, ⟨-, rfl⟩ | ⟨-, enum, rfl⟩⟩
  · exact ⟨_, _, _, _, _, _, _, rfl⟩
  · exact ⟨_, _, _, _, _, _, _, rfl⟩
  · exact ⟨_, _, _, _, _, _, _, rfl⟩

/-- A rate that `mxser_change_speed` resolves is in the table, or is in
`info->speed` when `mxser_set_baud` divides by it. -/
theorem changeSpeedBaud_completes (HZ : Int) (p : Port) : ∃ q, changeSpeedBaud HZ p = .ok q := by
  simp only [changeSpeedBaud]
  split
  · apply mxserSetBaud_completes
    by_cases h0 : resolveBaud p p.tty.termios.cCflag = 0
    · left
      rw [h0]
      decide
    · exact .inr h0
  · exact ⟨p, rfl⟩

/-- **`mxser_change_speed` never divides by zero.** -/
theorem mxserChangeSpeed_completes (HZ : Int) (p : Port) : ∃ q, mxserChangeSpeed HZ p = .ok q := by
  simp only [mxserChangeSpeed]
  split
  · exact ⟨p, rfl⟩
  · split
    · exact ⟨p, rfl⟩
    · obtain ⟨q, hq⟩ := changeSpeedBaud_completes HZ p
      rw [hq]
      exact ⟨_, rfl⟩

theorem mxserSetTermios_completes (HZ : Int) (p : Port) (old : Termios) :
    ∃ q, mxserSetTermios HZ p old = .ok q := by
  have hspeed : ∃ q, (if (p.tty.termios.cCflag != old.cCflag ||
      relevantIflag p.tty.termios.cIflag != relevantIflag old.cIflag) = true
      then mxserChangeSpeed HZ p else .ok p) = .ok q := by
    split
    · exact mxserChangeSpeed_completes HZ p
    · exact ⟨p, rfl⟩
  obtain ⟨q, hq⟩ := hspeed
  exact ⟨_, bind_ok_iff.mpr ⟨q, hq, rfl⟩⟩

/-- A port without tty or base address is left alone; any other gets its rate
and then its line settings. -/
theorem mxserChangeSpeed_ok {HZ : Int} {p q : Port} (h : mxserChangeSpeed HZ p = .ok q) :
    ((p.infoTty = false ∨ p.base = 0) ∧ q = p) ∨
    (p.infoTty = true ∧ p.base ≠ 0 ∧
      ∃ r, changeSpeedBaud HZ p = .ok r ∧ q = changeSpeedLine r) := by
  simp only [mxserChangeSpeed] at h
  by_cases htty : p.infoTty = true
  · rw [if_neg (by simp [htty])] at h
    by_cases hbase : p.base = 0
    · rw [if_pos hbase] at h
      cases h
      exact .inl ⟨.inr hbase, rfl⟩
    · rw [if_neg hbase] at h
      obtain ⟨r, hr, h⟩ := bind_ok_iff.mp h
      cases h
      exact .inr ⟨htty, hbase, r, hr, rfl⟩
  · simp only [htty, Bool.not_false, if_true] at h
    cases h
    exact .inl ⟨.inl (by simpa using htty), rfl⟩

theorem changeSpeedBaud_frame {HZ : Int} {p q : Port} (h : changeSpeedBaud HZ p = .ok q) :
    ∃ rate mcr umcr fcr dll dlm must, q = { p with
      rate := rate
      mcr := mcr
      uart := { p.uart with
        mcr := umcr, fcr := fcr, dll := dll, dlm := dlm, must := must } } := by
  simp only [changeSpeedBaud] at h
  split at h
  · obtain ⟨rate, mcr, umcr, fcr, dll, dlm, must, rfl⟩ := mxserSetBaud_frame h
    exact ⟨_, _, _, _, _, _, _, rfl⟩
  · cases h
    exact ⟨_, _, _, _, _, _, _, rfl⟩

/-- What follows the CTS section changes neither the transmit interrupt nor
`hw_stopped`, and of the flags the carrier check only. -/
theorem changeSpeedLine_eq (p : Port) :
    let q := changeSpeedCts (setMustFifo p) p.tty.termios.cCflag
    let cd := test p.tty.termios.cCflag clocal
    ∃ rs is must fcr lcr, changeSpeedLine p = { q with
      flags := if cd then q.flags &&& ~~~asyncCheckCd else q.flags ||| asyncCheckCd
      ier := if cd then q.ier else q.ier ||| uartIerMsi
      readStatusMask := rs
      ignoreStatusMask := is
      uart := { q.uart with
        ier := if cd then q.ier else q.ier ||| uartIerMsi, must := must, fcr := fcr, lcr := lcr } } :=
  ⟨_, _, _, _, _, rfl⟩

theorem takeCts_eq (p : Port) :
    ∃ ev ier uier, takeCts p = { p with
      event := ev
      tty := { p.tty with hwStopped := !test p.uart.msr uartMsrCts }
      ier := ier
      uart := { p.inbMsr.2.uart with ier := uier } } :=
  ctsChange_eq p.inbMsr.2 p.uart.msr

/-- Under `CRTSCTS` and without help from the chip, the CTS section reads CTS
and takes it over as `mxser_check_modem_status` does. -/
theorem changeSpeedCts_held {p : Port} {cflag : Word} (hc : test cflag crtscts = true)
    (ha : p.autoCts = false) :
    changeSpeedCts p cflag
      = (takeCts (enableCts (clearCts p))).setMcr (takeCts (enableCts (clearCts p))).mcr := by
  have hauto : ¬ (enableCts (clearCts p)).autoCts = true := by
    show ¬ p.autoCts = true
    simp [ha]
  simp only [changeSpeedCts]
  rw [if_pos hc]
  exact if_neg hauto

/-- Where the chip looks after CTS, or without `CRTSCTS`, the CTS section
leaves `hw_stopped` and the transmit interrupt alone. -/
theorem changeSpeedCts_free {p : Port} {cflag : Word}
    (h : test cflag crtscts = false ∨ p.autoCts = true) :
    ∃ flags ier mcr umcr, changeSpeedCts p cflag = { p with
      flags := flags, ier := ier, mcr := mcr, uart := { p.uart with mcr := umcr } } ∧
      (ier = p.ier &&& ~~~uartIerMsi ∨ ier = p.ier &&& ~~~uartIerMsi ||| uartIerMsi) ∧
      (flags = p.flags &&& ~~~asyncCtsFlow ∨ flags = p.flags ||| asyncCtsFlow) := by
  cases hc : test cflag crtscts with
  | false =>
      simp only [changeSpeedCts]
      rw [hc]
      exact ⟨_, _, _, _, rfl, .inl rfl, .inl rfl⟩
  | true =>
      have hauto : (enableCts (clearCts p)).autoCts = true := by
        show p.autoCts = true
        exact h.resolve_left (by simp [hc])
      simp only [changeSpeedCts]
      rw [hc, if_pos rfl]
      exact ⟨_, _, _, _, if_pos hauto, .inr rfl, .inr rfl⟩

/-- The carrier section keeps every other flag. -/
theorem carrier_keeps (flags : Word) (cd : Bool) {m : Word} (h : asyncCheckCd &&& m = 0) :
    test (if cd then flags &&& ~~~asyncCheckCd else flags ||| asyncCheckCd) m = test flags m := by
  cases cd with
  | true => exact test_clear_of_disjoint h
  | false => exact test_or_of_disjoint h

/-- The whole of the line settings in the case of `changeSpeedCts_held`. -/
theorem changeSpeedLine_held {p : Port} (hc : test p.tty.termios.cCflag crtscts = true)
    (ha : p.autoCts = false) :
    (changeSpeedLine p).infoTty = p.infoTty ∧ (changeSpeedLine p).base = p.base ∧
      (changeSpeedLine p).tty
        = { p.tty with hwStopped := !test p.uart.msr uartMsrCts } ∧
      (changeSpeedLine p).uart.msr = p.uart.msr &&& ~~~uartMsrAnyDelta ∧
      test (changeSpeedLine p).flags asyncCtsFlow = true := by
  obtain ⟨rs, is, must, fcr, lcr, heq⟩ := changeSpeedLine_eq p
  obtain ⟨ev, ier, uier, hcts⟩ := takeCts_eq (enableCts (clearCts (setMustFifo p)))
  have hheld : changeSpeedCts (setMustFifo p) p.tty.termios.cCflag = _ :=
    changeSpeedCts_held hc ha
  rw [hcts] at hheld
  simp only [hheld] at heq
  rw [heq]
  refine ⟨rfl, rfl, rfl, rfl, ?_⟩
  exact (carrier_keeps _ _ (by decide)).trans (test_or_self (by decide))

/-- The CTS section touches one flag, the shadow registers, `hw_stopped` and the
registers behind them. -/
theorem changeSpeedCts_frame (p : Port) (cflag : Word) :
    ∃ flags ier mcr ev hw uart, changeSpeedCts p cflag = { p with
        flags := flags
        ier := ier
        mcr := mcr
        event := ev
        tty := { p.tty with hwStopped := hw }
        uart := uart } ∧
      uart.divisor = p.uart.divisor ∧
      (flags = p.flags &&& ~~~asyncCtsFlow ∨ flags = p.flags ||| asyncCtsFlow) := by
  by_cases hfree : test cflag crtscts = false ∨ p.autoCts = true
  · obtain ⟨flags, ier, mcr, umcr, hcts, -, hflags⟩ := changeSpeedCts_free hfree
    exact ⟨flags, ier, mcr, p.event, p.tty.hwStopped, _, hcts, rfl, hflags⟩
  · -- the driver takes CTS over itself
    obtain ⟨hc, ha⟩ := not_or.mp hfree
    obtain ⟨ev, ier, uier, htake⟩ := takeCts_eq (enableCts (clearCts p))
    have hcts : changeSpeedCts p cflag = _ :=
      changeSpeedCts_held (by simpa using hc) (Bool.eq_false_iff.mpr ha)
    rw [htake] at hcts
    exact ⟨_, ier, _, ev, !test p.uart.msr uartMsrCts, _, hcts, rfl, .inr rfl⟩

/-- The line settings touch `ASYNC_CTS_FLOW` and `ASYNC_CHECK_CD`, the shadow
registers, the status masks, `hw_stopped` and the registers of the line. -/
theorem changeSpeedLine_frame (p : Port) :
    ∃ flags ier mcr ev hw rs is uart, changeSpeedLine p = { p with
        flags := flags
        ier := ier
        mcr := mcr
        event := ev
        tty := { p.tty with hwStopped := hw }
        readStatusMask := rs
        ignoreStatusMask := is
        uart := uart } ∧
      uart.divisor = p.uart.divisor ∧
      ∀ m, asyncCtsFlow &&& m = 0 → asyncCheckCd &&& m = 0 → test flags m = test p.flags m := by
  obtain ⟨rs, is, must, fcr, lcr, heq⟩ := changeSpeedLine_eq p
  obtain ⟨flags, ier, mcr, ev, hw, uart, hcts, hdiv, hflags⟩ :=
    changeSpeedCts_frame (setMustFifo p) p.tty.termios.cCflag
  simp only [hcts] at heq
  refine ⟨_, _, mcr, ev, hw, rs, is, _, heq, hdiv, fun m hm hcd => ?_⟩
  rw [carrier_keeps _ _ hcd]
  rcases hflags with rfl | rfl
  · exact test_clear_of_disjoint hm
  · exact test_or_of_disjoint hm

/-- They leave the enumeration register of the MUST chips. -/
theorem changeSpeedLine_enum (p : Port) :
    (changeSpeedLine p).uart.must.enum = p.uart.must.enum := by
  have hcts (q : Port) (cflag : Word) : (changeSpeedCts q cflag).uart.must = q.uart.must := by
    by_cases hfree : test cflag crtscts = false ∨ q.autoCts = true
    · obtain ⟨flags, ier, mcr, umcr, hcts, -, -⟩ := changeSpeedCts_free hfree
      rw [hcts]
    · obtain ⟨hc, ha⟩ := not_or.mp hfree
      obtain ⟨ev, ier, uier, htake⟩ := takeCts_eq (enableCts (clearCts q))
      rw [changeSpeedCts_held (by simpa using hc) (Bool.eq_false_iff.mpr ha), htake]
      rfl
  have hmust (q : Port) (f : MustRegs → MustRegs) (hf : ∀ m, (f m).enum = m.enum) :
      (setMust q f).uart.must.enum = q.uart.must.enum := by
    show (if q.isMoxaMustChipFlag ≠ 0 then f q.uart.must else q.uart.must).enum = _
    split
    · exact hf _
    · rfl
  have hflow (t : Termios) (m : MustRegs) : (mustFlowControl t m).enum = m.enum := by
    simp only [mustFlowControl]
    split
    · split
      · rfl
      · rfl
    · split
      · rfl
      · rfl
  have hlast := hmust (changeSpeedMasks (changeSpeedCd
    (changeSpeedCts (setMustFifo p) p.tty.termios.cCflag) p.tty.termios.cCflag)) _
    (hflow (changeSpeedMasks (changeSpeedCd
      (changeSpeedCts (setMustFifo p) p.tty.termios.cCflag) p.tty.termios.cCflag)).tty.termios)
  refine hlast.trans ?_
  show (changeSpeedCts (setMustFifo p) p.tty.termios.cCflag).uart.must.enum = p.uart.must.enum
  rw [hcts]
  exact hmust p _ fun _ => rfl

/-- The line settings leave the rate, the divisor latch and what a request
checks before it acts. -/
theorem changeSpeedLine_rate (p : Port) :
    (changeSpeedLine p).rate = p.rate ∧
      (changeSpeedLine p).uart.divisor = p.uart.divisor ∧
      (changeSpeedLine p).infoTty = p.infoTty ∧ (changeSpeedLine p).base = p.base ∧
      (changeSpeedLine p).tty.ioError = p.tty.ioError := by
  obtain ⟨flags, ier, mcr, ev, hw, rs, is, uart, heq, hdiv, -⟩ := changeSpeedLine_frame p
  rw [heq]
  exact ⟨rfl, hdiv, rfl, rfl, rfl⟩

/-- `mxser_change_speed` leaves the base address, the open counts, the ring,
`info->tty` and `ASYNC_INITIALIZED`. -/
theorem mxserChangeSpeed_keeps {HZ : Int} {p q : Port} (h : mxserChangeSpeed HZ p = .ok q) :
    q.base = p.base ∧ q.opens = p.opens ∧ q.ring = p.ring ∧ q.infoTty = p.infoTty ∧
      q.initialized = p.initialized := by
  rcases mxserChangeSpeed_ok h with ⟨-, rfl⟩ | ⟨-, -, r, hr, rfl⟩
  · exact ⟨rfl, rfl, rfl, rfl, rfl⟩
  · obtain ⟨rate, rmcr, umcr, fcr, dll, dlm, must, rfl⟩ := changeSpeedBaud_frame hr
    obtain ⟨flags, ier, mcr, ev, hw, rs, is, uart, heq, -, hflags⟩ := changeSpeedLine_frame _
    rw [heq]
    exact ⟨rfl, rfl, rfl, rfl, hflags asyncInitialized (by decide) (by decide)⟩

/-- What follows the change of speed touches `stopped`, `hw_stopped`, the transmit
interrupt and the MUST registers. -/
theorem startAfterTermios_frame (p : Port) (old : Termios) (changed : Bool) :
    ∃ stopped hw ier uier must, startAfterTermios p old changed = { p with
      tty := { p.tty with stopped := stopped, hwStopped := hw }
      ier := ier
      uart := { p.uart with ier := uier, must := must } } := by
  have hcts : ∀ c : Bool, ∃ hw ier uier,
      (if c then mxserStart { p with tty := { p.tty with hwStopped := false } } else p)
        = { p with
          tty := { p.tty with hwStopped := hw }
          ier := ier
          uart := { p.uart with ier := uier } } := by
    intro c
    split
    · obtain ⟨ier, uier, hstart⟩ :=
        mxserStart_frame { p with tty := { p.tty with hwStopped := false } }
      exact ⟨false, ier, uier, hstart⟩
    · exact ⟨p.tty.hwStopped, p.ier, p.uart.ier, rfl⟩
  have hixon : ∀ (r : Port) (c : Bool), ∃ stopped ier uier must,
      (if c then mxserStart (setMust { r with tty := { r.tty with stopped := false } }
        MustRegs.disableRxSoftwareFlowControl) else r) = { r with
          tty := { r.tty with stopped := stopped }
          ier := ier
          uart := { r.uart with ier := uier, must := must } } := by
    intro r c
    split
    · obtain ⟨ier, uier, hstart⟩ := mxserStart_frame
        (setMust { r with tty := { r.tty with stopped := false } }
          MustRegs.disableRxSoftwareFlowControl)
      exact ⟨false, ier, uier, _, hstart⟩
    · exact ⟨r.tty.stopped, r.ier, r.uart.ier, r.uart.must, rfl⟩
  simp only [startAfterTermios]
  generalize hc : (changed && test old.cCflag crtscts && !test p.tty.termios.cCflag crtscts) = c
  obtain ⟨hw, ier, uier, hfirst⟩ := hcts c
  rw [hfirst]
  obtain ⟨stopped, ier', uier', must, hsecond⟩ := hixon
    { p with
      tty := { p.tty with hwStopped := hw }
      ier := ier
      uart := { p.uart with ier := uier } }
    (test old.cIflag ixon && !test p.tty.termios.cIflag ixon)
  exact ⟨stopped, hw, ier', uier', must, hsecond⟩

end MoxaDrivers.Mxser

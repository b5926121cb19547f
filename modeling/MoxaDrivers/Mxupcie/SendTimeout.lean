import MoxaDrivers.Lib.CInt
import MoxaDrivers.Mxser.SpecialBaud
import MoxaDrivers.Mxupcie.Speed
import MoxaDrivers.Mxupcie.Startup

/-!
# The time to send a FIFO full

`mxser_set_baud` and `mx_set_baud` estimate in `info->timeout` how long a full
FIFO takes to send, and `mxser_wait_until_sent` polls and gives up by it. The
product of FIFO size, tick rate and divisor is formed in 32 bits before it is
divided by `baud_base`: for the lowest rates it wraps around.
-/

namespace MoxaDrivers.Mxupcie

open MoxaDrivers.Machine MoxaDrivers.Mxser

/-- `xmit_fifo_size` of the chips. -/
def fifoSizes : List Int := [1, 16, 64, 128]

/-- The tick rates of the kernels that the drivers are built for. -/
def tickRates : List Int := [100, 250, 1000]

/-! ## What the estimate is for -/

/-- `char_time` and `timeout` of `mxser_wait_until_sent`, which polls every
`char_time` ticks for `timeout` ticks; `mxupcie_wait_until_sent` is the same. -/
def waitTimes (HZ xmitFifoSize infoTimeout timeout : Int) : Int × Int :=
  let charTime := ((infoTimeout - HZ.tdiv 50).tdiv xmitFifoSize).tdiv 5
  let charTime := if charTime = 0 then 1 else charTime
  (if timeout > 0 ∧ timeout < charTime then timeout else charTime,
    if timeout = 0 ∨ timeout > 2 * infoTimeout then 2 * infoTimeout else timeout)

/-- The ticks for a full FIFO of characters of ten bits, with the slop, over the
integers. -/
def sendTicks (HZ xmitFifoSize baudBase quot : Int) : Int :=
  xmitFifoSize * HZ * 10 * quot / baudBase + HZ / 50

/-- `info->timeout` is the time at the line rate, and the waits are made of it. -/
structure SendTime (HZ xmitFifoSize baudBase quot infoTimeout : Int) : Prop where
  exact : infoTimeout = sendTicks HZ xmitFifoSize baudBase quot
  waits : ∀ timeout, waitTimes HZ xmitFifoSize infoTimeout timeout =
    waitTimes HZ xmitFifoSize (sendTicks HZ xmitFifoSize baudBase quot) timeout

/-- The unsigned product and quotient of the drivers. -/
theorem sendTime_iff_product {HZ xmitFifoSize baudBase quot : Int} (hHZ : 0 ≤ HZ)
    (hbase : 0 < baudBase) (hbase' : baudBase ≤ 2 ^ 32)
    (hproduct : 0 ≤ xmitFifoSize * HZ * 10 * quot) :
    SendTime HZ xmitFifoSize baudBase quot
        (((xmitFifoSize * HZ * 10 * quot) % 2 ^ 32).tdiv baudBase + HZ.tdiv 50) ↔
      xmitFifoSize * HZ * 10 * quot < 2 ^ 32 := by
  have hslop : HZ.tdiv 50 = HZ / 50 := Int.tdiv_eq_ediv_of_nonneg hHZ
  rw [← CInt.tdiv_wrapped_iff hbase hbase' hproduct]
  constructor
  · intro h
    have hexact := h.exact
    rw [sendTicks, hslop] at hexact
    omega
  · intro h
    have hexact : ((xmitFifoSize * HZ * 10 * quot) % 2 ^ 32).tdiv baudBase + HZ.tdiv 50 =
        sendTicks HZ xmitFifoSize baudBase quot := by
      rw [sendTicks, h, hslop]
    exact ⟨hexact, fun timeout => by rw [hexact]⟩

/-! ## The rates that are fast enough -/

/-- The rate asked for in half bits a second, 134 standing for 134.5; 0 is a
hangup. Outside the table it is the one in `info->speed`. -/
def halfRate (maxRate speed newspd : Int) : Int :=
  if newspd ∈ mxvarBaudTable then if newspd = 134 then 269 else 2 * newspd
  else if 0 < speed ∧ speed ≤ maxRate then 2 * speed else 0

/-- The largest divisor whose product fits in 32 bits. -/
def divisorLimit (HZ xmitFifoSize : Int) : Int := (2 ^ 32 - 1) / (xmitFifoSize * HZ * 10)

/-- The line is dropped, or the base rate by the rate is within the limit. -/
def FastEnough (HZ xmitFifoSize baudBase half : Int) : Prop :=
  half = 0 ∨ 2 * baudBase < (divisorLimit HZ xmitFifoSize + 1) * half

/-- The divisor for a rate: none for a hangup, else at least one. -/
def rateDivisor (baudBase half : Int) : Int :=
  if half = 0 then 0 else max 1 (2 * baudBase / half)

theorem halfRate_nonneg (maxRate speed newspd : Int) : 0 ≤ halfRate maxRate speed newspd := by
  rw [halfRate]
  split
  · next htable =>
      have hnonneg := mxvarBaudTable_nonneg htable
      split <;> omega
  · split <;> omega

/-- What both drivers compute for a rate is its divisor. -/
theorem rateDivisor_of_cases {baudBase maxRate speed newspd quot : Int}
    (hboard : (baudBase, maxRate) ∈ boardRates)
    (htable : newspd ∈ mxvarBaudTable →
      quot = if newspd = 134 then (2 * baudBase).tdiv 269
        else if newspd = 0 then 0 else max 1 (baudBase.tdiv newspd))
    (hother : newspd ∉ mxvarBaudTable →
      quot = if speed ≤ 0 ∨ speed > maxRate then 0 else baudBase.tdiv speed) :
    quot = rateDivisor baudBase (halfRate maxRate speed newspd) := by
  have hrates : 115200 ≤ baudBase ∧ maxRate ≤ baudBase := by
    simp only [boardRates, List.mem_cons, Prod.mk.injEq, List.not_mem_nil, or_false] at hboard
    omega
  have htwice : (2 * baudBase).tdiv 269 = 2 * baudBase / 269 :=
    Int.tdiv_eq_ediv_of_nonneg (by omega)
  have hdiv (rate : Int) : baudBase.tdiv rate = 2 * baudBase / (2 * rate) := by
    rw [Int.tdiv_eq_ediv_of_nonneg (by omega), Int.mul_ediv_mul_of_pos baudBase rate (by decide)]
  by_cases hin : newspd ∈ mxvarBaudTable
  · rw [htable hin, rateDivisor, halfRate, if_pos hin]
    by_cases h134 : newspd = 134
    · rw [if_pos h134, if_pos h134, if_neg (by decide), htwice]
      omega
    · rw [if_neg h134, if_neg h134, hdiv]
      by_cases h0 : newspd = 0
      · rw [if_pos h0, if_pos (by omega)]
      · rw [if_neg h0, if_neg (by omega)]
  · rw [hother hin, rateDivisor, halfRate, if_neg hin]
    by_cases hrange : 0 < speed ∧ speed ≤ maxRate
    · have hone : 1 ≤ 2 * baudBase / (2 * speed) :=
        Int.le_ediv_of_mul_le (by omega) (by omega)
      rw [if_neg (by omega), if_pos hrange, if_neg (by omega), hdiv]
      omega
    · rw [if_pos (by omega), if_neg hrange, if_pos rfl]

/-- The products that fit are those of the rates that are fast enough. -/
theorem fastEnough_iff_product {HZ xmitFifoSize baudBase half : Int}
    (hunit : 0 < xmitFifoSize * HZ * 10) (hunit' : xmitFifoSize * HZ * 10 < 2 ^ 32)
    (hhalf : 0 ≤ half) :
    xmitFifoSize * HZ * 10 * rateDivisor baudBase half < 2 ^ 32 ↔
      FastEnough HZ xmitFifoSize baudBase half := by
  rw [FastEnough, rateDivisor, divisorLimit]
  generalize xmitFifoSize * HZ * 10 = unit at *
  by_cases h0 : half = 0
  · rw [if_pos h0]
    omega
  · rw [if_neg h0]
    have hpos : 0 < half := by omega
    have hone : 1 ≤ (2 ^ 32 - 1) / unit := Int.le_ediv_of_mul_le hunit (by omega)
    have hlimit (quot : Int) : unit * quot < 2 ^ 32 ↔ quot ≤ (2 ^ 32 - 1) / unit := by
      rw [Int.le_ediv_iff_mul_le hunit, Int.mul_comm]
      omega
    rw [hlimit, ← Int.ediv_lt_iff_lt_mul hpos]
    omega

/-! ## The two drivers -/

theorem mxserQuot_eq {r : Mxser.RateInfo} {newspd quot : Int}
    (hboard : (r.baudBase, r.maxCanSetBaudRate) ∈ boardRates)
    (h : Mxser.baudQuot r newspd = .ok quot) :
    quot = rateDivisor r.baudBase (halfRate r.maxCanSetBaudRate r.speed newspd) := by
  apply rateDivisor_of_cases hboard
  · intro htable
    rw [Mxser.baudQuot_table r htable] at h
    cases h
    rfl
  · intro hother
    by_cases hspeed : r.speed = 0
    · rw [Mxser.baudQuot_fault hother hspeed] at h
      cases h
    · rw [Mxser.baudQuot_other hother hspeed] at h
      cases h
      rfl

theorem mxQuot_eq {r : RateInfo} {newspd quot : Int}
    (hboard : (r.baudBase, r.maxCanSetBaudRate) ∈ boardRates)
    (h : baudQuot r newspd = .ok quot) :
    quot = rateDivisor r.baudBase (halfRate r.maxCanSetBaudRate r.speed newspd) := by
  apply rateDivisor_of_cases hboard
  · intro htable
    have hnonneg := mxvarBaudTable_nonneg htable
    simp only [baudQuot, not_not.mpr htable, if_false] at h
    by_cases h134 : newspd = 134
    · rw [if_pos h134] at h ⊢
      cases h
      rfl
    · rw [if_neg h134] at h ⊢
      by_cases h0 : newspd = 0
      · rw [if_neg (not_not.mpr h0)] at h
        cases h
        rw [if_pos h0]
      · rw [if_pos h0, cdiv_of_ne _ h0] at h
        have hquot : 0 ≤ r.baudBase.tdiv newspd := Int.tdiv_nonneg r.baudBase_pos.le hnonneg
        cases h
        rw [if_neg h0]
        show (if r.baudBase.tdiv newspd = 0 then 1 else r.baudBase.tdiv newspd) = _
        split <;> omega
  · intro hother
    simp only [baudQuot, if_pos hother] at h
    obtain ⟨q, hq, h⟩ := bind_ok_iff.mp h
    cases h
    by_cases hspeed : r.speed = 0
    · rw [cdiv, if_pos hspeed] at hq
      cases hq
    · rw [cdiv_of_ne _ hspeed] at hq
      cases hq
      rfl

/-- What either driver leaves in `info->timeout` for the quotient it computed. -/
theorem sendTime_iff_fastEnough {HZ xmitFifoSize baudBase maxRate half : Int}
    (hHZ : HZ ∈ tickRates) (hfifo : xmitFifoSize ∈ fifoSizes)
    (hboard : (baudBase, maxRate) ∈ boardRates) (hhalf : 0 ≤ half) :
    SendTime HZ xmitFifoSize baudBase (rateDivisor baudBase half)
        (((xmitFifoSize * HZ * 10 * rateDivisor baudBase half) % 2 ^ 32).tdiv baudBase +
          HZ.tdiv 50) ↔
      FastEnough HZ xmitFifoSize baudBase half := by
  have hbase : 0 < baudBase ∧ baudBase ≤ 2 ^ 32 := by
    simp only [boardRates, List.mem_cons, Prod.mk.injEq, List.not_mem_nil, or_false] at hboard
    omega
  have hsmall : ∀ f ∈ fifoSizes, ∀ t ∈ tickRates, 0 < f * t * 10 ∧ f * t * 10 < 2 ^ 32 := by decide
  obtain ⟨hunit, hunit'⟩ := hsmall xmitFifoSize hfifo HZ hHZ
  have hticks : ∀ t ∈ tickRates, 0 ≤ t := by decide
  have hdivisor : 0 ≤ rateDivisor baudBase half := by
    rw [rateDivisor]
    split <;> omega
  rw [← fastEnough_iff_product hunit hunit' hhalf]
  exact sendTime_iff_product (hticks HZ hHZ) hbase.1 hbase.2 (Int.mul_nonneg hunit.le hdivisor)

/-- The timeout that `mxser_set_baud` leaves. -/
theorem mxserSetBaud_timeout {HZ quot : Int} {p q : Mxser.Port} {newspd : Int}
    (htty : p.infoTty = true) (hbase : p.base ≠ 0) (hmax : newspd ≤ p.rate.maxCanSetBaudRate)
    (hquot : Mxser.baudQuot p.rate newspd = .ok quot) (h : mxserSetBaud HZ p newspd = .ok q) :
    q.rate.timeout = ((p.fifo.xmitFifoSize * HZ * 10 * quot) % 2 ^ 32).tdiv p.rate.baudBase +
      HZ.tdiv 50 := by
  obtain ⟨quot', timeout, hquot', htimeout, hcase⟩ := mxserSetBaud_values htty hbase hmax h
  cases hquot.symm.trans hquot'
  rw [Mxser.baudTimeout, Mxser.cdiv_of_ne _ p.rate.baudBase_pos.ne'] at htimeout
  cases htimeout
  obtain ⟨-, rfl⟩ | ⟨-, enum, -, rfl⟩ := hcase
  · rfl
  · rfl

/-- The timeout that `mx_set_baud` leaves. -/
theorem mxSetBaud_timeout {HZ quot : Int} {p q : Port} {newspd : Int}
    (htty : p.infoTty = true) (hbase : p.base ≠ 0) (hmax : newspd ≤ p.rate.maxCanSetBaudRate)
    (hquot : baudQuot p.rate newspd = .ok quot) (h : mxSetBaud HZ p newspd = .ok q) :
    q.rate.timeout = ((p.fifo.xmitFifoSize * HZ * 10 * quot) % 2 ^ 32).tdiv p.rate.baudBase +
      HZ.tdiv 50 := by
  obtain ⟨uart, quot', timeout, -, hquot', htimeout, rfl⟩ := mxSetBaud_values htty hbase hmax h
  cases hquot.symm.trans hquot'
  rw [baudTimeout, cdiv_of_ne _ p.rate.baudBase_pos.ne'] at htimeout
  cases htimeout
  obtain ⟨mcr, u, hfinish, -⟩ := finishBaud_frame
    { p with uart := uart, rate := baudRate p.rate newspd (((p.fifo.xmitFifoSize * HZ * 10 * quot) %
      2 ^ 32).tdiv p.rate.baudBase + HZ.tdiv 50) } newspd quot
  rw [hfinish]
  rfl

/-- **When the estimate is the time at the line rate**, in both drivers. -/
theorem send_timeout_iff {HZ : Int} (hHZ : HZ ∈ tickRates) :
    (∀ {p q : Mxser.Port} {newspd quot : Int}, p.fifo.xmitFifoSize ∈ fifoSizes →
      (p.rate.baudBase, p.rate.maxCanSetBaudRate) ∈ boardRates → p.infoTty = true →
      p.base ≠ 0 → newspd ≤ p.rate.maxCanSetBaudRate →
      Mxser.baudQuot p.rate newspd = .ok quot → mxserSetBaud HZ p newspd = .ok q →
      (SendTime HZ p.fifo.xmitFifoSize p.rate.baudBase quot q.rate.timeout ↔
        FastEnough HZ p.fifo.xmitFifoSize p.rate.baudBase
          (halfRate p.rate.maxCanSetBaudRate p.rate.speed newspd))) ∧
    ∀ {p q : Port} {newspd quot : Int}, p.fifo.xmitFifoSize ∈ fifoSizes →
      (p.rate.baudBase, p.rate.maxCanSetBaudRate) ∈ boardRates → p.infoTty = true →
      p.base ≠ 0 → newspd ≤ p.rate.maxCanSetBaudRate →
      baudQuot p.rate newspd = .ok quot → mxSetBaud HZ p newspd = .ok q →
      (SendTime HZ p.fifo.xmitFifoSize p.rate.baudBase quot q.rate.timeout ↔
        FastEnough HZ p.fifo.xmitFifoSize p.rate.baudBase
          (halfRate p.rate.maxCanSetBaudRate p.rate.speed newspd)) := by
  constructor
  · intro p q newspd quot hfifo hboard htty hbase hmax hquot h
    rw [mxserSetBaud_timeout htty hbase hmax hquot h, mxserQuot_eq hboard hquot]
    exact sendTime_iff_fastEnough hHZ hfifo hboard (halfRate_nonneg _ _ _)
  · intro p q newspd quot hfifo hboard htty hbase hmax hquot h
    rw [mxSetBaud_timeout htty hbase hmax hquot h, mxQuot_eq hboard hquot]
    exact sendTime_iff_fastEnough hHZ hfifo hboard (halfRate_nonneg _ _ _)

/-- Port 0 of a board with the MU860 chip, FIFOs of 128, open. -/
def mu860Port : Mxser.Port :=
  let hw : MxserHwconf := ⟨0xD000, 11, port16550A, 921600, pciBaudBase_pos, moxaMustMu860Hwid, 921600⟩
  { mxserInitbrd 1000 hw (c104Termios 0) 0 (Mxser.resetUart uartMsrCts) with
    infoTty := true
    tty := ⟨c104Termios 0, false, false, true, false, false⟩ }

/-- Two requests that are fast enough. -/
theorem send_timeout_9600 :
    (∃ q, mxserSetBaud 1000 mu860Port 9600 = .ok q ∧
      SendTime 1000 128 921600 96 q.rate.timeout) ∧
    ∃ q, mxSetBaud 100 (cp102Port (cp102Termios 0)) 300 = .ok q ∧
      SendTime 100 128 921600 3072 q.rate.timeout := by
  have hserial := (send_timeout_iff (show (1000 : Int) ∈ tickRates by decide)).1
    (show mu860Port.fifo.xmitFifoSize ∈ fifoSizes by decide) (by decide) rfl (by decide)
    (show 9600 ≤ mu860Port.rate.maxCanSetBaudRate by decide)
    (show Mxser.baudQuot mu860Port.rate 9600 = .ok 96 from rfl) rfl
  have hexpress := (send_timeout_iff (show (100 : Int) ∈ tickRates by decide)).2
    (show (cp102Port (cp102Termios 0)).fifo.xmitFifoSize ∈ fifoSizes by decide) (by decide) rfl
    (by decide) (show 300 ≤ (cp102Port (cp102Termios 0)).rate.maxCanSetBaudRate by decide)
    (show baudQuot (cp102Port (cp102Termios 0)).rate 300 = .ok 3072 from rfl) rfl
  exact ⟨⟨_, rfl, hserial.mpr (.inr (by decide))⟩, _, rfl, hexpress.mpr (.inr (by decide))⟩

/-- At 50 baud the product is 23592960000: 2318 ticks stand for 25620. -/
theorem send_timeout_50 :
    ∃ q, mxserSetBaud 1000 mu860Port 50 = .ok q ∧
      Mxser.baudQuot mu860Port.rate 50 = .ok 18432 ∧
      ¬ SendTime 1000 128 921600 18432 q.rate.timeout := by
  refine ⟨_, rfl, rfl, fun h => ?_⟩
  exact absurd h.exact (by decide)

end MoxaDrivers.Mxupcie

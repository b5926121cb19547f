import MoxaDrivers.Mxser.RateAgreement
import Mathlib.Algebra.Order.Ring.Abs
import Mathlib.Tactic.Linarith
import Mathlib.Tactic.Positivity
import Mathlib.Tactic.Ring

/-!
# The divisor of a special rate

For a rate outside the table, `mxser_set_baud` latches `baud_base / speed` and
puts the eighths that remain in the enumeration register, rounded. A remainder
of more than seven and a half eighths is rounded up to 8, which the register's
three bits do not hold and the divisor is not told of; and for the lowest rates
the quotient has more than 16 bits.
-/

namespace MoxaDrivers.Mxser

open MoxaDrivers.Bits MoxaDrivers.Machine

/-- `baud_base` and `MaxCanSetBaudRate` of the boards: on PCI 921600 and the
`max_baud` of the chip, on ISA 921600 or 115200 for both. -/
def boardRates : List (Int × Int) := [(921600, 921600), (921600, 230400), (115200, 115200)]

/-! ## Nearest integers -/

/-- No integer is closer to `a / b`. -/
def Nearest (n a b : Int) : Prop := ∀ m, |a - n * b| ≤ |a - m * b|

/-- Half a unit away is near enough. -/
theorem nearest_of_half {n a b : Int} (h : 2 * |a - n * b| ≤ b) : Nearest n a b := by
  intro m
  by_cases hm : m = n
  · rw [hm]
  · have hb : 0 ≤ b := le_trans (by positivity) h
    have hsplit : (m - n) * b = (a - n * b) - (a - m * b) := by ring
    have hone : 1 ≤ |m - n| := Int.one_le_abs (sub_ne_zero.mpr hm)
    have hfar : b ≤ |(m - n) * b| := by
      rw [abs_mul, abs_of_nonneg hb]
      exact le_mul_of_one_le_left hb hone
    have htriangle := abs_sub (a - n * b) (a - m * b)
    rw [hsplit] at hfar
    linarith

/-- The eighths and what they leave. -/
theorem roundEighths_cases {rem speed : Int} (hrem : 0 ≤ rem) (hlt : rem < speed) :
    ∃ e r, rem * 8 = speed * e + r ∧ 0 ≤ e ∧ e ≤ 7 ∧ 0 ≤ r ∧ r < speed ∧
      ((roundEighths rem speed = e + 1 ∧ speed < 2 * r) ∨
        (roundEighths rem speed = e ∧ 2 * r ≤ speed)) := by
  have hpos : 0 < speed := hrem.trans_lt hlt
  have hscaled : 0 ≤ rem * 8 := by omega
  have hhalf : speed.tdiv 2 = speed / 2 := Int.tdiv_eq_ediv_of_nonneg hpos.le
  refine ⟨rem * 8 / speed, rem * 8 % speed, (Int.mul_ediv_add_emod _ _).symm,
    Int.ediv_nonneg hscaled hpos.le, ?_, Int.emod_nonneg _ hpos.ne', Int.emod_lt_of_pos _ hpos, ?_⟩
  · have hlt8 : rem * 8 / speed < 8 := Int.ediv_lt_of_lt_mul hpos (by omega)
    omega
  · rw [roundEighths, Int.tmod_eq_emod_of_nonneg hscaled, Int.tdiv_eq_ediv_of_nonneg hscaled, hhalf]
    split
    · exact .inl ⟨rfl, by omega⟩
    · exact .inr ⟨rfl, by omega⟩

/-- They are at most half an eighth off. -/
theorem roundEighths_half {rem speed : Int} (hrem : 0 ≤ rem) (hlt : rem < speed) :
    2 * |rem * 8 - roundEighths rem speed * speed| ≤ speed := by
  obtain ⟨e, r, hsplit, -, -, hr, hr', ⟨hround, hhalf⟩ | ⟨hround, hhalf⟩⟩ :=
    roundEighths_cases hrem hlt
  · have hdiff : rem * 8 - (e + 1) * speed = -(speed - r) := by
      rw [hsplit]
      ring
    rw [hround, hdiff, abs_neg, abs_of_nonneg (by omega)]
    omega
  · have hdiff : rem * 8 - e * speed = r := by
      rw [hsplit]
      ring
    rw [hround, hdiff, abs_of_nonneg hr]
    exact hhalf

/-- Three bits hold them unless they are rounded up to a whole divisor. -/
theorem roundEighths_le_iff {rem speed : Int} (hrem : 0 ≤ rem) (hlt : rem < speed) :
    roundEighths rem speed ≤ 7 ↔ 16 * rem ≤ 15 * speed := by
  obtain ⟨e, r, hsplit, he, he', hr, hr', hround⟩ := roundEighths_cases hrem hlt
  by_cases h7 : e = 7
  · subst h7
    omega
  · have hle : speed * e ≤ speed * 6 := Int.mul_le_mul_of_nonneg_left (by omega) (by omega)
    omega

theorem roundEighths_bounds {rem speed : Int} (hrem : 0 ≤ rem) (hlt : rem < speed) :
    0 ≤ roundEighths rem speed ∧ roundEighths rem speed ≤ 8 := by
  obtain ⟨e, r, -, he, he', -, -, hround⟩ := roundEighths_cases hrem hlt
  omega

/-! ## What is programmed -/

/-- **The nearest divisor that the registers hold**: after the request for `speed`,
the quotient is one of 16 bits and is latched, the enumeration one of three, and
both together are the nearest eighths of a divisor. -/
structure SpecialExact (r : RateInfo) (speed : Int) (q : Port) : Prop where
  quot : 1 ≤ r.baudBase / speed ∧ r.baudBase / speed ≤ 65535
  latched : (q.uart.divisor : Int) = r.baudBase / speed
  enum : q.uart.must.enum.toNat ≤ 7
  nearest : Nearest (8 * q.uart.divisor + q.uart.must.enum.toNat) (8 * r.baudBase) speed

/-- The rate that a request leaves in `info->speed` is what `mxser_change_speed`
finds, if it is not in the table. -/
theorem resolveBaud_requested {p : Port} {speed : Int} (h : speed ∉ mxvarBaudTable) :
    resolveBaud (requested p speed) (requested p speed).tty.termios.cCflag = speed := by
  have hcode : specialCbaud speed = b4000000 := if_pos h
  have hfield : field (setField p.tty.termios.cCflag 0 cbaudMask b4000000) 0 cbaudMask = b4000000 :=
    field_setField (by decide) (by decide)
  simp only [field, setField, BitVec.ushiftRight_zero, BitVec.shiftLeft_zero] at hfield
  have hcflag : (requested p speed).tty.termios.cCflag &&& cbaudMask = b4000000 := by
    rw [← hfield, ← hcode]
    rfl
  rw [resolveBaud, if_pos hcflag]
  rfl

/-- What `mxser_set_baud` programs for the rate in `info->speed`. -/
theorem mxserSetBaud_special {HZ : Int} {p q : Port} (htty : p.infoTty = true)
    (hbase : p.base ≠ 0) (hspecial : p.rate.speed ∉ mxvarBaudTable) (hpos : 0 < p.rate.speed)
    (hmax : p.rate.speed ≤ p.rate.maxCanSetBaudRate) (hle : p.rate.speed ≤ p.rate.baudBase)
    (h : mxserSetBaud HZ p p.rate.speed = .ok q) :
    (q.uart.divisor : Int) = p.rate.baudBase / p.rate.speed % 2 ^ 16 ∧
      q.uart.must.enum =
        BitVec.ofInt 8 (roundEighths (p.rate.baudBase % p.rate.speed) p.rate.speed) := by
  obtain ⟨quot, timeout, hquot, -, hcase⟩ := mxserSetBaud_values htty hbase hmax h
  rw [baudQuot_other hspecial hpos.ne', if_neg (by omega),
    Int.tdiv_eq_ediv_of_nonneg p.rate.baudBase_pos.le] at hquot
  cases hquot
  obtain ⟨hzero, -⟩ | ⟨-, enum, henum, rfl⟩ := hcase
  · have hone := Int.le_ediv_of_mul_le hpos (by rwa [one_mul] : 1 * p.rate.speed ≤ p.rate.baudBase)
    omega
  · have hne : p.rate.speed ≠ 134 := by
      intro h134
      rw [h134] at hspecial
      exact hspecial (by decide)
    have hsame : (baudRate p.rate p.rate.speed timeout).speed = p.rate.speed := if_neg hne
    have hother := baudEnum_other (r := baudRate p.rate p.rate.speed timeout) hspecial
      (hsame.symm ▸ hpos)
    rw [hsame] at hother
    cases henum.symm.trans hother
    exact ⟨latchBaud_divisor _ _ _, rfl⟩

/-- What `SMARTIO_SET_SPECIAL_BAUD_RATE` programs. -/
theorem special_programs {HZ : Int} {p q : Port} {speed : Int} (htty : p.infoTty = true)
    (hbase : p.base ≠ 0) (hmethod : p.rate.setBaudMethod = 0)
    (hspecial : speed ∉ mxvarBaudTable) (hpos : 0 < speed)
    (hmax : speed ≤ p.rate.maxCanSetBaudRate) (hle : speed ≤ p.rate.baudBase)
    (h : smartioSetSpecialBaudRate HZ p speed = .ok (none, q)) :
    (q.uart.divisor : Int) = p.rate.baudBase / speed % 2 ^ 16 ∧
      q.uart.must.enum = BitVec.ofInt 8 (roundEighths (p.rate.baudBase % speed) speed) := by
  have hopen : ¬ (!p.infoTty || p.base == 0) = true := by
    simp [htty, hbase]
  simp only [smartioSetSpecialBaudRate] at h
  rw [if_neg (by omega), if_neg hopen] at h
  obtain ⟨q', hq, h⟩ := bind_ok_iff.mp h
  cases h
  obtain ⟨hno | hno, -⟩ | ⟨-, -, r, hr, rfl⟩ := mxserChangeSpeed_ok hq
  · cases htty.symm.trans hno
  · exact absurd hno hbase
  · have hmethod' : (requested p speed).rate.setBaudMethod = 0 := hmethod
    rw [changeSpeedBaud, if_pos hmethod'] at hr
    simp only [resolveBaud_requested hspecial] at hr
    rw [(changeSpeedLine_rate r).2.1, changeSpeedLine_enum]
    have htty' : ((requested p speed).setSpeed speed).infoTty = true := htty
    exact mxserSetBaud_special htty' hbase hspecial hpos hmax hle hr

/-- **When a special rate is programmed exactly.** -/
theorem special_divisor_iff {HZ : Int} {p q : Port} {speed : Int}
    (hboard : (p.rate.baudBase, p.rate.maxCanSetBaudRate) ∈ boardRates)
    (htty : p.infoTty = true) (hbase : p.base ≠ 0) (hmethod : p.rate.setBaudMethod = 0)
    (hspecial : speed ∉ mxvarBaudTable) (hpos : 0 < speed)
    (hmax : speed ≤ p.rate.maxCanSetBaudRate)
    (h : smartioSetSpecialBaudRate HZ p speed = .ok (none, q)) :
    SpecialExact p.rate speed q ↔
      p.rate.baudBase < 65536 * speed ∧ 16 * (p.rate.baudBase % speed) ≤ 15 * speed := by
  have hle : speed ≤ p.rate.baudBase := by
    simp only [boardRates, List.mem_cons, Prod.mk.injEq, List.not_mem_nil, or_false] at hboard
    omega
  obtain ⟨hdivisor, henum⟩ := special_programs htty hbase hmethod hspecial hpos hmax hle h
  have hrem := Int.emod_nonneg p.rate.baudBase hpos.ne'
  have hlt := Int.emod_lt_of_pos p.rate.baudBase hpos
  have hsplit := Int.mul_ediv_add_emod p.rate.baudBase speed
  generalize hquot : p.rate.baudBase / speed = quot at *
  generalize hleft : p.rate.baudBase % speed = rem at *
  obtain ⟨he, he'⟩ := roundEighths_bounds hrem hlt
  have heighths : (q.uart.must.enum.toNat : Int) = roundEighths rem speed := by
    rw [henum, BitVec.toNat_ofInt]
    omega
  have hone : 1 ≤ quot := by
    rw [← hquot]
    exact Int.le_ediv_of_mul_le hpos (by rwa [one_mul])
  have hfits : p.rate.baudBase < 65536 * speed ↔ quot ≤ 65535 := by
    rw [← Int.ediv_lt_iff_lt_mul hpos, hquot]
    omega
  rw [hfits, ← roundEighths_le_iff hrem hlt, ← heighths]
  constructor
  · intro hexact
    have hrange := hexact.quot
    rw [hquot] at hrange
    exact ⟨hrange.2, by exact_mod_cast hexact.enum⟩
  · rintro ⟨hwide, hthree⟩
    have hlatched : (q.uart.divisor : Int) = quot := by omega
    refine ⟨hquot.symm ▸ ⟨hone, hwide⟩, hquot.symm ▸ hlatched, by exact_mod_cast hthree, ?_⟩
    apply nearest_of_half
    have hdiff : 8 * p.rate.baudBase - (8 * q.uart.divisor + q.uart.must.enum.toNat) * speed =
        rem * 8 - roundEighths rem speed * speed := by
      rw [hlatched, heighths, ← hsplit]
      ring
    rw [hdiff]
    exact roundEighths_half hrem hlt

/-- An open port of a board with 921600 for both rates. -/
def specialPort : Port := c104Port port16550A (c104Termios 0)

/-- 921600 by 500000 is one and seven eighths, less a bit. -/
theorem special_divisor_500000 :
    ∃ q, smartioSetSpecialBaudRate 100 specialPort 500000 = .ok (none, q) ∧
      SpecialExact specialPort.rate 500000 q := by
  refine ⟨_, rfl, ?_⟩
  exact (special_divisor_iff (by decide) rfl (by decide) rfl (by decide) (by decide) (by decide)
    rfl).mpr (by decide)

/-- By 475000 it is nearly two: one and eight eighths are programmed. -/
theorem special_divisor_475000 :
    ∃ q, smartioSetSpecialBaudRate 100 specialPort 475000 = .ok (none, q) ∧
      ¬ SpecialExact specialPort.rate 475000 q := by
  refine ⟨_, rfl, fun h => ?_⟩
  exact absurd h.enum (by decide)

end MoxaDrivers.Mxser

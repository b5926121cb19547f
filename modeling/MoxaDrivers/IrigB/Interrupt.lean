import MoxaDrivers.Lib.Bits
import MoxaDrivers.Lib.Machine

/-!
# The interrupt of the IRIG-B board

`irigb_interrupt` serves three sources from one report in `INTSTS`: the two
decoders, and the pulse per second. Of each it keeps the bits that were reported
last in `TimeStatus`, and masks the interrupt for a signal that is off until there
is another report.

In `INTMSK` a set bit masks; the driver works on the complement.
-/

namespace MoxaDrivers.IrigB

open MoxaDrivers.Bits MoxaDrivers.Machine

abbrev Word := BitVec 32

def intstsBitIrig0deOff : Word := 1 <<< 0
def intstsBitIrig0deFrmerr : Word := 1 <<< 1
def intstsBitIrig0deParerr : Word := 1 <<< 2
def intstsBitIrig0deDone : Word := 1 <<< 3
def intstsBitIrig1deOff : Word := 1 <<< 4
def intstsBitIrig1deFrmerr : Word := 1 <<< 5
def intstsBitIrig1deParerr : Word := 1 <<< 6
def intstsBitIrig1deDone : Word := 1 <<< 7
def intstsBitPpsdeTimeout : Word := 1 <<< 8
def intstsBitPpsdeDone : Word := 1 <<< 9

/-! ## The driver -/

inductive Source where
  | irig0de
  | irig1de
  | ppsde
  deriving DecidableEq, Repr

/-- The `maskReg` of the source. -/
def Source.maskReg : Source → Word
  | .irig0de =>
      intstsBitIrig0deOff ||| intstsBitIrig0deFrmerr ||| intstsBitIrig0deParerr |||
        intstsBitIrig0deDone
  | .irig1de =>
      intstsBitIrig1deOff ||| intstsBitIrig1deFrmerr ||| intstsBitIrig1deParerr |||
        intstsBitIrig1deDone
  | .ppsde => intstsBitPpsdeTimeout ||| intstsBitPpsdeDone

/-- The bit of the interrupt that is masked. -/
def Source.off : Source → Word
  | .irig0de => intstsBitIrig0deOff
  | .irig1de => intstsBitIrig1deOff
  | .ppsde => intstsBitPpsdeTimeout

/-- `TimeStatus` and `intMsk`, the complement of the mask. -/
structure Status where
  timeStatus : Word
  intMsk : Word
  deriving DecidableEq, Repr

/-- What `irigb_interrupt` does for one source. -/
def serve (src : Source) (intSts : Word) (s : Status) : Status :=
  if test intSts src.maskReg then
    { timeStatus := s.timeStatus &&& ~~~src.maskReg ||| intSts &&& src.maskReg
      intMsk :=
        if test (intSts &&& src.maskReg) src.off then s.intMsk &&& ~~~src.off
        else s.intMsk ||| src.off }
  else s

/-- The driver's status, and the mask register. -/
structure Irigb where
  timeStatus : Word
  intmsk : Word
  deriving DecidableEq, Repr

inductive IrqReturn where
  | none
  | handled
  deriving DecidableEq, Repr

/-- `irigb_interrupt`, with what it reads in `INTSTS`. -/
def irigbInterrupt (d : Irigb) (intSts : Word) : IrqReturn × Irigb :=
  let intMsk := ~~~d.intmsk
  if intMsk = 0 then (.none, d)
  else if intMsk &&& intSts = 0 then (.none, d)
  else
    let s := serve .irig0de intSts ⟨d.timeStatus, intMsk⟩
    let s := serve .irig1de intSts s
    let s := serve .ppsde intSts s
    (.handled, ⟨s.timeStatus, ~~~s.intMsk⟩)

/-- The mask that `irigb_probe` programs. -/
def probeMask : Word :=
  0xFFFFFFFF &&& ~~~(intstsBitIrig0deOff ||| intstsBitIrig0deFrmerr |||
    intstsBitIrig0deParerr ||| intstsBitIrig0deDone ||| intstsBitIrig1deOff |||
    intstsBitIrig1deFrmerr ||| intstsBitIrig1deParerr ||| intstsBitIrig1deDone |||
    intstsBitPpsdeTimeout ||| intstsBitPpsdeDone)

/-- What `irigb_probe` leaves, with whatever `TimeStatus` was. -/
def irigbProbe (timeStatus : Word) : Irigb := ⟨timeStatus, probeMask⟩

/-! ## The reports -/

/-- The driver with the reports that it has handled, the last one first. -/
structure Reported where
  dev : Irigb
  handled : List Word
  deriving DecidableEq, Repr

def reportStep (s : Reported) (intSts : Word) : Except Empty Reported :=
  match irigbInterrupt s.dev intSts with
  | (.none, dev) => .ok { s with dev := dev }
  | (.handled, dev) => .ok ⟨dev, intSts :: s.handled⟩

/-- The last report about the source. -/
def Reported.last (s : Reported) (src : Source) : Option Word :=
  s.handled.find? (test · src.maskReg)

/-- The interrupts that are masked and unmasked. -/
def offBits : Word := intstsBitIrig0deOff ||| intstsBitIrig1deOff ||| intstsBitPpsdeTimeout

/-- Of each source the driver keeps the last report, and masks an interrupt for
what was reported off there; the other bits of the mask are as `irigb_probe` set
them. -/
structure KeepsLast (timeStatus : Word) (s : Reported) : Prop where
  status : ∀ src : Source,
    SameOn src.maskReg s.dev.timeStatus ((s.last src).getD timeStatus)
  masked : ∀ src : Source, test s.dev.intmsk src.off = (s.last src).any (test · src.off)
  others : SameOn (~~~offBits) s.dev.intmsk probeMask

/-! ## One source -/

/-- The bits of a source in both words. -/
def Source.view (src : Source) (s : Status) : Word × Bool :=
  (s.timeStatus &&& src.maskReg, test s.intMsk src.off)

theorem off_cover (src : Source) : src.maskReg &&& src.off = src.off := by
  cases src <;> decide

theorem off_ne_zero (src : Source) : src.off ≠ 0 := by
  cases src <;> decide

theorem maskReg_disjoint {src other : Source} (h : src ≠ other) :
    src.maskReg &&& other.maskReg = 0 := by
  revert h
  cases src <;> cases other <;> decide

theorem off_disjoint {src other : Source} (h : src ≠ other) : src.off &&& other.off = 0 := by
  revert h
  cases src <;> cases other <;> decide

theorem test_not_off (x : Word) (src : Source) : test (~~~x) src.off = !test x src.off := by
  cases src with
  | irig0de => exact test_not_bit x (n := 0) (by decide)
  | irig1de => exact test_not_bit x (n := 4) (by decide)
  | ppsde => exact test_not_bit x (n := 8) (by decide)

theorem serve_silent {src : Source} {intSts : Word} (h : test intSts src.maskReg = false)
    (s : Status) : serve src intSts s = s :=
  if_neg (by simp [h])

/-- A source is left as the report has it. -/
theorem view_serve_self {src : Source} {intSts : Word} (h : test intSts src.maskReg = true)
    (s : Status) :
    src.view (serve src intSts s) = (intSts &&& src.maskReg, !test intSts src.off) := by
  rw [serve, if_pos h, Source.view, test_and_of_cover (off_cover src)]
  refine Prod.ext ?_ ?_
  · exact sameOn_replace (BitVec.and_self) s.timeStatus intSts
  · cases test intSts src.off with
    | true => exact test_clear_self _ _
    | false => exact test_or_self (off_ne_zero src)

/-- The other sources are left alone. -/
theorem view_serve_other {src other : Source} (h : src ≠ other) (intSts : Word) (s : Status) :
    other.view (serve src intSts s) = other.view s := by
  rw [serve]
  split
  · refine Prod.ext ?_ ?_
    · exact replace_sameOn (by rw [BitVec.and_assoc, BitVec.and_self]) (maskReg_disjoint h)
    · show test (if _ then _ else _) other.off = _
      split
      · exact test_clear_of_disjoint (off_disjoint h)
      · exact test_or_of_disjoint (off_disjoint h)
  · rfl

/-- The bits of the mask that no source has. -/
theorem serve_others (src : Source) (intSts : Word) (s : Status) :
    SameOn (~~~offBits) (serve src intSts s).intMsk s.intMsk := by
  have hoff : src.off &&& ~~~offBits = 0 := by
    cases src <;> decide
  rw [serve]
  split
  · show (if _ then _ else _) &&& ~~~offBits = _
    split
    · exact clear_and_of_disjoint hoff
    · exact or_and_of_disjoint hoff
  · rfl

/-! ## One interrupt -/

/-- The three sources, one after the other. -/
def serveAll (intSts : Word) (s : Status) : Status :=
  serve .ppsde intSts (serve .irig1de intSts (serve .irig0de intSts s))

/-- A source that is reported is left as the report has it, another one is left
alone. -/
theorem view_serveAll (src : Source) (intSts : Word) (s : Status) :
    src.view (serveAll intSts s) =
      if test intSts src.maskReg then (intSts &&& src.maskReg, !test intSts src.off)
      else src.view s := by
  have hself (s : Status) : src.view (serve src intSts s) =
      if test intSts src.maskReg then (intSts &&& src.maskReg, !test intSts src.off)
      else src.view s := by
    split
    · next h => exact view_serve_self h s
    · next h => rw [serve_silent (by simpa using h)]
  cases src with
  | irig0de =>
      rw [serveAll, view_serve_other (by decide), view_serve_other (by decide), hself]
  | irig1de =>
      rw [serveAll, view_serve_other (by decide), hself, view_serve_other (by decide)]
  | ppsde =>
      rw [serveAll, hself, view_serve_other (by decide), view_serve_other (by decide)]

theorem serveAll_others (intSts : Word) (s : Status) :
    SameOn (~~~offBits) (serveAll intSts s).intMsk s.intMsk := by
  have hfirst := serve_others .irig0de intSts s
  have hsecond := serve_others .irig1de intSts (serve .irig0de intSts s)
  have hthird := serve_others .ppsde intSts (serve .irig1de intSts (serve .irig0de intSts s))
  exact hthird.trans (hsecond.trans hfirst)

/-- What an interrupt that is handled leaves. -/
def afterReport (d : Irigb) (intSts : Word) : Irigb :=
  let s := serveAll intSts ⟨d.timeStatus, ~~~d.intmsk⟩
  ⟨s.timeStatus, ~~~s.intMsk⟩

/-- A report with a bit that is not masked is handled. -/
theorem irigbInterrupt_of_unmasked {d : Irigb} {intSts : Word} (h : ~~~d.intmsk &&& intSts ≠ 0) :
    irigbInterrupt d intSts = (.handled, afterReport d intSts) := by
  have hunmasked : ~~~d.intmsk ≠ 0 := by
    intro hzero
    rw [hzero] at h
    exact h BitVec.zero_and
  exact (if_neg hunmasked).trans (if_neg h)

theorem irigbInterrupt_of_masked {d : Irigb} {intSts : Word} (h : ~~~d.intmsk &&& intSts = 0) :
    irigbInterrupt d intSts = (.none, d) := by
  show (if _ then _ else if ~~~d.intmsk &&& intSts = 0 then _ else _) = _
  rw [if_pos h, ite_self]

theorem irigbInterrupt_handled_iff (d : Irigb) (intSts : Word) :
    (irigbInterrupt d intSts).1 = .handled ↔ ~~~d.intmsk &&& intSts ≠ 0 := by
  constructor
  · intro hhandled hmasked
    rw [irigbInterrupt_of_masked hmasked] at hhandled
    cases hhandled
  · intro h
    rw [irigbInterrupt_of_unmasked h]

theorem reportStep_cases (s : Reported) (intSts : Word) :
    reportStep s intSts = .ok s ∨
      reportStep s intSts = .ok ⟨afterReport s.dev intSts, intSts :: s.handled⟩ := by
  by_cases hother : ~~~s.dev.intmsk &&& intSts = 0
  · left
    rw [reportStep, irigbInterrupt_of_masked hother]
  · right
    rw [reportStep, irigbInterrupt_of_unmasked hother]

theorem last_cons (d : Irigb) (intSts : Word) (handled : List Word) (src : Source) :
    Reported.last ⟨d, intSts :: handled⟩ src =
      if test intSts src.maskReg then some intSts else Reported.last ⟨d, handled⟩ src := by
  rw [Reported.last, List.find?_cons]
  cases test intSts src.maskReg with
  | true => rfl
  | false => rfl

/-- **One interrupt** keeps the last reports. -/
theorem keepsLast_report {timeStatus : Word} {s : Reported} (h : KeepsLast timeStatus s)
    (intSts : Word) :
    KeepsLast timeStatus ⟨afterReport s.dev intSts, intSts :: s.handled⟩ := by
  have hview (src : Source) := view_serveAll src intSts ⟨s.dev.timeStatus, ~~~s.dev.intmsk⟩
  refine ⟨fun src => ?_, fun src => ?_, ?_⟩
  · have hstatus := congrArg Prod.fst (hview src)
    rw [last_cons]
    split
    · next hreport =>
        rw [if_pos hreport] at hstatus
        exact hstatus
    · next hsilent =>
        rw [if_neg hsilent] at hstatus
        exact hstatus.trans (h.status src)
  · have hmasked := congrArg Prod.snd (hview src)
    rw [last_cons]
    show test (~~~(serveAll intSts _).intMsk) src.off = _
    rw [test_not_off, show test (serveAll intSts _).intMsk src.off = _ from hmasked]
    split
    · exact Bool.not_not _
    · show (!test (~~~s.dev.intmsk) src.off) = _
      rw [test_not_off, Bool.not_not]
      exact h.masked src
  · have hothers := serveAll_others intSts ⟨s.dev.timeStatus, ~~~s.dev.intmsk⟩
    have hnot := sameOn_not hothers
    rw [BitVec.not_not] at hnot
    exact hnot.trans h.others

/-! ## Whole sequences -/

theorem keepsLast_probe (timeStatus : Word) :
    KeepsLast timeStatus ⟨irigbProbe timeStatus, []⟩ := by
  have hunmasked (src : Source) : test probeMask src.off = false := by
    cases src <;> decide
  exact ⟨fun src => rfl, hunmasked, rfl⟩

/-- **The status and the mask** are those of the last reports, after whatever
sequence of reports; and a report is handled exactly if it has a bit that is not masked. -/
theorem irigb_keeps_last (timeStatus : Word) (reports : List Word) :
    Always reportStep (KeepsLast timeStatus) ⟨irigbProbe timeStatus, []⟩ reports ∧
      ∀ d intSts, (irigbInterrupt d intSts).1 = .handled ↔ ~~~d.intmsk &&& intSts ≠ 0 := by
  refine ⟨?_, irigbInterrupt_handled_iff⟩
  apply always_of_invariant (I := KeepsLast timeStatus)
  · intro s intSts t hs hstep
    rcases reportStep_cases s intSts with hsame | hreport
    · cases hsame.symm.trans hstep
      exact hs
    · cases hreport.symm.trans hstep
      exact keepsLast_report hs intSts
  · exact keepsLast_probe timeStatus

-- the signal of decoder 0 goes off and comes back
example : (run reportStep ⟨irigbProbe 0, []⟩ [0x001, 0x208]).map Reported.dev =
    .ok ⟨0x208, 0xFFFFFC00⟩ := rfl

end MoxaDrivers.IrigB

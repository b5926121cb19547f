import Mathlib.Data.List.Find
import MoxaDrivers.IrigB.Interrupt

/-!
# The polled status of the IRIG-B board

With `enable_irigb_irq = 0` a timer has `irigb_poll` look at `INTSTS` where
`irigb_interrupt` would have been called. The interrupt keeps all that is
reported of a source, the poll only the first of its bits in the order off,
frame error, parity error, done. It is by that order that the status of a source
is read, so that both say the same of it; the words differ as soon as two bits
of a source are reported at once.
-/

namespace MoxaDrivers.IrigB

open MoxaDrivers.Bits MoxaDrivers.Machine

/-- The bits of a source, by their priority. -/
def Source.bits : Source → List Word
  | .irig0de =>
      [intstsBitIrig0deOff, intstsBitIrig0deFrmerr, intstsBitIrig0deParerr, intstsBitIrig0deDone]
  | .irig1de =>
      [intstsBitIrig1deOff, intstsBitIrig1deFrmerr, intstsBitIrig1deParerr, intstsBitIrig1deDone]
  | .ppsde => [intstsBitPpsdeTimeout, intstsBitPpsdeDone]

/-- The first of them that a word has. -/
def Source.leading (src : Source) (w : Word) : Option Word := src.bits.find? (test w ·)

/-- What `irigb_poll` does for one source. -/
def pollSource (src : Source) (intSts timeStatus : Word) : Word :=
  if test intSts src.maskReg then
    match src.leading intSts with
    | some bit => timeStatus &&& ~~~src.maskReg ||| bit
    | none => timeStatus &&& ~~~src.maskReg
  else timeStatus

/-- `irigb_poll`, with what it reads in `INTSTS`. -/
def irigbPoll (timeStatus intSts : Word) : Word :=
  let timeStatus := pollSource .irig0de intSts timeStatus
  let timeStatus := pollSource .irig1de intSts timeStatus
  pollSource .ppsde intSts timeStatus

/-! ## The two modes side by side -/

/-- The driver with its interrupt, and the `TimeStatus` that polling keeps. -/
structure Modes where
  irq : Irigb
  poll : Word
  deriving DecidableEq, Repr

def modesStep (s : Modes) (intSts : Word) : Except Empty Modes :=
  .ok ⟨(irigbInterrupt s.irq intSts).2, irigbPoll s.poll intSts⟩

/-- Some bit of the report is not masked. -/
def Unmasked (s : Modes) (intSts : Word) : Prop := ~~~s.irq.intmsk &&& intSts ≠ 0

instance (s : Modes) (intSts : Word) : Decidable (Unmasked s intSts) :=
  inferInstanceAs (Decidable (_ ≠ _))

/-- A report has one bit of the source at most. -/
def AtMostOne (src : Source) (intSts : Word) : Prop := src.bits.countP (test intSts ·) ≤ 1

instance (src : Source) (intSts : Word) : Decidable (AtMostOne src intSts) :=
  inferInstanceAs (Decidable (_ ≤ _))

/-- The bits that a source has. -/
def sourceBits : Word :=
  Source.irig0de.maskReg ||| Source.irig1de.maskReg ||| Source.ppsde.maskReg

/-- Both modes say the same of each source. -/
structure SameSignals (s : Modes) : Prop where
  leading : ∀ src : Source, src.leading s.poll = src.leading s.irq.timeStatus
  others : SameOn (~~~sourceBits) s.poll s.irq.timeStatus

def SameStatus (s : Modes) : Prop := s.poll = s.irq.timeStatus

instance (s : Modes) : Decidable (SameStatus s) := inferInstanceAs (Decidable (_ = _))

/-! ## The bits of a source -/

theorem maskReg_eq (src : Source) : src.maskReg = maskOf src.bits := by
  cases src <;> decide

theorem bits_apart (src : Source) : src.bits.Pairwise fun b c => c &&& b = 0 := by
  cases src <;> decide

theorem isBit_of_mem (src : Source) : ∀ bit ∈ src.bits, IsBit bit := by
  rw [← List.forall_iff_forall_mem]
  cases src with
  | irig0de =>
      exact ⟨⟨0, by decide, rfl⟩, ⟨1, by decide, rfl⟩, ⟨2, by decide, rfl⟩, 3, by decide, rfl⟩
  | irig1de =>
      exact ⟨⟨4, by decide, rfl⟩, ⟨5, by decide, rfl⟩, ⟨6, by decide, rfl⟩, 7, by decide, rfl⟩
  | ppsde => exact ⟨⟨8, by decide, rfl⟩, 9, by decide, rfl⟩

theorem bits_cover (src : Source) :
    ∀ bit ∈ src.bits, src.maskReg &&& bit = bit ∧ src.leading bit = some bit := by
  rw [← List.forall_iff_forall_mem]
  cases src <;> decide

/-- What is under the mask decides. -/
theorem leading_congr {src : Source} {x y : Word} (h : SameOn src.maskReg x y) :
    src.leading x = src.leading y := by
  refine List.find?_congr fun bit hbit => ?_
  have hcover := (bits_cover src bit hbit).1
  rw [← test_and_of_cover hcover, h, test_and_of_cover hcover]

theorem leading_mem {src : Source} {w bit : Word} (h : src.leading w = some bit) :
    bit ∈ src.bits :=
  List.mem_of_find?_eq_some h

/-- The bits of a word that are the source's. -/
theorem and_maskReg (src : Source) (w : Word) :
    w &&& src.maskReg = maskOf (src.bits.filter (test w ·)) := by
  rw [maskReg_eq, and_maskOf (isBit_of_mem src)]

theorem leading_of_test {src : Source} {w : Word} (h : test w src.maskReg = true) :
    ∃ bit rest, src.bits.filter (test w ·) = bit :: rest ∧ src.leading w = some bit := by
  have hne := test_eq_true_iff.mp h
  rw [and_maskReg] at hne
  cases hbits : src.bits.filter (test w ·) with
  | nil => exact absurd (by rw [hbits]; rfl) hne
  | cons bit rest =>
      refine ⟨bit, rest, rfl, ?_⟩
      rw [Source.leading, ← List.head?_filter, hbits, List.head?_cons]

/-- A report is its leading bit exactly if it has no other. -/
theorem leading_all_iff {src : Source} {w bit : Word} {rest : List Word}
    (h : src.bits.filter (test w ·) = bit :: rest) :
    w &&& src.maskReg = bit ↔ AtMostOne src w := by
  have hcount : AtMostOne src w ↔ rest = [] := by
    rw [AtMostOne, List.countP_eq_length_filter, h, List.length_cons]
    constructor
    · intro hle
      exact List.length_eq_zero_iff.mp (by omega)
    · rintro rfl
      exact Nat.le_refl 1
  have hsub : (bit :: rest).Sublist src.bits := h ▸ List.filter_sublist
  have hapart := (bits_apart src).sublist hsub
  rw [hcount, and_maskReg, h, maskOf_eq_head_iff]
  intro c hc
  refine ⟨isBit_of_mem src c (hsub.subset (List.mem_cons_of_mem bit hc)), ?_⟩
  exact (List.pairwise_cons.mp hapart).1 c hc

theorem atMostOne_of_silent {src : Source} {w : Word} (h : test w src.maskReg = false) :
    AtMostOne src w := by
  have hnone : src.bits.countP (test w ·) = 0 := by
    rw [List.countP_eq_zero]
    intro bit hbit
    rw [← test_and_of_cover (bits_cover src bit hbit).1, test_eq_false_iff.mp h]
    simp [test]
  rw [AtMostOne, hnone]
  exact Nat.zero_le 1

/-! ## One source polled -/

theorem pollSource_self {src : Source} {intSts bit : Word} (h : test intSts src.maskReg = true)
    (hbit : src.leading intSts = some bit) (timeStatus : Word) :
    pollSource src intSts timeStatus &&& src.maskReg = bit := by
  have hcover := (bits_cover src bit (leading_mem hbit)).1
  rw [pollSource, if_pos h, hbit]
  show (timeStatus &&& ~~~src.maskReg ||| bit) &&& src.maskReg = bit
  have hreplace := sameOn_replace (BitVec.and_self (x := src.maskReg)) timeStatus bit
  rw [BitVec.and_comm bit, hcover] at hreplace
  rw [hreplace, BitVec.and_comm, hcover]

theorem pollSource_apart {src : Source} {m : Word} (hm : src.maskReg &&& m = 0)
    (intSts timeStatus : Word) : SameOn m (pollSource src intSts timeStatus) timeStatus := by
  rw [pollSource]
  split
  · next h =>
      obtain ⟨bit, -, -, hbit⟩ := leading_of_test h
      rw [hbit]
      refine replace_sameOn ?_ hm
      rw [BitVec.and_comm, (bits_cover src bit (leading_mem hbit)).1]
  · rfl

/-! ## One report -/

/-- What a report leaves of a source in `TimeStatus`. -/
theorem irigbPoll_view (src : Source) (intSts timeStatus : Word) :
    irigbPoll timeStatus intSts &&& src.maskReg =
      if test intSts src.maskReg then (src.leading intSts).getD 0
      else timeStatus &&& src.maskReg := by
  have hself (t : Word) : pollSource src intSts t &&& src.maskReg =
      if test intSts src.maskReg then (src.leading intSts).getD 0 else t &&& src.maskReg := by
    split
    · next h =>
        obtain ⟨bit, -, -, hbit⟩ := leading_of_test h
        rw [pollSource_self h hbit, hbit, Option.getD_some]
    · next h => rw [pollSource, if_neg h]
  have hother {other : Source} (h : other ≠ src) (t : Word) :
      pollSource other intSts t &&& src.maskReg = t &&& src.maskReg :=
    pollSource_apart (maskReg_disjoint h) intSts t
  cases src with
  | irig0de => rw [irigbPoll, hother (by decide), hother (by decide), hself]
  | irig1de => rw [irigbPoll, hother (by decide), hself, hother (by decide)]
  | ppsde => rw [irigbPoll, hself, hother (by decide), hother (by decide)]

theorem irigbPoll_others (intSts timeStatus : Word) :
    SameOn (~~~sourceBits) (irigbPoll timeStatus intSts) timeStatus := by
  have hapart (src : Source) : src.maskReg &&& ~~~sourceBits = 0 := by
    cases src <;> decide
  have hfirst := pollSource_apart (hapart .irig0de) intSts timeStatus
  have hsecond := pollSource_apart (hapart .irig1de) intSts (pollSource .irig0de intSts timeStatus)
  have hthird := pollSource_apart (hapart .ppsde) intSts
    (pollSource .irig1de intSts (pollSource .irig0de intSts timeStatus))
  exact hthird.trans (hsecond.trans hfirst)

/-- The same of the interrupt, once it is handled. -/
theorem afterReport_view (src : Source) (d : Irigb) (intSts : Word) :
    (afterReport d intSts).timeStatus &&& src.maskReg =
      if test intSts src.maskReg then intSts &&& src.maskReg
      else d.timeStatus &&& src.maskReg := by
  have hview := congrArg Prod.fst (view_serveAll src intSts ⟨d.timeStatus, ~~~d.intmsk⟩)
  refine hview.trans ?_
  split
  · rfl
  · rfl

theorem serve_apart {src : Source} {m : Word} (hm : src.maskReg &&& m = 0) (intSts : Word)
    (s : Status) : SameOn m (serve src intSts s).timeStatus s.timeStatus := by
  rw [serve]
  split
  · exact replace_sameOn (by rw [BitVec.and_assoc, BitVec.and_self]) hm
  · rfl

theorem maskReg_apart (src : Source) : src.maskReg &&& ~~~sourceBits = 0 := by
  cases src <;> decide

theorem afterReport_others (d : Irigb) (intSts : Word) :
    SameOn (~~~sourceBits) (afterReport d intSts).timeStatus d.timeStatus := by
  have hfirst := serve_apart (maskReg_apart .irig0de) intSts ⟨d.timeStatus, ~~~d.intmsk⟩
  have hsecond := serve_apart (maskReg_apart .irig1de) intSts
    (serve .irig0de intSts ⟨d.timeStatus, ~~~d.intmsk⟩)
  have hthird := serve_apart (maskReg_apart .ppsde) intSts
    (serve .irig1de intSts (serve .irig0de intSts ⟨d.timeStatus, ~~~d.intmsk⟩))
  exact hthird.trans (hsecond.trans hfirst)

/-- Two words are equal if they have the same bits of every source, and the same
other bits. -/
theorem eq_iff_sources {x y : Word} (hothers : SameOn (~~~sourceBits) x y) :
    x = y ↔ ∀ src : Source, SameOn src.maskReg x y := by
  constructor
  · rintro rfl src
    rfl
  · intro h
    have hall := sameOn_union (sameOn_union (sameOn_union (h .irig0de) (h .irig1de)) (h .ppsde))
      hothers
    exact sameOn_allOnes.mp hall

/-! ## Both modes -/

theorem modesStep_unmasked {s : Modes} {intSts : Word} (h : Unmasked s intSts) :
    modesStep s intSts = .ok ⟨afterReport s.irq intSts, irigbPoll s.poll intSts⟩ := by
  rw [modesStep, irigbInterrupt_of_unmasked h]

/-- **One report** keeps both modes saying the same. -/
theorem sameSignals_report {s : Modes} (h : SameSignals s) (intSts : Word) :
    SameSignals ⟨afterReport s.irq intSts, irigbPoll s.poll intSts⟩ := by
  refine ⟨fun src => ?_, ?_⟩
  · have hpoll := irigbPoll_view src intSts s.poll
    have hirq := afterReport_view src s.irq intSts
    cases htest : test intSts src.maskReg with
    | true =>
        obtain ⟨bit, -, -, hbit⟩ := leading_of_test htest
        have hcover := bits_cover src bit (leading_mem hbit)
        rw [if_pos htest] at hpoll hirq
        rw [hbit, Option.getD_some, ← hcover.1, BitVec.and_comm src.maskReg] at hpoll
        rw [leading_congr hpoll, leading_congr hirq, hcover.2, hbit]
    | false =>
        rw [htest, if_neg Bool.false_ne_true] at hpoll hirq
        rw [leading_congr hpoll, leading_congr hirq, h.leading src]
  · exact (irigbPoll_others intSts s.poll).trans
      (h.others.trans (afterReport_others s.irq intSts).symm)

/-- Equal words stay equal if the report has one bit of each source at most. -/
theorem sameStatus_report_iff {s : Modes} (h : SameStatus s) (intSts : Word) :
    SameStatus ⟨afterReport s.irq intSts, irigbPoll s.poll intSts⟩ ↔
      ∀ src, AtMostOne src intSts := by
  have hothers := (irigbPoll_others intSts s.poll).trans
    ((congrArg (· &&& ~~~sourceBits) h).trans (afterReport_others s.irq intSts).symm)
  show irigbPoll s.poll intSts = (afterReport s.irq intSts).timeStatus ↔ _
  rw [eq_iff_sources hothers]
  refine forall_congr' fun src => ?_
  rw [SameOn, irigbPoll_view, afterReport_view]
  cases htest : test intSts src.maskReg with
  | true =>
      obtain ⟨bit, rest, hbits, hbit⟩ := leading_of_test htest
      rw [if_pos rfl, if_pos rfl, hbit, Option.getD_some, eq_comm, leading_all_iff hbits]
  | false =>
      rw [if_neg Bool.false_ne_true, if_neg Bool.false_ne_true]
      exact iff_of_true (congrArg (· &&& src.maskReg) h) (atMostOne_of_silent htest)

/-! ## Whole sequences -/

theorem sameStatus_iff (reports : List Word) : ∀ {s : Modes}, SameStatus s →
    Guarded modesStep Unmasked s reports →
      (Always modesStep SameStatus s reports ↔ ∀ intSts ∈ reports, ∀ src, AtMostOne src intSts) := by
  induction reports with
  | nil =>
      intro s hs _
      exact iff_of_true (always_nil.mpr hs) (fun _ h => absurd h List.not_mem_nil)
  | cons intSts reports ih =>
      intro s hs hguarded
      obtain ⟨hunmasked, hrest⟩ := guarded_cons.mp hguarded
      have hstep := modesStep_unmasked hunmasked
      have hreport := sameStatus_report_iff hs intSts
      rw [always_cons, List.forall_mem_cons, ← hreport]
      constructor
      · rintro ⟨-, h⟩
        have hsame := h _ hstep [] List.nil_prefix _ rfl
        exact ⟨hsame, (ih hsame (hrest _ hstep)).mp (h _ hstep)⟩
      · rintro ⟨hsame, h⟩
        refine ⟨hs, fun t ht => ?_⟩
        cases hstep.symm.trans ht
        exact (ih hsame (hrest _ hstep)).mpr h

/-- **Both modes** say the same of every source after any sequence of reports
that are not masked; their words are equal all along exactly if no report has two
bits of one source. -/
theorem modes_say_the_same (d : Irigb) {reports : List Word}
    (h : Guarded modesStep Unmasked ⟨d, d.timeStatus⟩ reports) :
    Always modesStep SameSignals ⟨d, d.timeStatus⟩ reports ∧
      (Always modesStep SameStatus ⟨d, d.timeStatus⟩ reports ↔
        ∀ intSts ∈ reports, ∀ src, AtMostOne src intSts) := by
  constructor
  · refine always_of_guarded (fun s intSts t hs hunmasked ht => ?_) ⟨fun _ => rfl, rfl⟩ h
    cases (modesStep_unmasked hunmasked).symm.trans ht
    exact sameSignals_report hs intSts
  · exact sameStatus_iff reports rfl h

-- decoder 0 goes off, and comes back with a parity error in its first frame
theorem modes_say_the_same_reconnect :
    Guarded modesStep Unmasked ⟨irigbProbe 0, 0⟩ [0x001, 0x00C] ∧
      Always modesStep SameSignals ⟨irigbProbe 0, 0⟩ [0x001, 0x00C] :=
  have h : Guarded modesStep Unmasked ⟨irigbProbe 0, 0⟩ [0x001, 0x00C] := by decide
  ⟨h, (modes_say_the_same (irigbProbe 0) h).1⟩

/-- A frame that is done with a parity error. -/
theorem modes_differ :
    Guarded modesStep Unmasked ⟨irigbProbe 0, 0⟩ [0x00C] ∧
      (run modesStep ⟨irigbProbe 0, 0⟩ [0x00C]).map (fun s => (s.irq.timeStatus, s.poll)) =
        .ok (0x00C, 0x004) ∧
      ¬ Always modesStep SameStatus ⟨irigbProbe 0, 0⟩ [0x00C] := by
  refine ⟨by decide, rfl, fun h => ?_⟩
  have hsame := h [0x00C] (List.prefix_refl _) _ rfl
  exact absurd hsame (by decide)

end MoxaDrivers.IrigB

import MoxaDrivers.Mxser.ModemCount
import MoxaDrivers.Mxupcie.Modem

/-!
# No change of a modem line is lost

Each delta bit that a read of `UART_MSR` returns is gone from the register, so
it has to be passed to `mx_check_modem_status` there and then: that counts it,
and it raises the hangup event when the carrier went. The interrupt and
`mxupcie_tiocmget` do so. `MOXA_GETMSTATUS` and an open that waits for the
carrier look at the levels and drop the rest.
-/

namespace MoxaDrivers.Mxupcie

open MoxaDrivers.Bits MoxaDrivers.Mxser
open MoxaDrivers.Machine

/-! ## Reads, counters and the hangup event -/

/-- No delta is pending in the hardware. -/
def Quiet (p : Port) : Prop := test p.uart.msr uartMsrAnyDelta = false

instance (p : Port) : Decidable (Quiet p) := inferInstanceAs (Decidable (_ = _))

/-- A status says that the carrier went, on a port that watches it and is not
exempt. -/
def carrierDrop (flags : Word) (status : Byte) : Bool :=
  test flags asyncCheckCd && test status uartMsrDdcd && !test status uartMsrDcd &&
    !(test flags asyncCalloutActive && test flags asyncCalloutNohup)

/-- `reads` are the reads of `UART_MSR` since `p₀`: the counters have grown by
the numbers of those with their delta bits, in the arithmetic of 32 bits, and a
carrier drop among them has raised the hangup event. -/
structure ChangesKept (p₀ p : Port) (reads : List Byte) : Prop where
  read : p.uart.msrReads = p₀.uart.msrReads ++ reads
  counts : ∀ line : ModemLine, line.counter p.icount =
    line.counter p₀.icount + BitVec.ofNat 32 (reads.countP fun msr => test msr line.delta)
  hangup : ∀ msr ∈ reads, carrierDrop p.flags msr = true → p.event.hangup = true

theorem changesKept_refl (p : Port) : ChangesKept p p [] where
  read := (List.append_nil _).symm
  counts := fun line => by simp
  hangup := fun _ hmem => absurd hmem List.not_mem_nil

/-! ## The operations -/

inductive ModemOp where
  | setLines (levels : Byte)
  | interrupt
  | tiocmget
  | getmstatus (old : MxupcieMstatus) (normalCflag : Word)
  | blockTurn (hungUp doClocal signal : Bool)
  deriving DecidableEq, Repr

def ModemOp.apply (op : ModemOp) (p : Port) : Port :=
  match op with
  | .setLines levels => { p with uart := p.uart.setLines levels }
  | .interrupt => interruptMsr p
  | .tiocmget => (mxupcieTiocmget p).2
  | .getmstatus old normalCflag => (getmstatusPort p old normalCflag).2
  | .blockTurn hungUp doClocal signal => (Mxupcie.blockTurn p hungUp doClocal signal).2

def modemStep (p : Port) (op : ModemOp) : Except Fault Port := .ok (op.apply p)

/-- An open port on its hardware: what the requests check before they read. -/
structure OnLine (p : Port) : Prop where
  tty : p.infoTty = true
  base : p.base ≠ 0
  noError : p.tty.ioError = false

/-- The turn of a wait that reads the register. -/
def waitReads (p : Port) (hungUp doClocal : Bool) : Bool :=
  !hungUp && p.initialized && !(test p.flags asyncCalloutActive || test p.flags asyncClosing) &&
    !doClocal

/-- `MOXA_GETMSTATUS`, and a turn of a wait that reads the register, are made
with no delta pending. -/
def CountsRight (p : Port) : ModemOp → Prop
  | .getmstatus _ _ => Quiet p
  | .blockTurn hungUp doClocal _ => waitReads p hungUp doClocal = true → Quiet p
  | .setLines _ => True
  | .interrupt => True
  | .tiocmget => True

/-! ## What they do -/

/-- What `mx_check_modem_status` takes account of stays, and `reads` are read in
vain. -/
structure Passed (p q : Port) (reads : List Byte) : Prop where
  read : q.uart.msrReads = p.uart.msrReads ++ reads
  icount : q.icount = p.icount
  event : q.event = p.event
  drop : ∀ msr, carrierDrop q.flags msr = carrierDrop p.flags msr
  online : OnLine p → OnLine q
  msr : reads = [] → q.uart.msr = p.uart.msr
  quiet : reads ≠ [] → Quiet q

theorem Passed.rfl {p : Port} : Passed p p [] where
  read := (List.append_nil _).symm
  icount := Eq.refl _
  event := Eq.refl _
  drop := fun _ => Eq.refl _
  online := id
  msr := fun _ => Eq.refl _
  quiet := fun h => absurd (Eq.refl _) h

theorem passed_readMsr (p : Port) : Passed p p.readMsr.2 [p.uart.msr] where
  read := rfl
  icount := rfl
  event := rfl
  drop := fun _ => rfl
  online := fun h => ⟨h.tty, h.base, h.noError⟩
  msr := nofun
  quiet := fun _ => test_clear_self _ _

theorem Passed.trans {p q r : Port} {as bs : List Byte} (h : Passed p q as)
    (h' : Passed q r bs) : Passed p r (as ++ bs) where
  read := by rw [h'.read, h.read, List.append_assoc]
  icount := h'.icount.trans h.icount
  event := h'.event.trans h.event
  drop := fun msr => (h'.drop msr).trans (h.drop msr)
  online := fun hp => h'.online (h.online hp)
  msr := fun hnil => by
    obtain ⟨has, hbs⟩ := List.append_eq_nil_iff.mp hnil
    rw [h'.msr hbs, h.msr has]
  quiet := fun hne => by
    by_cases hbs : bs = []
    · have has : as ≠ [] := fun has => hne (by rw [has, hbs]; rfl)
      rw [Quiet, h'.msr hbs]
      exact h.quiet has
    · exact h'.quiet hbs

theorem passed_raiseLines (p : Port) : Passed p (raiseLines p) [] := by
  simp only [raiseLines]
  split
  · exact .rfl
  · exact ⟨(List.append_nil _).symm, rfl, rfl, fun _ => rfl,
      fun h => ⟨h.tty, h.base, h.noError⟩, fun _ => rfl, fun h => absurd rfl h⟩

theorem passed_normalActive (p : Port) :
    Passed p { p with flags := p.flags ||| asyncNormalActive } [] where
  read := (List.append_nil _).symm
  icount := rfl
  event := rfl
  drop := fun msr => by
    show carrierDrop (p.flags ||| asyncNormalActive) msr = carrierDrop p.flags msr
    rw [carrierDrop, test_or_of_disjoint (by decide), test_or_of_disjoint (by decide),
      test_or_of_disjoint (by decide), carrierDrop]
  online := fun h => ⟨h.tty, h.base, h.noError⟩
  msr := fun _ => rfl
  quiet := fun h => absurd rfl h

theorem raiseLines_msr (p : Port) : (raiseLines p).uart.msr = p.uart.msr := by
  simp only [raiseLines]
  split
  · rfl
  · rfl

theorem raiseLines_flags (p : Port) : (raiseLines p).flags = p.flags := by
  simp only [raiseLines]
  split
  · rfl
  · rfl

/-- What the wait reads of the register. -/
def waitRead (p : Port) (hungUp doClocal : Bool) : List Byte :=
  if waitReads p hungUp doClocal then [p.uart.msr] else []

theorem passed_carrierReady (p : Port) (doClocal : Bool) :
    Passed p (carrierReady p doClocal).2
      (if !(test p.flags asyncCalloutActive || test p.flags asyncClosing) && !doClocal
        then [p.uart.msr] else []) := by
  simp only [carrierReady]
  cases test p.flags asyncCalloutActive || test p.flags asyncClosing with
  | true => exact .rfl
  | false =>
      cases doClocal with
      | true => exact .rfl
      | false => exact passed_readMsr p

/-- A turn of the wait passes nothing on. -/
theorem passed_blockTurn (p : Port) (hungUp doClocal signal : Bool) :
    Passed p (blockTurn p hungUp doClocal signal).2 (waitRead p hungUp doClocal) := by
  have hraise := passed_raiseLines p
  have hinit : (raiseLines p).initialized = p.initialized :=
    Port.initialized_congr (raiseLines_flags p)
  have hready := hraise.trans (passed_carrierReady (raiseLines p) doClocal)
  rw [raiseLines_flags, raiseLines_msr, List.nil_append] at hready
  simp only [blockTurn, hinit, waitRead, waitReads]
  cases hhere : hungUp || !p.initialized with
  | true =>
      have hno : (!hungUp && p.initialized) = false := by
        cases hungUp <;> cases hp : p.initialized <;> simp_all
      simp only [hno, Bool.false_and, Bool.false_eq_true, if_false, if_true]
      exact hraise
  | false =>
      have hyes : (!hungUp && p.initialized) = true := by
        cases hungUp <;> cases hp : p.initialized <;> simp_all
      simp only [hyes, Bool.true_and, Bool.false_eq_true, if_false]
      generalize carrierReady (raiseLines p) doClocal = c at hready
      cases c.1 with
      | true => simpa using hready.trans (passed_normalActive c.2)
      | false =>
          cases signal with
          | true => exact hready
          | false => exact hready

/-- What `mx_check_modem_status` does with a status. -/
structure Checked (p q : Port) (status : Byte) : Prop where
  uart : q.uart = p.uart
  flags : q.flags = p.flags
  counts : ∀ line : ModemLine, line.counter q.icount =
    if test status line.delta then line.counter p.icount + 1 else line.counter p.icount
  hangup : q.event.hangup = (p.event.hangup || carrierDrop p.flags status)
  online : OnLine p → OnLine q

theorem ctsChange_checked (p : Port) (status : Byte) :
    (ctsChange p status).uart = p.uart ∧ (ctsChange p status).flags = p.flags ∧
    (ctsChange p status).icount = p.icount ∧
    (ctsChange p status).event.hangup = p.event.hangup ∧
    (OnLine p → OnLine (ctsChange p status)) := by
  simp only [ctsChange]
  split
  · split
    · exact ⟨rfl, rfl, rfl, rfl, fun h => ⟨h.tty, h.base, h.noError⟩⟩
    · exact ⟨rfl, rfl, rfl, rfl, id⟩
  · split
    · exact ⟨rfl, rfl, rfl, rfl, fun h => ⟨h.tty, h.base, h.noError⟩⟩
    · exact ⟨rfl, rfl, rfl, rfl, id⟩

theorem mxCheckModemStatus_checked (p : Port) (status : Byte) :
    Checked p (mxCheckModemStatus p status) status := by
  have hcounts (line : ModemLine) :
      line.counter (carrierChange (countDeltas p status) status).icount =
        if test status line.delta then line.counter p.icount + 1 else line.counter p.icount := by
    cases line with
    | cts => rfl
    | dsr => rfl
    | dcd => rfl
    | rng => rfl
  have honline (h : OnLine p) : OnLine (carrierChange (countDeltas p status) status) :=
    ⟨h.tty, h.base, h.noError⟩
  simp only [mxCheckModemStatus]
  split
  · obtain ⟨huart, hflags, hicount, hhang, hon⟩ :=
      ctsChange_checked (carrierChange (countDeltas p status) status) status
    exact ⟨huart, hflags, fun line => by rw [hicount, hcounts], hhang,
      fun h => hon (honline h)⟩
  · exact ⟨rfl, rfl, hcounts, rfl, honline⟩

/-- What a read of `UART_MSR` at an interrupt or for `mxupcie_tiocmget` leads
to. -/
def servedMsr (p : Port) : Port :=
  if test p.uart.msr uartMsrAnyDelta then mxCheckModemStatus p.readMsr.2 p.uart.msr
  else p.readMsr.2

/-- The operations on an open port: a change of the lines, a read that is
served, or reads in vain. -/
theorem modemOp_cases {p : Port} (h : OnLine p) (op : ModemOp) :
    (∃ levels, op = .setLines levels ∧ op.apply p = { p with uart := p.uart.setLines levels }) ∨
    (CountsRight p op ∧ op.apply p = servedMsr p) ∨
    (∃ reads, Passed p (op.apply p) reads ∧ (reads = [] ∧ CountsRight p op ∨
      reads = [p.uart.msr] ∧ (CountsRight p op ↔ Quiet p))) := by
  cases op with
  | setLines levels => exact .inl ⟨levels, rfl, rfl⟩
  | interrupt =>
      refine .inr (.inl ⟨trivial, ?_⟩)
      simp only [ModemOp.apply, interruptMsr, h.tty]
      rfl
  | tiocmget =>
      refine .inr (.inl ⟨trivial, ?_⟩)
      simp only [ModemOp.apply, mxupcieTiocmget, h.noError]
      rfl
  | getmstatus old normalCflag =>
      refine .inr (.inr ⟨[p.uart.msr], ?_, .inr ⟨rfl, Iff.rfl⟩⟩)
      simp only [ModemOp.apply, getmstatusPort, if_neg h.base]
      exact passed_readMsr p
  | blockTurn hungUp doClocal signal =>
      refine .inr (.inr ⟨_, passed_blockTurn p hungUp doClocal signal, ?_⟩)
      cases hr : waitReads p hungUp doClocal with
      | true => exact .inr ⟨by rw [waitRead, hr]; rfl, by simp [CountsRight, hr]⟩
      | false => exact .inl ⟨by rw [waitRead, hr]; rfl, by simp [CountsRight, hr]⟩

/-! ## One step -/

theorem ChangesKept.passed {p₀ p q : Port} {reads : List Byte} (h : ChangesKept p₀ p reads)
    (hq : Passed p q []) : ChangesKept p₀ q reads where
  read := by rw [hq.read, List.append_nil, h.read]
  counts := fun line => by rw [hq.icount, h.counts line]
  hangup := fun msr hmem hdrop => by
    rw [hq.event]
    exact h.hangup msr hmem (hq.drop msr ▸ hdrop)

/-- A read in vain is right exactly when there was nothing to pass on. -/
theorem ChangesKept.dropped_iff {p₀ p q : Port} {reads : List Byte}
    (h : ChangesKept p₀ p reads) (hq : Passed p q [p.uart.msr]) :
    (∃ rs, ChangesKept p₀ q rs) ↔ Quiet p := by
  rw [Quiet, ModemLine.anyDelta_false_iff]
  have hcount := ModemLine.count_read_iff (d := q.icount) p.uart.msr h.counts
  have hread : q.uart.msrReads = p₀.uart.msrReads ++ (reads ++ [p.uart.msr]) := by
    rw [hq.read, h.read, List.append_assoc]
  constructor
  · rintro ⟨rs, hrs⟩ line
    have hsame : rs = reads ++ [p.uart.msr] := by
      have heq := hrs.read
      rw [hread] at heq
      exact (List.append_cancel_left heq).symm
    have hline := hcount.mp (hsame ▸ hrs.counts) line
    rw [hq.icount] at hline
    cases hd : test p.uart.msr line.delta with
    | false => rfl
    | true =>
        rw [hd, if_pos rfl] at hline
        simp at hline
  · intro hquiet
    refine ⟨reads ++ [p.uart.msr], hread, hcount.mpr fun line => ?_, fun msr hmem hdrop => ?_⟩
    · rw [hq.icount, hquiet line]
      rfl
    · rw [hq.event]
      rw [hq.drop] at hdrop
      rcases List.mem_append.mp hmem with hold | hnew
      · exact h.hangup msr hold hdrop
      · -- a carrier drop is a delta
        cases List.mem_singleton.mp hnew
        have hdcd : test p.uart.msr uartMsrDdcd = false := hquiet .dcd
        simp [carrierDrop, hdcd] at hdrop

/-- A served read passes on what it returned. -/
theorem ChangesKept.served {p₀ p : Port} {reads : List Byte} (h : ChangesKept p₀ p reads) :
    ∃ rs, ChangesKept p₀ (servedMsr p) rs := by
  simp only [servedMsr]
  by_cases hany : test p.uart.msr uartMsrAnyDelta = true
  · rw [if_pos hany]
    have hcheck := mxCheckModemStatus_checked p.readMsr.2 p.uart.msr
    refine ⟨reads ++ [p.uart.msr], ?_, ?_, fun msr hmem hdrop => ?_⟩
    · rw [hcheck.uart, ← List.append_assoc, ← h.read]
      rfl
    · exact (ModemLine.count_read_iff p.uart.msr h.counts).mpr hcheck.counts
    · rw [hcheck.flags] at hdrop
      rw [hcheck.hangup]
      rcases List.mem_append.mp hmem with hold | hnew
      · rw [show p.readMsr.2.event.hangup = true from h.hangup msr hold hdrop, Bool.true_or]
      · cases List.mem_singleton.mp hnew
        rw [hdrop, Bool.or_true]
  · rw [if_neg hany]
    exact (h.dropped_iff (passed_readMsr p)).mpr (by simpa [Quiet] using hany)

theorem OnLine.served {p : Port} (h : OnLine p) : OnLine (servedMsr p) := by
  have hread : OnLine p.readMsr.2 := ⟨h.tty, h.base, h.noError⟩
  simp only [servedMsr]
  split
  · exact (mxCheckModemStatus_checked p.readMsr.2 p.uart.msr).online hread
  · exact hread

/-- An open port that has lost nothing since `p₀`. -/
structure KeptInv (p₀ p : Port) : Prop where
  online : OnLine p
  kept : ∃ reads, ChangesKept p₀ p reads

theorem keptInv_step {p₀ p : Port} {op : ModemOp} (h : KeptInv p₀ p) (hop : CountsRight p op) :
    KeptInv p₀ (op.apply p) := by
  obtain ⟨rs, hrs⟩ := h.kept
  rcases modemOp_cases h.online op with
    ⟨levels, -, he⟩ | ⟨-, he⟩ | ⟨reads, hpass, ⟨rfl, -⟩ | ⟨rfl, hiff⟩⟩
  · rw [he]
    exact ⟨⟨h.online.tty, h.online.base, h.online.noError⟩, rs, hrs.read, hrs.counts, hrs.hangup⟩
  · rw [he]
    exact ⟨h.online.served, hrs.served⟩
  · exact ⟨hpass.online h.online, rs, hrs.passed hpass⟩
  · exact ⟨hpass.online h.online, (hrs.dropped_iff hpass).mpr (hiff.mp hop)⟩

/-- A read made against the condition leaves nothing pending and a change
lost. -/
theorem kept_bad_step {p₀ p : Port} {op : ModemOp} (h : KeptInv p₀ p)
    (hop : ¬ CountsRight p op) :
    Quiet (op.apply p) ∧ ¬ ∃ reads, ChangesKept p₀ (op.apply p) reads := by
  obtain ⟨rs, hrs⟩ := h.kept
  rcases modemOp_cases h.online op with
    ⟨levels, rfl, -⟩ | ⟨hright, -⟩ | ⟨reads, hpass, ⟨-, hright⟩ | ⟨rfl, hiff⟩⟩
  · exact absurd trivial hop
  · exact absurd hright hop
  · exact absurd hright hop
  · exact ⟨hpass.quiet (List.cons_ne_nil _ _),
      fun hkept => hop (hiff.mpr ((hrs.dropped_iff hpass).mp hkept))⟩

/-! ## Whole runs -/

/-- **No change is lost in exactly these runs.** From any state of an open port
on, whenever no delta is pending the counters agree with the reads and every
carrier drop that was read has raised the hangup event, if and only if every
`MOXA_GETMSTATUS`, and every turn of a wait that reads the register, is made
with no delta pending. -/
theorem modem_changes_kept_iff {p : Port} (hp : OnLine p) (ops : List ModemOp) :
    Always modemStep (fun q => Quiet q → ∃ reads, ChangesKept p q reads) p ops ↔
      Guarded modemStep CountsRight p ops := by
  apply always_iff_guarded (J := KeptInv p)
  · exact fun q hq _ => hq.kept
  · intro q op t hq hop ht
    cases ht
    exact keptInv_step hq hop
  · intro q op hq hop
    obtain ⟨hquiet, hkept⟩ := kept_bad_step hq hop
    exact ⟨_, rfl, fun h => hkept (h hquiet)⟩
  · exact ⟨hp, [], changesKept_refl p⟩

theorem cp102Started_onLine (termios : Termios) : OnLine (cp102Started termios) :=
  ⟨rfl, Nat.succ_ne_zero _, rfl⟩

/-- The carrier comes and goes, each served by an interrupt. -/
theorem modem_changes_kept_iff_run :
    Always modemStep (fun q => Quiet q → ∃ reads, ChangesKept (cp102Started (cp102Termios 0)) q reads)
      (cp102Started (cp102Termios 0)) [.setLines 0x90, .interrupt, .setLines 0x10, .interrupt] ↔
    Guarded modemStep CountsRight (cp102Started (cp102Termios 0))
      [.setLines 0x90, .interrupt, .setLines 0x10, .interrupt] :=
  modem_changes_kept_iff (cp102Started_onLine (cp102Termios 0)) _

/-- The carrier goes on a port that watches it, and `MOXA_GETMSTATUS` reads the
register before the interrupt does: the drop is neither counted nor followed by
a hangup. -/
theorem getmstatus_loses_drop :
    ∃ t, run modemStep { cp102Started (cp102Termios 0) with
        flags := asyncInitialized ||| asyncCheckCd }
        [.setLines 0x90, .interrupt, .setLines 0x10, .getmstatus ⟨0, false, false, false, false⟩ 0,
          .interrupt] = .ok t ∧
      Quiet t ∧ t.icount.dcd = 1 ∧ t.event.hangup = false ∧
      ¬ ∃ reads, ChangesKept { cp102Started (cp102Termios 0) with
        flags := asyncInitialized ||| asyncCheckCd } t reads := by
  refine ⟨_, rfl, by decide, by decide, by decide, ?_⟩
  rintro ⟨reads, hkept⟩
  have hall : (cp102Started (cp102Termios 0)).uart.msrReads ++ [0x98, 0x18, 0x10] =
      (cp102Started (cp102Termios 0)).uart.msrReads ++ reads := hkept.read
  have hdcd := hkept.counts .dcd
  rw [← List.append_cancel_left hall] at hdcd
  exact absurd hdcd (by decide)

end MoxaDrivers.Mxupcie

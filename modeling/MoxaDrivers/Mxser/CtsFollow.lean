import MoxaDrivers.Lib.Machine
import MoxaDrivers.Mxser.ModemCount
import MoxaDrivers.Mxser.Speed

/-!
# `hw_stopped` follows CTS

On a UART that does not look after CTS itself the driver holds the transmitter
with `tty->hw_stopped`. The register tells a change of CTS once, to whoever
reads it first: the interrupt, `mxser_tiocmget` and `MOXA_ASPP_MON` pass it on
to `mxser_check_modem_status`; `MOXA_ASPP_MON_EXT` and `MOXA_GETMSTATUS` do not.
-/

namespace MoxaDrivers.Mxser

open MoxaDrivers.Bits MoxaDrivers.Machine

/-- `hw_stopped` is set exactly when CTS is low. -/
def CtsAgrees (p : Port) : Prop := p.tty.hwStopped = !test p.uart.msr uartMsrCts

instance (p : Port) : Decidable (CtsAgrees p) := inferInstanceAs (Decidable (_ = _))

/-- A port with CTS flow control in the driver, as `mxser_change_speed` leaves
it under `CRTSCTS`. -/
def CtsOpened (HZ : Int) (p : Port) : Prop :=
  ∃ p₀, OnLine p₀ ∧ p₀.autoCts = false ∧ test p₀.tty.termios.cCflag crtscts = true ∧
    mxserChangeSpeed HZ p₀ = .ok p

/-- Where `hw_stopped` is behind, a change of CTS is pending. -/
structure CtsInv (p : Port) : Prop where
  online : OnLine p
  flow : test p.flags asyncCtsFlow = true
  behind : ¬ CtsAgrees p → test p.uart.msr uartMsrDcts = true

/-- The two requests that keep the deltas to themselves are made while
`hw_stopped` is not behind. -/
def ReadsInStep (p : Port) (op : ModemOp) : Prop :=
  match op with
  | .getmstatus _ | .asppMonExt _ => CtsAgrees p
  | _ => True

/-! ## One step -/

theorem CtsInv.agrees_of_quiet {p : Port} (h : CtsInv p) (hq : Quiet p) : CtsAgrees p := by
  by_contra hne
  have hline := (ModemLine.anyDelta_false_iff p.uart.msr).mp hq .cts
  rw [show ModemLine.cts.delta = uartMsrDcts from rfl, h.behind hne] at hline
  cases hline

/-- A read leaves the level of CTS. -/
theorem inbMsr_cts (p : Port) :
    test p.inbMsr.2.uart.msr uartMsrCts = test p.uart.msr uartMsrCts :=
  test_clear_of_disjoint (by decide)

theorem ctsAgrees_inbMsr (p : Port) : CtsAgrees p.inbMsr.2 ↔ CtsAgrees p := by
  simp only [CtsAgrees]
  rw [inbMsr_cts]
  rfl

/-- After `mxser_check_modem_status` with the level that the register shows,
`hw_stopped` is in step. -/
theorem ctsInv_check {p : Port} {status : Byte} (hon : OnLine p)
    (hflow : test p.flags asyncCtsFlow = true)
    (hlevel : test status uartMsrCts = test p.uart.msr uartMsrCts) :
    CtsInv (mxserCheckModemStatus p status) := by
  obtain ⟨ev, ier, uier, heq⟩ := mxserCheckModemStatus_eq p status
  rw [heq, hflow, cond_true]
  refine ⟨⟨hon.tty, hon.base, hon.noError⟩, hflow, fun hne => absurd ?_ hne⟩
  show (!test status uartMsrCts) = !test p.uart.msr uartMsrCts
  rw [hlevel]

theorem ctsInv_of_agrees {p q : Port} (h : CtsInv p) (hon : OnLine q)
    (hflags : q.flags = p.flags) (hagrees : CtsAgrees q) : CtsInv q :=
  ⟨hon, hflags ▸ h.flow, fun hne => absurd hagrees hne⟩

theorem ctsInv_setLines {p : Port} (h : CtsInv p) (levels : Byte) :
    CtsInv { p with uart := p.uart.setLines levels } := by
  refine ⟨⟨h.online.tty, h.online.base, h.online.noError⟩, h.flow, fun hne => ?_⟩
  show test (p.uart.setLines levels).msr uartMsrDcts = true
  rw [Uart.setLines_dcts, Bool.or_eq_true]
  by_cases hsame : test (p.uart.msr ^^^ levels) uartMsrCts = true
  · exact .inr hsame
  · -- CTS did not change: `hw_stopped` was behind before
    left
    apply h.behind
    intro hagrees
    apply hne
    show p.tty.hwStopped = !test (p.uart.setLines levels).msr uartMsrCts
    rw [Uart.setLines_cts, ← test_eq_of_xor (by simpa using hsame)]
    exact hagrees

theorem ctsInv_served {p : Port} (h : CtsInv p) : CtsInv (servedMsr p) := by
  simp only [servedMsr]
  by_cases hany : test p.uart.msr uartMsrAnyDelta = true
  · rw [if_pos hany]
    exact ctsInv_check h.online.inbMsr h.flow (inbMsr_cts p).symm
  · rw [if_neg hany]
    have hquiet : Quiet p := Bool.eq_false_iff.mpr hany
    exact ctsInv_of_agrees h h.online.inbMsr rfl
      ((ctsAgrees_inbMsr p).mpr (h.agrees_of_quiet hquiet))

/-- The level of CTS in the status of a monitor request is the register's. -/
theorem mxserGetMsr_cts (p : Port) (mode : Int) :
    test (mxserGetMsr p mode).1 uartMsrCts = test p.uart.msr uartMsrCts := by
  show test ((p.mxserMsr &&& uartMsrAnyDelta) ||| p.uart.msr) uartMsrCts = _
  rw [test_or, test_and_of_disjoint (by decide), Bool.false_or]

theorem ctsInv_step {p : Port} {op : ModemOp} (h : CtsInv p) (hop : ReadsInStep p op) :
    CtsInv (op.apply p) := by
  rcases modemOp_apply h.online op with
    ⟨levels, -, he⟩ | ⟨-, he⟩ | ⟨mcr, reason, -, he⟩ | ⟨opmode, rfl, he⟩ | ⟨old, rfl, he⟩
  · rw [he]
    exact ctsInv_setLines h levels
  · rw [he]
    exact ctsInv_served h
  · have hlevel : test (mxserGetMsr p 1).1 uartMsrCts
        = test (mxserGetMsr p 1).2.uart.msr uartMsrCts := by
      rw [mxserGetMsr_cts]
      exact (inbMsr_cts p).symm
    have hinv : CtsInv (mxserCheckModemStatus (mxserGetMsr p 1).2 (mxserGetMsr p 1).1) :=
      ctsInv_check ⟨h.online.tty, h.online.base, h.online.noError⟩ h.flow hlevel
    rw [he]
    exact ⟨⟨hinv.online.tty, hinv.online.base, hinv.online.noError⟩, hinv.flow, hinv.behind⟩
  · rw [he]
    exact ctsInv_of_agrees h ⟨h.online.tty, h.online.base, h.online.noError⟩ rfl
      ((ctsAgrees_inbMsr p).mpr hop)
  · rw [he]
    exact ctsInv_of_agrees h h.online.inbMsr rfl ((ctsAgrees_inbMsr p).mpr hop)

/-- Made while `hw_stopped` is behind, either request leaves it behind with
nothing pending. -/
theorem cts_bad_step {p : Port} {op : ModemOp} (h : CtsInv p) (hop : ¬ ReadsInStep p op) :
    Quiet (op.apply p) ∧ ¬ CtsAgrees (op.apply p) := by
  rcases modemOp_apply h.online op with
    ⟨levels, rfl, -⟩ | ⟨rfl | rfl, -⟩ | ⟨mcr, reason, rfl, -⟩ | ⟨opmode, rfl, he⟩ |
    ⟨old, rfl, he⟩
  · exact absurd trivial hop
  · exact absurd trivial hop
  · exact absurd trivial hop
  · exact absurd trivial hop
  · rw [he]
    exact ⟨inbMsr_quiet p, fun hc => hop ((ctsAgrees_inbMsr p).mp hc)⟩
  · rw [he]
    exact ⟨inbMsr_quiet p, fun hc => hop ((ctsAgrees_inbMsr p).mp hc)⟩

/-! ## The start -/

/-- Under `CRTSCTS` and without help from the chip, `mxser_change_speed` reads
CTS and takes it over. -/
theorem CtsOpened.inv {HZ : Int} {p : Port} (h : CtsOpened HZ p) : CtsInv p := by
  obtain ⟨p₀, hon, hauto, hcflag, hspeed⟩ := h
  rcases mxserChangeSpeed_ok hspeed with ⟨hno | hno, -⟩ | ⟨-, -, r, hr, rfl⟩
  · rw [hon.tty] at hno
    cases hno
  · exact absurd hno hon.base
  · obtain ⟨rate, mcr, umcr, fcr, dll, dlm, must, hframe⟩ := changeSpeedBaud_frame hr
    have htty : r.tty = p₀.tty := by rw [hframe]
    obtain ⟨hinfo', hbase', htty', hmsr, hflow⟩ := changeSpeedLine_held (p := r)
      (by rw [htty]; exact hcflag) (by rw [hframe]; exact hauto)
    refine ⟨⟨?_, ?_, ?_⟩, hflow, fun hne => absurd ?_ hne⟩
    · rw [hinfo', hframe]
      exact hon.tty
    · rw [hbase', hframe]
      exact hon.base
    · rw [htty', htty]
      exact hon.noError
    · -- `hw_stopped` was set from the read that cleared the deltas
      simp only [CtsAgrees]
      rw [htty', hmsr, test_clear_of_disjoint (by decide)]

/-! ## Whole runs -/

/-- **`hw_stopped` follows CTS in exactly these runs.** On an open port with
`ASYNC_CTS_FLOW` on a plain UART, `hw_stopped` is set exactly when CTS is low
whenever no delta is pending, if and only if no `MOXA_GETMSTATUS` and no
`MOXA_ASPP_MON_EXT` is made while `hw_stopped` is behind. -/
theorem hw_stopped_follows_cts_iff {HZ : Int} {p : Port} (hp : CtsOpened HZ p)
    (ops : List ModemOp) :
    Always modemStep (fun q => Quiet q → CtsAgrees q) p ops ↔
      Guarded modemStep ReadsInStep p ops := by
  apply always_iff_guarded (J := CtsInv)
  · exact fun q hq hquiet => hq.agrees_of_quiet hquiet
  · intro q op t hq hop ht
    cases ht
    exact ctsInv_step hq hop
  · intro q op hq hop
    obtain ⟨hquiet, hagrees⟩ := cts_bad_step hq hop
    exact ⟨_, rfl, fun h => hagrees (h hquiet)⟩
  · exact hp.inv

/-- CTS drops and comes back, each time served by an interrupt. -/
theorem hw_stopped_follows_cts_iff_run :
    ∃ p, mxserChangeSpeed 100 (c104Started port16450 (c104Termios crtscts)) = .ok p ∧
      (Always modemStep (fun q => Quiet q → CtsAgrees q) p
          [.setLines 0, .interrupt, .setLines uartMsrCts, .interrupt] ↔
        Guarded modemStep ReadsInStep p
          [.setLines 0, .interrupt, .setLines uartMsrCts, .interrupt]) :=
  ⟨_, rfl, hw_stopped_follows_cts_iff
    (show CtsOpened 100 _ from
      ⟨_, c104Started_onLine port16450 (c104Termios crtscts), by decide, by decide, rfl⟩) _⟩

/-- CTS drops and an interrupt stops the transmitter; CTS comes back and
`MOXA_GETMSTATUS` reads the change: the transmitter stays held with CTS up and
nothing pending. -/
theorem getmstatus_loses_cts :
    ∃ p t, CtsOpened 100 p ∧
      run modemStep p [.setLines 0, .interrupt, .setLines uartMsrCts,
        .getmstatus ⟨0, false, false, false, false⟩] = .ok t ∧
      Quiet t ∧ t.tty.hwStopped = true ∧ test t.uart.msr uartMsrCts = true := by
  have hopened : mxserChangeSpeed 100 (c104Started port16450 (c104Termios crtscts)) = .ok _ := rfl
  refine ⟨_, _, ⟨_, ?_, ?_, ?_, hopened⟩, rfl, ?_, ?_, ?_⟩
  · exact c104Started_onLine port16450 (c104Termios crtscts)
  all_goals decide

end MoxaDrivers.Mxser

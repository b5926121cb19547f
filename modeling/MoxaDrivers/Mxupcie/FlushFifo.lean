import MoxaDrivers.Mxser.Board
import MoxaDrivers.Mxser.FlushFifo
import MoxaDrivers.Mxupcie.Speed
import MoxaDrivers.Mxupcie.Startup

/-!
# What a flush leaves of the FIFO configuration

`mxupcie_flush_buffer` reads offset 2 as `mxser_flush_buffer` does.
`mx_change_speed` programs the enable bit alone, which no read of the interrupt
identification of enabled FIFOs gives.
-/

namespace MoxaDrivers.Mxupcie

open MoxaDrivers.Bits MoxaDrivers.Machine MoxaDrivers.Mxser

/-- What `mx_change_speed` programs. -/
theorem mxChangeSpeed_fcr {HZ : Int} {p q : Port} (htty : p.infoTty = true)
    (hbase : p.base ≠ 0) (h : mxChangeSpeed HZ p = .ok q) : q.uart.fcr = uartFcrEnableFifo := by
  simp only [mxChangeSpeed] at h
  rw [if_neg (by simp [htty]), if_neg hbase] at h
  obtain ⟨r, hr, h⟩ := bind_ok_iff.mp h
  cases h
  rfl

/-- The FIFO configuration as another port left it. -/
def Port.withFcr (p : Port) (fcr : Byte) : Port := { p with uart := { p.uart with fcr := fcr } }

def mxupcieFifoStep (HZ : Int) (s : Programmed Port) :
    FifoOp Port → Except Fault (Programmed Port)
  | .changeSpeed p => do
      let q ← mxChangeSpeed HZ (p.withFcr s.port.uart.fcr)
      return ⟨q, if p.infoTty = true ∧ p.base ≠ 0 then uartFcrEnableFifo else s.programmed⟩
  | .flushBuffer pending =>
      .ok ⟨mxupcieFlushBuffer s.port (readIir s.port.uart.fcr pending), s.programmed⟩

theorem mxupcieFifoStep_changeSpeed {HZ : Int} {s t : Programmed Port} {p : Port}
    (hs : FifoKept (fun p : Port => p.uart.fcr) s)
    (h : mxupcieFifoStep HZ s (.changeSpeed p) = .ok t) :
    FifoKept (fun p : Port => p.uart.fcr) t := by
  obtain ⟨q, hq, h⟩ := bind_ok_iff.mp h
  cases h
  by_cases hlive : p.infoTty = true ∧ p.base ≠ 0
  · have hfcr : q.uart.fcr = uartFcrEnableFifo :=
      mxChangeSpeed_fcr (p := p.withFcr s.port.uart.fcr) hlive.1 hlive.2 hq
    rw [if_pos hlive]
    show FifoAs uartFcrEnableFifo q.uart.fcr
    rw [hfcr]
    exact rfl
  · rw [if_neg hlive]
    have hskip : mxChangeSpeed HZ (p.withFcr s.port.uart.fcr) =
        .ok (p.withFcr s.port.uart.fcr) := by
      simp only [mxChangeSpeed]
      split
      · rfl
      · next htty =>
          split
          · rfl
          · next hbase =>
              have hopen : (p.withFcr s.port.uart.fcr).infoTty = true := by simpa using htty
              exact absurd ⟨hopen, hbase⟩ hlive
    cases hskip.symm.trans hq
    exact hs

/-- After a change of speed no flush finds the configuration. -/
theorem mxupcie_flush_harmful {HZ : Int} {s t : Programmed Port} {p : Port}
    (htty : p.infoTty = true) (hbase : p.base ≠ 0)
    (h : mxupcieFifoStep HZ s (.changeSpeed p) = .ok t) (pending : Option InterruptId) :
    ¬ FlushHarmless t (.flushBuffer pending) := by
  obtain ⟨q, -, h⟩ := bind_ok_iff.mp h
  cases h
  have hpartial : uartFcrEnableFifo &&& uartFcrConfig ≠ uartFcrConfig ∧
      uartFcrEnableFifo &&& uartFcrConfig ≠ 0 := by decide
  rw [if_pos ⟨htty, hbase⟩]
  rintro (⟨hfull, -⟩ | ⟨hzero, -⟩)
  · exact hpartial.1 hfull
  · exact hpartial.2 hzero

/-- **When flushes keep the FIFO configuration**: along a run of changes of speed
and flushes exactly if each flush finds what was programmed in the interrupt
identification; with `mxupcie` no flush after a change of speed does. -/
theorem flush_keeps_fifo_iff (HZ : Int) :
    (∀ as (s : Programmed Mxser.Port), FifoKept (fun p => p.uart.fcr) s →
      (Always (mxserFifoStep HZ) (FifoKept fun p => p.uart.fcr) s as ↔
        Guarded (mxserFifoStep HZ) FlushHarmless s as)) ∧
    (∀ as (s : Programmed Port), FifoKept (fun p => p.uart.fcr) s →
      (Always (mxupcieFifoStep HZ) (FifoKept fun p => p.uart.fcr) s as ↔
        Guarded (mxupcieFifoStep HZ) FlushHarmless s as)) ∧
    ∀ s t (p : Port), p.infoTty = true → p.base ≠ 0 →
      mxupcieFifoStep HZ s (.changeSpeed p) = .ok t →
      ∀ pending, ¬ FlushHarmless t (.flushBuffer pending) :=
  ⟨fun as _ hs => fifo_kept_iff (fun _ _ _ => mxserFifoStep_changeSpeed)
      (fun _ _ => ⟨_, rfl, rfl, rfl⟩) as hs,
    fun as _ hs => fifo_kept_iff (fun _ _ _ => mxupcieFifoStep_changeSpeed)
      (fun _ _ => ⟨_, rfl, rfl, rfl⟩) as hs,
    fun _ _ _ htty hbase h => mxupcie_flush_harmful htty hbase h⟩

/-- A 16550A with the trigger level 14, and no interrupt pending. -/
theorem flush_keeps_fifo_14 :
    Always (mxserFifoStep 100) (FifoKept fun p => p.uart.fcr)
      ⟨c104Port port16550A (c104Termios 0), 0⟩
      [.changeSpeed (c104Port port16550A (c104Termios 0)), .flushBuffer none, .flushBuffer none] ∧
    ∃ t, mxupcieFifoStep 100 ⟨cp102Port (cp102Termios 0), 0⟩
        (.changeSpeed (cp102Port (cp102Termios 0))) = .ok t ∧
      ¬ FlushHarmless t (.flushBuffer none) := by
  have hkept := ((flush_keeps_fifo_iff 100).1
    [.changeSpeed (c104Port port16550A (c104Termios 0)), .flushBuffer none, .flushBuffer none]
    ⟨c104Port port16550A (c104Termios 0), 0⟩ (by decide)).mpr (by decide)
  obtain ⟨t, ht⟩ : ∃ t, mxupcieFifoStep 100 ⟨cp102Port (cp102Termios 0), 0⟩
      (.changeSpeed (cp102Port (cp102Termios 0))) = .ok t := ⟨_, rfl⟩
  exact ⟨hkept, t, ht, (flush_keeps_fifo_iff 100).2.2 _ _ _ rfl (by decide) ht none⟩

/-- With a transmit interrupt pending, `0xC2` is what goes back: the FIFOs are
disabled. -/
theorem flush_disables_fifo :
    ∃ t, run (mxserFifoStep 100) ⟨c104Port port16550A (c104Termios 0), 0⟩
        [.changeSpeed (c104Port port16550A (c104Termios 0)),
          .flushBuffer (some ⟨0x02, by decide⟩)] = .ok t ∧
      t.programmed = 0xC1 ∧ t.port.uart.fcr = 0xC2 ∧
      ¬ FifoKept (fun p : Mxser.Port => p.uart.fcr) t :=
  ⟨_, rfl, by decide, by decide, by decide⟩

end MoxaDrivers.Mxupcie

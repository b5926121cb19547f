import MoxaDrivers.Mxser.Speed

/-!
# What a flush leaves of the FIFO configuration

Offset 2 of a UART is the FIFO control register when it is written and the
interrupt identification register when it is read. `mxser_flush_buffer` reads it,
writes what it read with the clear bits, and writes what it read: the interrupt
identification goes where the FIFO configuration was.
-/

namespace MoxaDrivers.Mxser

open MoxaDrivers.Bits MoxaDrivers.Machine

/-! ## The register at offset 2 -/

/-- The bits of `UART_FCR` that stay in effect: enable and trigger level. -/
def uartFcrConfig : Byte := uartFcrEnableFifo ||| uartFcrTrigger14

/-- The identification of a pending interrupt, between the bit that says that
there is none and the two that say that the FIFOs are enabled. -/
structure InterruptId where
  code : Byte
  inside : code &&& uartFcrConfig = 0
  deriving DecidableEq, Repr

/-- A read of offset 2, with `fcr` in effect and `pending` the interrupt. -/
def readIir (fcr : Byte) (pending : Option InterruptId) : Byte :=
  (if test fcr uartFcrEnableFifo then 0xC0 else 0) |||
    match pending with
    | none => uartIirNoInt
    | some i => i.code

/-- `fcr` configures the FIFOs as `programmed` does. -/
def FifoAs (programmed fcr : Byte) : Prop := fcr &&& uartFcrConfig = programmed &&& uartFcrConfig

instance (programmed fcr : Byte) : Decidable (FifoAs programmed fcr) :=
  inferInstanceAs (Decidable (_ = _))

/-- The interrupt identification happens to be the configuration. -/
def Harmless (programmed : Byte) (pending : Option InterruptId) : Prop :=
  (programmed &&& uartFcrConfig = uartFcrConfig ∧ pending = none) ∨
    (programmed &&& uartFcrConfig = 0 ∧ pending ≠ none)

instance (programmed : Byte) (pending : Option InterruptId) :
    Decidable (Harmless programmed pending) :=
  inferInstanceAs (Decidable (_ ∨ _))

/-- The configuration bits of a read. -/
theorem readIir_config (fcr : Byte) (pending : Option InterruptId) :
    readIir fcr pending &&& uartFcrConfig =
      (if test fcr uartFcrEnableFifo then 0xC0 else 0) |||
        if pending.isNone then uartIirNoInt else 0 := by
  have hkeep : ∀ hi lo : Byte, (hi ||| lo) &&& uartFcrConfig =
      (hi &&& uartFcrConfig) ||| (lo &&& uartFcrConfig) := by
    intro hi lo
    rw [BitVec.and_comm, BitVec.and_or_distrib_left, BitVec.and_comm, BitVec.and_comm lo]
  have hhigh : ∀ b : Bool, (if b then 0xC0 else 0 : Byte) &&& uartFcrConfig =
      if b then 0xC0 else 0 := by decide
  cases pending with
  | none =>
      show ((if test fcr uartFcrEnableFifo then 0xC0 else 0) ||| uartIirNoInt) &&& _ = _
      rw [hkeep, hhigh]
      rfl
  | some i =>
      show ((if test fcr uartFcrEnableFifo then 0xC0 else 0) ||| i.code) &&& _ = _
      rw [hkeep, hhigh, i.inside]
      rfl

/-- Enabled or not, the configuration says. -/
theorem FifoAs.enabled {programmed fcr : Byte} (h : FifoAs programmed fcr) :
    test fcr uartFcrEnableFifo = test (programmed &&& uartFcrConfig) uartFcrEnableFifo := by
  have hcover : uartFcrConfig &&& uartFcrEnableFifo = uartFcrEnableFifo := by decide
  rw [← test_and_of_cover hcover, h]

/-- **One flush** restores the configuration if the read happens to give it. -/
theorem flush_fifoAs_iff {programmed fcr : Byte} (h : FifoAs programmed fcr)
    (pending : Option InterruptId) :
    FifoAs programmed (readIir fcr pending) ↔ Harmless programmed pending := by
  rw [FifoAs, readIir_config, h.enabled, Harmless]
  generalize programmed &&& uartFcrConfig = config
  cases henabled : test config uartFcrEnableFifo with
  | true =>
      have hon : config ≠ 0 := by
        rintro rfl
        cases henabled
      cases pending with
      | none =>
          have hread : (0xC0 : Byte) ||| uartIirNoInt = uartFcrConfig := by decide
          simp only [if_true, Option.isNone_none, hread]
          constructor
          · exact fun heq => .inl ⟨heq.symm, trivial⟩
          · rintro (⟨hfull, -⟩ | ⟨hzero, -⟩)
            · exact hfull.symm
            · exact absurd hzero hon
      | some i =>
          -- the read says that the FIFOs are disabled
          simp only [if_true, Option.isNone_some, Bool.false_eq_true, if_false]
          constructor
          · rintro rfl
            cases henabled
          · rintro (⟨-, hnone⟩ | ⟨hzero, -⟩)
            · cases hnone
            · exact absurd hzero hon
  | false =>
      have hoff : config ≠ uartFcrConfig := by
        rintro rfl
        cases henabled
      cases pending with
      | none =>
          -- the read says that they are enabled
          simp only [Option.isNone_none, Bool.false_eq_true, if_true, if_false]
          constructor
          · rintro rfl
            cases henabled
          · rintro (⟨hfull, -⟩ | ⟨-, hsome⟩)
            · exact absurd hfull hoff
            · exact absurd rfl hsome
      | some i =>
          simp only [Option.isNone_some, Bool.false_eq_true, if_false]
          constructor
          · exact fun heq => .inr ⟨heq.symm, Option.some_ne_none i⟩
          · rintro (⟨hfull, -⟩ | ⟨hzero, -⟩)
            · exact absurd hfull hoff
            · exact hzero.symm

/-! ## Runs -/

/-- A port, and the FIFO control value that the last change of speed programmed. -/
structure Programmed (P : Type) where
  port : P
  programmed : Byte

inductive FifoOp (P : Type) where
  /-- A change of speed of the port as it has become, in any field but the FIFO
  configuration. -/
  | changeSpeed (port : P)
  | flushBuffer (pending : Option InterruptId)

/-- The FIFOs are configured as programmed. -/
def FifoKept {P : Type} (fcr : P → Byte) (s : Programmed P) : Prop :=
  FifoAs s.programmed (fcr s.port)

instance {P : Type} (fcr : P → Byte) (s : Programmed P) : Decidable (FifoKept fcr s) :=
  inferInstanceAs (Decidable (FifoAs _ _))

/-- A flush finds the configuration in the interrupt identification. -/
def FlushHarmless {P : Type} (s : Programmed P) : FifoOp P → Prop
  | .changeSpeed _ => True
  | .flushBuffer pending => Harmless s.programmed pending

instance {P : Type} (s : Programmed P) (a : FifoOp P) : Decidable (FlushHarmless s a) :=
  match a with
  | .changeSpeed _ => .isTrue trivial
  | .flushBuffer pending => inferInstanceAs (Decidable (Harmless s.programmed pending))

/-- A driver that programs the configuration in each change of speed, and flushes
by way of offset 2, keeps it along a run exactly if every flush finds it there. -/
theorem fifo_kept_iff {P ε : Type} {fcr : P → Byte}
    {step : Programmed P → FifoOp P → Except ε (Programmed P)}
    (hspeed : ∀ s p t, FifoKept fcr s → step s (.changeSpeed p) = .ok t → FifoKept fcr t)
    (hflush : ∀ s pending, ∃ t, step s (.flushBuffer pending) = .ok t ∧
      t.programmed = s.programmed ∧ fcr t.port = readIir (fcr s.port) pending)
    (as : List (FifoOp P)) {s : Programmed P} (hs : FifoKept fcr s) :
    Always step (FifoKept fcr) s as ↔ Guarded step FlushHarmless s as := by
  have hiff (s : Programmed P) (pending : Option InterruptId) (hs : FifoKept fcr s) :
      ∃ t, step s (.flushBuffer pending) = .ok t ∧
        (FifoKept fcr t ↔ Harmless s.programmed pending) := by
    obtain ⟨t, ht, hsame, hread⟩ := hflush s pending
    refine ⟨t, ht, ?_⟩
    rw [FifoKept, hsame, hread]
    exact flush_fifoAs_iff hs pending
  apply always_iff_guarded (J := FifoKept fcr) (fun _ hs => hs)
  · intro s a t hs hharmless ht
    cases a with
    | changeSpeed p => exact hspeed s p t hs ht
    | flushBuffer pending =>
        obtain ⟨u, hu, hkept⟩ := hiff s pending hs
        cases ht.symm.trans hu
        exact hkept.mpr hharmless
  · intro s a hs hharmful
    cases a with
    | changeSpeed p => exact absurd trivial hharmful
    | flushBuffer pending =>
        obtain ⟨t, ht, hkept⟩ := hiff s pending hs
        exact ⟨t, ht, fun h => hharmful (hkept.mp h)⟩
  · exact hs

/-! ## `mxser` -/

/-- What `mxser_change_speed` programs. -/
theorem mxserChangeSpeed_fcr {HZ : Int} {p q : Port} (htty : p.infoTty = true)
    (hbase : p.base ≠ 0) (h : mxserChangeSpeed HZ p = .ok q) : q.uart.fcr = fifoControl p := by
  obtain ⟨hno | hno, -⟩ | ⟨-, -, r, hr, rfl⟩ := mxserChangeSpeed_ok h
  · cases htty.symm.trans hno
  · exact absurd hno hbase
  · obtain ⟨rate, mcr, umcr, fcr, dll, dlm, must, rfl⟩ := changeSpeedBaud_frame hr
    rfl

/-- The FIFO configuration as another port left it. -/
def Port.withFcr (p : Port) (fcr : Byte) : Port := { p with uart := { p.uart with fcr := fcr } }

def mxserFifoStep (HZ : Int) (s : Programmed Port) :
    FifoOp Port → Except Fault (Programmed Port)
  | .changeSpeed p => do
      let q ← mxserChangeSpeed HZ (p.withFcr s.port.uart.fcr)
      return ⟨q, if p.infoTty = true ∧ p.base ≠ 0 then fifoControl p else s.programmed⟩
  | .flushBuffer pending =>
      .ok ⟨mxserFlushBuffer s.port (readIir s.port.uart.fcr pending), s.programmed⟩

theorem mxserFifoStep_changeSpeed {HZ : Int} {s t : Programmed Port} {p : Port}
    (hs : FifoKept (fun p : Port => p.uart.fcr) s)
    (h : mxserFifoStep HZ s (.changeSpeed p) = .ok t) :
    FifoKept (fun p : Port => p.uart.fcr) t := by
  obtain ⟨q, hq, h⟩ := bind_ok_iff.mp h
  cases h
  by_cases hlive : p.infoTty = true ∧ p.base ≠ 0
  · rw [if_pos hlive]
    have hfcr : q.uart.fcr = fifoControl (p.withFcr s.port.uart.fcr) :=
      mxserChangeSpeed_fcr hlive.1 hlive.2 hq
    show FifoAs (fifoControl p) q.uart.fcr
    rw [hfcr]
    exact rfl
  · rw [if_neg hlive]
    obtain ⟨-, rfl⟩ | ⟨htty, hbase, -⟩ := mxserChangeSpeed_ok hq
    · exact hs
    · exact absurd ⟨htty, hbase⟩ hlive

end MoxaDrivers.Mxser

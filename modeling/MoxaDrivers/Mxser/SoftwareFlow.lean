import MoxaDrivers.Lib.Machine
import MoxaDrivers.Mxser.Board
import MoxaDrivers.Mxser.Transmit

/-!
# Stopping and restarting the peer

`mxser_stoprx` and `mxser_startrx` put `STOP_CHAR` and `START_CHAR` in the one
slot `x_char`, which the transmit interrupt sends. `mxser_startrx` takes a
character that is still in the slot back and sends nothing in its place. That is
right for the first `STOP_CHAR`; if an earlier one has gone out already, the
peer stays stopped.
-/

namespace MoxaDrivers.Mxser

open MoxaDrivers.Bits MoxaDrivers.Machine

/-- A port, and whether the last of the two calls was `mxser_startrx`. -/
structure Flow where
  port : Port
  resumed : Bool

inductive FlowOp where
  | stoprx
  | startrx
  | transmitChars
  deriving DecidableEq, Repr

def flowStep (s : Flow) : FlowOp → Except Fault Flow
  | .stoprx => .ok ⟨mxserStoprx s.port, false⟩
  | .startrx => .ok ⟨mxserStartrx s.port, true⟩
  | .transmitChars => .ok ⟨mxserTransmitChars s.port, s.resumed⟩

/-- The last flow-control character that went out. -/
def lastFlow (p : Port) : Option Byte := p.uart.flowOut.getLast?

/-- Receiving again, with nothing in the slot, the peer is not left stopped. -/
def PeerFree (s : Flow) : Prop :=
  s.resumed = true → s.port.xChar = 0 → lastFlow s.port ≠ some s.port.tty.termios.stopChar

instance (s : Flow) : Decidable (PeerFree s) := inferInstanceAs (Decidable (_ → _ → _))

/-- A port whose receiver the driver holds with `x_char`. -/
structure FlowPort (p : Port) : Prop where
  plain : p.isMoxaMustChipFlag = 0
  ixoff : test p.tty.termios.cIflag Mxser.ixoff = true

/-- With the receiver started, a character in the slot is `START_CHAR`. -/
structure FlowInv (s : Flow) : Prop where
  port : FlowPort s.port
  slot : s.resumed = true → s.port.xChar ≠ 0 → s.port.xChar = s.port.tty.termios.startChar
  free : PeerFree s

/-- The receiver is not started so that nothing is sent after a `STOP_CHAR` that
has gone out: the slot is empty, and a `START_CHAR` that is not NUL gets in. A
pending `START_CHAR` that goes out is not the `STOP_CHAR`. -/
def FreesPeer (s : Flow) (op : FlowOp) : Prop :=
  match op with
  | .stoprx => True
  | .startrx => ¬ (lastFlow s.port = some s.port.tty.termios.stopChar ∧
      (s.port.xChar ≠ 0 ∨ test s.port.flags asyncClosing = true ∨
        s.port.tty.termios.startChar = 0))
  | .transmitChars => ¬ (s.resumed = true ∧ s.port.xChar ≠ 0 ∧
      s.port.tty.termios.startChar = s.port.tty.termios.stopChar)

/-! ## The two calls -/

/-- What the property sees of a port. -/
structure SameFlow (p q : Port) : Prop where
  xChar : q.xChar = p.xChar
  flowOut : q.uart.flowOut = p.uart.flowOut
  tty : q.tty = p.tty
  flags : q.flags = p.flags
  must : q.isMoxaMustChipFlag = p.isMoxaMustChipFlag

theorem SameFlow.trans {p q r : Port} (h : SameFlow p q) (h' : SameFlow q r) : SameFlow p r where
  xChar := h'.xChar.trans h.xChar
  flowOut := h'.flowOut.trans h.flowOut
  tty := h'.tty.trans h.tty
  flags := h'.flags.trans h.flags
  must := h'.must.trans h.must

theorem flowRts_same (p : Port) (mcr : Byte) : SameFlow p (flowRts p mcr) := by
  simp only [flowRts]
  split <;> exact ⟨rfl, rfl, rfl, rfl, rfl⟩

/-- A character gets into the slot unless the port is closing. -/
theorem queueXChar_same (p : Port) (c : Byte) :
    SameFlow { p with xChar := if test p.flags asyncClosing then p.xChar else c }
      (queueXChar p c) := by
  simp only [queueXChar]
  cases hclosing : test p.flags asyncClosing with
  | true => exact ⟨rfl, rfl, rfl, rfl, rfl⟩
  | false => exact ⟨rfl, rfl, rfl, rfl, rfl⟩

/-- `mxser_stoprx` fills the slot with `STOP_CHAR`, whatever is in it. -/
theorem mxserStoprx_same {p : Port} (h : FlowPort p) :
    SameFlow
      { p with xChar := if test p.flags asyncClosing then p.xChar else p.tty.termios.stopChar }
      (mxserStoprx p) := by
  have hflow : stoprxFlow { p with ldiscStopRx := true }
      = queueXChar { p with ldiscStopRx := true } p.tty.termios.stopChar := by
    rw [stoprxFlow, if_pos h.ixoff, if_neg (not_not.mpr h.plain)]
  simp only [mxserStoprx]
  rw [hflow]
  have hqueue := queueXChar_same { p with ldiscStopRx := true } p.tty.termios.stopChar
  exact SameFlow.trans ⟨hqueue.xChar, hqueue.flowOut, hqueue.tty, hqueue.flags, hqueue.must⟩
    (flowRts_same _ _)

/-- `mxser_startrx` empties a full slot, and puts `START_CHAR` in an empty one
unless the port is closing. -/
theorem mxserStartrx_same {p : Port} (h : FlowPort p) :
    SameFlow
      { p with xChar := if p.xChar ≠ 0 ∨ test p.flags asyncClosing = true then 0
        else p.tty.termios.startChar }
      (mxserStartrx p) := by
  have hrts : SameFlow (startrxFlow { p with ldiscStopRx := false }) (mxserStartrx p) :=
    flowRts_same _ _
  refine SameFlow.trans ?_ hrts
  by_cases hfull : p.xChar ≠ 0
  · have hflow : startrxFlow { p with ldiscStopRx := false }
        = { p with ldiscStopRx := false, xChar := 0 } := by
      rw [startrxFlow, if_pos h.ixoff, if_pos hfull]
    rw [hflow, if_pos (.inl hfull)]
    exact ⟨rfl, rfl, rfl, rfl, rfl⟩
  · have hflow : startrxFlow { p with ldiscStopRx := false }
        = queueXChar { p with ldiscStopRx := false } p.tty.termios.startChar := by
      rw [startrxFlow, if_pos h.ixoff, if_neg hfull, if_neg (not_not.mpr h.plain)]
    rw [hflow]
    have hqueue := queueXChar_same { p with ldiscStopRx := false } p.tty.termios.startChar
    have hempty : p.xChar = 0 := not_not.mp hfull
    refine ⟨hqueue.xChar.trans ?_, hqueue.flowOut, hqueue.tty, hqueue.flags, hqueue.must⟩
    cases hclosing : test p.flags asyncClosing <;> simp [hempty]

/-! ## The transmit interrupt -/

/-- With an empty slot the interrupt sends ring bytes only. -/
theorem mxserTransmitChars_same {p : Port} (h : p.xChar = 0) :
    SameFlow p (mxserTransmitChars p) := by
  unfold mxserTransmitChars
  rw [if_neg (not_not.mpr h)]
  split
  · exact ⟨rfl, rfl, rfl, rfl, rfl⟩
  · rename_i page hbuf
    split
    · simp only [wakeLow]
      split <;> exact ⟨rfl, rfl, rfl, rfl, rfl⟩
    · split
      · exact ⟨rfl, rfl, rfl, rfl, rfl⟩
      · obtain ⟨head, tail, cnt, out, -, hdata, heq⟩ :=
          sendLoop_frame page (max 1 p.fifo.xmitFifoSize).toNat p
        have hsent : SameFlow p (sendLoop page (max 1 p.fifo.xmitFifoSize).toNat p) := by
          rw [heq]
          exact ⟨rfl, Uart.flowOut_data hdata, rfl, rfl, rfl⟩
        refine hsent.trans ?_
        unfold wakeLow
        simp only
        split <;> exact ⟨rfl, rfl, rfl, rfl, rfl⟩

/-- A full slot is sent and emptied. -/
theorem mxserTransmitChars_slot {p : Port} (h : p.xChar ≠ 0) :
    mxserTransmitChars p = sendXChar p := if_pos h

theorem sendXChar_last (p : Port) : lastFlow (sendXChar p) = some p.xChar := by
  simp [lastFlow, sendXChar, countSent, Uart.flowOut]

/-! ## One step -/

theorem FlowPort.congr {p q : Port} (h : FlowPort p) (hpq : q.tty = p.tty)
    (hmust : q.isMoxaMustChipFlag = p.isMoxaMustChipFlag) : FlowPort q :=
  ⟨hmust.trans h.plain, by rw [hpq]; exact h.ixoff⟩

theorem flowInv_stoprx {s : Flow} (h : FlowInv s) : FlowInv ⟨mxserStoprx s.port, false⟩ := by
  have hsame := mxserStoprx_same h.port
  exact ⟨h.port.congr hsame.tty hsame.must, nofun, nofun⟩

/-- Starting the receiver leaves the peer free exactly under the condition. -/
theorem peerFree_startrx_iff {s : Flow} (h : FlowPort s.port) :
    PeerFree ⟨mxserStartrx s.port, true⟩ ↔ FreesPeer s .startrx := by
  have hsame := mxserStartrx_same h
  have hlast : lastFlow (mxserStartrx s.port) = lastFlow s.port := by
    rw [lastFlow, hsame.flowOut]
    rfl
  simp only [PeerFree, FreesPeer]
  simp only [hlast, hsame.xChar, hsame.tty]
  -- a full slot is emptied, a closing port queues nothing
  by_cases hslot : s.port.xChar ≠ 0 ∨ test s.port.flags asyncClosing = true
  · rw [if_pos hslot]
    constructor
    · rintro hfree ⟨hstop, -⟩
      exact hfree trivial rfl hstop
    · intro hfree _ _ hstop
      refine hfree ⟨hstop, ?_⟩
      rcases hslot with hfull | hclosing
      · exact .inl hfull
      · exact .inr (.inl hclosing)
  · rw [if_neg hslot]
    obtain ⟨hempty, hopen⟩ := not_or.mp hslot
    constructor
    · rintro hfree ⟨hstop, hfull | hclosing | hnul⟩
      · exact hempty hfull
      · exact hopen hclosing
      · exact hfree trivial hnul hstop
    · intro hfree _ hnul hstop
      exact hfree ⟨hstop, .inr (.inr hnul)⟩

theorem flowInv_startrx {s : Flow} (h : FlowInv s) (hop : FreesPeer s .startrx) :
    FlowInv ⟨mxserStartrx s.port, true⟩ := by
  have hsame := mxserStartrx_same h.port
  refine ⟨h.port.congr hsame.tty hsame.must, ?_, (peerFree_startrx_iff h.port).mpr hop⟩
  intro _ hne
  have hslot := hsame.xChar
  rw [hsame.tty]
  by_cases hfull : s.port.xChar ≠ 0 ∨ test s.port.flags asyncClosing = true
  · exact absurd (hslot.trans (if_pos hfull)) hne
  · exact hslot.trans (if_neg hfull)

theorem flowInv_transmitChars {s : Flow} (h : FlowInv s) (hop : FreesPeer s .transmitChars) :
    FlowInv ⟨mxserTransmitChars s.port, s.resumed⟩ := by
  by_cases hslot : s.port.xChar = 0
  · have hsame := mxserTransmitChars_same hslot
    refine ⟨h.port.congr hsame.tty hsame.must, ?_, ?_⟩
    · intro _ hne
      exact absurd (hsame.xChar.trans hslot) hne
    · intro hres _
      rw [lastFlow, hsame.flowOut, hsame.tty]
      exact h.free hres hslot
  · rw [mxserTransmitChars_slot hslot]
    refine ⟨⟨h.port.plain, h.port.ixoff⟩, fun _ hne => absurd rfl hne, ?_⟩
    intro hres _ hstop
    -- what went out is `START_CHAR`
    have hlast : some s.port.xChar = some s.port.tty.termios.stopChar :=
      (sendXChar_last s.port).symm.trans hstop
    have hstart := h.slot hres hslot
    exact hop ⟨hres, hslot, hstart.symm.trans (Option.some.inj hlast)⟩

theorem flowInv_step {s t : Flow} {op : FlowOp} (h : FlowInv s) (hop : FreesPeer s op)
    (hstep : flowStep s op = .ok t) : FlowInv t := by
  cases op with
  | stoprx =>
      cases hstep
      exact flowInv_stoprx h
  | startrx =>
      cases hstep
      exact flowInv_startrx h hop
  | transmitChars =>
      cases hstep
      exact flowInv_transmitChars h hop

theorem flow_bad_step {s : Flow} {op : FlowOp} (h : FlowInv s) (hop : ¬ FreesPeer s op) :
    ∃ t, flowStep s op = .ok t ∧ ¬ PeerFree t := by
  cases op with
  | stoprx => exact absurd trivial hop
  | startrx =>
      exact ⟨_, rfl, fun hfree => hop ((peerFree_startrx_iff h.port).mp hfree)⟩
  | transmitChars =>
      obtain ⟨hres, hslot, hsame⟩ := not_not.mp hop
      refine ⟨_, rfl, fun hfree => ?_⟩
      rw [mxserTransmitChars_slot hslot] at hfree
      refine hfree hres rfl ?_
      rw [sendXChar_last, h.slot hres hslot, hsame]
      rfl

/-! ## Whole runs -/

/-- **The peer is never left stopped in exactly these runs.** From any port
whose receiver is held with `x_char`, no `STOP_CHAR` is the last word with the
receiver started and the slot empty, if and only if: the receiver is never
started after a `STOP_CHAR` that went out with the slot full, the port closing
or a NUL for `START_CHAR`; and no pending `START_CHAR` that is the `STOP_CHAR`
goes out with the receiver started. -/
theorem peer_never_left_stopped_iff {p : Port} (hp : FlowPort p) (ops : List FlowOp) :
    Always flowStep PeerFree ⟨p, false⟩ ops ↔ Guarded flowStep FreesPeer ⟨p, false⟩ ops := by
  apply always_iff_guarded (J := FlowInv)
  · exact fun s hs => hs.free
  · exact fun s op t hs hop ht => flowInv_step hs hop ht
  · exact fun s op hs hop => flow_bad_step hs hop
  · exact ⟨hp, nofun, nofun⟩

/-- A `STOP_CHAR` that goes out is answered by a `START_CHAR`. -/
theorem peer_never_left_stopped_iff_run :
    Always flowStep PeerFree ⟨c104Started port16450 ⟨0, ixoff, 0x11, 0x13⟩, false⟩
        [.stoprx, .transmitChars, .startrx, .transmitChars] ↔
      Guarded flowStep FreesPeer ⟨c104Started port16450 ⟨0, ixoff, 0x11, 0x13⟩, false⟩
        [.stoprx, .transmitChars, .startrx, .transmitChars] :=
  peer_never_left_stopped_iff ⟨rfl, by decide⟩ _

/-- Two calls of `mxser_stoprx` with the first `STOP_CHAR` sent in between:
`mxser_startrx` takes the second back, and no `START_CHAR` follows the first. -/
theorem startrx_leaves_peer_stopped :
    ∃ t, FlowPort (c104Started port16450 ⟨0, ixoff, 0x11, 0x13⟩) ∧
      run flowStep ⟨c104Started port16450 ⟨0, ixoff, 0x11, 0x13⟩, false⟩
        [.stoprx, .transmitChars, .stoprx, .startrx, .transmitChars] = .ok t ∧
      t.resumed = true ∧ t.port.xChar = 0 ∧ lastFlow t.port = some 0x13 ∧ ¬ PeerFree t := by
  refine ⟨_, ⟨rfl, by decide⟩, rfl, rfl, ?_, ?_, ?_⟩
  all_goals decide

end MoxaDrivers.Mxser

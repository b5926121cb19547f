import MoxaDrivers.Lib.Machine
import MoxaDrivers.Mxser.InterruptDispatch
import MoxaDrivers.Mxupcie.Board
import MoxaDrivers.Mxupcie.Receive
import MoxaDrivers.Mxupcie.Speed
import MoxaDrivers.Mxupcie.TransmitFifo

/-!
# The interrupt handler of a board, and its ports over a run

`mx_interrupt` goes through the ports of a board until each has said that there is no
interrupt. `isrTurn` is the body of its inner loop; the loops around it are the same for
a port alone and for a `Duplex`, which is a port with its chip: what arrived, what the
chip holds, what was accepted for sending and what has been sent.
-/

namespace MoxaDrivers.Mxupcie

open MoxaDrivers.Bits MoxaDrivers.Machine MoxaDrivers.Intake MoxaDrivers.Mxser
open MoxaDrivers.Mxser.Dispatch (noteErrors)
open MoxaDrivers.Mxupcie.Board (BoardType mxupcieBoards mxupciePortsPerBoard mxupcieNumports)

def moxaIirNoInt : Byte := 0xC1
def moxaIirRlsi : Byte := 0xC6
def moxaIirRdi : Byte := 0x04
def moxaIirThri : Byte := 0x02

def mxupcieIsrPassLimit : Nat := 99999

/-! ## A turn at a port -/

/-- What a turn reads, `UART_MSR` excepted, which is in the port. -/
structure TurnReads where
  iir : Byte
  lsr : Byte
  recv : RecvReads
  tcnt : Byte

/-- Why the inner loop is left after a turn, or that it goes on. -/
inductive TurnEnd where
  | noInt
  | noTty
  | again
  deriving DecidableEq, Repr

/-- `MOXA_IIR_RLSI`: the errors are noted for the notification of the user. -/
def errorTurn (r : TurnReads) (p : RecvPort) : RecvPort :=
  if r.iir = moxaIirRlsi then
    { p with recv := { p.recv with errShadow := noteErrors r.lsr p.recv.errShadow } }
  else p

/-- `MOXA_IIR_RDI`: `status` after it, and the port. -/
def receiveTurn (r : TurnReads) (p : RecvPort) : Byte × RecvPort :=
  if test r.iir moxaIirRdi then
    let status := r.lsr &&& p.port.readStatusMask
    if test status uartLsrDr then mxReceiveChars p status r.recv else (status, p)
  else (r.lsr, p)

def modemTurn (p : Port) : Port :=
  let (msr, p) := p.readMsr
  if test msr uartMsrAnyDelta then mxCheckModemStatus p msr else p

/-- `MOXA_IIR_THRI`. -/
def transmitTurn (r : TurnReads) (status : Byte) (p : Port) : Except Fault Port :=
  if test r.iir moxaIirThri && test status uartLsrThre then mxTransmitChars p r.tcnt else .ok p

/-- A turn of the inner loop. Without a tty the FIFOs are cleared, and the line and the
modem status are read for nothing. -/
def isrTurn (r : TurnReads) (p : RecvPort) : Except Fault (TurnEnd × RecvPort) :=
  if r.iir = moxaIirNoInt then .ok (.noInt, p)
  else if !p.port.infoTty then .ok (.noTty, { p with port := interruptMsr p.port })
  else do
    let (status, p) := receiveTurn r (errorTurn r p)
    let q ← transmitTurn r status (modemTurn p.port)
    return (.again, { p with port := q })

/-! ## The loops -/

section Loops

variable {ρ σ : Type} (turn : ρ → σ → Except Fault (TurnEnd × σ))

/-- What the inner loop comes to: whether it adds to `vect_flag` and whether it sets
`handled`. -/
structure Served (σ : Type) where
  noInt : Bool
  handled : Bool
  port : σ

/-- The inner loop with the turns it may still take. -/
def servePort : Nat → (Nat → ρ) → σ → Except Fault (Served σ)
  | 0, _, s => .ok ⟨false, false, s⟩
  | turns + 1, reads, s => do
      let (left, s) ← turn (reads 0) s
      match left with
      | .noInt => .ok ⟨true, false, s⟩
      | .noTty => .ok ⟨false, false, s⟩
      | .again =>
          let rest ← servePort turns (fun k => reads (k + 1)) s
          .ok { rest with handled := true }

/-- What a pass comes to. -/
structure PassEnd (σ : Type) where
  vectFlag : Nat
  handled : Bool
  ports : Nat → σ

/-- A pass over the ports; `int_cnt++ < MXUPCIE_ISR_PASS_LIMIT` is tested after the
turn. -/
def portLoop (reads : Nat → Nat → ρ) : List Nat → (Nat → σ) → Except Fault (PassEnd σ)
  | [], ports => .ok ⟨0, false, ports⟩
  | i :: is, ports => do
      let served ← servePort turn (mxupcieIsrPassLimit + 1) (reads i) (ports i)
      let rest ← portLoop reads is (Function.update ports i served.port)
      .ok { rest with
        vectFlag := rest.vectFlag + (if served.noInt then 1 else 0)
        handled := served.handled || rest.handled }

/-- The passes, of which it may still make so many: `handled`, and the ports. -/
def passLoop (is : List Nat) : Nat → (Nat → Nat → Nat → ρ) → (Nat → σ) →
    Except Fault (Bool × (Nat → σ))
  | 0, _, ports => .ok (false, ports)
  | passes + 1, reads, ports => do
      let pass ← portLoop turn (reads 0) is ports
      if pass.vectFlag = is.length then .ok (pass.handled, pass.ports)
      else
        let rest ← passLoop is passes (fun k => reads (k + 1)) pass.ports
        .ok (pass.handled || rest.1, rest.2)

/-- The slot whose first port `dev_id` is. -/
def findBoard (dev : Nat) : Option Nat :=
  (List.range mxupcieBoards).find? fun i => dev == i * mxupciePortsPerBoard

/-- `mx_interrupt`: whether it returns `IRQ_HANDLED`, and `mxvar_table` after it. -/
def mxInterrupt (boardType : Nat → BoardType) (dev : Nat) (reads : Nat → Nat → Nat → ρ)
    (ports : Nat → σ) : Except Fault (Bool × (Nat → σ)) :=
  match findBoard dev with
  | none => .ok (false, ports)
  | some i =>
      passLoop turn ((List.range (mxupcieNumports (boardType i))).map (dev + ·))
        (mxupcieIsrPassLimit + 1) reads ports

/-! ### What every turn keeps, the handler keeps -/

variable {turn}

theorem servePort_keeps {P : σ → Prop}
    (hturn : ∀ r s left t, P s → turn r s = .ok (left, t) → P t) (turns : Nat) (reads : Nat → ρ)
    {s : σ} (hs : P s) {served : Served σ} (h : servePort turn turns reads s = .ok served) :
    P served.port := by
  induction turns generalizing reads s served with
  | zero =>
      cases h
      exact hs
  | succ turns ih =>
      obtain ⟨⟨left, t⟩, ht, h⟩ := bind_ok_iff.mp h
      have hkept := hturn _ _ _ _ hs ht
      cases left with
      | noInt =>
          cases h
          exact hkept
      | noTty =>
          cases h
          exact hkept
      | again =>
          obtain ⟨rest, hrest, h⟩ := bind_ok_iff.mp h
          have hend := ih _ hkept hrest
          cases h
          exact hend

variable {P : Nat → σ → Prop}

theorem update_keeps {ports : Nat → σ} (hs : ∀ i, P i (ports i)) {i : Nat} {s : σ} (h : P i s) :
    ∀ j, P j (Function.update ports i s j) := by
  intro j
  by_cases hj : j = i
  · subst hj
    rw [Function.update_self]
    exact h
  · rw [Function.update_of_ne hj]
    exact hs j

theorem portLoop_keeps (hturn : ∀ i r s left t, P i s → turn r s = .ok (left, t) → P i t)
    (reads : Nat → Nat → ρ) (is : List Nat) {ports : Nat → σ} (hs : ∀ i, P i (ports i))
    {pass : PassEnd σ} (h : portLoop turn reads is ports = .ok pass) : ∀ i, P i (pass.ports i) := by
  induction is generalizing ports pass with
  | nil =>
      cases h
      exact hs
  | cons i is ih =>
      obtain ⟨served, hserved, h⟩ := bind_ok_iff.mp h
      obtain ⟨rest, hrest, h⟩ := bind_ok_iff.mp h
      have hport : P i served.port := servePort_keeps (hturn i) _ _ (hs i) hserved
      have hend := ih (update_keeps hs hport) hrest
      cases h
      exact hend

theorem passLoop_keeps (hturn : ∀ i r s left t, P i s → turn r s = .ok (left, t) → P i t)
    (is : List Nat) (passes : Nat) (reads : Nat → Nat → Nat → ρ) {ports : Nat → σ}
    (hs : ∀ i, P i (ports i)) {handled : Bool} {ports' : Nat → σ}
    (h : passLoop turn is passes reads ports = .ok (handled, ports')) : ∀ i, P i (ports' i) := by
  induction passes generalizing reads ports handled ports' with
  | zero =>
      cases h
      exact hs
  | succ passes ih =>
      obtain ⟨pass, hpass, h⟩ := bind_ok_iff.mp h
      have hkept := portLoop_keeps hturn _ _ hs hpass
      split at h
      · cases h
        exact hkept
      · obtain ⟨rest, hrest, h⟩ := bind_ok_iff.mp h
        cases h
        exact ih _ hkept hrest

theorem mxInterrupt_keeps (hturn : ∀ i r s left t, P i s → turn r s = .ok (left, t) → P i t)
    {boardType : Nat → BoardType} {dev : Nat} {reads : Nat → Nat → Nat → ρ} {ports : Nat → σ}
    (hs : ∀ i, P i (ports i)) {handled : Bool} {ports' : Nat → σ}
    (h : mxInterrupt turn boardType dev reads ports = .ok (handled, ports')) :
    ∀ i, P i (ports' i) := by
  unfold mxInterrupt at h
  split at h
  · cases h
    exact hs
  · exact passLoop_keeps hturn _ _ _ hs h

end Loops

/-! ## What a turn does -/

/-- What a turn reads from the FIFO of an open port. -/
def turnReadings (r : TurnReads) (p : RecvPort) : List RecvReading :=
  if test r.iir moxaIirRdi && test (r.lsr &&& p.port.readStatusMask) uartLsrDr then
    recvReadings (r.lsr &&& p.port.readStatusMask) r.recv
  else []

theorem receiveTurn_call (r : TurnReads) (p : RecvPort) :
    RecvCall p (receiveTurn r p).2 (turnReadings r p) ∧ (receiveTurn r p).2.port = p.port := by
  unfold receiveTurn turnReadings
  cases hrdi : test r.iir moxaIirRdi with
  | false => exact ⟨.refl p, rfl⟩
  | true =>
      simp only [if_true, Bool.true_and]
      split
      · exact ⟨mxReceiveChars_call _ _ _, mxReceiveChars_port _ _ _⟩
      · exact ⟨.refl p, rfl⟩

theorem errorTurn_call (r : TurnReads) (p : RecvPort) {q : RecvPort} {rs : List RecvReading}
    (h : RecvCall (errorTurn r p) q rs) : RecvCall p q rs := by
  unfold errorTurn at h
  split at h
  · exact ⟨h.flip, h.icount, h.log, h.mon, h.up⟩
  · exact h

theorem errorTurn_port (r : TurnReads) (p : RecvPort) : (errorTurn r p).port = p.port := by
  unfold errorTurn
  split <;> rfl

/-- The two ports have the same ring, and the same has gone to the transmit memory. -/
structure SameXmit (p q : Port) : Prop where
  ring : q.ring = p.ring
  memthr : q.uart.memthr = p.uart.memthr

theorem SameXmit.refl (p : Port) : SameXmit p p := ⟨rfl, rfl⟩

theorem SameXmit.trans {p q r : Port} (h : SameXmit p q) (h' : SameXmit q r) : SameXmit p r :=
  ⟨h'.ring.trans h.ring, h'.memthr.trans h.memthr⟩

theorem modemTurn_same (p : Port) : SameXmit p (modemTurn p) := by
  unfold modemTurn
  simp only []
  split
  · obtain ⟨icount, mon, event, hw, hframe⟩ := mxCheckModemStatus_frame p.readMsr.2 p.readMsr.1
    rw [hframe]
    exact ⟨rfl, rfl⟩
  · exact ⟨rfl, rfl⟩

theorem interruptMsr_same {p : Port} (h : p.infoTty = false) : SameXmit p (interruptMsr p) := by
  unfold interruptMsr
  rw [h]
  exact ⟨rfl, rfl⟩

/-- Everything a turn can do. -/
inductive TurnCases (r : TurnReads) (p : RecvPort) : TurnEnd → RecvPort → Prop where
  | noInt : TurnCases r p .noInt p
  | noTty (h : p.port.infoTty = false) :
      TurnCases r p .noTty { p with port := interruptMsr p.port }
  | again {q : RecvPort} (m : Port) (call : RecvCall p q (turnReadings r p))
      (same : SameXmit p.port m) (sent : q.port = m ∨ mxTransmitChars m r.tcnt = .ok q.port) :
      TurnCases r p .again q

theorem isrTurn_cases {r : TurnReads} {p q : RecvPort} {left : TurnEnd}
    (h : isrTurn r p = .ok (left, q)) : TurnCases r p left q := by
  unfold isrTurn at h
  split at h
  · cases h
    exact .noInt
  · split at h
    · next htty =>
        cases h
        exact .noTty (by simpa using htty)
    · obtain ⟨port, hport, h⟩ := bind_ok_iff.mp h
      cases h
      obtain ⟨hcall, hsame⟩ := receiveTurn_call r (errorTurn r p)
      have hreadings : turnReadings r (errorTurn r p) = turnReadings r p := by
        unfold turnReadings
        rw [errorTurn_port]
      have hfull : RecvCall p (receiveTurn r (errorTurn r p)).2 (turnReadings r p) := by
        rw [← hreadings]
        exact errorTurn_call r p hcall
      have hmodem : SameXmit p.port (modemTurn (receiveTurn r (errorTurn r p)).2.port) := by
        rw [hsame, errorTurn_port]
        exact modemTurn_same p.port
      refine .again _ ⟨hfull.flip, hfull.icount, hfull.log, hfull.mon, hfull.up⟩ hmodem ?_
      unfold transmitTurn at hport
      split at hport
      · exact .inr hport
      · exact .inl (Except.ok.inj hport).symm

/-! ## A port with its chip -/

/-- A port, what came of the bytes that arrived at it, and its transmit queue. -/
structure Duplex where
  line : RecvPort
  reader : Reader Byte RecvReading (Byte × TtyFlag)
  ledger : Ring.Ledger Byte

/-- What happens to the chip in a turn: bytes arrive before it, and it shows what it
likes but for the bytes it holds. -/
structure TurnEnv where
  arrived : List Byte
  iir : Byte
  lsr : Byte
  rcnt : Byte
  /-- `UART_LSR` after each byte of the loop. -/
  later : Nat → Byte
  room : Nat
  tcnt : Tcnt

/-- `UART_LSR` does not promise data where `left` is none. -/
def shownLsr (lsr : Byte) (left : Nat) : Byte := if left = 0 then lsr &&& ~~~uartLsrDr else lsr

/-- What the turn reads of a chip that holds `rest`. -/
def TurnEnv.reads (e : TurnEnv) (rest : List Byte) : TurnReads where
  iir := e.iir
  lsr := shownLsr e.lsr rest.length
  recv := {
    rcnt := BitVec.ofNat 8 (min e.rcnt.toNat rest.length)
    memrbr k := rest.getD k 0
    rx k := rest.getD k 0
    lsr k := shownLsr (e.later k) (rest.length - (k + 1))
    room := e.room }
  tcnt := e.tcnt.val

theorem shownLsr_true {lsr : Byte} {left : Nat} (h : test (shownLsr lsr left) uartLsrDr = true) :
    0 < left := by
  by_contra hzero
  rw [shownLsr, if_pos (by omega), test_clear_self] at h
  cases h

theorem TurnEnv.reads_truthful (e : TurnEnv) (rest : List Byte) :
    (e.reads rest).recv.Truthful rest where
  rx_eq k h := List.getD_eq_getElem _ _ h
  memrbr_eq k h := List.getD_eq_getElem _ _ h
  lsr_true k h := by
    have hleft := shownLsr_true h
    omega
  rcnt_le := by
    show (BitVec.ofNat 8 (min e.rcnt.toNat rest.length)).toNat ≤ rest.length
    have hlt := e.rcnt.isLt
    rw [BitVec.toNat_ofNat, Nat.mod_eq_of_lt (by omega)]
    exact Nat.min_le_right _ _

/-- What the turn reads is what the chip holds. -/
theorem turnReadings_bytes (e : TurnEnv) (rest : List Byte) (p : RecvPort) :
    (turnReadings (e.reads rest) p).map RecvReading.byte =
      rest.take (turnReadings (e.reads rest) p).length := by
  unfold turnReadings
  split
  · next hdr =>
      rw [Bool.and_eq_true] at hdr
      have hready : 0 < rest.length :=
        shownLsr_true (test_of_and hdr.2)
      exact recvReadings_bytes (e.reads_truthful rest) hready _
  · rfl

def Duplex.turn (e : TurnEnv) (d : Duplex) : Except Fault (TurnEnd × Duplex) := do
  let reader := e.arrived.foldl Reader.arrive d.reader
  let r := e.reads reader.rest
  let (left, line) ← isrTurn r d.line
  return (left, {
    line
    reader := match left with
      | .noInt => reader
      | .noTty => reader.drop
      | .again => reader.read (turnReadings r d.line) line.recv.flip
    ledger := d.ledger.send (line.port.uart.dataOut.length - d.line.port.uart.dataOut.length) })

/-! ## The calls on a port -/

/-- The calls that move no byte. -/
inductive PortOp where
  | throttle
  | unthrottle
  | stop
  | start
  | flushChars
  /-- `info->tty` is set by an open, and cleared by the last close. -/
  | attach (tty : Bool)
  /-- The input lines change. -/
  | setLines (new : Byte)
  | setTermios (t : Termios)

def PortOp.apply (HZ : Int) (op : PortOp) (p : Port) : Except Fault Port :=
  match op with
  | .throttle => .ok (mxStoprx p)
  | .unthrottle => .ok (mxStartrx p)
  | .stop => .ok (mxupcieStop p)
  | .start => .ok (mxupcieStart p)
  | .flushChars => .ok (mxupcieFlushChars p)
  | .attach tty => .ok { p with infoTty := tty }
  | .setLines new => .ok { p with uart := p.uart.setLines new }
  | .setTermios t =>
      mxupcieSetTermios HZ { p with tty := { p.tty with termios := t } } p.tty.termios

/-- The FIFOs are reset by a change of their enable bit. -/
def enableChanged (p q : Port) : Bool :=
  test p.uart.fcr uartFcrEnableFifo != test q.uart.fcr uartFcrEnableFifo

/-- `UART_FCR_CLEAR_RCVR` is written: by each flush of the *output*, and where a port is
started up or shut down. -/
def TxOp.clearsRcvr (op : TxOp) (p : Port) : Bool :=
  match op with
  | .flushBuffer _ => true
  | .startup page _ _ => page.isSome && !p.initialized && p.base != 0 && p.type != 0
  | .shutdown => p.initialized
  | _ => false

def dropIf (b : Bool) (reader : Reader Byte RecvReading (Byte × TtyFlag)) :
    Reader Byte RecvReading (Byte × TtyFlag) := if b then reader.drop else reader

/-- The ports of all boards. -/
abbrev Ports := Nat → Duplex

inductive PortsOp where
  | arrive (i : Nat) (b : Byte)
  | portOp (i : Nat) (op : PortOp)
  | txOp (i : Nat) (op : TxOp)
  | interrupt (dev : Nat) (env : Nat → Nat → Nat → TurnEnv)

def portsStep (HZ : Int) (boardType : Nat → BoardType) (s : Ports) : PortsOp → Except Fault Ports
  | .arrive i b => .ok (Function.update s i { s i with reader := (s i).reader.arrive b })
  | .portOp i op => do
      let q ← op.apply HZ (s i).line.port
      return Function.update s i { s i with
        line := { (s i).line with port := q }
        reader := dropIf (enableChanged (s i).line.port q) (s i).reader }
  | .txOp i op => do
      let t ← txStep ⟨(s i).line.port, (s i).ledger⟩ op
      return Function.update s i {
        line := { (s i).line with port := t.port }
        reader := dropIf (op.clearsRcvr (s i).line.port) (s i).reader
        ledger := t.ledger }
  | .interrupt dev env => do
      let (_, ports) ← mxInterrupt Duplex.turn boardType dev env s
      return ports

/-! ## What a step keeps -/

/-- What the tty was given and counted, and that it is what the readings become. -/
structure DuplexInv (old : List Block) (d : Duplex) : Prop where
  accounted : Accounted RecvReading.byte RecvReading.handed d.reader
  flip : d.reader.out = d.line.recv.flip
  icount : d.line.recv.icount = countFlags ⟨0, 0, 0, 0, 0⟩ d.line.recv.flip
  log : d.line.recv.logRxcnt = BitVec.ofNat 64 d.line.recv.flip.length
  mon : d.line.recv.monRxcnt = BitVec.ofNat 64 d.line.recv.flip.length
  up : d.line.recv.monUpRxcnt = BitVec.ofNat 64 d.line.recv.flip.length
  xmit : FifoInv old ⟨d.line.port, d.ledger⟩

section Steps

variable {old : List Block} {d : Duplex}

theorem fifoInv_same {p q : Port} {L : Ring.Ledger Byte} (h : FifoInv old ⟨p, L⟩)
    (same : SameXmit p q) : FifoInv old ⟨q, L⟩ :=
  h.keep (by rw [same.ring]; exact h.ring) (by rw [same.ring]; exact h.queued) rfl same.memthr

/-- A turn that sends nothing. -/
theorem fifoInv_unsent {p q : Port} {L : Ring.Ledger Byte} (h : FifoInv old ⟨p, L⟩)
    (same : SameXmit p q) :
    FifoInv old ⟨q, L.send (q.uart.dataOut.length - p.uart.dataOut.length)⟩ := by
  have hout := Uart.dataOut_congr same.memthr
  rw [hout, Nat.sub_self]
  exact h.keep (by rw [same.ring]; exact h.ring)
    (by rw [same.ring, Ring.Ledger.queued_send, List.drop_zero]; exact h.queued)
    (by rw [Ring.Ledger.output_send, List.take_zero, List.append_nil]) same.memthr

/-- The chip's part of a step: bytes that arrive, or are lost with the FIFO. -/
theorem DuplexInv.withReader (h : DuplexInv old d)
    {reader : Reader Byte RecvReading (Byte × TtyFlag)}
    (haccounted : Accounted RecvReading.byte RecvReading.handed reader)
    (hout : reader.out = d.reader.out) : DuplexInv old { d with reader := reader } :=
  { h with
    accounted := haccounted
    flip := hout.trans h.flip }

theorem DuplexInv.arrive (h : DuplexInv old d) (b : Byte) :
    DuplexInv old { d with reader := d.reader.arrive b } :=
  h.withReader (h.accounted.arrive b) rfl

theorem DuplexInv.arrives (h : DuplexInv old d) (bytes : List Byte) :
    DuplexInv old { d with reader := bytes.foldl Reader.arrive d.reader } := by
  induction bytes generalizing d with
  | nil => exact h
  | cons b bytes ih => exact ih (h.arrive b)

theorem DuplexInv.dropIf (h : DuplexInv old d) (b : Bool) :
    DuplexInv old { d with reader := dropIf b d.reader } := by
  cases b with
  | true => exact h.withReader h.accounted.drop rfl
  | false => exact h

/-- A call on the port that passes nothing to the tty. -/
theorem DuplexInv.withPort (h : DuplexInv old d) {q : Port} {L : Ring.Ledger Byte}
    (hxmit : FifoInv old ⟨q, L⟩) :
    DuplexInv old { d with line := { d.line with port := q }, ledger := L } :=
  { h with xmit := hxmit }

/-- `rs` is read of the chip and handed on. -/
theorem DuplexInv.read (h : DuplexInv old d) {q : RecvPort} {rs : List RecvReading}
    {L : Ring.Ledger Byte} (hbytes : rs.map RecvReading.byte = d.reader.rest.take rs.length)
    (hcall : RecvCall d.line q rs) (hxmit : FifoInv old ⟨q.port, L⟩) :
    DuplexInv old ⟨q, d.reader.read rs q.recv.flip, L⟩ where
  accounted := h.accounted.read hbytes (by rw [h.flip, hcall.flip])
  flip := rfl
  icount := by
    show q.recv.icount = countFlags ⟨0, 0, 0, 0, 0⟩ q.recv.flip
    rw [hcall.icount, hcall.flip, h.icount, countFlags_append]
  log := by
    show q.recv.logRxcnt = BitVec.ofNat 64 q.recv.flip.length
    rw [hcall.log, hcall.flip, h.log, List.length_append, flatMap_handed_length,
      BitVec.ofNat_add]
  mon := by
    show q.recv.monRxcnt = BitVec.ofNat 64 q.recv.flip.length
    rw [hcall.mon, hcall.flip, h.mon, List.length_append, flatMap_handed_length,
      BitVec.ofNat_add]
  up := by
    show q.recv.monUpRxcnt = BitVec.ofNat 64 q.recv.flip.length
    rw [hcall.up, hcall.flip, h.up, List.length_append, flatMap_handed_length,
      BitVec.ofNat_add]
  xmit := hxmit

theorem DuplexInv.turn (h : DuplexInv old d) (e : TurnEnv) {left : TurnEnd} {t : Duplex}
    (ht : Duplex.turn e d = .ok (left, t)) : DuplexInv old t := by
  obtain ⟨⟨left', q⟩, hq, ht⟩ := bind_ok_iff.mp ht
  cases ht
  have harrived := h.arrives e.arrived
  have hcases := isrTurn_cases hq
  cases hcases with
  | noInt => exact harrived.withPort (fifoInv_unsent h.xmit (.refl _))
  | noTty htty =>
      exact ((harrived.dropIf true).withPort
        (fifoInv_unsent h.xmit (interruptMsr_same htty)))
  | again m call same sent =>
      refine harrived.read (turnReadings_bytes e _ d.line) call ?_
      rcases sent with hm | hm
      · rw [hm]
        exact fifoInv_unsent h.xmit same
      · have hout := Uart.dataOut_congr same.memthr
        rw [← hout]
        exact fifoInv_transmitChars (s := ⟨m, d.ledger⟩) (fifoInv_same h.xmit same) hm

/-! ### The calls -/

theorem mxSetBaud_same {HZ : Int} {p q : Port} {newspd : Int} (h : mxSetBaud HZ p newspd = .ok q) :
    SameXmit p q := by
  rcases mxSetBaud_cases h with ⟨rfl, -⟩ | ⟨-, uart, quot, timeout, huart, -, rfl⟩
  · exact .refl _
  · have hlinear : uart.memthr = p.uart.memthr := by
      split at huart
      · obtain ⟨b, -, rfl⟩ := setLinearBaud_ok huart
        rfl
      · cases huart
        rfl
    have hfinish : SameXmit { p with uart := uart, rate := baudRate p.rate newspd timeout }
        (finishBaud { p with uart := uart, rate := baudRate p.rate newspd timeout } newspd
          quot) := by
      unfold finishBaud
      split
      · exact ⟨rfl, rfl⟩
      · simp only []
        split
        · exact ⟨rfl, rfl⟩
        · exact ⟨rfl, rfl⟩
    exact ⟨hfinish.ring, hfinish.memthr.trans hlinear⟩

theorem changeSpeedLine_same (p : Port) : SameXmit p (changeSpeedLine p) := by
  unfold changeSpeedLine changeSpeedCts
  simp only []
  split
  · exact ⟨rfl, rfl⟩
  · exact ⟨rfl, rfl⟩

theorem mxChangeSpeed_same {HZ : Int} {p q : Port} (h : mxChangeSpeed HZ p = .ok q) :
    SameXmit p q := by
  simp only [mxChangeSpeed] at h
  split at h
  · cases h
    exact .refl _
  · split at h
    · cases h
      exact .refl _
    · obtain ⟨r, hr, hq⟩ := bind_ok_iff.mp h
      cases hq
      have hbaud := mxSetBaud_same hr
      exact SameXmit.trans ⟨hbaud.ring, hbaud.memthr⟩ (changeSpeedLine_same r)

theorem mxupcieStart_same (p : Port) : SameXmit p (mxupcieStart p) := by
  unfold mxupcieStart
  split
  · exact ⟨rfl, rfl⟩
  · exact .refl p

theorem startAfterTermios_same (p : Port) (old : Termios) (changed : Bool) :
    SameXmit p (startAfterTermios p old changed) := by
  have hcts : SameXmit p
      (if changed && test old.cCflag crtscts && !test p.tty.termios.cCflag crtscts then
        mxupcieStart { p with tty := { p.tty with hwStopped := false } } else p) := by
    split
    · have hstart := mxupcieStart_same { p with tty := { p.tty with hwStopped := false } }
      exact ⟨hstart.ring, hstart.memthr⟩
    · exact .refl p
  unfold startAfterTermios
  simp only []
  split
  · exact hcts.trans (by
      have hstart := mxupcieStart_same
      exact ⟨(hstart _).ring, (hstart _).memthr⟩)
  · exact hcts

theorem PortOp.same {HZ : Int} {op : PortOp} {p q : Port} (h : op.apply HZ p = .ok q) :
    SameXmit p q := by
  cases op with
  | throttle =>
      cases h
      exact ⟨rfl, rfl⟩
  | unthrottle =>
      cases h
      exact ⟨rfl, rfl⟩
  | stop =>
      cases h
      unfold mxupcieStop
      split
      · exact ⟨rfl, rfl⟩
      · exact .refl p
  | start =>
      cases h
      exact mxupcieStart_same p
  | flushChars =>
      cases h
      unfold mxupcieFlushChars
      split
      · exact .refl p
      · exact ⟨rfl, rfl⟩
  | attach tty =>
      cases h
      exact ⟨rfl, rfl⟩
  | setLines new =>
      cases h
      exact ⟨rfl, rfl⟩
  | setTermios t =>
      obtain ⟨r, hr, h⟩ := bind_ok_iff.mp h
      cases h
      refine SameXmit.trans ?_ (startAfterTermios_same r _ _)
      split at hr
      · have hspeed := mxChangeSpeed_same hr
        exact ⟨hspeed.ring, hspeed.memthr⟩
      · cases hr
        exact ⟨rfl, rfl⟩

end Steps

/-! ## Whole runs -/

/-- No start-up fails its presence check on a fresh page while bytes are counted. -/
def NotStale (s : Ports) : PortsOp → Prop
  | .txOp i op => ¬ StaleStartup (s i).line.port op
  | _ => True

/-- The tty of a port has what was read, each byte once and in order, with the flag of
the line status for it; what arrived since the FIFO was last reset is there or still in
the chip, and nothing is dropped; the counts are those of the bytes at the tty; and what
was accepted for sending and not flushed has been sent or is in the ring, in order. -/
structure Duplex.Streams (d : Duplex) : Prop where
  flip : d.line.recv.flip = d.reader.readings.flatMap RecvReading.handed
  inOrder : (d.line.recv.flip.map Prod.fst ++ d.reader.rest).Sublist d.reader.arrived
  whole : d.reader.reset = false →
    d.line.recv.flip.map Prod.fst ++ d.reader.rest = d.reader.arrived
  recent : (d.line.recv.flip.map Prod.fst).drop d.reader.before ++ d.reader.rest = d.reader.since
  latest : d.reader.since.IsSuffix d.reader.arrived
  log : d.line.recv.logRxcnt = BitVec.ofNat 64 d.line.recv.flip.length
  mon : d.line.recv.monRxcnt = BitVec.ofNat 64 d.line.recv.flip.length
  up : d.line.recv.monUpRxcnt = BitVec.ofNat 64 d.line.recv.flip.length
  brk : d.line.recv.icount.brk = BitVec.ofNat 32 (flagged d.line.recv.flip .brk)
  parity : d.line.recv.icount.parity = BitVec.ofNat 32 (flagged d.line.recv.flip .parity)
  frame : d.line.recv.icount.frame = BitVec.ofNat 32 (flagged d.line.recv.flip .frame)
  overrun : d.line.recv.icount.overrun = BitVec.ofNat 32 (flagged d.line.recv.flip .overrun)
  xmit : XmitIsFifo [] ⟨d.line.port, d.ledger⟩

theorem handed_bytes (rs : List RecvReading) :
    (rs.flatMap RecvReading.handed).map Prod.fst = rs.map RecvReading.byte := by
  induction rs with
  | nil => rfl
  | cons r rs ih =>
      rw [List.flatMap_cons, List.map_append, ih]
      rfl

theorem DuplexInv.streams {d : Duplex} (h : DuplexInv [] d) : d.Streams := by
  obtain ⟨hbrk, hparity, hframe, hoverrun⟩ := countFlags_counts d.line.recv.flip
  rw [← h.icount] at hbrk hparity hframe hoverrun
  have hflip : d.line.recv.flip = d.reader.readings.flatMap RecvReading.handed :=
    h.flip.symm.trans h.accounted.out_eq
  have hbytes : d.line.recv.flip.map Prod.fst = d.reader.readings.map RecvReading.byte := by
    rw [hflip, handed_bytes]
  exact ⟨hflip, by rw [hbytes]; exact h.accounted.inOrder,
    by rw [hbytes]; exact h.accounted.whole,
    by rw [hbytes, ← List.map_drop]; exact h.accounted.recent, h.accounted.latest, h.log, h.mon,
    h.up, hbrk, hparity, hframe, hoverrun, h.xmit.xmitIsFifo⟩

theorem portsStep_keeps {HZ : Int} {boardType : Nat → BoardType} {s t : Ports} {op : PortsOp}
    (h : ∀ i, DuplexInv [] (s i)) (hop : NotStale s op)
    (ht : portsStep HZ boardType s op = .ok t) : ∀ i, DuplexInv [] (t i) := by
  cases op with
  | arrive i b =>
      cases ht
      exact update_keeps (P := fun _ => DuplexInv []) h ((h i).arrive b)
  | portOp i op =>
      obtain ⟨q, hq, ht⟩ := bind_ok_iff.mp ht
      cases ht
      have hport := (h i).withPort (fifoInv_same (h i).xmit (PortOp.same hq))
      exact update_keeps (P := fun _ => DuplexInv []) h (hport.dropIf _)
  | txOp i op =>
      obtain ⟨u, hu, ht⟩ := bind_ok_iff.mp ht
      cases ht
      have hport := (h i).withPort (fifoInv_step (h i).xmit hop hu)
      exact update_keeps (P := fun _ => DuplexInv []) h (hport.dropIf _)
  | interrupt dev env =>
      obtain ⟨⟨handled, ports⟩, hports, ht⟩ := bind_ok_iff.mp ht
      cases ht
      exact mxInterrupt_keeps (P := fun _ => DuplexInv [])
        (fun _ e _ _ _ hs hturn => hs.turn e hturn) h hports

/-- A port as `mxupcie_initbrd` sets it up. -/
def Duplex.start (hw : MxupcieHwconf) (n : Nat) (msr : Byte) : Duplex :=
  ⟨.start (mxupcieInitbrd hw n (resetUart msr)), .start, Ring.Ledger.start []⟩

theorem duplexInv_start (hw : MxupcieHwconf) (n : Nat) (msr : Byte) :
    DuplexInv [] (Duplex.start hw n msr) where
  accounted := accounted_start
  flip := rfl
  icount := rfl
  log := rfl
  mon := rfl
  up := rfl
  xmit := ⟨ringOk_empty rfl rfl rfl, rfl, rfl, [], rfl, nofun⟩

/-- **The ports over a run**: whatever the interrupts find, whatever arrives when, and
whatever is called on the ports in between. -/
theorem ports_stream (HZ : Int) (boardType : Nat → BoardType) (hw : Nat → MxupcieHwconf)
    (msr : Nat → Byte) (ops : List PortsOp)
    (hg : Guarded (portsStep HZ boardType) NotStale (fun i => .start (hw i) i (msr i)) ops) :
    Always (portsStep HZ boardType) (fun s => ∀ i, (s i).Streams)
      (fun i => .start (hw i) i (msr i)) ops :=
  (always_of_guarded (I := fun s : Ports => ∀ i, DuplexInv [] (s i))
    (fun _ _ _ hs ho he => portsStep_keeps hs ho he) (fun i => duplexInv_start (hw i) i (msr i))
    hg).mono fun _ hs i => (hs i).streams

/-- A turn of three bytes, the first two with a parity error, in which the transmit
memory is empty. -/
def parityTurn : TurnEnv where
  arrived := [0x43]
  iir := moxaIirRlsi
  lsr := 0x65
  rcnt := 0
  later := fun k => if k = 0 then 0x67 else 0x61
  room := 128
  tcnt := ⟨0, by decide⟩

/-- A CP-102E on whose first port bytes come in and go out in one interrupt; a flush of
the output then takes a byte that was not read. -/
def cp102Run : List PortsOp :=
  [.portOp 0 (.attach true), .txOp 0 (.startup (some fun _ => 0) 0x60 false),
    .portOp 0 (.setTermios { cp102Termios 0 with cIflag := inpck }), .arrive 0 0x41, .arrive 0 0x42,
    .txOp 0 (.write [1, 2]),
    .interrupt 0 fun pass port turn =>
      if pass = 0 ∧ port = 0 ∧ turn = 0 then parityTurn
      else { parityTurn with arrived := [], iir := moxaIirNoInt },
    .arrive 0 0x44, .txOp 0 (.flushBuffer moxaIirNoInt)]

theorem ports_stream_cp102 :
    Always (portsStep 100 fun _ => .cp102e) (fun s => ∀ i, (s i).Streams)
      (fun i => .start (mxGetPciConf 0xE000 5) i 0) cp102Run := by
  apply ports_stream
  refine guarded_of_mem fun op hop s => ?_
  cases op with
  | txOp i op =>
      rintro ⟨page, admin, rfl, -⟩
      simp [cp102Run] at hop
  | arrive i b => trivial
  | portOp i op => trivial
  | interrupt dev env => trivial

end MoxaDrivers.Mxupcie

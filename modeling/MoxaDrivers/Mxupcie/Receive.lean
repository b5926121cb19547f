import MoxaDrivers.Mxser.ReceiveStream
import MoxaDrivers.Mxupcie.Modem

/-!
# The receive side of a port

`mx_receive_chars` as the interrupt calls it. Good data is copied in one block out of
the memory of the chip; after an error it is read byte by byte, each with its own line
status. Unlike `mxser_receive_chars` the function drops nothing: `ignore_status_mask` is
set by `mx_change_speed` and asked by nobody.
-/

namespace MoxaDrivers.Mxupcie

open MoxaDrivers.Bits MoxaDrivers.Mxser

/-! ## The state -/

/-- What `struct mxupcie_struct` and the tables keep of the receiver; `flip` lists the
bytes that `tty_insert_flip_string` and `tty_insert_flip_char` were given. -/
structure RecvInfo where
  icount : ReceiveIcount
  errShadow : Byte
  /-- The port's entry of `mxvar_log.rxcnt`. -/
  logRxcnt : BitVec 64
  monRxcnt : BitVec 64
  monUpRxcnt : BitVec 64
  /-- The `TTY_THROTTLED` bit of `tty->flags`. -/
  throttled : Bool
  /-- `do_SAK` was called. -/
  sak : Bool
  flip : List (Byte × TtyFlag)
  deriving DecidableEq, Repr

/-- A port with its receive side. -/
structure RecvPort where
  port : Port
  recv : RecvInfo

/-- Nothing was received yet. -/
def RecvPort.start (p : Port) : RecvPort := ⟨p, ⟨0, 0, 0, 0, 0⟩, 0, 0, 0, 0, false, false, []⟩

/-- What one call reads: `MOXA_PUART_RCNT` and the bytes at `MOXA_PUART_MEMRBR`, or
`UART_RX` and `UART_LSR` at each turn of the loop; `room` is what
`tty_buffer_request_room` returns. -/
structure RecvReads where
  rcnt : Byte
  memrbr : Nat → Byte
  rx : Nat → Byte
  lsr : Nat → Byte
  room : Nat

/-! ## The two ways to receive -/

/-- `gdl`, clipped by the room. -/
def burstLength (a : RecvReads) : Nat := if a.rcnt.toNat > a.room then a.room else a.rcnt.toNat

/-- Without room the tty is marked as throttled, and nothing is read. -/
def recvBurst (p : RecvPort) (a : RecvReads) : Nat × RecvPort :=
  if a.room ≠ 0 then
    (burstLength a, { p with recv := { p.recv with
      flip := p.recv.flip ++ (List.range (burstLength a)).map fun k => (a.memrbr k, .normal) } })
  else (0, { p with recv := { p.recv with throttled := true } })

/-- A byte of the loop goes to the tty, flagged and counted by its status. -/
def takeChar (p : RecvPort) (ch status : Byte) : RecvPort :=
  { p with recv := { p.recv with
    icount := countError p.recv.icount status
    sak := p.recv.sak ||
      (test status uartLsrSpecial && test status uartLsrBi && test p.port.flags asyncSak)
    flip := p.recv.flip ++ [(ch, byteFlag status)] } }

/-- The loop with `max` turns left, after `k` turns: how many bytes the rest takes,
`*status` after it, and the port. -/
def recvLoop (a : RecvReads) : Nat → (k : Nat) → (status : Byte) → RecvPort → Nat × Byte × RecvPort
  | 0, _, status, p => (0, status, p)
  | max + 1, k, status, p =>
      let p := takeChar p (a.rx k) status
      if test (a.lsr k) uartLsrDr then
        let r := recvLoop a max (k + 1) (a.lsr k) p
        (r.1 + 1, r.2)
      else (1, a.lsr k, p)

/-- Up to `end_intr`. `max` is 256 and tested before it is decremented. -/
def recvBytes (p : RecvPort) (status : Byte) (a : RecvReads) : Nat × Byte × RecvPort :=
  if test status uartLsrSpecial then recvLoop a 257 0 status p
  else ((recvBurst p a).1, status, (recvBurst p a).2)

/-- `cnt` more bytes are counted as received, in `mxvar_log` and in `mon_data`. -/
def countRecv (p : RecvPort) (cnt : Nat) : RecvPort :=
  { p with recv := { p.recv with
    logRxcnt := p.recv.logRxcnt + BitVec.ofNat 64 cnt
    monRxcnt := p.recv.monRxcnt + BitVec.ofNat 64 cnt
    monUpRxcnt := p.recv.monUpRxcnt + BitVec.ofNat 64 cnt } }

/-- `mx_receive_chars`: `*status` after it, and the port. -/
def mxReceiveChars (p : RecvPort) (status : Byte) (a : RecvReads) : Byte × RecvPort :=
  let r := recvBytes p status a
  (r.2.1, countRecv r.2.2 r.1)

/-! ## What a call reads -/

/-- A byte that was read, with the status for it; the bytes of a block have none. -/
structure RecvReading where
  byte : Byte
  status : Option Byte
  deriving DecidableEq, Repr

/-- What goes to the tty. -/
def RecvReading.handed (r : RecvReading) : List (Byte × TtyFlag) :=
  [(r.byte, match r.status with
    | none => .normal
    | some status => byteFlag status)]

def loopReadings (a : RecvReads) : Nat → (k : Nat) → (status : Byte) → List RecvReading
  | 0, _, _ => []
  | max + 1, k, status =>
      ⟨a.rx k, some status⟩ ::
        if test (a.lsr k) uartLsrDr then loopReadings a max (k + 1) (a.lsr k) else []

/-- What a call reads from the FIFO. -/
def recvReadings (status : Byte) (a : RecvReads) : List RecvReading :=
  if test status uartLsrSpecial then loopReadings a 257 0 status
  else if a.room ≠ 0 then (List.range (burstLength a)).map fun k => ⟨a.memrbr k, none⟩
  else []

/-! ## One call -/

/-- What the readings `rs`, of which there are `cnt`, make of a port. -/
structure Takes (p q : RecvPort) (cnt : Nat) (rs : List RecvReading) : Prop where
  port : q.port = p.port
  flip : q.recv.flip = p.recv.flip ++ rs.flatMap RecvReading.handed
  count : cnt = rs.length
  icount : q.recv.icount = countFlags p.recv.icount (rs.flatMap RecvReading.handed)
  log : q.recv.logRxcnt = p.recv.logRxcnt ∧ q.recv.monRxcnt = p.recv.monRxcnt ∧
    q.recv.monUpRxcnt = p.recv.monUpRxcnt

theorem Takes.cons {p q r : RecvPort} {m n : Nat} {a : RecvReading} {rs : List RecvReading}
    (h : Takes p q m [a]) (h' : Takes q r n rs) : Takes p r (n + 1) (a :: rs) where
  port := h'.port.trans h.port
  flip := by rw [h'.flip, h.flip, List.append_assoc, ← List.flatMap_append, List.singleton_append]
  count := by rw [h'.count, List.length_cons]
  icount := by
    rw [h'.icount, h.icount, ← countFlags_append, ← List.flatMap_append, List.singleton_append]
  log := ⟨h'.log.1.trans h.log.1, h'.log.2.1.trans h.log.2.1, h'.log.2.2.trans h.log.2.2⟩

theorem takes_takeChar (p : RecvPort) (ch status : Byte) :
    Takes p (takeChar p ch status) 1 [⟨ch, some status⟩] :=
  ⟨rfl, rfl, rfl, countError_eq _ _, rfl, rfl, rfl⟩

theorem takes_recvLoop (a : RecvReads) (max k : Nat) (status : Byte) (p : RecvPort) :
    Takes p (recvLoop a max k status p).2.2 (recvLoop a max k status p).1
      (loopReadings a max k status) := by
  induction max generalizing k status p with
  | zero => exact ⟨rfl, (List.append_nil _).symm, rfl, rfl, rfl, rfl, rfl⟩
  | succ max ih =>
      have hturn := takes_takeChar p (a.rx k) status
      rw [recvLoop, loopReadings]
      cases hdr : test (a.lsr k) uartLsrDr with
      | true => exact hturn.cons (ih (k + 1) (a.lsr k) (takeChar p (a.rx k) status))
      | false => exact hturn

theorem takes_recvBurst (p : RecvPort) (a : RecvReads) :
    Takes p (recvBurst p a).2 (recvBurst p a).1
      (if a.room ≠ 0 then
        (List.range (burstLength a)).map fun k => ⟨a.memrbr k, none⟩ else []) := by
  unfold recvBurst
  by_cases hroom : a.room ≠ 0
  · have hhanded : ((List.range (burstLength a)).map fun k =>
        (⟨a.memrbr k, none⟩ : RecvReading)).flatMap RecvReading.handed =
          (List.range (burstLength a)).map fun k => (a.memrbr k, TtyFlag.normal) := by
      rw [List.flatMap_map, List.map_eq_flatMap]
      rfl
    have hnormal := countFlags_normal p.recv.icount ((List.range (burstLength a)).map a.memrbr)
    rw [List.map_map] at hnormal
    rw [if_pos hroom, if_pos hroom]
    constructor
    · rfl
    · rw [hhanded]
    · rw [List.length_map, List.length_range]
    · rw [hhanded]
      exact hnormal.symm
    · exact ⟨rfl, rfl, rfl⟩
  · rw [if_neg hroom, if_neg hroom]
    exact ⟨rfl, (List.append_nil _).symm, rfl, rfl, rfl, rfl, rfl⟩

theorem takes_recvBytes (p : RecvPort) (status : Byte) (a : RecvReads) :
    Takes p (recvBytes p status a).2.2 (recvBytes p status a).1 (recvReadings status a) := by
  unfold recvBytes recvReadings
  split
  · exact takes_recvLoop a 257 0 status p
  · exact takes_recvBurst p a

/-- The bytes of the readings are all handed on. -/
theorem flatMap_handed_length (rs : List RecvReading) :
    (rs.flatMap RecvReading.handed).length = rs.length := by
  induction rs with
  | nil => rfl
  | cons r rs ih =>
      rw [List.flatMap_cons, List.length_append, ih, List.length_cons, Nat.add_comm]
      rfl

/-- What `rs` leaves: the three counts go up by what was handed on. -/
structure RecvCall (p q : RecvPort) (rs : List RecvReading) : Prop where
  flip : q.recv.flip = p.recv.flip ++ rs.flatMap RecvReading.handed
  icount : q.recv.icount = countFlags p.recv.icount (rs.flatMap RecvReading.handed)
  log : q.recv.logRxcnt = p.recv.logRxcnt + BitVec.ofNat 64 rs.length
  mon : q.recv.monRxcnt = p.recv.monRxcnt + BitVec.ofNat 64 rs.length
  up : q.recv.monUpRxcnt = p.recv.monUpRxcnt + BitVec.ofNat 64 rs.length

theorem RecvCall.refl (p : RecvPort) : RecvCall p p [] :=
  ⟨(List.append_nil _).symm, rfl, (BitVec.add_zero _).symm, (BitVec.add_zero _).symm,
    (BitVec.add_zero _).symm⟩

theorem mxReceiveChars_port (p : RecvPort) (status : Byte) (a : RecvReads) :
    (mxReceiveChars p status a).2.port = p.port :=
  (takes_recvBytes p status a).port

theorem mxReceiveChars_call (p : RecvPort) (status : Byte) (a : RecvReads) :
    RecvCall p (mxReceiveChars p status a).2 (recvReadings status a) := by
  have htakes := takes_recvBytes p status a
  obtain ⟨hlog, hmon, hup⟩ := htakes.log
  have hcount := htakes.count
  refine ⟨htakes.flip, htakes.icount, ?_, ?_, ?_⟩
  · show (recvBytes p status a).2.2.recv.logRxcnt + BitVec.ofNat 64 (recvBytes p status a).1 = _
    rw [hlog, hcount]
  · show (recvBytes p status a).2.2.recv.monRxcnt + BitVec.ofNat 64 (recvBytes p status a).1 = _
    rw [hmon, hcount]
  · show (recvBytes p status a).2.2.recv.monUpRxcnt + BitVec.ofNat 64 (recvBytes p status a).1 = _
    rw [hup, hcount]

/-! ## What the chip holds -/

/-- What a call reads is what the chip holds: there is a byte when the status says so,
and neither `UART_LSR` nor `MOXA_PUART_RCNT` promises more than there is. -/
structure RecvReads.Truthful (a : RecvReads) (rest : List Byte) : Prop where
  rx_eq : ∀ k (h : k < rest.length), a.rx k = rest[k]
  memrbr_eq : ∀ k (h : k < rest.length), a.memrbr k = rest[k]
  lsr_true : ∀ k, test (a.lsr k) uartLsrDr = true → k + 1 < rest.length
  rcnt_le : a.rcnt.toNat ≤ rest.length

section Truthful

variable {a : RecvReads} {rest : List Byte}

theorem loopReadings_bytes (h : a.Truthful rest) (max k : Nat) (status : Byte)
    (hk : k < rest.length) :
    (loopReadings a max k status).map RecvReading.byte =
      (rest.drop k).take (loopReadings a max k status).length := by
  induction max generalizing k status with
  | zero => rfl
  | succ max ih =>
      rw [loopReadings, List.drop_eq_getElem_cons hk]
      simp only [List.map_cons, List.length_cons, List.take_succ_cons, h.rx_eq k hk]
      congr 1
      cases hdr : test (a.lsr k) uartLsrDr with
      | true => exact ih (k + 1) (a.lsr k) (h.lsr_true k hdr)
      | false => rfl

theorem burstLength_le (h : a.Truthful rest) : burstLength a ≤ rest.length := by
  have hle := h.rcnt_le
  unfold burstLength
  split
  · omega
  · exact hle

theorem recvReadings_bytes (h : a.Truthful rest) (hready : 0 < rest.length) (status : Byte) :
    (recvReadings status a).map RecvReading.byte = rest.take (recvReadings status a).length := by
  unfold recvReadings
  split
  · exact loopReadings_bytes h 257 0 status hready
  · split
    · rw [List.map_map, List.length_map, List.length_range]
      apply List.ext_getElem
      · rw [List.length_map, List.length_range, List.length_take,
          Nat.min_eq_left (burstLength_le h)]
      · intro k h1 h2
        rw [List.length_map, List.length_range] at h1
        have hlt : k < rest.length := Nat.lt_of_lt_of_le h1 (burstLength_le h)
        rw [List.getElem_map, List.getElem_range, List.getElem_take]
        exact h.memrbr_eq k hlt
    · rfl

end Truthful

end MoxaDrivers.Mxupcie

import MoxaDrivers.Mxser.XmitRing
import MoxaDrivers.Mxupcie.Port

/-!
# The transmit side of a port

`mxupcie_write`, `mxupcie_put_char`, `mxupcie_flush_chars`,
`mxupcie_flush_buffer`, `mxupcie_stop`, `mxupcie_start`, `mx_stoprx`,
`mx_startrx` and `mx_transmit_chars`.

Where `mxser` hands single bytes to `UART_TX`, the transmit interrupt here
copies one block of the ring to the transmit memory of the chip. A value that a
register read returns is an argument.
-/

namespace MoxaDrivers.Mxupcie

open MoxaDrivers.Bits MoxaDrivers.Mxser

/-! ## Filling the ring -/

/-- The THRI bit is taken off and set again. -/
def kick (p : Port) : Port := p.thriOff.thriOn

/-- The end of `mxupcie_write`: the transmit interrupt is enabled. -/
def writeKick (p : Port) : Port :=
  if p.ring.cnt ≠ 0 ∧ !p.tty.stopped then kick p else p

/-- `mxupcie_write`: how many bytes it accepted, and the port. -/
def mxupcieWrite (p : Port) (buf : List Byte) : Nat × Port :=
  if p.ring.buf.isNone then (0, p)
  else
    let r := p.ring.fill (buf.length + 1) buf
    (r.1, writeKick { p with ring := r.2 })

/-- The end of `mxupcie_put_char`, which asks for `hw_stopped` as well. -/
def putCharKick (p : Port) : Port :=
  if !p.tty.stopped then
    if !p.tty.hwStopped then kick p else p
  else p

def mxupciePutChar (p : Port) (ch : Byte) : Nat × Port :=
  if p.ring.buf.isNone then (0, p)
  else if p.ring.cnt ≥ serialXmitSize - 1 then (0, p)
  else (1, putCharKick { p with ring := p.ring.push [ch] })

def mxupcieFlushChars (p : Port) : Port :=
  if p.ring.cnt ≤ 0 ∨ p.tty.stopped ∨ p.ring.buf.isNone then p else kick p

/-- `mxupcie_flush_buffer`; `iir` is what the read of `UART_FCR` returns. -/
def mxupcieFlushBuffer (p : Port) (iir : Byte) : Port :=
  { p with
    ring := { p.ring with cnt := 0, head := 0, tail := 0 }
    uart := { p.uart with fcr := iir } }

/-! ## Stopping and starting -/

def mxupcieStop (p : Port) : Port :=
  if p.thri then p.thriOff else p

def mxupcieStart (p : Port) : Port :=
  if p.ring.cnt ≠ 0 ∧ p.ring.buf.isSome then kick p else p

/-- `mx_stoprx`, which is all of `mxupcie_throttle`. -/
def mxStoprx (p : Port) : Port := p.setIer (p.ier &&& ~~~uartIerRdi)

/-- `mx_startrx`, which is all of `mxupcie_unthrottle`. -/
def mxStartrx (p : Port) : Port := p.setIer (p.ier ||| uartIerRdi)

/-! ## The transmit interrupt -/

/-- `n` more bytes are counted as sent: in `mxvar_log`, in `mon_data` and in
`icount`. -/
def countSent (p : Port) (n : Int) : Port :=
  { p with
    logTxcnt := p.logTxcnt + BitVec.ofInt 64 n
    mon := { p.mon with
      txcnt := p.mon.txcnt + BitVec.ofInt 64 n
      upTxcnt := p.mon.upTxcnt + BitVec.ofInt 64 n }
    icount := { p.icount with tx := p.icount.tx + BitVec.ofInt 32 n } }

def wakeLow (p : Port) : Port :=
  if p.ring.cnt < wakeupChars then p.setTxlow else p

/-- `cnt = MIN(xmit_cnt, MIN(tx_cnt, SERIAL_XMIT_SIZE - xmit_tail))`, with
`tx_cnt` what `MOXA_PUART_TCNT` leaves of the FIFO. -/
def sendChunk (r : XmitRing) (tcnt : Byte) : Int :=
  min r.cnt (min (mxTxFifoSize - tcnt.toNat) (serialXmitSize - r.tail))

/-- The block is copied to the transmit memory and leaves the ring. -/
def sendBlock (p : Port) (page : Page) (tcnt : Byte) (cnt : Nat) : Port :=
  { p with
    ring := p.ring.pop cnt
    uart := { p.uart with memthr := p.uart.memthr ++
      [⟨tcnt, p.ring.tail.toNat, Ring.block page p.ring.tail.toNat cnt⟩] } }

/-- `mx_transmit_chars`, called with a tty; `tcnt` is what the read of
`MOXA_PUART_TCNT` returns. -/
def mxTransmitChars (p : Port) (tcnt : Byte) : Except Fault Port :=
  match p.ring.buf with
  | none => .ok p
  | some page =>
      if p.ring.cnt = 0 then .ok (wakeLow p)
      else if p.tty.stopped then .ok p.thriOff
      else
        let cnt := sendChunk p.ring tcnt
        -- the length of `memcpy` is unsigned
        if cnt < 0 then .error .wildCopy
        else
          let q := if cnt ≠ 0 then sendBlock p page tcnt cnt.toNat else p
          .ok (wakeLow (countSent q cnt))

/-! ## What they leave alone -/

@[simp] theorem kick_thri (p : Port) : (kick p).thri = true := p.thriOff.thriOn_thri

theorem writeKick_frame (p : Port) :
    ∃ ier uier, writeKick p = { p with ier := ier, uart := { p.uart with ier := uier } } := by
  simp only [writeKick]
  split
  · exact ⟨_, _, rfl⟩
  · exact ⟨p.ier, p.uart.ier, rfl⟩

theorem putCharKick_frame (p : Port) :
    ∃ ier uier, putCharKick p = { p with ier := ier, uart := { p.uart with ier := uier } } := by
  simp only [putCharKick]
  split
  · split
    · exact ⟨_, _, rfl⟩
    · exact ⟨p.ier, p.uart.ier, rfl⟩
  · exact ⟨p.ier, p.uart.ier, rfl⟩

theorem wakeLow_frame (p : Port) : ∃ event, wakeLow p = { p with event := event } := by
  simp only [wakeLow]
  split
  · exact ⟨_, rfl⟩
  · exact ⟨p.event, rfl⟩

/-- Everything `mx_transmit_chars` can do: it leaves the ring alone, turns the
transmit interrupt off in a stopped tty, or moves one block. -/
theorem mxTransmitChars_cases {p q : Port} {tcnt : Byte} (h : mxTransmitChars p tcnt = .ok q) :
    (∃ event, q = { p with event := event } ∧ (p.ring.buf = none ∨ p.ring.cnt = 0)) ∨
    (p.tty.stopped = true ∧ q = p.thriOff) ∨
    (∃ page cnt event, p.ring.buf = some page ∧ p.tty.stopped = false ∧
      sendChunk p.ring tcnt = (cnt : Nat) ∧
      q = { countSent (if cnt ≠ 0 then sendBlock p page tcnt cnt else p) cnt with
        event := event }) := by
  unfold mxTransmitChars at h
  split at h
  · rename_i hnone
    cases h
    exact .inl ⟨p.event, rfl, .inl hnone⟩
  · rename_i page hbuf
    split at h
    · rename_i hcnt
      cases h
      obtain ⟨event, he⟩ := wakeLow_frame p
      exact .inl ⟨event, he, .inr hcnt⟩
    · split at h
      · rename_i hstopped
        cases h
        exact .inr (.inl ⟨hstopped, rfl⟩)
      · rename_i hrunning
        simp only [] at h
        split at h
        · cases h
        · rename_i hpos
          obtain ⟨cnt, hc⟩ : ∃ cnt : Nat, sendChunk p.ring tcnt = cnt :=
            ⟨_, (Int.toNat_of_nonneg (by omega)).symm⟩
          simp only [hc, Int.toNat_natCast, ne_eq, Nat.cast_eq_zero] at h
          cases h
          obtain ⟨event, he⟩ :=
            wakeLow_frame (countSent (if ¬cnt = 0 then sendBlock p page tcnt cnt else p) cnt)
          exact .inr (.inr ⟨page, cnt, event, hbuf, by simpa using hrunning, hc, he⟩)

end MoxaDrivers.Mxupcie

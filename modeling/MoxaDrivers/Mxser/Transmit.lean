import MoxaDrivers.Mxser.XmitRing

/-!
# The transmit side of a port

`mxser_write`, `mxser_put_char`, `mxser_flush_chars`, `mxser_write_room`,
`mxser_flush_buffer`, `mxser_stop`, `mxser_start`, `mxser_stoprx`,
`mxser_startrx` and `mxser_transmit_chars`.

`mxser_write` is built from the two steps between which it does not hold
`slock`: `writeCopy` sizes the next chunk and copies it, `writeCommit` makes it
part of the ring. A value that a register read returns is an argument.
-/

namespace MoxaDrivers.Mxser

open MoxaDrivers.Bits

/-! ## Filling the ring -/

/-- The THRI bit is taken off and set again where the transmitter may run: CTS
does not hold it off, or the chip looks after CTS itself. -/
def kick (p : Port) : Port :=
  if !p.tty.hwStopped || p.autoCts then p.thriOff.thriOn else p

/-- One turn of the loop of `mxser_write` up to the lock: the chunk is sized
and copied to `xmit_buf + xmit_head`. `none` leaves the loop. -/
def writeCopy (p : Port) (buf : List Byte) : Option (Nat × Port) :=
  let c := writeChunk p.ring buf.length
  if c ≤ 0 then none
  else some (c.toNat, { p with ring := { p.ring with
    buf := p.ring.buf.map fun page =>
      Ring.blit page p.ring.head.toNat (buf.take c.toNat) } })

/-- The rest of the turn, under `slock`. -/
def writeCommit (p : Port) (c : Nat) : Port :=
  { p with ring := { p.ring with
    head := (p.ring.head + c) % serialXmitSize, cnt := p.ring.cnt + c } }

/-- The loop; every turn takes at least one byte of `buf`, so that
`buf.length + 1` turns reach its end. -/
def writeLoop : Nat → Port → List Byte → Nat × Port
  | 0, p, _ => (0, p)
  | fuel + 1, p, buf =>
      match writeCopy p buf with
      | none => (0, p)
      | some (c, p) =>
          -- `slock` is taken between the copy and this
          let r := writeLoop fuel (writeCommit p c) (buf.drop c)
          (c + r.1, r.2)

/-- The end of `mxser_write`: the transmit interrupt is enabled. -/
def writeKick (p : Port) : Port :=
  if p.ring.cnt ≠ 0 ∧ !p.tty.stopped then kick p else p

/-- `mxser_write`: how many bytes it accepted, and the port. -/
def mxserWrite (p : Port) (buf : List Byte) : Nat × Port :=
  if p.ring.buf.isNone then (0, p)
  else
    let r := writeLoop (buf.length + 1) p buf
    (r.1, writeKick r.2)

/-- The byte and the indices of `mxser_put_char`, under `slock`. -/
def putCharStore (p : Port) (ch : Byte) : Port :=
  { p with ring := { p.ring with
    buf := p.ring.buf.map fun page => Ring.blit page p.ring.head.toNat [ch]
    head := (p.ring.head + 1) % serialXmitSize
    cnt := p.ring.cnt + 1 } }

def mxserPutChar (p : Port) (ch : Byte) : Nat × Port :=
  if p.ring.buf.isNone then (0, p)
  else if p.ring.cnt ≥ serialXmitSize - 1 then (0, p)
  else
    let p := putCharStore p ch
    (1, if !p.tty.stopped then kick p else p)

/-- `mxser_flush_chars`. -/
def mxserFlushChars (p : Port) : Port :=
  if p.ring.cnt ≤ 0 ∨ p.tty.stopped ∨ p.ring.buf.isNone ∨ (p.tty.hwStopped && !p.autoCts) then p
  else p.thriOff.thriOn

def mxserWriteRoom (p : Port) : Int :=
  max (serialXmitSize - p.ring.cnt - 1) 0

/-- `mxser_flush_buffer`; `iir` is what the read of `UART_FCR` returns. -/
def mxserFlushBuffer (p : Port) (iir : Byte) : Port :=
  { p with
    ring := { p.ring with cnt := 0, head := 0, tail := 0 }
    uart := { p.uart with fcr := iir } }

/-! ## Stopping and starting -/

def mxserStop (p : Port) : Port :=
  if p.thri then p.thriOff else p

def mxserStart (p : Port) : Port :=
  if p.ring.cnt ≠ 0 ∧ p.ring.buf.isSome then p.thriOff.thriOn else p

/-- `x_char` is set to `c` and the transmit interrupt enabled to send it, with
the interrupts masked in between. -/
def queueXChar (p : Port) (c : Byte) : Port :=
  if !test p.flags asyncClosing then
    { p with xChar := c, uart := { p.uart with ier := 0 } }.thriOn
  else p

/-- The `I_IXOFF` part of `mxser_stoprx`. -/
def stoprxFlow (p : Port) : Port :=
  if test p.tty.termios.cIflag ixoff then
    if p.isMoxaMustChipFlag ≠ 0 then p.setIer (p.ier &&& ~~~moxaMustRecvIsr)
    else queueXChar p p.tty.termios.stopChar
  else p

/-- The `I_IXOFF` part of `mxser_startrx`. -/
def startrxFlow (p : Port) : Port :=
  if test p.tty.termios.cIflag ixoff then
    if p.xChar ≠ 0 then { p with xChar := 0 }
    else if p.isMoxaMustChipFlag ≠ 0 then p.setIer (p.ier ||| moxaMustRecvIsr)
    else queueXChar p p.tty.termios.startChar
  else p

/-- The `CRTSCTS` part of the two: `info->MCR` becomes `mcr`. -/
def flowRts (p : Port) (mcr : Byte) : Port :=
  if test p.tty.termios.cCflag crtscts then p.setMcr mcr else p

def mxserStoprx (p : Port) : Port :=
  let p := stoprxFlow { p with ldiscStopRx := true }
  flowRts p (p.mcr &&& ~~~uartMcrRts)

def mxserStartrx (p : Port) : Port :=
  let p := startrxFlow { p with ldiscStopRx := false }
  flowRts p (p.mcr ||| uartMcrRts)

/-! ## The transmit interrupt -/

/-- `n` more bytes are counted as sent: in `mxvar_log`, in `mon_data` and in
`icount`. -/
def countSent (p : Port) (n : Int) : Port :=
  { p with
    logTxcnt := p.logTxcnt + BitVec.ofInt 64 n
    mon := { p.mon with
      txcnt := p.mon.txcnt + BitVec.ofInt 64 n
      upTxcnt := p.mon.upTxcnt + BitVec.ofInt 64 n }
    icount := { p.icount with tx := p.icount.tx + BitVec.ofInt 32 n } }

/-- The body of the send loop: one byte from the tail to `UART_TX`. -/
def sendByte (p : Port) (page : Page) : Port :=
  { p with
    ring := { p.ring with
      tail := (p.ring.tail + 1) % serialXmitSize, cnt := p.ring.cnt - 1 }
    uart := { p.uart with
      tx := p.uart.tx ++ [.data p.ring.tail.toNat (page p.ring.tail.toNat)] } }

/-- The send loop with `n` turns left. -/
def sendLoop (page : Page) : Nat → Port → Port
  | 0, p => p
  | n + 1, p =>
      let p := sendByte p page
      if p.ring.cnt ≤ 0 then p else sendLoop page n p

/-- `x_char` goes out before the ring. -/
def sendXChar (p : Port) : Port :=
  countSent { p with
    xChar := 0
    uart := { p.uart with tx := p.uart.tx ++ [.flow p.xChar] } } 1

def wakeLow (p : Port) : Port :=
  if p.ring.cnt < 256 then p.setTxlow else p

def mxserTransmitChars (p : Port) : Port :=
  if p.xChar ≠ 0 then sendXChar p
  else match p.ring.buf with
    | none => p
    | some page =>
        if p.ring.cnt = 0 then wakeLow p
        else if p.tty.stopped || (p.tty.hwStopped && !p.autoCts) then p.thriOff
        else
          -- the loop body runs before `--count > 0` is tested
          let q := sendLoop page (max 1 p.fifo.xmitFifoSize).toNat p
          wakeLow (countSent q (p.ring.cnt - q.ring.cnt))

/-! ## What they leave alone -/

theorem kick_frame (p : Port) :
    ∃ ier uier, kick p = { p with ier := ier, uart := { p.uart with ier := uier } } := by
  simp only [kick]
  split
  · exact ⟨_, _, rfl⟩
  · exact ⟨p.ier, p.uart.ier, rfl⟩

theorem writeLoop_frame (fuel : Nat) (p : Port) (buf : List Byte) :
    ∃ ring, (writeLoop fuel p buf).2 = { p with ring := ring } := by
  induction fuel generalizing p buf with
  | zero => exact ⟨p.ring, rfl⟩
  | succ fuel ih =>
      cases hc : writeCopy p buf with
      | none =>
          simp only [writeLoop, hc]
          exact ⟨p.ring, rfl⟩
      | some r =>
          obtain ⟨c, q⟩ := r
          obtain ⟨ring, hring⟩ := ih (writeCommit q c) (buf.drop c)
          have hcopy : ∃ copied, q = { p with ring := copied } := by
            unfold writeCopy at hc
            simp only [] at hc
            split at hc
            · cases hc
            · cases hc
              exact ⟨_, rfl⟩
          obtain ⟨copied, rfl⟩ := hcopy
          simp only [writeLoop, hc]
          rw [hring]
          exact ⟨ring, rfl⟩

/-- A write touches the ring and the transmit interrupt. -/
theorem mxserWrite_frame (p : Port) (buf : List Byte) :
    ∃ ring ier uier, (mxserWrite p buf).2
      = { p with ring := ring, ier := ier, uart := { p.uart with ier := uier } } := by
  simp only [mxserWrite]
  split
  · exact ⟨p.ring, p.ier, p.uart.ier, rfl⟩
  · obtain ⟨ring, hloop⟩ := writeLoop_frame (buf.length + 1) p buf
    show ∃ ring ier uier, writeKick (writeLoop (buf.length + 1) p buf).2 = _
    rw [hloop]
    simp only [writeKick]
    split
    · obtain ⟨ier, uier, hkick⟩ := kick_frame { p with ring := ring }
      exact ⟨ring, ier, uier, hkick⟩
    · exact ⟨ring, p.ier, p.uart.ier, rfl⟩

theorem mxserPutChar_frame (p : Port) (ch : Byte) :
    ∃ ring ier uier, (mxserPutChar p ch).2
      = { p with ring := ring, ier := ier, uart := { p.uart with ier := uier } } := by
  simp only [mxserPutChar]
  split
  · exact ⟨p.ring, p.ier, p.uart.ier, rfl⟩
  · split
    · exact ⟨p.ring, p.ier, p.uart.ier, rfl⟩
    · show ∃ ring ier uier, (if (!(putCharStore p ch).tty.stopped) = true
        then kick (putCharStore p ch) else putCharStore p ch) = _
      split
      · obtain ⟨ier, uier, hkick⟩ := kick_frame (putCharStore p ch)
        exact ⟨_, ier, uier, hkick⟩
      · exact ⟨_, p.ier, p.uart.ier, rfl⟩

/-- A start touches the transmit interrupt only. -/
theorem mxserStart_frame (p : Port) :
    ∃ ier uier, mxserStart p = { p with ier := ier, uart := { p.uart with ier := uier } } := by
  simp only [mxserStart]
  split
  · exact ⟨_, _, rfl⟩
  · exact ⟨p.ier, p.uart.ier, rfl⟩

theorem queueXChar_frame (p : Port) (c : Byte) :
    ∃ x ier uier, queueXChar p c
      = { p with xChar := x, ier := ier, uart := { p.uart with ier := uier } } := by
  simp only [queueXChar]
  split
  · exact ⟨_, _, _, rfl⟩
  · exact ⟨p.xChar, p.ier, p.uart.ier, rfl⟩

theorem stoprxFlow_frame (p : Port) :
    ∃ x ier uier, stoprxFlow p
      = { p with xChar := x, ier := ier, uart := { p.uart with ier := uier } } := by
  simp only [stoprxFlow]
  split
  · split
    · exact ⟨p.xChar, _, _, rfl⟩
    · exact queueXChar_frame p _
  · exact ⟨p.xChar, p.ier, p.uart.ier, rfl⟩

theorem startrxFlow_frame (p : Port) :
    ∃ x ier uier, startrxFlow p
      = { p with xChar := x, ier := ier, uart := { p.uart with ier := uier } } := by
  simp only [startrxFlow]
  split
  · split
    · exact ⟨0, p.ier, p.uart.ier, rfl⟩
    · split
      · exact ⟨p.xChar, _, _, rfl⟩
      · exact queueXChar_frame p _
  · exact ⟨p.xChar, p.ier, p.uart.ier, rfl⟩

/-- RTS is left alone or goes through the shadow. -/
theorem flowRts_frame (p : Port) (v : Byte) :
    ∃ mcr umcr, flowRts p v = { p with mcr := mcr, uart := { p.uart with mcr := umcr } } ∧
      (mcr = p.mcr ∧ umcr = p.uart.mcr ∨ umcr = mcr) := by
  simp only [flowRts]
  split
  · exact ⟨v, v, rfl, .inr rfl⟩
  · exact ⟨p.mcr, p.uart.mcr, rfl, .inl ⟨rfl, rfl⟩⟩

/-- Stopping the receiver touches `x_char`, the interrupt enables and RTS. -/
theorem mxserStoprx_frame (p : Port) :
    ∃ x ier uier mcr umcr, mxserStoprx p = { p with
        ldiscStopRx := true
        xChar := x
        ier := ier
        mcr := mcr
        uart := { p.uart with ier := uier, mcr := umcr } } ∧
      (mcr = p.mcr ∧ umcr = p.uart.mcr ∨ umcr = mcr) := by
  obtain ⟨x, ier, uier, hflow⟩ := stoprxFlow_frame { p with ldiscStopRx := true }
  obtain ⟨mcr, umcr, hrts, hmcr⟩ := flowRts_frame (stoprxFlow { p with ldiscStopRx := true })
    ((stoprxFlow { p with ldiscStopRx := true }).mcr &&& ~~~uartMcrRts)
  refine ⟨x, ier, uier, mcr, umcr, ?_, ?_⟩
  · show flowRts _ _ = _
    rw [hrts, hflow]
  · rw [hflow] at hmcr
    exact hmcr

/-- And so does starting it. -/
theorem mxserStartrx_frame (p : Port) :
    ∃ x ier uier mcr umcr, mxserStartrx p = { p with
        ldiscStopRx := false
        xChar := x
        ier := ier
        mcr := mcr
        uart := { p.uart with ier := uier, mcr := umcr } } ∧
      (mcr = p.mcr ∧ umcr = p.uart.mcr ∨ umcr = mcr) := by
  obtain ⟨x, ier, uier, hflow⟩ := startrxFlow_frame { p with ldiscStopRx := false }
  obtain ⟨mcr, umcr, hrts, hmcr⟩ := flowRts_frame (startrxFlow { p with ldiscStopRx := false })
    ((startrxFlow { p with ldiscStopRx := false }).mcr ||| uartMcrRts)
  refine ⟨x, ier, uier, mcr, umcr, ?_, ?_⟩
  · show flowRts _ _ = _
    rw [hrts, hflow]
  · rw [hflow] at hmcr
    exact hmcr

/-- The loop moves the tail, takes from the count, and puts ring bytes on the
line; it touches nothing else. -/
theorem sendLoop_frame (page : Page) :
    ∀ (n : Nat) (p : Port), ∃ head tail cnt out, cnt ≤ p.ring.cnt ∧
      (∀ b ∈ out, ∃ pos c, b = TxByte.data pos c) ∧
      sendLoop page n p = { p with
        ring := ⟨p.ring.buf, head, tail, cnt⟩
        uart := { p.uart with tx := p.uart.tx ++ out } } := by
  intro n
  induction n with
  | zero =>
      intro p
      exact ⟨p.ring.head, p.ring.tail, p.ring.cnt, [], Int.le_refl _, by simp, by simp [sendLoop]⟩
  | succ n ih =>
      intro p
      simp only [sendLoop]
      split
      · refine ⟨p.ring.head, (p.ring.tail + 1) % serialXmitSize, p.ring.cnt - 1,
          [.data p.ring.tail.toNat (page p.ring.tail.toNat)], by omega, ?_, rfl⟩
        intro b hb
        exact ⟨_, _, List.mem_singleton.mp hb⟩
      · obtain ⟨head, tail, cnt, out, hle, hdata, heq⟩ := ih (sendByte p page)
        have hless : (sendByte p page).ring.cnt = p.ring.cnt - 1 := rfl
        -- the byte of this turn, then those of the rest
        refine ⟨head, tail, cnt, .data p.ring.tail.toNat (page p.ring.tail.toNat) :: out,
          by omega, ?_, ?_⟩
        · intro b hb
          rcases List.mem_cons.mp hb with rfl | hb
          · exact ⟨_, _, rfl⟩
          · exact hdata b hb
        · rw [heq]
          simp [sendByte]

end MoxaDrivers.Mxser

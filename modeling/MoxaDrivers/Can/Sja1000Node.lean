import MoxaDrivers.Lib.Intake
import MoxaDrivers.Can.Sja1000Isr

/-!
# A node on the bus

The SJA1000 driver over the whole life of a device: `sja1000_start_xmit` cut at each of its
accesses, between which interrupts come, the chip sends, receives and goes bus-off, and
the restart timer, `open` and `close` between two transmissions. Frames that were sent are
looped back, those that arrive are passed on, and the queue is not left stopped.
-/

namespace MoxaDrivers.Can

open MoxaDrivers.Bits MoxaDrivers.Machine MoxaDrivers.Intake Sja1000

/-! ## The device and who is inside -/

/-- Where `sja1000_start_xmit` is. -/
inductive Xmit where
  | outside
  /-- The queue is stopped. -/
  | stopped (skb : Skb)
  /-- The transmit buffer is written. -/
  | written (skb : Skb)
  /-- `can_put_echo_skb` is through. -/
  | put
  deriving DecidableEq, Repr

/-- The skb that `sja1000_start_xmit` still has. -/
def Xmit.skb : Xmit → Option Skb
  | .stopped skb | .written skb => some skb
  | _ => none

/-- What was sent, and what waited to be looped back then. -/
structure Sent where
  bus : BusFrame
  skb : Option Skb
  deriving DecidableEq, Repr

def Sent.echo (s : Sent) : List Skb := s.skb.toList

structure CanNode where
  dev : Sja1000
  /-- `IFF_UP`. -/
  isUp : Bool
  xmit : Xmit
  /-- What `sja1000_start_xmit` was called with. -/
  offered : List Skb
  /-- What the chip sent, read as it is reported. -/
  tx : Reader BusFrame Sent Skb
  /-- What arrived at the chip. -/
  rx : Reader BusFrame BusFrame CanFrame

/-! ## Steps -/

inductive CanOp where
  | xmit (skb : Skb) (invalid : Bool)
  | xmitNext (cloned : Bool)
  /-- The chip has sent the frame, or failed with its one shot. -/
  | sent (ok : Bool)
  | arrive (r : Regs)
  /-- The chip goes bus-off. -/
  | busOff
  | interrupt (turns : List IsrTurn)
  | restart (m : ModReads) (skb : Bool)
  | restartNow
  | open (bitrate : Nat) (irq : Bool) (m : ModReads)
  | close (mods : Nat → Byte)
  | changelink (mode : Option Ctrlmode) (restartMs : Option Nat)

/-- The device after a call that may have reset the chip. -/
def CanNode.resets (s : CanNode) (d : Sja1000) : CanNode :=
  { s with
    dev := d
    tx := if s.dev.chip.ti = some true then s.tx.drop else s.tx
    rx := if s.dev.chip.rxFifo.isEmpty then s.rx else s.rx.drop }

/-- The device after an interrupt: what the chip no longer has was read. -/
def CanNode.reads (s : CanNode) (d : Sja1000) : CanNode :=
  { s with
    dev := d
    tx := s.tx.read
      (if s.dev.chip.ti = some true ∧ d.chip.ti = none then
        [⟨s.dev.chip.txBuf.bus, s.dev.echoSkb⟩] else []) d.echoes
    rx := s.rx.read
      ((s.dev.chip.rxFifo.take (s.dev.chip.rxFifo.length - d.chip.rxFifo.length)).map Regs.bus)
      d.received }

def xmitNext (s : CanNode) (cloned : Bool) : CanNode :=
  match s.xmit with
  | .outside => s
  | .stopped skb => { s with dev := writeXmit skb.frame s.dev, xmit := .written skb }
  | .written skb => { s with dev := s.dev.canPutEchoSkb skb cloned, xmit := .put }
  | .put => { s with dev := writeCmdTr s.dev, xmit := .outside }

/-- The transmission is over. -/
def chipSent (s : CanNode) (ok : Bool) : CanNode :=
  { s with
    dev := { s.dev with chip := { s.dev.chip with request := false, ti := some ok } }
    tx := if ok then s.tx.arrive s.dev.chip.txBuf.bus else s.tx }

def canStep (s : CanNode) : CanOp → Except SjaFault CanNode
  | .xmit skb invalid =>
      let s := { s with offered := s.offered ++ [skb] }
      .ok (if invalid then { s with dev := dropInvalid skb s.dev }
        else { s with dev := stopQueue s.dev, xmit := .stopped skb })
  | .xmitNext cloned => .ok (xmitNext s cloned)
  | .sent ok => .ok (chipSent s ok)
  | .arrive r =>
      .ok { s with
        dev := { s.dev with chip := { s.dev.chip with rxFifo := s.dev.chip.rxFifo ++ [r] } }
        rx := s.rx.arrive r.bus }
  | .busOff => .ok (s.resets { s.dev with chip := { s.dev.chip.reset with off := true } })
  | .interrupt turns => do
      let r ← sja1000Interrupt turns s.dev
      return s.reads r.2
  | .restart m skb => do
      let d ← canRestart m skb s.dev
      return s.resets d
  | .restartNow => .ok { s with dev := (canRestartNow s.dev).2 }
  | .open bitrate irq m =>
      let r := sja1000Open bitrate irq m s.dev
      .ok { s.resets r.2 with isUp := r.1 = 0 }
  | .close mods => .ok { s.resets (sja1000Close mods s.dev) with isUp := false }
  | .changelink mode restartMs =>
      .ok { s with dev := (canChangelink s.isUp mode restartMs s.dev).2 }

def CanNode.registered (txBuf : Regs) : CanNode :=
  ⟨.registered txBuf, false, .outside, [], .start, .start⟩

theorem xmitNext_outside {s : CanNode} (hx : s.xmit = .outside) (cloned : Bool) :
    xmitNext s cloned = s := by
  rw [xmitNext, hx]

/-- With nothing in between, the steps are `sja1000_start_xmit` in one go. -/
theorem run_xmit_alone {s : CanNode} (hx : s.xmit = .outside) (skb : Skb) (invalid cloned : Bool) :
    (run canStep s [.xmit skb invalid, .xmitNext cloned, .xmitNext cloned,
      .xmitNext cloned]).map CanNode.dev = .ok (sja1000StartXmit skb invalid cloned s.dev) := by
  cases invalid with
  | true =>
      simp only [run_cons, run_nil, canStep, Except.bind, if_true, xmitNext_outside, hx]
      rfl
  | false => rfl

/-! ## What the rest of the system keeps to -/

def Resets (mods : Nat → Byte) : Prop := ∃ k < 100, test (mods k) modRm = true

def Wakes (mods : Nat → Byte) : Prop := ∃ k < 100, test (mods k) modRm = false

/-- The stack transmits through a queue that is awake, one frame at a time, on a device that
is up and has a carrier; the chip does what it is told to, and reports what it did; and
nothing transmits while the device is restarted or closed. -/
def Keeps (s : CanNode) : CanOp → Prop
  | .xmit skb invalid => s.isUp = true ∧ s.dev.queueStopped = false ∧ s.dev.carrier = true ∧
      s.xmit = .outside ∧ (invalid = false → skb.frame.Valid)
  | .xmitNext _ => s.xmit ≠ .outside
  | .sent ok => s.dev.chip.request = true ∧ (ok = false → s.dev.ctrlmode.oneShot = true)
  | .arrive _ => s.dev.chip.resetMode = false
  | .busOff => s.dev.chip.resetMode = false
  | .interrupt turns => s.isUp = true ∧ IsrTrue turns 0 s.dev
  | .restart m _ => s.dev.restartTimer = true ∧ s.xmit = .outside ∧
      Resets m.reset ∧ Wakes m.normal
  | .restartNow => s.isUp = true
  | .open _ _ m => s.isUp = false ∧ Resets m.reset ∧ Wakes m.normal
  | .close mods => s.isUp = true ∧ s.xmit = .outside ∧ Resets mods
  | .changelink _ _ => True

/-! ## The modes of the chip -/

theorem resetLoop_of_resets {mods : Nat → Byte} (n k : Nat) (s : Sja1000)
    (h : ∃ j, k ≤ j ∧ j < k + n ∧ test (mods j) modRm = true) :
    resetLoop mods n k s = { s with state := .stopped, chip := s.chip.reset } := by
  induction n generalizing k with
  | zero =>
      obtain ⟨j, h1, h2, -⟩ := h
      omega
  | succ n ih =>
      rw [resetLoop]
      split
      · rfl
      · next hno =>
          obtain ⟨j, h1, h2, hj⟩ := h
          refine ih (k + 1) ⟨j, ?_, by omega, hj⟩
          by_contra hlt
          have hjk : j = k := by omega
          exact hno (hjk ▸ hj)

theorem setResetMode_eq {mods : Nat → Byte} (h : Resets mods) (s : Sja1000) :
    setResetMode mods s =
      { s with state := .stopped, chip := { s.chip with ier := irqOff }.reset } := by
  obtain ⟨k, hk, hm⟩ := h
  exact resetLoop_of_resets 100 0 _ ⟨k, Nat.zero_le k, by omega, hm⟩

theorem normalLoop_of_wakes {mods : Nat → Byte} (n k : Nat) (s : Sja1000)
    (h : ∃ j, k ≤ j ∧ j < k + n ∧ test (mods j) modRm = false) :
    ∃ ier, normalLoop mods n k s = { s with
      state := .errorActive, chip := { s.chip with resetMode := false, ier := ier } } := by
  induction n generalizing k with
  | zero =>
      obtain ⟨j, h1, h2, -⟩ := h
      omega
  | succ n ih =>
      rw [normalLoop]
      split
      · exact ⟨_, rfl⟩
      · next hno =>
          obtain ⟨j, h1, h2, hj⟩ := h
          refine ih (k + 1) ⟨j, ?_, by omega, hj⟩
          by_contra hlt
          have hjk : j = k := by omega
          rw [← hjk, hj] at hno
          exact hno rfl

theorem setNormalMode_eq {mods : Nat → Byte} (h : Wakes mods) (s : Sja1000) :
    ∃ ier, setNormalMode mods s = { s with
      state := .errorActive, chip := { s.chip with resetMode := false, ier := ier } } := by
  obtain ⟨k, hk, hm⟩ := h
  exact normalLoop_of_wakes 100 0 _ ⟨k, Nat.zero_le k, by omega, hm⟩


theorem sja1000Start_eq {m : ModReads} (hr : Resets m.reset) (hw : Wakes m.normal) (s : Sja1000)
    (hs : s.state = .stopped → s.chip.resetMode = true ∧ s.chip.request = false ∧
      s.chip.ti = none ∧ s.chip.off = false ∧ s.chip.rxFifo = []) :
    ∃ ier, sja1000Start m s = { s with
      state := .errorActive
      chip := { s.chip.reset with resetMode := false, ier := ier } } := by
  unfold sja1000Start
  by_cases hstop : s.state = .stopped
  · rw [if_neg (not_not.mpr hstop)]
    obtain ⟨ier, h⟩ := setNormalMode_eq hw s
    obtain ⟨-, hrequest, hti, hoff, hfifo⟩ := hs hstop
    refine ⟨ier, h.trans ?_⟩
    simp only [Sja1000Chip.reset, hrequest, hti, hoff, hfifo]
  · rw [if_pos hstop, setResetMode_eq hr]
    exact setNormalMode_eq hw _

/-! ## The invariant -/

/-- What the parts of a device say of one another. -/
structure DevInv (s : CanNode) : Prop where
  idle : s.dev.queueStopped = false → s.dev.echoSkb = none ∧ s.dev.chip.request = false ∧
    s.dev.chip.ti = none ∧ s.xmit = .outside
  inside : s.xmit ≠ .outside →
    s.isUp = true ∧ s.dev.chip.request = false ∧ s.dev.chip.ti = none
  before : s.xmit.skb.isSome = true → s.dev.echoSkb = none
  image : ∀ skb, s.dev.echoSkb = some skb ∨ s.xmit = .written skb →
    s.dev.chip.txBuf.bus = skb.frame.bus
  valid : ∀ skb, s.dev.echoSkb = some skb ∨ s.xmit.skb = some skb → skb.frame.Valid
  single : s.dev.chip.request = true → s.dev.chip.ti = none
  quiet : s.dev.chip.resetMode = true →
    s.dev.chip.request = false ∧ s.dev.chip.ti = none ∧ s.dev.chip.rxFifo = []
  shot : s.dev.chip.ti = some false → s.dev.ctrlmode.oneShot = true
  stopped : s.dev.state = .stopped → s.dev.chip.resetMode = true ∧ s.dev.chip.off = false
  off : s.dev.chip.off = true →
    s.dev.chip.resetMode = true ∧ s.dev.carrier = true ∧ s.isUp = true
  down : s.isUp = false →
    s.dev.chip.resetMode = true ∧ s.dev.restartTimer = false ∧ s.dev.echoSkb = none
  noCarrier : s.dev.carrier = false → s.dev.chip.resetMode = true
  told : s.isUp = true → s.dev.carrier = true → s.dev.chip.resetMode = true →
    s.dev.chip.off = true
  timer : s.dev.restartTimer = true → s.isUp = true ∧ s.dev.carrier = false
  recovers : s.isUp = true → s.dev.carrier = false → s.dev.restartMs ≠ 0 →
    s.dev.restartTimer = true
  busOff : s.dev.state = .busOff → s.dev.carrier = false
  wakes : s.isUp = true → s.dev.queueStopped = true → s.xmit = .outside →
    s.dev.chip.request = true ∨ s.dev.chip.ti.isSome = true ∨ s.dev.chip.resetMode = true
  occupied : s.dev.occupied = false

/-- Where the frames are. -/
structure Books (s : CanNode) : Prop where
  custody : s.offered.Perm
    (s.dev.freed ++ s.dev.echoes ++ s.dev.echoSkb.toList ++ s.xmit.skb.toList)
  tx : Accounted Sent.bus Sent.echo s.tx
  txOut : s.tx.out = s.dev.echoes
  txRest : s.tx.rest = if s.dev.chip.ti = some true then [s.dev.chip.txBuf.bus] else []
  sent : ∀ r ∈ s.tx.readings, ∀ skb, r.skb = some skb →
    skb.frame.bus = r.bus ∧ skb.frame.Valid
  rx : Accounted id (fun b => [BusFrame.frame b]) s.rx
  rxOut : s.rx.out = s.dev.received
  rxRest : s.rx.rest = s.dev.chip.rxFifo.map Regs.bus

/-! ### Transmitting -/

section Transmit

variable {s : CanNode}

theorem DevInv.xmit (h : DevInv s) {skb : Skb} {invalid : Bool} {t : CanNode}
    (hk : Keeps s (.xmit skb invalid)) (he : canStep s (.xmit skb invalid) = .ok t) :
    DevInv t := by
  obtain ⟨hup, hqueue, hcarrier, hout, hvalid⟩ := hk
  obtain ⟨hslot, hrequest, hti, -⟩ := h.idle hqueue
  rw [← Except.ok.inj he]
  cases invalid with
  | true => exact { h with }
  | false =>
      exact { h with
        idle := nofun
        inside := fun _ => ⟨hup, hrequest, hti⟩
        before := fun _ => hslot
        image := by
          rintro skb' (hs | hs)
          · exact h.image skb' (.inl hs)
          · cases hs
        valid := by
          rintro skb' (hs | hs)
          · exact h.valid skb' (.inl hs)
          · cases hs
            exact hvalid rfl
        wakes := nofun }

/-- A frame that has its place in the echo and waits for the command. -/
theorem canPutEchoSkb_of_none {d : Sja1000} (h : d.echoSkb = none) (skb : Skb) (cloned : Bool) :
    d.canPutEchoSkb skb cloned = d.kfreeSkb skb ∨
      d.canPutEchoSkb skb cloned = { d with echoSkb := some skb } := by
  unfold canPutEchoSkb
  rw [h]
  split
  · exact .inl rfl
  · cases cloned with
    | true => exact .inr rfl
    | false => exact .inl rfl

theorem DevInv.write (h : DevInv s) {skb : Skb} (hx : s.xmit = .stopped skb) :
    DevInv { s with dev := writeXmit skb.frame s.dev, xmit := .written skb } := by
  have hne : s.xmit ≠ .outside := by rw [hx]; nofun
  have hslot : s.dev.echoSkb = none := h.before (by rw [hx]; rfl)
  have hvalid : skb.frame.Valid := h.valid skb (.inr (by rw [hx]; rfl))
  exact { h with
    idle := fun hq => absurd (h.idle hq).2.2.2 hne
    inside := fun _ => h.inside hne
    before := fun _ => hslot
    image := by
      rintro skb' (hs | hs)
      · rw [show s.dev.echoSkb = some skb' from hs] at hslot
        cases hslot
      · cases hs
        exact xmitWrites_bus _ hvalid
    valid := by
      rintro skb' (hs | hs)
      · exact h.valid skb' (.inl hs)
      · cases hs
        exact hvalid
    wakes := nofun }

theorem DevInv.putEcho (h : DevInv s) {skb : Skb} (hx : s.xmit = .written skb) (cloned : Bool) :
    DevInv { s with dev := s.dev.canPutEchoSkb skb cloned, xmit := .put } := by
  have hne : s.xmit ≠ .outside := by rw [hx]; nofun
  have hslot : s.dev.echoSkb = none := h.before (by rw [hx]; rfl)
  rcases canPutEchoSkb_of_none hslot skb cloned with hput | hput
  · rw [hput]
    exact { h with
      idle := fun hq => absurd (h.idle hq).2.2.2 hne
      inside := fun _ => h.inside hne
      before := nofun
      image := by
        rintro skb' (hs | hs)
        · exact h.image skb' (.inl hs)
        · cases hs
      valid := by
        rintro skb' (hs | hs)
        · exact h.valid skb' (.inl hs)
        · cases hs
      wakes := nofun }
  · rw [hput]
    exact { h with
      idle := fun hq => absurd (h.idle hq).2.2.2 hne
      inside := fun _ => h.inside hne
      before := nofun
      image := by
        rintro skb' (hs | hs)
        · cases hs
          exact h.image skb (.inr hx)
        · cases hs
      valid := by
        rintro skb' (hs | hs)
        · cases hs
          exact h.valid skb (.inr (by rw [hx]; rfl))
        · cases hs
      down := fun hd => by
        rw [(h.inside hne).1] at hd
        cases hd
      wakes := nofun }

theorem DevInv.command (h : DevInv s) (hx : s.xmit = .put) :
    DevInv { s with dev := writeCmdTr s.dev, xmit := .outside } := by
  have hne : s.xmit ≠ .outside := by rw [hx]; nofun
  obtain ⟨hup, hrequest, hti⟩ := h.inside hne
  exact { h with
    idle := fun hq => absurd (h.idle hq).2.2.2 hne
    inside := fun hn => absurd rfl hn
    before := nofun
    image := by
      rintro skb' (hs | hs)
      · exact h.image skb' (.inl hs)
      · cases hs
    valid := by
      rintro skb' (hs | hs)
      · exact h.valid skb' (.inl hs)
      · cases hs
    single := fun _ => hti
    quiet := fun hr => by
      obtain ⟨-, hti, hfifo⟩ := h.quiet hr
      refine ⟨?_, hti, hfifo⟩
      show (s.dev.chip.request || !s.dev.chip.resetMode) = false
      rw [hrequest, show s.dev.chip.resetMode = true from hr]
      rfl
    wakes := fun _ _ _ => by
      show (s.dev.chip.request || !s.dev.chip.resetMode) = true ∨ _ ∨ _
      cases hr : s.dev.chip.resetMode with
      | true => exact .inr (.inr hr)
      | false => exact .inl (Bool.or_true _) }

theorem DevInv.xmitNext (h : DevInv s) (cloned : Bool) : DevInv (xmitNext s cloned) := by
  unfold Can.xmitNext
  split
  · exact h
  · next skb hx => exact h.write hx
  · next skb hx => exact h.putEcho hx cloned
  · next hx => exact h.command hx

theorem DevInv.sent (h : DevInv s) {ok : Bool} (hk : Keeps s (.sent ok)) :
    DevInv (chipSent s ok) := by
  obtain ⟨hrequest, hshot⟩ := hk
  have hbusy : ∀ {P : Prop}, s.dev.queueStopped = false → P := by
    intro P hq
    rw [(h.idle hq).2.1] at hrequest
    cases hrequest
  have hrun : ∀ {P : Prop}, s.dev.chip.resetMode = true → P := by
    intro P hr
    rw [(h.quiet hr).1] at hrequest
    cases hrequest
  exact { h with
    idle := fun hq => hbusy hq
    inside := fun hx => by
      rw [(h.inside hx).2.1] at hrequest
      cases hrequest
    single := nofun
    quiet := fun hr => hrun hr
    shot := fun hti => hshot (Option.some.inj hti)
    wakes := fun _ _ _ => .inr (.inl rfl) }

end Transmit

/-! ### The chip and the interrupt -/

section Chip

variable {s : CanNode}

theorem DevInv.arrive (h : DevInv s) {r : Regs} (hk : Keeps s (.arrive r)) {t : CanNode}
    (he : canStep s (.arrive r) = .ok t) : DevInv t := by
  have hrun : ∀ {P : Prop}, s.dev.chip.resetMode = true → P := by
    intro P hr
    rw [show s.dev.chip.resetMode = false from hk] at hr
    cases hr
  rw [← Except.ok.inj he]
  exact { h with quiet := fun hr => hrun hr }

theorem DevInv.goesOff (h : DevInv s) (hk : Keeps s .busOff) {t : CanNode}
    (he : canStep s .busOff = .ok t) : DevInv t := by
  have hrun : s.dev.chip.resetMode = false := hk
  have hcarrier : s.dev.carrier = true := by
    by_contra hne
    rw [h.noCarrier (Bool.eq_false_iff.mpr hne)] at hrun
    cases hrun
  have hup : s.isUp = true := by
    by_contra hne
    rw [(h.down (Bool.eq_false_iff.mpr hne)).1] at hrun
    cases hrun
  rw [← Except.ok.inj he]
  exact { h with
    idle := fun hq => by
      obtain ⟨hslot, -, -, hx⟩ := h.idle hq
      exact ⟨hslot, rfl, rfl, hx⟩
    inside := fun hx => ⟨hup, rfl, rfl⟩
    single := nofun
    quiet := fun _ => ⟨rfl, rfl, rfl⟩
    shot := nofun
    stopped := fun hs => by
      rw [(h.stopped hs).1] at hrun
      cases hrun
    off := fun _ => ⟨rfl, hcarrier, hup⟩
    down := fun hd => by
      rw [show s.isUp = false from hd] at hup
      cases hup
    noCarrier := fun _ => rfl
    told := fun _ _ _ => rfl
    wakes := fun _ _ _ => .inr (.inr rfl) }

theorem DevInv.isrReady (h : DevInv s) : IsrReady s.dev where
  fail := h.shot
  empty hoff := (h.quiet (h.off hoff).1).2.2

/-- The transmission after an interrupt: as it was, or over, and then nobody is inside. -/
theorem DevInv.txAfter (h : DevInv s) {d : Sja1000} (he : TxEffect s.dev d) :
    (d.chip.ti = s.dev.chip.ti ∧ d.echoSkb = s.dev.echoSkb ∧
        d.queueStopped = s.dev.queueStopped) ∨
      (d.chip.ti = none ∧ d.echoSkb = none ∧ d.queueStopped = false ∧
        s.dev.chip.request = false ∧ s.xmit = .outside) := by
  cases he with
  | unchanged ti slot echoes freed queue => exact .inl ⟨ti, slot, queue⟩
  | ended ok was ti slot echoes freed queue =>
      refine .inr ⟨ti, slot, queue, ?_, ?_⟩
      · by_contra hne
        rw [h.single (Bool.not_eq_false _ ▸ hne)] at was
        cases was
      · by_contra hne
        rw [(h.inside hne).2.2] at was
        cases was

/-- The link after an interrupt: as it was, or down with the chip in reset mode. -/
theorem DevInv.linkAfter (h : DevInv s) {d : Sja1000} (he : LinkEffect s.dev d) :
    (d.chip.off = s.dev.chip.off ∧ d.carrier = s.dev.carrier ∧
        d.restartTimer = s.dev.restartTimer ∧ (d.state = .busOff → s.dev.state = .busOff)) ∨
      (d.chip.off = false ∧ d.carrier = false ∧
        d.restartTimer = (s.dev.restartTimer || s.dev.restartMs != 0) ∧
        s.dev.chip.resetMode = true) := by
  cases he with
  | unchanged off carrier timer state => exact .inl ⟨off, carrier, timer, state⟩
  | down was off carrier timer => exact .inr ⟨off, carrier, timer, (h.off was).1⟩

/-- Whatever an interrupt leaves behind. -/
theorem DevInv.interrupt (h : DevInv s) (hup : s.isUp = true) {d : Sja1000}
    (he : Effect s.dev d) : DevInv (s.reads d) := by
  obtain ⟨hreset, hrequest, htxBuf, hmode, hms, hocc⟩ := he.apart
  have htx := h.txAfter he.tx
  have hlink := h.linkAfter he.link
  refine {
    idle := fun hq => ?_, inside := fun hx => ?_, before := fun hx => ?_,
    image := fun skb hs => ?_, valid := fun skb hs => ?_, single := fun hr => ?_,
    quiet := fun hr => ?_, shot := fun hti => ?_, stopped := fun hs => ?_,
    off := fun ho => ?_, down := fun hd => ?_, noCarrier := fun hc => ?_,
    told := fun _ hc hr => ?_, timer := fun ht => ?_, recovers := fun _ hc hne => ?_,
    busOff := fun hs => ?_, wakes := fun _ hq hx => ?_,
    occupied := hocc.trans h.occupied }
  · change d.queueStopped = false at hq
    show d.echoSkb = none ∧ d.chip.request = false ∧ d.chip.ti = none ∧ s.xmit = .outside
    rw [hrequest]
    rcases htx with ⟨hti, hslot, hqueue⟩ | ⟨hti, hslot, -, hno, hx⟩
    · rw [hti, hslot]
      exact h.idle (hqueue ▸ hq)
    · exact ⟨hslot, hno, hti, hx⟩
  · obtain ⟨hu, hno, hnone⟩ := h.inside hx
    refine ⟨hu, hrequest.trans hno, ?_⟩
    rcases htx with ⟨hti, -, -⟩ | ⟨hti, -⟩
    · exact hti.trans hnone
    · exact hti
  · rcases htx with ⟨-, hslot, -⟩ | ⟨-, hslot, -⟩
    · exact hslot.trans (h.before hx)
    · exact hslot
  · show d.chip.txBuf.bus = _
    rw [htxBuf]
    rcases hs with hs | hs
    · rcases htx with ⟨-, hslot, -⟩ | ⟨-, hslot, -⟩
      · exact h.image skb (.inl (hslot ▸ hs))
      · rw [show d.echoSkb = some skb from hs] at hslot
        cases hslot
    · exact h.image skb (.inr hs)
  · rcases hs with hs | hs
    · rcases htx with ⟨-, hslot, -⟩ | ⟨-, hslot, -⟩
      · exact h.valid skb (.inl (hslot ▸ hs))
      · rw [show d.echoSkb = some skb from hs] at hslot
        cases hslot
    · exact h.valid skb (.inr hs)
  · rcases htx with ⟨hti, -, -⟩ | ⟨hti, -⟩
    · exact hti.trans (h.single (hrequest ▸ hr))
    · exact hti
  · obtain ⟨hno, hnone, hfifo⟩ := h.quiet (hreset ▸ hr)
    obtain ⟨n, -, hdrop, -⟩ := he.rx
    refine ⟨hrequest.trans hno, ?_, ?_⟩
    · rcases htx with ⟨hti, -, -⟩ | ⟨hti, -⟩
      · exact hti.trans hnone
      · exact hti
    · show d.chip.rxFifo = []
      rw [hdrop, hfifo, List.drop_nil]
  · change d.chip.ti = some false at hti
    show d.ctrlmode.oneShot = true
    rw [hmode]
    rcases htx with ⟨hsame, -, -⟩ | ⟨hnone, -⟩
    · exact h.shot (hsame ▸ hti)
    · rw [hnone] at hti
      cases hti
  · obtain ⟨hr, ho⟩ := h.stopped (he.stopped hs)
    refine ⟨hreset.trans hr, ?_⟩
    rcases hlink with ⟨hoff, -⟩ | ⟨hoff, -⟩
    · exact hoff.trans ho
    · exact hoff
  · change d.chip.off = true at ho
    rcases hlink with ⟨hoff, hcarrier, -, -⟩ | ⟨hoff, -⟩
    · obtain ⟨hr, hc, hu⟩ := h.off (hoff ▸ ho)
      exact ⟨hreset.trans hr, hcarrier.trans hc, hu⟩
    · rw [hoff] at ho
      cases ho
  · rw [show s.isUp = false from hd] at hup
    cases hup
  · show d.chip.resetMode = true
    rw [hreset]
    rcases hlink with ⟨-, hcarrier, -, -⟩ | ⟨-, -, -, hr⟩
    · exact h.noCarrier (hcarrier ▸ hc)
    · exact hr
  · change d.carrier = true at hc
    rcases hlink with ⟨hoff, hcarrier, -, -⟩ | ⟨-, hcarrier, -, -⟩
    · exact hoff.trans (h.told hup (hcarrier ▸ hc) (hreset ▸ hr))
    · rw [hcarrier] at hc
      cases hc
  · rcases hlink with ⟨-, hcarrier, htimer, -⟩ | ⟨-, hcarrier, -, -⟩
    · obtain ⟨hu, hc⟩ := h.timer (htimer ▸ ht)
      exact ⟨hu, hcarrier.trans hc⟩
    · exact ⟨hup, hcarrier⟩
  · change d.restartMs ≠ 0 at hne
    rw [hms] at hne
    rcases hlink with ⟨-, hcarrier, htimer, -⟩ | ⟨-, -, htimer, -⟩
    · exact htimer.trans (h.recovers hup (hcarrier ▸ hc) hne)
    · show d.restartTimer = true
      rw [htimer, bne_iff_ne.mpr hne, Bool.or_true]
  · rcases hlink with ⟨-, hcarrier, -, hstate⟩ | ⟨-, hcarrier, -, -⟩
    · exact hcarrier.trans (h.busOff (hstate hs))
    · exact hcarrier
  · change d.queueStopped = true at hq
    show d.chip.request = true ∨ d.chip.ti.isSome = true ∨ d.chip.resetMode = true
    rcases htx with ⟨hti, -, hqueue⟩ | ⟨-, -, hqueue, -⟩
    · rw [hrequest, hti, hreset]
      exact h.wakes hup (hqueue ▸ hq) hx
    · rw [hqueue] at hq
      cases hq

end Chip

/-! ### Restart, open and close -/

section Modes

variable {s : CanNode}

theorem DevInv.restartNow (h : DevInv s) (hup : s.isUp = true) :
    DevInv { s with dev := (canRestartNow s.dev).2 } := by
  unfold canRestartNow
  split
  · exact h
  · split
    · exact h
    · next hstate =>
        have hcarrier := h.busOff (not_not.mp hstate)
        exact { h with
          down := fun hd => by
            rw [show s.isUp = false from hd] at hup
            cases hup
          timer := fun _ => ⟨hup, hcarrier⟩
          recovers := fun _ _ _ => rfl }

theorem canFlushEchoSkb_eq (d : Sja1000) : ∃ stats, d.canFlushEchoSkb =
    { d with stats := stats, echoSkb := none, freed := d.freed ++ d.echoSkb.toList } := by
  unfold canFlushEchoSkb
  split
  · next hslot =>
      refine ⟨d.stats, ?_⟩
      rw [hslot, Option.toList_none, List.append_nil, ← hslot]
  · next skb hslot =>
      refine ⟨{ d.stats with
        txDropped := d.stats.txDropped + 1
        txAbortedErrors := d.stats.txAbortedErrors + 1 }, ?_⟩
      rw [hslot]
      rfl

theorem tellRestart_eq (skb : Bool) (d : Sja1000) : ∃ stats canStats, tellRestart skb d =
    { d with
      stats := stats, canStats := canStats
      up := if skb then d.up ++ [.error (errFrame.orId canErrRestarted)] else d.up } := by
  cases skb with
  | true => exact ⟨_, _, rfl⟩
  | false => exact ⟨_, _, rfl⟩

/-- What a restart does first. -/
theorem flushTell_eq (skb : Bool) (d : Sja1000) : ∃ stats canStats,
    tellRestart skb (canFlushEchoSkb { d with restartTimer := false }) = { d with
      restartTimer := false, echoSkb := none, stats := stats, canStats := canStats
      up := if skb then d.up ++ [.error (errFrame.orId canErrRestarted)] else d.up
      freed := d.freed ++ d.echoSkb.toList } := by
  obtain ⟨_, hflush⟩ := canFlushEchoSkb_eq { d with restartTimer := false }
  obtain ⟨stats, canStats, htell⟩ := tellRestart_eq skb
    (canFlushEchoSkb { d with restartTimer := false })
  exact ⟨stats, canStats, htell.trans (by rw [hflush])⟩

/-- A device that was started afresh. -/
theorem devInv_running (hup : s.isUp = true) (hx : s.xmit = .outside)
    (hqueue : s.dev.queueStopped = false) (hslot : s.dev.echoSkb = none)
    (hstate : s.dev.state = .errorActive) (hcarrier : s.dev.carrier = true)
    (htimer : s.dev.restartTimer = false) (hocc : s.dev.occupied = false)
    (hreset : s.dev.chip.resetMode = false) (hrequest : s.dev.chip.request = false)
    (hti : s.dev.chip.ti = none) (hoff : s.dev.chip.off = false) : DevInv s where
  idle _ := ⟨hslot, hrequest, hti, hx⟩
  inside hn := absurd hx hn
  before _ := hslot
  image := by
    rintro skb (hs | hs)
    · rw [hslot] at hs
      cases hs
    · rw [hx] at hs
      cases hs
  valid := by
    rintro skb (hs | hs)
    · rw [hslot] at hs
      cases hs
    · rw [hx] at hs
      cases hs
  single _ := hti
  quiet h := by
    rw [hreset] at h
    cases h
  shot h := by
    rw [hti] at h
    cases h
  stopped h := by
    rw [hstate] at h
    cases h
  off h := by
    rw [hoff] at h
    cases h
  down h := by
    rw [hup] at h
    cases h
  noCarrier h := by
    rw [hcarrier] at h
    cases h
  told _ _ h := by
    rw [hreset] at h
    cases h
  timer h := by
    rw [htimer] at h
    cases h
  recovers _ h := by
    rw [hcarrier] at h
    cases h
  busOff h := by
    rw [hstate] at h
    cases h
  wakes _ h := by
    rw [hqueue] at h
    cases h
  occupied := hocc

/-- A device that is down, its chip in reset mode. -/
theorem devInv_down (hup : s.isUp = false) (hx : s.xmit = .outside)
    (hslot : s.dev.echoSkb = none) (hstate : s.dev.state = .stopped)
    (htimer : s.dev.restartTimer = false) (hocc : s.dev.occupied = false)
    (hreset : s.dev.chip.resetMode = true) (hrequest : s.dev.chip.request = false)
    (hti : s.dev.chip.ti = none) (hoff : s.dev.chip.off = false)
    (hfifo : s.dev.chip.rxFifo = []) : DevInv s where
  idle _ := ⟨hslot, hrequest, hti, hx⟩
  inside hn := absurd hx hn
  before _ := hslot
  image := by
    rintro skb (hs | hs)
    · rw [hslot] at hs
      cases hs
    · rw [hx] at hs
      cases hs
  valid := by
    rintro skb (hs | hs)
    · rw [hslot] at hs
      cases hs
    · rw [hx] at hs
      cases hs
  single _ := hti
  quiet _ := ⟨hrequest, hti, hfifo⟩
  shot h := by
    rw [hti] at h
    cases h
  stopped _ := ⟨hreset, hoff⟩
  off h := by
    rw [hoff] at h
    cases h
  down _ := ⟨hreset, htimer, hslot⟩
  noCarrier _ := hreset
  told h := by
    rw [hup] at h
    cases h
  timer h := by
    rw [htimer] at h
    cases h
  recovers h := by
    rw [hup] at h
    cases h
  busOff h := by
    rw [hstate] at h
    cases h
  wakes h := by
    rw [hup] at h
    cases h
  occupied := hocc

/-- What a restart makes of the device. -/
theorem canRestart_eq (h : DevInv s) {m : ModReads} {skb : Bool} (hk : Keeps s (.restart m skb)) :
    ∃ stats canStats ier, canRestart m skb s.dev = .ok { s.dev with
      queueStopped := false, carrier := true, state := .errorActive, restartTimer := false
      echoSkb := none, stats := stats, canStats := canStats
      chip := { s.dev.chip.reset with resetMode := false, ier := ier }
      up := if skb then s.dev.up ++ [.error (errFrame.orId canErrRestarted)] else s.dev.up
      freed := s.dev.freed ++ s.dev.echoSkb.toList } := by
  obtain ⟨htimer, -, hr, hw⟩ := hk
  have hcarrier := (h.timer htimer).2
  obtain ⟨hno, hti, hfifo⟩ := h.quiet (h.noCarrier hcarrier)
  have hoff : s.dev.chip.off = false := by
    by_contra hne
    rw [(h.off (Bool.not_eq_false _ ▸ hne)).2.1] at hcarrier
    cases hcarrier
  have hrun : canRestart m skb s.dev = .ok { sja1000SetMode m
      (tellRestart skb (canFlushEchoSkb { s.dev with restartTimer := false })) with
      carrier := true } := if_neg (by rw [hcarrier]; nofun)
  obtain ⟨stats, canStats, hpre⟩ := flushTell_eq skb s.dev
  obtain ⟨ier, hstart⟩ := sja1000Start_eq hr hw
    (tellRestart skb (canFlushEchoSkb { s.dev with restartTimer := false })) (by
      rw [hpre]
      exact fun _ => ⟨h.noCarrier hcarrier, hno, hti, hoff, hfifo⟩)
  refine ⟨stats, canStats, ier, ?_⟩
  rw [hrun, sja1000SetMode, hstart, hpre]

theorem DevInv.restart (h : DevInv s) {m : ModReads} {skb : Bool} {t : CanNode}
    (hk : Keeps s (.restart m skb)) (he : canStep s (.restart m skb) = .ok t) : DevInv t := by
  obtain ⟨stats, canStats, ier, hrun⟩ := canRestart_eq h hk
  have hup := (h.timer hk.1).1
  have hx : s.xmit = .outside := hk.2.1
  obtain ⟨d, hd, hres⟩ := bind_ok_iff.mp he
  rw [hrun] at hd
  cases hd
  cases hres
  exact devInv_running hup hx rfl rfl rfl rfl rfl h.occupied rfl rfl rfl rfl

/-- A device that is down is opened, or stays down. -/
theorem sja1000Open_cases {m : ModReads} {d : Sja1000} (hr : Resets m.reset) (hw : Wakes m.normal)
    (hslot : d.echoSkb = none) (htimer : d.restartTimer = false) (bitrate : Nat) (irq : Bool) :
    (∃ err carrier, err ≠ 0 ∧ sja1000Open bitrate irq m d = (err, { d with
      state := .stopped, carrier := carrier
      chip := { d.chip with ier := irqOff }.reset })) ∨
    ∃ ier, sja1000Open bitrate irq m d = (0, { d with
      state := .errorActive, carrier := true, queueStopped := false
      chip := { d.chip.reset with resetMode := false, ier := ier } }) := by
  unfold sja1000Open
  rw [setResetMode_eq hr]
  by_cases hrate : bitrate = 0
  · exact .inl ⟨-22, d.carrier, by decide, if_pos hrate⟩
  · simp only [if_neg hrate]
    cases irq with
    | true =>
        obtain ⟨ier, hstart⟩ := sja1000Start_eq hr hw
          { d with
            state := .stopped, carrier := true, restartTimer := false
            chip := { d.chip with ier := irqOff }.reset } fun _ => ⟨rfl, rfl, rfl, rfl, rfl⟩
        refine .inr ⟨ier, ?_⟩
        simp only [if_true, hstart, htimer]
        rfl
    | false =>
        refine .inl ⟨-11, true, by decide, ?_⟩
        simp only [Bool.false_eq_true, if_false, canFlushEchoSkb, hslot, htimer]

theorem DevInv.opened (h : DevInv s) {bitrate : Nat} {irq : Bool} {m : ModReads} {t : CanNode}
    (hk : Keeps s (.open bitrate irq m)) (he : canStep s (.open bitrate irq m) = .ok t) :
    DevInv t := by
  obtain ⟨hup, hr, hw⟩ := hk
  obtain ⟨-, htimer, hslot⟩ := h.down hup
  have hx : s.xmit = .outside := by
    by_contra hne
    rw [(h.inside hne).1] at hup
    cases hup
  rw [← Except.ok.inj he]
  rcases sja1000Open_cases hr hw hslot htimer bitrate irq with
    ⟨err, carrier, herr, ho⟩ | ⟨ier, ho⟩
  · rw [ho]
    exact devInv_down (decide_eq_false herr) hx hslot rfl htimer h.occupied rfl rfl rfl rfl rfl
  · rw [ho]
    exact devInv_running rfl hx rfl hslot rfl rfl htimer h.occupied rfl rfl rfl rfl

theorem sja1000Close_eq {mods : Nat → Byte} (hr : Resets mods) (d : Sja1000) :
    ∃ stats, sja1000Close mods d = { d with
      queueStopped := true, state := .stopped, restartTimer := false, echoSkb := none
      stats := stats, freed := d.freed ++ d.echoSkb.toList
      chip := { d.chip with ier := irqOff }.reset } := by
  unfold sja1000Close
  rw [setResetMode_eq hr]
  exact canFlushEchoSkb_eq _

theorem DevInv.closed (h : DevInv s) {mods : Nat → Byte} {t : CanNode}
    (hk : Keeps s (.close mods)) (he : canStep s (.close mods) = .ok t) : DevInv t := by
  obtain ⟨-, hx, hr⟩ := hk
  obtain ⟨stats, hc⟩ := sja1000Close_eq hr s.dev
  rw [← Except.ok.inj he, hc]
  exact devInv_down rfl hx rfl rfl rfl h.occupied rfl rfl rfl rfl rfl

theorem DevInv.changelink (h : DevInv s) (mode : Option Ctrlmode) (restartMs : Option Nat) :
    DevInv { s with dev := (canChangelink s.isUp mode restartMs s.dev).2 } := by
  unfold canChangelink
  split
  · exact h
  · next hbusy =>
      by_cases hup : s.isUp = true
      · rw [hup, Bool.true_and, Bool.or_eq_true, not_or] at hbusy
        obtain ⟨hmode, hms⟩ := hbusy
        rw [Option.not_isSome_iff_eq_none.mp hmode, Option.not_isSome_iff_eq_none.mp hms]
        exact { h with }
      · have hti := (h.quiet (h.down (Bool.eq_false_iff.mpr hup)).1).2.1
        exact { h with
          shot := fun hs => by
            rw [show s.dev.chip.ti = some false from hs] at hti
            cases hti
          recovers := fun hu => absurd hu hup }

end Modes

/-- **Every step** keeps the device in order. -/
theorem DevInv.step {s t : CanNode} {op : CanOp} (h : DevInv s) (hk : Keeps s op)
    (he : canStep s op = .ok t) : DevInv t := by
  cases op with
  | xmit skb invalid => exact h.xmit hk he
  | xmitNext cloned =>
      rw [← Except.ok.inj he]
      exact h.xmitNext cloned
  | sent ok =>
      rw [← Except.ok.inj he]
      exact h.sent hk
  | arrive r => exact h.arrive hk he
  | busOff => exact h.goesOff hk he
  | interrupt turns =>
      obtain ⟨⟨n, d⟩, hd, hres⟩ := bind_ok_iff.mp he
      cases hres
      exact h.interrupt hk.1 (sja1000Interrupt_effect hk.2 h.isrReady hd)
  | restart m skb => exact h.restart hk he
  | restartNow =>
      rw [← Except.ok.inj he]
      exact h.restartNow hk
  | «open» bitrate irq m => exact h.opened hk he
  | close mods => exact h.closed hk he
  | changelink mode restartMs =>
      rw [← Except.ok.inj he]
      exact h.changelink mode restartMs

/-! ### The books -/

section Books

variable {s t : CanNode}

/-- Every skb is where it was, or what joined is new. -/
theorem Books.moved (h : Books s) (more : List Skb)
    (hsum : ∀ a, (t.dev.freed.count a + t.dev.echoes.count a + t.dev.echoSkb.toList.count a +
        t.xmit.skb.toList.count a) =
      s.dev.freed.count a + s.dev.echoes.count a + s.dev.echoSkb.toList.count a +
        s.xmit.skb.toList.count a + more.count a)
    (hoffered : t.offered = s.offered ++ more) :
    t.offered.Perm
      (t.dev.freed ++ t.dev.echoes ++ t.dev.echoSkb.toList ++ t.xmit.skb.toList) := by
  rw [List.perm_iff_count]
  intro a
  have hcount := h.custody.count_eq a
  have hmoved := hsum a
  simp only [List.count_append] at hcount ⊢
  rw [hoffered, List.count_append]
  omega

theorem Books.xmit (h : Books s) {skb : Skb} {invalid : Bool} (hk : Keeps s (.xmit skb invalid))
    (he : canStep s (.xmit skb invalid) = .ok t) : Books t := by
  have hx : s.xmit = .outside := hk.2.2.2.1
  rw [← Except.ok.inj he]
  cases invalid with
  | true =>
      refine { h with custody := h.moved [skb] (fun a => ?_) rfl }
      show (s.dev.freed ++ [skb]).count a + _ + _ + _ = _
      rw [List.count_append]
      show s.dev.freed.count a + [skb].count a + s.dev.echoes.count a +
        s.dev.echoSkb.toList.count a + s.xmit.skb.toList.count a = _
      omega
  | false =>
      refine { h with custody := h.moved [skb] (fun a => ?_) rfl }
      rw [hx]
      rfl

theorem Books.xmitNext (h : Books s) (hd : DevInv s) (cloned : Bool) :
    Books (xmitNext s cloned) := by
  unfold Can.xmitNext
  split
  · exact h
  · next skb hx =>
      -- the buffer is written only when nothing is on its way
      have hti := (hd.inside (by rw [hx]; nofun)).2.2
      refine { h with
        custody := h.moved [] (fun a => ?_) (List.append_nil _).symm
        txRest := ?_ }
      · rw [hx]
        rfl
      · have hrest := h.txRest
        rw [hti] at hrest
        show s.tx.rest = if s.dev.chip.ti = some true then _ else []
        rw [hti]
        exact hrest
  · next skb hx =>
      have hslot : s.dev.echoSkb = none := hd.before (by rw [hx]; rfl)
      rcases canPutEchoSkb_of_none hslot skb cloned with hput | hput
      · rw [hput]
        refine { h with
          custody := h.moved [] (fun a => ?_) (List.append_nil _).symm }
        rw [hx]
        show (s.dev.freed ++ [skb]).count a + s.dev.echoes.count a +
          s.dev.echoSkb.toList.count a + 0 = _ + [skb].count a + 0
        rw [List.count_append]
        omega
      · rw [hput]
        refine { h with
          custody := h.moved [] (fun a => ?_) (List.append_nil _).symm }
        rw [hx, hslot]
        rfl
  · next hx =>
      refine { h with
        custody := h.moved [] (fun a => ?_) (List.append_nil _).symm }
      rw [hx]
      rfl

theorem Books.chipSent (h : Books s) (hd : DevInv s) {ok : Bool} (hk : Keeps s (.sent ok)) :
    Books (chipSent s ok) := by
  have hrest := h.txRest
  rw [hd.single hk.1, if_neg nofun] at hrest
  cases ok with
  | true =>
      refine { h with tx := h.tx.arrive _, txRest := ?_ }
      show s.tx.rest ++ [s.dev.chip.txBuf.bus] = _
      rw [hrest]
      rfl
  | false => exact { h with txRest := hrest }

theorem Books.arrive (h : Books s) {r : Regs} (he : canStep s (.arrive r) = .ok t) : Books t := by
  rw [← Except.ok.inj he]
  refine { h with rx := h.rx.arrive _, rxRest := ?_ }
  show s.rx.rest ++ [r.bus] = (s.dev.chip.rxFifo ++ [r]).map Regs.bus
  rw [h.rxRest, List.map_append]
  rfl

/-- The chip has lost what it had. -/
theorem Books.resets (h : Books s) {d : Sja1000} (isUp : Bool) (hti : d.chip.ti = none)
    (hfifo : d.chip.rxFifo = []) (hechoes : d.echoes = s.dev.echoes)
    (hreceived : d.received = s.dev.received)
    (hskbs : d.freed ++ d.echoSkb.toList = s.dev.freed ++ s.dev.echoSkb.toList) :
    Books { s.resets d with isUp := isUp } := by
  refine {
    custody := h.moved [] (fun a => ?_) (List.append_nil _).symm
    tx := ?_, txOut := ?_, txRest := ?_, sent := ?_, rx := ?_, rxOut := ?_, rxRest := ?_ }
  · have hcount := congrArg (List.count a) hskbs
    rw [List.count_append, List.count_append] at hcount
    show d.freed.count a + d.echoes.count a + d.echoSkb.toList.count a +
      s.xmit.skb.toList.count a = _ + [].count a
    rw [hechoes, List.count_nil]
    omega
  · show Accounted _ _ (if s.dev.chip.ti = some true then s.tx.drop else s.tx)
    split
    · exact h.tx.drop
    · exact h.tx
  · show (if s.dev.chip.ti = some true then s.tx.drop else s.tx).out = d.echoes
    rw [hechoes]
    split <;> exact h.txOut
  · show (if s.dev.chip.ti = some true then s.tx.drop else s.tx).rest =
      if d.chip.ti = some true then [d.chip.txBuf.bus] else []
    have hnone : ¬ d.chip.ti = some true := by rw [hti]; nofun
    have hrest := h.txRest
    rw [if_neg hnone]
    split
    · rfl
    · next hno => rwa [if_neg hno] at hrest
  · show ∀ r ∈ (if s.dev.chip.ti = some true then s.tx.drop else s.tx).readings, _
    split <;> exact h.sent
  · show Accounted _ _ (if s.dev.chip.rxFifo.isEmpty then s.rx else s.rx.drop)
    split
    · exact h.rx
    · exact h.rx.drop
  · show (if s.dev.chip.rxFifo.isEmpty then s.rx else s.rx.drop).out = d.received
    rw [hreceived]
    split <;> exact h.rxOut
  · show (if s.dev.chip.rxFifo.isEmpty then s.rx else s.rx.drop).rest = d.chip.rxFifo.map _
    rw [hfifo]
    split
    · next hempty => rw [h.rxRest, List.isEmpty_iff.mp hempty]
    · rfl

/-- The transmission that an interrupt reports is read with what waits to be looped back. -/
theorem Books.readsTx (h : Books s) (hd : DevInv s) {d : Sja1000} (he : Effect s.dev d) :
    s.offered.Perm (d.freed ++ d.echoes ++ d.echoSkb.toList ++ s.xmit.skb.toList) ∧
      Accounted Sent.bus Sent.echo (s.reads d).tx ∧ (s.reads d).tx.out = d.echoes ∧
      (s.reads d).tx.rest = (if d.chip.ti = some true then [d.chip.txBuf.bus] else []) ∧
      ∀ r ∈ (s.reads d).tx.readings, ∀ skb, r.skb = some skb →
        skb.frame.bus = r.bus ∧ skb.frame.Valid := by
  have hreads : (s.reads d).tx = s.tx.read
      (if s.dev.chip.ti = some true ∧ d.chip.ti = none then
        [⟨s.dev.chip.txBuf.bus, s.dev.echoSkb⟩] else []) d.echoes := rfl
  have hrest := h.txRest
  rw [hreads]
  cases he.tx with
  | unchanged ti slot echoes freed queue =>
      have hno : ¬ (s.dev.chip.ti = some true ∧ d.chip.ti = none) := by
        rintro ⟨h1, h2⟩
        rw [ti, h1] at h2
        cases h2
      rw [if_neg hno, ti, he.apart.txBuf, slot, freed, echoes]
      refine ⟨h.custody, h.tx.read rfl ?_, rfl, hrest, ?_⟩
      · rw [← h.txOut, List.flatMap_nil, List.append_nil]
      · show ∀ r ∈ s.tx.readings ++ [], _
        rw [List.append_nil]
        exact h.sent
  | ended ok was ti slot echoes freed queue =>
      have hti : ¬ d.chip.ti = some true := by rw [ti]; nofun
      rw [if_neg hti]
      cases ok with
      | true =>
          rw [if_pos was] at hrest
          rw [if_pos ⟨was, ti⟩, slot, freed, echoes]
          refine ⟨?_, h.tx.read ?_ ?_, rfl, ?_, ?_⟩
          · rw [if_pos rfl, if_pos rfl, ← List.append_assoc]
            simpa using h.custody
          · rw [hrest]
            rfl
          · rw [h.txOut, if_pos rfl]
            simp [Sent.echo]
          · show s.tx.rest.drop 1 = []
            rw [hrest]
            rfl
          · show ∀ r ∈ s.tx.readings ++ [_], _
            intro r hr skb hskb
            rw [List.mem_append, List.mem_singleton] at hr
            rcases hr with hr | hr
            · exact h.sent r hr skb hskb
            · rw [hr] at hskb ⊢
              exact ⟨(hd.image skb (.inl hskb)).symm, hd.valid skb (.inl hskb)⟩
      | false =>
          have hno : ¬ (s.dev.chip.ti = some true ∧ d.chip.ti = none) := by
            rw [was]
            nofun
          rw [if_neg (by rw [was]; nofun)] at hrest
          rw [if_neg hno, slot, freed, echoes]
          refine ⟨?_, h.tx.read rfl ?_, rfl, hrest, ?_⟩
          · rw [if_neg Bool.false_ne_true, if_neg Bool.false_ne_true]
            refine h.custody.trans ?_
            rw [List.perm_iff_count]
            intro a
            simp only [List.count_append, Option.toList_none, List.count_nil]
            omega
          · rw [← h.txOut, if_neg Bool.false_ne_true, List.flatMap_nil, List.append_nil]
          · show ∀ r ∈ s.tx.readings ++ [], _
            rw [List.append_nil]
            exact h.sent

/-- An interrupt reads what it takes from the chip. -/
theorem Books.interrupt (h : Books s) (hd : DevInv s) {d : Sja1000} (he : Effect s.dev d) :
    Books (s.reads d) := by
  obtain ⟨n, hn, hfifo, hreceived⟩ := he.rx
  have hlen : s.dev.chip.rxFifo.length - d.chip.rxFifo.length = n := by
    rw [hfifo, List.length_drop]
    omega
  have htake : (s.dev.chip.rxFifo.take n).length = n := by
    rw [List.length_take, Nat.min_eq_left hn]
  have hframes : ((s.dev.chip.rxFifo.take n).map Regs.bus).flatMap (fun b => [BusFrame.frame b]) =
      (s.dev.chip.rxFifo.take n).map rxFrame := by
    rw [List.flatMap_map, List.map_eq_flatMap]
    congr 1
    funext r
    rw [rxFrame_eq]
  have hrx : Accounted id (fun b => [BusFrame.frame b])
      (s.rx.read ((s.dev.chip.rxFifo.take n).map Regs.bus) d.received) := by
    apply h.rx.read
    · rw [List.map_id, h.rxRest, List.length_map, htake, List.map_take]
    · rw [hreceived, hframes, h.rxOut]
  have hrest : (s.rx.read ((s.dev.chip.rxFifo.take n).map Regs.bus) d.received).rest =
      d.chip.rxFifo.map Regs.bus := by
    show s.rx.rest.drop ((s.dev.chip.rxFifo.take n).map Regs.bus).length = _
    rw [List.length_map, htake, h.rxRest, hfifo, List.map_drop]
  obtain ⟨hcustody, htx, hout, htxRest, hsent⟩ := h.readsTx hd he
  exact ⟨hcustody, htx, hout, htxRest, hsent, by rw [← hlen] at hrx; exact hrx, rfl,
    by rw [← hlen] at hrest; exact hrest⟩

theorem Books.step {op : CanOp} (h : Books s) (hd : DevInv s) (hk : Keeps s op)
    (he : canStep s op = .ok t) : Books t := by
  cases op with
  | xmit skb invalid => exact h.xmit hk he
  | xmitNext cloned =>
      rw [← Except.ok.inj he]
      exact h.xmitNext hd cloned
  | sent ok =>
      rw [← Except.ok.inj he]
      exact h.chipSent hd hk
  | arrive r => exact h.arrive he
  | busOff =>
      rw [← Except.ok.inj he]
      exact h.resets s.isUp rfl rfl rfl rfl rfl
  | interrupt turns =>
      obtain ⟨⟨n, d⟩, hrun, hres⟩ := bind_ok_iff.mp he
      cases hres
      exact h.interrupt hd (sja1000Interrupt_effect hk.2 hd.isrReady hrun)
  | restart m skb =>
      obtain ⟨stats, canStats, ier, hrun⟩ := canRestart_eq hd hk
      obtain ⟨d, hdev, hres⟩ := bind_ok_iff.mp he
      rw [hrun] at hdev
      cases hdev
      cases hres
      refine h.resets s.isUp rfl rfl ?_ ?_ (List.append_nil _)
      · cases skb with
        | true => exact echoes_append_error _ _
        | false => rfl
      · cases skb with
        | true => exact received_append_error _ _
        | false => rfl
  | restartNow =>
      rw [← Except.ok.inj he]
      show Books { s with dev := (canRestartNow s.dev).2 }
      unfold canRestartNow
      split
      · exact h
      · split
        · exact h
        · exact { h with }
  | «open» bitrate irq m =>
      obtain ⟨hup, hr, hw⟩ := hk
      obtain ⟨-, htimer, hslot⟩ := hd.down hup
      rw [← Except.ok.inj he]
      rcases sja1000Open_cases hr hw hslot htimer bitrate irq with
        ⟨err, carrier, -, ho⟩ | ⟨ier, ho⟩
      · rw [ho]
        exact h.resets _ rfl rfl rfl rfl rfl
      · rw [ho]
        exact h.resets _ rfl rfl rfl rfl rfl
  | close mods =>
      obtain ⟨stats, hc⟩ := sja1000Close_eq hk.2.2 s.dev
      rw [← Except.ok.inj he, hc]
      exact h.resets false rfl rfl rfl rfl (List.append_nil _)
  | changelink mode restartMs =>
      rw [← Except.ok.inj he]
      show Books { s with dev := (canChangelink s.isUp mode restartMs s.dev).2 }
      unfold canChangelink
      split
      · exact h
      · exact { h with }

end Books

/-! ## Whole runs -/

/-- The node is sound: there is room for each echo, the queue is stopped only as long as
there is something to wake it, and a restart finds the carrier off; each skb is passed on,
freed or on its way, once; what is looped back was sent, in this order, and what is received
arrived so; and unless the chip was reset with something in it nothing that was sent or
arrived is missing. -/
structure CanNode.Sound (s : CanNode) : Prop where
  occupied : s.dev.occupied = false
  awake : s.dev.queueStopped = false →
    s.dev.echoSkb = none ∧ s.dev.chip.request = false ∧ s.dev.chip.ti = none
  wakes : s.isUp = true → s.dev.carrier = true → s.dev.queueStopped = true →
    s.xmit = .outside →
    s.dev.chip.request = true ∨ s.dev.chip.ti.isSome = true ∨ s.dev.chip.off = true
  recovers : s.isUp = true → s.dev.carrier = false → s.dev.restartMs ≠ 0 →
    s.dev.restartTimer = true
  restarts : s.dev.restartTimer = true → s.dev.carrier = false
  custody : s.offered.Perm
    (s.dev.freed ++ s.dev.echoes ++ s.dev.echoSkb.toList ++ s.xmit.skb.toList)
  echoes : (s.dev.echoes.map fun skb => skb.frame.canonical).Sublist
    (s.tx.arrived.map BusFrame.frame)
  reported : s.tx.reset = false → s.tx.readings.map Sent.bus ++ s.tx.rest = s.tx.arrived
  received : s.dev.received.Sublist (s.rx.arrived.map BusFrame.frame)
  whole : s.rx.reset = false →
    s.dev.received ++ s.dev.chip.rxFifo.map rxFrame = s.rx.arrived.map BusFrame.frame

/-- The echoes are some of the frames they are echoes of. -/
theorem echoes_sublist {rs : List Sent}
    (h : ∀ r ∈ rs, ∀ skb, r.skb = some skb → skb.frame.bus = r.bus ∧ skb.frame.Valid) :
    ((rs.flatMap Sent.echo).map fun skb => skb.frame.canonical).Sublist
      ((rs.map Sent.bus).map BusFrame.frame) := by
  induction rs with
  | nil => exact List.Sublist.slnil
  | cons r rs ih =>
      have hrest := ih fun q hq => h q (List.mem_cons_of_mem _ hq)
      rw [List.flatMap_cons, List.map_append, List.map_cons, List.map_cons]
      cases hskb : r.skb with
      | none =>
          rw [Sent.echo, hskb]
          exact hrest.cons _
      | some skb =>
          obtain ⟨hbus, hvalid⟩ := h r List.mem_cons_self skb hskb
          rw [Sent.echo, hskb, ← hbus, bus_frame_canonical hvalid]
          exact hrest.cons_cons _

theorem Books.sound {s : CanNode} (h : Books s) (hd : DevInv s) : s.Sound := by
  have hrxFrame : s.rx.readings.flatMap (fun b => [BusFrame.frame b]) =
      s.rx.readings.map BusFrame.frame := List.map_eq_flatMap.symm
  have hreceived : s.dev.received = s.rx.readings.map BusFrame.frame := by
    rw [← h.rxOut, h.rx.out_eq, hrxFrame]
  have hfifo : s.dev.chip.rxFifo.map rxFrame = s.rx.rest.map BusFrame.frame := by
    rw [h.rxRest, List.map_map]
    congr 1
    funext r
    exact rxFrame_eq r
  refine {
    occupied := hd.occupied, awake := fun hq => ?_, wakes := fun hup hc hq hx => ?_
    recovers := hd.recovers, restarts := fun ht => (hd.timer ht).2, custody := h.custody
    echoes := ?_, reported := h.tx.whole
    received := ?_, whole := fun hr => ?_ }
  · obtain ⟨hslot, hrequest, hti, -⟩ := hd.idle hq
    exact ⟨hslot, hrequest, hti⟩
  · rcases hd.wakes hup hq hx with hrequest | hti | hreset
    · exact .inl hrequest
    · exact .inr (.inl hti)
    · exact .inr (.inr (hd.told hup hc hreset))
  · rw [← h.txOut, h.tx.out_eq]
    have hread : (s.tx.readings.map Sent.bus).Sublist s.tx.arrived :=
      (List.sublist_append_left _ _).trans h.tx.inOrder
    exact (echoes_sublist h.sent).trans (hread.map _)
  · rw [hreceived]
    have hread : s.rx.readings.Sublist s.rx.arrived := by
      have := (List.sublist_append_left _ _).trans h.rx.inOrder
      rwa [List.map_id] at this
    exact hread.map _
  · have hall := h.rx.whole hr
    rw [List.map_id] at hall
    rw [hreceived, hfifo, ← List.map_append, hall]

theorem devInv_registered (txBuf : Regs) : DevInv (.registered txBuf) :=
  devInv_down rfl rfl rfl rfl rfl rfl rfl rfl rfl rfl rfl

theorem books_registered (txBuf : Regs) : Books (.registered txBuf) :=
  ⟨List.Perm.refl _, accounted_start, rfl, rfl, nofun, accounted_start, rfl, rfl⟩

/-- From registration on, in every order of transmissions, interrupts, errors, restarts and
changes of the link. -/
theorem node_sound (txBuf : Regs) (ops : List CanOp)
    (hg : Guarded canStep Keeps (.registered txBuf) ops) :
    Always canStep CanNode.Sound (.registered txBuf) ops := by
  have hboth : Always canStep (fun s => DevInv s ∧ Books s) (.registered txBuf) ops :=
    always_of_guarded
      (fun s op t hs hk he => ⟨hs.1.step hk he, hs.2.step hs.1 hk he⟩)
      ⟨devInv_registered txBuf, books_registered txBuf⟩ hg
  exact hboth.mono fun s hs => hs.2.sound hs.1

/-- The chip does as it is told at the second read. -/
def prompt : ModReads where
  reset k := if k = 0 then 0x00 else modRm
  normal k := if k = 0 then modRm else 0x00

/-- A frame is sent and looped back. -/
def oneSent : List CanOp :=
  [.open 500000 true prompt,
    .xmit ⟨⟨0x123, 2, #v[0xAB, 0xCD, 0, 0, 0, 0, 0, 0]⟩, true, true⟩ false,
    .xmitNext true, .xmitNext true, .xmitNext true, .sent true,
    .interrupt [⟨irqTi, srTcs, 0, 2, [], true, 0, 0, 0, 0⟩]]

theorem node_sound_oneSent :
    Always canStep CanNode.Sound (.registered fun _ => 0) oneSent := by
  apply node_sound
  refine guarded_cons.mpr ⟨⟨rfl, ⟨1, by decide, by decide⟩, 1, by decide, by decide⟩,
    fun s hs => ?_⟩
  cases hs
  refine guarded_cons.mpr ⟨⟨rfl, rfl, rfl, rfl, fun _ => by decide⟩, fun s hs => ?_⟩
  cases hs
  refine guarded_cons.mpr ⟨nofun, fun s hs => ?_⟩
  cases hs
  refine guarded_cons.mpr ⟨nofun, fun s hs => ?_⟩
  cases hs
  refine guarded_cons.mpr ⟨nofun, fun s hs => ?_⟩
  cases hs
  refine guarded_cons.mpr ⟨⟨rfl, nofun⟩, fun s hs => ?_⟩
  cases hs
  refine guarded_cons.mpr ⟨⟨rfl, ?_, fun _ _ _ _ => trivial⟩, fun s _ => guarded_nil⟩
  exact ⟨fun h => absurd h (by decide), fun _ => ⟨rfl, by decide, by decide, nofun⟩,
    fun h => absurd h (by decide), fun h => absurd h (by decide)⟩

end MoxaDrivers.Can

import MoxaDrivers.Lib.Machine
import MoxaDrivers.Can.Sja1000Codec

/-!
# The interrupt of the SJA1000

What `sja1000_interrupt` does with whatever the chip reports, as long as it reports what
has happened to it: of the FIFO it passes on the first frames, the transmission that is
over it disposes of, and a bus-off takes the link down. Everything else it leaves alone.
-/

namespace MoxaDrivers.Can

open MoxaDrivers.Bits MoxaDrivers.Machine Sja1000

/-! ## What is passed on -/

def echoOf : Upward → Option Skb
  | .echo skb => some skb
  | _ => none

def receivedOf : Upward → Option CanFrame
  | .received cf => some cf
  | _ => none

def Sja1000.echoes (s : Sja1000) : List Skb := s.up.filterMap echoOf

def Sja1000.received (s : Sja1000) : List CanFrame := s.up.filterMap receivedOf

/-! ## What the chip reports -/

/-- The receive loop finds a frame where the status promises one. -/
def RxTrue : List RxTurn → Byte → List Regs → Prop
  | [], status, fifo => test status srRbs = true → fifo ≠ []
  | r :: rs, status, fifo => test status srRbs = true →
      fifo ≠ [] ∧ (absent r.status r.mod = false →
        RxTrue rs r.status (if r.skb then fifo.tail else fifo))

/-- What the chip reports in a turn, the `n`-th, is what has happened to it, and the turn
loses none of it: it is one of the 20, the controller is there, and for the frame that
tells of bus-off there is an skb. -/
structure TurnTrue (t : IsrTurn) (n : Nat) (d : Sja1000) : Prop where
  rx : RxTrue t.rxs t.status d.chip.rxFifo
  ti : test t.isrc irqTi = true → d.chip.ti.isSome ∧ n < sja1000MaxIrq ∧
    absent t.status t.mod = false ∧
    (d.ctrlmode.oneShot = true → d.chip.ti = some (test t.status srTcs))
  off : test t.isrc irqEi = true → d.chip.off = true → n < sja1000MaxIrq ∧
    absent t.status t.mod = false ∧ test t.status srBs = true ∧ t.errSkb = true
  notOff : test t.isrc irqEi = true → d.chip.off = false →
    test t.status srBs = false ∧ ∀ r ∈ t.rxs, test r.status srBs = false

/-- All turns of an interrupt, each as it finds the device. -/
def IsrTrue : List IsrTurn → Nat → Sja1000 → Prop
  | [], _, _ => True
  | t :: ts, n, d => TurnTrue t n d ∧
      ∀ d', t.isrc ≠ 0 → n < sja1000MaxIrq →
        isrTurn t (readIr t.isrc d) = .ok (true, d') → IsrTrue ts (n + 1) d'

/-! ## What a turn of the interrupt does -/

/-- Only counters differ. -/
def Counts (s t : Sja1000) : Prop :=
  ∃ stats canStats, t = { s with stats := stats, canStats := canStats }

theorem Counts.refl (s : Sja1000) : Counts s s := ⟨s.stats, s.canStats, rfl⟩

theorem Counts.trans {s t u : Sja1000} (h : Counts s t) (h' : Counts t u) : Counts s u := by
  obtain ⟨stats, canStats, rfl⟩ := h
  obtain ⟨stats', canStats', rfl⟩ := h'
  exact ⟨stats', canStats', rfl⟩

/-- The bus-off is told of. -/
def tellsOff (t : IsrTurn) : Bool := test t.isrc irqEi && test t.status srBs

/-- The link after the error interrupt. -/
def linkAfter (off : Bool) (s : Sja1000) : Sja1000 :=
  { s with
    carrier := !off && s.carrier
    restartTimer := s.restartTimer || (off && s.restartMs != 0) }

/-- A stage of the error interrupt: the link may be taken down, and the state is one that
an error can lead to. -/
structure ErrStage (s : Sja1000) (off : Bool) (w : ErrWork) : Prop where
  counts : Counts (linkAfter off s) w.s
  busOff : w.state = .busOff → off = true ∨ s.state = .busOff
  stopped : w.state = .stopped → s.state = .stopped

theorem errStage_start (s : Sja1000) (cf : CanFrame) : ErrStage s false ⟨s, cf, s.state⟩ := by
  refine ⟨⟨s.stats, s.canStats, ?_⟩, .inr, id⟩
  simp [linkAfter]

section ErrStage

variable {s : Sja1000} {off : Bool} {w : ErrWork}

theorem ErrStage.count (h : ErrStage s off w) {v : ErrWork} (hs : Counts w.s v.s)
    (hstate : v.state = w.state) : ErrStage s off v :=
  ⟨h.counts.trans hs, fun hv => h.busOff (hstate.symm.trans hv),
    fun hv => h.stopped (hstate.symm.trans hv)⟩

theorem ErrStage.enter (h : ErrStage s off w) {v : ErrWork} (hs : v.s = w.s)
    (hoff : v.state ≠ .busOff) (hstopped : v.state ≠ .stopped) : ErrStage s off v :=
  ⟨hs ▸ h.counts, fun hv => absurd hv hoff, fun hv => absurd hv hstopped⟩

/-- A stage that is passed through on a condition. -/
theorem ErrStage.ite (h : ErrStage s off w) {c : Bool} {v : ErrWork} (hv : ErrStage s off v) :
    ErrStage s off (if c then v else w) := by
  cases c with
  | true => exact hv
  | false => exact h

theorem ErrStage.warning (h : ErrStage s false w) (status : Byte) :
    ErrStage s (test status srBs) (errWarning status w) := by
  unfold errWarning
  cases test status srBs with
  | true =>
      obtain ⟨stats, canStats, hw⟩ := h.counts
      refine ⟨⟨stats, { canStats with busOff := canStats.busOff + 1 }, ?_⟩, fun _ => .inl rfl,
        nofun⟩
      simp [hw, canBusOff, linkAfter]
  | false =>
      cases test status srEs with
      | true => exact h.enter rfl nofun nofun
      | false => exact h.enter rfl nofun nofun

theorem ErrStage.passive (h : ErrStage s off w) (status : Byte) :
    ErrStage s off (errPassive status w) := by
  unfold errPassive
  cases test status srEs with
  | true => exact h.enter rfl nofun nofun
  | false => exact h.enter rfl nofun nofun

theorem ErrStage.counters (h : ErrStage s off w) (rxerr txerr : Byte) :
    ErrStage s off (errCounters rxerr txerr w) := by
  by_cases hwarning : w.state ≠ w.s.state ∧ w.state = .errorWarning
  · simp only [errCounters, if_pos hwarning]
    exact h.count ⟨_, _, rfl⟩ rfl
  · by_cases hpassive : w.state ≠ w.s.state ∧ w.state = .errorPassive
    · simp only [errCounters, if_neg hwarning, if_pos hpassive]
      exact h.count ⟨_, _, rfl⟩ rfl
    · simp only [errCounters, if_neg hwarning, if_neg hpassive]
      exact h

end ErrStage

/-- The error interrupt. -/
theorem sja1000Err_stage {t : IsrTurn} {s d : Sja1000} (h : sja1000Err t s = some d) :
    ∃ w : ErrWork, ErrStage s (tellsOff t) w ∧
      d = { w.s with state := w.state }.netifRx (.error w.cf) w.cf.canDlc := by
  unfold sja1000Err at h
  split at h
  · have h0 := errStage_start s errFrame
    have h1 := h0.ite (c := test t.isrc irqDoi)
      (h0.count (v := errOverrun ⟨s, errFrame, s.state⟩) ⟨_, _, rfl⟩ rfl)
    set w1 := if test t.isrc irqDoi then errOverrun ⟨s, errFrame, s.state⟩
      else ⟨s, errFrame, s.state⟩
    have h2 : ErrStage s (tellsOff t)
        (if test t.isrc irqEi then errWarning t.status w1 else w1) := by
      unfold tellsOff
      cases test t.isrc irqEi with
      | true => exact h1.warning t.status
      | false => exact h1
    set w2 := if test t.isrc irqEi then errWarning t.status w1 else w1
    have h3 := h2.ite (c := test t.isrc irqBei)
      (h2.count (v := errBus t.ecc w2) ⟨_, _, rfl⟩ rfl)
    set w3 := if test t.isrc irqBei then errBus t.ecc w2 else w2
    have h4 := h3.ite (c := test t.isrc irqEpi) (h3.passive t.status)
    set w4 := if test t.isrc irqEpi then errPassive t.status w3 else w3
    have h5 := h4.ite (c := test t.isrc irqAli)
      (h4.count (v := errArbitration t.alc w4) ⟨_, _, rfl⟩ rfl)
    exact ⟨_, h5.counters t.rxerr t.txerr, (Option.some.inj h).symm⟩
  · cases h

/-- The first `n` frames of the FIFO are passed on. -/
structure Passes (s d : Sja1000) (n : Nat) : Prop where
  le : n ≤ s.chip.rxFifo.length
  eq : ∃ stats, d = { s with
    stats := stats
    chip := { s.chip with rxFifo := s.chip.rxFifo.drop n }
    up := s.up ++ (s.chip.rxFifo.take n).map fun r => .received (rxFrame r) }

theorem passes_zero (s : Sja1000) : Passes s s 0 := ⟨Nat.zero_le _, s.stats, by simp⟩

theorem passes_one {s : Sja1000} (h : s.chip.rxFifo ≠ []) : Passes s (sja1000Rx true s) 1 := by
  cases hfifo : s.chip.rxFifo with
  | nil => exact absurd hfifo h
  | cons r rest =>
      refine ⟨by simp [hfifo], { s.stats with
        rxPackets := s.stats.rxPackets + 1
        rxBytes := s.stats.rxBytes + (rxFrame r).canDlc.setWidth 64 }, ?_⟩
      simp only [sja1000Rx, if_true, netifRx, hfifo, List.headD_cons, List.tail_cons,
        List.drop_succ_cons, List.drop_zero, List.take_succ_cons, List.take_zero, List.map_cons,
        List.map_nil]

theorem Passes.trans {s d e : Sja1000} {n m : Nat} (h : Passes s d n) (h' : Passes d e m) :
    Passes s e (n + m) := by
  obtain ⟨hle, stats, rfl⟩ := h
  obtain ⟨hle', stats', rfl⟩ := h'
  have hlen : m ≤ (s.chip.rxFifo.drop n).length := hle'
  rw [List.length_drop] at hlen
  refine ⟨by omega, stats', ?_⟩
  simp only [List.drop_drop, List.append_assoc, ← List.map_append, List.take_add]

/-- The receive loop takes frames as long as there are any. -/
theorem rxLoop_passes {rs : List RxTurn} {status : Byte} {s d : Sja1000} {last : Byte}
    {gone : Bool} (htrue : RxTrue rs status s.chip.rxFifo)
    (h : rxLoop rs status s = .ok (last, gone, d)) : ∃ n, Passes s d n := by
  induction rs generalizing status s with
  | nil =>
      simp only [rxLoop] at h
      split at h
      · cases h
      · cases h
        exact ⟨0, passes_zero _⟩
  | cons r rs ih =>
      simp only [rxLoop] at h
      split at h
      · next hrbs =>
          obtain ⟨hne, hrest⟩ := htrue hrbs
          have hone : ∃ n, Passes s (sja1000Rx r.skb s) n ∧
              (sja1000Rx r.skb s).chip.rxFifo = if r.skb then s.chip.rxFifo.tail
                else s.chip.rxFifo := by
            cases r.skb with
            | true => exact ⟨1, passes_one hne, rfl⟩
            | false => exact ⟨0, passes_zero s, rfl⟩
          obtain ⟨n, hpass, hfifo⟩ := hone
          cases hgone : absent r.status r.mod with
          | true =>
              rw [if_pos hgone] at h
              cases h
              exact ⟨n, hpass⟩
          | false =>
              rw [hgone, if_neg Bool.false_ne_true] at h
              obtain ⟨m, hmore⟩ := ih (hfifo ▸ hrest hgone) h
              exact ⟨n + m, hpass.trans hmore⟩
      · cases h
        exact ⟨0, passes_zero _⟩

/-- The status after the receive loop is one of those that were read. -/
theorem rxLoop_status {rs : List RxTurn} {status : Byte} {s d : Sja1000} {last : Byte}
    {gone : Bool} (h : rxLoop rs status s = .ok (last, gone, d)) :
    last = status ∨ ∃ r ∈ rs, last = r.status := by
  induction rs generalizing status s with
  | nil =>
      simp only [rxLoop] at h
      split at h
      · cases h
      · cases h
        exact .inl rfl
  | cons r rs ih =>
      simp only [rxLoop] at h
      split at h
      · split at h
        · cases h
          exact .inr ⟨r, List.mem_cons_self, rfl⟩
        · rcases ih h with hlast | ⟨q, hq, hlast⟩
          · exact .inr ⟨r, List.mem_cons_self, hlast⟩
          · exact .inr ⟨q, List.mem_cons_of_mem _ hq, hlast⟩
      · cases h
        exact .inl rfl

/-- What becomes of the transmission that an interrupt reports. -/
inductive TxEffect (s d : Sja1000) : Prop where
  | unchanged (ti : d.chip.ti = s.chip.ti) (slot : d.echoSkb = s.echoSkb)
      (echoes : d.echoes = s.echoes) (freed : d.freed = s.freed)
      (queue : d.queueStopped = s.queueStopped)
  | ended (ok : Bool) (was : s.chip.ti = some ok) (ti : d.chip.ti = none) (slot : d.echoSkb = none)
      (echoes : d.echoes = if ok then s.echoes ++ s.echoSkb.toList else s.echoes)
      (freed : d.freed = if ok then s.freed else s.freed ++ s.echoSkb.toList)
      (queue : d.queueStopped = false)

/-- What becomes of the link. -/
inductive LinkEffect (s d : Sja1000) : Prop where
  | unchanged (off : d.chip.off = s.chip.off) (carrier : d.carrier = s.carrier)
      (timer : d.restartTimer = s.restartTimer)
      (state : d.state = .busOff → s.state = .busOff)
  | down (was : s.chip.off = true) (off : d.chip.off = false) (carrier : d.carrier = false)
      (timer : d.restartTimer = (s.restartTimer || s.restartMs != 0))

/-- What an interrupt leaves alone. -/
structure Apart (s d : Sja1000) : Prop where
  resetMode : d.chip.resetMode = s.chip.resetMode
  request : d.chip.request = s.chip.request
  txBuf : d.chip.txBuf = s.chip.txBuf
  ctrlmode : d.ctrlmode = s.ctrlmode
  restartMs : d.restartMs = s.restartMs
  occupied : d.occupied = s.occupied

/-- Frames are passed on in the order of the FIFO. -/
def PassesOn (s d : Sja1000) : Prop :=
  ∃ n ≤ s.chip.rxFifo.length, d.chip.rxFifo = s.chip.rxFifo.drop n ∧
    d.received = s.received ++ (s.chip.rxFifo.take n).map rxFrame

structure Effect (s d : Sja1000) : Prop where
  apart : Apart s d
  rx : PassesOn s d
  tx : TxEffect s d
  link : LinkEffect s d
  stopped : d.state = .stopped → s.state = .stopped

theorem passesOn_of_eq {s d : Sja1000} (hfifo : d.chip.rxFifo = s.chip.rxFifo)
    (hrec : d.received = s.received) : PassesOn s d :=
  ⟨0, Nat.zero_le _, hfifo, by simp [hrec]⟩

theorem Effect.refl (s : Sja1000) : Effect s s :=
  ⟨⟨rfl, rfl, rfl, rfl, rfl, rfl⟩, passesOn_of_eq rfl rfl,
    .unchanged rfl rfl rfl rfl rfl, .unchanged rfl rfl rfl id, id⟩

section Effect

variable {s d e : Sja1000}

theorem Apart.trans (h : Apart s d) (h' : Apart d e) : Apart s e :=
  ⟨h'.resetMode.trans h.resetMode, h'.request.trans h.request, h'.txBuf.trans h.txBuf,
    h'.ctrlmode.trans h.ctrlmode, h'.restartMs.trans h.restartMs, h'.occupied.trans h.occupied⟩

theorem TxEffect.trans (h : TxEffect s d) (h' : TxEffect d e) : TxEffect s e := by
  cases h with
  | unchanged ti slot echoes freed queue =>
      cases h' with
      | unchanged ti' slot' echoes' freed' queue' =>
          exact .unchanged (ti'.trans ti) (slot'.trans slot) (echoes'.trans echoes)
            (freed'.trans freed) (queue'.trans queue)
      | ended ok was ti' slot' echoes' freed' queue' =>
          rw [slot] at echoes' freed'
          rw [echoes] at echoes'
          rw [freed] at freed'
          exact .ended ok (ti.symm.trans was) ti' slot' echoes' freed' queue'
  | ended ok was ti slot echoes freed queue =>
      cases h' with
      | unchanged ti' slot' echoes' freed' queue' =>
          exact .ended ok was (ti'.trans ti) (slot'.trans slot) (echoes'.trans echoes)
            (freed'.trans freed) (queue'.trans queue)
      | ended ok' was' =>
          rw [ti] at was'
          cases was'

theorem LinkEffect.trans (h : LinkEffect s d) (h' : LinkEffect d e)
    (hms : d.restartMs = s.restartMs) : LinkEffect s e := by
  cases h with
  | unchanged off carrier timer state =>
      cases h' with
      | unchanged off' carrier' timer' state' =>
          exact .unchanged (off'.trans off) (carrier'.trans carrier) (timer'.trans timer)
            fun he => state (state' he)
      | down was off' carrier' timer' =>
          rw [timer, hms] at timer'
          exact .down (off.symm.trans was) off' carrier' timer'
  | down was off carrier timer =>
      cases h' with
      | unchanged off' carrier' timer' state' =>
          exact .down was (off'.trans off) (carrier'.trans carrier) (timer'.trans timer)
      | down was' =>
          rw [off] at was'
          cases was'

theorem PassesOn.trans (h : PassesOn s d) (h' : PassesOn d e) : PassesOn s e := by
  obtain ⟨n, hn, hfifo, hrec⟩ := h
  obtain ⟨m, hm, hfifo', hrec'⟩ := h'
  refine ⟨n + m, ?_, ?_, ?_⟩
  · rw [hfifo, List.length_drop] at hm
    omega
  · rw [hfifo', hfifo, List.drop_drop]
  · rw [hrec', hrec, hfifo, List.append_assoc, ← List.map_append, List.take_add]

theorem Effect.trans (h : Effect s d) (h' : Effect d e) : Effect s e :=
  ⟨h.apart.trans h'.apart, h.rx.trans h'.rx, h.tx.trans h'.tx,
    h.link.trans h'.link h.apart.restartMs, fun he => h.stopped (h'.stopped he)⟩

end Effect

/-! ## One turn, and all of them -/

/-- A read that reports nothing that is pending. -/
theorem readIr_eq_self {isrc : Byte} {s : Sja1000} (hti : test isrc irqTi = false)
    (hoff : test isrc irqEi = true → s.chip.off = false) : readIr isrc s = s := by
  have hbit : (s.chip.off && !test isrc irqEi) = s.chip.off := by
    cases hei : test isrc irqEi with
    | true => rw [hoff hei, Bool.false_and]
    | false => rw [Bool.not_false, Bool.and_true]
  rw [readIr, hti, hbit, if_neg Bool.false_ne_true]

theorem echoes_append_map (up : List Upward) (rs : List Regs) :
    (up ++ rs.map fun r => Upward.received (rxFrame r)).filterMap echoOf =
      up.filterMap echoOf := by
  induction rs with
  | nil => simp
  | cons r rs ih => simp [echoOf]

theorem received_append_map (up : List Upward) (rs : List Regs) :
    (up ++ rs.map fun r => Upward.received (rxFrame r)).filterMap receivedOf =
      up.filterMap receivedOf ++ rs.map rxFrame := by
  rw [List.filterMap_append]
  congr 1
  induction rs with
  | nil => rfl
  | cons r rs ih =>
      rw [List.map_cons, List.filterMap_cons, ih]
      rfl

/-- The echo is passed on, or freed after a failed shot. -/
theorem isrTransmit_eq (t : IsrTurn) (s : Sja1000) :
    ∃ stats, isrTransmit t s =
      if s.ctrlmode.oneShot && !test t.status srTcs then
        { s with
          stats := stats, queueStopped := false, echoSkb := none
          freed := s.freed ++ s.echoSkb.toList }
      else
        { s with
          stats := stats, queueStopped := false, echoSkb := none
          up := s.up ++ s.echoSkb.toList.map .echo } := by
  unfold isrTransmit
  split
  · unfold canFreeEchoSkb
    cases hecho : s.echoSkb with
    | none => exact ⟨_, by simp; rfl⟩
    | some skb => exact ⟨_, rfl⟩
  · unfold canGetEchoSkb
    cases hecho : s.echoSkb with
    | none => exact ⟨_, by simp; rfl⟩
    | some skb => exact ⟨_, rfl⟩

/-- A turn up to the errors. -/
structure Handled (isrc : Byte) (s d : Sja1000) : Prop where
  apart : Apart s d
  rx : PassesOn s d
  tx : TxEffect s d
  off : d.chip.off = (s.chip.off && !test isrc irqEi)
  carrier : d.carrier = s.carrier
  timer : d.restartTimer = s.restartTimer
  state : d.state = s.state

theorem received_append_error (up : List Upward) (cf : CanFrame) :
    (up ++ [Upward.error cf]).filterMap receivedOf = up.filterMap receivedOf := by
  simp [receivedOf]

theorem echoes_append_error (up : List Upward) (cf : CanFrame) :
    (up ++ [Upward.error cf]).filterMap echoOf = up.filterMap echoOf := by
  simp [echoOf]

theorem received_append_echo (up : List Upward) (slot : Option Skb) :
    (up ++ slot.toList.map Upward.echo).filterMap receivedOf = up.filterMap receivedOf := by
  cases slot with
  | none => simp
  | some skb => simp [receivedOf]

theorem echoes_append_echo (up : List Upward) (slot : Option Skb) :
    (up ++ slot.toList.map Upward.echo).filterMap echoOf =
      up.filterMap echoOf ++ slot.toList := by
  cases slot with
  | none => simp
  | some skb => simp [echoOf]

theorem handled_tx {t : IsrTurn} {n : Nat} {s : Sja1000} (ht : TurnTrue t n s)
    (hfail : s.chip.ti = some false → s.ctrlmode.oneShot = true) :
    Handled t.isrc s
      (if test t.isrc irqTi then isrTransmit t (readIr t.isrc s) else readIr t.isrc s) := by
  cases hti : test t.isrc irqTi with
  | false =>
      refine ⟨⟨rfl, rfl, rfl, rfl, rfl, rfl⟩, passesOn_of_eq rfl rfl,
        .unchanged ?_ rfl rfl rfl rfl, rfl, rfl, rfl, rfl⟩
      show (if test t.isrc irqTi then none else s.chip.ti) = s.chip.ti
      rw [hti, if_neg Bool.false_ne_true]
  | true =>
      obtain ⟨hsome, -, -, hone⟩ := ht.ti hti
      obtain ⟨ok, hok⟩ := Option.isSome_iff_exists.mp hsome
      have hcleared : (readIr t.isrc s).chip.ti = none := by
        show (if test t.isrc irqTi then none else s.chip.ti) = none
        rw [hti, if_pos rfl]
      -- the outcome decides what becomes of the echo
      have houtcome : (s.ctrlmode.oneShot && !test t.status srTcs) = !ok := by
        cases hshot : s.ctrlmode.oneShot with
        | true =>
            have := hone hshot
            rw [hok] at this
            rw [Option.some.inj this, Bool.true_and]
        | false =>
            cases ok with
            | true => rfl
            | false =>
                rw [hfail hok] at hshot
                cases hshot
      obtain ⟨stats, heq⟩ := isrTransmit_eq t (readIr t.isrc s)
      have hsame : (readIr t.isrc s).ctrlmode = s.ctrlmode := rfl
      rw [if_pos rfl, heq, hsame, houtcome]
      cases ok with
      | true =>
          exact ⟨⟨rfl, rfl, rfl, rfl, rfl, rfl⟩,
            passesOn_of_eq rfl (received_append_echo _ _),
            .ended true hok hcleared rfl (echoes_append_echo _ _) rfl rfl, rfl, rfl, rfl, rfl⟩
      | false =>
          exact ⟨⟨rfl, rfl, rfl, rfl, rfl, rfl⟩, passesOn_of_eq rfl rfl,
            .ended false hok hcleared rfl rfl rfl rfl, rfl, rfl, rfl, rfl⟩

section Turn

variable {t : IsrTurn} {n m : Nat} {s d e : Sja1000}

theorem Passes.passesOn (h : Passes d e m) : PassesOn d e := by
  obtain ⟨hle, stats, rfl⟩ := h
  exact ⟨m, hle, rfl, received_append_map _ _⟩

/-- The receive loop does nothing else. -/
theorem Handled.passes (h : Handled t.isrc s d) (hp : Passes d e m) : Handled t.isrc s e := by
  have hrx := h.rx.trans hp.passesOn
  obtain ⟨hle, stats, rfl⟩ := hp
  exact ⟨h.apart.trans ⟨rfl, rfl, rfl, rfl, rfl, rfl⟩, hrx,
    h.tx.trans (.unchanged rfl rfl (echoes_append_map _ _) rfl rfl), h.off, h.carrier, h.timer,
    h.state⟩

/-- No bus-off is reported. -/
theorem Handled.effect (h : Handled t.isrc s d)
    (hoff : test t.isrc irqEi = true → s.chip.off = false) : Effect s d := by
  have hbit : (s.chip.off && !test t.isrc irqEi) = s.chip.off := by
    cases hei : test t.isrc irqEi with
    | true => rw [hoff hei, Bool.false_and]
    | false => rw [Bool.not_false, Bool.and_true]
  exact ⟨h.apart, h.rx, h.tx,
    .unchanged (h.off.trans hbit) h.carrier h.timer fun he => h.state ▸ he,
    fun he => h.state ▸ he⟩

/-- The error interrupt after it, with the status of the receive loop. -/
theorem Handled.error (h : Handled t.isrc s d) {status : Byte}
    (he : sja1000Err { t with status := status } d = some e)
    (hoff : test t.isrc irqEi = true → test status srBs = s.chip.off) : Effect s e := by
  obtain ⟨⟨ws, cf, state⟩, hw, rfl⟩ := sja1000Err_stage he
  obtain ⟨⟨stats, canStats, hcounts⟩, hbusOff, hstopped⟩ := hw
  have htells : tellsOff { t with status := status } = (test t.isrc irqEi && s.chip.off) := by
    unfold tellsOff
    cases hei : test t.isrc irqEi with
    | true => rw [hoff hei]
    | false => rfl
  rw [htells] at hcounts hbusOff
  have hcounts : ws = { linkAfter (test t.isrc irqEi && s.chip.off) d with
    stats := stats, canStats := canStats } := hcounts
  subst hcounts
  have hstop : state = .stopped → s.state = .stopped := fun hs => h.state ▸ hstopped hs
  refine ⟨h.apart.trans ⟨rfl, rfl, rfl, rfl, rfl, rfl⟩,
    h.rx.trans (passesOn_of_eq rfl (received_append_error _ _)),
    h.tx.trans (.unchanged rfl rfl (echoes_append_error _ _) rfl rfl), ?_, hstop⟩
  cases hei : test t.isrc irqEi && s.chip.off with
  | true =>
      rw [Bool.and_eq_true] at hei
      refine .down hei.2 ?_ ?_ ?_
      · show d.chip.off = false
        rw [h.off, hei.1, Bool.not_true, Bool.and_false]
      · rfl
      · show (d.restartTimer || (true && d.restartMs != 0)) = _
        rw [h.timer, h.apart.restartMs, Bool.true_and]
  | false =>
      rw [hei] at hbusOff
      refine .unchanged ?_ ?_ ?_ fun hs => ?_
      · show d.chip.off = s.chip.off
        rw [h.off]
        cases hs : s.chip.off with
        | true =>
            rw [hs, Bool.and_true] at hei
            rw [hei]
            rfl
        | false => rfl
      · show (true && d.carrier) = s.carrier
        rw [Bool.true_and, h.carrier]
      · show (d.restartTimer || (false && d.restartMs != 0)) = s.restartTimer
        rw [Bool.false_and, Bool.or_false, h.timer]
      · rcases hbusOff hs with hfalse | hd
        · cases hfalse
        · exact h.state ▸ hd

theorem isrTransmit_fifo (t : IsrTurn) (s : Sja1000) :
    (isrTransmit t s).chip.rxFifo = s.chip.rxFifo := by
  obtain ⟨stats, h⟩ := isrTransmit_eq t s
  rw [h]
  split <;> rfl

theorem RxTrue.full {rs : List RxTurn} {status : Byte} {fifo : List Regs}
    (h : RxTrue rs status fifo) (hrbs : test status srRbs = true) : fifo ≠ [] := by
  cases rs with
  | nil => exact h hrbs
  | cons r rs => exact (h hrbs).1

theorem rxLoop_nothing (rs : List RxTurn) {status : Byte} (h : test status srRbs = false)
    (s : Sja1000) : rxLoop rs status s = .ok (status, false, s) := by
  cases rs with
  | nil => rw [rxLoop, h, if_neg Bool.false_ne_true]
  | cons r rs => rw [rxLoop, h, if_neg Bool.false_ne_true]

/-- What the receive part of a turn comes to: with a bus-off to report there is nothing to
receive. -/
theorem rxPart {status : Byte} {gone : Bool} (ht : TurnTrue t n s)
    (hempty : s.chip.off = true → s.chip.rxFifo = []) (hfifo : d.chip.rxFifo = s.chip.rxFifo)
    (h : isrReceive t d = .ok (status, gone, e)) :
    (∃ m, Passes d e m) ∧ (s.chip.off = true → status = t.status ∧ gone = false) ∧
      (status = t.status ∨ ∃ r ∈ t.rxs, status = r.status) := by
  unfold isrReceive at h
  cases hri : test t.isrc irqRi with
  | true =>
      rw [hri, if_pos rfl] at h
      refine ⟨rxLoop_passes (hfifo ▸ ht.rx) h, fun hoff => ?_, rxLoop_status h⟩
      have hrbs : test t.status srRbs = false :=
        Bool.eq_false_iff.mpr fun hrbs => ht.rx.full hrbs (hempty hoff)
      rw [rxLoop_nothing _ hrbs] at h
      cases h
      exact ⟨rfl, rfl⟩
  | false =>
      rw [hri, if_neg Bool.false_ne_true] at h
      cases h
      exact ⟨⟨0, passes_zero _⟩, fun _ => ⟨rfl, rfl⟩, .inl rfl⟩

/-- **One turn** of the interrupt. -/
theorem isrTurn_effect {goes : Bool} (ht : TurnTrue t n s)
    (hfail : s.chip.ti = some false → s.ctrlmode.oneShot = true)
    (hempty : s.chip.off = true → s.chip.rxFifo = [])
    (h : isrTurn t (readIr t.isrc s) = .ok (goes, d)) : Effect s d := by
  unfold isrTurn at h
  by_cases habsent : absent t.status t.mod = true
  · rw [if_pos habsent] at h
    have hti : test t.isrc irqTi = false := by
      by_contra hne
      have := (ht.ti (Bool.not_eq_false _ ▸ hne)).2.2.1
      rw [habsent] at this
      cases this
    have hoff : test t.isrc irqEi = true → s.chip.off = false := by
      intro hei
      by_contra hne
      have := (ht.off hei (Bool.not_eq_false _ ▸ hne)).2.1
      rw [habsent] at this
      cases this
    rw [readIr_eq_self hti hoff] at h
    cases h
    exact Effect.refl _
  · rw [if_neg habsent] at h
    have hhandled := handled_tx ht hfail
    have hfifo : (if test t.isrc irqTi then isrTransmit t (readIr t.isrc s)
        else readIr t.isrc s).chip.rxFifo = s.chip.rxFifo := by
      split
      · exact isrTransmit_fifo _ _
      · rfl
    set s2 := if test t.isrc irqTi then isrTransmit t (readIr t.isrc s) else readIr t.isrc s
    obtain ⟨⟨status, gone, s3⟩, hrx, h⟩ := bind_ok_iff.mp h
    obtain ⟨⟨m, hpass⟩, hreport, hread⟩ := rxPart ht hempty hfifo hrx
    have hh := hhandled.passes hpass
    have hresult := Except.ok.inj h
    have hstatus : test t.isrc irqEi = true → test status srBs = s.chip.off := by
      intro hei
      cases hoff : s.chip.off with
      | true =>
          rw [(hreport hoff).1]
          exact (ht.off hei hoff).2.2.1
      | false =>
          obtain ⟨h0, hall⟩ := ht.notOff hei hoff
          rcases hread with hlast | ⟨r, hr, hlast⟩
          · rw [hlast, h0]
          · rw [hlast, hall r hr]
    cases hgone : gone with
    | true =>
        rw [hgone, if_pos rfl] at hresult
        cases hresult
        refine hh.effect fun hei => ?_
        by_contra hne
        have := (hreport (Bool.not_eq_false _ ▸ hne)).2
        rw [hgone] at this
        cases this
    | false =>
        rw [hgone, if_neg Bool.false_ne_true, isrErrors] at hresult
        split at hresult
        · split at hresult
          · next herr =>
              cases hresult
              refine hh.effect fun hei => ?_
              by_contra hne
              have hskb := (ht.off hei (Bool.not_eq_false _ ▸ hne)).2.2.2
              rw [sja1000Err, if_pos hskb] at herr
              cases herr
          · next herr =>
              cases hresult
              exact hh.error herr hstatus
        · next hno =>
            cases hresult
            refine hh.effect fun hei => absurd ?_ hno
            rw [errSources, test_mask_or, test_mask_or, test_mask_or, test_mask_or, hei]
            simp

end Turn

/-- What the turns of an interrupt rest on. -/
structure IsrReady (s : Sja1000) : Prop where
  fail : s.chip.ti = some false → s.ctrlmode.oneShot = true
  empty : s.chip.off = true → s.chip.rxFifo = []

theorem IsrReady.effect {s d : Sja1000} (h : IsrReady s) (he : Effect s d) : IsrReady d where
  fail hti := by
    rw [he.apart.ctrlmode]
    cases he.tx with
    | unchanged ti => exact h.fail (ti ▸ hti)
    | ended ok was ti =>
        rw [ti] at hti
        cases hti
  empty hoff := by
    obtain ⟨n, -, hfifo, -⟩ := he.rx
    cases he.link with
    | unchanged off => rw [hfifo, h.empty (off ▸ hoff), List.drop_nil]
    | down was off =>
        rw [off] at hoff
        cases hoff

theorem isrLoop_effect {turns : List IsrTurn} {n k : Nat} {s d : Sja1000}
    (htrue : IsrTrue turns n s) (hs : IsrReady s) (h : isrLoop turns n s = .ok (k, d)) :
    Effect s d := by
  induction turns generalizing n s with
  | nil =>
      cases h
      exact Effect.refl _
  | cons t ts ih =>
      obtain ⟨ht, hrest⟩ := htrue
      rw [isrLoop] at h
      by_cases hend : t.isrc = 0 ∨ n ≥ sja1000MaxIrq
      · have hlost : ∀ m, test t.isrc m = true → n ≥ sja1000MaxIrq := by
          intro m hm
          refine hend.resolve_left fun hzero => ?_
          rw [hzero] at hm
          simp [test] at hm
        have hti : test t.isrc irqTi = false := by
          by_contra hne
          have hset := Bool.not_eq_false _ ▸ hne
          have := (ht.ti hset).2.1
          have := hlost _ hset
          omega
        have hoff : test t.isrc irqEi = true → s.chip.off = false := by
          intro hei
          by_contra hne
          have := (ht.off hei (Bool.not_eq_false _ ▸ hne)).1
          have := hlost _ hei
          omega
        simp only [if_pos hend, readIr_eq_self hti hoff] at h
        cases h
        exact Effect.refl _
      · simp only [if_neg hend] at h
        obtain ⟨⟨goes, e⟩, hturn, h⟩ := bind_ok_iff.mp h
        have he := isrTurn_effect ht hs.fail hs.empty hturn
        cases goes with
        | true =>
            rw [not_or] at hend
            have hmore := hrest e hend.1 (by omega) hturn
            exact he.trans (ih hmore (hs.effect he) h)
        | false =>
            cases h
            exact he

theorem sja1000Interrupt_effect {turns : List IsrTurn} {k : Nat} {s d : Sja1000}
    (htrue : IsrTrue turns 0 s) (hs : IsrReady s)
    (h : sja1000Interrupt turns s = .ok (k, d)) : Effect s d := by
  unfold sja1000Interrupt at h
  split at h
  · cases h
    exact Effect.refl _
  · exact isrLoop_effect htrue hs h

end MoxaDrivers.Can

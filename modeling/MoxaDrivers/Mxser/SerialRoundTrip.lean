import MoxaDrivers.Lib.CInt
import MoxaDrivers.Lib.Machine
import MoxaDrivers.Mxser.SerialConfined

/-!
# `TIOCGSERIAL`, then `TIOCSSERIAL`

`mxser_get_serial_info` hands out `close_delay` and `closing_wait` as the port
holds them, in ticks; `mxser_set_serial_info` takes them for hundredths of a
second. Which delays come back as they were follows from `HZ` alone.
-/

namespace MoxaDrivers.Mxser

open MoxaDrivers.Bits MoxaDrivers.CInt MoxaDrivers.Machine

/-- A privileged caller hands back what it has just read. -/
def serialRoundTrip (HZ : Int) (p : Port) (page : Option Page) (lsr : Byte) :
    Except Fault (Option Errno × Port) :=
  mxserSetSerialInfo HZ p (mxserGetSerialInfo p).toSerialStruct true page lsr

/-! ## What is to stay -/

/-- The settings that `TIOCSSERIAL` is about, and the line rate with the
registers it is in. -/
structure SerialKept (p q : Port) : Prop where
  flags : q.flags = p.flags
  type : q.type = p.type
  closeDelay : q.opens.closeDelay = p.opens.closeDelay
  closingWait : q.opens.closingWait = p.opens.closingWait
  rate : q.rate = p.rate
  uart : q.uart = p.uart

/-- The delays in ticks that come back from being taken for hundredths, where
`HZ` is above 100: none, and where the 16 bits of the structure wrap round. -/
def DelayFixed (HZ x : Int) : Prop := x = 0 ∨ (HZ = 250 ∧ x = 109227) ∨ (HZ = 300 ∧ x = 98304)

def WaitFixed (HZ : Int) (w : BitVec 16) : Prop :=
  w = 0 ∨ (HZ = 250 ∧ w = 43691) ∨ (HZ = 300 ∧ w = 32768)

/-! ## The two delays -/

/-- The frequencies of the timer tick that a kernel is configured with. -/
def ConfiguredHz (HZ : Int) : Prop := HZ = 100 ∨ HZ = 250 ∨ HZ = 300 ∨ HZ = 1000

/-- Hundredths of a second, an `unsigned short`, in ticks. -/
theorem hundredths_tdiv {HZ : Int} (hHZ : ConfiguredHz HZ) (x : BitVec 16) :
    (x.toNat * HZ).tdiv 100 = x.toNat * HZ / 100 := by
  apply Int.tdiv_eq_ediv_of_nonneg
  rcases hHZ with rfl | rfl | rfl | rfl
  · omega
  · omega
  · omega
  · omega

/-- Above 100 Hz only three numbers of hundredths are, in ticks, themselves again
but for a multiple of `2 ^ 16`. -/
theorem hundredths_wrap_iff {HZ y b : Int} (hHZ : HZ = 250 ∨ HZ = 300 ∨ HZ = 1000) (hy : 0 ≤ y)
    (hlt : y < 65536) :
    y * HZ / 100 = y + 65536 * b ↔
      (y = 0 ∧ b = 0) ∨ (HZ = 250 ∧ y = 43691 ∧ b = 1) ∨ (HZ = 300 ∧ y = 32768 ∧ b = 1) := by
  constructor
  · intro h
    rcases hHZ with rfl | rfl | rfl
    · have hb : b = 0 ∨ b = 1 := by omega
      rcases hb with rfl | rfl
      · exact .inl ⟨by omega, rfl⟩
      · exact .inr (.inl ⟨rfl, by omega, rfl⟩)
    · have hb : b = 0 ∨ b = 1 := by omega
      rcases hb with rfl | rfl
      · exact .inl ⟨by omega, rfl⟩
      · exact .inr (.inr ⟨rfl, by omega, rfl⟩)
    · -- nine times the number is a multiple of `2 ^ 16`
      have hten : y * 1000 / 100 = y * 10 := by
        rw [show (1000 : Int) = 10 * 100 from rfl, ← Int.mul_assoc]
        exact Int.mul_ediv_cancel _ (by decide)
      rw [hten] at h
      have hzero : y = 0 := by omega
      subst hzero
      exact .inl ⟨rfl, by omega⟩
  · rintro (⟨rfl, rfl⟩ | ⟨rfl, rfl, rfl⟩ | ⟨rfl, rfl, rfl⟩)
    · simp
    · decide
    · decide

theorem closeDelay_returns_iff {HZ x : Int} (hHZ : ConfiguredHz HZ) :
    ((BitVec.ofInt 16 x).toNat * HZ).tdiv 100 = x ↔
      (HZ = 100 ∧ 0 ≤ x ∧ x < 65536) ∨ (HZ ≠ 100 ∧ DelayFixed HZ x) := by
  have hx : x = x % 65536 + 65536 * (x / 65536) := by omega
  have h16 : (2 : Int) ^ 16 = 65536 := rfl
  rw [hundredths_tdiv hHZ, toNat_ofInt, h16]
  rcases hHZ with rfl | hHZ
  · omega
  · have hne : HZ ≠ 100 := by omega
    have hwrap := hundredths_wrap_iff (b := x / 65536) hHZ (y := x % 65536) (by omega) (by omega)
    have hsplit : ∀ a b : Int, 0 ≤ a → a < 65536 →
        (x % 65536 = a ∧ x / 65536 = b ↔ x = a + 65536 * b) := by omega
    rw [← hx, hsplit 0 0 (by decide) (by decide), hsplit 43691 1 (by decide) (by decide),
      hsplit 32768 1 (by decide) (by decide)] at hwrap
    rw [hwrap]
    simp [DelayFixed, hne]

theorem closingWait_returns_iff {HZ : Int} {w : BitVec 16} (hHZ : ConfiguredHz HZ) :
    BitVec.ofInt 16 ((w.toNat * HZ).tdiv 100) = w ↔ HZ = 100 ∨ WaitFixed HZ w := by
  have hint : ∀ v : BitVec 16, w = v ↔ (w.toNat : Int) = v.toNat := by
    intro v
    rw [← BitVec.toNat_inj]
    omega
  have hlt := w.isLt
  have h16 : (2 : Int) ^ 16 = 65536 := rfl
  have hsame : BitVec.ofInt 16 ((w.toNat * HZ).tdiv 100) = w ↔
      ((w.toNat : Int) * HZ / 100) % 65536 = w.toNat := by
    rw [hundredths_tdiv hHZ, eq_comm, hint, toNat_ofInt, h16, eq_comm]
  rw [hsame]
  rcases hHZ with rfl | hHZ
  · omega
  · have hne : HZ ≠ 100 := by omega
    have hwrap := hundredths_wrap_iff (b := (w.toNat : Int) * HZ / 100 / 65536) hHZ
      (y := (w.toNat : Int)) (by omega) (by omega)
    have hmod : ((w.toNat : Int) * HZ / 100) % 65536 = w.toNat ↔
        (w.toNat : Int) * HZ / 100 = w.toNat + 65536 * ((w.toNat : Int) * HZ / 100 / 65536) := by
      omega
    rw [hmod, hwrap]
    simp only [WaitFixed, hint, BitVec.reduceToNat]
    rcases hHZ with rfl | rfl | rfl
    · omega
    · omega
    · omega

/-! ## One round trip -/

/-- The port after what was read is handed back. -/
def handedBack (HZ : Int) (p : Port) : Port :=
  processTxrxFifo { p with
    opens := { p.opens with
      closeDelay := ((BitVec.ofInt 16 p.opens.closeDelay).toNat * HZ).tdiv 100
      closingWait := BitVec.ofInt 16 ((p.opens.closingWait.toNat * HZ).tdiv 100) }
    tty := { p.tty with lowLatency := test p.flags asyncLowLatency } }

theorem adminSerialInfo_get (HZ : Int) (p : Port) :
    ∃ q, adminSerialInfo HZ p (mxserGetSerialInfo p).toSerialStruct = .ok q ∧
      q.flags = p.flags ∧ processTxrxFifo { q with type := p.type } = handedBack HZ p := by
  have hsame : ¬ ((mxserGetSerialInfo p).baudBase ≠ p.rate.baudBase ∨
      (mxserGetSerialInfo p).customDivisor ≠ p.rate.customDivisor) := by
    rintro (h | h)
    · exact h rfl
    · exact h rfl
  have hflags : (p.flags &&& ~~~asyncFlags) ||| ((mxserGetSerialInfo p).flags &&& asyncFlags)
      = p.flags := replace_self asyncFlags p.flags
  simp only [adminSerialInfo]
  rw [if_neg hsame, hflags]
  exact ⟨_, rfl, rfl, rfl⟩

/-- A port that is up takes back what was read from it, unless its address does
not fit in the structure. -/
theorem serialRoundTrip_eq (HZ : Int) {p : Port} (hup : p.initialized = true) (hbase : p.base ≠ 0)
    (page : Option Page) (lsr : Byte) :
    serialRoundTrip HZ p page lsr
      = .ok (if p.base < 2 ^ 32 then (none, handedBack HZ p) else (some .eperm, p)) := by
  simp only [serialRoundTrip, mxserSetSerialInfo]
  rw [if_neg hbase]
  by_cases hfits : p.base < 2 ^ 32
  · have hport : ¬ ((mxserGetSerialInfo p).irq ≠ p.irq ∨ (mxserGetSerialInfo p).port ≠ p.base) := by
      rintro (h | h)
      · exact h rfl
      · exact h (Nat.mod_eq_of_lt hfits)
    obtain ⟨q, hq, hflags, hback⟩ := adminSerialInfo_get HZ p
    have hq' : (handedBack HZ p).initialized = true := hup
    have hspd : ¬ p.flags &&& asyncSpdMask ≠ (handedBack HZ p).flags &&& asyncSpdMask :=
      not_not.mpr rfl
    rw [if_neg hport, if_pos trivial, hq, if_pos hfits]
    show applySerialInfo HZ q p.type (p.flags &&& asyncSpdMask) page lsr true = _
    simp only [applySerialInfo]
    rw [hback, if_pos hq', if_neg hspd]
  · have hport : (mxserGetSerialInfo p).irq ≠ p.irq ∨ (mxserGetSerialInfo p).port ≠ p.base := by
      right
      show p.base % 2 ^ 32 ≠ p.base
      omega
    rw [if_pos hport, if_neg hfits]

theorem serialKept_handedBack_iff {HZ : Int} (hHZ : ConfiguredHz HZ) (p : Port) :
    SerialKept p (handedBack HZ p) ↔
      ((HZ = 100 ∧ 0 ≤ p.opens.closeDelay ∧ p.opens.closeDelay < 65536) ∨
        (HZ ≠ 100 ∧ DelayFixed HZ p.opens.closeDelay)) ∧
      (HZ = 100 ∨ WaitFixed HZ p.opens.closingWait) := by
  rw [← closeDelay_returns_iff hHZ, ← closingWait_returns_iff hHZ]
  constructor
  · intro h
    exact ⟨h.closeDelay, h.closingWait⟩
  · rintro ⟨hdelay, hwait⟩
    exact ⟨rfl, rfl, hdelay, hwait, rfl, rfl⟩

/-! ## The delay over whole runs -/

theorem blockTurn_delay (p : Port) (hungUp doClocal signal : Bool) :
    (blockTurn p hungUp doClocal signal).2.opens.closeDelay = p.opens.closeDelay := by
  obtain ⟨uart, h | ⟨e, h⟩ | ⟨-, -, h⟩⟩ := blockTurn_cases p hungUp doClocal signal
  · rw [h]
  · rw [h]
    rfl
  · rw [h]
    rfl

theorem mxserOpen_delay {HZ : Int} {p : Port} {a : OpenArgs} {r : HandleState × Port}
    (h : mxserOpen HZ p a = .ok r) : r.2.opens.closeDelay = p.opens.closeDelay := by
  have hstart := (mxserStartup_port (attach p) a.page a.lsr a.admin).2
  rcases mxserOpen_cases h with ⟨-, rfl⟩ | ⟨e, q, hfail, rfl⟩ | ⟨-, q, hdone, hfinish⟩
  · rfl
  · rw [hfail] at hstart
    rw [hstart]
    rfl
  · rw [hdone] at hstart
    have hblock : (mxserBlockTilReady q a.nonblock a.signal).2.opens.closeDelay
        = q.opens.closeDelay := by
      simp only [mxserBlockTilReady]
      split
      · rfl
      · exact blockTurn_delay (enterWait q) _ _ _
    rw [(finishOpen_ok hfinish).2.opens, hblock, hstart]
    rfl

theorem mxserClose_delay (p : Port) (hungUp : Bool) (ttyCount : Nat) :
    (mxserClose p hungUp ttyCount).2.opens.closeDelay = p.opens.closeDelay := by
  simp only [mxserClose]
  split
  · rfl
  · split
    · rfl
    · rfl

theorem mxserShutdown_delay (p : Port) :
    (mxserShutdown p).opens.closeDelay = p.opens.closeDelay := by
  rw [(mxserShutdown_port p).2]

theorem part_delay {HZ : Int} {s t : Opens} {op : OpenOp} {i : Nat} {k : Handle}
    (hpart : (∃ signal, op = .wake i signal ∧ s.wakeHandle HZ i k signal = .ok t) ∨
        (op = .close i ∧ t = s.closeHandle i k) ∨ (op = .drained i ∧ t = s.drainedHandle i k) ∨
        (∃ iir, op = .emptied i iir ∧ t = s.emptiedHandle i k iir) ∨
        (op = .delayed i ∧ t = s.delayedHandle i k)) :
    t.port.opens.closeDelay = s.port.opens.closeDelay := by
  rcases hpart with ⟨signal, -, hwake⟩ | ⟨-, rfl⟩ | ⟨-, rfl⟩ | ⟨iir, -, rfl⟩ | ⟨-, rfl⟩
  · simp only [Opens.wakeHandle] at hwake
    split at hwake
    · obtain ⟨r, hr, ht⟩ := bind_ok_iff.mp hwake
      cases ht
      show r.2.opens.closeDelay = _
      rw [(finishOpen_ok hr).2.opens, blockTurn_delay]
    · cases hwake
      rfl
  · unfold Opens.closeHandle
    split
    · rfl
    · exact mxserClose_delay _ _ _
    · exact mxserClose_delay _ _ _
    · rfl
  · unfold Opens.drainedHandle
    split
    · rfl
    · rfl
  · unfold Opens.emptiedHandle
    split
    · exact mxserShutdown_delay s.port
    · rfl
  · unfold Opens.delayedHandle
    split
    · rfl
    · rfl

/-- Opening, closing and hanging up leave `close_delay`. -/
theorem openStep_delay {HZ : Int} {s t : Opens} {op : OpenOp} (h : openStep HZ s op = .ok t) :
    t.port.opens.closeDelay = s.port.opens.closeDelay := by
  rcases openStep_cases h with
    rfl | ⟨levels, -, rfl⟩ | ⟨a, -, hopen⟩ | ⟨iir, -, hhang⟩ | ⟨i, k, -, hpart⟩
  · rfl
  · rfl
  · obtain ⟨r, hr, ht⟩ := bind_ok_iff.mp hopen
    cases ht
    exact mxserOpen_delay (p := s.withTty a.termios) hr
  · simp only [Opens.hangUp] at hhang
    split at hhang
    · cases hhang
      rfl
    · split at hhang
      · cases hhang
      · cases hhang
        exact mxserShutdown_delay (mxserFlushBuffer s.port iir)
  · exact part_delay hpart

/-- What `close_delay` can be at 100 Hz: what an `unsigned short` can. -/
def DelayShort (p : Port) : Prop := 0 ≤ p.opens.closeDelay ∧ p.opens.closeDelay < 65536

theorem DelayShort.congr {p q : Port} (hp : DelayShort p)
    (h : q.opens.closeDelay = p.opens.closeDelay) : DelayShort q := by
  simp only [DelayShort]
  rw [h]
  exact hp

/-- A start-up or a change of speed, at the end of `TIOCSSERIAL`, leaves the counts
and delays. -/
theorem applySerialInfo_opens {HZ : Int} {p : Port} {type : Int} {oldSpd : Word}
    {page : Option Page} {lsr : Byte} {admin : Bool} {r : Option Errno × Port}
    (h : applySerialInfo HZ p type oldSpd page lsr admin = .ok r) : r.2.opens = p.opens := by
  simp only [applySerialInfo] at h
  split at h
  · split at h
    · obtain ⟨q, hq, hr⟩ := bind_ok_iff.mp h
      cases hr
      exact (mxserChangeSpeed_keeps hq).2.1
    · cases h
      rfl
  · cases h
    exact (mxserStartup_port (processTxrxFifo { p with type := type }) page lsr admin).2

theorem adminSerialInfo_delay {HZ : Int} {p q : Port} {new : SerialStruct}
    (h : adminSerialInfo HZ p new = .ok q) :
    q.opens.closeDelay = (new.closeDelay.toNat * HZ).tdiv 100 := by
  simp only [adminSerialInfo] at h
  split at h
  · obtain ⟨custom, -, hset⟩ := bind_ok_iff.mp h
    cases hset
    rfl
  · cases h
    rfl

/-- **`TIOCSSERIAL` at 100 Hz** sets `close_delay` to an `unsigned short`, or not. -/
theorem delayShort_serial {p : Port} {new : SerialStruct} {admin : Bool} {page : Option Page}
    {lsr : Byte} {r : Option Errno × Port} (hp : DelayShort p)
    (h : mxserSetSerialInfo 100 p new admin page lsr = .ok r) : DelayShort r.2 := by
  simp only [mxserSetSerialInfo] at h
  split at h
  · cases h
    exact hp
  · split at h
    · cases h
      exact hp
    · split at h
      · obtain ⟨q, hq, happly⟩ := bind_ok_iff.mp h
        have hlt := new.closeDelay.isLt
        have hdelay : r.2.opens.closeDelay = new.closeDelay.toNat := by
          rw [applySerialInfo_opens happly, adminSerialInfo_delay hq]
          exact Int.mul_tdiv_cancel _ (by decide)
        simp only [DelayShort]
        omega
      · split at h
        · cases h
          exact hp
        · exact hp.congr (congrArg OpenInfo.closeDelay
            (applySerialInfo_opens (p := userSerialInfo p new) h))

theorem delayShort_step {s t : Served} {op : SerialOp} (hs : DelayShort s.opens.port)
    (h : serialStep 100 s op = .ok t) : DelayShort t.opens.port := by
  cases op with
  | opens op =>
      cases hu : openStep 100 s.opens op with
      | error e =>
          simp only [serialStep, hu] at h
          cases h
      | ok u =>
          simp only [serialStep, hu] at h
          cases h
          exact hs.congr (openStep_delay hu)
  | port op =>
      cases hq : portStep 100 s.opens.port op with
      | error e =>
          simp only [serialStep, hq] at h
          cases h
      | ok q =>
          simp only [serialStep, hq] at h
          cases h
          exact hs.congr (congrArg OpenInfo.closeDelay (portStep_samePort hq).opens)
  | tiocsserial i new admin page lsr =>
      rcases serialStep_call h with rfl | ⟨k, r, -, -, hr, rfl⟩
      · exact hs
      · simp only [tiocsserial] at hr
        split at hr
        · cases hr
          exact hs
        · exact delayShort_serial hs hr

/-- **When a privileged caller may hand back what it read.** From the set-up of
the board on, whatever is done with a line, in every state in which its port is
up: the call returns 0 and leaves the flags, the type, both delays and the rates
as they were if and only if the address of the port fits in the structure and
`HZ` is 100, or neither delay is changed by being taken for hundredths. -/
theorem serial_round_trip_iff {HZ : Int} (hHZ : ConfiguredHz HZ) (hw : MxserHwconf)
    (init : Termios) (n : Nat) (uart : Uart) {ops : List SerialOp} {s : Served}
    (hrun : run (serialStep HZ) (Served.start (mxserInitbrd HZ hw init n uart)) ops = .ok s)
    (hup : s.opens.port.initialized = true) (hbase : s.opens.port.base ≠ 0)
    (page : Option Page) (lsr : Byte) :
    (∃ q, serialRoundTrip HZ s.opens.port page lsr = .ok (none, q) ∧
        SerialKept s.opens.port q) ↔
      s.opens.port.base < 2 ^ 32 ∧ (HZ = 100 ∨
        (DelayFixed HZ s.opens.port.opens.closeDelay ∧
          WaitFixed HZ s.opens.port.opens.closingWait)) := by
  have hshort : HZ = 100 → DelayShort s.opens.port := by
    rintro rfl
    have hstart : DelayShort (mxserInitbrd 100 hw init n uart) :=
      ⟨show (0 : Int) ≤ (5 * 100 : Int).tdiv 10 by decide,
        show (5 * 100 : Int).tdiv 10 < 65536 by decide⟩
    exact run_invariant (I := fun s : Served => DelayShort s.opens.port)
      (fun _ _ _ hs h => delayShort_step hs h) hstart hrun
  have hkept : SerialKept s.opens.port (handedBack HZ s.opens.port) ↔ HZ = 100 ∨
      (DelayFixed HZ s.opens.port.opens.closeDelay ∧
        WaitFixed HZ s.opens.port.opens.closingWait) := by
    rw [serialKept_handedBack_iff hHZ]
    by_cases h100 : HZ = 100
    · obtain ⟨hpos, hlt⟩ := hshort h100
      simp [h100, hpos, hlt]
    · simp [h100]
  rw [serialRoundTrip_eq HZ hup hbase, ← hkept]
  by_cases hfits : s.opens.port.base < 2 ^ 32
  · rw [if_pos hfits]
    constructor
    · rintro ⟨q, hq, h⟩
      cases hq
      exact ⟨hfits, h⟩
    · rintro ⟨-, h⟩
      exact ⟨_, rfl, h⟩
  · rw [if_neg hfits]
    constructor
    · rintro ⟨q, hq, -⟩
      cases hq
    · rintro ⟨h, -⟩
      exact absurd h hfits

theorem c104BaudBase_pos : (0 : Int) < 921600 := by decide

/-- The first port of a C104 with 16550As, as it is set up. -/
def c104Line (HZ : Int) : Served :=
  Served.start (mxserInitbrd HZ ⟨0x180, 5, port16550A, 921600, c104BaudBase_pos, moxaOtherUart, 921600⟩
    (c104Termios 0) 0 (resetUart uartMsrCts))

/-- Its first open, with `O_NONBLOCK`. -/
def firstOpen : SerialOp :=
  .opens (.open ⟨true, some fun _ => 0, 0x60, false, false, c104Termios 0⟩)

theorem serial_round_trip_hundred :
    ∃ s, run (serialStep 100) (c104Line 100) [firstOpen] = .ok s ∧
      ∃ q, serialRoundTrip 100 s.opens.port none 0x60 = .ok (none, q) ∧
        SerialKept s.opens.port q := by
  obtain ⟨s, hrun, hup, hbase, hfits⟩ : ∃ s, run (serialStep 100) (c104Line 100) [firstOpen] = .ok s ∧
      s.opens.port.initialized = true ∧ s.opens.port.base ≠ 0 ∧ s.opens.port.base < 2 ^ 32 :=
    ⟨_, rfl, by decide, by decide, by decide⟩
  exact ⟨s, hrun, (serial_round_trip_iff (.inl rfl) _ _ _ _ hrun hup hbase none 0x60).mpr
    ⟨hfits, .inl rfl⟩⟩

/-- At 1000 Hz the half second of `close_delay` is five seconds after one round
trip, and the thirty seconds of `closing_wait` are not quite thirty-eight. -/
theorem serial_round_trip_drifts :
    ∃ s q, run (serialStep 1000) (c104Line 1000) [firstOpen] = .ok s ∧
      s.opens.handles = [⟨false, .opened, false⟩] ∧ s.opens.port.initialized = true ∧
      serialRoundTrip 1000 s.opens.port none 0x60 = .ok (none, q) ∧
      s.opens.port.opens.closeDelay = 500 ∧ q.opens.closeDelay = 5000 ∧
      s.opens.port.opens.closingWait = 30000 ∧ q.opens.closingWait = 37856 :=
  ⟨_, _, rfl, by decide, by decide, rfl, by decide, by decide, by decide, by decide⟩

end MoxaDrivers.Mxser

import MoxaDrivers.Lib.Machine
import MoxaDrivers.Lib.Tally
import MoxaDrivers.Mxu11x0.Port

/-!
# Interrupt packets

`mxu1_interrupt_callback` takes the port out of the first byte of a packet and
looks it up in `serial->port`. The port is the high nibble less 3, and only its
upper bound is checked: a packet whose high nibble is below 3 makes the driver
read in front of the array.
-/

namespace MoxaDrivers.Mxu11x0

open MoxaDrivers.Bits MoxaDrivers.Mxser
open MoxaDrivers.Machine MoxaDrivers.Tally

/-! ## `mxu1_handle_new_msr` -/

def mxu1MsrDeltaCts : Byte := 0x01
def mxu1MsrDeltaDsr : Byte := 0x02
def mxu1MsrDeltaRi : Byte := 0x04
def mxu1MsrDeltaCd : Byte := 0x08
def mxu1MsrCts : Byte := 0x10
def mxu1MsrDeltaMask : Byte := 0x0F
def mxu1MsrMask : Byte := 0xF0

/-- The counter after a status whose delta bit is set or not. -/
def bump (c : Word) (msr delta : Byte) : Word := if test msr delta then c + 1 else c

/-- The section of `mxu1_handle_new_msr`. -/
def countDeltas (p : Port) (msr : Byte) : Port :=
  if msr &&& mxu1MsrDeltaMask ≠ 0 then
    { p with
      icount := { p.icount with
        cts := bump p.icount.cts msr mxu1MsrDeltaCts
        dsr := bump p.icount.dsr msr mxu1MsrDeltaDsr
        dcd := bump p.icount.dcd msr mxu1MsrDeltaCd
        rng := bump p.icount.rng msr mxu1MsrDeltaRi }
      msrWaitFlags := false }
  else p

/-- Flow control by CTS. -/
def followCts (tty : TtyStruct) (msr : Byte) : TtyStruct :=
  if test tty.termios.cCflag crtscts then { tty with hwStopped := !test msr mxu1MsrCts } else tty

def mxu1HandleNewMsr (p : Port) (msr : Byte) : Port :=
  let p := countDeltas p msr
  { p with msr := msr &&& mxu1MsrMask, tty := p.tty.map (followCts · msr) }

/-! ## `mxu1_interrupt_callback` -/

def mxu1CodeHardwareError : Byte := 0xFF
def mxu1CodeModemStatus : Byte := 0x04

/-- `MXU1_GET_PORT_FROM_CODE`. -/
def getPortFromCode (c : Byte) : Int := (c >>> 4).toNat - 3

/-- `MXU1_GET_FUNC_FROM_CODE`. -/
def getFuncFromCode (c : Byte) : Byte := c &&& 0x0F

/-- A completed interrupt URB, with the bytes that it received. -/
structure Packet where
  status : UrbStatus
  data : List Byte
  deriving DecidableEq, Repr

/-- The device, with what `usb_get_serial_port_data` returns for the entries of
`serial->port`. -/
structure Device where
  numPorts : Nat
  ports : Nat → Option Port
  /-- `mxd_urb_error`. -/
  urbError : Bool

inductive DeviceFault where
  /-- `serial->port` is read at an index that it does not have. -/
  | portIndex (i : Int)
  deriving DecidableEq, Repr

/-- `usb_get_serial_port_data(serial->port[i])`. -/
def Device.lookup (d : Device) (i : Int) : Except DeviceFault (Option Port) :=
  if 0 ≤ i ∧ i < d.numPorts then .ok (d.ports i.toNat) else .error (.portIndex i)

def Device.setPort (d : Device) (n : Nat) (p : Port) : Device :=
  { d with ports := Function.update d.ports n (some p) }

/-- A packet of two bytes. -/
def handlePacket (d : Device) (code info : Byte) : Except DeviceFault Device :=
  if code = mxu1CodeHardwareError then .ok d
  else
    let portNumber := getPortFromCode code
    if portNumber ≥ d.numPorts then .ok d
    else do
      match ← d.lookup portNumber with
      | none => return d
      | some p =>
          if getFuncFromCode code = mxu1CodeModemStatus then
            return d.setPort portNumber.toNat (mxu1HandleNewMsr p info)
          else
            -- `MXU1_CODE_DATA_ERROR`, or a code that is not known
            return d

/-- `mxu1_interrupt_callback`, but for the resubmission of its URB. -/
def mxu1InterruptCallback (d : Device) (packet : Packet) : Except DeviceFault Device :=
  if packet.status ≠ .ok then .ok { d with urbError := true }
  else
    match packet.data with
    | [code, info] => handlePacket d code info
    | _ => .ok d

/-! ## What is asked -/

/-- The modem status that a packet has for port `n`. -/
def Packet.msrFor (packet : Packet) (n : Nat) : Option Byte :=
  if packet.status = .ok then
    match packet.data with
    | [code, info] =>
        if getPortFromCode code = n ∧ getFuncFromCode code = mxu1CodeModemStatus then some info
        else none
    | _ => none
  else none

/-- The lines whose changes are counted. -/
inductive MsrLine where
  | cts
  | dsr
  | dcd
  | rng
  deriving DecidableEq, Repr

def MsrLine.delta : MsrLine → Byte
  | .cts => mxu1MsrDeltaCts
  | .dsr => mxu1MsrDeltaDsr
  | .dcd => mxu1MsrDeltaCd
  | .rng => mxu1MsrDeltaRi

def AsyncIcount.line (c : AsyncIcount) : MsrLine → Word
  | .cts => c.cts
  | .dsr => c.dsr
  | .dcd => c.dcd
  | .rng => c.rng

/-- The packet is a modem status for port `n` with the delta bit of the line. -/
def Packet.changes (n : Nat) (l : MsrLine) (packet : Packet) : Bool :=
  (packet.msrFor n).any (test · l.delta)

/-- The packets that are to change no port. -/
inductive Ignored (d : Device) (packet : Packet) : Prop
  | length (h : packet.data.length ≠ 2)
  | hardwareError (info : Byte) (h : packet.data = [mxu1CodeHardwareError, info])
  | port (code info : Byte) (h : packet.data = [code, info])
      (hport : ¬ (0 ≤ getPortFromCode code ∧ getPortFromCode code < d.numPorts))
  | function (code info : Byte) (h : packet.data = [code, info])
      (hfunc : getFuncFromCode code ≠ mxu1CodeModemStatus)

/-- **What is asked of a sequence of packets**: every lookup is in the array,
packets that are to be ignored change no port, and the counters of each port have
grown by the packets with the delta bit. -/
structure PacketsHandled (d : Device) (ps : List Packet) : Prop where
  lookups : ∃ d', run mxu1InterruptCallback d ps = .ok d'
  ignored : EachStep mxu1InterruptCallback
    (fun d packet d' => Ignored d packet → d'.ports = d.ports) d ps
  counted : ∀ d', run mxu1InterruptCallback d ps = .ok d' → ∀ n < d.numPorts, ∀ p,
    d.ports n = some p → ∃ p', d'.ports n = some p' ∧ ∀ l : MsrLine,
      p'.icount.line l = p.icount.line l + BitVec.ofNat 32 (ps.countP (Packet.changes n l))

/-- A packet of two bytes whose first has a high nibble below 3. -/
def BelowPorts (packet : Packet) : Prop :=
  packet.status = .ok ∧ ∃ code info, packet.data = [code, info] ∧ code >>> 4 < 3

/-! ## One status -/

theorem delta_covered (l : MsrLine) : mxu1MsrDeltaMask &&& l.delta = l.delta := by
  cases l with
  | cts => rfl
  | dsr => rfl
  | dcd => rfl
  | rng => rfl

/-- Each counter follows its delta bit. -/
theorem countDeltas_line (p : Port) (msr : Byte) (l : MsrLine) :
    (countDeltas p msr).icount.line l = bump (p.icount.line l) msr l.delta := by
  by_cases hany : msr &&& mxu1MsrDeltaMask ≠ 0
  · rw [countDeltas, if_pos hany]
    cases l with
    | cts => rfl
    | dsr => rfl
    | dcd => rfl
    | rng => rfl
  · have hno : test msr l.delta = false := by
      rw [← test_and_of_cover (delta_covered l), not_not.mp hany]
      simp [test]
    rw [countDeltas, if_neg hany, bump, hno]
    rfl

theorem mxu1HandleNewMsr_line (p : Port) (msr : Byte) (l : MsrLine) :
    (mxu1HandleNewMsr p msr).icount.line l = bump (p.icount.line l) msr l.delta :=
  countDeltas_line p msr l

/-! ## One packet -/

/-- What the driver does for one port. -/
def Packet.deliver (packet : Packet) (n : Nat) (p : Port) : Port :=
  (packet.msrFor n).elim p (mxu1HandleNewMsr p)

/-- A packet does to each port of the device what it has for it. -/
structure Delivered (d : Device) (packet : Packet) (d' : Device) : Prop where
  numPorts : d'.numPorts = d.numPorts
  ports : ∀ n < d.numPorts, d'.ports n = (d.ports n).map (packet.deliver n)

theorem delivered_refl {d : Device} {packet : Packet} {urbError : Bool}
    (h : ∀ n < d.numPorts, ∀ p, d.ports n = some p → packet.msrFor n = none) :
    Delivered d packet { d with urbError := urbError } := by
  refine ⟨rfl, ?_⟩
  intro n hn
  cases hp : d.ports n with
  | none => rfl
  | some p =>
      rw [Option.map_some, Packet.deliver, h n hn p hp]
      rfl

theorem getPortFromCode_neg_iff (code : Byte) : getPortFromCode code < 0 ↔ code >>> 4 < 3 := by
  have hlt : code >>> 4 < 3 ↔ (code >>> 4).toNat < 3 := BitVec.lt_def
  rw [hlt, getPortFromCode]
  omega

theorem msrFor_pair (code info : Byte) (n : Nat) :
    (⟨.ok, [code, info]⟩ : Packet).msrFor n =
      if getPortFromCode code = n ∧ getFuncFromCode code = mxu1CodeModemStatus then some info
      else none := rfl

theorem hardwareError_func : getFuncFromCode mxu1CodeHardwareError ≠ mxu1CodeModemStatus := by
  decide

theorem handlePacket_below (d : Device) {code : Byte} (info : Byte) (h : code >>> 4 < 3) :
    handlePacket d code info = .error (.portIndex (getPortFromCode code)) := by
  have hneg := (getPortFromCode_neg_iff code).mpr h
  have hne : code ≠ mxu1CodeHardwareError := by
    intro heq
    rw [heq] at h
    revert h
    decide
  have hlow : ¬ getPortFromCode code ≥ d.numPorts := by omega
  have hout : ¬ (0 ≤ getPortFromCode code ∧ getPortFromCode code < d.numPorts) := by omega
  rw [handlePacket, if_neg hne, if_neg hlow, Device.lookup, if_neg hout]
  rfl

theorem handlePacket_delivered {d : Device} {code info : Byte} (h : ¬ code >>> 4 < 3) :
    ∃ d', handlePacket d code info = .ok d' ∧ Delivered d ⟨.ok, [code, info]⟩ d' := by
  have hnonneg : 0 ≤ getPortFromCode code := by
    by_contra hneg
    exact h ((getPortFromCode_neg_iff code).mp (by omega))
  by_cases herr : code = mxu1CodeHardwareError
  · refine ⟨d, if_pos herr, delivered_refl fun n _ _ _ => ?_⟩
    rw [msrFor_pair, herr, if_neg fun hand => hardwareError_func hand.2]
  · rw [handlePacket, if_neg herr]
    by_cases hport : getPortFromCode code ≥ d.numPorts
    · refine ⟨d, if_pos hport, delivered_refl fun n hn _ _ => ?_⟩
      rw [msrFor_pair, if_neg fun hand => by have := hand.1; omega]
    · simp only [if_neg hport]
      have hin : 0 ≤ getPortFromCode code ∧ getPortFromCode code < d.numPorts := by omega
      obtain ⟨m, hm⟩ : ∃ m : Nat, getPortFromCode code = m :=
        ⟨_, (Int.toNat_of_nonneg hnonneg).symm⟩
      rw [Device.lookup, if_pos hin, hm, Int.toNat_natCast]
      -- the packet is for port `m` alone
      have hother : ∀ n, n ≠ m → (⟨.ok, [code, info]⟩ : Packet).msrFor n = none := by
        intro n hne
        rw [msrFor_pair, if_neg fun hand => hne (by have := hand.1; omega)]
      cases hp : d.ports m with
      | none =>
          refine ⟨d, rfl, delivered_refl fun n _ p hn => hother n ?_⟩
          intro heq
          rw [heq, hp] at hn
          cases hn
      | some p =>
          by_cases hfunc : getFuncFromCode code = mxu1CodeModemStatus
          · refine ⟨d.setPort m (mxu1HandleNewMsr p info), by simp [hfunc]; rfl, rfl, ?_⟩
            intro n _
            by_cases hn : n = m
            · have hsome : (⟨.ok, [code, info]⟩ : Packet).msrFor m = some info := by
                rw [msrFor_pair, if_pos ⟨hm, hfunc⟩]
              rw [hn, hp, Option.map_some, Packet.deliver, hsome]
              exact Function.update_self _ _ _
            · show Function.update d.ports m _ n = _
              rw [Function.update_of_ne hn]
              cases d.ports n with
              | none => rfl
              | some q =>
                  rw [Option.map_some, Packet.deliver, hother n hn]
                  rfl
          · refine ⟨d, by simp [hfunc]; rfl, delivered_refl fun n _ _ _ => ?_⟩
            rw [msrFor_pair, if_neg fun hand => hfunc hand.2]

theorem packet_eq {packet : Packet} {data : List Byte} (hs : packet.status = .ok)
    (hd : packet.data = data) : packet = ⟨.ok, data⟩ := by
  rw [← hs, ← hd]

theorem callback_below (d : Device) {packet : Packet} (h : BelowPorts packet) :
    ∃ e, mxu1InterruptCallback d packet = .error e := by
  obtain ⟨hs, code, info, hd, hlow⟩ := h
  rw [packet_eq hs hd]
  exact ⟨_, handlePacket_below d info hlow⟩

theorem callback_delivered (d : Device) {packet : Packet} (h : ¬ BelowPorts packet) :
    ∃ d', mxu1InterruptCallback d packet = .ok d' ∧ Delivered d packet d' := by
  by_cases hs : packet.status = .ok
  · rcases hd : packet.data with _ | ⟨code, _ | ⟨info, _ | ⟨b, rest⟩⟩⟩
    · rw [packet_eq hs hd]
      exact ⟨d, rfl, delivered_refl fun _ _ _ _ => rfl⟩
    · rw [packet_eq hs hd]
      exact ⟨d, rfl, delivered_refl fun _ _ _ _ => rfl⟩
    · rw [packet_eq hs hd]
      exact handlePacket_delivered fun hlow => h ⟨hs, code, info, hd, hlow⟩
    · rw [packet_eq hs hd]
      exact ⟨d, rfl, delivered_refl fun _ _ _ _ => rfl⟩
  · refine ⟨{ d with urbError := true }, if_pos hs, delivered_refl fun n _ _ _ => ?_⟩
    rw [Packet.msrFor, if_neg hs]

/-- A packet that is to be ignored and makes no lookup outside of the array
changes no port. -/
theorem callback_ignored {d d' : Device} {packet : Packet} (h : Ignored d packet)
    (hstep : mxu1InterruptCallback d packet = .ok d') : d'.ports = d.ports := by
  by_cases hs : packet.status = .ok
  · cases h with
    | length h =>
        rcases hd : packet.data with _ | ⟨code, _ | ⟨info, _ | ⟨b, rest⟩⟩⟩
        · rw [packet_eq hs hd] at hstep
          cases hstep
          rfl
        · rw [packet_eq hs hd] at hstep
          cases hstep
          rfl
        · rw [hd] at h
          exact absurd rfl h
        · rw [packet_eq hs hd] at hstep
          cases hstep
          rfl
    | hardwareError info h =>
        rw [packet_eq hs h] at hstep
        cases hstep
        rfl
    | port code info h hport =>
        rw [packet_eq hs h] at hstep
        by_cases hlow : code >>> 4 < 3
        · have hfault := hstep.symm.trans (handlePacket_below d info hlow)
          cases hfault
        · have hnonneg : ¬ getPortFromCode code < 0 := fun hneg =>
            hlow ((getPortFromCode_neg_iff code).mp hneg)
          have hhigh : getPortFromCode code ≥ d.numPorts := by omega
          have hexit : handlePacket d code info = .ok d := by
            rw [handlePacket, if_pos hhigh]
            split
            · rfl
            · rfl
          cases hexit.symm.trans hstep
          rfl
    | function code info h hfunc =>
        rw [packet_eq hs h] at hstep
        have hstep' : handlePacket d code info = .ok d' := hstep
        simp only [handlePacket, Device.lookup, if_neg hfunc] at hstep'
        split at hstep'
        · cases hstep'
          rfl
        · split at hstep'
          · cases hstep'
            rfl
          · split at hstep'
            · cases hp : d.ports (getPortFromCode code).toNat with
              | none =>
                  rw [hp] at hstep'
                  cases hstep'
                  rfl
              | some p =>
                  rw [hp] at hstep'
                  cases hstep'
                  rfl
            · cases hstep'
  · cases (if_pos hs).symm.trans hstep
    rfl

theorem deliver_line (packet : Packet) (n : Nat) (p : Port) (l : MsrLine) :
    (packet.deliver n p).icount.line l =
      p.icount.line l + BitVec.ofNat 32 (packet.changes n l).toNat := by
  rw [Packet.deliver, Packet.changes]
  cases packet.msrFor n with
  | none => exact (BitVec.add_zero _).symm
  | some msr =>
      show (mxu1HandleNewMsr p msr).icount.line l = _
      rw [mxu1HandleNewMsr_line, bump, Option.any_some]
      cases test msr l.delta with
      | true => rfl
      | false => exact (BitVec.add_zero _).symm

/-! ## Whole sequences -/

/-- The lookups of a sequence stay in the array exactly when no packet has a high
nibble below 3. -/
theorem run_completes_iff (ps : List Packet) : ∀ d : Device,
    (∃ d', run mxu1InterruptCallback d ps = .ok d') ↔ ∀ packet ∈ ps, ¬ BelowPorts packet := by
  induction ps with
  | nil => exact fun d => ⟨fun _ _ h => absurd h List.not_mem_nil, fun _ => ⟨d, rfl⟩⟩
  | cons packet ps ih =>
      intro d
      rw [List.forall_mem_cons]
      constructor
      · rintro ⟨d', hrun⟩
        obtain ⟨d₁, hstep, hrest⟩ := run_cons_ok.mp hrun
        refine ⟨?_, (ih d₁).mp ⟨d', hrest⟩⟩
        intro hlow
        obtain ⟨e, he⟩ := callback_below d hlow
        cases he.symm.trans hstep
      · rintro ⟨hlow, hrest⟩
        obtain ⟨d₁, hstep, -⟩ := callback_delivered d hlow
        obtain ⟨d', hrun⟩ := (ih d₁).mpr hrest
        exact ⟨d', run_cons_ok.mpr ⟨d₁, hstep, hrun⟩⟩

theorem callback_ok {d d' : Device} {packet : Packet}
    (h : mxu1InterruptCallback d packet = .ok d') : Delivered d packet d' := by
  by_cases hlow : BelowPorts packet
  · obtain ⟨e, he⟩ := callback_below d hlow
    cases he.symm.trans h
  · obtain ⟨d₁, hstep, hdel⟩ := callback_delivered d hlow
    cases hstep.symm.trans h
    exact hdel

/-- The counters after a sequence of packets. -/
theorem run_counts (n : Nat) (ps : List Packet) : ∀ {d d' : Device} {p : Port},
    run mxu1InterruptCallback d ps = .ok d' → n < d.numPorts → d.ports n = some p →
    ∃ p', d'.ports n = some p' ∧ ∀ l : MsrLine,
      p'.icount.line l = p.icount.line l + BitVec.ofNat 32 (ps.countP (Packet.changes n l)) := by
  induction ps with
  | nil =>
      intro d d' p hrun _ hp
      cases hrun
      exact ⟨p, hp, fun l => (BitVec.add_zero _).symm⟩
  | cons packet ps ih =>
      intro d d' p hrun hn hp
      obtain ⟨d₁, hstep, hrest⟩ := run_cons_ok.mp hrun
      have hdel := callback_ok hstep
      have hp₁ : d₁.ports n = some (packet.deliver n p) := by
        rw [hdel.ports n hn, hp]
        rfl
      obtain ⟨p', hp', hline⟩ := ih hrest (hdel.numPorts ▸ hn) hp₁
      refine ⟨p', hp', fun l => ?_⟩
      rw [hline, deliver_line, countP_cons_toNat, BitVec.add_assoc, ← BitVec.ofNat_add,
        Nat.add_comm]

/-- **Interrupt packets are handled safely exactly when none of two bytes has a
high nibble below 3** in its first byte. -/
theorem interrupt_packets_handled_iff (d : Device) (ps : List Packet) :
    PacketsHandled d ps ↔ ∀ packet ∈ ps, ¬ BelowPorts packet := by
  constructor
  · intro h
    exact (run_completes_iff ps d).mp h.lookups
  · intro h
    refine ⟨(run_completes_iff ps d).mpr h, ?_, ?_⟩
    · intro pre packet _ d₁ _ d₂ hstep hignored
      exact callback_ignored hignored hstep
    · intro d' hrun n hn p hp
      exact run_counts n ps hrun hn hp

/-- The first byte `0x24` is taken for port -1. -/
theorem interrupt_packet_below_ports :
    run mxu1InterruptCallback ⟨1, fun _ => some (startupPort .model1110 fun _ => 0), false⟩
      [⟨.ok, [0x24, 0x11]⟩] = .error (.portIndex (-1)) := by
  rfl

end MoxaDrivers.Mxu11x0

import MoxaDrivers.Dio.Output

/-!
# The port that the LEDs and the outputs of a DA-682B share

Port 0x206 has the LEDs in its low four bits, low when lit, and two outputs in
the bits 6 and 7. `pled_write` and `DA_682B_DO_dio_outb` read the port, change
their bits and write it back, each in its own module and without a lock; the
latter works in `do_state`, which all its calls share. `moxa_platform_led_init`
writes the port without reading it.
-/

namespace MoxaDrivers.Dio

open MoxaDrivers.Bits MoxaDrivers.CInt MoxaDrivers.Machine

def ledNum : Nat := 4
def ledPort : Nat := 0x206
def ledMask : Byte := 0x0F

/-- A digit of `stack_buf`. -/
def pledDigit (stackBuf : Nat → Char) (status : Byte) (i : Nat) : Option Byte :=
  if stackBuf i = '1' then some (status ||| (1 : Byte) <<< i)
  else if stackBuf i = '0' then some status
  else none

/-- The digits as a byte, if all are digits. -/
def pledStatus (stackBuf : Nat → Char) : Option Byte :=
  (List.range ledNum).foldlM (pledDigit stackBuf) 0

/-- Digits that `pled_write` accepts. -/
structure Digits where
  stackBuf : Nat → Char
  status : Byte
  parsed : pledStatus stackBuf = some status

/-- The two outputs that the board has brought out. -/
inductive DoLine where
  | do0
  | do1
  deriving DecidableEq, Repr

def DoLine.bit : DoLine → Nat
  | .do0 => 6
  | .do1 => 7

/-- A call between its first and its last access to the port. -/
inductive Call where
  /-- `pled_write` has read the port. -/
  | led (digits : Digits) (read : Byte)
  /-- `DA_682B_DO_dio_outb` has read the port, and has changed its bit or not. -/
  | dout (line : DoLine) (v changed : Bool)

/-- The two modules, the calls in progress, and what the last call to complete
has asked of each bit of the port. -/
structure PortShare where
  driver : Driver
  ports : Ports
  inProgress : List Call
  asked : Nat → Bool

def PortShare.port (s : PortShare) : Byte := s.ports.latch ledPort

inductive PortOp where
  | ledInit
  | pledWrite (stackBuf : Nat → Char) (count : Nat)
  | setDout (line : DoLine) (v : Bool)
  /-- The call with the number goes on to its next step. -/
  | go (i : Nat)

/-- The LEDs off, and the outputs low. -/
def moxaPlatformLedInit (s : PortShare) : PortShare :=
  { s with
    ports := s.ports.outb ledMask ledPort
    asked := fun n => if n < ledNum then true else s.asked n }

/-- Up to the read. A count or a digit that is not accepted ends the call before. -/
def pledWrite (s : PortShare) (stackBuf : Nat → Char) (count : Nat) : PortShare :=
  if count ≠ ledNum + 1 then s
  else
    match h : pledStatus stackBuf with
    | none => s
    | some status =>
        { s with
          inProgress := .led ⟨stackBuf, status, h⟩ (s.ports.inb .da682B ledPort) :: s.inProgress }

/-- Up to the read. -/
def doutBegin (s : PortShare) (line : DoLine) (v : Bool) : PortShare :=
  { s with
    driver := { s.driver with doState := s.ports.inb .da682B ledPort }
    inProgress := .dout line v false :: s.inProgress }

/-- The write of `pled_write`. -/
def ledFinish (s : PortShare) (digits : Digits) (read : Byte) : PortShare :=
  { s with
    ports := s.ports.outb (read &&& ~~~ledMask ||| ~~~digits.status &&& ledMask) ledPort
    asked := fun n => if n < ledNum then decide (digits.stackBuf n ≠ '1') else s.asked n }

def doutChange (s : PortShare) (line : DoLine) (v : Bool) : PortShare :=
  { s with driver := { s.driver with doState := drive s.driver.doState line.bit (modeOf v) } }

/-- The write of `DA_682B_DO_dio_outb`. -/
def doutFinish (s : PortShare) (line : DoLine) (v : Bool) : PortShare :=
  { s with
    ports := s.ports.outb s.driver.doState ledPort
    asked := Function.update s.asked line.bit v }

def PortShare.go (s : PortShare) (i : Nat) : PortShare :=
  match s.inProgress[i]? with
  | none => s
  | some (.led digits read) =>
      ledFinish { s with inProgress := s.inProgress.eraseIdx i } digits read
  | some (.dout line v false) =>
      doutChange { s with inProgress := s.inProgress.set i (.dout line v true) } line v
  | some (.dout line v true) =>
      doutFinish { s with inProgress := s.inProgress.eraseIdx i } line v

def portStep (s : PortShare) : PortOp → Except Empty PortShare
  | .ledInit => .ok (moxaPlatformLedInit s)
  | .pledWrite stackBuf count => .ok (pledWrite s stackBuf count)
  | .setDout line v => .ok (doutBegin s line v)
  | .go i => .ok (s.go i)

/-- No call in progress, and the bits as they are. -/
def shared (d : Driver) (b : Ports) : PortShare := ⟨d, b, [], (b.latch ledPort).getLsbD⟩

/-! ## What the modules owe each other -/

/-- The bits that have a LED or an output. -/
def portBits : List Nat := [0, 1, 2, 3, 6, 7]

/-- Each LED and each output is as the last call has asked. -/
def AsAsked (s : PortShare) : Prop := ∀ n ∈ portBits, s.port.getLsbD n = s.asked n

/-- **The modules do not disturb each other.** -/
def Undisturbed (s : PortShare) : Prop := s.inProgress = [] → AsAsked s

/-- `pled_write` writes the outputs as they still are, and `DA_682B_DO_dio_outb`
its own bit as asked and the others as they still are. -/
def Call.Apart (s : PortShare) : Call → Prop
  | .led _ read => ∀ line : DoLine, read.getLsbD line.bit = s.port.getLsbD line.bit
  | .dout _ _ false => True
  | .dout line v true =>
      s.driver.doState.getLsbD line.bit = v ∧
        ∀ n ∈ portBits, n ≠ line.bit → s.driver.doState.getLsbD n = s.port.getLsbD n

/-- The step writes nothing over: the LED module is loaded with the outputs low,
and a call that writes finds the port as it needs it. -/
def Apart (s : PortShare) : PortOp → Prop
  | .ledInit => ∀ line : DoLine, s.port.getLsbD line.bit = false
  | .go i => ∀ call ∈ s.inProgress[i]?, call.Apart s
  | _ => True

instance (P : DoLine → Prop) [DecidablePred P] : Decidable (∀ line, P line) :=
  decidable_of_iff (P .do0 ∧ P .do1)
    ⟨fun h line => match line with
      | .do0 => h.1
      | .do1 => h.2, fun h => ⟨h .do0, h .do1⟩⟩

instance (s : PortShare) : DecidablePred (Call.Apart s)
  | .led _ read => inferInstanceAs (Decidable (∀ line : DoLine,
      read.getLsbD line.bit = s.port.getLsbD line.bit))
  | .dout _ _ false => .isTrue trivial
  | .dout line v true => inferInstanceAs (Decidable (s.driver.doState.getLsbD line.bit = v ∧
      ∀ n ∈ portBits, n ≠ line.bit → s.driver.doState.getLsbD n = s.port.getLsbD n))

instance (s : PortShare) : (op : PortOp) → Decidable (Apart s op)
  | .ledInit =>
      inferInstanceAs (Decidable (∀ line : DoLine, s.port.getLsbD line.bit = false))
  | .pledWrite _ _ => .isTrue trivial
  | .setDout _ _ => .isTrue trivial
  | .go i => inferInstanceAs (Decidable (∀ call ∈ s.inProgress[i]?, call.Apart s))

/-! ## The calls -/

theorem port_outb (b : Ports) (val : Byte) : (b.outb val ledPort).latch ledPort = val := by
  simp [Ports.outb]

/-- With nothing in between, the three steps of a call are
`DA_682B_DO_dio_outb`. -/
theorem dout_steps (s : PortShare) (line : DoLine) (v : Bool) :
    ∃ t, run portStep s [.setDout line v, .go 0, .go 0] = .ok t ∧
      da682BDoDioOutb s.driver s.ports ⟨line.bit, modeOf v⟩ = .ok (t.driver, t.ports) := by
  refine ⟨_, rfl, ?_⟩
  cases line with
  | do0 => rfl
  | do1 => rfl

/-- A digit sets its bit. -/
theorem pledDigit_bit {stackBuf : Nat → Char} {status status' : Byte} {i : Nat} (hi : i < 8)
    (h : pledDigit stackBuf status i = some status') (n : Nat) :
    status'.getLsbD n =
      if n = i ∧ stackBuf i = '1' then true else status.getLsbD n := by
  simp only [pledDigit] at h
  by_cases hone : stackBuf i = '1'
  · rw [if_pos hone] at h
    cases h
    rw [getLsbD_or_bit status hi]
    simp [hone]
  · rw [if_neg hone] at h
    split at h
    · cases h
      rw [if_neg (fun hboth => hone hboth.2)]
    · cases h

theorem pledDigits_bit {stackBuf : Nat → Char} {m : Nat} (hm : m ≤ 8) :
    ∀ {status : Byte}, (List.range m).foldlM (pledDigit stackBuf) 0 = some status →
      ∀ n, status.getLsbD n = decide (n < m ∧ stackBuf n = '1') := by
  induction m with
  | zero =>
      intro status h n
      cases h
      simp
  | succ m ih =>
      intro status h n
      rw [List.range_succ, List.foldlM_append] at h
      obtain ⟨before, hbefore, hdigit⟩ := Option.bind_eq_some_iff.mp h
      rw [List.foldlM_cons] at hdigit
      obtain ⟨after, hafter, hdone⟩ := Option.bind_eq_some_iff.mp hdigit
      cases hdone
      rw [pledDigit_bit (by omega) hafter, ih (by omega) hbefore n]
      by_cases hn : n = m
      · subst hn
        simp
      · have hiff : n < m ↔ n < m + 1 := by omega
        simp [hn, hiff]

/-- What `pled_write` makes of the digits. -/
theorem pledStatus_bit {stackBuf : Nat → Char} {status : Byte}
    (h : pledStatus stackBuf = some status) {n : Nat} (hn : n < ledNum) :
    status.getLsbD n = decide (stackBuf n = '1') := by
  rw [pledDigits_bit (by decide) h n]
  simp [hn]

/-! ## One step -/

theorem mem_portBits {n : Nat} : n ∈ portBits ↔ n < ledNum ∨ n = 6 ∨ n = 7 := by
  simp only [portBits, ledNum, List.mem_cons, List.not_mem_nil, or_false]
  omega

@[simp] theorem ledMask_bit (n : Nat) : ledMask.getLsbD n = decide (n < ledNum) := by
  by_cases hn : n < 8
  · revert n
    decide
  · have hge : ¬ n < ledNum := by
      rw [ledNum]
      omega
    rw [BitVec.getLsbD_of_ge _ _ (by omega), decide_eq_false hge]

/-- A word written with the LEDs as asked leaves only the outputs to look at. -/
theorem asAsked_iff_of_leds {s t : PortShare} (h : AsAsked s)
    (hleds : ∀ n < ledNum, t.port.getLsbD n = t.asked n)
    (hasked : ∀ n, ¬ n < ledNum → t.asked n = s.asked n) :
    AsAsked t ↔ ∀ line : DoLine, t.port.getLsbD line.bit = s.port.getLsbD line.bit := by
  have hline (line : DoLine) : line.bit ∈ portBits ∧ ¬ line.bit < ledNum := by
    cases line <;> decide
  constructor
  · intro ht line
    rw [ht line.bit (hline line).1, hasked line.bit (hline line).2, h line.bit (hline line).1]
  · intro hsame n hn
    by_cases hlt : n < ledNum
    · exact hleds n hlt
    · rw [hasked n hlt, ← h n hn]
      obtain hlt' | rfl | rfl := mem_portBits.mp hn
      · exact absurd hlt' hlt
      · exact hsame .do0
      · exact hsame .do1

theorem ledInit_iff {s : PortShare} (h : AsAsked s) :
    AsAsked (moxaPlatformLedInit s) ↔ ∀ line : DoLine, s.port.getLsbD line.bit = false := by
  have hport : (moxaPlatformLedInit s).port = ledMask := port_outb s.ports ledMask
  rw [asAsked_iff_of_leds h]
  · refine forall_congr' fun line => ?_
    have hlow : ledMask.getLsbD line.bit = false := by cases line <;> decide
    rw [hport, hlow]
    exact eq_comm
  · intro n hn
    rw [hport, ledMask_bit, decide_eq_true hn]
    exact (if_pos hn).symm
  · intro n hn
    exact if_neg hn

theorem ledFinish_iff {s : PortShare} (h : AsAsked s) (digits : Digits) (read : Byte) :
    AsAsked (ledFinish s digits read) ↔
      ∀ line : DoLine, read.getLsbD line.bit = s.port.getLsbD line.bit := by
  have hport : (ledFinish s digits read).port =
      (read &&& ~~~ledMask ||| ~~~digits.status &&& ledMask) := port_outb s.ports _
  have hbit (n : Nat) : (ledFinish s digits read).port.getLsbD n =
      if n < ledNum then !digits.status.getLsbD n else read.getLsbD n := by
    rw [hport, BitVec.getLsbD_or, BitVec.getLsbD_and, BitVec.getLsbD_and, BitVec.getLsbD_not,
      BitVec.getLsbD_not, ledMask_bit]
    by_cases hn : n < ledNum
    · have hlt : n < 8 := Nat.lt_trans hn (by decide)
      simp [hn, hlt]
    · have hlt : read.getLsbD n = true → n < 8 := BitVec.lt_of_getLsbD
      simpa [hn] using hlt
  rw [asAsked_iff_of_leds h]
  · refine forall_congr' fun line => ?_
    have hline : ¬ line.bit < ledNum := by cases line <;> decide
    rw [hbit, if_neg hline]
  · intro n hn
    rw [hbit, if_pos hn, pledStatus_bit digits.parsed hn]
    refine Eq.trans ?_ (if_pos hn).symm
    simp
  · intro n hn
    exact if_neg hn

theorem doutFinish_iff {s : PortShare} (h : AsAsked s) (line : DoLine) (v : Bool) :
    AsAsked (doutFinish s line v) ↔
      s.driver.doState.getLsbD line.bit = v ∧
        ∀ n ∈ portBits, n ≠ line.bit → s.driver.doState.getLsbD n = s.port.getLsbD n := by
  have hport : (doutFinish s line v).port = s.driver.doState := port_outb s.ports _
  have hasked (n : Nat) : (doutFinish s line v).asked n = if n = line.bit then v else s.asked n := by
    simp only [doutFinish, Function.update_apply]
  have hmem : line.bit ∈ portBits := by cases line <;> decide
  constructor
  · intro ht
    constructor
    · have hown := ht line.bit hmem
      rw [hport, hasked, if_pos rfl] at hown
      exact hown
    · intro n hn hne
      have hother := ht n hn
      rw [hport, hasked, if_neg hne] at hother
      rw [hother, h n hn]
  · rintro ⟨hown, hothers⟩ n hn
    rw [hport, hasked]
    by_cases hne : n = line.bit
    · rw [if_pos hne, hne, hown]
    · rw [if_neg hne, hothers n hn hne, h n hn]

/-- What a step that writes nothing leaves. -/
theorem asAsked_of_same {s t : PortShare} (hports : t.ports = s.ports) (hasked : t.asked = s.asked) :
    AsAsked t ↔ AsAsked s := by
  rw [AsAsked, AsAsked, PortShare.port, PortShare.port, hports, hasked]

theorem pledWrite_same (s : PortShare) (stackBuf : Nat → Char) (count : Nat) :
    (pledWrite s stackBuf count).ports = s.ports ∧ (pledWrite s stackBuf count).asked = s.asked := by
  unfold pledWrite
  split
  · exact ⟨rfl, rfl⟩
  · split
    · exact ⟨rfl, rfl⟩
    · exact ⟨rfl, rfl⟩

theorem go_asAsked_iff {s : PortShare} (h : AsAsked s) (i : Nat) :
    AsAsked (s.go i) ↔ Apart s (.go i) := by
  simp only [PortShare.go, Apart]
  cases s.inProgress[i]? with
  | none => simp [h]
  | some call =>
      simp only [Option.mem_def, Option.some.injEq, forall_eq']
      cases call with
      | led digits read => exact ledFinish_iff (s := { s with inProgress := _ }) h digits read
      | dout line v changed =>
          cases changed with
          | false => exact iff_of_true ((asAsked_of_same rfl rfl).mpr h) trivial
          | true => exact doutFinish_iff (s := { s with inProgress := _ }) h line v

/-- A step keeps the bits as asked exactly if it is apart. -/
theorem step_asAsked_iff {s : PortShare} (h : AsAsked s) (op : PortOp) :
    ∃ t, portStep s op = .ok t ∧ (AsAsked t ↔ Apart s op) := by
  cases op with
  | ledInit => exact ⟨_, rfl, ledInit_iff h⟩
  | pledWrite stackBuf count =>
      obtain ⟨hports, hasked⟩ := pledWrite_same s stackBuf count
      exact ⟨_, rfl, iff_true_intro ((asAsked_of_same hports hasked).mpr h)⟩
  | setDout line v => exact ⟨_, rfl, iff_true_intro ((asAsked_of_same rfl rfl).mpr h)⟩
  | go i => exact ⟨_, rfl, go_asAsked_iff h i⟩

/-! ## Whole runs -/

/-- At every moment, a call in progress or not. -/
theorem asAsked_iff_apart {s : PortShare} (h : AsAsked s) (ops : List PortOp) :
    Always portStep AsAsked s ops ↔ Guarded portStep Apart s ops := by
  refine always_iff_guarded (fun _ hs => hs) ?_ ?_ h
  · intro s op t hs hapart ht
    obtain ⟨u, hu, hiff⟩ := step_asAsked_iff hs op
    cases hu.symm.trans ht
    exact hiff.mpr hapart
  · intro s op hs hnot
    obtain ⟨t, ht, hiff⟩ := step_asAsked_iff hs op
    exact ⟨t, ht, fun hasked => hnot (hiff.mp hasked)⟩

theorem shared_asAsked (d : Driver) (b : Ports) : AsAsked (shared d b) := fun _ _ => rfl

/-- **LEDs and outputs that do not disturb each other**: in a run whose writes
have nothing to undo, each bit is as the last call has asked whenever none is in
progress. -/
theorem leds_and_outputs_undisturbed (d : Driver) (b : Ports) (ops : List PortOp)
    (h : Guarded portStep Apart (shared d b) ops) :
    Always portStep Undisturbed (shared d b) ops :=
  ((asAsked_iff_apart (shared_asAsked d b) ops).mpr h).mono fun _ hs _ => hs

/-- A LED and an output, one after the other, on a port that has all bits low. -/
theorem one_after_the_other :
    Always portStep Undisturbed (shared ⟨0, fun _ => 0⟩ ⟨fun _ => 0, fun _ => 0⟩)
      [.setDout .do0 true, .go 0, .go 0, .pledWrite (fun _ => '1') 5, .go 0] :=
  leds_and_outputs_undisturbed _ _ _ (by decide)

/-- With the first output high, loading the LED module sets it low. -/
theorem led_module_lowers_outputs :
    ¬ Always portStep Undisturbed (shared ⟨0, fun _ => 0⟩ ⟨fun _ => 0x40, fun _ => 0⟩)
      [.ledInit] := by
  intro h
  have hasked := h _ (List.prefix_refl _) _ rfl rfl
  have hlow : false = true := hasked 6 (by decide)
  cases hlow

end MoxaDrivers.Dio

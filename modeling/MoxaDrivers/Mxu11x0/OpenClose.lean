import MoxaDrivers.Lib.Machine
import MoxaDrivers.Lib.Tally

/-!
# Opening and closing the ports of a device

`mxu1_open` and `mxu1_close` of all ports of one device, in any order and cut up at each
access to what the ports share: the semaphore `mxd_open_close_sem`, the counter
`mxd_open_port_count` and the interrupt URB, which is to be submitted while a port is
open. A close whose `down_interruptible` is interrupted goes on without the semaphore.
-/

namespace MoxaDrivers.Mxu11x0

open MoxaDrivers.Machine MoxaDrivers.Tally

/-! ## The code -/

/-- What `mxu1_open` still has to do at the device; `mxu1_set_termios` is not among it,
as its result is ignored. -/
inductive OpenCommand where
  | openPort
  | startPort
  | purgeInput
  | purgeOutput
  | submitReadUrb
  deriving DecidableEq, Repr

/-- Where a port is. The core opens a port only when it is closed, and closes it only
when it is open. -/
inductive PortPlace where
  | closed
  /-- `mxu1_open` at `down_interruptible`. -/
  | openWait
  /-- Before the counter is looked at. -/
  | openCheck
  | openSetup (rest : List OpenCommand)
  /-- Before `++mxd_open_port_count`. -/
  | openCount
  /-- At `unlink_int_urb`. -/
  | openUnlink
  /-- At `up_sem`. -/
  | openUp (ok : Bool)
  | opened
  /-- `mxu1_close` before and at `down_interruptible`. -/
  | closeWait
  /-- Before `--mxd_open_port_count`. -/
  | closeCount (doUp : Bool)
  /-- Before the counter is set to 0. -/
  | closeZero (doUp : Bool)
  | closeUp (doUp : Bool)
  deriving DecidableEq, Repr

structure OpenClose where
  mxdOpenPortCount : Int
  /-- `mxd_open_close_sem` is down. -/
  sem : Bool
  /-- The interrupt URB is submitted. -/
  intUrb : Bool
  ports : List PortPlace
  deriving DecidableEq, Repr

/-- After `mxu1_startup`. -/
def OpenClose.start (numPorts : Nat) : OpenClose :=
  ⟨0, false, false, List.replicate numPorts .closed⟩

def openCommands : List OpenCommand :=
  [.openPort, .startPort, .purgeInput, .purgeOutput, .submitReadUrb]

/-- The next access of a port. `ok` says whether it succeeds: that no signal interrupts
`down_interruptible`, that there is an interrupt URB and its submission succeeds (which
it does not while the URB is submitted already), or that the device takes the command. -/
def OpenClose.access (d : OpenClose) (ok : Bool) : PortPlace → OpenClose × PortPlace
  | .closed => (d, .openWait)
  | .openWait =>
      if !ok then (d, .closed)
      else if d.sem then (d, .openWait)
      else ({ d with sem := true }, .openCheck)
  | .openCheck =>
      if d.mxdOpenPortCount = 0 then
        if ok ∧ d.intUrb = false then ({ d with intUrb := true }, .openSetup openCommands)
        else (d, .openUp false)
      else (d, .openSetup openCommands)
  | .openSetup [] => (d, .openCount)
  | .openSetup (_ :: rest) => if ok then (d, .openSetup rest) else (d, .openUnlink)
  | .openCount => ({ d with mxdOpenPortCount := d.mxdOpenPortCount + 1 }, .openUp true)
  | .openUnlink =>
      (if d.mxdOpenPortCount = 0 then { d with intUrb := false } else d, .openUp false)
  | .openUp done => ({ d with sem := false }, if done then .opened else .closed)
  | .opened => (d, .closeWait)
  | .closeWait =>
      -- interrupted, it continues anyway
      if !ok then (d, .closeCount false)
      else if d.sem then (d, .closeWait)
      else ({ d with sem := true }, .closeCount true)
  | .closeCount doUp =>
      if d.mxdOpenPortCount - 1 ≤ 0 then
        ({ d with mxdOpenPortCount := d.mxdOpenPortCount - 1, intUrb := false }, .closeZero doUp)
      else ({ d with mxdOpenPortCount := d.mxdOpenPortCount - 1 }, .closeUp doUp)
  | .closeZero doUp => ({ d with mxdOpenPortCount := 0 }, .closeUp doUp)
  | .closeUp doUp => (if doUp then { d with sem := false } else d, .closed)

/-- The port that goes on. -/
structure PortTurn where
  port : Nat
  ok : Bool
  deriving DecidableEq, Repr

def openCloseStep (d : OpenClose) (t : PortTurn) : Except Empty OpenClose :=
  match d.ports[t.port]? with
  | some pc => .ok { (d.access t.ok pc).1 with ports := d.ports.set t.port (d.access t.ok pc).2 }
  | none => .ok d

/-! ## The section -/

/-- Between `down_interruptible` and `up`, with the semaphore or without. -/
def PortPlace.inside : PortPlace → Bool
  | .openCheck | .openSetup _ | .openCount | .openUnlink | .openUp _ => true
  | .closeCount _ | .closeZero _ | .closeUp _ => true
  | _ => false

/-- Inside, and to call `up`. -/
def PortPlace.holds : PortPlace → Bool
  | .openCheck | .openSetup _ | .openCount | .openUnlink | .openUp _ => true
  | .closeCount doUp | .closeZero doUp | .closeUp doUp => doUp
  | _ => false

/-- Counted in `mxd_open_port_count`. -/
def PortPlace.counted : PortPlace → Bool
  | .openUp done => done
  | .opened | .closeWait | .closeCount _ => true
  | _ => false

/-- Opening, with the interrupt URB submitted. -/
def PortPlace.settingUp : PortPlace → Bool
  | .openSetup _ | .openCount | .openUnlink => true
  | _ => false

/-- About to set the counter to 0. -/
def PortPlace.zeroing : PortPlace → Bool
  | .closeZero _ => true
  | _ => false

def OpenClose.tally (d : OpenClose) (f : PortPlace → Bool) : Nat := d.ports.countP f

/-- A port comes in only when nobody is inside. The semaphore sees to that, but for a
close that was interrupted. -/
def EntersAlone (d : OpenClose) (t : PortTurn) : Prop :=
  ∀ pc ∈ d.ports[t.port]?, pc.inside = false → (d.access t.ok pc).2.inside = true →
    d.tally PortPlace.inside = 0

instance (d : OpenClose) (t : PortTurn) : Decidable (EntersAlone d t) := by
  unfold EntersAlone
  infer_instance

/-- What the ports share says what they are. -/
structure OpenClose.Consistent (d : OpenClose) : Prop where
  alone : d.tally PortPlace.inside ≤ 1
  /-- Every open port has the interrupt URB. -/
  served : PortPlace.opened ∈ d.ports → d.intUrb = true
  /-- The URB is not submitted twice. -/
  once : PortPlace.openCheck ∈ d.ports → d.mxdOpenPortCount = 0 → d.intUrb = false
  /-- With nobody inside, the counter counts the open ports and those that wait to close,
  and the URB is submitted exactly if there is one. -/
  settled : d.tally PortPlace.inside = 0 →
    d.mxdOpenPortCount = d.tally PortPlace.counted ∧
      (d.intUrb = true ↔ 0 < d.tally PortPlace.counted)

/-! ## The invariant -/

structure OpenCloseInv (d : OpenClose) : Prop where
  alone : d.tally PortPlace.inside ≤ 1
  sem : d.sem = true ↔ 0 < d.tally PortPlace.holds
  count : d.mxdOpenPortCount = d.tally PortPlace.counted
  urb : d.intUrb = true ↔ 0 < d.tally PortPlace.counted + d.tally PortPlace.settingUp
  zero : 0 < d.tally PortPlace.zeroing → d.mxdOpenPortCount = 0

section Places

variable {d : OpenClose} {pc : PortPlace} {i : Nat}

theorem holds_inside : ∀ pc : PortPlace, pc.holds = true → pc.inside = true := by
  intro pc
  cases pc <;> simp [PortPlace.holds, PortPlace.inside]

theorem settingUp_inside : ∀ pc : PortPlace, pc.settingUp = true → pc.inside = true := by
  intro pc
  cases pc <;> simp [PortPlace.settingUp, PortPlace.inside]

theorem zeroing_inside : ∀ pc : PortPlace, pc.zeroing = true → pc.inside = true := by
  intro pc
  cases pc <;> simp [PortPlace.zeroing, PortPlace.inside]

theorem tally_holds_le (d : OpenClose) :
    d.tally PortPlace.holds ≤ d.tally PortPlace.inside :=
  List.countP_mono_left fun pc _ => holds_inside pc

theorem tally_settingUp_le (d : OpenClose) :
    d.tally PortPlace.settingUp ≤ d.tally PortPlace.inside :=
  List.countP_mono_left fun pc _ => settingUp_inside pc

/-- A port inside that is not setting up leaves nobody who is. -/
theorem OpenCloseInv.no_settingUp (h : OpenCloseInv d) (hi : d.ports[i]? = some pc)
    (hin : pc.inside = true) (hset : pc.settingUp = false) : d.tally PortPlace.settingUp = 0 :=
  countP_eq_zero_of_alone _ hi hin hset settingUp_inside h.alone

/-- Nor one inside that is not about to set the counter to 0 one who is. -/
theorem OpenCloseInv.no_zeroing (h : OpenCloseInv d) (hi : d.ports[i]? = some pc)
    (hin : pc.inside = true) (hzero : pc.zeroing = false) : d.tally PortPlace.zeroing = 0 :=
  countP_eq_zero_of_alone _ hi hin hzero zeroing_inside h.alone

/-- A port with the property makes its tally positive. -/
theorem tally_pos {f : PortPlace → Bool} (hi : d.ports[i]? = some pc) (hf : f pc = true) :
    0 < d.tally f :=
  List.countP_pos_iff.mpr ⟨pc, List.mem_of_getElem? hi, hf⟩

end Places

theorem openCloseInv_start (n : Nat) : OpenCloseInv (.start n) := by
  have hzero : ∀ f : PortPlace → Bool, f .closed = false → (OpenClose.start n).tally f = 0 := by
    intro f hf
    simp [OpenClose.tally, OpenClose.start, List.countP_replicate, hf]
  constructor
  · rw [hzero _ rfl]
    exact Nat.zero_le _
  · rw [hzero _ rfl]
    simp [OpenClose.start]
  · rw [hzero _ rfl]
    rfl
  · rw [hzero _ rfl, hzero _ rfl]
    simp [OpenClose.start]
  · exact fun _ => rfl

/-- What a place is counted for. -/
def PortPlace.marks (pc : PortPlace) : Bool × Bool × Bool × Bool × Bool :=
  (pc.inside, pc.holds, pc.counted, pc.settingUp, pc.zeroing)

/-- A port that goes on without a change to what is counted. -/
theorem OpenCloseInv.move {d : OpenClose} {i : Nat} {pc pc' : PortPlace} (h : OpenCloseInv d)
    (hi : d.ports[i]? = some pc) (hm : pc'.marks = pc.marks) :
    OpenCloseInv { d with ports := d.ports.set i pc' } := by
  obtain ⟨hin, hholds, hcounted, hset, hzero⟩ : pc'.inside = pc.inside ∧
      pc'.holds = pc.holds ∧ pc'.counted = pc.counted ∧ pc'.settingUp = pc.settingUp ∧
      pc'.zeroing = pc.zeroing := by
    simpa [PortPlace.marks] using hm
  have hsame : ∀ f : PortPlace → Bool, f pc' = f pc →
      OpenClose.tally { d with ports := d.ports.set i pc' } f = d.tally f := by
    intro f hf
    have hmove := countP_set_add f (b := pc') hi
    rw [hf] at hmove
    exact Nat.add_right_cancel hmove
  constructor
  · rw [hsame _ hin]
    exact h.alone
  · rw [hsame _ hholds]
    exact h.sem
  · rw [hsame _ hcounted]
    exact h.count
  · rw [hsame _ hcounted, hsame _ hset]
    exact h.urb
  · rw [hsame _ hzero]
    exact h.zero

/-- A port that goes on, with the shared data that it leaves: the tallies move by what
the two places differ. -/
theorem OpenCloseInv.replace {d : OpenClose} {i : Nat} {pc : PortPlace} (h : OpenCloseInv d)
    (hi : d.ports[i]? = some pc) (count : Int) (sem urb : Bool) (pc' : PortPlace)
    (halone : d.tally PortPlace.inside + pc'.inside.toNat ≤ 1 + pc.inside.toNat)
    (hsem : sem = true ↔ pc.holds.toNat < d.tally PortPlace.holds + pc'.holds.toNat)
    (hcount : count + pc.counted.toNat = d.mxdOpenPortCount + pc'.counted.toNat)
    (hurb : urb = true ↔ pc.counted.toNat + pc.settingUp.toNat <
      d.tally PortPlace.counted + d.tally PortPlace.settingUp +
        (pc'.counted.toNat + pc'.settingUp.toNat))
    (hzero : pc.zeroing.toNat < d.tally PortPlace.zeroing + pc'.zeroing.toNat → count = 0) :
    OpenCloseInv ⟨count, sem, urb, d.ports.set i pc'⟩ := by
  have hmove : ∀ f : PortPlace → Bool,
      (d.ports.set i pc').countP f + (f pc).toNat = d.tally f + (f pc').toNat :=
    fun f => countP_set_add f hi
  have hin := hmove PortPlace.inside
  have hholds := hmove PortPlace.holds
  have hcounted := hmove PortPlace.counted
  have hset := hmove PortPlace.settingUp
  have hzeroing := hmove PortPlace.zeroing
  have hold := h.count
  constructor
  · show (d.ports.set i pc').countP PortPlace.inside ≤ 1
    omega
  · show sem = true ↔ 0 < (d.ports.set i pc').countP PortPlace.holds
    rw [hsem]
    omega
  · show count = ((d.ports.set i pc').countP PortPlace.counted : Nat)
    omega
  · show urb = true ↔ 0 < (d.ports.set i pc').countP PortPlace.counted +
      (d.ports.set i pc').countP PortPlace.settingUp
    rw [hurb]
    omega
  · show 0 < (d.ports.set i pc').countP PortPlace.zeroing → count = 0
    exact fun hpos => hzero (by omega)

/-- A port that comes in with the semaphore. -/
theorem OpenCloseInv.enter {d : OpenClose} {i : Nat} {pc pc' : PortPlace} (h : OpenCloseInv d)
    (hi : d.ports[i]? = some pc) (hnone : d.tally PortPlace.inside = 0)
    (hm : pc.marks = (false, false, pc'.counted, false, false))
    (hm' : pc'.marks = (true, true, pc'.counted, false, false)) :
    OpenCloseInv ⟨d.mxdOpenPortCount, true, d.intUrb, d.ports.set i pc'⟩ := by
  simp only [PortPlace.marks, Prod.mk.injEq] at hm hm'
  obtain ⟨hin, hholds, hcounted, hset, hzero⟩ := hm
  obtain ⟨hin', hholds', -, hset', hzero'⟩ := hm'
  have hle := tally_holds_le d
  refine h.replace hi _ _ _ _ ?_ ?_ ?_ ?_ ?_
  · simp [hin, hin', hnone]
  · simp [hholds, hholds']
  · rw [hcounted]
  · rw [hcounted, hset, hset', h.urb, Bool.toNat_false]
    omega
  · rw [hzero, hzero', Bool.toNat_false]
    exact h.zero

/-- A port that goes on inside. -/
theorem OpenCloseInv.stay {d : OpenClose} {i : Nat} {pc : PortPlace} (h : OpenCloseInv d)
    (hi : d.ports[i]? = some pc) (count : Int) (urb : Bool) (pc' : PortPlace)
    (hin : (pc.inside, pc'.inside) = (true, true)) (hholds : pc'.holds = pc.holds)
    (hz : pc.zeroing = false)
    (hcount : count + pc.counted.toNat = d.mxdOpenPortCount + pc'.counted.toNat)
    (hurb : urb = true ↔ pc.counted.toNat + pc.settingUp.toNat <
      d.tally PortPlace.counted + d.tally PortPlace.settingUp +
        (pc'.counted.toNat + pc'.settingUp.toNat))
    (hzero : pc'.zeroing = true → count = 0) :
    OpenCloseInv ⟨count, d.sem, urb, d.ports.set i pc'⟩ := by
  obtain ⟨hpc, hpc'⟩ := Prod.mk.inj hin
  have halone := h.alone
  refine h.replace hi _ _ _ _ ?_ ?_ hcount hurb ?_
  · rw [hpc, hpc']
    omega
  · rw [hholds, h.sem]
    omega
  · rw [hz, h.no_zeroing hi hpc hz]
    cases hc : pc'.zeroing with
    | false => exact fun hpos => absurd hpos (by simp)
    | true => exact fun _ => hzero hc

/-- A port that gives the semaphore back. -/
theorem OpenCloseInv.leave {d : OpenClose} {i : Nat} {pc pc' : PortPlace} (h : OpenCloseInv d)
    (hi : d.ports[i]? = some pc) (hm : pc.marks = (true, true, pc'.counted, false, false))
    (hm' : pc'.marks = (false, false, pc'.counted, false, false)) :
    OpenCloseInv ⟨d.mxdOpenPortCount, false, d.intUrb, d.ports.set i pc'⟩ := by
  simp only [PortPlace.marks, Prod.mk.injEq] at hm hm'
  obtain ⟨hin, hholds, hcounted, hset, hzero⟩ := hm
  obtain ⟨hin', hholds', -, hset', hzero'⟩ := hm'
  have halone := h.alone
  have hle := tally_holds_le d
  refine h.replace hi _ _ _ _ ?_ ?_ ?_ ?_ ?_
  · rw [hin, hin', Bool.toNat_true, Bool.toNat_false]
    omega
  · rw [hholds, hholds', Bool.toNat_true, Bool.toNat_false]
    simp only [Bool.false_eq_true, false_iff]
    omega
  · rw [hcounted]
  · rw [hcounted, hset, hset', h.urb, Bool.toNat_false]
    omega
  · rw [hzero, hzero', Bool.toNat_false]
    exact h.zero

section Accesses

variable {d : OpenClose} {i : Nat} (ok : Bool) (h : OpenCloseInv d)
include h

theorem inv_openWait (hi : d.ports[i]? = some .openWait)
    (hg : (d.access ok .openWait).2.inside = true → d.tally PortPlace.inside = 0) :
    OpenCloseInv
      { (d.access ok .openWait).1 with ports := d.ports.set i (d.access ok .openWait).2 } := by
  cases ok with
  | false => exact h.move hi rfl
  | true =>
      by_cases hs : d.sem = true
      · have he : d.access true .openWait = (d, .openWait) := by simp [OpenClose.access, hs]
        rw [he]
        exact h.move hi rfl
      · have he : d.access true .openWait = ({ d with sem := true }, .openCheck) := by
          simp [OpenClose.access, hs]
        rw [he] at hg ⊢
        exact h.enter hi (hg rfl) rfl rfl

theorem inv_openCheck (hi : d.ports[i]? = some .openCheck) :
    OpenCloseInv
      { (d.access ok .openCheck).1 with ports := d.ports.set i (d.access ok .openCheck).2 } := by
  have hcount := h.count
  by_cases hc : d.mxdOpenPortCount = 0
  · by_cases hok : ok = true ∧ d.intUrb = false
    · -- the first port: the URB is submitted
      have he : d.access ok .openCheck = ({ d with intUrb := true }, .openSetup openCommands) := by
        simp only [OpenClose.access, hc, hok, and_self, if_true]
      rw [he]
      refine h.stay hi d.mxdOpenPortCount true (.openSetup openCommands) rfl rfl rfl rfl ?_ nofun
      simp [PortPlace.counted, PortPlace.settingUp]
    · have he : d.access ok .openCheck = (d, .openUp false) := by
        simp only [OpenClose.access, hc, hok, if_true, if_false]
      rw [he]
      exact h.move hi rfl
  · -- a port is counted already, and with it the URB is submitted
    have he : d.access ok .openCheck = (d, .openSetup openCommands) := by
      simp only [OpenClose.access, hc, if_false]
    rw [he]
    refine h.stay hi d.mxdOpenPortCount d.intUrb (.openSetup openCommands) rfl rfl rfl rfl ?_ nofun
    rw [h.urb]
    simp only [PortPlace.counted, PortPlace.settingUp, Bool.toNat_true, Bool.toNat_false]
    omega

theorem inv_openUnlink (hi : d.ports[i]? = some .openUnlink) :
    OpenCloseInv
      { (d.access ok .openUnlink).1 with ports := d.ports.set i (d.access ok .openUnlink).2 } := by
  have hcount := h.count
  have halone := h.alone
  have hle := tally_settingUp_le d
  have hpos := tally_pos (f := PortPlace.settingUp) hi rfl
  by_cases hc : d.mxdOpenPortCount = 0
  · have he : d.access ok .openUnlink = ({ d with intUrb := false }, .openUp false) := by
      simp only [OpenClose.access, hc, if_true]
    rw [he]
    refine h.stay hi d.mxdOpenPortCount false (.openUp false) rfl rfl rfl rfl ?_ nofun
    simp only [PortPlace.counted, PortPlace.settingUp, Bool.toNat_true, Bool.toNat_false,
      Bool.false_eq_true, false_iff]
    omega
  · have he : d.access ok .openUnlink = (d, .openUp false) := by
      simp only [OpenClose.access, hc, if_false]
    rw [he]
    refine h.stay hi d.mxdOpenPortCount d.intUrb (.openUp false) rfl rfl rfl rfl ?_ nofun
    rw [h.urb]
    simp only [PortPlace.counted, PortPlace.settingUp, Bool.toNat_true, Bool.toNat_false]
    omega

theorem inv_closeWait (hi : d.ports[i]? = some .closeWait)
    (hg : (d.access ok .closeWait).2.inside = true → d.tally PortPlace.inside = 0) :
    OpenCloseInv
      { (d.access ok .closeWait).1 with ports := d.ports.set i (d.access ok .closeWait).2 } := by
  cases ok with
  | false =>
      -- without the semaphore, but nobody is inside
      have hnone := hg rfl
      refine h.replace hi d.mxdOpenPortCount d.sem d.intUrb (.closeCount false) ?_ ?_ rfl ?_ ?_
      · rw [hnone]
        exact Nat.le_refl 1
      · exact h.sem
      · rw [h.urb]
        simp only [PortPlace.counted, PortPlace.settingUp, Bool.toNat_true, Bool.toNat_false]
        omega
      · exact h.zero
  | true =>
      by_cases hs : d.sem = true
      · have he : d.access true .closeWait = (d, .closeWait) := by simp [OpenClose.access, hs]
        rw [he]
        exact h.move hi rfl
      · have he : d.access true .closeWait = ({ d with sem := true }, .closeCount true) := by
          simp [OpenClose.access, hs]
        rw [he] at hg ⊢
        exact h.enter hi (hg rfl) rfl rfl

theorem inv_closeCount {doUp : Bool} (hi : d.ports[i]? = some (.closeCount doUp)) :
    OpenCloseInv { (d.access ok (.closeCount doUp)).1 with
      ports := d.ports.set i (d.access ok (.closeCount doUp)).2 } := by
  have hcount := h.count
  have hnoset := h.no_settingUp hi rfl rfl
  have hpos := tally_pos (f := PortPlace.counted) hi rfl
  by_cases hc : d.mxdOpenPortCount - 1 ≤ 0
  · -- the last port: the URB is killed
    have he : d.access ok (.closeCount doUp) =
        ({ d with mxdOpenPortCount := d.mxdOpenPortCount - 1, intUrb := false },
          .closeZero doUp) := by
      simp only [OpenClose.access, hc, if_true]
    rw [he]
    refine h.stay hi (d.mxdOpenPortCount - 1) false (.closeZero doUp) rfl rfl rfl ?_ ?_ ?_
    · show d.mxdOpenPortCount - 1 + (1 : Nat) = d.mxdOpenPortCount + (0 : Nat)
      omega
    · simp only [PortPlace.counted, PortPlace.settingUp, Bool.toNat_true, Bool.toNat_false,
        Bool.false_eq_true, false_iff]
      omega
    · exact fun _ => by omega
  · have he : d.access ok (.closeCount doUp) =
        ({ d with mxdOpenPortCount := d.mxdOpenPortCount - 1 }, .closeUp doUp) := by
      simp only [OpenClose.access, hc, if_false]
    rw [he]
    refine h.stay hi (d.mxdOpenPortCount - 1) d.intUrb (.closeUp doUp) rfl rfl rfl ?_ ?_ nofun
    · show d.mxdOpenPortCount - 1 + (1 : Nat) = d.mxdOpenPortCount + (0 : Nat)
      omega
    · rw [h.urb]
      simp only [PortPlace.counted, PortPlace.settingUp, Bool.toNat_true, Bool.toNat_false]
      omega

theorem inv_closeZero {doUp : Bool} (hi : d.ports[i]? = some (.closeZero doUp)) :
    OpenCloseInv ⟨0, d.sem, d.intUrb, d.ports.set i (.closeUp doUp)⟩ := by
  have hzero := h.zero (tally_pos hi rfl)
  have halone := h.alone
  refine h.replace hi 0 d.sem d.intUrb (.closeUp doUp) ?_ ?_ ?_ ?_ (fun _ => rfl)
  · exact Nat.add_le_add_right halone 1
  · rw [h.sem]
    simp only [PortPlace.holds]
    omega
  · rw [hzero]
    rfl
  · exact h.urb

/-- Without the semaphore there is nothing to give back. -/
theorem inv_closeUp {doUp : Bool} (hi : d.ports[i]? = some (.closeUp doUp)) :
    OpenCloseInv { (d.access ok (.closeUp doUp)).1 with
      ports := d.ports.set i (d.access ok (.closeUp doUp)).2 } := by
  cases doUp with
  | true => exact h.leave hi rfl rfl
  | false =>
      have halone := h.alone
      exact h.replace hi d.mxdOpenPortCount d.sem d.intUrb .closed
        (Nat.le_trans halone (Nat.le_add_right 1 1)) h.sem rfl h.urb h.zero

/-- Every access but an entry that finds somebody inside keeps the invariant. -/
theorem OpenCloseInv.access {pc : PortPlace} (hi : d.ports[i]? = some pc)
    (hg : pc.inside = false → (d.access ok pc).2.inside = true → d.tally PortPlace.inside = 0) :
    OpenCloseInv { (d.access ok pc).1 with ports := d.ports.set i (d.access ok pc).2 } := by
  cases pc with
  | closed => exact h.move hi rfl
  | openWait => exact inv_openWait ok h hi (hg rfl)
  | openCheck => exact inv_openCheck ok h hi
  | openSetup rest =>
      cases rest with
      | nil => exact h.move hi rfl
      | cons c rest =>
          cases ok with
          | false => exact h.move hi rfl
          | true => exact h.move hi rfl
  | openCount =>
      have hpos := tally_pos (f := PortPlace.settingUp) hi rfl
      refine h.stay hi (d.mxdOpenPortCount + 1) d.intUrb (.openUp true) rfl rfl rfl ?_ ?_ nofun
      · simp [PortPlace.counted]
      · rw [h.urb]
        simp only [PortPlace.counted, PortPlace.settingUp, Bool.toNat_true, Bool.toNat_false]
        omega
  | openUnlink => exact inv_openUnlink ok h hi
  | openUp done =>
      cases done with
      | false => exact h.leave hi rfl rfl
      | true => exact h.leave hi rfl rfl
  | opened => exact h.move hi rfl
  | closeWait => exact inv_closeWait ok h hi (hg rfl)
  | closeCount doUp => exact inv_closeCount ok h hi
  | closeZero doUp => exact inv_closeZero h hi
  | closeUp doUp => exact inv_closeUp ok h hi

end Accesses

theorem OpenCloseInv.step {d d' : OpenClose} {t : PortTurn} (h : OpenCloseInv d)
    (hg : EntersAlone d t) (he : openCloseStep d t = .ok d') : OpenCloseInv d' := by
  unfold openCloseStep at he
  cases hi : d.ports[t.port]? with
  | none =>
      rw [hi] at he
      exact Except.ok.inj he ▸ h
  | some pc =>
      rw [hi] at he
      exact Except.ok.inj he ▸ h.access t.ok hi (hg pc hi)

/-! ## What the ports share -/

theorem OpenCloseInv.consistent {d : OpenClose} (h : OpenCloseInv d) : d.Consistent where
  alone := h.alone
  served hmem := by
    obtain ⟨i, hi⟩ := List.getElem?_of_mem hmem
    have hpos := tally_pos (f := PortPlace.counted) hi rfl
    exact h.urb.mpr (by omega)
  once hmem h0 := by
    obtain ⟨i, hi⟩ := List.getElem?_of_mem hmem
    have hnoset := h.no_settingUp hi rfl rfl
    have hcount := h.count
    by_contra hurb
    have hpos := h.urb.mp (by simpa using hurb)
    omega
  settled hnone := by
    have hle := tally_settingUp_le d
    refine ⟨h.count, h.urb.trans ?_⟩
    omega

/-! ## Closes that are not interrupted -/

/-- The close of a port is not interrupted. -/
def ClosesInTurn (d : OpenClose) (t : PortTurn) : Prop :=
  d.ports[t.port]? = some .closeWait → t.ok = true

/-- Everybody inside has the semaphore. -/
def Held (d : OpenClose) : Prop := ∀ pc ∈ d.ports, pc.inside = true → pc.holds = true

theorem Held.alone {d : OpenClose} {t : PortTurn} (h : OpenCloseInv d) (hh : Held d)
    (hc : ClosesInTurn d t) : EntersAlone d t := by
  have hfree : d.sem = false → d.tally PortPlace.inside = 0 := by
    intro hs
    have hnone : d.tally PortPlace.holds = 0 := by
      by_contra hne
      have hsem := h.sem.mpr (by omega)
      rw [hs] at hsem
      cases hsem
    refine List.countP_eq_zero.mpr fun pc hpc hin => ?_
    exact List.countP_eq_zero.mp hnone pc hpc (hh pc hpc hin)
  intro pc hi hout hin
  have hi : d.ports[t.port]? = some pc := hi
  cases hs : d.sem with
  | false => exact hfree hs
  | true =>
      cases pc with
      | openWait => cases hok : t.ok <;> simp [OpenClose.access, hok, hs, PortPlace.inside] at hin
      | closeWait => simp [OpenClose.access, hc hi, hs, PortPlace.inside] at hin
      | closed => cases hin
      | opened => cases hin
      | _ => cases hout

/-- What a port does inside it does with the semaphore, if it came in with it. -/
theorem access_held {d : OpenClose} {ok : Bool} {pc : PortPlace}
    (hpc : pc.inside = true → pc.holds = true) (hc : pc = .closeWait → ok = true)
    (hin : (d.access ok pc).2.inside = true) : (d.access ok pc).2.holds = true := by
  cases pc with
  | closed => cases hin
  | opened => cases hin
  | openWait =>
      cases ok with
      | false => cases hin
      | true =>
          cases hs : d.sem <;>
            simp [OpenClose.access, hs, PortPlace.inside, PortPlace.holds] at hin ⊢
  | openCheck =>
      simp only [OpenClose.access]
      split
      · split <;> rfl
      · rfl
  | openSetup rest =>
      cases rest with
      | nil => rfl
      | cons c rest => cases ok <;> rfl
  | openCount => rfl
  | openUnlink => rfl
  | openUp done => cases done <;> cases hin
  | closeWait =>
      rw [hc rfl] at hin ⊢
      cases hs : d.sem <;> simp [OpenClose.access, hs, PortPlace.inside, PortPlace.holds] at hin ⊢
  | closeCount doUp =>
      have hup : doUp = true := hpc rfl
      simp only [OpenClose.access, hup]
      split <;> rfl
  | closeZero doUp => exact hpc rfl
  | closeUp doUp => cases hin

theorem Held.step {d d' : OpenClose} {t : PortTurn} (hh : Held d) (hc : ClosesInTurn d t)
    (he : openCloseStep d t = .ok d') : Held d' := by
  unfold openCloseStep at he
  cases hi : d.ports[t.port]? with
  | none =>
      rw [hi] at he
      exact Except.ok.inj he ▸ hh
  | some pc =>
      rw [hi] at he
      rw [← Except.ok.inj he]
      intro pc' hmem hin
      rcases List.mem_or_eq_of_mem_set hmem with hold | rfl
      · exact hh pc' hold hin
      · exact access_held (hh pc (List.mem_of_getElem? hi)) (fun hpc => hc (hpc ▸ hi)) hin

theorem held_start (n : Nat) : Held (.start n) := by
  intro pc hpc hin
  rw [List.eq_of_mem_replicate hpc] at hin
  cases hin

/-- The semaphore keeps all others out while no close is interrupted. -/
theorem entersAlone_of_closesInTurn {numPorts : Nat} {turns : List PortTurn}
    (hg : Guarded openCloseStep ClosesInTurn (.start numPorts) turns) :
    Guarded openCloseStep EntersAlone (.start numPorts) turns := by
  refine Guarded.mono (J := fun d => OpenCloseInv d ∧ Held d) ?_ ?_
    ⟨openCloseInv_start numPorts, held_start numPorts⟩ hg
  · exact fun d t d' hJ hc he => ⟨hJ.1.step (hJ.2.alone hJ.1 hc) he, hJ.2.step hc he⟩
  · exact fun d t hJ hc => hJ.2.alone hJ.1 hc

/-- In whatever order the ports are opened and closed and whatever fails, at each access:
as long as each one that comes in finds nobody inside, every open port has the interrupt
URB, no other one submits it again, and the counter is that of the open ports. Nobody
ever finds another one inside if no close is interrupted. -/
theorem interrupt_urb_follows_opens (numPorts : Nat) (turns : List PortTurn) :
    (Guarded openCloseStep EntersAlone (.start numPorts) turns →
      Always openCloseStep OpenClose.Consistent (.start numPorts) turns) ∧
    (Guarded openCloseStep ClosesInTurn (.start numPorts) turns →
      Guarded openCloseStep EntersAlone (.start numPorts) turns) := by
  refine ⟨fun hg => ?_, entersAlone_of_closesInTurn⟩
  have halways : Always openCloseStep OpenCloseInv (.start numPorts) turns :=
    always_of_guarded (fun _ _ _ hs hc he => OpenCloseInv.step hs hc he)
      (openCloseInv_start numPorts) hg
  exact halways.mono fun _ hs => hs.consistent

/-- The turns of one port, all of which succeed. -/
def turnsOf (port n : Nat) : List PortTurn := List.replicate n ⟨port, true⟩

/-- The second port opens while the first one closes, whose `down_interruptible` waits. -/
theorem interrupt_urb_follows_two_ports :
    Always openCloseStep OpenClose.Consistent (.start 2)
      (turnsOf 0 11 ++ turnsOf 1 4 ++ turnsOf 0 3 ++ turnsOf 1 7 ++ turnsOf 0 3) :=
  (interrupt_urb_follows_opens 2 _).1 (by decide)

-- A close that is interrupted takes the URB from a port that is being opened.
example : run openCloseStep (.start 2)
    (turnsOf 0 11 ++ turnsOf 1 4 ++ [⟨0, true⟩, ⟨0, false⟩] ++ turnsOf 0 3 ++ turnsOf 1 7) =
    .ok ⟨1, false, false, [.closed, .opened]⟩ := by decide

end MoxaDrivers.Mxu11x0

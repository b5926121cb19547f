import MoxaDrivers.Watchdog.NoWayOut

/-!
# Magic close

Without `nowayout` the timer is stopped by closing the device, if the last
write had a `V` in it. `WDT_OK_TO_CLOSE` carries this from the write to
`moxawdt_release`; `WDT_IN_USE` keeps a second handle out.
-/

namespace MoxaDrivers.Watchdog

open MoxaDrivers.Superio
open MoxaDrivers.Machine

/-- What the holders of the device do, with buffers that can be read. -/
inductive FileOp where
  | open (minor : Nat)
  | write (buf : List Byte)
  | ioctl (cmd : Word) (arg : UserArg)
  | release
  deriving DecidableEq, Repr

def FileOp.call : FileOp → WdtOp
  | .open minor => .open minor
  | .write buf => .write (buf.map some)
  | .ioctl cmd arg => .ioctl cmd arg
  | .release => .release

/-- The driver, how many handles are open, and what has been written since the
last successful open, the last buffer first. -/
structure Session where
  dev : Wdt
  handles : Nat
  wrote : List (List Byte)

inductive NoHandle where
  | noHandle
  deriving DecidableEq, Repr

/-- Only an open handle can be written, asked or released. -/
def sessionStep (s : Session) (op : FileOp) : Except NoHandle Session :=
  let dev := s.dev.call op.call
  match op with
  | .open minor =>
      if s.dev.admits minor then .ok ⟨dev, s.handles + 1, []⟩ else .ok { s with dev := dev }
  | .write buf =>
      if s.handles = 0 then .error .noHandle
      else .ok { s with dev := dev, wrote := buf :: s.wrote }
  | .ioctl _ _ => if s.handles = 0 then .error .noHandle else .ok { s with dev := dev }
  | .release =>
      if s.handles = 0 then .error .noHandle
      else .ok { s with dev := dev, handles := s.handles - 1 }

def magic : Byte := 'V'.toNat

/-- There was a write that was not empty, and the last one had a `V`. -/
def magicWritten (wrote : List (List Byte)) : Bool :=
  match wrote with
  | [] => false
  | [] :: wrote => magicWritten wrote
  | buf :: _ => buf.contains magic

/-- **What magic close promises.** -/
structure MagicCloses (s : Session) (ops : List FileOp) : Prop where
  /-- A release stops the counter if it is to, and leaves it alone if not. -/
  release : EachStep sessionStep (fun s op t => op = .release →
    if magicWritten s.wrote then t.dev.counter = 0 ∧ (0 : Byte) ∈ t.dev.written
    else t.dev.counter = s.dev.counter ∧ t.dev.written = []) s ops
  oneHandle : Always sessionStep (fun t => t.handles ≤ 1) s ops
  /-- Between two opens both flags are clear. -/
  flags : Always sessionStep
    (fun t => t.handles = 0 → t.dev.inUse = false ∧ t.dev.okToClose = false) s ops

/-! ## The flags -/

/-- `WDT_IN_USE` counts the handles and `WDT_OK_TO_CLOSE` is about the last
write. -/
structure SessionInv (s : Session) : Prop where
  nowayout : s.dev.nowayout = 0
  inUse : s.handles = if s.dev.inUse then 1 else 0
  okToClose : s.dev.okToClose = (s.dev.inUse && magicWritten s.wrote)

theorem writeLoop_okToClose (buf : List Byte) : ∀ w : Wdt,
    (writeLoop w (buf.map some)).1.okToClose = (w.okToClose || buf.contains magic) := by
  induction buf with
  | nil =>
      intro w
      simp [writeLoop]
  | cons c buf ih =>
      intro w
      rw [List.map_cons, writeLoop, ih]
      by_cases hc : c = magic
      · have hchar : c = 'V'.toNat := hc
        rw [if_pos hchar]
        simp [hc]
      · have hchar : ¬ c = 'V'.toNat := hc
        have hne : (magic == c) = false := beq_eq_false_iff_ne.mpr fun h => hc h.symm
        rw [if_neg hchar, List.contains_cons, hne, Bool.false_or]

/-- A write leaves the flags as the claim has them. -/
theorem write_flags {w : Wdt} (hno : w.nowayout = 0) (buf : List Byte) :
    (w.call (.write (buf.map some))).inUse = w.inUse ∧
      (w.call (.write (buf.map some))).okToClose =
        if buf = [] then w.okToClose else buf.contains magic := by
  cases buf with
  | nil => exact ⟨rfl, rfl⟩
  | cons c buf =>
      have hmagic := writeLoop_okToClose (c :: buf) { w with okToClose := false, written := [] }
      obtain ⟨⟨b, hb⟩, hall⟩ := writeLoop_spec ((c :: buf).map some)
        { w with okToClose := false, written := [] }
      have hok := hall.mpr (by simp)
      have hlen : ((c :: buf).map some).length ≠ 0 := by simp
      simp only [Wdt.call, moxawdtWrite, if_pos hlen, if_pos hno]
      generalize writeLoop { w with okToClose := false, written := [] } ((c :: buf).map some) = r
        at hmagic hb hok
      obtain ⟨t, res⟩ := r
      cases hok
      cases hb
      refine ⟨rfl, ?_⟩
      rw [if_neg (List.cons_ne_nil c buf)]
      show b = (c :: buf).contains magic
      simpa using hmagic

theorem magicWritten_cons (buf : List Byte) (wrote : List (List Byte)) :
    magicWritten (buf :: wrote) =
      if buf = [] then magicWritten wrote else buf.contains magic := by
  cases buf with
  | nil => rfl
  | cons c buf => rfl

theorem open_flags (w : Wdt) (minor : Nat) :
    (w.call (.open minor)).inUse = (w.inUse || w.admits minor) ∧
      (w.call (.open minor)).okToClose = (w.okToClose && !w.admits minor) := by
  simp only [Wdt.call, moxawdtOpen, Wdt.admits]
  by_cases hminor : minor = watchdogMinor
  · cases huse : w.inUse <;> simp [hminor, moxawdtEnable, Wdt.setCounter]
  · simp [hminor]

theorem sessionInv_open {s : Session} (h : SessionInv s) (minor : Nat) {t : Session}
    (hstep : sessionStep s (.open minor) = .ok t) : SessionInv t := by
  have hno := (called s.dev (.open minor)).nowayout.trans h.nowayout
  obtain ⟨huse, hok⟩ := open_flags s.dev minor
  simp only [sessionStep, FileOp.call] at hstep
  by_cases hadmits : s.dev.admits minor = true
  · rw [if_pos hadmits] at hstep
    cases hstep
    rw [hadmits] at huse hok
    have hfree : s.dev.inUse = false := by
      have hboth := Bool.and_eq_true_iff.mp hadmits
      simpa using hboth.2
    have hhandles := h.inUse
    rw [hfree] at hhandles
    refine ⟨hno, ?_, ?_⟩
    · rw [huse, hhandles]
      simp
    · rw [hok]
      simp [magicWritten]
  · rw [if_neg hadmits] at hstep
    cases hstep
    rw [eq_false_of_ne_true hadmits] at huse hok
    refine ⟨hno, ?_, ?_⟩
    · rw [huse, Bool.or_false]
      exact h.inUse
    · rw [huse, hok, Bool.or_false, Bool.not_false, Bool.and_true]
      exact h.okToClose

/-- The device of an open handle is in use. -/
theorem SessionInv.open_inUse {s : Session} (h : SessionInv s) (hopen : ¬ s.handles = 0) :
    s.dev.inUse = true := by
  by_contra huse
  apply hopen
  rw [h.inUse, if_neg huse]

theorem sessionInv_step {s t : Session} {op : FileOp} (h : SessionInv s)
    (hstep : sessionStep s op = .ok t) : SessionInv t := by
  have hno := (called s.dev op.call).nowayout.trans h.nowayout
  cases op with
  | «open» minor => exact sessionInv_open h minor hstep
  | write buf =>
      simp only [sessionStep] at hstep
      by_cases hopen : s.handles = 0
      · rw [if_pos hopen] at hstep
        cases hstep
      · rw [if_neg hopen] at hstep
        cases hstep
        obtain ⟨huse, hok⟩ := write_flags h.nowayout buf
        refine ⟨hno, h.inUse.trans (by rw [← huse]; rfl), ?_⟩
        have hopened := h.open_inUse hopen
        have hlast := h.okToClose
        rw [hopened, Bool.true_and] at hlast
        show ((s.dev.call (.write (buf.map some))).okToClose) =
          ((s.dev.call (.write (buf.map some))).inUse && magicWritten (buf :: s.wrote))
        rw [hok, huse, hopened, hlast, magicWritten_cons, Bool.true_and]
  | ioctl cmd arg =>
      simp only [sessionStep] at hstep
      by_cases hopen : s.handles = 0
      · rw [if_pos hopen] at hstep
        cases hstep
      · rw [if_neg hopen] at hstep
        cases hstep
        obtain ⟨huse, hok⟩ := ioctl_flags s.dev cmd arg
        refine ⟨hno, h.inUse.trans (by rw [← huse]; rfl), ?_⟩
        show (s.dev.call (.ioctl cmd arg)).okToClose =
          ((s.dev.call (.ioctl cmd arg)).inUse && magicWritten s.wrote)
        rw [hok, huse]
        exact h.okToClose
  | release =>
      simp only [sessionStep] at hstep
      by_cases hopen : s.handles = 0
      · rw [if_pos hopen] at hstep
        cases hstep
      · rw [if_neg hopen] at hstep
        cases hstep
        have hhandles := h.inUse
        rw [h.open_inUse hopen] at hhandles
        refine ⟨hno, ?_, rfl⟩
        show s.handles - 1 = 0
        rw [hhandles]
        rfl

/-! ## Whole runs -/

/-- A release does to the counter what was written before it. -/
theorem release_magic {s t : Session} (h : SessionInv s)
    (hstep : sessionStep s .release = .ok t) :
    if magicWritten s.wrote then t.dev.counter = 0 ∧ (0 : Byte) ∈ t.dev.written
    else t.dev.counter = s.dev.counter ∧ t.dev.written = [] := by
  have hcalled := called s.dev .release
  simp only [sessionStep, FileOp.call] at hstep
  by_cases hopen : s.handles = 0
  · rw [if_pos hopen] at hstep
    cases hstep
  · rw [if_neg hopen] at hstep
    cases hstep
    have hok := h.okToClose
    rw [h.open_inUse hopen, Bool.true_and] at hok
    have hwritten := hcalled.written
    have hcounter := hcalled.counter
    rw [hwritten] at hcounter
    simp only [Wdt.effect, hok] at hwritten hcounter
    cases hmagic : magicWritten s.wrote with
    | true =>
        rw [hmagic] at hwritten hcounter
        rw [if_pos rfl]
        refine ⟨hcounter, ?_⟩
        show (0 : Byte) ∈ (s.dev.call .release).written
        rw [hwritten]
        exact List.mem_singleton.mpr rfl
    | false =>
        rw [hmagic] at hwritten hcounter
        exact ⟨hcounter, hwritten⟩

theorem loaded_sessionInv (timeout : Word) (chip : Chip) :
    SessionInv ⟨loaded timeout 0 chip, 0, []⟩ := ⟨rfl, rfl, rfl⟩

/-- **Magic close**: in every run of the driver without `nowayout`. -/
theorem magic_close (timeout : Word) (chip : Chip) (ops : List FileOp) :
    MagicCloses ⟨loaded timeout 0 chip, 0, []⟩ ops := by
  have hstart := loaded_sessionInv timeout chip
  have hinv : Always sessionStep SessionInv ⟨loaded timeout 0 chip, 0, []⟩ ops :=
    always_of_invariant (fun _ _ _ hs hstep => sessionInv_step hs hstep) hstart
  refine ⟨?_, ?_, ?_⟩
  · intro pre op hpre s hs t hstep hop
    subst hop
    have hs := hinv pre ((List.prefix_append _ _).trans hpre) s hs
    exact release_magic hs hstep
  · refine hinv.mono fun t ht => ?_
    rw [ht.inUse]
    cases t.dev.inUse <;> simp
  · refine hinv.mono fun t ht hclosed => ?_
    have huse : t.dev.inUse = false := by
      apply eq_false_of_ne_true
      intro huse
      have hhandles := ht.inUse
      rw [huse, hclosed] at hhandles
      cases hhandles
    refine ⟨huse, ?_⟩
    rw [ht.okToClose, huse, Bool.false_and]

end MoxaDrivers.Watchdog

import MoxaDrivers.Mxser.OpenCount

/-!
# An open during the last close

`mxser_close` decides to shut the port down before it sleeps and does not look
at `info->count` again afterwards; the check for `ASYNC_CLOSING` that would
keep openers out until it is done is compiled out of `mxser_block_til_ready`.
-/

namespace MoxaDrivers.Mxser

open MoxaDrivers.Bits MoxaDrivers.Machine

/-- Initialised, with a tty and a transmit page. -/
structure Up (p : Port) : Prop where
  initialized : p.initialized = true
  infoTty : p.infoTty = true
  buf : p.ring.buf.isSome = true

/-- A file that was opened, and neither closed nor hung up since, has its port
up, given that it is counted. -/
def Serviced (s : Opens) : Prop :=
  (∃ h ∈ s.handles, h.live = true) → 0 < s.port.opens.count → Up s.port

/-- A start-up of a port that is down finds no UART and succeeds all the same:
there is no UART type, or the line status is 0xFF and the caller privileged. -/
def NoUart (p : Port) (a : OpenArgs) : Prop :=
  p.base ≠ 0 ∧ a.page.isSome = true ∧ p.initialized = false ∧
    (p.type = 0 ∨ (a.lsr = 0xFF ∧ a.admin = true))

/-- `mxser_close` comes to its `mxser_shutdown` while no file is open, and no
file is opened on a port without a UART. -/
def KeepsService (s : Opens) (op : OpenOp) : Prop :=
  match op with
  | .open a => ¬ NoUart s.port a
  | .emptied i _ =>
      s.handles[i]?.map Handle.state = some .emptying → ∀ h ∈ s.handles, h.live = false
  | _ => True

/-- The invariant of the runs that keep service: whatever is initialised is up,
and with an open file the port is. -/
structure ServiceInv (s : Opens) : Prop where
  opens : OpensInv s
  up : s.port.initialized = true → Up s.port
  live : ∀ h ∈ s.handles, h.live = true → s.port.initialized = true

theorem ServiceInv.serviced {s : Opens} (hs : ServiceInv s) : Serviced s := by
  rintro ⟨h, hmem, hlive⟩ -
  exact hs.up (hs.live h hmem hlive)

theorem SameUp.up {p q : Port} (h : SameUp p q) (hp : p.initialized = true → Up p)
    (hq : q.initialized = true) : Up q := by
  have hup := hp (h.initialized ▸ hq)
  refine ⟨hq, ?_, ?_⟩
  · rw [h.infoTty]
    exact hup.infoTty
  · rw [h.buf]
    exact hup.buf

/-! ## The start-up -/

theorem up_attach {p : Port} (hup : p.initialized = true → Up p)
    (h : (attach p).initialized = true) : Up (attach p) :=
  ⟨h, rfl, (hup h).buf⟩

/-- Where the port was down and stays down nothing is half up or taken down. -/
theorem service_of_down {p q : Port} (hp : p.initialized = false) (hq : q.initialized = false) :
    (q.initialized = true → Up q) ∧ (p.initialized = true → q.initialized = true) := by
  constructor
  · intro h
    rw [hq] at h
    cases h
  · intro h
    rw [hp] at h
    cases h

/-- A start-up leaves nothing half up, takes nothing down, and where it
succeeds without a UART says so by `TTY_IO_ERROR`. -/
theorem mxserStartup_service {p q : Port} {page : Option Page} {lsr : Byte} {admin : Bool}
    {e : Option Errno} (htty : p.infoTty = true) (hup : p.initialized = true → Up p)
    (h : mxserStartup p page lsr admin = (e, q)) :
    (q.initialized = true → Up q) ∧ (p.initialized = true → q.initialized = true) ∧
      (e = none → q.initialized = true ∨
        (page.isSome = true ∧ p.initialized = false ∧
          (p.base = 0 ∨ p.type = 0 ∨ lsr = 0xFF ∧ admin = true))) := by
  rcases mxserStartup_cases p page lsr admin with
    ⟨-, hs⟩ | ⟨-, hinit, hs⟩ | ⟨hpage, hinit, hno, hs⟩ | ⟨pg, hpage, hinit, -, -, hlsr, hs⟩ |
    ⟨pg, -, hinit, -, -, -, hs⟩
  · cases hs.symm.trans h
    exact ⟨hup, id, nofun⟩
  · cases hs.symm.trans h
    exact ⟨hup, id, fun _ => .inl hinit⟩
  · have hdown : (markIoError p true).initialized = false := hinit
    obtain ⟨hup', hkeep⟩ := service_of_down hinit hdown
    cases hs.symm.trans h
    refine ⟨hup', hkeep, fun _ => .inr ⟨?_, hinit, hno.imp_right .inl⟩⟩
    exact Option.isSome_iff_ne_none.mpr hpage
  · -- no UART: the page stays, and the port is still down
    rw [h] at hs
    cases admin with
    | true =>
        have hdown : (markIoError (startupPage p pg) true).initialized = false := hinit
        obtain ⟨hup', hkeep⟩ := service_of_down hinit hdown
        cases hs
        refine ⟨hup', hkeep, fun _ => .inr ⟨?_, hinit, .inr (.inr ⟨hlsr, rfl⟩)⟩⟩
        rw [hpage]
        rfl
    | false =>
        have hdown : (startupPage p pg).initialized = false := hinit
        obtain ⟨hup', hkeep⟩ := service_of_down hinit hdown
        cases hs
        exact ⟨hup', hkeep, nofun⟩
  · have hstarted : Up (startupUart (startupPage p pg)) := by
      refine ⟨startupUart_initialized _, ?_, ?_⟩
      · rw [startupUart_infoTty, startupPage_infoTty]
        exact htty
      · rw [startupUart_buf]
        rfl
    cases hs.symm.trans h
    exact ⟨fun _ => hstarted, fun _ => hstarted.initialized, fun _ => .inl hstarted.initialized⟩

/-- `mxser_open` of a port with a UART. -/
theorem mxserOpen_service {HZ : Int} {p : Port} {a : OpenArgs} {r : HandleState × Port}
    (hup : p.initialized = true → Up p) (hc : ¬ NoUart p a) (h : mxserOpen HZ p a = .ok r) :
    (r.2.initialized = true → Up r.2) ∧ (p.initialized = true → r.2.initialized = true) ∧
      (r.1 = .opened → r.2.initialized = true) := by
  rcases mxserOpen_cases h with ⟨-, rfl⟩ | ⟨e, q, hstart, rfl⟩ | ⟨hbase, q, hstart, hfinish⟩
  · exact ⟨hup, id, nofun⟩
  · obtain ⟨hq, hkeep, -⟩ := mxserStartup_service rfl (up_attach hup) hstart
    exact ⟨hq, hkeep, nofun⟩
  · obtain ⟨hq, hkeep, hnone⟩ := mxserStartup_service rfl (up_attach hup) hstart
    -- with a UART a start-up that succeeds leaves the port up
    have hinit : q.initialized = true := by
      rcases hnone rfl with hinit | ⟨hpage, hdown, hno⟩
      · exact hinit
      · exact absurd ⟨hbase, hpage, hdown, hno.resolve_left hbase⟩ hc
    have hsame : SameUp q r.2 := by
      simp only [mxserBlockTilReady] at hfinish
      split at hfinish
      · exact (sameUp_normalActive q).trans (finishOpen_ok hfinish).2.sameUp
      · have hwait : SameUp q (enterWait q) := ⟨rfl, rfl, rfl⟩
        exact hwait.trans (blockTurn_service hfinish).1
    have hinit' : r.2.initialized = true := by
      rw [hsame.initialized]
      exact hinit
    exact ⟨hsame.up hq, fun _ => hinit', fun _ => hinit'⟩

/-- Without a UART it succeeds on a port that stays down. -/
theorem mxserOpen_noUart (HZ : Int) {p : Port} {a : OpenArgs} (h : NoUart p a) :
    ∃ q, mxserOpen HZ p a = .ok (.opened, q) ∧ q.initialized = false := by
  obtain ⟨hbase, hpage, hinit, hno⟩ := h
  have hstart : ∃ q, mxserStartup (attach p) a.page a.lsr a.admin = (none, q) ∧
      q.initialized = false ∧ q.tty.ioError = true := by
    rcases mxserStartup_cases (attach p) a.page a.lsr a.admin with
      ⟨hnone, -⟩ | ⟨-, hinit', -⟩ | ⟨-, -, -, hs⟩ | ⟨pg, -, -, -, htype, -, hs⟩ |
      ⟨pg, -, -, -, htype, hlsr, -⟩
    · rw [hnone] at hpage
      cases hpage
    · have hinit'' : p.initialized = true := hinit'
      rw [hinit] at hinit''
      cases hinit''
    · exact ⟨_, hs, hinit, rfl⟩
    · rw [if_pos (hno.resolve_left htype).2] at hs
      exact ⟨_, hs, hinit, rfl⟩
    · exact absurd (hno.resolve_left htype).1 hlsr
  obtain ⟨q, hstart, hdown, herror⟩ := hstart
  -- `TTY_IO_ERROR` lets the open through without a wait
  have hblock : mxserBlockTilReady q a.nonblock a.signal = (.opened, normalActive q) := by
    simp only [mxserBlockTilReady]
    rw [if_pos (by simp [herror])]
  obtain ⟨t, ht⟩ := finishOpen_completes HZ (.opened, normalActive q)
  have hsame := (finishOpen_ok ht).2
  refine ⟨t, ?_, ?_⟩
  · simp only [mxserOpen, if_neg hbase, hstart, hblock]
    exact ht
  · rw [hsame.initialized, (sameUp_normalActive q).initialized]
    exact hdown

/-! ## One step -/

theorem ServiceInv.put {s : Opens} (hs : ServiceInv s) {i : Nat} {h' : Handle} {p : Port}
    (hopens : OpensInv (s.put i h' p)) (hsame : SameUp s.port p)
    (hlive : h'.live = true → s.port.initialized = true) : ServiceInv (s.put i h' p) := by
  refine ⟨hopens, hsame.up hs.up, fun k hk hklive => ?_⟩
  show p.initialized = true
  rw [hsame.initialized]
  rcases List.mem_or_eq_of_mem_set hk with hk | rfl
  · exact hs.live k hk hklive
  · exact hlive hklive

/-- A port that is down serves nobody. -/
theorem serviceInv_down {s : Opens} (hopens : OpensInv s) (hdown : s.port.initialized = false)
    (hnone : ∀ h ∈ s.handles, h.live = false) : ServiceInv s := by
  refine ⟨hopens, fun hup => ?_, fun h hmem hlive => ?_⟩
  · rw [hdown] at hup
    cases hup
  · rw [hnone h hmem] at hlive
    cases hlive

theorem hangUp_live (h : Handle) : h.hangUp.live = false := by
  obtain ⟨hungUp, state, last⟩ := h
  cases state with
  | opened => rfl
  | _ => simp [Handle.hangUp, Handle.live]

/-- An open file on a port that is down is not served. -/
theorem not_serviced {s : Opens} (hs : OpensInv s) {h : Handle} (hmem : h ∈ s.handles)
    (hlive : h.live = true) (hdown : s.port.initialized = false) : ¬ Serviced s := by
  intro hserved
  have hcounted : h.counted = true := by
    obtain ⟨hungUp, state, last⟩ := h
    simp only [Handle.live, Bool.and_eq_true, beq_iff_eq] at hlive
    simp [Handle.counted, hlive.1, hlive.2]
  have hpos : 0 < s.counted := List.countP_pos_iff.mpr ⟨h, hmem, hcounted⟩
  have hcount := hs.count
  have hup := (hserved ⟨h, hmem, hlive⟩ (by omega)).initialized
  rw [hdown] at hup
  cases hup

theorem openHandle_service {HZ : Int} {s t : Opens} {a : OpenArgs} (hs : ServiceInv s)
    (hc : ¬ NoUart s.port a) (h : s.openHandle HZ a = .ok t) : ServiceInv t := by
  have hopens := openHandle_inv hs.opens h
  obtain ⟨r, hr, ht⟩ := bind_ok_iff.mp h
  cases ht
  have htty : SameUp s.port (s.withTty a.termios) := ⟨rfl, rfl, rfl⟩
  obtain ⟨hup, hkeep, hopened⟩ := mxserOpen_service (htty.up hs.up) hc hr
  refine ⟨hopens, hup, fun k hk hlive => ?_⟩
  rcases List.mem_append.mp hk with hk | hk
  · exact hkeep (hs.live k hk hlive)
  · cases List.mem_singleton.mp hk
    apply hopened
    simpa [Handle.live] using hlive

theorem wakeHandle_service {HZ : Int} {s t : Opens} {i : Nat} {h : Handle} {signal : Bool}
    (hs : ServiceInv s) (hi : s.handles[i]? = some h)
    (ht : s.wakeHandle HZ i h signal = .ok t) : ServiceInv t := by
  have hopens := wakeHandle_inv hs.opens hi ht
  obtain ⟨hungUp, state, last⟩ := h
  cases state with
  | asleep doClocal =>
      obtain ⟨r, hr, ht⟩ := bind_ok_iff.mp ht
      cases ht
      obtain ⟨hsame, hopened⟩ := blockTurn_service hr
      apply hs.put hopens hsame
      intro hlive
      simp only [Handle.live, Bool.and_eq_true, beq_iff_eq] at hlive
      exact hopened hlive.2
  | _ =>
      cases ht
      exact hs

theorem closeHandle_service {s : Opens} {i : Nat} {h : Handle} (hs : ServiceInv s)
    (hi : s.handles[i]? = some h) : ServiceInv (s.closeHandle i h) := by
  have hopens := closeHandle_inv hs.opens hi
  have hsame := sameUp_mxserClose s.port h.hungUp s.ttyCount
  obtain ⟨hungUp, state, last⟩ := h
  cases state with
  | refused =>
      apply hs.put hopens ⟨rfl, rfl, rfl⟩
      simp [Handle.live]
  | opened =>
      apply hs.put hopens hsame
      intro hlive
      exact hs.live ⟨hungUp, .opened, last⟩ (List.mem_of_getElem? hi) (by
        simp only [Handle.live, Bool.and_eq_true] at hlive ⊢
        exact ⟨hlive.1, rfl⟩)
  | failed e =>
      apply hs.put hopens hsame
      intro hlive
      simp only [Handle.live, Bool.and_eq_true, beq_iff_eq] at hlive
      split at hlive
      · cases hlive.2
      · cases hlive.2
  | _ => exact hs

theorem drainedHandle_service {s : Opens} {i : Nat} {h : Handle} (hs : ServiceInv s)
    (hi : s.handles[i]? = some h) : ServiceInv (s.drainedHandle i h) := by
  have hopens := drainedHandle_inv hs.opens hi
  obtain ⟨hungUp, state, last⟩ := h
  cases state with
  | draining =>
      apply hs.put hopens ⟨rfl, rfl, rfl⟩
      simp [Handle.live]
  | _ => exact hs

/-- The shut-down of a close takes the port from nobody if no file is open. -/
theorem emptiedHandle_service {s : Opens} {i : Nat} {h : Handle} {iir : Byte}
    (hs : ServiceInv s) (hi : s.handles[i]? = some h)
    (hc : h.state = .emptying → ∀ k ∈ s.handles, k.live = false) :
    ServiceInv (s.emptiedHandle i h iir) := by
  have hopens : OpensInv (s.emptiedHandle i h iir) := emptiedHandle_inv hs.opens hi
  obtain ⟨hungUp, state, last⟩ := h
  cases state with
  | emptying =>
      apply serviceInv_down hopens (closeShutdown_down s.port iir)
      intro k hk
      rcases List.mem_or_eq_of_mem_set hk with hk | rfl
      · exact hc rfl k hk
      · simp [Handle.live]
  | _ => exact hs

theorem delayedHandle_service {s : Opens} {i : Nat} {h : Handle} (hs : ServiceInv s)
    (hi : s.handles[i]? = some h) : ServiceInv (s.delayedHandle i h) := by
  have hopens := delayedHandle_inv hs.opens hi
  obtain ⟨hungUp, state, last⟩ := h
  cases state with
  | delaying =>
      apply hs.put hopens (sameUp_endClosing s.port)
      simp [Handle.live]
  | _ => exact hs

theorem hangUp_service {s t : Opens} {iir : Byte} (hs : ServiceInv s)
    (h : s.hangUp iir = .ok t) : ServiceInv t := by
  have hopens := hangUp_inv hs.opens h
  simp only [Opens.hangUp] at h
  by_cases hnone : s.ttyCount = 0
  · rw [if_pos hnone] at h
    cases h
    exact hs
  · by_cases hbase : s.port.base = 0
    · rw [if_neg hnone, if_pos hbase] at h
      cases h
    · rw [if_neg hnone, if_neg hbase] at h
      cases h
      apply serviceInv_down hopens (mxserHangup_down s.port iir)
      intro k hk
      obtain ⟨k', -, rfl⟩ := List.mem_map.mp hk
      exact hangUp_live k'

theorem serviceInv_step {HZ : Int} {s t : Opens} {op : OpenOp} (hs : ServiceInv s)
    (hc : KeepsService s op) (h : openStep HZ s op = .ok t) : ServiceInv t := by
  rcases openStep_cases h with rfl | ⟨levels, -, rfl⟩ | ⟨a, rfl, ht⟩ | ⟨iir, -, ht⟩ |
    ⟨i, k, hi, ⟨signal, -, ht⟩ | ⟨-, rfl⟩ | ⟨-, rfl⟩ | ⟨iir, rfl, rfl⟩ | ⟨-, rfl⟩⟩
  · exact hs
  · have hsame : SameUp s.port { s.port with uart := s.port.uart.setLines levels } :=
      ⟨rfl, rfl, rfl⟩
    exact ⟨hs.opens.port rfl, hsame.up hs.up, hs.live⟩
  · exact openHandle_service hs hc ht
  · exact hangUp_service hs ht
  · exact wakeHandle_service hs hi ht
  · exact closeHandle_service hs hi
  · exact drainedHandle_service hs hi
  · apply emptiedHandle_service hs hi
    intro hstate
    exact hc (by rw [hi, Option.map_some, hstate])
  · exact delayedHandle_service hs hi

/-- A step that does not keep service leaves an open file without it. -/
theorem service_bad_step (HZ : Int) {s : Opens} {op : OpenOp} (hs : ServiceInv s)
    (hc : ¬ KeepsService s op) : ∃ t, openStep HZ s op = .ok t ∧ ¬ Serviced t := by
  cases op with
  | «open» a =>
      have hno : NoUart (s.withTty a.termios) a := not_not.mp hc
      obtain ⟨q, hq, hdown⟩ := mxserOpen_noUart HZ hno
      have hstep : openStep HZ s (.open a) = .ok
          { s with port := q, handles := s.handles ++ [⟨false, .opened, false⟩] } := by
        simp only [openStep, Opens.openHandle, hq]
        rfl
      refine ⟨_, hstep, ?_⟩
      exact not_serviced (opensInv_step hs.opens hstep)
        (List.mem_append_right _ (List.mem_singleton_self _)) rfl hdown
  | emptied i iir =>
      simp only [KeepsService, Classical.not_imp, not_forall, Option.map_eq_some_iff] at hc
      obtain ⟨⟨h, hi, hstate⟩, k, hk, hlive⟩ := hc
      have hlive : k.live = true := by simpa using hlive
      have hstep : openStep HZ s (.emptied i iir) = .ok (s.emptiedHandle i h iir) := by
        simp only [openStep, Opens.onHandle, hi]
      refine ⟨_, hstep, ?_⟩
      have hopens := opensInv_step hs.opens hstep
      obtain ⟨hungUp, state, last⟩ := h
      cases hstate
      -- the open file is another one than the one that closes
      have hmem : k ∈ s.handles.set i ⟨hungUp, .delaying, last⟩ := by
        obtain ⟨j, hj⟩ := List.mem_iff_getElem?.mp hk
        have hij : i ≠ j := by
          rintro rfl
          rw [hi] at hj
          cases hj
          simp [Handle.live] at hlive
        refine List.mem_iff_getElem?.mpr ⟨j, ?_⟩
        rw [List.getElem?_set_ne hij]
        exact hj
      exact not_serviced hopens hmem hlive (closeShutdown_down s.port iir)
  | _ => exact absurd trivial hc

/-! ## Whole runs -/

theorem serviceInv_start {p : Port} (hp : OpensInv (Opens.start p))
    (hdown : p.initialized = false) : ServiceInv (Opens.start p) :=
  serviceInv_down hp hdown nofun

theorem mxserInitbrd_down (HZ : Int) (hw : MxserHwconf) (init : Termios) (n : Nat)
    (uart : Uart) : (mxserInitbrd HZ hw init n uart).initialized = false := by
  show test asyncShareIrq asyncInitialized = false
  decide

/-- **Open files are served in exactly these runs.** Whenever a file's open has
returned success and it has been neither closed nor hung up, a positive
`info->count` means an initialised port with a tty and a transmit page, if and
only if no close comes to its `mxser_shutdown` while a file is open, and no
open finds the port down and without a UART and succeeds. -/
theorem open_files_served_iff (HZ : Int) (hw : MxserHwconf) (init : Termios) (n : Nat)
    (uart : Uart) (ops : List OpenOp) :
    Always (openStep HZ) Serviced (Opens.start (mxserInitbrd HZ hw init n uart)) ops ↔
      Guarded (openStep HZ) KeepsService (Opens.start (mxserInitbrd HZ hw init n uart)) ops := by
  apply always_iff_guarded (J := ServiceInv)
  · exact fun s hs => hs.serviced
  · exact fun s op t hs hc h => serviceInv_step hs hc h
  · exact fun s op hs hc => service_bad_step HZ hs hc
  · exact serviceInv_start (opensInv_start ⟨rfl, rfl⟩) (mxserInitbrd_down HZ hw init n uart)

/-- A file closes as the last one; while it waits for its bytes to be sent
another is opened without blocking, and gets the port as it still is; then the
close goes on and shuts it down. -/
theorem close_takes_port_from_open :
    ∃ t, run (openStep 100)
        (Opens.start (mxserInitbrd 100 ⟨0x180, 5, port16550A, 921600, by decide, moxaOtherUart,
          921600⟩ (c104Termios 0) 0 (resetUart uartMsrDcd)))
        [.open ⟨true, some fun _ => 0, 0x60, false, false, c104Termios 0⟩, .close 0,
          .open ⟨true, some fun _ => 0, 0x60, false, false, c104Termios 0⟩, .drained 0,
          .emptied 0 0] = .ok t ∧
      t.handles[1]? = some ⟨false, .opened, false⟩ ∧ t.port.opens.count = 1 ∧
      t.port.initialized = false ∧ t.port.infoTty = false ∧ t.port.ring.buf.isSome = false :=
  ⟨_, rfl, by decide⟩

end MoxaDrivers.Mxser

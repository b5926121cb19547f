import MoxaDrivers.Lib.Custody
import MoxaDrivers.Mxser.OpenClose

/-!
# The transmit page of a port

A start obtains a page before it knows whether it will bring the port up. Every
way out of it frees the page, hands it to a port that comes up, or, where nothing
answers at the line status register, leaves it with a port that does not. A
shutdown frees the page of a port that is up. `mxser` and `mxupcie` do so alike;
`PageDriver` is what they have in common.
-/

namespace MoxaDrivers.Mxser

open MoxaDrivers.Bits MoxaDrivers.Machine MoxaDrivers.Custody

/-! ## All or nothing -/

/-- What a start is judged by: the page and the ring, the shadow registers and
the registers, and `ASYNC_INITIALIZED`. -/
structure StartView where
  ring : XmitRing
  ier : Byte
  mcr : Byte
  uartIer : Byte
  uartMcr : Byte
  initialized : Bool

/-- The port is up, with a page, an empty ring and shadows that are right. -/
structure BroughtUp (v : StartView) : Prop where
  initialized : v.initialized = true
  page : v.ring.buf.isSome = true
  empty : v.ring.cnt = 0 ∧ v.ring.head = 0 ∧ v.ring.tail = 0
  ier : v.uartIer = v.ier
  mcr : v.uartMcr = v.mcr

/-- Page, ring and shadows are what they were. -/
structure LeftAlone (v w : StartView) : Prop where
  ring : w.ring = v.ring
  ier : w.ier = v.ier
  mcr : w.mcr = v.mcr

def AllOrNothing (v w : StartView) : Prop := BroughtUp w ∨ LeftAlone v w

/-- The page goes to the port, if it has none. -/
def StartView.attach (v : StartView) (page : Page) : StartView :=
  { v with ring := { v.ring with buf := some (v.ring.buf.getD page) } }

/-- A page that goes to a port which does not come up is neither. -/
theorem attach_allOrNothing_iff {v : StartView} (hinit : v.initialized = false) (page : Page) :
    AllOrNothing v (v.attach page) ↔ v.ring.buf.isSome = true := by
  constructor
  · rintro (hup | halone)
    · exact absurd (hinit.symm.trans hup.initialized) Bool.false_ne_true
    · have hbuf : (v.attach page).ring.buf = v.ring.buf := congrArg XmitRing.buf halone.ring
      rw [← hbuf]
      rfl
  · intro hbuf
    obtain ⟨old, hold⟩ := Option.isSome_iff_exists.mp hbuf
    refine .inr ⟨?_, rfl, rfl⟩
    show { v.ring with buf := some (v.ring.buf.getD page) } = v.ring
    rw [hold, Option.getD_some, ← hold]

/-! ## A driver with pages -/

/-- The calls that obtain and free the page of a port, with what they do to what
a start is judged by. `absent` is a port without base address or UART type. -/
structure PageDriver (P : Type) where
  view : P → StartView
  absent : P → Bool
  startup : P → Option Page → Byte → Bool → P
  shutdown : P → P
  hangup : P → Byte → P
  startup_refused : ∀ p page lsr admin,
    page = none ∨ (view p).initialized = true ∨ absent p = true →
    view (startup p page lsr admin) = view p
  startup_unanswered : ∀ p page admin, (view p).initialized = false → absent p = false →
    view (startup p (some page) 0xFF admin) = (view p).attach page
  startup_answered : ∀ p page lsr admin, (view p).initialized = false → absent p = false →
    lsr ≠ 0xFF → BroughtUp (view (startup p (some page) lsr admin))
  shutdown_down : ∀ p, (view (shutdown p)).initialized = false
  shutdown_page : ∀ p, (view (shutdown p)).ring.buf =
    if (view p).initialized then none else (view p).ring.buf
  hangup_down : ∀ p iir, (view (hangup p iir)).initialized = false
  hangup_page : ∀ p iir, (view (hangup p iir)).ring.buf =
    if (view p).initialized then none else (view p).ring.buf

/-- A port and the pages that it obtained, holds and freed. -/
structure Paged (P : Type) where
  port : P
  pages : Ledger

inductive PageOp where
  | startup (page : Option Page) (lsr : Byte) (admin : Bool)
  | shutdown
  | hangup (iir : Byte)

namespace PageDriver

variable {P : Type} (d : PageDriver P)

/-- What a start does with pages: its calls of `free_page`, and the assignment to
`xmit_buf`. -/
def startupPages (p : P) (page : Option Page) (pages : Ledger) : Ledger :=
  if page.isNone then pages
  else if (d.view p).initialized then pages.bounce
  else if d.absent p then pages.bounce
  else if (d.view p).ring.buf.isSome then pages.bounce
  else pages.keep

/-- What a shutdown does with them. -/
def shutdownPages (p : P) (pages : Ledger) : Ledger :=
  if (d.view p).initialized then if (d.view p).ring.buf.isSome then pages.release else pages
  else pages

def next (s : Paged P) : PageOp → Paged P
  | .startup page lsr admin =>
      ⟨d.startup s.port page lsr admin, d.startupPages s.port page s.pages⟩
  | .shutdown => ⟨d.shutdown s.port, d.shutdownPages s.port s.pages⟩
  -- the flush before the shutdown leaves page and flags
  | .hangup iir => ⟨d.hangup s.port iir, d.shutdownPages s.port s.pages⟩

def step (s : Paged P) (a : PageOp) : Except Empty (Paged P) := .ok (d.next s a)

/-- A start that gets as far as the line status register, where nothing answers. -/
def Unanswered (p : P) (page : Option Page) (lsr : Byte) : Prop :=
  page.isSome = true ∧ (d.view p).initialized = false ∧ d.absent p = false ∧ lsr = 0xFF

instance (p : P) (page : Option Page) (lsr : Byte) : Decidable (d.Unanswered p page lsr) :=
  inferInstanceAs (Decidable (_ ∧ _))

variable {d} in
/-- Such a start is past the checks before it. -/
theorem Unanswered.not_refused {p : P} {page : Option Page} {lsr : Byte}
    (h : d.Unanswered p page lsr) :
    ¬ (page = none ∨ (d.view p).initialized = true ∨ d.absent p = true) := by
  obtain ⟨hpage, hinit, hthere, -⟩ := h
  intro hrefused
  obtain hno | hno | hno := hrefused
  · exact absurd hpage (by simp [hno])
  · exact absurd (hinit.symm.trans hno) Bool.false_ne_true
  · exact absurd (hthere.symm.trans hno) Bool.false_ne_true

variable {d} in
/-- A start that is past them has a page, for a port that is there and not up. -/
theorem not_refused_cases {p : P} {page : Option Page}
    (h : ¬ (page = none ∨ (d.view p).initialized = true ∨ d.absent p = true)) :
    ∃ pg, page = some pg ∧ (d.view p).initialized = false ∧ d.absent p = false := by
  obtain ⟨hpage, hrefused⟩ := not_or.mp h
  obtain ⟨hinit, hthere⟩ := not_or.mp hrefused
  obtain ⟨pg, hpg⟩ := Option.ne_none_iff_exists'.mp hpage
  rw [Bool.not_eq_true] at hinit hthere
  exact ⟨pg, hpg, hinit, hthere⟩

/-- **One start is all or nothing** unless nothing answers and the port had no
page. -/
theorem startup_allOrNothing_iff (p : P) (page : Option Page) (lsr : Byte) (admin : Bool) :
    AllOrNothing (d.view p) (d.view (d.startup p page lsr admin)) ↔
      (d.Unanswered p page lsr → (d.view p).ring.buf.isSome = true) := by
  by_cases hrefused : page = none ∨ (d.view p).initialized = true ∨ d.absent p = true
  · rw [d.startup_refused p page lsr admin hrefused]
    exact ⟨fun _ hun => absurd hrefused hun.not_refused, fun _ => .inr ⟨rfl, rfl, rfl⟩⟩
  · obtain ⟨pg, rfl, hinit, hthere⟩ := not_refused_cases hrefused
    by_cases hlsr : lsr = 0xFF
    · subst hlsr
      have hun : d.Unanswered p (some pg) 0xFF := ⟨rfl, hinit, hthere, rfl⟩
      rw [d.startup_unanswered p pg admin hinit hthere, attach_allOrNothing_iff hinit,
        forall_prop_of_true hun]
    · have hup := d.startup_answered p pg lsr admin hinit hthere hlsr
      exact ⟨fun _ hun => absurd hun.2.2.2 hlsr, fun _ => .inl hup⟩

/-! ## Pages over runs -/

/-- `xmit_buf` is the page that is held. -/
def Booked (s : Paged P) : Prop := s.pages.held.isSome = (d.view s.port).ring.buf.isSome

def holder (s : Paged P) : Holder := ⟨(d.view s.port).initialized, s.pages⟩

/-- What an operation comes to. -/
def call (s : Paged P) : PageOp → Custody.Call
  | .startup page lsr _ =>
      if page = none ∨ (d.view s.port).initialized = true ∨ d.absent s.port = true then
        if page.isNone then .nothing else .refused
      else if lsr = 0xFF then .failed
      else .started
  | _ => if (d.view s.port).initialized then .stopped else .nothing

variable {d}

/-- A start that is refused frees its page, if it got one. -/
theorem startupPages_refused {s : Paged P} {page : Option Page}
    (h : page = none ∨ (d.view s.port).initialized = true ∨ d.absent s.port = true) :
    d.startupPages s.port page s.pages = if page.isNone then s.pages else s.pages.bounce := by
  rw [startupPages]
  split
  · rfl
  · next hsome =>
      split
      · rfl
      · next hinit =>
          have hpage : page ≠ none := fun hnone => hsome (Option.isNone_iff_eq_none.mpr hnone)
          rw [if_pos ((h.resolve_left hpage).resolve_left hinit)]

/-- A start of a port that is there takes the page where the port has none. -/
theorem startupPages_take {s : Paged P} (h : d.Booked s) (page : Page)
    (hinit : (d.view s.port).initialized = false) (hthere : d.absent s.port = false) :
    d.startupPages s.port (some page) s.pages = s.pages.take := by
  rw [startupPages, Option.isNone_some, hinit, hthere, Ledger.take, h]
  rfl

theorem startup_holder {s : Paged P} (h : d.Booked s) (page : Option Page) (lsr : Byte)
    (admin : Bool) :
    d.Booked (d.next s (.startup page lsr admin)) ∧
      d.holder (d.next s (.startup page lsr admin)) =
        (d.holder s).next (d.call s (.startup page lsr admin)) := by
  simp only [Booked, holder, next, call]
  by_cases hrefused :
      page = none ∨ (d.view s.port).initialized = true ∨ d.absent s.port = true
  · rw [if_pos hrefused, d.startup_refused _ _ _ _ hrefused, startupPages_refused hrefused]
    split
    · exact ⟨h, rfl⟩
    · exact ⟨h, rfl⟩
  · rw [if_neg hrefused]
    obtain ⟨pg, rfl, hinit, hthere⟩ := not_refused_cases hrefused
    rw [startupPages_take h pg hinit hthere]
    by_cases hlsr : lsr = 0xFF
    · subst hlsr
      rw [if_pos rfl, d.startup_unanswered _ _ _ hinit hthere]
      exact ⟨s.pages.take_held, rfl⟩
    · have hup := d.startup_answered s.port pg lsr admin hinit hthere hlsr
      rw [if_neg hlsr, hup.initialized, hup.page]
      exact ⟨s.pages.take_held, rfl⟩

/-- A shutdown frees the page of a port that is up, and nothing else; `q` is the
port after it. -/
theorem shutdown_holder {s : Paged P} {q : P} (h : d.Booked s)
    (hdown : (d.view q).initialized = false)
    (hpage : (d.view q).ring.buf =
      if (d.view s.port).initialized then none else (d.view s.port).ring.buf) :
    d.Booked ⟨q, d.shutdownPages s.port s.pages⟩ ∧
      d.holder ⟨q, d.shutdownPages s.port s.pages⟩ =
        (d.holder s).next (if (d.view s.port).initialized then .stopped else .nothing) := by
  simp only [Booked, holder, shutdownPages, hdown, hpage]
  cases hinit : (d.view s.port).initialized with
  | true =>
      have hpages : (if (d.view s.port).ring.buf.isSome then s.pages.release else s.pages) =
          s.pages.release := by
        by_cases hbuf : (d.view s.port).ring.buf.isSome = true
        · rw [if_pos hbuf]
        · have hnone : s.pages.held = none := by
            rw [Booked, Bool.eq_false_iff.mpr hbuf] at h
            simpa using h
          rw [if_neg hbuf, Ledger.release_of_none hnone]
      rw [if_pos rfl, if_pos rfl, if_pos rfl, hpages]
      exact ⟨rfl, rfl⟩
  | false => exact ⟨h, rfl⟩

/-- **Each operation comes to its call.** -/
theorem step_call (s : Paged P) (a : PageOp) (h : d.Booked s) :
    ∃ t, d.step s a = .ok t ∧ d.Booked t ∧ d.holder t = (d.holder s).next (d.call s a) := by
  refine ⟨d.next s a, rfl, ?_⟩
  cases a with
  | startup page lsr admin => exact startup_holder h page lsr admin
  | shutdown => exact shutdown_holder h (d.shutdown_down s.port) (d.shutdown_page s.port)
  | hangup iir => exact shutdown_holder h (d.hangup_down s.port iir) (d.hangup_page s.port iir)

variable (d) in
/-- No start is left unanswered. -/
def Answered (s : Paged P) : PageOp → Prop
  | .startup page lsr _ => ¬ d.Unanswered s.port page lsr
  | _ => True

instance (s : Paged P) (a : PageOp) : Decidable (d.Answered s a) :=
  match a with
  | .startup page lsr _ => inferInstanceAs (Decidable (¬ d.Unanswered s.port page lsr))
  | .shutdown => .isTrue trivial
  | .hangup _ => .isTrue trivial

theorem startup_failed_iff (s : Paged P) (page : Option Page) (lsr : Byte) (admin : Bool) :
    d.call s (.startup page lsr admin) = .failed ↔ d.Unanswered s.port page lsr := by
  simp only [call]
  by_cases hrefused :
      page = none ∨ (d.view s.port).initialized = true ∨ d.absent s.port = true
  · rw [if_pos hrefused]
    constructor
    · intro h
      split at h
      · cases h
      · cases h
    · exact fun hun => absurd hrefused hun.not_refused
  · rw [if_neg hrefused]
    obtain ⟨pg, rfl, hinit, hthere⟩ := not_refused_cases hrefused
    by_cases hlsr : lsr = 0xFF
    · rw [if_pos hlsr]
      exact ⟨fun _ => ⟨rfl, hinit, hthere, hlsr⟩, fun _ => rfl⟩
    · rw [if_neg hlsr]
      constructor
      · intro h
        cases h
      · exact fun hun => absurd hun.2.2.2 hlsr

/-- The starts that fail are those, and of ports that are not up. -/
theorem answered_iff (s : Paged P) (a : PageOp) :
    (d.call s a = .failed → (d.holder s).up = true) ↔ d.Answered s a := by
  have hstop : (if (d.view s.port).initialized then Custody.Call.stopped else .nothing) ≠ .failed := by
    split
    · intro h
      cases h
    · intro h
      cases h
  cases a with
  | startup page lsr admin =>
      rw [startup_failed_iff]
      constructor
      · intro h hun
        exact absurd ((h hun).symm.trans hun.2.1) (by decide)
      · exact fun h hun => absurd hun h
  | shutdown => exact ⟨fun _ => trivial, fun _ hfailed => absurd hfailed hstop⟩
  | hangup iir => exact ⟨fun _ => trivial, fun _ hfailed => absurd hfailed hstop⟩

/-- **The pages of a port are in order** along a run exactly if every start of it
is answered. -/
theorem pages_exact_iff {s : Paged P} (hbooked : d.Booked s) (hkept : Kept (d.holder s))
    (as : List PageOp) :
    Always d.step (fun s => d.Booked s ∧ Exact (d.holder s)) s as ↔
      Guarded d.step d.Answered s as := by
  have hguard : (fun s a => d.call s a = .failed → (d.holder s).up = true) = d.Answered := by
    funext s a
    exact propext (answered_iff s a)
  rw [← hguard]
  exact always_exact_iff step_call as hbooked hkept

end PageDriver

/-! ## `mxser` -/

def Port.startView (p : Port) : StartView :=
  ⟨p.ring, p.ier, p.mcr, p.uart.ier, p.uart.mcr, p.initialized⟩

theorem startupUart_broughtUp {p : Port} (h : p.ring.buf.isSome = true) :
    BroughtUp (startupUart p).startView :=
  ⟨startupUart_initialized p, h, ⟨rfl, rfl, rfl⟩, rfl, rfl⟩

theorem mxserShutdown_buf (p : Port) :
    (mxserShutdown p).ring.buf = if p.initialized then none else p.ring.buf := by
  rw [mxserShutdown]
  split
  · rfl
  · rfl

/-- The pages of a port of `mxser`. -/
def mxserPages : PageDriver Port where
  view := Port.startView
  absent p := decide (p.base = 0 ∨ p.type = 0)
  startup p page lsr admin := (mxserStartup p page lsr admin).2
  shutdown := mxserShutdown
  hangup := mxserHangup
  startup_refused p page lsr admin h := by
    rcases mxserStartup_cases p page lsr admin with
      ⟨-, heq⟩ | ⟨-, -, heq⟩ | ⟨-, -, -, heq⟩ | ⟨pg, rfl, hinit, hbase, htype, -⟩ |
      ⟨pg, rfl, hinit, hbase, htype, -⟩
    · rw [heq]
    · rw [heq]
    · rw [heq]
      rfl
    · have hinit' : p.startView.initialized = false := hinit
      simp [hinit', hbase, htype] at h
    · have hinit' : p.startView.initialized = false := hinit
      simp [hinit', hbase, htype] at h
  startup_unanswered p page admin hinit hthere := by
    have hthere : ¬ (p.base = 0 ∨ p.type = 0) := by simpa using hthere
    have hdown : ¬ p.initialized = true := Bool.eq_false_iff.mp hinit
    simp only [mxserStartup]
    rw [if_neg hdown, if_neg hthere, if_pos trivial]
    cases admin with
    | true => rfl
    | false => rfl
  startup_answered p page lsr admin hinit hthere hlsr := by
    have hthere : ¬ (p.base = 0 ∨ p.type = 0) := by simpa using hthere
    have hdown : ¬ p.initialized = true := Bool.eq_false_iff.mp hinit
    simp only [mxserStartup]
    rw [if_neg hdown, if_neg hthere, if_neg hlsr]
    exact startupUart_broughtUp rfl
  shutdown_down := mxserShutdown_down
  shutdown_page := mxserShutdown_buf
  hangup_down := mxserHangup_down
  hangup_page p iir := mxserShutdown_buf (mxserFlushBuffer p iir)

end MoxaDrivers.Mxser

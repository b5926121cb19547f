import MoxaDrivers.Mxser.Board
import MoxaDrivers.Mxser.PageCustody
import MoxaDrivers.Mxupcie.Startup
import MoxaDrivers.Mxupcie.Transmit

/-!
# Start-up is all or nothing, and pages are in order

`mx_startup`, `mx_shutdown` and `mxupcie_hangup` do with the page of a port what
`mxser` does.
-/

namespace MoxaDrivers.Mxupcie

open MoxaDrivers.Bits MoxaDrivers.Machine MoxaDrivers.Custody MoxaDrivers.Mxser

def mxupcieHangup (p : Port) (iir : Byte) : Port :=
  let p := mxShutdown (mxupcieFlushBuffer p iir)
  { p with
    event := ⟨false, false⟩
    flags := p.flags &&& ~~~(asyncNormalActive ||| asyncCalloutActive)
    infoTty := false }

def Port.startView (p : Port) : StartView :=
  ⟨p.ring, p.ier, p.mcr, p.uart.ier, p.uart.mcr, p.initialized⟩

theorem startupUart_broughtUp {p : Port} (h : p.ring.buf.isSome = true) :
    BroughtUp (startupUart p).startView :=
  ⟨startupUart_initialized p, h, ⟨rfl, rfl, rfl⟩, rfl, rfl⟩

theorem mxShutdown_initialized (p : Port) : (mxShutdown p).initialized = false := by
  rw [mxShutdown]
  split
  · exact test_clear_self _ _
  · next hinit => exact Bool.eq_false_iff.mpr hinit

theorem mxShutdown_buf (p : Port) :
    (mxShutdown p).ring.buf = if p.initialized then none else p.ring.buf := by
  rw [mxShutdown]
  split
  · rfl
  · rfl

/-- The pages of a port of `mxupcie`. -/
def mxupciePages : PageDriver Port where
  view := Port.startView
  absent p := decide (p.base = 0 ∨ p.type = 0)
  startup p page lsr admin := (mxStartup p page lsr admin).2
  shutdown := mxShutdown
  hangup := mxupcieHangup
  startup_refused p page lsr admin h := by
    rcases mxStartup_cases p page lsr admin with
      ⟨-, heq⟩ | ⟨-, -, heq⟩ | ⟨-, -, -, heq⟩ | ⟨pg, rfl, hinit, hbase, htype, -⟩ |
      ⟨pg, rfl, hinit, hbase, htype, -⟩
    · rw [heq]
    · rw [heq]
    · rw [heq]
      rfl
    · have hinit' : p.startView.initialized = false := hinit
      simp [hinit', hbase, htype] at h
    · have hinit' : p.startView.initialized = false := hinit
      simp [hinit', hbase, htype] at h
  startup_unanswered p page admin hinit hthere := by
    have hthere : ¬ (p.base = 0 ∨ p.type = 0) := by simpa using hthere
    have hdown : ¬ p.initialized = true := Bool.eq_false_iff.mp hinit
    simp only [mxStartup]
    rw [if_neg hdown, if_neg hthere, if_pos trivial]
    cases admin with
    | true => rfl
    | false => rfl
  startup_answered p page lsr admin hinit hthere hlsr := by
    have hthere : ¬ (p.base = 0 ∨ p.type = 0) := by simpa using hthere
    have hdown : ¬ p.initialized = true := Bool.eq_false_iff.mp hinit
    simp only [mxStartup]
    rw [if_neg hdown, if_neg hthere, if_neg hlsr]
    exact startupUart_broughtUp rfl
  shutdown_down := mxShutdown_initialized
  shutdown_page := mxShutdown_buf
  hangup_down p iir :=
    (test_clear_of_disjoint (by decide)).trans (mxShutdown_initialized (mxupcieFlushBuffer p iir))
  hangup_page p iir := mxShutdown_buf (mxupcieFlushBuffer p iir)

/-! ## Both drivers -/

/-- **When starts are all or nothing and pages in order**: a start of either
driver unless it is left unanswered with a port that has no page, and a run from
a port with its page in order exactly if every start of it is answered. -/
theorem startup_pages_iff (p : Mxser.Port) (q : Port) (page : Option Page) (lsr : Byte)
    (admin : Bool) {s : Paged Mxser.Port} {t : Paged Port} (hs : mxserPages.Booked s)
    (hkept : Kept (mxserPages.holder s)) (ht : mxupciePages.Booked t)
    (hkept' : Kept (mxupciePages.holder t)) (as : List PageOp) :
    ((AllOrNothing p.startView (mxserStartup p page lsr admin).2.startView ↔
          (mxserPages.Unanswered p page lsr → p.ring.buf.isSome = true)) ∧
      (Always mxserPages.step (fun s => mxserPages.Booked s ∧ Exact (mxserPages.holder s)) s as ↔
        Guarded mxserPages.step mxserPages.Answered s as)) ∧
    (AllOrNothing q.startView (mxStartup q page lsr admin).2.startView ↔
        (mxupciePages.Unanswered q page lsr → q.ring.buf.isSome = true)) ∧
      (Always mxupciePages.step
          (fun s => mxupciePages.Booked s ∧ Exact (mxupciePages.holder s)) t as ↔
        Guarded mxupciePages.step mxupciePages.Answered t as) :=
  ⟨⟨mxserPages.startup_allOrNothing_iff p page lsr admin, PageDriver.pages_exact_iff hs hkept as⟩,
    mxupciePages.startup_allOrNothing_iff q page lsr admin,
    PageDriver.pages_exact_iff ht hkept' as⟩

/-- Ports as the board set-up leaves them. -/
def freshC104 : Paged Mxser.Port := ⟨c104Port port16550A (c104Termios 0), Ledger.empty⟩

def freshCp102 : Paged Port := ⟨cp102Port (cp102Termios 0), Ledger.empty⟩

/-- Both are opened, hung up and opened again. -/
theorem startup_pages_two_opens :
    Always mxserPages.step (fun s => mxserPages.Booked s ∧ Exact (mxserPages.holder s))
        freshC104 [.startup (some fun _ => 0) 0x60 false, .hangup 0xC1,
          .startup (some fun _ => 0) 0x60 false] ∧
      Always mxupciePages.step (fun s => mxupciePages.Booked s ∧ Exact (mxupciePages.holder s))
        freshCp102 [.startup (some fun _ => 0) 0x60 false, .hangup 0xC1,
          .startup (some fun _ => 0) 0x60 false] := by
  have hs : mxserPages.Booked freshC104 := rfl
  have ht : mxupciePages.Booked freshCp102 := rfl
  have hkept : Kept (mxserPages.holder freshC104) := ⟨by decide, Ledger.balanced_empty⟩
  have hkept' : Kept (mxupciePages.holder freshCp102) := ⟨by decide, Ledger.balanced_empty⟩
  have hiff := startup_pages_iff freshC104.port freshCp102.port none 0x60 false hs hkept ht hkept'
    [.startup (some fun _ => 0) 0x60 false, .hangup 0xC1, .startup (some fun _ => 0) 0x60 false]
  exact ⟨hiff.1.2.mpr (by decide), hiff.2.2.mpr (by decide)⟩

/-- Nothing answers: the caller is told `-ENODEV`, and the page stays with a port
that is not up. -/
theorem startup_page_stays :
    (mxserStartup (c104Port port16550A (c104Termios 0)) (some fun _ => 0) 0xFF false).1 =
        some .enodev ∧
      ∃ t, run mxserPages.step freshC104
          [.startup (some fun _ => 0) 0xFF false, .shutdown] = .ok t ∧
        t.port.initialized = false ∧ t.port.ring.buf.isSome = true ∧ t.pages.held = some 0 :=
  ⟨by decide, _, rfl, by decide, rfl, rfl⟩

end MoxaDrivers.Mxupcie

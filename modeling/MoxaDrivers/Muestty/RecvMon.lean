import MoxaDrivers.Lib.Machine
import MoxaDrivers.Lib.Text
import Mathlib.Data.List.Basic
import Mathlib.Tactic.Common

/-!
# The receive monitor of the terminal

`recvmon_disp` fills `rbuf`, and when it is full, or at the end, shows it. What it
shows is a list of `Put`; `Event` is what a put does to a cell, so that a line that
is put in two parts is the same as one that is put at once. The bytes of `rbuf` up
to `rlen` are a list, and a look at the byte behind them is noted in `stray`. What
is there makes no difference, as the loop ends in any case.
-/

namespace MoxaDrivers.Muestty

open MoxaDrivers.Machine MoxaDrivers.Text

/-- `LEN`. -/
def rbufLen : Nat := 156

/-- A character in `temp`: received, or one of the blanks for a tab. -/
inductive Shown where
  | byte (ch : BitVec 8)
  | tab
  deriving DecidableEq, Repr

inductive Put where
  | text (chars : List Shown) (x y : Nat)
  | clear (y : Nat)
  deriving DecidableEq, Repr

/-- `x` and `y`, what has been put so far, and whether `rbuf` has been read at `rlen`
or `temp` written behind its end. -/
structure Screen where
  x : Nat
  y : Nat
  log : List Put
  stray : Bool
  overrun : Bool
  deriving DecidableEq

/-- The screen, with `sx` and `temp`, in the loop. -/
structure DispLoop extends Screen where
  sx : Nat
  temp : List Shown

/-! ## The code -/

def isCr (ch : BitVec 8) : Bool := decide (ch = 0x0D)

def isLf (ch : BitVec 8) : Bool := decide (ch = 0x0A)

def isTab (ch : BitVec 8) : Bool := decide (ch = 9)

def isLineEnd (ch : BitVec 8) : Bool := isCr ch || isLf ch

/-- The two bytes are one line end. -/
def paired (ch next : BitVec 8) : Bool := (isCr ch && isLf next) || (isLf ch && isCr next)

def DispLoop.store (s : DispLoop) (chars : List Shown) : DispLoop :=
  { s with
    temp := s.temp ++ chars
    overrun := s.overrun || decide ((s.temp ++ chars).length > 81) }

def nextY (y : Nat) : Nat := if y + 1 ≥ 22 then 8 else y + 1

/-- `lflag` is set. -/
def DispLoop.endLine (s : DispLoop) : DispLoop :=
  { s with
    log := s.log ++ [.text s.temp s.sx s.y, .clear (nextY s.y)]
    temp := []
    sx := 1
    x := 1
    y := nextY s.y }

def tabStop (x : Nat) : Nat := (x + 7) / 8 * 8 + 1

def dispByte (ch : BitVec 8) (s : DispLoop) : DispLoop :=
  if isLineEnd ch then s.endLine
  else if isTab ch then
    let s' := { s with x := tabStop s.x }
    if s'.x ≥ 79 then s'.endLine else s'.store (List.replicate (tabStop s.x - s.x) .tab)
  else
    let s' := { s.store [.byte ch] with x := s.x + 1 }
    if s'.x ≥ 79 then s'.endLine else s'

/-- The loop over `rbuf`. After a line end the next byte is looked at, and skipped if
it belongs to it. -/
def dispLoop : List (BitVec 8) → DispLoop → DispLoop
  | [], s => s
  | [ch], s =>
      let s' := dispByte ch s
      { s' with stray := s'.stray || isLineEnd ch }
  | ch :: next :: rest, s =>
      if paired ch next then dispLoop rest (dispByte ch s)
      else dispLoop (next :: rest) (dispByte ch s)

/-- `rbuf` is shown. -/
def Screen.disp (s : Screen) (rbuf : List (BitVec 8)) : Screen :=
  let t := dispLoop rbuf { s with sx := s.x, temp := [] }
  if t.temp ≠ [] then { t.toScreen with log := t.log ++ [.text t.temp t.sx t.y] } else t.toScreen

structure Recvmon where
  screen : Screen
  rbuf : List (BitVec 8)

def recvmonInit : Recvmon := ⟨⟨1, 8, [], false, false⟩, []⟩

/-- `recvmon_disp(0)`, with what `read` returns. It never returns more than there is
room for. -/
def recvmonDisp (s : Recvmon) (got : List (BitVec 8)) : Except Unit Recvmon :=
  if got.length ≤ rbufLen - s.rbuf.length then
    if got = [] then .ok s
    else if (s.rbuf ++ got).length < rbufLen then .ok { s with rbuf := s.rbuf ++ got }
    else .ok ⟨s.screen.disp (s.rbuf ++ got), []⟩
  else .error ()

/-- `recvmon_disp(1)`. -/
def recvmonEnd (s : Recvmon) : Screen := s.screen.disp s.rbuf

/-! ## What is seen -/

inductive Event where
  | cell (x y : Nat) (char : Shown)
  | clear (y : Nat)
  deriving DecidableEq, Repr

def cellsFrom (x y : Nat) : List Shown → List Event
  | [] => []
  | char :: chars => .cell x y char :: cellsFrom (x + 1) y chars

def Put.events : Put → List Event
  | .text chars x y => cellsFrom x y chars
  | .clear y => [.clear y]

def Screen.events (s : Screen) : List Event := s.log.flatMap Put.events

/-- The received byte that an event shows. -/
def Event.byte? : Event → Option (BitVec 8)
  | .cell _ _ (.byte ch) => some ch
  | _ => none

/-- In the window, without its frame. -/
def Event.Inside : Event → Prop
  | .cell x y _ => 1 ≤ x ∧ x ≤ 78 ∧ 8 ≤ y ∧ y ≤ 21
  | .clear y => 8 ≤ y ∧ y ≤ 21

def isPlain (ch : BitVec 8) : Bool := !(isLineEnd ch || isTab ch)

/-- All that is received in one buffer. -/
def onePass (stream : List (BitVec 8)) : List Event := (recvmonInit.screen.disp stream).events

structure ShowsStream (stream : List (BitVec 8)) (s : Screen) : Prop where
  no_stray : s.stray = false
  no_overrun : s.overrun = false
  shown : s.events.filterMap Event.byte? = stream.filter isPlain
  inside : ∀ e ∈ s.events, e.Inside
  lines : s.events = onePass stream

/-- The last byte is the first of a line end. -/
def endsOpen : List (BitVec 8) → Bool
  | [] => false
  | [ch] => isLineEnd ch
  | ch :: next :: rest => if paired ch next then endsOpen rest else endsOpen (next :: rest)

/-! ## The pen

Where the next byte is shown, and what it shows, depends on the pen alone. -/

structure Pen where
  x : Nat
  y : Nat

structure Pen.Inside (p : Pen) : Prop where
  left : 1 ≤ p.x
  right : p.x ≤ 78
  top : 8 ≤ p.y
  bottom : p.y ≤ 21

def Pen.endLine (p : Pen) (es : List Event) : Pen × List Event :=
  (⟨1, nextY p.y⟩, es ++ [.clear (nextY p.y)])

def Pen.next (ch : BitVec 8) (p : Pen) : Pen × List Event :=
  if isLineEnd ch then p.endLine []
  else if isTab ch then
    if tabStop p.x ≥ 79 then p.endLine []
    else (⟨tabStop p.x, p.y⟩, cellsFrom p.x p.y (List.replicate (tabStop p.x - p.x) .tab))
  else if p.x + 1 ≥ 79 then p.endLine [.cell p.x p.y (.byte ch)]
  else (⟨p.x + 1, p.y⟩, [.cell p.x p.y (.byte ch)])

def layout : List (BitVec 8) → Pen → Pen × List Event
  | [], p => (p, [])
  | [ch], p => p.next ch
  | ch :: next :: rest, p =>
      let t :=
        if paired ch next then layout rest (p.next ch).1 else layout (next :: rest) (p.next ch).1
      (t.1, (p.next ch).2 ++ t.2)

theorem cellsFrom_append (x y : Nat) (chars more : List Shown) :
    cellsFrom x y (chars ++ more) = cellsFrom x y chars ++ cellsFrom (x + chars.length) y more := by
  induction chars generalizing x with
  | nil => rfl
  | cons char chars ih =>
      rw [List.cons_append, cellsFrom, ih, List.length_cons,
        show x + 1 + chars.length = x + (chars.length + 1) by omega]
      rfl

/-- What is put, and what is in `temp`. -/
def DispLoop.events (s : DispLoop) : List Event := s.toScreen.events ++ cellsFrom s.sx s.y s.temp

/-- The loop is where the pen is, and has shown `es`. -/
structure DispLoop.At (s : DispLoop) (p : Pen) (es : List Event) : Prop where
  x : s.x = p.x
  y : s.y = p.y
  start : 1 ≤ s.sx
  temp : s.sx + s.temp.length = p.x
  events : s.events = es

theorem nextY_bounds {y : Nat} (h : 8 ≤ y) : 8 ≤ nextY y ∧ nextY y ≤ 21 := by
  rw [nextY]
  split
  · omega
  · omega

theorem le_tabStop (x : Nat) : x ≤ tabStop x := by
  rw [tabStop]
  omega

theorem DispLoop.endLine_at {s : DispLoop} {p : Pen} {es : List Event} (hy : s.y = p.y)
    (h : s.events = es) : s.endLine.At ⟨1, nextY p.y⟩ (es ++ [.clear (nextY p.y)]) := by
  refine ⟨rfl, congrArg nextY hy, Nat.le_refl 1, rfl, ?_⟩
  rw [← h, ← hy]
  simp [DispLoop.events, DispLoop.endLine, Screen.events, Put.events, cellsFrom]

/-- `temp` has room for what fits a line. -/
theorem DispLoop.store_at {s : DispLoop} {p : Pen} {es : List Event} (h : s.At p es)
    (chars : List Shown) (hfits : p.x + chars.length ≤ 79) :
    DispLoop.At { s.store chars with x := p.x + chars.length } ⟨p.x + chars.length, p.y⟩
        (es ++ cellsFrom p.x p.y chars) ∧ (s.store chars).overrun = s.overrun := by
  obtain ⟨hx, hy, hstart, htemp, hevents⟩ := h
  constructor
  · refine ⟨rfl, hy, hstart, ?_, ?_⟩
    · show s.sx + (s.temp ++ chars).length = p.x + chars.length
      rw [List.length_append]
      omega
    · show s.toScreen.events ++ cellsFrom s.sx s.y (s.temp ++ chars) = _
      rw [cellsFrom_append, htemp, hy, ← hevents, DispLoop.events, hy, List.append_assoc]
  · have hroom : ¬ (s.temp ++ chars).length > 81 := by
      rw [List.length_append]
      omega
    show (s.overrun || decide ((s.temp ++ chars).length > 81)) = s.overrun
    rw [decide_eq_false hroom, Bool.or_false]

theorem dispByte_at {s : DispLoop} {p : Pen} {es : List Event} (h : s.At p es) (hp : p.Inside)
    (ch : BitVec 8) :
    (dispByte ch s).At (p.next ch).1 (es ++ (p.next ch).2) ∧
      (dispByte ch s).stray = s.stray ∧ (dispByte ch s).overrun = s.overrun := by
  have hright := hp.right
  rw [dispByte, Pen.next]
  split
  · exact ⟨DispLoop.endLine_at h.y h.events, rfl, rfl⟩
  · split
    · have hle := le_tabStop p.x
      simp only [h.x]
      split
      · exact ⟨DispLoop.endLine_at h.y h.events, rfl, rfl⟩
      · obtain ⟨hat, hover⟩ := DispLoop.store_at h (List.replicate (tabStop p.x - p.x) .tab)
          (by rw [List.length_replicate]; omega)
        rw [List.length_replicate, Nat.add_sub_cancel' hle] at hat
        exact ⟨hat, rfl, hover⟩
    · obtain ⟨hat, hover⟩ := DispLoop.store_at h [.byte ch] (by simp; omega)
      simp only [h.x]
      split
      · refine ⟨?_, rfl, hover⟩
        have hend := DispLoop.endLine_at hat.y hat.events
        rw [List.append_assoc] at hend
        exact hend
      · exact ⟨hat, rfl, hover⟩

/-! ## What the pen draws -/

theorem mem_cellsFrom {x y : Nat} {chars : List Shown} {e : Event} (h : e ∈ cellsFrom x y chars) :
    ∃ i < chars.length, ∃ char, e = .cell (x + i) y char := by
  induction chars generalizing x with
  | nil => cases h
  | cons char chars ih =>
      cases h with
      | head => exact ⟨0, Nat.zero_lt_succ _, char, rfl⟩
      | tail _ h =>
          obtain ⟨i, hi, char', rfl⟩ := ih h
          exact ⟨i + 1, Nat.succ_lt_succ hi, char', by rw [Nat.add_right_comm, Nat.add_assoc]⟩

theorem byte?_tabs (x y n : Nat) :
    (cellsFrom x y (List.replicate n .tab)).filterMap Event.byte? = [] := by
  induction n generalizing x with
  | zero => rfl
  | succ n ih => exact ih (x + 1)

theorem Pen.Inside.advance {p : Pen} (hp : p.Inside) {x : Nat} (hle : p.x ≤ x) (hx : x ≤ 78) :
    (⟨x, p.y⟩ : Pen).Inside :=
  ⟨Nat.le_trans hp.left hle, hx, hp.top, hp.bottom⟩

theorem Pen.Inside.endLine {p : Pen} (hp : p.Inside) {es : List Event} (hes : ∀ e ∈ es, e.Inside) :
    (p.endLine es).1.Inside ∧ (∀ e ∈ (p.endLine es).2, e.Inside) ∧
      (p.endLine es).2.filterMap Event.byte? = es.filterMap Event.byte? := by
  have hy := nextY_bounds hp.top
  refine ⟨⟨Nat.le_refl 1, Nat.le_of_ble_eq_true rfl, hy.1, hy.2⟩, ?_, ?_⟩
  · rw [Pen.endLine, List.forall_mem_append, List.forall_mem_singleton]
    exact ⟨hes, hy⟩
  · rw [Pen.endLine, List.filterMap_append]
    exact List.append_nil _

theorem Pen.next_inside {p : Pen} (hp : p.Inside) (ch : BitVec 8) :
    (p.next ch).1.Inside ∧ (∀ e ∈ (p.next ch).2, e.Inside) ∧
      (p.next ch).2.filterMap Event.byte? = [ch].filter isPlain := by
  have hnone : ∀ e ∈ ([] : List Event), e.Inside := fun e he => absurd he List.not_mem_nil
  have hcell : ∀ e ∈ [Event.cell p.x p.y (.byte ch)], e.Inside := by
    rw [List.forall_mem_singleton]
    exact ⟨hp.left, hp.right, hp.top, hp.bottom⟩
  rw [Pen.next]
  split
  · next hline =>
      have hplain : [ch].filter isPlain = [] := by simp [isPlain, hline]
      rw [hplain]
      exact hp.endLine hnone
  · next hline =>
      split
      · next htab =>
          have hplain : [ch].filter isPlain = [] := by simp [isPlain, htab]
          rw [hplain]
          split
          · exact hp.endLine hnone
          · next hx =>
              have hle := le_tabStop p.x
              refine ⟨hp.advance hle (by omega), fun e he => ?_, byte?_tabs _ _ _⟩
              obtain ⟨i, hi, char, rfl⟩ := mem_cellsFrom he
              rw [List.length_replicate] at hi
              exact ⟨Nat.le_trans hp.left (Nat.le_add_right _ _), by omega, hp.top, hp.bottom⟩
      · next htab =>
          have hplain : [ch].filter isPlain = [ch] := by simp [isPlain, hline, htab]
          rw [hplain]
          split
          · exact hp.endLine hcell
          · next hx => exact ⟨hp.advance (Nat.le_succ _) (by omega), hcell, rfl⟩

theorem layout_inside (bs : List (BitVec 8)) {p : Pen} (hp : p.Inside) :
    (layout bs p).1.Inside ∧ (∀ e ∈ (layout bs p).2, e.Inside) ∧
      (layout bs p).2.filterMap Event.byte? = bs.filter isPlain := by
  induction bs using endsOpen.induct generalizing p with
  | case1 => exact ⟨hp, by simp [layout], rfl⟩
  | case2 ch => exact Pen.next_inside hp ch
  | case3 ch next rest hpair ih =>
      obtain ⟨hpen, hinside, hbytes⟩ := Pen.next_inside hp ch
      obtain ⟨hpen', hinside', hbytes'⟩ := ih hpen
      have hnext : isPlain next = false := by
        simp only [paired, Bool.or_eq_true, Bool.and_eq_true] at hpair
        rcases hpair with ⟨-, hlf⟩ | ⟨-, hcr⟩
        · simp [isPlain, isLineEnd, hlf]
        · simp [isPlain, isLineEnd, hcr]
      simp only [layout, if_pos hpair]
      refine ⟨hpen', ?_, ?_⟩
      · rw [List.forall_mem_append]
        exact ⟨hinside, hinside'⟩
      · rw [List.filterMap_append, hbytes, hbytes', ← List.filter_append]
        simp [hnext, List.filter_cons]
  | case4 ch next rest hpair ih =>
      obtain ⟨hpen, hinside, hbytes⟩ := Pen.next_inside hp ch
      obtain ⟨hpen', hinside', hbytes'⟩ := ih hpen
      simp only [layout, if_neg hpair]
      refine ⟨hpen', ?_, ?_⟩
      · rw [List.forall_mem_append]
        exact ⟨hinside, hinside'⟩
      · rw [List.filterMap_append, hbytes, hbytes', ← List.filter_append]
        rfl

/-- Where a text ends with a whole line end, or none, the pen goes on as if there were
one text. -/
theorem layout_append {a : List (BitVec 8)} (ha : endsOpen a = false) (b : List (BitVec 8))
    (p : Pen) :
    layout (a ++ b) p =
      ((layout b (layout a p).1).1, (layout a p).2 ++ (layout b (layout a p).1).2) := by
  induction a using endsOpen.induct generalizing p with
  | case1 => rfl
  | case2 ch =>
      have hpair (next : BitVec 8) : paired ch next = false := by
        simp only [endsOpen, isLineEnd, Bool.or_eq_false_iff] at ha
        simp [paired, ha.1, ha.2]
      cases b with
      | nil => simp [layout]
      | cons next rest => simp [layout, hpair]
  | case3 ch next rest hpair ih =>
      rw [endsOpen, if_pos hpair] at ha
      simp only [List.cons_append, layout, if_pos hpair, ih ha, List.append_assoc]
  | case4 ch next rest hpair ih =>
      rw [endsOpen, if_neg hpair] at ha
      have hrest := ih ha (p.next ch).1
      rw [List.cons_append] at hrest
      simp only [List.cons_append, layout, if_neg hpair, hrest, List.append_assoc]

/-! ## The loop follows the pen -/

/-- What comes after a byte goes on from where it leaves the loop. -/
theorem dispByte_then {s t : DispLoop} {p q : Pen} {es more : List Event} (h : s.At p es)
    (hp : p.Inside) (ch : BitVec 8) {isOpen : Bool}
    (hrest : t.At q (es ++ (p.next ch).2 ++ more) ∧
      t.stray = ((dispByte ch s).stray || isOpen) ∧ t.overrun = (dispByte ch s).overrun) :
    t.At q (es ++ ((p.next ch).2 ++ more)) ∧
      t.stray = (s.stray || isOpen) ∧ t.overrun = s.overrun := by
  obtain ⟨-, hstray, hover⟩ := dispByte_at h hp ch
  rw [List.append_assoc, hstray, hover] at hrest
  exact hrest

theorem dispLoop_at (bs : List (BitVec 8)) {s : DispLoop} {p : Pen} {es : List Event}
    (h : s.At p es) (hp : p.Inside) :
    (dispLoop bs s).At (layout bs p).1 (es ++ (layout bs p).2) ∧
      (dispLoop bs s).stray = (s.stray || endsOpen bs) ∧
      (dispLoop bs s).overrun = s.overrun := by
  induction bs using endsOpen.induct generalizing s p es with
  | case1 => exact ⟨by simpa [layout, dispLoop] using h, by simp [dispLoop, endsOpen], rfl⟩
  | case2 ch =>
      obtain ⟨hat, hstray, hover⟩ := dispByte_at h hp ch
      refine ⟨⟨hat.x, hat.y, hat.start, hat.temp, hat.events⟩, ?_, hover⟩
      rw [← hstray]
      rfl
  | case3 ch next rest hpair ih =>
      simp only [dispLoop, layout, endsOpen, if_pos hpair]
      exact dispByte_then h hp ch (ih (dispByte_at h hp ch).1 (Pen.next_inside hp ch).1)
  | case4 ch next rest hpair ih =>
      simp only [dispLoop, layout, endsOpen, if_neg hpair]
      exact dispByte_then h hp ch (ih (dispByte_at h hp ch).1 (Pen.next_inside hp ch).1)

def Screen.pen (s : Screen) : Pen := ⟨s.x, s.y⟩

/-- What showing a buffer does. -/
theorem disp_spec (s : Screen) (hp : s.pen.Inside) (rbuf : List (BitVec 8)) :
    (s.disp rbuf).pen = (layout rbuf s.pen).1 ∧
      (s.disp rbuf).events = s.events ++ (layout rbuf s.pen).2 ∧
      (s.disp rbuf).stray = (s.stray || endsOpen rbuf) ∧
      (s.disp rbuf).overrun = s.overrun := by
  have hstart : DispLoop.At { s with sx := s.x, temp := [] } s.pen s.events :=
    ⟨rfl, rfl, hp.left, rfl, List.append_nil _⟩
  obtain ⟨hat, hstray, hover⟩ := dispLoop_at rbuf hstart hp
  simp only [Screen.disp]
  split
  · refine ⟨?_, ?_, hstray, hover⟩
    · show (⟨_, _⟩ : Pen) = _
      rw [hat.x, hat.y]
    · rw [← hat.events]
      simp [Screen.events, DispLoop.events, Put.events]
  · next htemp =>
      rw [not_not] at htemp
      refine ⟨?_, ?_, hstray, hover⟩
      · show (⟨_, _⟩ : Pen) = _
        rw [hat.x, hat.y]
      · rw [← hat.events, DispLoop.events, htemp]
        exact (List.append_nil _).symm

/-! ## Buffer after buffer -/

theorem foldl_disp (bs : List (List (BitVec 8))) {s : Screen} (hp : s.pen.Inside)
    (hs : ∀ e ∈ s.events, e.Inside) :
    (bs.foldl Screen.disp s).stray = (s.stray || bs.any endsOpen) ∧
      (bs.foldl Screen.disp s).overrun = s.overrun ∧
      (∀ e ∈ (bs.foldl Screen.disp s).events, e.Inside) ∧
      (bs.foldl Screen.disp s).events.filterMap Event.byte? =
        s.events.filterMap Event.byte? ++ bs.flatten.filter isPlain := by
  induction bs generalizing s with
  | nil => exact ⟨by simp, rfl, hs, by simp⟩
  | cons b bs ih =>
      obtain ⟨hpen, hevents, hstray, hover⟩ := disp_spec s hp b
      obtain ⟨hpen', hinside, hbytes⟩ := layout_inside b hp
      have hdisp : ∀ e ∈ (s.disp b).events, e.Inside := by
        rw [hevents, List.forall_mem_append]
        exact ⟨hs, hinside⟩
      obtain ⟨hstrays, hovers, hinsides, hall⟩ := ih (hpen ▸ hpen') hdisp
      rw [List.foldl_cons]
      refine ⟨?_, hovers.trans hover, hinsides, ?_⟩
      · rw [hstrays, hstray, List.any_cons, Bool.or_assoc]
      · rw [hall, hevents, List.filterMap_append, hbytes, List.flatten_cons, List.filter_append,
          List.append_assoc]

/-- No line end between two buffers: they show what one would. -/
theorem foldl_disp_of_closed {bs : List (List (BitVec 8))}
    (h : ∀ b ∈ bs, endsOpen b = false) {s : Screen} (hp : s.pen.Inside) :
    (bs.foldl Screen.disp s).events = s.events ++ (layout bs.flatten s.pen).2 := by
  induction bs generalizing s with
  | nil => exact (List.append_nil _).symm
  | cons b bs ih =>
      obtain ⟨hb, hbs⟩ := List.forall_mem_cons.mp h
      obtain ⟨hpen, hevents, -, -⟩ := disp_spec s hp b
      rw [List.foldl_cons, ih hbs (hpen ▸ (layout_inside b hp).1), hpen, hevents,
        List.flatten_cons, layout_append hb, List.append_assoc]

/-! ## All reads -/

theorem recvmonDisp_ok {s t : Recvmon} {got : List (BitVec 8)} (hs : s.rbuf.length < rbufLen)
    (h : recvmonDisp s got = .ok t) :
    (t.rbuf = s.rbuf ++ got ∧ t.screen = s.screen ∧ t.rbuf.length < rbufLen) ∨
      (t.rbuf = [] ∧ t.screen = s.screen.disp (s.rbuf ++ got) ∧
        (s.rbuf ++ got).length = rbufLen) := by
  rw [recvmonDisp] at h
  split at h
  · next hroom =>
      split at h
      · next hgot =>
          cases h
          rw [hgot, List.append_nil]
          exact .inl ⟨rfl, rfl, hs⟩
      · split at h
        · next hless =>
            cases h
            exact .inl ⟨rfl, rfl, hless⟩
        · next hfull =>
            cases h
            refine .inr ⟨rfl, rfl, ?_⟩
            rw [List.length_append] at hfull ⊢
            omega
  · cases h

/-- However the bytes come, full buffers of them have been shown, and the others are
in `rbuf`. -/
theorem run_recvmonDisp {cs : List (List (BitVec 8))} {s t : Recvmon}
    (hs : s.rbuf.length < rbufLen) (h : run recvmonDisp s cs = .ok t) :
    ∃ bs : List (List (BitVec 8)),
      (∀ b ∈ bs, b.length = rbufLen) ∧ bs.flatten ++ t.rbuf = s.rbuf ++ cs.flatten ∧
      t.rbuf.length < rbufLen ∧ t.screen = bs.foldl Screen.disp s.screen := by
  induction cs generalizing s with
  | nil =>
      cases h
      exact ⟨[], by simp, by simp, hs, rfl⟩
  | cons c cs ih =>
      obtain ⟨u, hu, hrest⟩ := run_cons_ok.mp h
      rcases recvmonDisp_ok hs hu with ⟨hrbuf, hscreen, hless⟩ | ⟨hrbuf, hscreen, hfull⟩
      · obtain ⟨bs, hbs, hflat, hlast, hshown⟩ := ih hless hrest
        refine ⟨bs, hbs, ?_, hlast, hscreen ▸ hshown⟩
        rw [hflat, hrbuf, List.flatten_cons, List.append_assoc]
      · have hempty : u.rbuf.length < rbufLen := by
          rw [hrbuf]
          decide
        obtain ⟨bs, hbs, hflat, hlast, hshown⟩ := ih hempty hrest
        refine ⟨(s.rbuf ++ c) :: bs, List.forall_mem_cons.mpr ⟨hfull, hbs⟩, ?_, hlast, ?_⟩
        · rw [List.flatten_cons, List.append_assoc, hflat, hrbuf, List.flatten_cons,
            List.append_assoc, List.nil_append]
        · rw [hshown, hscreen]
          rfl

theorem recvmonEnd_eq {cs : List (List (BitVec 8))} {s : Recvmon}
    (h : run recvmonDisp recvmonInit cs = .ok s) :
    recvmonEnd s = (blocks rbufLen cs.flatten).foldl Screen.disp recvmonInit.screen := by
  obtain ⟨bs, hbs, hflat, hlast, hshown⟩ := run_recvmonDisp (by decide) h
  have hstream : cs.flatten = bs.flatten ++ s.rbuf := hflat.symm
  rw [hstream, blocks_flatten_append (by decide) hbs, List.foldl_append, ← hshown, recvmonEnd]
  by_cases hnil : s.rbuf = []
  · rw [hnil]
    rfl
  · rw [blocks, pieces_of_short (Nat.le_of_lt hlast) hnil]
    rfl

/-- **The monitor** shows the stream, and is confined to its buffers, in exactly the
streams in which no buffer ends with the first byte of a line end. -/
theorem shows_stream_iff (cs : List (List (BitVec 8))) (s : Recvmon)
    (h : run recvmonDisp recvmonInit cs = .ok s) :
    ShowsStream cs.flatten (recvmonEnd s) ↔
      ∀ b ∈ blocks rbufLen cs.flatten, endsOpen b = false := by
  have hp : recvmonInit.screen.pen.Inside :=
    ⟨Nat.le_refl 1, Nat.le_of_ble_eq_true rfl, Nat.le_refl 8, Nat.le_of_ble_eq_true rfl⟩
  have hflat : (blocks rbufLen cs.flatten).flatten = cs.flatten := flatten_pieces _ _
  obtain ⟨hstray, hover, hinside, hshown⟩ :=
    foldl_disp (blocks rbufLen cs.flatten) hp (by simp [recvmonInit, Screen.events])
  have hany : (blocks rbufLen cs.flatten).any endsOpen = false ↔
      ∀ b ∈ blocks rbufLen cs.flatten, endsOpen b = false := by simp
  rw [recvmonEnd_eq h, ← hany]
  constructor
  · intro hshows
    rw [← hshows.no_stray, hstray]
    rfl
  · intro hclosed
    refine ⟨hstray.trans hclosed, hover, ?_, hinside, ?_⟩
    · rw [hshown, hflat]
      rfl
    · rw [foldl_disp_of_closed (hany.mp hclosed) hp, hflat, onePass,
        (disp_spec recvmonInit.screen hp cs.flatten).2.1]

/-- `ab`, CR, LF and `c`, in three reads. -/
theorem shows_stream_in_reads :
    ∃ s, run recvmonDisp recvmonInit [[0x61], [0x62, 0x0D], [0x0A, 0x63]] = .ok s ∧
      ShowsStream [0x61, 0x62, 0x0D, 0x0A, 0x63] (recvmonEnd s) :=
  ⟨_, rfl, (shows_stream_iff [[0x61], [0x62, 0x0D], [0x0A, 0x63]] _ rfl).mpr (by decide)⟩

/-- 155 letters and a CR, then an LF. -/
def acrossBuffers : List (List (BitVec 8)) := [List.replicate 155 0x61 ++ [0x0D], [0x0A]]

/-- The look-ahead at the CR leaves the buffer, and the LF is a line end of its own. A
CR that is the last byte of all is looked behind, too. -/
theorem line_end_between_buffers :
    (∃ s, run recvmonDisp recvmonInit acrossBuffers = .ok s ∧
      (recvmonEnd s).events ≠ onePass acrossBuffers.flatten ∧
      ¬ ShowsStream acrossBuffers.flatten (recvmonEnd s)) ∧
    ∃ s, run recvmonDisp recvmonInit [[0x0D]] = .ok s ∧ ¬ ShowsStream [0x0D] (recvmonEnd s) := by
  constructor
  · have hsome : (run recvmonDisp recvmonInit acrossBuffers).toOption.isSome = true := by
      decide +kernel
    cases hrun : run recvmonDisp recvmonInit acrossBuffers with
    | error e =>
        rw [hrun] at hsome
        cases hsome
    | ok s =>
        have hevents : (recvmonEnd s).events ≠ onePass acrossBuffers.flatten := by
          rw [recvmonEnd_eq hrun]
          decide +kernel
        exact ⟨s, rfl, hevents, fun h => hevents h.lines⟩
  · exact ⟨_, rfl, fun h => absurd h.no_stray (by decide)⟩

end MoxaDrivers.Muestty

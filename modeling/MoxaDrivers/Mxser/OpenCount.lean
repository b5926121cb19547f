import MoxaDrivers.Lib.Machine
import MoxaDrivers.Lib.Tally
import MoxaDrivers.Mxser.Board
import MoxaDrivers.Mxser.OpenClose

/-!
# `info->count` counts the open files

`info->count` drops while a file waits in `mxser_block_til_ready`, comes back
only where the file was not hung up meanwhile, is corrected against
`tty->count` in `mxser_close` and is zeroed by `mxser_hangup`. Over every
interleaving it is the number of files that were opened since the last hangup
and are neither closed nor asleep.
-/

namespace MoxaDrivers.Mxser

open MoxaDrivers.Bits MoxaDrivers.Machine MoxaDrivers.Tally

/-- The counts, and the calls of `mxser_shutdown`. -/
structure OpensInv (s : Opens) : Prop where
  count : s.port.opens.count = s.counted
  blocked : s.port.opens.blockedOpen = s.sleepers
  /-- The close of a file has called `mxser_shutdown` once if the file was the
  last and its waits are over, and never otherwise. -/
  closes : ∀ i, s.shutdowns.count (.close i) = (s.handles[i]?.map Handle.due).getD 0
  /-- Only a last close goes on to the waits. -/
  closing : ∀ h ∈ s.handles, h.closing = true → h.last = true
  hangups : s.shutdowns.count .hangup = s.hangups

/-- What is said of every state: the above, and that `info->count` is never
negative. -/
structure Accounted (s : Opens) : Prop extends OpensInv s where
  nonneg : 0 ≤ s.port.opens.count

/-! ## One file of many -/

theorem OpensInv.accounted {s : Opens} (hs : OpensInv s) : Accounted s := by
  refine ⟨hs, ?_⟩
  rw [hs.count]
  exact Int.natCast_nonneg _

/-- A step that changes only the port, and its counts not at all. -/
theorem OpensInv.port {s : Opens} (hs : OpensInv s) {p : Port}
    (h : p.opens = s.port.opens) : OpensInv { s with port := p } := by
  refine ⟨?_, ?_, hs.closes, hs.closing, hs.hangups⟩
  · show p.opens.count = s.counted
    rw [h]
    exact hs.count
  · show p.opens.blockedOpen = s.sleepers
    rw [h]
    exact hs.blocked

/-- A step of one file, on its way from `h` to `h'`, that moves the counts as
the two differ and calls `mxser_shutdown` as often as has become due. -/
theorem OpensInv.put {s : Opens} (hs : OpensInv s) {i : Nat} {h h' : Handle} {p : Port}
    {n : Nat} (hi : s.handles[i]? = some h)
    (hcount : p.opens.count + h.counted.toNat = s.port.opens.count + h'.counted.toNat)
    (hblocked : p.opens.blockedOpen + h.asleep.toNat
      = s.port.opens.blockedOpen + h'.asleep.toNat)
    (hclosing : h'.closing = true → h'.last = true)
    (hdue : h'.due = h.due + n) :
    OpensInv { s.put i h' p with
      shutdowns := s.shutdowns ++ List.replicate n (.close i) } := by
  have hlen : i < s.handles.length := (List.getElem?_eq_some_iff.mp hi).1
  refine ⟨?_, ?_, fun j => ?_, fun k hk => ?_, ?_⟩
  · have htally := countP_set_add Handle.counted (b := h') hi
    have hold := hs.count
    show p.opens.count = ((s.handles.set i h').countP Handle.counted : Nat)
    simp only [Opens.counted] at hold
    omega
  · have htally := countP_set_add Handle.asleep (b := h') hi
    have hold := hs.blocked
    show p.opens.blockedOpen = ((s.handles.set i h').countP Handle.asleep : Nat)
    simp only [Opens.sleepers] at hold
    omega
  · -- only the ledger of file `i` moves, and only its file's debt
    show (s.shutdowns ++ List.replicate n (ShutdownCause.close i)).count (.close j)
      = ((s.handles.set i h')[j]?.map Handle.due).getD 0
    rw [List.count_append, hs.closes j, List.count_replicate]
    by_cases hij : i = j
    · subst hij
      rw [hi, List.getElem?_set_self hlen]
      simp [hdue]
    · rw [List.getElem?_set_ne hij]
      simp [hij]
  · rcases List.mem_or_eq_of_mem_set hk with hk | rfl
    · exact hs.closing k hk
    · exact hclosing
  · show (s.shutdowns ++ List.replicate n (ShutdownCause.close i)).count .hangup = s.hangups
    rw [List.count_append, hs.hangups, List.count_replicate]
    rfl

/-- A step of one file that calls no `mxser_shutdown`. -/
theorem OpensInv.put_same {s : Opens} (hs : OpensInv s) {i : Nat} {h h' : Handle} {p : Port}
    (hi : s.handles[i]? = some h)
    (hcount : p.opens.count + h.counted.toNat = s.port.opens.count + h'.counted.toNat)
    (hblocked : p.opens.blockedOpen + h.asleep.toNat
      = s.port.opens.blockedOpen + h'.asleep.toNat)
    (hclosing : h'.closing = true → h'.last = true) (hdue : h'.due = h.due) :
    OpensInv (s.put i h' p) := by
  have hput := hs.put (n := 0) hi hcount hblocked hclosing hdue
  rw [List.replicate_zero, List.append_nil] at hput
  exact hput

/-- A new file. -/
theorem OpensInv.push {s : Opens} (hs : OpensInv s) {h : Handle} {p : Port}
    (hcount : p.opens.count = s.port.opens.count + h.counted.toNat)
    (hblocked : p.opens.blockedOpen = s.port.opens.blockedOpen + h.asleep.toNat)
    (hclosing : h.closing = true → h.last = true) (hdue : h.due = 0) :
    OpensInv { s with port := p, handles := s.handles ++ [h] } := by
  refine ⟨?_, ?_, fun j => ?_, fun k hk => ?_, hs.hangups⟩
  · show p.opens.count = ((s.handles ++ [h]).countP Handle.counted : Nat)
    rw [hcount, hs.count, countP_append_one, Int.natCast_add]
    rfl
  · show p.opens.blockedOpen = ((s.handles ++ [h]).countP Handle.asleep : Nat)
    rw [hblocked, hs.blocked, countP_append_one, Int.natCast_add]
    rfl
  · show s.shutdowns.count (.close j) = ((s.handles ++ [h])[j]?.map Handle.due).getD 0
    rw [hs.closes j]
    -- the old files, the new one, and numbers not given yet
    rcases Nat.lt_trichotomy j s.handles.length with hlt | rfl | hgt
    · rw [List.getElem?_append_left hlt]
    · rw [List.getElem?_eq_none (Nat.le_refl _), List.getElem?_concat_length]
      exact hdue.symm
    · have hnew : (s.handles ++ [h]).length ≤ j := by
        rw [List.length_append]
        exact hgt
      rw [List.getElem?_eq_none (Nat.le_of_lt hgt), List.getElem?_eq_none hnew]
  · rcases List.mem_append.mp hk with hk | hk
    · exact hs.closing k hk
    · cases List.mem_singleton.mp hk
      exact hclosing

/-! ## Opening -/

/-- A turn of the loop gives the file back its count unless it was hung up, or
leaves it with the sleepers. -/
theorem blockTurn_counts {HZ : Int} {p : Port} {hungUp doClocal signal : Bool} (last : Bool)
    {r : HandleState × Port}
    (h : finishOpen HZ (blockTurn p hungUp doClocal signal) = .ok r) :
    let h' : Handle := ⟨hungUp, r.1, last⟩
    r.2.opens.count = p.opens.count + h'.counted.toNat ∧
      r.2.opens.blockedOpen + 1 = p.opens.blockedOpen + h'.asleep.toNat ∧
      h'.closing = false ∧ h'.due = 0 := by
  obtain ⟨hstate, hsame⟩ := finishOpen_ok h
  rw [hsame.opens, hstate]
  obtain ⟨uart, hturn | ⟨e, hturn⟩ | ⟨hhere, -, hturn⟩⟩ :=
    blockTurn_cases p hungUp doClocal signal
  · rw [hturn]
    exact ⟨by simp [Handle.counted], by simp [Handle.asleep], rfl, by simp [Handle.due]⟩
  · rw [hturn]
    refine ⟨?_, ?_, rfl, by simp [Handle.due]⟩
    · -- a file that was hung up meanwhile does not get its count back
      cases hungUp with
      | true => simp [Handle.counted, leaveWait]
      | false => simp [Handle.counted, leaveWait]
    · simp [Handle.asleep, leaveWait]
  · rw [hturn, hhere]
    exact ⟨by simp [Handle.counted, leaveWait, normalActive],
      by simp [Handle.asleep, leaveWait, normalActive], rfl, by simp [Handle.due]⟩

/-- `mxser_open` counts the file, unless it is refused or goes to sleep. -/
theorem mxserOpen_counts {HZ : Int} {p : Port} {a : OpenArgs} {r : HandleState × Port}
    (h : mxserOpen HZ p a = .ok r) :
    let h' : Handle := ⟨false, r.1, false⟩
    r.2.opens.count = p.opens.count + h'.counted.toNat ∧
      r.2.opens.blockedOpen = p.opens.blockedOpen + h'.asleep.toNat ∧
      h'.closing = false ∧ h'.due = 0 := by
  have hattach : ∀ {e q}, mxserStartup (attach p) a.page a.lsr a.admin = (e, q) →
      q.opens.count = p.opens.count + 1 ∧ q.opens.blockedOpen = p.opens.blockedOpen := by
    intro e q hstart
    have hopens : q.opens = (attach p).opens := by
      rw [← (mxserStartup_port (attach p) a.page a.lsr a.admin).2, hstart]
    rw [hopens]
    exact ⟨rfl, rfl⟩
  rcases mxserOpen_cases h with ⟨-, rfl⟩ | ⟨e, q, hstart, rfl⟩ | ⟨-, q, hstart, hfinish⟩
  · exact ⟨by simp [Handle.counted], by simp [Handle.asleep], rfl, rfl⟩
  · obtain ⟨hcount, hblocked⟩ := hattach hstart
    exact ⟨by simp [Handle.counted, hcount], by simp [Handle.asleep, hblocked], rfl, rfl⟩
  · obtain ⟨hcount, hblocked⟩ := hattach hstart
    simp only [mxserBlockTilReady] at hfinish
    split at hfinish
    · -- the file gets through without a look at the carrier
      obtain ⟨hstate, hsame⟩ := finishOpen_ok hfinish
      rw [hsame.opens, hstate]
      exact ⟨by simp [Handle.counted, normalActive, hcount],
        by simp [Handle.asleep, normalActive, hblocked], rfl, rfl⟩
    · obtain ⟨hcount', hblocked', hclosing, hdue⟩ := blockTurn_counts false hfinish
      refine ⟨?_, ?_, hclosing, hdue⟩
      · rw [hcount']
        simp only [enterWait]
        omega
      · simp only [enterWait] at hblocked'
        omega

theorem openHandle_inv {HZ : Int} {s t : Opens} {a : OpenArgs} (hs : OpensInv s)
    (h : s.openHandle HZ a = .ok t) : OpensInv t := by
  obtain ⟨r, hr, ht⟩ := bind_ok_iff.mp h
  cases ht
  obtain ⟨hcount, hblocked, hclosing, hdue⟩ := mxserOpen_counts hr
  apply hs.push hcount hblocked
  · intro hc
    rw [hclosing] at hc
    cases hc
  · exact hdue

theorem wakeHandle_inv {HZ : Int} {s t : Opens} {i : Nat} {h : Handle} {signal : Bool}
    (hs : OpensInv s) (hi : s.handles[i]? = some h)
    (ht : s.wakeHandle HZ i h signal = .ok t) : OpensInv t := by
  obtain ⟨hungUp, state, last⟩ := h
  cases state with
  | asleep doClocal =>
      obtain ⟨r, hr, ht⟩ := bind_ok_iff.mp ht
      cases ht
      obtain ⟨hcount, hblocked, hclosing, hdue⟩ := blockTurn_counts last hr
      apply hs.put_same hi
      · rw [hcount]
        simp [Handle.counted]
      · exact hblocked
      · intro hc
        rw [hclosing] at hc
        cases hc
      · rw [hdue]
        simp [Handle.due]
  | _ =>
      cases ht
      exact hs

/-! ## Closing -/

theorem unreleased_of_counted (h : Handle) (hc : h.counted = true) : h.unreleased = true := by
  obtain ⟨hungUp, state, last⟩ := h
  cases state with
  | closed => simp [Handle.counted] at hc
  | _ => rfl

/-- **The correction in `mxser_close` never changes anything**: for a file that
is counted, `info->count` goes down by one. -/
theorem OpensInv.closeCount {s : Opens} (hs : OpensInv s) {h : Handle} (hmem : h ∈ s.handles)
    (hc : h.counted = true) :
    0 < s.counted ∧ closeCount s.port.opens.count s.ttyCount = s.port.opens.count - 1 := by
  have hpos : 0 < s.counted := List.countP_pos_iff.mpr ⟨h, hmem, hc⟩
  have hcount := hs.count
  refine ⟨hpos, ?_⟩
  -- the only file the tty core knows of is the only one counted
  have hone : ¬ (s.ttyCount = 1 ∧ s.port.opens.count ≠ 1) := by
    rintro ⟨htty, hne⟩
    have hlast : s.counted = 1 :=
      countP_eq_of_one Handle.counted unreleased_of_counted htty ⟨h, hmem, hc⟩
    omega
  simp only [Mxser.closeCount, if_neg hone]
  rw [if_neg (by omega)]

/-- The first part of `mxser_close` for an open file: what it does to the
counts, and that it goes on exactly for the last file. -/
theorem mxserClose_counts {s : Opens} (hs : OpensInv s) {h : Handle} (hmem : h ∈ s.handles)
    (hcounted : h.counted = !h.hungUp) :
    let r := mxserClose s.port h.hungUp s.ttyCount
    r.2.opens.count + h.counted.toNat = s.port.opens.count ∧
      r.2.opens.blockedOpen = s.port.opens.blockedOpen ∧
      r.1 = (h.counted && s.counted == 1) := by
  cases hgone : h.hungUp with
  | true =>
      rw [hcounted, hgone]
      exact ⟨by simp [mxserClose], rfl, rfl⟩
  | false =>
      have hc : h.counted = true := by
        rw [hcounted, hgone]
        rfl
      obtain ⟨hpos, hdown⟩ := hs.closeCount hmem hc
      have hcount := hs.count
      rw [hc]
      simp only [mxserClose, Bool.false_eq_true, if_false, countClosed, hdown]
      by_cases hlast : s.counted = 1
      · rw [if_neg (by omega), hlast]
        refine ⟨?_, rfl, rfl⟩
        show s.port.opens.count - 1 + 1 = s.port.opens.count
        omega
      · rw [if_pos (by omega)]
        refine ⟨?_, rfl, ?_⟩
        · show s.port.opens.count - 1 + 1 = s.port.opens.count
          omega
        · simp [hlast]

theorem closeHandle_inv {s : Opens} {i : Nat} {h : Handle} (hs : OpensInv s)
    (hi : s.handles[i]? = some h) : OpensInv (s.closeHandle i h) := by
  have hmem : h ∈ s.handles := List.mem_of_getElem? hi
  -- an open file, or one whose open failed
  have hopen (hstate : h.counted = !h.hungUp) (hasleep : h.asleep = false) (hdue : h.due = 0) :
      OpensInv (s.put i { h with
        state := if (mxserClose s.port h.hungUp s.ttyCount).1 then .draining else .closed
        last := h.counted && s.counted == 1 } (mxserClose s.port h.hungUp s.ttyCount).2) := by
    obtain ⟨hcount, hblocked, hgoes⟩ := mxserClose_counts hs hmem hstate
    rw [← hgoes]
    cases hlast : (mxserClose s.port h.hungUp s.ttyCount).1 with
    | true =>
        apply hs.put_same hi
        · rw [hcount]
          simp [Handle.counted]
        · rw [hblocked, hasleep]
          rfl
        · exact fun _ => rfl
        · rw [hdue]
          rfl
    | false =>
        apply hs.put_same hi
        · rw [hcount]
          simp [Handle.counted]
        · rw [hblocked, hasleep]
          rfl
        · exact nofun
        · rw [hdue]
          rfl
  obtain ⟨hungUp, state, last⟩ := h
  cases state with
  | refused =>
      apply hs.put_same hi
      · simp [Handle.counted]
      · rfl
      · exact nofun
      · simp [Handle.due]
  | opened => exact hopen (by simp [Handle.counted]) rfl (by simp [Handle.due])
  | failed e => exact hopen (by simp [Handle.counted]) rfl (by simp [Handle.due])
  | _ => exact hs

theorem drainedHandle_inv {s : Opens} {i : Nat} {h : Handle} (hs : OpensInv s)
    (hi : s.handles[i]? = some h) : OpensInv (s.drainedHandle i h) := by
  have hlast := hs.closing h (List.mem_of_getElem? hi)
  obtain ⟨hungUp, state, last⟩ := h
  cases state with
  | draining =>
      apply hs.put_same hi
      · rfl
      · rfl
      · exact fun _ => hlast rfl
      · simp [Handle.due]
  | _ => exact hs

theorem emptiedHandle_inv {s : Opens} {i : Nat} {h : Handle} {iir : Byte} (hs : OpensInv s)
    (hi : s.handles[i]? = some h) : OpensInv (s.emptiedHandle i h iir) := by
  have hlast := hs.closing h (List.mem_of_getElem? hi)
  have hopens : (closeShutdown s.port iir).opens = s.port.opens :=
    (mxserShutdown_port s.port).2
  obtain ⟨hungUp, state, last⟩ := h
  cases state with
  | emptying =>
      -- the one call of `mxser_shutdown` that was still due
      have hdue : Handle.due ⟨hungUp, .delaying, last⟩
          = Handle.due ⟨hungUp, .emptying, last⟩ + 1 := by
        rw [show last = true from hlast rfl]
        rfl
      apply hs.put (n := 1) hi
      · rw [hopens]
        rfl
      · rw [hopens]
        rfl
      · exact fun _ => hlast rfl
      · exact hdue
  | _ => exact hs

theorem delayedHandle_inv {s : Opens} {i : Nat} {h : Handle} (hs : OpensInv s)
    (hi : s.handles[i]? = some h) : OpensInv (s.delayedHandle i h) := by
  obtain ⟨hungUp, state, last⟩ := h
  cases state with
  | delaying =>
      apply hs.put_same hi
      · simp [Handle.counted, endClosing]
      · rfl
      · exact nofun
      · simp [Handle.due]
  | _ => exact hs

/-! ## Hanging up -/

theorem hangUp_counted (h : Handle) : h.hangUp.counted = false := by
  obtain ⟨hungUp, state, last⟩ := h
  cases state with
  | closed => simp [Handle.hangUp, Handle.counted]
  | _ => rfl

/-- A hangup wakes no sleeper by itself. -/
theorem hangUp_asleep (h : Handle) : h.hangUp.asleep = h.asleep := rfl

theorem hangUp_inv {s t : Opens} {iir : Byte} (hs : OpensInv s) (h : s.hangUp iir = .ok t) :
    OpensInv t := by
  simp only [Opens.hangUp] at h
  by_cases hnone : s.ttyCount = 0
  · rw [if_pos hnone] at h
    cases h
    exact hs
  · by_cases hbase : s.port.base = 0
    · rw [if_neg hnone, if_pos hbase] at h
      cases h
    · rw [if_neg hnone, if_neg hbase] at h
      cases h
      have hopens : (mxserShutdown (mxserFlushBuffer s.port iir)).opens = s.port.opens :=
        (mxserShutdown_port _).2
      refine ⟨?_, ?_, fun i => ?_, fun k hk => ?_, ?_⟩
      · show (0 : Int) = ((s.handles.map Handle.hangUp).countP Handle.counted : Nat)
        rw [countP_map_none Handle.counted s.handles hangUp_counted]
        rfl
      · show (mxserShutdown (mxserFlushBuffer s.port iir)).opens.blockedOpen
          = ((s.handles.map Handle.hangUp).countP Handle.asleep : Nat)
        rw [hopens, hs.blocked, countP_map_same Handle.asleep s.handles hangUp_asleep]
        rfl
      · show (s.shutdowns ++ [ShutdownCause.hangup]).count (.close i)
          = ((s.handles.map Handle.hangUp)[i]?.map Handle.due).getD 0
        rw [List.count_append, hs.closes i, List.getElem?_map, Option.map_map]
        rfl
      · obtain ⟨h, hh, rfl⟩ := List.mem_map.mp hk
        exact hs.closing h hh
      · show (s.shutdowns ++ [ShutdownCause.hangup]).count .hangup = s.hangups + 1
        rw [List.count_append, hs.hangups]
        rfl

/-! ## Ports that are as much up as another -/

/-- `q` is up or down as `p` is. -/
structure SameUp (p q : Port) : Prop where
  initialized : q.initialized = p.initialized
  infoTty : q.infoTty = p.infoTty
  buf : q.ring.buf = p.ring.buf

theorem SameUp.trans {p q r : Port} (h : SameUp p q) (h' : SameUp q r) : SameUp p r :=
  ⟨h'.initialized.trans h.initialized, h'.infoTty.trans h.infoTty, h'.buf.trans h.buf⟩

theorem SameService.sameUp {p q : Port} (h : SameService p q) : SameUp p q :=
  ⟨h.initialized, h.infoTty, h.buf⟩

theorem sameUp_normalActive (p : Port) : SameUp p (normalActive p) :=
  ⟨test_or_of_disjoint (by decide), rfl, rfl⟩

theorem sameUp_startClosing (p : Port) : SameUp p (startClosing p) :=
  ⟨test_or_of_disjoint (by decide), rfl, rfl⟩

theorem sameUp_endClosing (p : Port) : SameUp p (endClosing p) :=
  ⟨test_clear_of_disjoint (by decide), rfl, rfl⟩

theorem sameUp_mxserClose (p : Port) (hungUp : Bool) (ttyCount : Nat) :
    SameUp p (mxserClose p hungUp ttyCount).2 := by
  have hcounted : SameUp p (countClosed p ttyCount) := ⟨rfl, rfl, rfl⟩
  simp only [mxserClose]
  cases hungUp with
  | true => exact ⟨rfl, rfl, rfl⟩
  | false =>
      by_cases hcount : (countClosed p ttyCount).opens.count ≠ 0
      · simp only [Bool.false_eq_true, if_false, if_pos hcount]
        exact hcounted
      · simp only [Bool.false_eq_true, if_false, if_neg hcount]
        exact hcounted.trans (sameUp_startClosing _)

/-- A turn of the loop leaves the port as it is, and lets a file through only
where the port is initialised. -/
theorem blockTurn_service {HZ : Int} {p : Port} {hungUp doClocal signal : Bool}
    {r : HandleState × Port}
    (h : finishOpen HZ (blockTurn p hungUp doClocal signal) = .ok r) :
    SameUp p r.2 ∧ (r.1 = .opened → p.initialized = true) := by
  obtain ⟨hstate, hsame⟩ := finishOpen_ok h
  obtain ⟨uart, hturn | ⟨e, hturn⟩ | ⟨-, hinit, hturn⟩⟩ :=
    blockTurn_cases p hungUp doClocal signal
  · rw [hturn] at hstate hsame
    have huart : SameUp p { p with uart := uart } := ⟨rfl, rfl, rfl⟩
    refine ⟨huart.trans hsame.sameUp, ?_⟩
    rw [hstate]
    exact nofun
  · rw [hturn] at hstate hsame
    have hleft : SameUp p (leaveWait { p with uart := uart } hungUp) := ⟨rfl, rfl, rfl⟩
    refine ⟨hleft.trans hsame.sameUp, ?_⟩
    rw [hstate]
    exact nofun
  · rw [hturn] at hsame
    have hleft : SameUp p (leaveWait { p with uart := uart } hungUp) := ⟨rfl, rfl, rfl⟩
    exact ⟨hleft.trans ((sameUp_normalActive _).trans hsame.sameUp), fun _ => hinit⟩

/-! ## The log of the calls -/

/-- An open takes no port down. -/
theorem mxserOpen_keeps_up {HZ : Int} {p : Port} {a : OpenArgs} {r : HandleState × Port}
    (hup : p.initialized = true) (h : mxserOpen HZ p a = .ok r) : r.2.initialized = true := by
  have hattach : (attach p).initialized = true := hup
  have hstart : (mxserStartup (attach p) a.page a.lsr a.admin).2.initialized = true := by
    rcases mxserStartup_cases (attach p) a.page a.lsr a.admin with
      ⟨-, hs⟩ | ⟨-, -, hs⟩ | ⟨-, hdown, -⟩ | ⟨pg, -, hdown, -⟩ | ⟨pg, -, hdown, -⟩
    · rw [hs]
      exact hup
    · rw [hs]
      exact hup
    · rw [hattach] at hdown
      cases hdown
    · rw [hattach] at hdown
      cases hdown
    · rw [hattach] at hdown
      cases hdown
  rcases mxserOpen_cases h with ⟨-, rfl⟩ | ⟨e, q, hs, rfl⟩ | ⟨-, q, hs, hfinish⟩
  · exact hup
  · rw [hs] at hstart
    exact hstart
  · rw [hs] at hstart
    have hsame : SameUp q r.2 := by
      simp only [mxserBlockTilReady] at hfinish
      split at hfinish
      · exact (sameUp_normalActive q).trans (finishOpen_ok hfinish).2.sameUp
      · have hwait : SameUp q (enterWait q) := ⟨rfl, rfl, rfl⟩
        exact hwait.trans (blockTurn_service hfinish).1
    rw [hsame.initialized]
    exact hstart

/-- A step that logs no call and takes no port down. -/
structure StaysUp (s t : Opens) : Prop where
  log : t.shutdowns = s.shutdowns
  up : s.port.initialized = true → t.port.initialized = true

theorem StaysUp.of_sameUp {s t : Opens} (hlog : t.shutdowns = s.shutdowns)
    (h : SameUp s.port t.port) : StaysUp s t :=
  ⟨hlog, fun hup => h.initialized.trans hup⟩

theorem closeHandle_staysUp (s : Opens) (i : Nat) (k : Handle) :
    StaysUp s (s.closeHandle i k) := by
  have hclose := sameUp_mxserClose s.port k.hungUp s.ttyCount
  obtain ⟨hungUp, state, last⟩ := k
  cases state with
  | opened => exact .of_sameUp rfl hclose
  | failed e => exact .of_sameUp rfl hclose
  | _ => exact .of_sameUp rfl ⟨rfl, rfl, rfl⟩

theorem drainedHandle_staysUp (s : Opens) (i : Nat) (k : Handle) :
    StaysUp s (s.drainedHandle i k) := by
  obtain ⟨hungUp, state, last⟩ := k
  cases state with
  | _ => exact .of_sameUp rfl ⟨rfl, rfl, rfl⟩

theorem delayedHandle_staysUp (s : Opens) (i : Nat) (k : Handle) :
    StaysUp s (s.delayedHandle i k) := by
  obtain ⟨hungUp, state, last⟩ := k
  cases state with
  | delaying => exact .of_sameUp rfl (sameUp_endClosing s.port)
  | _ => exact .of_sameUp rfl ⟨rfl, rfl, rfl⟩

theorem wakeHandle_staysUp {HZ : Int} {s t : Opens} {i : Nat} {k : Handle} {signal : Bool}
    (h : s.wakeHandle HZ i k signal = .ok t) : StaysUp s t := by
  obtain ⟨hungUp, state, last⟩ := k
  cases state with
  | asleep doClocal =>
      obtain ⟨r, hr, ht⟩ := bind_ok_iff.mp h
      cases ht
      exact .of_sameUp rfl (blockTurn_service hr).1
  | _ =>
      cases h
      exact .of_sameUp rfl ⟨rfl, rfl, rfl⟩

/-- **The log is that of the calls.** A step that adds an entry puts the port
through `mxser_shutdown`, in a last close or a hangup, and leaves it down; a
step that adds none takes no port down. -/
theorem openStep_shutdowns {HZ : Int} {s t : Opens} {op : OpenOp} (h : openStep HZ s op = .ok t) :
    StaysUp s t ∨
    (t.port.initialized = false ∧
      ((∃ i iir, t.shutdowns = s.shutdowns ++ [.close i] ∧ t.port = closeShutdown s.port iir) ∨
      (∃ iir, t.shutdowns = s.shutdowns ++ [.hangup] ∧ t.port = mxserHangup s.port iir))) := by
  rcases openStep_cases h with rfl | ⟨levels, -, rfl⟩ | ⟨a, -, ht⟩ | ⟨iir, -, ht⟩ |
    ⟨i, k, hi, ⟨signal, -, ht⟩ | ⟨-, rfl⟩ | ⟨-, rfl⟩ | ⟨iir, -, rfl⟩ | ⟨-, rfl⟩⟩
  · exact .inl (.of_sameUp rfl ⟨rfl, rfl, rfl⟩)
  · exact .inl (.of_sameUp rfl ⟨rfl, rfl, rfl⟩)
  · obtain ⟨r, hr, ht⟩ := bind_ok_iff.mp ht
    cases ht
    have htty : (s.withTty a.termios).initialized = s.port.initialized := rfl
    exact .inl ⟨rfl, fun hup => mxserOpen_keeps_up (htty.trans hup) hr⟩
  · simp only [Opens.hangUp] at ht
    split at ht
    · cases ht
      exact .inl (.of_sameUp rfl ⟨rfl, rfl, rfl⟩)
    · split at ht
      · cases ht
      · cases ht
        exact .inr ⟨mxserHangup_down s.port iir, .inr ⟨iir, rfl, rfl⟩⟩
  · exact .inl (wakeHandle_staysUp ht)
  · exact .inl (closeHandle_staysUp s i k)
  · exact .inl (drainedHandle_staysUp s i k)
  · obtain ⟨hungUp, state, last⟩ := k
    cases state with
    | emptying => exact .inr ⟨closeShutdown_down s.port iir, .inl ⟨i, iir, rfl, rfl⟩⟩
    | _ => exact .inl (.of_sameUp rfl ⟨rfl, rfl, rfl⟩)
  · exact .inl (delayedHandle_staysUp s i k)

/-! ## Whole runs -/

theorem opensInv_step {HZ : Int} {s t : Opens} {op : OpenOp} (hs : OpensInv s)
    (h : openStep HZ s op = .ok t) : OpensInv t := by
  rcases openStep_cases h with rfl | ⟨levels, -, rfl⟩ | ⟨a, -, ht⟩ | ⟨iir, -, ht⟩ |
    ⟨i, k, hi, ⟨signal, -, ht⟩ | ⟨-, rfl⟩ | ⟨-, rfl⟩ | ⟨iir, -, rfl⟩ | ⟨-, rfl⟩⟩
  · exact hs
  · exact hs.port rfl
  · exact openHandle_inv hs ht
  · exact hangUp_inv hs ht
  · exact wakeHandle_inv hs hi ht
  · exact closeHandle_inv hs hi
  · exact drainedHandle_inv hs hi
  · exact emptiedHandle_inv hs hi
  · exact delayedHandle_inv hs hi

theorem opensInv_start {p : Port} (hp : p.opens.count = 0 ∧ p.opens.blockedOpen = 0) :
    OpensInv (Opens.start p) :=
  ⟨hp.1, hp.2, fun _ => rfl, nofun, rfl⟩

/-- **The open files are accounted for.** From a port that the board set-up
left, over every interleaving of opens, wake-ups, the parts of closes, and
hangups, `info->count` is the number of files opened since the last hangup that
are neither closed nor asleep, `info->blocked_open` the number of sleepers, and
`mxser_shutdown` is called by the hangups and by the closes of last files, and
by each of them once. -/
theorem open_files_accounted (HZ : Int) (hw : MxserHwconf) (init : Termios) (n : Nat)
    (uart : Uart) (ops : List OpenOp) :
    Always (openStep HZ) Accounted (Opens.start (mxserInitbrd HZ hw init n uart)) ops :=
  (always_of_invariant (fun _ _ _ hs h => opensInv_step hs h)
    (opensInv_start ⟨rfl, rfl⟩)).mono fun _ hs => hs.accounted

end MoxaDrivers.Mxser

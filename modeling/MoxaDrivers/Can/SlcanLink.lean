import MoxaDrivers.Can.SlcanCodec

/-!
# Two ends of a serial line

First the receiver alone, with anything that may come: it stays within `rbuff`, what
it passes on is tidy, and a line end is enough to bring it back. Then a sender and a
receiver with a line between them, where the tty takes what it likes of each write
and the line hands on what it likes.
-/

namespace MoxaDrivers.Can

open MoxaDrivers.Bits MoxaDrivers.Machine MoxaDrivers.Codewords

/-! ## A line in `rbuff` -/

/-- A byte without an error, and memory for a frame. -/
def plain (ch : Byte) : RxByte := ⟨ch, 0, true⟩

/-- What `slc_encaps` writes of a frame. -/
def CanFrame.text (cf : CanFrame) : List Byte := cf.line ++ [chr '\r']

/-- Of the line that is being received, this is here. -/
structure Slcan.Collects (sl : Slcan) (line : List Byte) : Prop where
  error : sl.error = false
  rcount : sl.rcount = line.length
  reads : sl.Reads 0 line

/-- Between two lines. -/
def Slcan.Clean (sl : Slcan) : Prop := sl.error = false ∧ sl.rcount = 0

theorem Slcan.Clean.collects {sl : Slcan} (h : sl.Clean) : sl.Collects [] :=
  ⟨h.1, h.2, List.nil_prefix⟩

section Collects

variable {sl : Slcan} {line : List Byte}

theorem Slcan.Collects.next (h : sl.Collects line) (hlen : line.length < slcMtu) {ch : Byte}
    (hch : isPduEnd ch = false) :
    ∃ t, receiveTurn sl (plain ch) = .ok t ∧ t.Collects (line ++ [ch]) ∧ t.frames = sl.frames := by
  obtain ⟨b, hb⟩ : ∃ b, sl.Reads 0 (line ++ [b]) := by
    obtain ⟨rest, hrest⟩ := h.reads
    cases rest with
    | nil =>
        have heq := congrArg List.length hrest
        rw [List.append_nil, List.drop_zero, Vector.length_toList] at heq
        omega
    | cons b rest => exact ⟨b, rest, by rw [← hrest, List.append_assoc, List.singleton_append]⟩
  obtain ⟨t, hwrite, hreads, ht⟩ := hb.write ch
  refine ⟨{ t with rcount := sl.rcount + 1 }, ?_, ⟨?_, ?_, hreads⟩, ?_⟩
  · have hroom : sl.rcount < slcMtu := by rw [h.rcount]; exact hlen
    have hwrite' : sl.write sl.rcount ch = .ok t := by rw [h.rcount]; exact hwrite
    show slcanUnesc sl ch true = _
    simp only [slcanUnesc, hch, Bool.false_eq_true, if_false, h.error, if_pos hroom, hwrite', bind,
      Except.bind, pure, Except.pure]
  · rw [ht]
    exact h.error
  · show sl.rcount + 1 = _
    rw [h.rcount, List.length_append, List.length_singleton]
  · rw [ht]

theorem Slcan.Collects.run {chs : List Byte} (h : sl.Collects line)
    (hlen : line.length + chs.length ≤ slcMtu) (hchs : ∀ ch ∈ chs, isPduEnd ch = false) :
    ∃ t, Machine.run receiveTurn sl (chs.map plain) = .ok t ∧ t.Collects (line ++ chs) ∧
      t.frames = sl.frames := by
  induction chs generalizing sl line with
  | nil => exact ⟨sl, rfl, by rwa [List.append_nil], rfl⟩
  | cons ch chs ih =>
      rw [List.length_cons] at hlen
      obtain ⟨t, ht, hcollects, hframes⟩ := h.next (by omega) (hchs ch (List.mem_cons_self ..))
      obtain ⟨u, hu, hcollects', hframes'⟩ := ih hcollects
        (by rw [List.length_append, List.length_singleton]; omega)
        fun c hc => hchs c (List.mem_cons_of_mem ch hc)
      refine ⟨u, ?_, ?_, hframes'.trans hframes⟩
      · rw [List.map_cons, run_cons_of_ok ht, hu]
      · rwa [List.append_assoc, List.singleton_append] at hcollects'

theorem room_for_line {cf : CanFrame} {chs : List Byte} (h : chs <+: cf.line) :
    ([] : List Byte).length + chs.length ≤ slcMtu := by
  have hlen := (length_line cf).2
  have hle := h.length_le
  rw [List.length_nil, slcMtu]
  omega

/-- The line of a frame, and its end. -/
theorem Slcan.Collects.frame {cf : CanFrame} (h : sl.Collects cf.line) (hvalid : cf.Valid) :
    ∃ t, receiveTurn sl (plain (chr '\r')) = .ok t ∧ t.Clean ∧
      t.frames = sl.frames ++ [cf.canonical] := by
  obtain ⟨t, hbump, ht⟩ := slcBump_line hvalid h.reads true
  refine ⟨{ t with error := false, rcount := 0 }, ?_, ⟨rfl, rfl⟩, ?_⟩
  · have hlong : sl.rcount > 4 := by
      rw [h.rcount]
      exact (length_line cf).1
    show slcanUnesc sl (chr '\r') true = _
    rw [slcanUnesc, if_pos (by decide)]
    simp only [h.error, Bool.not_false, Bool.true_and, decide_eq_true hlong, if_true, hbump, bind,
      Except.bind, pure, Except.pure]
  · rw [ht]
    rfl

end Collects

/-- **The receiver decodes** what the sender writes of a frame. -/
theorem decodes_text {cf : CanFrame} (h : cf.Valid) :
    Decodes receiveTurn Slcan.frames Slcan.Clean (fun cf => cf.text.map plain)
      CanFrame.canonical cf where
  whole := by
    intro sl hsl
    obtain ⟨t, ht, hcollects, hframes⟩ := hsl.collects.run (room_for_line (List.prefix_refl _))
      fun ch hch => isPduEnd_line h hch
    obtain ⟨u, hu, hclean, hframes'⟩ := hcollects.frame h
    refine ⟨u, ?_, hclean, by rw [hframes', hframes]⟩
    rw [CanFrame.text, List.map_append, run_append_of_ok ht]
    exact run_single_ok.mpr hu
  part := by
    intro sl t p hsl hp hne hrun
    obtain ⟨chs, hchs, rfl⟩ := List.prefix_map_iff.mp hp
    rcases List.prefix_concat_iff.mp hchs with rfl | hchs
    · exact absurd rfl hne
    · obtain ⟨u, hu, -, hframes⟩ := hsl.collects.run (room_for_line hchs)
        fun ch hch => isPduEnd_line h (hchs.subset hch)
      rw [hu] at hrun
      cases hrun
      exact hframes

/-! ## The receiver, whatever comes -/

/-- A call on the receive side. `slc_open` clears `SLF_ERROR`, `slc_close` starts a new
line. -/
inductive ReceiveCall where
  | receiveBuf (running : Bool) (bytes : List RxByte)
  | slcOpen
  | slcClose

def receiveCall (sl : Slcan) : ReceiveCall → Except Fault Slcan
  | .receiveBuf running bytes => slcanReceiveBuf running sl bytes
  | .slcOpen => .ok { sl with error := false }
  | .slcClose => .ok { sl with rcount := 0 }

/-- A length that the bus has, and nothing but zeros where the frame has no data. -/
def CanFrame.Tidy (cf : CanFrame) : Prop :=
  cf.Valid ∧ ∀ i (h : i < canMaxDlen), (cf.isRtr = true ∨ cf.canDlc.toNat ≤ i) → cf.data[i] = 0

/-- `rbuff` is not left, what is passed on is tidy and counted, as far as the counters
go. -/
structure Slcan.Sound (sl : Slcan) : Prop where
  rcount : sl.rcount ≤ slcMtu
  tidy : ∀ cf ∈ sl.frames, cf.Tidy
  packets : sl.rxPackets = BitVec.ofNat 64 sl.frames.length
  bytes : sl.rxBytes = BitVec.ofNat 64 (sl.frames.map (·.canDlc.toNat)).sum

theorem sound_opened : Slcan.opened.Sound where
  rcount := Nat.zero_le _
  tidy := fun _ h => absurd h List.not_mem_nil
  packets := rfl
  bytes := rfl

section Sound

variable {sl : Slcan}

theorem Slcan.Sound.netifRx (h : sl.Sound) {cf : CanFrame} (hcf : cf.Tidy) :
    (sl.netifRx cf).Sound where
  rcount := h.rcount
  tidy := by
    intro cf' hcf'
    rcases List.mem_append.mp hcf' with hold | hnew
    · exact h.tidy cf' hold
    · rw [List.mem_singleton.mp hnew]
      exact hcf
  packets := by
    show sl.rxPackets + 1 = BitVec.ofNat 64 (sl.frames ++ [cf]).length
    rw [h.packets, List.length_append, List.length_singleton, BitVec.ofNat_add]
    rfl
  bytes := by
    show sl.rxBytes + cf.canDlc.setWidth 64 =
      BitVec.ofNat 64 ((sl.frames ++ [cf]).map (·.canDlc.toNat)).sum
    rw [h.bytes, List.map_append, List.sum_append, List.map_singleton, List.sum_singleton,
      BitVec.ofNat_add, BitVec.ofNat_toNat]

theorem read_ok (sl : Slcan) {i : Nat} (h : i < slcMtu) : ∃ b, sl.read i = .ok b := by
  refine ⟨sl.rbuff[i], ?_⟩
  rw [Slcan.read, Vector.getElem?_eq_getElem h]

theorem readByte_ok (sl : Slcan) {i : Nat} (h : i + 1 < slcMtu) : ∃ r, sl.readByte i = .ok r := by
  obtain ⟨b, hb⟩ := read_ok sl (Nat.lt_of_succ_lt h)
  obtain ⟨c, hc⟩ := read_ok sl h
  simp only [Slcan.readByte, hb, hc, bind, Except.bind, pure, Except.pure]
  cases hexToBin b with
  | none => exact ⟨none, rfl⟩
  | some high =>
      cases hexToBin c with
      | none => exact ⟨none, rfl⟩
      | some low => exact ⟨_, rfl⟩

/-- The data lies within `rbuff`, and there is a byte for each that the length counts. -/
theorem readData_ok (sl : Slcan) {n i : Nat} (h : i + 2 * n ≤ slcMtu) :
    ∃ r, sl.readData n i = .ok r ∧ ∀ bytes, r = some bytes → bytes.length = n := by
  induction n generalizing i with
  | zero => exact ⟨some [], rfl, fun bytes hbytes => by cases hbytes; rfl⟩
  | succ n ih =>
      obtain ⟨r, hr⟩ := readByte_ok sl (i := i) (by omega)
      obtain ⟨r', hr', hlen⟩ := ih (i := i + 2) (by omega)
      cases r with
      | none =>
          refine ⟨none, ?_, fun bytes hbytes => by cases hbytes⟩
          simp only [Slcan.readData, hr, bind, Except.bind, pure, Except.pure]
      | some b =>
          refine ⟨r'.map (b :: ·), ?_, ?_⟩
          · simp only [Slcan.readData, hr, hr', bind, Except.bind, pure, Except.pure]
          · intro bytes hbytes
            obtain ⟨bytes', hbytes', rfl⟩ := Option.map_eq_some_iff.mp hbytes
            rw [List.length_cons, hlen bytes' hbytes']

theorem tidy_payload {canId : Canid} {canDlc : Byte} {bytes : List Byte}
    (hdlc : canDlc.toNat ≤ canMaxDlen) (hlen : bytes.length ≤ canDlc.toNat)
    (hrtr : test canId canRtrFlag = true → bytes = []) :
    CanFrame.Tidy ⟨canId, canDlc, payload bytes⟩ := by
  refine ⟨hdlc, fun i hi hempty => ?_⟩
  rw [payload_getElem, List.getD_eq_getElem?_getD, List.getElem?_eq_none, Option.getD_none]
  rcases hempty with h | h
  · rw [hrtr h]
    exact Nat.zero_le i
  · exact Nat.le_trans hlen h

theorem readPayload_ok (sl : Slcan) (canId : Canid) {n i : Nat} (h : i + 2 * n ≤ slcMtu) :
    ∃ r, sl.readPayload canId n i = .ok r ∧ ∀ bytes, r = some bytes →
      bytes.length ≤ n ∧ (test canId canRtrFlag = true → bytes = []) := by
  rw [Slcan.readPayload]
  cases test canId canRtrFlag with
  | true =>
      refine ⟨some [], rfl, fun bytes hbytes => ?_⟩
      cases hbytes
      exact ⟨Nat.zero_le _, fun _ => rfl⟩
  | false =>
      obtain ⟨r, hr, hlen⟩ := readData_ok sl h
      exact ⟨r, hr, fun bytes hbytes =>
        ⟨Nat.le_of_eq (hlen bytes hbytes), fun h => absurd h Bool.false_ne_true⟩⟩

/-- One tidy frame is passed on, or nothing. -/
def Slcan.Bumps (sl t : Slcan) : Prop :=
  t = { sl with rbuff := t.rbuff } ∨
    ∃ cf, cf.Tidy ∧ t = { sl.netifRx cf with rbuff := t.rbuff }

theorem bumpFrame_bumps (sl : Slcan) (flags : Canid) {idLen : Nat} (hid : idLen ≤ 8) (dlc : Byte)
    (skb : Bool) : ∃ t, sl.bumpFrame flags idLen dlc skb = .ok t ∧ sl.Bumps t := by
  rw [Slcan.bumpFrame]
  cases kstrtou32 (sl.cstr slcCmdLen) with
  | none => exact ⟨sl, rfl, .inl rfl⟩
  | some tmpid =>
      by_cases hrange : chr '0' ≤ dlc ∧ dlc < chr '9'
      · have hall : ∀ b : Byte, chr '0' ≤ b → b < chr '9' → (b - chr '0').toNat ≤ 8 := by decide
        have hn := hall dlc hrange.1 hrange.2
        obtain ⟨r, hr, hbytes⟩ := readPayload_ok sl (flags ||| tmpid)
          (n := (dlc - chr '0').toNat) (i := slcCmdLen + idLen + 1)
          (by rw [slcCmdLen, slcMtu]; omega)
        simp only [if_pos hrange, hr, bind, Except.bind, pure, Except.pure]
        cases r with
        | none => exact ⟨sl, rfl, .inl rfl⟩
        | some bytes =>
            obtain ⟨hlen, hrtr⟩ := hbytes bytes rfl
            refine ⟨_, rfl, ?_⟩
            cases skb with
            | false => exact .inl rfl
            | true => exact .inr ⟨_, tidy_payload hn hlen hrtr, rfl⟩
      · simp only [if_neg hrange]
        exact ⟨sl, rfl, .inl rfl⟩

theorem command_idLen_le {ch : Byte} {flags : Canid} {idLen : Nat}
    (h : command ch = some (flags, idLen)) : idLen ≤ 8 := by
  simp only [command] at h
  repeat' split at h
  all_goals
    cases h
    try decide

theorem slcBump_bumps (sl : Slcan) (skb : Bool) : ∃ t, slcBump sl skb = .ok t ∧ sl.Bumps t := by
  obtain ⟨type, htype⟩ := read_ok sl (i := 0) (by decide)
  simp only [slcBump, htype, bind, Except.bind, pure, Except.pure]
  cases hcommand : command type with
  | none => exact ⟨sl, rfl, .inl rfl⟩
  | some c =>
      obtain ⟨flags, idLen⟩ := c
      have hid := command_idLen_le hcommand
      have hlt : slcCmdLen + idLen < slcMtu := by
        rw [slcCmdLen, slcMtu]
        omega
      obtain ⟨dlc, hdlc⟩ := read_ok sl hlt
      have hwrite : sl.write (slcCmdLen + idLen) 0 = .ok _ := dif_pos hlt
      simp only [hdlc, hwrite]
      obtain ⟨t, ht, hbumps⟩ := bumpFrame_bumps
        { sl with rbuff := sl.rbuff.set (slcCmdLen + idLen) 0 hlt } flags hid dlc skb
      exact ⟨t, ht, hbumps⟩

theorem Slcan.Sound.bumps (h : sl.Sound) {t : Slcan} (hbumps : sl.Bumps t) : t.Sound := by
  obtain ht | ⟨cf, hcf, ht⟩ := hbumps
  · rw [ht]
    exact ⟨h.rcount, h.tidy, h.packets, h.bytes⟩
  · have hrx := h.netifRx hcf
    rw [ht]
    exact ⟨hrx.rcount, hrx.tidy, hrx.packets, hrx.bytes⟩

/-- **Any byte**: the turn completes, within `rbuff`. -/
theorem Slcan.Sound.receiveTurn (h : sl.Sound) (b : RxByte) :
    ∃ t, receiveTurn sl b = .ok t ∧ t.Sound := by
  rw [Can.receiveTurn]
  split
  · exact ⟨_, rfl, h.rcount, h.tidy, h.packets, h.bytes⟩
  · rw [slcanUnesc]
    split
    · cases hlong : !sl.error && decide (sl.rcount > 4) with
      | true =>
          obtain ⟨t, ht, hbumps⟩ := slcBump_bumps sl b.skb
          have hsound := h.bumps hbumps
          simp only [if_true, ht, bind, Except.bind, pure, Except.pure]
          exact ⟨_, rfl, Nat.zero_le _, hsound.tidy, hsound.packets, hsound.bytes⟩
      | false => exact ⟨_, rfl, Nat.zero_le _, h.tidy, h.packets, h.bytes⟩
    · split
      · exact ⟨sl, rfl, h⟩
      · split
        · next hroom =>
            have hwrite : sl.write sl.rcount b.ch = .ok _ := dif_pos hroom
            simp only [hwrite, bind, Except.bind, pure, Except.pure]
            exact ⟨_, rfl, hroom, h.tidy, h.packets, h.bytes⟩
        · exact ⟨_, rfl, h.rcount, h.tidy, h.packets, h.bytes⟩

theorem Slcan.Sound.run (h : sl.Sound) (bytes : List RxByte) :
    ∃ t, Machine.run Can.receiveTurn sl bytes = .ok t ∧ t.Sound := by
  induction bytes generalizing sl with
  | nil => exact ⟨sl, rfl, h⟩
  | cons b bytes ih =>
      obtain ⟨t, ht, hsound⟩ := h.receiveTurn b
      rw [run_cons_of_ok ht]
      exact ih hsound

theorem Slcan.Sound.calls (h : sl.Sound) (calls : List ReceiveCall) :
    ∃ t, Machine.run receiveCall sl calls = .ok t ∧ t.Sound := by
  induction calls generalizing sl with
  | nil => exact ⟨sl, rfl, h⟩
  | cons c calls ih =>
      have hcall : ∃ t, receiveCall sl c = .ok t ∧ t.Sound := by
        cases c with
        | receiveBuf running bytes =>
            cases running with
            | true => exact h.run bytes
            | false => exact ⟨sl, rfl, h⟩
        | slcOpen => exact ⟨_, rfl, h.rcount, h.tidy, h.packets, h.bytes⟩
        | slcClose => exact ⟨_, rfl, Nat.zero_le _, h.tidy, h.packets, h.bytes⟩
      obtain ⟨t, ht, hsound⟩ := hcall
      rw [run_cons_of_ok ht]
      exact ih hsound

end Sound

/-- A line end, wherever it comes: at most one frame, and then a new line. -/
theorem receiveTurn_end (sl : Slcan) :
    ∃ t junk, receiveTurn sl (plain (chr '\r')) = .ok t ∧ t.Clean ∧
      t.frames = sl.frames ++ junk ∧ junk.length ≤ 1 := by
  show ∃ t junk, slcanUnesc sl (chr '\r') true = .ok t ∧ _
  rw [slcanUnesc, if_pos (by decide)]
  cases !sl.error && decide (sl.rcount > 4) with
  | true =>
      obtain ⟨t, ht, hbumps⟩ := slcBump_bumps sl true
      simp only [if_true, ht, bind, Except.bind, pure, Except.pure]
      obtain ht | ⟨cf, -, ht⟩ := hbumps
      · refine ⟨_, [], rfl, ⟨rfl, rfl⟩, ?_, Nat.zero_le 1⟩
        rw [ht, List.append_nil]
      · refine ⟨_, [cf], rfl, ⟨rfl, rfl⟩, ?_, Nat.le_refl 1⟩
        rw [ht]
        rfl
  | false => exact ⟨_, [], rfl, ⟨rfl, rfl⟩, (List.append_nil _).symm, Nat.zero_le 1⟩

/-- A data frame of two bytes, the second of them 0. -/
def twoBytes : CanFrame := ⟨0x123, 2, #v[0xAB, 0, 0, 0, 0, 0, 0, 0]⟩

/-- A remote frame with an extended identifier. -/
def remoteFrame : CanFrame := ⟨0xC0001234, 3, #v[0, 0, 0, 0, 0, 0, 0, 0]⟩

/-- `left` is what `xhead` and `xleft` are about, `stopped` says that the network core
may not call `slc_xmit`, and `wire` is what the tty has taken and not handed on yet. -/
structure Link where
  left : List Byte
  stopped : Bool
  wire : List Byte
  receiver : Slcan

def Link.opened : Link := ⟨[], false, [], Slcan.opened⟩

inductive LinkOp where
  /-- `slc_xmit`, of whose first write the tty takes so much. -/
  | xmit (cf : CanFrame) (actual : Nat)
  /-- `slcan_transmit`, whenever the tty asks for it. -/
  | transmit (actual : Nat)
  /-- The receiver's tty hands on so many bytes. -/
  | receive (count : Nat)
  deriving DecidableEq, Repr

inductive LinkFault where
  | slcan (f : Fault)
  /-- No tty, and no network core, does this. -/
  | refused
  deriving DecidableEq, Repr

/-- `ops->write`. -/
def Link.write (l : Link) (text : List Byte) (actual : Nat) : Except LinkFault Link :=
  if actual ≤ text.length then
    .ok { l with left := text.drop actual, wire := l.wire ++ text.take actual }
  else .error .refused

def linkStep (l : Link) : LinkOp → Except LinkFault Link
  | .xmit cf actual =>
      if l.stopped then .error .refused
      else
        match slcEncaps cf with
        | .error f => .error (.slcan f)
        | .ok xbuff => { l with stopped := true }.write xbuff actual
  | .transmit actual =>
      if l.left = [] then .ok { l with stopped := false } else l.write l.left actual
  | .receive count =>
      if count ≤ l.wire.length then
        match slcanReceiveBuf true l.receiver ((l.wire.take count).map plain) with
        | .error f => .error (.slcan f)
        | .ok sl => .ok { l with receiver := sl, wire := l.wire.drop count }
      else .error .refused

/-- The frames that a call sends. -/
def LinkOp.frames : LinkOp → List CanFrame
  | .xmit cf _ => [cf]
  | .transmit _ => []
  | .receive _ => []

/-- Where the bytes of the frames that were `sent` are: the receiver has had some of
them, some are on the line, and some are left. -/
structure LinkInv (sent : List CanFrame) (l : Link) : Prop where
  bytes : ∃ got, got ++ l.wire ++ l.left = sent.flatMap CanFrame.text ∧
    run receiveTurn Slcan.opened (got.map plain) = .ok l.receiver
  idle : l.stopped = false → l.left = []
  sound : l.receiver.Sound

theorem linkInv_opened : LinkInv [] Link.opened :=
  ⟨⟨[], rfl, rfl⟩, fun _ => rfl, sound_opened⟩

section LinkInv

variable {sent : List CanFrame} {l l' : Link}

/-- What the tty takes of a text goes from what is left to the line. -/
theorem LinkInv.write (h : LinkInv sent l) (more : List CanFrame) {text : List Byte}
    {actual : Nat} {stopped : Bool} (htext : l.left ++ more.flatMap CanFrame.text = text)
    (hstopped : stopped = true) (hw : { l with stopped := stopped }.write text actual = .ok l') :
    LinkInv (sent ++ more) l' := by
  obtain ⟨got, hbytes, hrun⟩ := h.bytes
  rw [Link.write] at hw
  split at hw
  · cases hw
    refine ⟨⟨got, ?_, hrun⟩, fun hidle => ?_, h.sound⟩
    · show got ++ (l.wire ++ text.take actual) ++ text.drop actual = _
      rw [List.append_assoc, List.append_assoc, List.take_append_drop, List.flatMap_append, ← hbytes,
        ← htext]
      simp only [List.append_assoc]
    · rw [show stopped = false from hidle] at hstopped
      cases hstopped
  · cases hw

theorem LinkInv.receives (h : LinkInv sent l) (count : Nat) :
    ∃ sl, slcanReceiveBuf true l.receiver ((l.wire.take count).map plain) = .ok sl ∧ sl.Sound :=
  h.sound.run _

theorem LinkInv.step (h : LinkInv sent l) {op : LinkOp} (hvalid : ∀ cf ∈ op.frames, cf.Valid)
    (hstep : linkStep l op = .ok l') : LinkInv (sent ++ op.frames) l' := by
  cases op with
  | xmit cf actual =>
      have hcf : slcEncaps cf = .ok cf.text := slcEncaps_eq (hvalid cf (List.mem_singleton_self cf))
      simp only [linkStep, hcf] at hstep
      split at hstep
      · cases hstep
      · next hfree =>
          have hleft := h.idle (Bool.eq_false_iff.mpr hfree)
          refine h.write [cf] ?_ rfl hstep
          rw [hleft, List.nil_append, List.flatMap_singleton]
  | transmit actual =>
      simp only [linkStep] at hstep
      rw [LinkOp.frames, List.append_nil]
      split at hstep
      · next hnil =>
          cases hstep
          exact ⟨h.bytes, fun _ => hnil, h.sound⟩
      · next hne =>
          have hstopped : l.stopped = true := by
            by_contra hfree
            exact hne (h.idle (Bool.eq_false_iff.mpr hfree))
          have hwrite := h.write [] (List.append_nil l.left) hstopped hstep
          rwa [List.append_nil] at hwrite
  | receive count =>
      simp only [linkStep] at hstep
      rw [LinkOp.frames, List.append_nil]
      split at hstep
      · obtain ⟨got, hbytes, hrun⟩ := h.bytes
        obtain ⟨sl, hrx, hsound⟩ := h.receives count
        rw [hrx] at hstep
        cases hstep
        refine ⟨⟨got ++ l.wire.take count, ?_, ?_⟩, h.idle, hsound⟩
        · show got ++ l.wire.take count ++ l.wire.drop count ++ l.left = _
          rw [List.append_assoc got, List.take_append_drop, hbytes]
        · rw [List.map_append, run_append_of_ok hrun]
          exact hrx
      · cases hstep

/-- No step leaves an array. -/
theorem LinkInv.step_ne (h : LinkInv sent l) {op : LinkOp} (hvalid : ∀ cf ∈ op.frames, cf.Valid)
    (f : Fault) : linkStep l op ≠ .error (.slcan f) := by
  have hwrite (stopped : Bool) (text : List Byte) (actual : Nat) :
      { l with stopped := stopped }.write text actual ≠ .error (.slcan f) := by
    rw [Link.write]
    split <;> exact fun heq => by cases heq
  cases op with
  | xmit cf actual =>
      have hcf : slcEncaps cf = .ok cf.text := slcEncaps_eq (hvalid cf (List.mem_singleton_self cf))
      simp only [linkStep, hcf]
      split
      · exact fun heq => by cases heq
      · exact hwrite true _ _
  | transmit actual =>
      simp only [linkStep]
      split
      · exact fun heq => by cases heq
      · exact hwrite l.stopped _ _
  | receive count =>
      obtain ⟨sl, hrx, -⟩ := h.receives count
      simp only [linkStep, hrx]
      split <;> exact fun heq => by cases heq

theorem LinkInv.run {ops : List LinkOp} (h : LinkInv sent l)
    (hvalid : ∀ cf ∈ ops.flatMap LinkOp.frames, cf.Valid)
    (hrun : Machine.run linkStep l ops = .ok l') : LinkInv (sent ++ ops.flatMap LinkOp.frames) l' := by
  induction ops generalizing sent l with
  | nil =>
      cases hrun
      rwa [List.flatMap_nil, List.append_nil]
  | cons op ops ih =>
      rw [List.flatMap_cons] at hvalid ⊢
      obtain ⟨u, hu, hrest⟩ := run_cons_ok.mp hrun
      have hop := h.step (fun cf hcf => hvalid cf (List.mem_append_left _ hcf)) hu
      rw [← List.append_assoc]
      exact ih hop (fun cf hcf => hvalid cf (List.mem_append_right _ hcf)) hrest

theorem LinkInv.run_ne {ops : List LinkOp} (h : LinkInv sent l)
    (hvalid : ∀ cf ∈ ops.flatMap LinkOp.frames, cf.Valid) (f : Fault) :
    Machine.run linkStep l ops ≠ .error (.slcan f) := by
  induction ops generalizing sent l with
  | nil => exact fun heq => by cases heq
  | cons op ops ih =>
      rw [List.flatMap_cons] at hvalid
      have hop : ∀ cf ∈ op.frames, cf.Valid := fun cf hcf => hvalid cf (List.mem_append_left _ hcf)
      cases hstep : linkStep l op with
      | error e =>
          rw [run_cons, hstep]
          intro heq
          cases heq
          exact h.step_ne hop f hstep
      | ok u =>
          rw [run_cons_of_ok hstep]
          exact ih (h.step hop hstep) fun cf hcf => hvalid cf (List.mem_append_right _ hcf)

/-- The receiver has read the first frames that were sent, and all of them when
nothing is on its way. -/
theorem LinkInv.delivered (h : LinkInv sent l) (hvalid : ∀ cf ∈ sent, cf.Valid) :
    (∃ n ≤ sent.length, l.receiver.frames = (sent.take n).map CanFrame.canonical) ∧
      (l.wire = [] → l.left = [] → l.receiver.frames = sent.map CanFrame.canonical) := by
  have hdecodes : ∀ cf ∈ sent, Decodes receiveTurn Slcan.frames Slcan.Clean
      (fun cf => cf.text.map plain) CanFrame.canonical cf := fun cf hcf => decodes_text (hvalid cf hcf)
  have hclean : Slcan.opened.Clean := ⟨rfl, rfl⟩
  obtain ⟨got, hbytes, hrun⟩ := h.bytes
  have hmap : sent.flatMap (fun cf => cf.text.map plain) = (got ++ l.wire ++ l.left).map plain := by
    rw [hbytes, List.map_flatMap]
  constructor
  · refine run_prefix hdecodes hclean ?_ hrun
    rw [hmap, List.append_assoc, List.map_append]
    exact List.prefix_append _ _
  · intro hwire hleft
    obtain ⟨t, ht, -, hout⟩ := run_stream hdecodes hclean
    rw [hmap, hwire, hleft, List.append_nil, List.append_nil, hrun] at ht
    cases ht
    exact hout

end LinkInv

/-- **Frames over the line**: whatever the tty takes of each write and however the bytes
come in, no array is left, and the receiver passes on the frames that were sent, once
and in order; when nothing is on its way it has passed on all of them. -/
theorem link_delivers (ops : List LinkOp)
    (hvalid : ∀ cf ∈ ops.flatMap LinkOp.frames, cf.Valid) :
    (∀ f, run linkStep Link.opened ops ≠ .error (.slcan f)) ∧
      ∀ l, run linkStep Link.opened ops = .ok l →
        (∃ n ≤ (ops.flatMap LinkOp.frames).length,
          l.receiver.frames = ((ops.flatMap LinkOp.frames).take n).map CanFrame.canonical) ∧
        (l.wire = [] → l.left = [] →
          l.receiver.frames = (ops.flatMap LinkOp.frames).map CanFrame.canonical) := by
  refine ⟨linkInv_opened.run_ne hvalid, fun l hrun => ?_⟩
  have hinv := linkInv_opened.run hvalid hrun
  rw [List.nil_append] at hinv
  exact hinv.delivered hvalid

/-- Two frames, of each of which the tty takes a part first. -/
def inParts : List LinkOp :=
  [.xmit twoBytes 3, .receive 2, .transmit 7, .transmit 0, .receive 4, .xmit remoteFrame 0,
    .transmit 11, .receive 15]

theorem link_delivers_in_parts :
    ∃ l, run linkStep Link.opened inParts = .ok l ∧
      l.receiver.frames = [twoBytes.canonical, remoteFrame.canonical] :=
  ⟨_, rfl, ((link_delivers inParts (by decide)).2 _ rfl).2 rfl rfl⟩

end MoxaDrivers.Can

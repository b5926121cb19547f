import MoxaDrivers.Lib.Machine
import MoxaDrivers.Dio.Board

/-!
# Reading the outputs back

The driver answers `IOCTL_GET_DOUT` from `do_state`, which nothing sets to what
the ports have when the module is loaded (`dio_init` is not called) but the
DA-682B. A request for all lines gets the `do_state` of `mdev` as it is: the
boards with their outputs in the upper bits do not shift it, and those with a
table keep the outputs elsewhere.
-/

namespace MoxaDrivers.Dio

open MoxaDrivers.Bits MoxaDrivers.CInt MoxaDrivers.Machine

/-- The driver, the ports and what the last request has returned. -/
structure Board where
  driver : Driver
  ports : Ports
  reply : Reply

/-- A request about the outputs, with what is at the input pins when it comes. -/
inductive Request where
  | setDout (arg : UserArg) (pins : Nat → Byte)
  | getDout (arg : UserArg) (pins : Nat → Byte)

def Request.cmd : Request → Nat
  | .setDout _ _ => ioctlSetDout
  | .getDout _ _ => ioctlGetDout

def Request.arg : Request → UserArg
  | .setDout arg _ => arg
  | .getDout arg _ => arg

def Request.pins : Request → Nat → Byte
  | .setDout _ pins => pins
  | .getDout _ pins => pins

def boardStep (p : Product) (s : Board) (r : Request) : Except CFault Board :=
  (ioIoctl p s.driver { s.ports with pins := r.pins } r.cmd r.arg).map fun (d, b, reply) =>
    ⟨d, b, reply⟩

/-- The module loaded over the ports as they are. -/
def loaded (p : Product) (b : Ports) : Board := ⟨p.init b, b, .ok none⟩

/-- What `IOCTL_GET_DOUT` answers in a state. -/
def Board.getDout (s : Board) (p : Product) (ioNumber : Int) : Except CFault Reply :=
  (ioIoctl p s.driver s.ports ioctlGetDout ⟨some ⟨ioNumber, 0⟩, true⟩).map (·.2.2)

/-- What a request does: a `IOCTL_SET_DOUT` that succeeds drives its line and no
other, a request that fails, or asks, changes nothing. -/
structure RequestExact (p : Product) (s : Board) (r : Request) (t : Board) : Prop where
  succeeds : ∀ arg pins, r = .setDout arg pins → t.reply = .ok none →
    ∃ k v, arg.set = some ⟨(k : Nat), modeOf v⟩ ∧ k < p.mdev.doNum ∧
      ∀ j < p.mdev.doNum, t.ports.level p j = if j = k then v else s.ports.level p j
  fails : ∀ e, t.reply = .error e → t.driver = s.driver ∧ t.ports.latch = s.ports.latch
  asks : ∀ arg pins, r = .getDout arg pins → t.driver = s.driver ∧ t.ports.latch = s.ports.latch

/-- `IOCTL_GET_DOUT` answers with the levels, one by one and all together. -/
structure ReadsTrue (p : Product) (s : Board) : Prop where
  line : ∀ k < p.mdev.doNum,
    s.getDout p k = .ok (.ok (some ⟨k, modeOf (s.ports.level p k)⟩))
  all : ∃ word : Byte, s.getDout p allPort = .ok (.ok (some ⟨allPort, word.toNat⟩)) ∧
    ∀ k < p.mdev.doNum, s.getDout p k = .ok (.ok (some ⟨k, modeOf (word.getLsbD k)⟩))

/-- **Outputs are driven alone and read back truthfully**, from the module's load
on. -/
structure OutputsTruthful (p : Product) (b : Ports) (rs : List Request) : Prop where
  completes : ∃ t, run (boardStep p) (loaded p b) rs = .ok t
  requests : EachStep (boardStep p) (RequestExact p) (loaded p b) rs
  reads : Always (boardStep p) (ReadsTrue p) (loaded p b) rs

/-! ## The condition -/

/-- The lines as the compiled-in `do_state` has them. The V2403 and the MC-7200
never answer a request for all lines as they answer for one. -/
def StartsAs (p : Product) (b : Ports) : Prop :=
  match p with
  | .da682B => True
  | .v2403 | .mc7200 _ => False
  | .v2400A | .v2616A => ∀ k < p.mdev.doNum, b.level p k = true
  | .v2201 _ | .v2416A | .da820 | .mc7130 _ => ∀ k < p.mdev.doNum, b.level p k = false

/-- The one level that a board's lines may be given. -/
def Product.only : Product → Option Bool
  | .v2400A => some true
  | .v2201 .commented | .v2416A | .mc7130 _ => some false
  | _ => none

/-- The level of a `mode_data`. -/
def levelOf (modeData : Int) : Option Bool :=
  if modeData = dioHigh then some true else if modeData = dioLow then some false else none

/-- The line and the level of a `IOCTL_SET_DOUT` that the ioctl lets pass. -/
def Request.sets (p : Product) : Request → Option (Nat × Bool)
  | .getDout _ _ => none
  | .setDout arg _ => do
      let set ← arg.set
      if badLine p.mdev.doNum set.ioNumber then none
      else (levelOf set.modeData).map (set.ioNumber.toNat, ·)

/-- The request does not give a line the level that the board's lines may not
have. -/
def Request.Fits (p : Product) (r : Request) : Prop :=
  ∀ c k v, p.only = some c → r.sets p = some (k, v) → v = c

/-! ## What the boards' functions do -/

/-- Where a board's functions have a line. -/
def Product.target (p : Product) (k : Nat) : Line :=
  match p with
  | .v2201 _ | .v2616A | .da820 | .da682B => ⟨p.mdev.addr, k⟩
  | .v2400A | .v2403 | .v2416A => ⟨p.mdev.addr, k + p.mdev.diNum⟩
  | .mc7130 _ => tableLine dout7130 k
  | .mc7200 _ => tableLine dout7200 k

def Product.wiring : Product → Wiring
  | .v2201 wiring | .mc7130 wiring | .mc7200 wiring => wiring
  | _ => .coded

/-- The `do_state` that has a line. -/
def Product.cache (p : Product) (d : Driver) (k : Nat) : Byte :=
  match p with
  | .mc7130 _ | .mc7200 _ => d.dout k
  | _ => d.doState

def Product.cached (p : Product) (d : Driver) (k : Nat) : Bool :=
  (p.cache d k).getLsbD (p.target k).bit

/-- The word that a request changes one bit of. -/
def Product.word (p : Product) (d : Driver) (b : Ports) (k : Nat) : Byte :=
  match p with
  | .da682B | .mc7130 _ | .mc7200 _ => b.inb p (p.target k).addr
  | _ => d.doState

def Product.store (p : Product) (d : Driver) (k : Nat) (doState : Byte) : Driver :=
  match p with
  | .mc7130 _ | .mc7200 _ => { d with dout := Function.update d.dout k doState }
  | _ => { d with doState := doState }

/-- Every board, with the lines where the comments and where the functions have
them. -/
def Product.all : List Product :=
  [.v2201 .commented, .v2201 .coded, .v2400A, .v2403, .v2416A, .v2616A, .da820, .da682B,
    .mc7130 .commented, .mc7130 .coded, .mc7200 .commented, .mc7200 .coded]

theorem Product.mem_all (p : Product) : p ∈ Product.all := by
  cases p with
  | v2201 wiring => cases wiring <;> decide
  | mc7130 wiring => cases wiring <;> decide
  | mc7200 wiring => cases wiring <;> decide
  | _ => decide

theorem line_lt {p : Product} {k : Nat} (hk : k < p.mdev.doNum) : k < 32 := by
  have hall : ∀ p ∈ Product.all, p.mdev.doNum ≤ 8 := by decide
  have hle := hall p p.mem_all
  omega

theorem target_bit_lt {p : Product} {k : Nat} (hk : k < p.mdev.doNum) : (p.target k).bit < 8 := by
  have hall : ∀ p ∈ Product.all, ∀ k < p.mdev.doNum, (p.target k).bit < 8 := by decide
  exact hall p p.mem_all k hk

/-- The functions find a line where it is, if the wiring is theirs. -/
theorem target_eq {p : Product} (hp : p.wiring = .coded) (k : Nat) : p.target k = p.outLine k := by
  cases p with
  | v2201 wiring =>
      cases hp
      rfl
  | mc7130 wiring =>
      cases hp
      rfl
  | mc7200 wiring =>
      cases hp
      rfl
  | _ => rfl

/-- No two lines are one. -/
theorem outLine_inj {p : Product} {j k : Nat} (hj : j < p.mdev.doNum) (hk : k < p.mdev.doNum)
    (h : p.outLine j = p.outLine k) : j = k := by
  have hall : ∀ p ∈ Product.all, ∀ j < p.mdev.doNum, ∀ k < p.mdev.doNum,
      p.outLine j = p.outLine k → j = k := by decide
  exact hall p p.mem_all j hj k hk h

theorem outMask_line {p : Product} {k : Nat} (hk : k < p.mdev.doNum) :
    (p.outMask (p.outLine k).addr).getLsbD (p.outLine k).bit = true := by
  have hall : ∀ p ∈ Product.all, ∀ k < p.mdev.doNum,
      (p.outMask (p.outLine k).addr).getLsbD (p.outLine k).bit = true := by decide
  exact hall p p.mem_all k hk

/-- An output read back. -/
theorem inb_line {p : Product} {k : Nat} (hk : k < p.mdev.doNum) (b : Ports) :
    (b.inb p (p.outLine k).addr).getLsbD (p.outLine k).bit = b.level p k := by
  rw [Ports.inb, BitVec.getLsbD_or, BitVec.getLsbD_and, BitVec.getLsbD_and, BitVec.getLsbD_not,
    outMask_line hk]
  simp [Ports.level]

theorem drive_getLsbD (doState : Byte) {n : Nat} (hn : n < 8) (v : Bool) (i : Nat) :
    (drive doState n (modeOf v)).getLsbD i = if i = n then v else doState.getLsbD i := by
  cases v with
  | true => exact getLsbD_or_bit doState hn i
  | false => exact getLsbD_clear_bit doState hn i

theorem lineCount {k n num : Nat} (hk : k < num) (hn : num + n < 32) :
    shiftCount ((k : Int) + (n : Int)) = .ok (k + n) := by
  rw [← Int.natCast_add]
  exact shiftCount_natCast (by omega)

/-- A line's entry in the table is the line's. -/
theorem entry_tableLine {t : List IoaddrDef} {k : Nat} (hk : k < t.length) :
    ∃ e, entry t (k : Int) = .ok e ∧ tableLine t k = ⟨e.ioAddress, e.dataBit⟩ := by
  have hget : t[k]? = some t[k] := List.getElem?_eq_getElem hk
  refine ⟨t[k], entry_natCast hget, ?_⟩
  rw [tableLine, hget]

theorem read_bit (set : DioSet) (doState : Byte) {n : Nat} (hn : n < 8) :
    set.read doState n = { set with modeData := modeOf (doState.getLsbD n) } := by
  rw [DioSet.read, test_bit doState hn]
  rfl

theorem portGetOutb_line {n : Int} {m : Nat} (hn : shiftCount n = .ok m) (hm : m < 8)
    (d : Driver) (set : DioSet) :
    portGetOutb n d set = .ok { set with modeData := modeOf (d.doState.getLsbD m) } := by
  rw [portGetOutb, hn, ← read_bit set d.doState hm]
  rfl

theorem tableGetOutb_line {t : List IoaddrDef} {k : Nat} {mode : Int} (hk : k < t.length)
    (hbit : (tableLine t k).bit < 8) (d : Driver) :
    tableGetOutb t d ⟨k, mode⟩ =
      .ok ⟨k, modeOf ((d.dout k).getLsbD (tableLine t k).bit)⟩ := by
  obtain ⟨e, he, hline⟩ := entry_tableLine hk
  rw [hline] at hbit ⊢
  have hread := read_bit ⟨k, mode⟩ (d.dout k) hbit
  rw [tableGetOutb]
  simp only [he]
  exact congrArg Except.ok hread

/-- Asking for one line. -/
theorem getDout_line {p : Product} {k : Nat} (hk : k < p.mdev.doNum) (d : Driver) (mode : Int) :
    p.getDout d ⟨k, mode⟩ = .ok ⟨k, modeOf (p.cached d k)⟩ := by
  have hbit := target_bit_lt hk
  have hlt := line_lt hk
  cases p with
  | v2201 wiring => exact portGetOutb_line (shiftCount_natCast hlt) hbit d ⟨k, mode⟩
  | v2400A => exact portGetOutb_line (lineCount hk (by decide)) hbit d ⟨k, mode⟩
  | v2403 => exact portGetOutb_line (lineCount hk (by decide)) hbit d ⟨k, mode⟩
  | v2416A => exact portGetOutb_line (lineCount hk (by decide)) hbit d ⟨k, mode⟩
  | v2616A => exact portGetOutb_line (shiftCount_natCast hlt) hbit d ⟨k, mode⟩
  | da820 => exact portGetOutb_line (shiftCount_natCast hlt) hbit d ⟨k, mode⟩
  | da682B => exact portGetOutb_line (shiftCount_natCast hlt) hbit d ⟨k, mode⟩
  | mc7130 wiring => exact tableGetOutb_line hk hbit d
  | mc7200 wiring => exact tableGetOutb_line hk hbit d

theorem portOutb_line {n : Int} {m : Nat} (hn : shiftCount n = .ok m) (mdev : DioDev) (d : Driver)
    (b : Ports) (set : DioSet) :
    portOutb mdev n d b set =
      .ok ({ d with doState := drive d.doState m set.modeData },
        b.outb (drive d.doState m set.modeData) mdev.addr) := by
  rw [portOutb, hn]
  rfl

theorem tableOutb_line {p : Product} {t : List IoaddrDef} {k : Nat} (hk : k < t.length) (d : Driver)
    (b : Ports) (mode : Int) :
    tableOutb p t d b ⟨k, mode⟩ =
      .ok ({ d with
          dout := Function.update d.dout k
            (drive (b.inb p (tableLine t k).addr) (tableLine t k).bit mode) },
        b.outb (drive (b.inb p (tableLine t k).addr) (tableLine t k).bit mode)
          (tableLine t k).addr) := by
  obtain ⟨e, he, hline⟩ := entry_tableLine hk
  rw [hline, tableOutb]
  simp only [he]
  rfl

/-- Driving one line. -/
theorem dioOutb_line {p : Product} {k : Nat} (hk : k < p.mdev.doNum) (d : Driver) (b : Ports)
    (mode : Int) :
    p.dioOutb d b ⟨k, mode⟩ =
      .ok (p.store d k (drive (p.word d b k) (p.target k).bit mode),
        b.outb (drive (p.word d b k) (p.target k).bit mode) (p.target k).addr) := by
  have hlt := line_lt hk
  cases p with
  | v2201 wiring => exact portOutb_line (shiftCount_natCast hlt) v2201 d b ⟨k, mode⟩
  | v2400A => exact portOutb_line (lineCount hk (by decide)) v2400A d b ⟨k, mode⟩
  | v2403 => exact portOutb_line (lineCount hk (by decide)) v2403 d b ⟨k, mode⟩
  | v2416A => exact portOutb_line (lineCount hk (by decide)) v2416A d b ⟨k, mode⟩
  | v2616A => exact portOutb_line (shiftCount_natCast hlt) v2616A d b ⟨k, mode⟩
  | da820 => exact portOutb_line (shiftCount_natCast hlt) da820 d b ⟨k, mode⟩
  | da682B =>
      exact portOutb_line (shiftCount_natCast hlt) da682BDo
        { d with doState := b.inb .da682B da682BDo.addr } b ⟨k, mode⟩
  | mc7130 wiring => exact tableOutb_line hk d b mode
  | mc7200 wiring => exact tableOutb_line hk d b mode

/-! ## The cache and the levels -/

/-- The driver's bits of the lines are the lines' levels. -/
def Agrees (p : Product) (d : Driver) (b : Ports) : Prop :=
  ∀ k < p.mdev.doNum, p.cached d k = b.level p k

theorem level_outb (b : Ports) (p : Product) (j : Nat) (val : Byte) (addr : Nat) :
    (b.outb val addr).level p j =
      if (p.outLine j).addr = addr then val.getLsbD (p.outLine j).bit else b.level p j := by
  simp only [Ports.level, Ports.outb, Function.update_apply]
  split
  · rfl
  · rfl

theorem cached_self (p : Product) (d : Driver) (k : Nat) (doState : Byte) :
    p.cached (p.store d k doState) k = doState.getLsbD (p.target k).bit := by
  cases p with
  | mc7130 wiring => simp only [Product.cached, Product.cache, Product.store, Function.update_self]
  | mc7200 wiring => simp only [Product.cached, Product.cache, Product.store, Function.update_self]
  | _ => rfl

/-- A line is kept in the word that was stored, or apart from it. -/
theorem cached_store (p : Product) (d : Driver) (k j : Nat) (doState : Byte) :
    (p.cached (p.store d k doState) j = doState.getLsbD (p.target j).bit ∧
        (p.target j).addr = (p.target k).addr) ∨
      (j ≠ k ∧ p.cached (p.store d k doState) j = p.cached d j) := by
  by_cases hj : j = k
  · rw [hj]
    exact .inl ⟨cached_self p d k doState, rfl⟩
  · cases p with
    | mc7130 wiring =>
        refine .inr ⟨hj, ?_⟩
        simp only [Product.cached, Product.cache, Product.store, Function.update_of_ne hj]
    | mc7200 wiring =>
        refine .inr ⟨hj, ?_⟩
        simp only [Product.cached, Product.cache, Product.store, Function.update_of_ne hj]
    | _ => exact .inl ⟨rfl, rfl⟩

/-- The word that a request starts from has the levels of the port's lines. -/
theorem word_line {p : Product} {d : Driver} {b : Ports} (h : Agrees p d b)
    (hp : p.wiring = .coded) {j k : Nat} (hj : j < p.mdev.doNum)
    (haddr : (p.outLine j).addr = (p.outLine k).addr) :
    (p.word d b k).getLsbD (p.outLine j).bit = b.level p j := by
  have hcached := h j hj
  rw [Product.cached, target_eq hp] at hcached
  have hread := inb_line hj b
  rw [haddr, ← target_eq hp k] at hread
  cases p with
  | da682B => exact hread
  | mc7130 wiring => exact hread
  | mc7200 wiring => exact hread
  | _ => exact hcached

/-- Driving a line changes the line and no other, in the port and in the cache. -/
theorem drive_line {p : Product} {d : Driver} {b : Ports} (h : Agrees p d b)
    (hp : p.wiring = .coded) {k : Nat} (hk : k < p.mdev.doNum) (v : Bool) {doState : Byte}
    (hstate : doState = drive (p.word d b k) (p.target k).bit (modeOf v)) :
    ∀ j < p.mdev.doNum,
      (b.outb doState (p.target k).addr).level p j = (if j = k then v else b.level p j) ∧
      p.cached (p.store d k doState) j = (if j = k then v else p.cached d j) := by
  intro j hj
  have hbit (haddr : (p.outLine j).addr = (p.outLine k).addr) :
      doState.getLsbD (p.outLine j).bit = if j = k then v else b.level p j := by
    rw [hstate, drive_getLsbD _ (target_bit_lt hk), target_eq hp, word_line h hp hj haddr]
    by_cases hjk : j = k
    · simp [hjk]
    · have hne : (p.outLine j).bit ≠ (p.outLine k).bit := by
        intro heq
        exact hjk (outLine_inj hj hk (Line.ext haddr heq))
      rw [if_neg hne, if_neg hjk]
  constructor
  · rw [level_outb, target_eq hp]
    by_cases haddr : (p.outLine j).addr = (p.outLine k).addr
    · rw [if_pos haddr, hbit haddr]
    · have hjk : j ≠ k := by
        rintro rfl
        exact haddr rfl
      rw [if_neg haddr, if_neg hjk]
  · obtain ⟨hcached, haddr⟩ | ⟨hjk, hcached⟩ := cached_store p d k j doState
    · rw [target_eq hp, target_eq hp] at haddr
      rw [hcached, target_eq hp, hbit haddr, h j hj]
    · rw [hcached, if_neg hjk]

/-! ## One request -/

/-- What a request for all lines would show, bit by bit, is what is kept of each
line. -/
def Whole (p : Product) (d : Driver) : Prop :=
  ∀ k < p.mdev.doNum, d.doState.getLsbD k = p.cached d k

theorem getDout_of_line {p : Product} {k : Nat} (hk : k < p.mdev.doNum) (s : Board) :
    s.getDout p k = .ok (.ok (some ⟨k, modeOf (p.cached s.driver k)⟩)) := by
  have hall : ¬ (k : Int) = allPort := by
    rw [allPort]
    omega
  have hcmd : ¬ ioctlGetDout = ioctlSetDout := by decide
  simp only [Board.getDout, ioIoctl, if_neg hcmd, if_true, getDoutReply, if_neg hall,
    badLine_line hk, getDout_line hk]
  rfl

theorem getDout_of_all (p : Product) (s : Board) :
    s.getDout p allPort = .ok (.ok (some ⟨allPort, s.driver.doState.toNat⟩)) := by
  have hcmd : ¬ ioctlGetDout = ioctlSetDout := by decide
  simp only [Board.getDout, ioIoctl, if_neg hcmd, if_true, getDoutReply]
  rfl

theorem readsTrue_iff (p : Product) (s : Board) :
    ReadsTrue p s ↔ Agrees p s.driver s.ports ∧ Whole p s.driver := by
  constructor
  · rintro ⟨hline, word, hall, hword⟩
    constructor
    · intro k hk
      have hread := (getDout_of_line hk s).symm.trans (hline k hk)
      simp only [Except.ok.injEq, Option.some.injEq, DioSet.mk.injEq] at hread
      exact modeOf_inj hread.2
    · intro k hk
      have hread := (getDout_of_line hk s).symm.trans (hword k hk)
      have hsame := (getDout_of_all p s).symm.trans hall
      simp only [Except.ok.injEq, Option.some.injEq, DioSet.mk.injEq, Int.natCast_inj] at hread hsame
      rw [BitVec.eq_of_toNat_eq hsame.2]
      exact (modeOf_inj hread.2).symm
  · rintro ⟨hagrees, hwhole⟩
    refine ⟨?_, s.driver.doState, getDout_of_all p s, ?_⟩
    · intro k hk
      rw [getDout_of_line hk, hagrees k hk]
    · intro k hk
      rw [getDout_of_line hk, hwhole k hk]

theorem levelOf_eq_some {modeData : Int} {v : Bool} (h : levelOf modeData = some v) :
    modeData = modeOf v := by
  simp only [levelOf] at h
  split at h
  · cases h
    assumption
  · split at h
    · cases h
      assumption
    · cases h

theorem levelOf_eq_none {modeData : Int} (h : levelOf modeData = none) :
    modeData ≠ dioHigh ∧ modeData ≠ dioLow := by
  simp only [levelOf] at h
  split at h
  · cases h
  · split at h
    · cases h
    · exact ⟨by assumption, by assumption⟩

theorem modeOf_valid (v : Bool) : ¬ (modeOf v ≠ dioHigh ∧ modeOf v ≠ dioLow) := by
  cases v <;> decide

/-- A request that sets a line. -/
theorem sets_eq_some {p : Product} {r : Request} {k : Nat} {v : Bool}
    (h : r.sets p = some (k, v)) :
    ∃ arg pins, r = .setDout arg pins ∧ arg.set = some ⟨(k : Nat), modeOf v⟩ ∧
      k < p.mdev.doNum := by
  cases r with
  | getDout arg pins => cases h
  | setDout arg pins =>
      refine ⟨arg, pins, rfl, ?_⟩
      cases hset : arg.set with
      | none => simp [Request.sets, hset] at h
      | some set =>
          cases hbad : badLine p.mdev.doNum set.ioNumber with
          | true => simp [Request.sets, hset, hbad] at h
          | false =>
              obtain ⟨i, hi, hlt⟩ := line_of_not_bad hbad
              rw [hi] at hbad
              simp only [Request.sets, hset, Option.bind_eq_bind, Option.bind_some, hbad, hi,
                Bool.false_eq_true, if_false, Int.toNat_natCast, Option.map_eq_some_iff,
                Prod.mk.injEq] at h
              obtain ⟨u, hu, rfl, rfl⟩ := h
              refine ⟨?_, hlt⟩
              rw [← hi, ← levelOf_eq_some hu]

theorem step_sets {p : Product} {r : Request} {k : Nat} {v : Bool} (h : r.sets p = some (k, v))
    (s : Board) :
    ∃ doState, doState = drive (p.word s.driver { s.ports with pins := r.pins } k) (p.target k).bit
        (modeOf v) ∧
      boardStep p s r = .ok ⟨p.store s.driver k doState,
        { s.ports with pins := r.pins }.outb doState (p.target k).addr, .ok none⟩ := by
  obtain ⟨arg, pins, rfl, hset, hk⟩ := sets_eq_some h
  refine ⟨_, rfl, ?_⟩
  simp only [boardStep, Request.cmd, Request.arg, ioIoctl, hset, if_true, setDout,
    badLine_line hk, Bool.false_eq_true, if_false, if_neg (modeOf_valid v), dioOutb_line hk]
  rfl

/-- A request that sets no line changes nothing, and fails if it was to set one. -/
theorem step_keeps {p : Product} {r : Request} (h : r.sets p = none) (s : Board) :
    ∃ reply, boardStep p s r = .ok ⟨s.driver, { s.ports with pins := r.pins }, reply⟩ ∧
      ∀ arg pins, r = .setDout arg pins → ∃ e, reply = .error e := by
  cases r with
  | setDout arg pins =>
      cases hset : arg.set with
      | none =>
          refine ⟨.error .efault, ?_, fun _ _ _ => ⟨_, rfl⟩⟩
          simp only [boardStep, Request.arg, ioIoctl, hset]
          rfl
      | some set =>
          refine ⟨.error .einval, ?_, fun _ _ _ => ⟨_, rfl⟩⟩
          simp only [boardStep, Request.cmd, Request.arg, ioIoctl, hset, if_true, setDout]
          cases hbad : badLine p.mdev.doNum set.ioNumber with
          | true => rfl
          | false =>
              have hlevel : levelOf set.modeData = none := by
                simpa [Request.sets, hset, hbad] using h
              simp only [Bool.false_eq_true, if_false, if_pos (levelOf_eq_none hlevel)]
              rfl
  | getDout arg pins =>
      have hcmd : ¬ ioctlGetDout = ioctlSetDout := by decide
      cases hset : arg.set with
      | none =>
          refine ⟨.error .efault, ?_, fun _ _ hr => by cases hr⟩
          simp only [boardStep, Request.arg, ioIoctl, hset]
          rfl
      | some set =>
          have hreply : ∃ reply, getDoutReply p s.driver arg set = .ok reply := by
            rw [getDoutReply]
            by_cases hall : set.ioNumber = allPort
            · rw [if_pos hall]
              exact ⟨_, rfl⟩
            · rw [if_neg hall]
              cases hbad : badLine p.mdev.doNum set.ioNumber with
              | true => exact ⟨_, rfl⟩
              | false =>
                  obtain ⟨k, hk, hlt⟩ := line_of_not_bad hbad
                  have hget := getDout_line hlt s.driver set.modeData
                  rw [← hk] at hget
                  rw [hget]
                  exact ⟨_, rfl⟩
          obtain ⟨reply, hreply⟩ := hreply
          refine ⟨reply, ?_, fun _ _ hr => by cases hr⟩
          simp only [boardStep, Request.cmd, Request.arg, ioIoctl, hset, if_neg hcmd, if_true,
            hreply]
          rfl

/-! ## The invariant -/

/-- The cache is the levels', line by line and as a whole. On a board whose
lines may be given one level only, `do_state` is as compiled in. -/
structure Truthful (p : Product) (s : Board) : Prop where
  starts : p ≠ .v2403 ∧ ∀ wiring, p ≠ .mc7200 wiring
  agrees : Agrees p s.driver s.ports
  whole : Whole p s.driver
  fixed : ∀ c, p.only = some c → s.driver.doState = p.mdev.doState

theorem only_bit {p : Product} {c : Bool} (h : p.only = some c) {k : Nat}
    (hk : k < p.mdev.doNum) : p.mdev.doState.getLsbD k = c := by
  revert k
  cases p with
  | v2201 wiring =>
      cases wiring with
      | commented =>
          cases h
          decide
      | coded => cases h
  | v2400A =>
      cases h
      decide
  | v2416A =>
      cases h
      decide
  | mc7130 wiring =>
      cases h
      intro k _
      exact BitVec.getLsbD_zero
  | _ => cases h

/-- With the level that the lines may have, `do_state` stays as compiled in. -/
theorem store_fixed {p : Product} {c : Bool} (hp : p.only = some c) {d : Driver}
    (hd : d.doState = p.mdev.doState) (b : Ports) (k : Nat) :
    (p.store d k (drive (p.word d b k) (p.target k).bit (modeOf c))).doState = p.mdev.doState := by
  cases p with
  | v2201 wiring =>
      cases wiring with
      | coded => cases hp
      | commented =>
          cases hp
          show d.doState &&& ~~~((1 : Byte) <<< _) = v2201.doState
          rw [hd]
          exact BitVec.zero_and
  | v2400A =>
      cases hp
      show d.doState ||| (1 : Byte) <<< _ = v2400A.doState
      rw [hd]
      exact BitVec.allOnes_or
  | v2416A =>
      cases hp
      show d.doState &&& ~~~((1 : Byte) <<< _) = v2416A.doState
      rw [hd]
      exact BitVec.zero_and
  | mc7130 wiring => exact hd
  | _ => cases hp

/-- With any level, the low bits of `do_state` do, where the lines are not kept
in them. -/
theorem store_whole {p : Product} {c : Bool} (hp : p.only = some c) (hne : p ≠ .v2201 .commented)
    {d : Driver} (hd : d.doState = p.mdev.doState) (b : Ports) {k : Nat} (hk : k < p.mdev.doNum)
    (v : Bool) :
    (p.store d k (drive (p.word d b k) (p.target k).bit (modeOf v))).doState.getLsbD k = c := by
  have hbit := only_bit hp hk
  have hout := target_bit_lt hk
  cases p with
  | v2201 wiring =>
      cases wiring with
      | coded => cases hp
      | commented => exact absurd rfl hne
  | v2400A =>
      have hk' : ¬ k = (Product.v2400A.target k).bit := by
        show ¬ k = k + 6
        omega
      refine (drive_getLsbD d.doState hout v k).trans ?_
      rw [hd, if_neg hk', hbit]
  | v2416A =>
      have hk' : ¬ k = (Product.v2416A.target k).bit := by
        show ¬ k = k + 6
        omega
      refine (drive_getLsbD d.doState hout v k).trans ?_
      rw [hd, if_neg hk', hbit]
  | mc7130 wiring =>
      show d.doState.getLsbD k = c
      rw [hd, hbit]
  | _ => cases hp

/-- Where the lines may have any level, the bits of `do_state` are the cache. -/
theorem whole_of_any {p : Product} (hp : p.only = none)
    (hne : p ≠ .v2403 ∧ ∀ wiring, p ≠ .mc7200 wiring) (d : Driver) : Whole p d := by
  intro k _
  cases p with
  | v2201 wiring =>
      cases wiring with
      | commented => cases hp
      | coded => rfl
  | v2403 => exact absurd rfl hne.1
  | mc7200 wiring => exact absurd rfl (hne.2 wiring)
  | v2616A => rfl
  | da820 => rfl
  | da682B => rfl
  | v2400A => cases hp
  | v2416A => cases hp
  | mc7130 wiring => cases hp

/-- A line of a board with one level has it. -/
theorem Truthful.level_only {p : Product} {s : Board} (h : Truthful p s) {c : Bool}
    (hp : p.only = some c) {k : Nat} (hk : k < p.mdev.doNum) :
    p.cached s.driver k = c ∧ s.ports.level p k = c := by
  have hc : p.cached s.driver k = c := by
    rw [← h.whole k hk, h.fixed c hp, only_bit hp hk]
  exact ⟨hc, by rw [← h.agrees k hk, hc]⟩

/-- The word that a request starts from, on a board whose lines stay low. -/
theorem Truthful.word_low {p : Product} {s : Board} (h : Truthful p s) (hp : p.only = some false)
    {j : Nat} (hj : j < p.mdev.doNum) {k : Nat} (haddr : (p.outLine j).addr = (p.target k).addr) :
    (p.word s.driver s.ports k).getLsbD (p.outLine j).bit = false := by
  have hread := inb_line hj s.ports
  rw [haddr, (h.level_only hp hj).2] at hread
  have hstate := h.fixed false hp
  cases p with
  | v2201 wiring =>
      show s.driver.doState.getLsbD _ = false
      rw [hstate]
      exact BitVec.getLsbD_zero
  | v2416A =>
      show s.driver.doState.getLsbD _ = false
      rw [hstate]
      exact BitVec.getLsbD_zero
  | mc7130 wiring => exact hread
  | _ => cases hp

theorem Truthful.only_of_commented {p : Product} {s : Board} (h : Truthful p s)
    (hp : p.wiring = .commented) : p.only = some false := by
  cases p with
  | v2201 wiring =>
      cases hp
      rfl
  | mc7130 wiring => rfl
  | mc7200 wiring => exact absurd rfl (h.starts.2 wiring)
  | _ => cases hp

/-- Where the functions have the lines elsewhere, all are low, and stay so. -/
theorem Truthful.drive_commented {p : Product} {s : Board} (h : Truthful p s)
    (hp : p.wiring = .commented) {k : Nat} (hk : k < p.mdev.doNum) {doState : Byte}
    (hstate : doState =
      Dio.drive (p.word s.driver s.ports k) (p.target k).bit (modeOf false)) :
    ∀ j < p.mdev.doNum, (s.ports.outb doState (p.target k).addr).level p j = false ∧
      p.cached (p.store s.driver k doState) j = false := by
  have honly := h.only_of_commented hp
  have hbit (i : Nat) (hi : (p.word s.driver s.ports k).getLsbD i = false) :
      doState.getLsbD i = false := by
    rw [hstate, drive_getLsbD _ (target_bit_lt hk), hi, ite_self]
  intro j hj
  constructor
  · rw [level_outb]
    split
    · next haddr => exact hbit _ (h.word_low honly hj haddr)
    · exact (h.level_only honly hj).2
  · by_cases hjk : j = k
    · rw [hjk, cached_self, hstate, drive_getLsbD _ (target_bit_lt hk), if_pos rfl]
    · have hbefore := (h.level_only honly hj).1
      cases p with
      | v2201 wiring => exact hbit (Product.target (.v2201 wiring) j).bit hbefore
      | mc7130 wiring =>
          simpa only [Product.cached, Product.cache, Product.store, Function.update_of_ne hjk]
            using hbefore
      | mc7200 wiring => cases honly
      | _ => cases hp

/-- What a request that fits does to the cache and to the levels. -/
theorem Truthful.drive {p : Product} {s : Board} (h : Truthful p s) {k : Nat}
    (hk : k < p.mdev.doNum) {v : Bool} (hfit : ∀ c, p.only = some c → v = c)
    {doState : Byte}
    (hstate : doState = Dio.drive (p.word s.driver s.ports k) (p.target k).bit (modeOf v)) :
    ∀ j < p.mdev.doNum,
      (s.ports.outb doState (p.target k).addr).level p j =
          (if j = k then v else s.ports.level p j) ∧
        p.cached (p.store s.driver k doState) j = (if j = k then v else p.cached s.driver j) := by
  cases hp : p.wiring with
  | coded => exact drive_line h.agrees hp hk v hstate
  | commented =>
      intro j hj
      have honly := h.only_of_commented hp
      obtain rfl := hfit false honly
      obtain ⟨hlevel, hcached⟩ := h.drive_commented hp hk hstate j hj
      obtain ⟨hcached₀, hlevel₀⟩ := h.level_only honly hj
      rw [hlevel, hcached, hlevel₀, hcached₀, ite_self]
      exact ⟨rfl, rfl⟩

theorem Truthful.store {p : Product} {s : Board} (h : Truthful p s) {k : Nat}
    (hk : k < p.mdev.doNum) {v : Bool} (hfit : ∀ c, p.only = some c → v = c)
    {doState : Byte}
    (hstate : doState = Dio.drive (p.word s.driver s.ports k) (p.target k).bit (modeOf v)) :
    Truthful p ⟨p.store s.driver k doState, s.ports.outb doState (p.target k).addr, .ok none⟩ := by
  have hdrive := h.drive hk hfit hstate
  have hfixed : ∀ c, p.only = some c → (p.store s.driver k doState).doState = p.mdev.doState := by
    intro c hc
    rw [hstate, hfit c hc]
    exact store_fixed hc (h.fixed c hc) s.ports k
  refine ⟨h.starts, ?_, ?_, hfixed⟩
  · intro j hj
    rw [(hdrive j hj).1, (hdrive j hj).2, h.agrees j hj]
  · cases hp : p.only with
    | none => exact whole_of_any hp h.starts _
    | some c =>
        intro j hj
        rw [hfixed c hp, only_bit hp hj, (hdrive j hj).2, (h.level_only hp hj).1, hfit c hp,
          ite_self]

/-- The levels at the pins of the inputs are no concern of it. -/
theorem Truthful.pins {p : Product} {s : Board} (h : Truthful p s) (pins : Nat → Byte)
    (reply : Reply) : Truthful p ⟨s.driver, { s.ports with pins := pins }, reply⟩ :=
  ⟨h.starts, h.agrees, h.whole, h.fixed⟩

theorem Truthful.step {p : Product} {s t : Board} {r : Request} (h : Truthful p s)
    (hfit : r.Fits p) (hstep : boardStep p s r = .ok t) : Truthful p t := by
  cases hsets : r.sets p with
  | none =>
      obtain ⟨reply, hok, -⟩ := step_keeps hsets s
      cases hok.symm.trans hstep
      exact h.pins r.pins reply
  | some kv =>
      obtain ⟨k, v⟩ := kv
      obtain ⟨doState, hstate, hok⟩ := step_sets hsets s
      obtain ⟨arg, pins, rfl, -, hk⟩ := sets_eq_some hsets
      cases hok.symm.trans hstep
      exact (h.pins pins s.reply).store hk (fun c hc => hfit c k v hc hsets) hstate

/-- A request that does not fit shows. -/
theorem Truthful.step_bad {p : Product} {s : Board} {r : Request} (h : Truthful p s)
    (hfit : ¬ r.Fits p) : ∃ t, boardStep p s r = .ok t ∧ ¬ ReadsTrue p t := by
  simp only [Request.Fits, not_forall] at hfit
  obtain ⟨c, k, v, hp, hsets, hv⟩ := hfit
  obtain ⟨doState, hstate, hok⟩ := step_sets hsets s
  obtain ⟨arg, pins, rfl, -, hk⟩ := sets_eq_some hsets
  refine ⟨_, hok, ?_⟩
  rw [readsTrue_iff]
  rintro ⟨hagrees, hwhole⟩
  by_cases hne : p = .v2201 .commented
  · -- the request reaches an input line, not the output
    subst hne
    cases hp
    have hd : s.driver.doState = 0 := h.fixed false rfl
    have hbit := drive_getLsbD s.driver.doState (target_bit_lt hk) v
    have hshown := hagrees k hk
    have haddr : (Product.outLine (.v2201 .commented) k).addr =
        (Product.target (.v2201 .commented) k).addr := rfl
    rw [level_outb, if_pos haddr] at hshown
    have hcached : doState.getLsbD k = v := by
      rw [hstate]
      refine (hbit k).trans ?_
      exact if_pos rfl
    have hlevel : doState.getLsbD (k + 4) = false := by
      rw [hstate]
      refine (hbit (k + 4)).trans ?_
      have hk' : ¬ k + 4 = k := by omega
      rw [hd]
      exact (if_neg hk').trans BitVec.getLsbD_zero
    exact hv (hcached.symm.trans (hshown.trans hlevel))
  · have hbit : (p.store s.driver k doState).doState.getLsbD k = c := by
      rw [hstate]
      exact store_whole hp hne (h.fixed c hp) { s.ports with pins := pins } hk v
    have hcached : p.cached (p.store s.driver k doState) k = v := by
      rw [cached_self, hstate, drive_getLsbD _ (target_bit_lt hk), if_pos rfl]
    exact hv (hcached.symm.trans ((hwhole k hk).symm.trans hbit))

/-! ## Loading the module -/

def blankPorts : Ports := ⟨fun _ => 0, fun _ => 0⟩

/-- `do_state` as compiled in, with the lines at one level in it, is true of
lines at that level only. -/
theorem readsTrue_of_init {p : Product} {c : Bool} {b q : Ports} (hinit : p.init b = p.init q)
    (hcached : ∀ k < p.mdev.doNum, p.cached (p.init q) k = c)
    (hwhole : ∀ k < p.mdev.doNum, (p.init q).doState.getLsbD k = c) :
    ReadsTrue p (loaded p b) ↔ ∀ k < p.mdev.doNum, b.level p k = c := by
  rw [← hinit] at hcached hwhole
  rw [readsTrue_iff]
  constructor
  · rintro ⟨hagrees, -⟩ k hk
    rw [← hcached k hk]
    exact (hagrees k hk).symm
  · intro hlevel
    constructor
    · intro k hk
      exact (hcached k hk).trans (hlevel k hk).symm
    · intro k hk
      exact (hwhole k hk).trans (hcached k hk).symm

theorem readsTrue_loaded (p : Product) (b : Ports) :
    ReadsTrue p (loaded p b) ↔ StartsAs p b := by
  cases p with
  | v2201 wiring =>
      cases wiring <;> exact readsTrue_of_init (q := blankPorts) rfl (by decide) (by decide)
  | v2400A => exact readsTrue_of_init (q := blankPorts) rfl (by decide) (by decide)
  | v2416A => exact readsTrue_of_init (q := blankPorts) rfl (by decide) (by decide)
  | v2616A => exact readsTrue_of_init (q := blankPorts) rfl (by decide) (by decide)
  | da820 => exact readsTrue_of_init (q := blankPorts) rfl (by decide) (by decide)
  | mc7130 wiring =>
      cases wiring <;> exact readsTrue_of_init (q := blankPorts) rfl (by decide) (by decide)
  | da682B =>
      rw [readsTrue_iff]
      constructor
      · exact fun _ => trivial
      · intro _
        constructor
        · intro k hk
          exact inb_line hk b
        · intro k _
          rfl
  | v2403 =>
      have hinit : (loaded .v2403 b).driver = Product.v2403.init blankPorts := rfl
      rw [readsTrue_iff, hinit]
      constructor
      · rintro ⟨-, hwhole⟩
        exact absurd (hwhole 0 (by decide)) (by decide)
      · exact False.elim
  | mc7200 wiring =>
      have hinit : (loaded (.mc7200 wiring) b).driver =
          (Product.mc7200 wiring).init blankPorts := by
        cases wiring <;> rfl
      have hfirst : ¬ Whole (.mc7200 wiring) ((Product.mc7200 wiring).init blankPorts) := by
        intro hwhole
        cases wiring with
        | commented => exact absurd (hwhole 0 (by decide)) (by decide)
        | coded => exact absurd (hwhole 0 (by decide)) (by decide)
      rw [readsTrue_iff, hinit]
      exact iff_of_false (fun hboth => hfirst hboth.2) id

theorem truthful_loaded {p : Product} {b : Ports} (h : StartsAs p b) : Truthful p (loaded p b) := by
  obtain ⟨hagrees, hwhole⟩ := (readsTrue_iff p _).mp ((readsTrue_loaded p b).mpr h)
  refine ⟨?_, hagrees, hwhole, ?_⟩
  · constructor
    · rintro rfl
      exact h
    · rintro wiring rfl
      exact h
  · intro c hc
    cases p with
    | da682B => cases hc
    | _ => rfl

/-! ## Whole runs -/

theorem Truthful.readsTrue {p : Product} {s : Board} (h : Truthful p s) : ReadsTrue p s :=
  (readsTrue_iff p s).mpr ⟨h.agrees, h.whole⟩

theorem step_ok (p : Product) (s : Board) (r : Request) : ∃ t, boardStep p s r = .ok t := by
  cases hsets : r.sets p with
  | none =>
      obtain ⟨reply, hok, -⟩ := step_keeps hsets s
      exact ⟨_, hok⟩
  | some kv =>
      obtain ⟨doState, -, hok⟩ := step_sets hsets s
      exact ⟨_, hok⟩

theorem Truthful.exact {p : Product} {s t : Board} {r : Request} (h : Truthful p s)
    (hfit : r.Fits p) (hstep : boardStep p s r = .ok t) : RequestExact p s r t := by
  cases hsets : r.sets p with
  | none =>
      obtain ⟨reply, hok, hfails⟩ := step_keeps hsets s
      cases hok.symm.trans hstep
      refine ⟨?_, fun _ _ => ⟨rfl, rfl⟩, fun _ _ _ => ⟨rfl, rfl⟩⟩
      intro arg pins hr hreply
      obtain ⟨e, he⟩ := hfails arg pins hr
      cases he.symm.trans hreply
  | some kv =>
      obtain ⟨k, v⟩ := kv
      obtain ⟨doState, hstate, hok⟩ := step_sets hsets s
      obtain ⟨arg, pins, rfl, hset, hk⟩ := sets_eq_some hsets
      cases hok.symm.trans hstep
      have hdrive := (h.pins pins s.reply).drive hk (fun c hc => hfit c k v hc hsets) hstate
      refine ⟨?_, ?_, ?_⟩
      · intro arg' pins' hr _
        cases hr
        exact ⟨k, v, hset, hk, fun j hj => (hdrive j hj).1⟩
      · intro e he
        cases he
      · intro arg' pins' hr
        cases hr

theorem Truthful.always_iff {p : Product} {s : Board} (h : Truthful p s) (rs : List Request) :
    Always (boardStep p) (ReadsTrue p) s rs ↔ ∀ r ∈ rs, r.Fits p := by
  have hguarded : Guarded (boardStep p) (fun _ r => r.Fits p) s rs ↔ ∀ r ∈ rs, r.Fits p :=
    guarded_iff_forall (fun s r hs hr => by
      obtain ⟨t, ht⟩ := step_ok p s r
      exact ⟨t, ht, hs.step hr ht⟩) h
  rw [← hguarded]
  exact always_iff_guarded (fun _ hs => hs.readsTrue) (fun _ _ _ hs hr ht => hs.step hr ht)
    (fun _ _ hs hr => hs.step_bad hr) h

/-- **When the outputs are read back truthfully**: the lines are found as
compiled in, and no request gives one the level that its board may not have. -/
theorem outputs_truthful_iff (p : Product) (b : Ports) (rs : List Request) :
    OutputsTruthful p b rs ↔ StartsAs p b ∧ ∀ r ∈ rs, r.Fits p := by
  constructor
  · intro h
    have hstart := (readsTrue_loaded p b).mp (h.reads [] List.nil_prefix (loaded p b) rfl)
    exact ⟨hstart, ((truthful_loaded hstart).always_iff rs).mp h.reads⟩
  · rintro ⟨hstart, hfits⟩
    have h := truthful_loaded hstart
    have hguarded : Guarded (boardStep p) (fun _ r => r.Fits p) (loaded p b) rs :=
      guarded_of_mem fun r hr _ => hfits r hr
    refine ⟨?_, ?_, (h.always_iff rs).mpr hfits⟩
    · exact (run_ok_iff_guarded (I := fun _ => True) (C := fun _ _ => True)
        (fun _ _ _ _ _ => trivial) (fun s r _ => ⟨fun _ => trivial, fun _ => step_ok p s r⟩)
        trivial).mpr fun _ _ _ _ _ => trivial
    · exact Guarded.mono (fun _ _ _ hs hr ht => hs.step hr ht)
        (fun _ _ hs hr _ => hs.exact hr) h hguarded

/-- A V2400A with its outputs high, and the first one set low: all lines are
still said to be high. -/
theorem v2400A_all_lines_stay_high :
    ¬ OutputsTruthful .v2400A ⟨fun _ => 0xFF, fun _ => 0⟩
      [.setDout ⟨some ⟨0, dioLow⟩, true⟩ fun _ => 0] := by
  intro h
  have hreads := h.reads _ (List.prefix_refl _) _ rfl
  have hshown : true = false := ((readsTrue_iff _ _).mp hreads).2 0 (by decide)
  cases hshown

end MoxaDrivers.Dio

import MoxaDrivers.Lib.Machine
import MoxaDrivers.Lib.Tally
import MoxaDrivers.Mxu11x0.Port

/-!
# The write path

`mxu1_write` puts bytes into the write buffer and calls `mxu1_send`, which the
completion handler of the write URB calls too. The writer is cut at the three
sections of `mxu1_buf_put`, and a call of `mxu1_send` at the end of its section
and at the return of `usb_submit_urb`. The completion handler clears
`mxp_write_urb_in_use` without the lock, and goes on to `mxu1_send`.

The flag says who owns the URB: the device, the handler of a completion that has
not cleared it, or a call of `mxu1_send` that has taken bytes for it.
-/

namespace MoxaDrivers.Mxu11x0

open MoxaDrivers.Bits MoxaDrivers.Mxser
open MoxaDrivers.Machine MoxaDrivers.Tally

/-! ## The parties -/

/-- Where a call of `mxu1_send` is. -/
inductive Send where
  /-- Before its section. -/
  | lock
  /-- It took `count` bytes into the transfer buffer. -/
  | submit (count : Nat)
  /-- It submitted the URB, and has yet to count the bytes. -/
  | account (count : Nat)
  | returned
  deriving DecidableEq, Repr

/-- Where the writer is in `mxu1_write`, with its data and the `ret` of
`mxu1_buf_put`. -/
inductive Writer where
  | idle
  /-- At the start of a turn of `mxu1_buf_put`. -/
  | space (data : List Byte) (ret : Nat)
  /-- With room for `c` bytes. -/
  | copy (data : List Byte) (ret c : Nat)
  /-- With `c` bytes copied, and the head not moved. -/
  | advance (data : List Byte) (ret c : Nat)
  /-- In `mxu1_send`, the call `i`. -/
  | send (data : List Byte) (ret i : Nat)
  deriving DecidableEq, Repr

structure WritePath where
  port : Port
  /-- `mxd_urb_error`. -/
  urbError : Bool
  /-- `write_urb->transfer_buffer`. -/
  transferBuffer : List Byte
  /-- The submissions of the write URB that have not completed. -/
  inFlight : Nat
  /-- Completions whose handler has not cleared the flag. -/
  completed : List UrbStatus
  sends : List Send
  writer : Writer
  /-- The payloads of the submitted URBs. -/
  submitted : List (List Byte)
  /-- What `mxu1_write` reported as accepted. -/
  reported : List Byte

/-- Nobody is at work on the port. -/
def WritePath.start (port : Port) (urbError : Bool) (transferBuffer : List Byte) : WritePath where
  port := port
  urbError := urbError
  transferBuffer := transferBuffer
  inFlight := 0
  completed := []
  sends := []
  writer := .idle
  submitted := []
  reported := []

/-! ## `mxu1_send` -/

/-- The section of `mxu1_send`. -/
def sendLock (bulkOutSize : Int) (s : WritePath) : WritePath × Send :=
  if s.port.writeUrbInUse then (s, .returned)
  else
    let r := mxu1BufGet s.port.writeBuf bulkOutSize
    if r.2.length = 0 then ({ s with port := { s.port with writeBuf := r.1 } }, .returned)
    else
      ({ s with
          port := { s.port with writeBuf := r.1, writeUrbInUse := true }
          transferBuffer := r.2 ++ s.transferBuffer.drop r.2.length }, .submit r.2.length)

/-- `usb_submit_urb` has returned `result`. -/
def sendSubmit (s : WritePath) (count : Nat) (result : Int) : WritePath × Send :=
  if result ≠ 0 then
    ({ s with port := { s.port with writeUrbInUse := false } }, .returned)
  else
    ({ s with
        inFlight := s.inFlight + 1
        submitted := s.submitted ++ [s.transferBuffer.take count] }, .account count)

/-- The bytes are counted. -/
def sendAccount (s : WritePath) (count : Nat) : WritePath × Send :=
  ({ s with port := { s.port with
      icount := { s.port.icount with tx := s.port.icount.tx + BitVec.ofNat 32 count } } }, .returned)

/-- The call `i` is at a new place. -/
def movedTo (i : Nat) (r : WritePath × Send) : WritePath :=
  { r.1 with sends := r.1.sends.set i r.2 }

/-- The call `i` goes on, up to its call of `usb_submit_urb`. -/
def sendStep (bulkOutSize : Int) (s : WritePath) (i : Nat) : WritePath :=
  match s.sends[i]? with
  | some .lock => movedTo i (sendLock bulkOutSize s)
  | some (.account count) => movedTo i (sendAccount s count)
  | _ => s

def submitStep (s : WritePath) (i : Nat) (result : Int) : WritePath :=
  match s.sends[i]? with
  | some (.submit count) => movedTo i (sendSubmit s count result)
  | _ => s

/-- A call of `mxu1_send` begins. -/
def WritePath.call (s : WritePath) : WritePath := { s with sends := s.sends ++ [.lock] }

/-! ## `mxu1_write` -/

/-- The call, up to `mxu1_buf_put`. -/
def writeBegin (s : WritePath) (data : List Byte) : WritePath :=
  if s.writer ≠ .idle then s
  else if data.length = 0 ∨ s.port.isOpen = false then s
  else { s with writer := .space data 0 }

def WritePath.withBuf (s : WritePath) (cb : CircBuf) (w : Writer) : WritePath :=
  { s with port := { s.port with writeBuf := cb }, writer := w }

/-- The writer goes on. -/
def writerStep (s : WritePath) : WritePath :=
  match s.writer with
  | .idle => s
  | .space data ret =>
      let c := putSpace s.port.writeBuf (data.length - ret)
      if c ≤ 0 then { s with writer := .send data ret s.sends.length }.call
      else { s with writer := .copy data ret c.toNat }
  | .copy data ret c =>
      s.withBuf (putCopy s.port.writeBuf ((data.drop ret).take c)) (.advance data ret c)
  | .advance data ret c => s.withBuf (putAdvance s.port.writeBuf c) (.space data (ret + c))
  | .send data ret i =>
      if s.sends[i]? = some .returned then
        { s with writer := .idle, reported := s.reported ++ data.take ret }
      else s

/-! ## `mxu1_bulk_out_callback` -/

/-- The device is done with the URB. -/
def completeStep (s : WritePath) (status : UrbStatus) : WritePath :=
  if s.inFlight = 0 then s
  else { s with inFlight := s.inFlight - 1, completed := s.completed ++ [status] }

/-- The handler clears the flag and looks at the status. -/
def clearStep (s : WritePath) (i : Nat) : WritePath :=
  match s.completed[i]? with
  | none => s
  | some status =>
      let s := { s with
        port := { s.port with writeUrbInUse := false }
        completed := s.completed.eraseIdx i }
      if status.shutdown then { s with urbError := true }
      else { s with urbError := s.urbError || status != UrbStatus.ok }.call

/-! ## Runs -/

inductive WriteEvent where
  /-- `mxu1_write` is called with `data`. -/
  | write (data : List Byte)
  | writer
  | send (i : Nat)
  | submit (i : Nat) (result : Int)
  | complete (status : UrbStatus)
  | clear (i : Nat)
  deriving DecidableEq, Repr

def writePathStep (bulkOutSize : Int) (s : WritePath) : WriteEvent → Except Empty WritePath
  | .write data => .ok (writeBegin s data)
  | .writer => .ok (writerStep s)
  | .send i => .ok (sendStep bulkOutSize s i)
  | .submit i result => .ok (submitStep s i result)
  | .complete status => .ok (completeStep s status)
  | .clear i => .ok (clearStep s i)

/-! ## Who owns the URB -/

/-- The call has taken the URB. -/
def Send.holds : Send → Bool
  | .submit _ => true
  | _ => false

/-- What a call took and has not submitted. -/
def Send.taken (transferBuffer : List Byte) : Send → List Byte
  | .submit count => transferBuffer.take count
  | _ => []

def WritePath.taken (s : WritePath) : List Byte :=
  s.sends.flatMap (Send.taken s.transferBuffer)

/-- The bytes that a write in progress has committed. -/
def Writer.committed : Writer → List Byte
  | .idle => []
  | .space data ret | .copy data ret _ | .advance data ret _ | .send data ret _ => data.take ret

/-- What `mxu1_write` has accepted so far. -/
def WritePath.accepted (s : WritePath) : List Byte := s.reported ++ s.writer.committed

/-- The writer's room is there, and its copy is in it. -/
def WriterOk (cb : CircBuf) : Writer → Prop
  | .copy data ret c =>
      ret + c ≤ data.length ∧ c ≤ circSpaceToEnd cb.head cb.tail mxu1WriteBufSize
  | .advance data ret c =>
      ret + c ≤ data.length ∧ c ≤ circSpaceToEnd cb.head cb.tail mxu1WriteBufSize ∧
        Ring.block cb.buf cb.head.toNat c = (data.drop ret).take c
  | _ => True

/-- The invariant of every run. -/
structure WritePath.Inv (s : WritePath) : Prop where
  ring : s.port.writeBuf.Ok
  writer : WriterOk s.port.writeBuf s.writer
  owner : s.inFlight + s.completed.length + s.sends.countP Send.holds =
    s.port.writeUrbInUse.toNat

/-- What was submitted, taken and is still in the buffer is what was accepted. -/
def WritePath.Balanced (s : WritePath) : Prop :=
  s.submitted.flatten ++ s.taken ++ s.port.writeBuf.bytes = s.accepted

/-! ## Small facts -/

theorem taken_of_not_holds (buf : List Byte) (a : Send) (h : a.holds = false) :
    a.taken buf = [] := by
  cases a with
  | submit count => cases h
  | lock => rfl
  | account count => rfl
  | returned => rfl

/-- Consuming bytes does not disturb the writer. -/
theorem WriterOk.taken {cb cb' : CircBuf} {xs : List Byte} {w : Writer} (h : WriterOk cb w)
    (ht : Taken cb cb' xs) : WriterOk cb' w := by
  cases w with
  | idle => trivial
  | space data ret => trivial
  | send data ret i => trivial
  | copy data ret c =>
      obtain ⟨hlen, hfit⟩ := h
      rw [← ht.head] at hfit
      exact ⟨hlen, ht.head ▸ ht.space c (ht.head ▸ hfit)⟩
  | advance data ret c =>
      obtain ⟨hlen, hfit, hblock⟩ := h
      refine ⟨hlen, ht.head ▸ ht.space c hfit, ?_⟩
      rw [ht.buf, ht.head]
      exact hblock

/-- A URB that nobody owns. -/
theorem WritePath.Inv.idle {s : WritePath} (h : s.Inv) (hfree : s.port.writeUrbInUse = false) :
    s.inFlight = 0 ∧ s.completed = [] ∧ s.sends.countP Send.holds = 0 := by
  have howner := h.owner
  rw [hfree, Bool.toNat_false] at howner
  exact ⟨by omega, List.length_eq_zero_iff.mp (by omega), by omega⟩

/-- A call that has taken the URB is its only owner. -/
theorem WritePath.Inv.alone {s : WritePath} (h : s.Inv) {i count : Nat}
    (hi : s.sends[i]? = some (.submit count)) :
    s.inFlight = 0 ∧ s.completed = [] ∧ s.sends.countP Send.holds = 1 ∧
      s.port.writeUrbInUse = true := by
  have howner := h.owner
  have hpos : 0 < s.sends.countP Send.holds :=
    List.countP_pos_iff.mpr ⟨_, List.mem_of_getElem? hi, rfl⟩
  have hle := Bool.toNat_le s.port.writeUrbInUse
  refine ⟨by omega, List.length_eq_zero_iff.mp (by omega), by omega, ?_⟩
  cases hu : s.port.writeUrbInUse with
  | true => rfl
  | false =>
      rw [hu, Bool.toNat_false] at howner
      omega

/-! ## `mxu1_send` keeps the invariant -/

/-- A call moves on, and the owner with it. -/
theorem inv_movedTo {i : Nat} {a : Send} {r : WritePath × Send} (hi : r.1.sends[i]? = some a)
    (hring : r.1.port.writeBuf.Ok) (hwriter : WriterOk r.1.port.writeBuf r.1.writer)
    (howner : r.1.inFlight + r.1.completed.length + r.1.sends.countP Send.holds + r.2.holds.toNat =
      r.1.port.writeUrbInUse.toNat + a.holds.toNat) : (movedTo i r).Inv := by
  have hcount := countP_set_add Send.holds (b := r.2) hi
  refine ⟨hring, hwriter, ?_⟩
  show r.1.inFlight + r.1.completed.length + (r.1.sends.set i r.2).countP Send.holds =
    r.1.port.writeUrbInUse.toNat
  omega

theorem sendLock_inv (bulkOutSize : Int) {s : WritePath} (h : s.Inv) {i : Nat}
    (hi : s.sends[i]? = some .lock) : (movedTo i (sendLock bulkOutSize s)).Inv := by
  have htaken := mxu1BufGet_taken h.ring bulkOutSize
  by_cases huse : s.port.writeUrbInUse = true
  · rw [sendLock, if_pos huse]
    exact inv_movedTo hi h.ring h.writer h.owner
  · rw [sendLock, if_neg huse]
    have hfree : s.port.writeUrbInUse = false := by simpa using huse
    obtain ⟨hfly, hcomp, hnone⟩ := h.idle hfree
    by_cases hempty : (mxu1BufGet s.port.writeBuf bulkOutSize).2.length = 0
    · simp only [if_pos hempty]
      exact inv_movedTo hi htaken.ok (h.writer.taken htaken) h.owner
    · simp only [if_neg hempty]
      refine inv_movedTo hi htaken.ok (h.writer.taken htaken) ?_
      simp [hfly, hcomp, hnone, Send.holds]

theorem sendAccount_inv {s : WritePath} (h : s.Inv) {i count : Nat}
    (hi : s.sends[i]? = some (.account count)) : (movedTo i (sendAccount s count)).Inv :=
  inv_movedTo hi h.ring h.writer h.owner

theorem sendSubmit_inv {s : WritePath} (h : s.Inv) {i count : Nat} (result : Int)
    (hi : s.sends[i]? = some (.submit count)) : (movedTo i (sendSubmit s count result)).Inv := by
  obtain ⟨hfly, hcomp, hone, huse⟩ := h.alone hi
  by_cases hfail : result ≠ 0
  · rw [sendSubmit, if_pos hfail]
    refine inv_movedTo hi h.ring h.writer ?_
    simp [hfly, hcomp, hone, Send.holds]
  · rw [sendSubmit, if_neg hfail]
    refine inv_movedTo hi h.ring h.writer ?_
    simp [hfly, hcomp, hone, huse, Send.holds]

theorem sendStep_inv (bulkOutSize : Int) {s : WritePath} (h : s.Inv) (i : Nat) :
    (sendStep bulkOutSize s i).Inv := by
  simp only [sendStep]
  split
  · rename_i hi
    exact sendLock_inv bulkOutSize h hi
  · rename_i hi
    exact sendAccount_inv h hi
  · exact h

theorem submitStep_inv {s : WritePath} (h : s.Inv) (i : Nat) (result : Int) :
    (submitStep s i result).Inv := by
  simp only [submitStep]
  split
  · rename_i hi
    exact sendSubmit_inv h result hi
  · exact h

theorem WritePath.Inv.call {s : WritePath} (h : s.Inv) : s.call.Inv := by
  have howner := h.owner
  have hcount := countP_append_one Send.holds s.sends Send.lock
  refine ⟨h.ring, h.writer, ?_⟩
  show s.inFlight + s.completed.length + (s.sends ++ [Send.lock]).countP Send.holds =
    s.port.writeUrbInUse.toNat
  rw [hcount]
  exact howner

/-! ## The writer and the completion handler keep it -/

theorem writeBegin_inv {s : WritePath} (h : s.Inv) (data : List Byte) :
    (writeBegin s data).Inv := by
  simp only [writeBegin]
  split
  · exact h
  · split
    · exact h
    · exact ⟨h.ring, trivial, h.owner⟩

theorem putSpace_le (cb : CircBuf) (count : Int) :
    putSpace cb count ≤ count ∧
      putSpace cb count ≤ circSpaceToEnd cb.head cb.tail mxu1WriteBufSize := by
  simp only [putSpace]
  split
  · omega
  · omega

theorem writerStep_inv {s : WritePath} (h : s.Inv) : (writerStep s).Inv := by
  have hring := h.ring
  have hw := h.writer
  simp only [writerStep]
  cases hwriter : s.writer with
  | idle => exact h
  | space data ret =>
      obtain ⟨hcount, hfit⟩ := putSpace_le s.port.writeBuf (data.length - ret)
      simp only []
      by_cases hc : putSpace s.port.writeBuf (data.length - ret) ≤ 0
      · rw [if_pos hc]
        exact WritePath.Inv.call ⟨hring, trivial, h.owner⟩
      · rw [if_neg hc]
        refine ⟨hring, ⟨by omega, ?_⟩, h.owner⟩
        rw [Int.toNat_of_nonneg (by omega)]
        exact hfit
  | copy data ret c =>
      rw [hwriter] at hw
      obtain ⟨hlen, hfit⟩ := hw
      have hxs : ((data.drop ret).take c).length = c := by
        rw [List.length_take, List.length_drop]
        omega
      have hend := ((hring.le_spaceToEnd_iff c).mp hfit).2
      have hhead := hring.head_nonneg
      refine ⟨hring.putCopy _, ⟨hlen, hfit, ?_⟩, h.owner⟩
      have hblock := putCopy_block s.port.writeBuf ((data.drop ret).take c) (by omega)
      rw [hxs] at hblock
      exact hblock
  | advance data ret c => exact ⟨hring.putAdvance c, trivial, h.owner⟩
  | send data ret i =>
      simp only []
      split
      · exact ⟨hring, trivial, h.owner⟩
      · exact h

theorem completeStep_inv {s : WritePath} (h : s.Inv) (status : UrbStatus) :
    (completeStep s status).Inv := by
  have howner := h.owner
  rw [completeStep]
  by_cases hfly : s.inFlight = 0
  · rw [if_pos hfly]
    exact h
  · rw [if_neg hfly]
    refine ⟨h.ring, h.writer, ?_⟩
    show s.inFlight - 1 + (s.completed ++ [status]).length + s.sends.countP Send.holds =
      s.port.writeUrbInUse.toNat
    rw [List.length_append, List.length_singleton]
    omega

theorem clearStep_inv {s : WritePath} (h : s.Inv) (i : Nat) : (clearStep s i).Inv := by
  have howner := h.owner
  simp only [clearStep]
  cases hi : s.completed[i]? with
  | none => exact h
  | some status =>
      -- the completion was the only owner
      obtain ⟨hlt, -⟩ := List.getElem?_eq_some_iff.mp hi
      have hle := Bool.toNat_le s.port.writeUrbInUse
      have hnext : ∀ urbError, ({ s with
          port := { s.port with writeUrbInUse := false }
          completed := s.completed.eraseIdx i
          urbError := urbError } : WritePath).Inv := by
        intro urbError
        refine ⟨h.ring, h.writer, ?_⟩
        show s.inFlight + (s.completed.eraseIdx i).length + s.sends.countP Send.holds = 0
        rw [List.length_eraseIdx_of_lt hlt]
        omega
      simp only []
      split
      · exact hnext true
      · exact (hnext _).call

theorem writePathStep_inv {bulkOutSize : Int} {s t : WritePath} (e : WriteEvent) (h : s.Inv)
    (hstep : writePathStep bulkOutSize s e = .ok t) : t.Inv := by
  cases e with
  | write data =>
      cases hstep
      exact writeBegin_inv h data
  | writer =>
      cases hstep
      exact writerStep_inv h
  | send i =>
      cases hstep
      exact sendStep_inv bulkOutSize h i
  | submit i result =>
      cases hstep
      exact submitStep_inv h i result
  | complete status =>
      cases hstep
      exact completeStep_inv h status
  | clear i =>
      cases hstep
      exact clearStep_inv h i

/-! ## What is accepted is not lost -/

/-- A call moves on, with `ys` taken. -/
theorem balanced_movedTo {i : Nat} {r : WritePath × Send} {ys : List Byte}
    (htaken : (r.1.sends.set i r.2).flatMap (Send.taken r.1.transferBuffer) = ys)
    (h : r.1.submitted.flatten ++ ys ++ r.1.port.writeBuf.bytes = r.1.accepted) :
    (movedTo i r).Balanced := by
  show r.1.submitted.flatten ++ (r.1.sends.set i r.2).flatMap (Send.taken r.1.transferBuffer) ++
    r.1.port.writeBuf.bytes = r.1.accepted
  rw [htaken]
  exact h

theorem sendLock_balanced (bulkOutSize : Int) {s : WritePath} (h : s.Inv) (hb : s.Balanced)
    {i : Nat} (hi : s.sends[i]? = some .lock) : (movedTo i (sendLock bulkOutSize s)).Balanced := by
  have htaken := mxu1BufGet_taken h.ring bulkOutSize
  by_cases huse : s.port.writeUrbInUse = true
  · rw [sendLock, if_pos huse]
    exact balanced_movedTo (flatMap_set_same hi rfl) hb
  · rw [sendLock, if_neg huse]
    obtain ⟨-, -, hnone⟩ := h.idle (by simpa using huse)
    -- nothing is taken before
    have hzero : s.taken = [] :=
      flatMap_of_countP_zero (taken_of_not_holds s.transferBuffer) hnone
    have hbytes := htaken.bytes
    rw [WritePath.Balanced, hzero, List.append_nil, hbytes] at hb
    by_cases hempty : (mxu1BufGet s.port.writeBuf bulkOutSize).2.length = 0
    · simp only [if_pos hempty]
      rw [List.length_eq_zero_iff.mp hempty, List.nil_append] at hb
      refine balanced_movedTo (flatMap_set_same hi rfl) ?_
      show s.submitted.flatten ++ s.taken ++ _ = s.accepted
      rw [hzero, List.append_nil]
      exact hb
    · simp only [if_neg hempty]
      generalize hxs : (mxu1BufGet s.port.writeBuf bulkOutSize).2 = xs at hb
      obtain ⟨hlt, -⟩ := List.getElem?_eq_some_iff.mp hi
      have hcount := countP_set_add Send.holds (b := Send.submit xs.length) hi
      have hone : (s.sends.set i (Send.submit xs.length)).flatMap
          (Send.taken (xs ++ s.transferBuffer.drop xs.length)) = xs := by
        rw [flatMap_of_countP_one (taken_of_not_holds _) (List.getElem?_set_self hlt) rfl]
        · exact List.take_left
        · rw [hnone] at hcount
          exact Nat.le_of_eq hcount
      refine balanced_movedTo hone ?_
      rw [List.append_assoc]
      exact hb

theorem sendAccount_balanced {s : WritePath} (hb : s.Balanced) {i count : Nat}
    (hi : s.sends[i]? = some (.account count)) : (movedTo i (sendAccount s count)).Balanced :=
  balanced_movedTo (flatMap_set_same hi rfl) hb

/-- The taken bytes are submitted. -/
theorem sendSubmit_balanced {s : WritePath} (h : s.Inv) (hb : s.Balanced) {i count : Nat}
    (hi : s.sends[i]? = some (.submit count)) : (movedTo i (sendSubmit s count 0)).Balanced := by
  obtain ⟨-, -, hone, -⟩ := h.alone hi
  have htaken : s.taken = s.transferBuffer.take count :=
    flatMap_of_countP_one (taken_of_not_holds _) hi rfl (Nat.le_of_eq hone)
  have hcount := countP_set_add Send.holds (b := Send.account count) hi
  have hzero : (s.sends.set i (Send.account count)).flatMap (Send.taken s.transferBuffer) = [] := by
    apply flatMap_of_countP_zero (taken_of_not_holds _)
    rw [hone] at hcount
    exact Nat.succ.inj hcount
  rw [WritePath.Balanced, htaken] at hb
  refine balanced_movedTo hzero ?_
  show (s.submitted ++ [s.transferBuffer.take count]).flatten ++ [] ++ _ = s.accepted
  rw [List.append_nil, List.flatten_append, List.flatten_singleton]
  exact hb

/-- The beginning of a call takes nothing. -/
theorem taken_call (s : WritePath) : s.call.taken = s.taken := by
  show (s.sends ++ [Send.lock]).flatMap (Send.taken s.transferBuffer) = s.taken
  rw [List.flatMap_append]
  exact List.append_nil _

theorem WritePath.Balanced.call {s : WritePath} (hb : s.Balanced) : s.call.Balanced := by
  show s.submitted.flatten ++ s.call.taken ++ _ = s.accepted
  rw [taken_call]
  exact hb

theorem writeBegin_balanced {s : WritePath} (hb : s.Balanced) (data : List Byte) :
    (writeBegin s data).Balanced := by
  simp only [writeBegin]
  by_cases hidle : s.writer ≠ .idle
  · rw [if_pos hidle]
    exact hb
  · rw [if_neg hidle]
    have hw : s.writer = .idle := not_not.mp hidle
    split
    · exact hb
    · rw [WritePath.Balanced, WritePath.accepted, hw] at hb
      exact hb

theorem writerStep_balanced {s : WritePath} (h : s.Inv) (hb : s.Balanced) :
    (writerStep s).Balanced := by
  have hring := h.ring
  have hw := h.writer
  rw [WritePath.Balanced, WritePath.accepted] at hb
  simp only [writerStep]
  cases hwriter : s.writer with
  | idle =>
      rw [hwriter] at hb
      rw [WritePath.Balanced, WritePath.accepted, hwriter]
      exact hb
  | space data ret =>
      rw [hwriter] at hb
      simp only []
      split
      · exact WritePath.Balanced.call hb
      · exact hb
  | copy data ret c =>
      rw [hwriter] at hw hb
      obtain ⟨hlen, hfit⟩ := hw
      have hxs : ((data.drop ret).take c).length = c := by
        rw [List.length_take, List.length_drop]
        omega
      have hbytes := hring.putCopy_bytes ((data.drop ret).take c) (by rw [hxs]; exact hfit)
      show s.submitted.flatten ++ s.taken ++ (putCopy s.port.writeBuf _).bytes = _
      rw [hbytes]
      exact hb
  | advance data ret c =>
      rw [hwriter] at hw hb
      obtain ⟨hlen, hfit, hblock⟩ := hw
      have hbytes := hring.putAdvance_bytes hfit
      show s.submitted.flatten ++ s.taken ++ (putAdvance s.port.writeBuf c).bytes =
        s.reported ++ data.take (ret + c)
      rw [hbytes, hblock, ← List.append_assoc, hb, List.take_add, ← List.append_assoc]
      rfl
  | send data ret i =>
      rw [hwriter] at hb
      simp only []
      split
      · show s.submitted.flatten ++ s.taken ++ s.port.writeBuf.bytes =
          s.reported ++ data.take ret ++ []
        rw [List.append_nil]
        exact hb
      · rw [WritePath.Balanced, WritePath.accepted, hwriter]
        exact hb

theorem completeStep_balanced {s : WritePath} (hb : s.Balanced) (status : UrbStatus) :
    (completeStep s status).Balanced := by
  simp only [completeStep]
  split
  · exact hb
  · exact hb

theorem clearStep_balanced {s : WritePath} (hb : s.Balanced) (i : Nat) :
    (clearStep s i).Balanced := by
  simp only [clearStep]
  cases s.completed[i]? with
  | none => exact hb
  | some status =>
      simp only []
      split
      · exact hb
      · exact WritePath.Balanced.call hb

/-- No submission of the event fails. -/
def WriteEvent.Succeeds : WriteEvent → Prop
  | .submit _ result => result = 0
  | _ => True

theorem writePathStep_balanced {bulkOutSize : Int} {s t : WritePath} (e : WriteEvent) (h : s.Inv)
    (hb : s.Balanced) (hok : e.Succeeds) (hstep : writePathStep bulkOutSize s e = .ok t) :
    t.Balanced := by
  cases e with
  | write data =>
      cases hstep
      exact writeBegin_balanced hb data
  | writer =>
      cases hstep
      exact writerStep_balanced h hb
  | send i =>
      cases hstep
      simp only [sendStep]
      split
      · rename_i hi
        exact sendLock_balanced bulkOutSize h hb hi
      · rename_i hi
        exact sendAccount_balanced hb hi
      · exact hb
  | submit i result =>
      cases hstep
      cases hok
      simp only [submitStep]
      split
      · rename_i hi
        exact sendSubmit_balanced h hb hi
      · exact hb
  | complete status =>
      cases hstep
      exact completeStep_balanced hb status
  | clear i =>
      cases hstep
      exact clearStep_balanced hb i

/-! ## Whole runs -/

/-- A call of `usb_submit_urb` finds the URB idle. -/
def SubmitsAlone (s : WritePath) (e : WriteEvent) : Prop :=
  ∀ i result count, e = .submit i result → s.sends[i]? = some (.submit count) → s.inFlight = 0

/-- The write path is a FIFO: what was submitted and what is in the buffer is
what was accepted, but for the bytes of a call of `mxu1_send` on its way to
`usb_submit_urb`. -/
structure WriteFifo (s : WritePath) : Prop where
  head : 0 ≤ s.port.writeBuf.head ∧ s.port.writeBuf.head < mxu1WriteBufSize
  tail : 0 ≤ s.port.writeBuf.tail ∧ s.port.writeBuf.tail < mxu1WriteBufSize
  oneInFlight : s.inFlight ≤ 1
  fifo : (∀ count, .submit count ∉ s.sends) →
    s.submitted.flatten ++ s.port.writeBuf.bytes = s.accepted
  onItsWay : ∀ count, .submit count ∈ s.sends →
    s.submitted.flatten ++ s.transferBuffer.take count ++ s.port.writeBuf.bytes = s.accepted

theorem submitsAlone {s : WritePath} (h : s.Inv) (e : WriteEvent) : SubmitsAlone s e :=
  fun _ _ _ _ hi => (h.alone hi).1

theorem writeFifo {s : WritePath} (h : s.Inv) (hb : s.Balanced) : WriteFifo s where
  head := ⟨h.ring.head_nonneg, h.ring.head_lt⟩
  tail := ⟨h.ring.tail_nonneg, h.ring.tail_lt⟩
  oneInFlight := by
    have howner := h.owner
    have hle := Bool.toNat_le s.port.writeUrbInUse
    omega
  fifo := by
    intro hnone
    have hzero : s.taken = [] := by
      apply flatMap_of_countP_zero (taken_of_not_holds _)
      rw [List.countP_eq_zero]
      intro a ha hholds
      cases a with
      | submit count => exact hnone count ha
      | lock => cases hholds
      | account count => cases hholds
      | returned => cases hholds
    rw [WritePath.Balanced, hzero, List.append_nil] at hb
    exact hb
  onItsWay := by
    intro count hmem
    obtain ⟨i, hi⟩ := List.getElem?_of_mem hmem
    have htaken : s.taken = s.transferBuffer.take count :=
      flatMap_of_countP_one (taken_of_not_holds _) hi rfl (Nat.le_of_eq (h.alone hi).2.2.1)
    rw [WritePath.Balanced, htaken] at hb
    exact hb

/-- Nobody is at work, and the buffer is empty. -/
structure Fresh (port : Port) : Prop where
  ring : port.writeBuf.Ok
  empty : port.writeBuf.bytes = []
  free : port.writeUrbInUse = false

theorem Fresh.inv {port : Port} (h : Fresh port) (urbError : Bool) (transferBuffer : List Byte) :
    (WritePath.start port urbError transferBuffer).Inv := by
  refine ⟨h.ring, trivial, ?_⟩
  show 0 = port.writeUrbInUse.toNat
  rw [h.free]
  rfl

theorem Fresh.balanced {port : Port} (h : Fresh port) (urbError : Bool)
    (transferBuffer : List Byte) : (WritePath.start port urbError transferBuffer).Balanced :=
  h.empty

/-- **The write path is a FIFO with at most one write URB in flight**, whatever
the order of the writer's sections, the calls of `mxu1_send`, the completions
and their handlers. -/
theorem write_path_is_fifo (bulkOutSize : Int) {port : Port} (h : Fresh port) (urbError : Bool)
    (transferBuffer : List Byte) (es : List WriteEvent) (hok : ∀ e ∈ es, e.Succeeds) :
    let s := WritePath.start port urbError transferBuffer
    Guarded (writePathStep bulkOutSize) SubmitsAlone s es ∧
      Always (writePathStep bulkOutSize) WriteFifo s es := by
  have hguard : Guarded (writePathStep bulkOutSize) (fun _ e => e.Succeeds)
      (WritePath.start port urbError transferBuffer) es :=
    guarded_of_mem fun e he _ => hok e he
  have halways := always_of_guarded (I := fun s => s.Inv ∧ s.Balanced)
    (fun s e t hs hsucc hstep => ⟨writePathStep_inv e hs.1 hstep,
      writePathStep_balanced e hs.1 hs.2 hsucc hstep⟩)
    ⟨h.inv urbError transferBuffer, h.balanced urbError transferBuffer⟩ hguard
  constructor
  · intro pre e hpre s hrun
    have hs := halways pre ((List.prefix_append pre [e]).trans hpre) s hrun
    exact submitsAlone hs.1 e
  · intro pre hpre s hrun
    have hs := halways pre hpre s hrun
    exact writeFifo hs.1 hs.2

/-- Two bytes are written to an opened port, and sent. -/
theorem write_path_is_fifo_two_bytes :
    let s := WritePath.start (openPort (startupPort .model1150 fun _ => 0) tty9600) false []
    let es := [.write [0x41, 0x42], .writer, .writer, .writer, .writer, .send 0, .submit 0 0,
      .complete .ok, .send 0, .clear 0, .send 1, .writer]
    Guarded (writePathStep 64) SubmitsAlone s es ∧ Always (writePathStep 64) WriteFifo s es := by
  have hfresh : Fresh (openPort (startupPort .model1150 fun _ => 0) tty9600) :=
    ⟨mxu1BufAlloc_ok _, mxu1BufAlloc_bytes _, rfl⟩
  exact write_path_is_fifo 64 hfresh false [] _ (by simp [WriteEvent.Succeeds])

end MoxaDrivers.Mxu11x0

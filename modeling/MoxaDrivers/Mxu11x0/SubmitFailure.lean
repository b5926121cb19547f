import MoxaDrivers.Mxu11x0.WriteQueue

/-!
# Failed submissions of the write URB

`mxu1_send` takes bytes out of the write buffer before it knows whether
`usb_submit_urb` accepts them. After a failure it gives the URB up, and neither
puts the bytes back nor sees to another call.
-/

namespace MoxaDrivers.Mxu11x0

open MoxaDrivers.Machine MoxaDrivers.Tally MoxaDrivers.Mxser

/-! ## What a failure should not change -/

/-- What was submitted and what is in the buffer is what was accepted, but for
the bytes of a call on its way to `usb_submit_urb`. -/
structure Lossless (s : WritePath) : Prop where
  atRest : (∀ count, .submit count ∉ s.sends) →
    s.submitted.flatten ++ s.port.writeBuf.bytes = s.accepted
  onItsWay : ∀ count, .submit count ∈ s.sends →
    s.submitted.flatten ++ s.transferBuffer.take count ++ s.port.writeBuf.bytes = s.accepted

/-- The writer has yet to call `mxu1_send`. -/
def Writer.willSend : Writer → Prop
  | .space _ _ | .copy _ _ _ | .advance _ _ _ => True
  | .idle | .send _ _ _ => False

/-- Somebody is going to look into the buffer. -/
def SendDue (s : WritePath) : Prop := .lock ∈ s.sends ∨ s.writer.willSend

/-- The event is a failure to submit what a call took. -/
def FailsToSubmit (s : WritePath) (e : WriteEvent) : Prop :=
  ∃ i result count, e = .submit i result ∧ result ≠ 0 ∧ s.sends[i]? = some (.submit count)

/-- A failure that leaves the URB idle and data in the buffer is retried. -/
def Retried (s : WritePath) (e : WriteEvent) (t : WritePath) : Prop :=
  FailsToSubmit s e → t.port.writeUrbInUse = false → t.port.writeBuf.bytes ≠ [] → SendDue t

/-! ## What a call has taken -/

/-- Where no call holds the URB, none is about to submit it. -/
theorem no_submit_of_countP {sends : List Send} (h : sends.countP Send.holds = 0) (count : Nat) :
    .submit count ∉ sends := by
  intro hmem
  have hnot := List.countP_eq_zero.mp h _ hmem
  exact hnot rfl

/-- Whoever is about to submit took at least one byte. -/
def TakesBytes (s : WritePath) : Prop :=
  ∀ count, .submit count ∈ s.sends → s.transferBuffer.take count ≠ []

theorem takesBytes_set {s t : WritePath} {i : Nat} {a : Send} (h : TakesBytes s)
    (hbuf : t.transferBuffer = s.transferBuffer) (hsends : t.sends = s.sends.set i a)
    (ha : a.holds = false) : TakesBytes t := by
  intro count hmem
  rw [hsends] at hmem
  rcases List.mem_or_eq_of_mem_set hmem with hold | rfl
  · rw [hbuf]
    exact h count hold
  · cases ha

theorem takesBytes_call {s : WritePath} (h : TakesBytes s) : TakesBytes s.call := by
  intro count hmem
  rcases List.mem_append.mp hmem with hold | hnew
  · exact h count hold
  · cases List.mem_singleton.mp hnew

theorem sendLock_takesBytes (bulkOutSize : Int) {s : WritePath} (h : s.Inv) (ht : TakesBytes s)
    (i : Nat) : TakesBytes (movedTo i (sendLock bulkOutSize s)) := by
  by_cases huse : s.port.writeUrbInUse = true
  · rw [sendLock, if_pos huse]
    exact takesBytes_set ht rfl rfl rfl
  · rw [sendLock, if_neg huse]
    obtain ⟨-, -, hnone⟩ := h.idle (by simpa using huse)
    by_cases hempty : (mxu1BufGet s.port.writeBuf bulkOutSize).2.length = 0
    · simp only [if_pos hempty]
      exact takesBytes_set ht rfl rfl rfl
    · simp only [if_neg hempty]
      intro count hmem
      -- no other call has the URB
      rcases List.mem_or_eq_of_mem_set hmem with hc | hc
      · exact absurd hc (no_submit_of_countP hnone count)
      · cases hc
        show List.take _ (_ ++ _) ≠ []
        rw [List.take_left]
        exact fun hnil => hempty (by rw [hnil]; rfl)

theorem writerStep_takesBytes {s : WritePath} (ht : TakesBytes s) : TakesBytes (writerStep s) := by
  simp only [writerStep]
  cases s.writer with
  | idle => exact ht
  | space data ret =>
      simp only []
      split
      · exact takesBytes_call ht
      · exact ht
  | copy data ret c => exact ht
  | advance data ret c => exact ht
  | send data ret i =>
      simp only []
      split
      · exact ht
      · exact ht

theorem clearStep_takesBytes {s : WritePath} (ht : TakesBytes s) (i : Nat) :
    TakesBytes (clearStep s i) := by
  simp only [clearStep]
  cases s.completed[i]? with
  | none => exact ht
  | some status =>
      simp only []
      split
      · exact ht
      · exact takesBytes_call ht

theorem submitStep_takesBytes {s : WritePath} (ht : TakesBytes s) (i : Nat) (result : Int) :
    TakesBytes (submitStep s i result) := by
  simp only [submitStep]
  split
  · simp only [sendSubmit]
    split
    · exact takesBytes_set ht rfl rfl rfl
    · exact takesBytes_set ht rfl rfl rfl
  · exact ht

theorem writePathStep_takesBytes {bulkOutSize : Int} {s t : WritePath} (e : WriteEvent)
    (h : s.Inv) (ht : TakesBytes s) (hstep : writePathStep bulkOutSize s e = .ok t) :
    TakesBytes t := by
  cases e with
  | write data =>
      cases hstep
      simp only [writeBegin]
      split
      · exact ht
      · split
        · exact ht
        · exact ht
  | writer =>
      cases hstep
      exact writerStep_takesBytes ht
  | send i =>
      cases hstep
      simp only [sendStep]
      split
      · exact sendLock_takesBytes bulkOutSize h ht i
      · exact takesBytes_set ht rfl rfl rfl
      · exact ht
  | submit i result =>
      cases hstep
      exact submitStep_takesBytes ht i result
  | complete status =>
      cases hstep
      simp only [completeStep]
      split
      · exact ht
      · exact ht
  | clear i =>
      cases hstep
      exact clearStep_takesBytes ht i

/-! ## A failure loses bytes -/

theorem lossless {s : WritePath} (h : s.Inv) (hb : s.Balanced) : Lossless s :=
  ⟨(writeFifo h hb).fifo, (writeFifo h hb).onItsWay⟩

/-- A failed submission is not lossless, whatever comes of the rest. -/
theorem failed_submission_loses {s : WritePath} (h : s.Inv) (hb : s.Balanced) (ht : TakesBytes s)
    {i count : Nat} {result : Int} (hi : s.sends[i]? = some (.submit count)) (hfail : result ≠ 0) :
    ¬ Lossless (submitStep s i result) := by
  intro hl
  obtain ⟨-, -, hone, -⟩ := h.alone hi
  have hbefore := (lossless h hb).onItsWay count (List.mem_of_getElem? hi)
  have hstep : submitStep s i result = movedTo i
      ({ s with port := { s.port with writeUrbInUse := false } }, .returned) := by
    simp only [submitStep, hi, sendSubmit, if_pos hfail]
  have hcount := countP_set_add Send.holds (b := Send.returned) hi
  have hrest : ∀ c, .submit c ∉ (submitStep s i result).sends := by
    have hzero : (s.sends.set i Send.returned).countP Send.holds = 0 := by
      rw [hone] at hcount
      exact Nat.succ.inj hcount
    rw [hstep]
    exact no_submit_of_countP hzero
  have hafter := hl.atRest hrest
  rw [hstep] at hafter
  -- the bytes taken are missing between the two
  have hsame : s.submitted.flatten ++ s.port.writeBuf.bytes =
      s.submitted.flatten ++ s.transferBuffer.take count ++ s.port.writeBuf.bytes :=
    hafter.trans hbefore.symm
  have hlen := congrArg List.length hsame
  simp only [List.length_append] at hlen
  exact ht count (List.mem_of_getElem? hi) (List.length_eq_zero_iff.mp (by omega))

/-! ## Whole runs -/

/-- Every attempt to submit what a call took succeeds. -/
def Submits (s : WritePath) (e : WriteEvent) : Prop := ¬ FailsToSubmit s e

/-- What holds as long as no attempt has failed. -/
structure SubmitInv (s : WritePath) : Prop where
  inv : s.Inv
  balanced : s.Balanced
  takes : TakesBytes s

theorem submitInv_step {bulkOutSize : Int} {s t : WritePath} {e : WriteEvent} (h : SubmitInv s)
    (hok : Submits s e) (hstep : writePathStep bulkOutSize s e = .ok t) : SubmitInv t := by
  refine ⟨writePathStep_inv e h.inv hstep, ?_, writePathStep_takesBytes e h.inv h.takes hstep⟩
  by_cases hsucc : e.Succeeds
  · exact writePathStep_balanced e h.inv h.balanced hsucc hstep
  · -- a result that no call waits for
    cases e with
    | submit i result =>
        cases hstep
        have hnone : ∀ count, s.sends[i]? ≠ some (.submit count) := fun count hi =>
          hok ⟨i, result, count, rfl, hsucc, hi⟩
        simp only [submitStep]
        exact h.balanced
    | write data => exact absurd trivial hsucc
    | writer => exact absurd trivial hsucc
    | send i => exact absurd trivial hsucc
    | complete status => exact absurd trivial hsucc
    | clear i => exact absurd trivial hsucc

theorem lossless_iff_submits (bulkOutSize : Int) {s : WritePath} (hs : SubmitInv s)
    (es : List WriteEvent) :
    Always (writePathStep bulkOutSize) Lossless s es ↔
      Guarded (writePathStep bulkOutSize) Submits s es := by
  refine always_iff_guarded (J := SubmitInv) (fun s h => lossless h.inv h.balanced)
    (fun s e t h hok hstep => submitInv_step h hok hstep) ?_ hs
  intro s e h hfail
  obtain ⟨i, result, count, rfl, hres, hi⟩ := not_not.mp hfail
  exact ⟨_, rfl, failed_submission_loses h.inv h.balanced h.takes hi hres⟩

/-- **A run of the write path** loses nothing, and retries what failed, exactly
if no submission fails in it. -/
theorem write_path_lossless_iff (bulkOutSize : Int) {port : Port} (h : Fresh port)
    (urbError : Bool) (transferBuffer : List Byte) (es : List WriteEvent) :
    let s := WritePath.start port urbError transferBuffer
    Always (writePathStep bulkOutSize) Lossless s es ∧
        EachStep (writePathStep bulkOutSize) Retried s es ↔
      Guarded (writePathStep bulkOutSize) Submits s es := by
  intro s
  have hs : SubmitInv s :=
    ⟨h.inv urbError transferBuffer, h.balanced urbError transferBuffer, nofun⟩
  constructor
  · rintro ⟨hl, -⟩
    exact (lossless_iff_submits bulkOutSize hs es).mp hl
  · intro hg
    refine ⟨(lossless_iff_submits bulkOutSize hs es).mpr hg, ?_⟩
    intro pre e hpre t hrun u _ hfails
    exact absurd hfails (hg pre e hpre t hrun)

theorem openPort_fresh : Fresh (openPort (startupPort .model1150 fun _ => 0) tty9600) :=
  ⟨mxu1BufAlloc_ok _, mxu1BufAlloc_bytes _, rfl⟩

/-- A byte is written to an opened port, and its submission fails. -/
theorem write_path_lossless_iff_one_byte :
    let s := WritePath.start (openPort (startupPort .model1150 fun _ => 0) tty9600) false []
    let es := [.write [0x41], .writer, .writer, .writer, .writer, .send 0, .submit 0 (-12)]
    Always (writePathStep 64) Lossless s es ∧ EachStep (writePathStep 64) Retried s es ↔
      Guarded (writePathStep 64) Submits s es :=
  write_path_lossless_iff 64 openPort_fresh false [] _

/-- 65 bytes are written, and the submission of the first 64 fails: they are
lost, and the last one stays in the buffer with nobody to send it. -/
theorem failed_submission_of_64_bytes :
    ∃ s t, run (writePathStep 64)
        (WritePath.start (openPort (startupPort .model1150 fun _ => 0) tty9600) false [])
        [.write (List.replicate 65 0x41), .writer, .writer, .writer, .writer, .send 0] = .ok s ∧
      writePathStep 64 s (.submit 0 (-12)) = .ok t ∧ FailsToSubmit s (.submit 0 (-12)) ∧
      ¬ Lossless t ∧ ¬ Retried s (.submit 0 (-12)) t := by
  refine ⟨_, _, rfl, rfl, ⟨0, -12, 64, rfl, by decide, rfl⟩, ?_, ?_⟩
  · intro h
    have hrest := h.atRest (by rintro count hc; cases List.mem_singleton.mp hc)
    exact absurd (congrArg List.length hrest) (by decide)
  · intro h
    rcases h ⟨0, -12, 64, rfl, by decide, rfl⟩ rfl (by decide) with hlock | hwriter
    · cases List.mem_singleton.mp hlock
    · exact hwriter

end MoxaDrivers.Mxu11x0

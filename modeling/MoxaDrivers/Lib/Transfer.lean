import Mathlib.Data.List.Basic

/-!
# Sending a list piece by piece

The sender offers what is left of the list, `limit` items at most at a time. The
other side answers with a status and with how many of them it has taken; the
sender goes on behind these, and stops at a status that is not 0.
-/

namespace MoxaDrivers.Transfer

variable {α : Type*}

structure Reply where
  status : Int
  taken : Nat
  deriving DecidableEq, Repr

structure Message (α : Type*) where
  offered : List α
  reply : Reply
  deriving DecidableEq, Repr

/-- What has got through of a message. -/
def Message.transferred (m : Message α) : List α := m.offered.take m.reply.taken

/-- The messages of a sender, and the status that it ends with. -/
structure Result (α : Type*) where
  messages : List (Message α)
  status : Int
  deriving DecidableEq, Repr

/-- Message `n`, at position `pos`; `reply` answers for the number and the length
of a message. -/
def message (limit : Nat) (xs : List α) (reply : Nat → Nat → Reply) (n pos : Nat) : Message α :=
  let len := min (xs.length - pos) limit
  ⟨(xs.drop pos).take len, reply n len⟩

/-- The sender from message `n` and position `pos` on. Without fuel there is no
result. -/
def sendFrom (limit : Nat) (xs : List α) (reply : Nat → Nat → Reply) :
    Nat → Nat → Nat → Option (Result α)
  | 0, _, _ => none
  | fuel + 1, n, pos =>
      if pos < xs.length then
        let m := message limit xs reply n pos
        if m.reply.status ≠ 0 then some ⟨[m], m.reply.status⟩
        else (sendFrom limit xs reply fuel (n + 1) (pos + m.reply.taken)).map fun r =>
          ⟨m :: r.messages, r.status⟩
      else some ⟨[], 0⟩

/-- With a status of 0 something has been taken, and no more than was offered. -/
def Honest (reply : Nat → Nat → Reply) : Prop :=
  ∀ n len, 0 < len → (reply n len).status = 0 →
    1 ≤ (reply n len).taken ∧ (reply n len).taken ≤ len

/-- All has got through, once and in order, or the last message has failed. -/
structure Delivers (xs : List α) (r : Result α) : Prop where
  all : r.status = 0 → r.messages.flatMap Message.transferred = xs
  stops : ∀ pre m post, r.messages = pre ++ m :: post → m.reply.status ≠ 0 →
    post = [] ∧ r.status = m.reply.status

/-- A sender that no message has failed succeeds. -/
def Completes (r : Result α) : Prop :=
  (∀ m ∈ r.messages, m.reply.status = 0) → r.status = 0

theorem no_message_of_nil {pre post : List (Message α)} {m : Message α} :
    [] ≠ pre ++ m :: post :=
  (List.append_ne_nil_of_right_ne_nil pre (List.cons_ne_nil m post)).symm

theorem delivers_nil : Delivers ([] : List α) ⟨[], 0⟩ :=
  ⟨fun _ => rfl, fun _ _ _ h => absurd h no_message_of_nil⟩

/-- A sender that fails before its first message. -/
theorem delivers_unsent (xs : List α) {status : Int} (h : status ≠ 0) :
    Delivers xs ⟨[], status⟩ :=
  ⟨fun hzero => absurd hzero h, fun _ _ _ hnil => absurd hnil no_message_of_nil⟩

/-- A message that fails is the last one. -/
theorem delivers_failed (xs : List α) {m : Message α} (h : m.reply.status ≠ 0) :
    Delivers xs ⟨[m], m.reply.status⟩ := by
  refine ⟨fun hzero => absurd hzero h, fun pre m' post heq _ => ?_⟩
  cases pre with
  | nil =>
      obtain ⟨rfl, rfl⟩ := List.cons.inj heq
      exact ⟨rfl, rfl⟩
  | cons a pre => exact absurd (List.cons.inj heq).2 no_message_of_nil

/-- **One message**: what follows it delivers the rest. -/
theorem Delivers.cons {m : Message α} {xs : List α} {r : Result α} (h : Delivers xs r)
    (hm : m.reply.status = 0) : Delivers (m.transferred ++ xs) ⟨m :: r.messages, r.status⟩ := by
  refine ⟨fun hzero => ?_, fun pre m' post heq hfail => ?_⟩
  · rw [List.flatMap_cons, h.all hzero]
  · cases pre with
    | nil =>
        obtain ⟨rfl, -⟩ := List.cons.inj heq
        exact absurd hm hfail
    | cons a pre => exact h.stops pre m' post (List.cons.inj heq).2 hfail

theorem completes_failed {m : Message α} (h : m.reply.status ≠ 0) :
    Completes ⟨[m], m.reply.status⟩ :=
  fun hall => absurd (hall m (List.mem_singleton_self m)) h

theorem Completes.cons {m : Message α} {r : Result α} (h : Completes r) :
    Completes ⟨m :: r.messages, r.status⟩ :=
  fun hall => h fun m' hm' => hall m' (List.mem_cons_of_mem m hm')

section
variable {limit : Nat} {xs : List α} {reply : Nat → Nat → Reply} {fuel n pos : Nat}

theorem sendFrom_done (h : ¬ pos < xs.length) :
    sendFrom limit xs reply (fuel + 1) n pos = some ⟨[], 0⟩ :=
  if_neg h

theorem sendFrom_failed (h : pos < xs.length)
    (hfail : (message limit xs reply n pos).reply.status ≠ 0) :
    sendFrom limit xs reply (fuel + 1) n pos =
      some ⟨[message limit xs reply n pos], (message limit xs reply n pos).reply.status⟩ :=
  (if_pos h).trans (if_pos hfail)

theorem sendFrom_taken (h : pos < xs.length)
    (hok : (message limit xs reply n pos).reply.status = 0) {r : Result α}
    (hrest : sendFrom limit xs reply fuel (n + 1)
      (pos + (message limit xs reply n pos).reply.taken) = some r) :
    sendFrom limit xs reply (fuel + 1) n pos =
      some ⟨message limit xs reply n pos :: r.messages, r.status⟩ := by
  rw [sendFrom, if_pos h]
  simp only [hok, hrest, ne_eq, not_true_eq_false, if_false]
  rfl

/-- What is taken of a message and what is left make up what there was. -/
theorem transferred_append (h : (message limit xs reply n pos).reply.taken ≤
      min (xs.length - pos) limit) :
    (message limit xs reply n pos).transferred ++
        xs.drop (pos + (message limit xs reply n pos).reply.taken) = xs.drop pos := by
  have htransferred : (message limit xs reply n pos).transferred =
      (xs.drop pos).take (message limit xs reply n pos).reply.taken := by
    show ((xs.drop pos).take _).take _ = _
    rw [List.take_take, Nat.min_eq_left h]
  rw [htransferred, ← List.drop_drop, List.take_append_drop]

end

/-- **The whole transfer** ends if the other side is honest, whatever it takes of
each message, and succeeds unless a message fails. -/
theorem sendFrom_delivers {limit : Nat} (hlimit : 0 < limit) (xs : List α)
    {reply : Nat → Nat → Reply} (h : Honest reply) :
    ∀ (fuel n pos : Nat), xs.length - pos < fuel →
      ∃ r, sendFrom limit xs reply fuel n pos = some r ∧ Delivers (xs.drop pos) r ∧
        Completes r := by
  intro fuel
  induction fuel with
  | zero =>
      intro n pos hfuel
      exact absurd hfuel (Nat.not_lt_zero _)
  | succ fuel ih =>
      intro n pos hfuel
      by_cases hpos : pos < xs.length
      · by_cases hstatus : (message limit xs reply n pos).reply.status = 0
        · obtain ⟨hone, hlen⟩ := h n (min (xs.length - pos) limit) (by omega) hstatus
          have hsome : 1 ≤ (message limit xs reply n pos).reply.taken := hone
          obtain ⟨r, hr, hdelivers, hcompletes⟩ :=
            ih (n + 1) (pos + (message limit xs reply n pos).reply.taken) (by omega)
          refine ⟨_, sendFrom_taken hpos hstatus hr, ?_, hcompletes.cons⟩
          have hcons := hdelivers.cons hstatus
          rw [transferred_append hlen] at hcons
          exact hcons
        · exact ⟨_, sendFrom_failed hpos hstatus, delivers_failed _ hstatus,
            completes_failed hstatus⟩
      · refine ⟨⟨[], 0⟩, sendFrom_done hpos, ?_, fun _ => rfl⟩
        rw [List.drop_eq_nil_of_le (by omega)]
        exact delivers_nil

end MoxaDrivers.Transfer

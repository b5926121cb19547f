import Mathlib.Data.List.TakeWhile
import Mathlib.Tactic.Common

/-!
# Lines, pieces and words

A text is read a line at a time into a buffer of a fixed size, so that a line that
does not fit comes in pieces, and a piece is taken apart into words.

* `lines` and `pieces` are what the text has and what the reads find, and
  `pieces_eq_flatMap` says that the pieces are those of the lines;
* `blocks` are the pieces of a text that has no lines;
* `word` is the first word of a text, with the text after it. A word with something
  behind it is not changed by more text (`word_append_of_rest`), any other may only
  grow (`word_append`).
-/

namespace MoxaDrivers.Text

variable {α : Type*}

/-! ## Lines and pieces -/

/-- One more character in front of the first of some texts. -/
def prepend (c : α) : List (List α) → List (List α)
  | [] => [[c]]
  | t :: ts => (c :: t) :: ts

/-- The lines, each with the character that ends it. -/
def lines (ends : α → Bool) : List α → List (List α)
  | [] => []
  | c :: text => if ends c then [c] :: lines ends text else prepend c (lines ends text)

/-- What is found by reads of up to `size` characters that do not go beyond a line.
The first has `room` left. -/
def pieces (ends : α → Bool) (size : Nat) : Nat → List α → List (List α)
  | _, [] => []
  | room, c :: text =>
      if ends c ∨ room ≤ 1 then [c] :: pieces ends size size text
      else prepend c (pieces ends size (room - 1) text)

section Pieces

variable {ends : α → Bool} {size : Nat}

theorem prepend_ne_nil (c : α) (ts : List (List α)) : prepend c ts ≠ [] := by
  cases ts with
  | nil => exact List.cons_ne_nil _ _
  | cons t ts => exact List.cons_ne_nil _ _

theorem prepend_append (c : α) {ts : List (List α)} (h : ts ≠ []) (us : List (List α)) :
    prepend c (ts ++ us) = prepend c ts ++ us := by
  cases ts with
  | nil => exact absurd rfl h
  | cons t ts => rfl

theorem flatten_prepend (c : α) (ts : List (List α)) :
    (prepend c ts).flatten = c :: ts.flatten := by
  cases ts with
  | nil => rfl
  | cons t ts => rfl

theorem mem_lines_ne_nil {text line : List α} (h : line ∈ lines ends text) : line ≠ [] := by
  induction text generalizing line with
  | nil => cases h
  | cons c text ih =>
      rw [lines] at h
      split at h
      · cases h with
        | head => exact List.cons_ne_nil _ _
        | tail _ h => exact ih h
      · cases hlines : lines ends text with
        | nil =>
            rw [hlines, prepend, List.mem_singleton] at h
            rw [h]
            exact List.cons_ne_nil _ _
        | cons first rest =>
            rw [hlines] at h
            cases h with
            | head => exact List.cons_ne_nil _ _
            | tail _ h => exact ih (hlines ▸ List.mem_cons_of_mem _ h)

theorem pieces_ne_nil {text : List α} (h : text ≠ []) (room : Nat) :
    pieces ends size room text ≠ [] := by
  cases text with
  | nil => exact absurd rfl h
  | cons c text =>
      rw [pieces]
      split
      · exact List.cons_ne_nil _ _
      · exact prepend_ne_nil _ _

theorem flatten_pieces (text : List α) (room : Nat) :
    (pieces ends size room text).flatten = text := by
  induction text generalizing room with
  | nil => rfl
  | cons c text ih =>
      rw [pieces]
      split
      · rw [List.flatten_cons, ih]
        rfl
      · rw [flatten_prepend, ih]

/-- Only the first piece depends on the room. -/
theorem pieces_eq_of_lines (text : List α) (room : Nat) :
    pieces ends size room text =
      match lines ends text with
      | [] => []
      | line :: rest => pieces ends size room line ++ rest.flatMap (pieces ends size size) := by
  induction text generalizing room with
  | nil => rfl
  | cons c text ih =>
      have hrest : pieces ends size size text =
          (lines ends text).flatMap (pieces ends size size) := by
        rw [ih size]
        cases lines ends text with
        | nil => rfl
        | cons line rest => rw [List.flatMap_cons]
      rw [lines]
      by_cases hc : ends c = true
      · rw [if_pos hc, pieces, if_pos (.inl hc), hrest]
        simp [pieces, hc]
      · rw [if_neg hc]
        cases hlines : lines ends text with
        | nil =>
            have hpieces (room : Nat) : pieces ends size room text = [] := by
              rw [ih room, hlines]
            simp [pieces, hpieces, prepend]
        | cons line rest =>
            have hline : line ≠ [] := mem_lines_ne_nil (hlines ▸ List.mem_cons_self)
            simp only [prepend, pieces]
            by_cases hroom : room ≤ 1
            · rw [if_pos (.inr hroom), if_pos (.inr hroom), hrest, hlines, List.flatMap_cons]
              rfl
            · have hno : ¬ (ends c = true ∨ room ≤ 1) := by simp [hc, hroom]
              rw [if_neg hno, if_neg hno, ih (room - 1), hlines]
              exact prepend_append c (pieces_ne_nil hline _) _

/-- **The pieces** of a text are those of its lines. -/
theorem pieces_eq_flatMap (text : List α) :
    pieces ends size size text = (lines ends text).flatMap (pieces ends size size) := by
  rw [pieces_eq_of_lines]
  cases lines ends text with
  | nil => rfl
  | cons line rest => rw [List.flatMap_cons]

theorem prepend_cons (c : α) (t : List α) (ts : List (List α)) :
    prepend c (t :: ts) = (c :: t) :: ts := rfl

end Pieces

/-! ## Blocks -/

/-- The text cut into blocks of `size`, the last of which may be shorter. -/
def blocks (size : Nat) (text : List α) : List (List α) := pieces (fun _ => false) size size text

section Blocks

variable {size : Nat}

theorem pieces_append_of_full {room : Nat} {block : List α} (h : block.length = room)
    (hne : block ≠ []) (text : List α) :
    pieces (fun _ => false) size room (block ++ text) = block :: blocks size text := by
  induction block generalizing room with
  | nil => exact absurd rfl hne
  | cons c block ih =>
      rw [List.length_cons] at h
      rw [List.cons_append, pieces]
      cases block with
      | nil =>
          rw [List.length_nil] at h
          rw [if_pos (.inr (by omega))]
          rfl
      | cons c' block =>
          rw [List.length_cons] at h
          have hmore : ¬ (false = true ∨ room ≤ 1) := by
            simp
            omega
          rw [if_neg hmore, ih (by rw [List.length_cons]; omega) (List.cons_ne_nil _ _),
            prepend_cons]

theorem pieces_of_short {room : Nat} {block : List α} (h : block.length ≤ room)
    (hne : block ≠ []) : pieces (fun _ => false) size room block = [block] := by
  induction block generalizing room with
  | nil => exact absurd rfl hne
  | cons c block ih =>
      rw [pieces]
      cases block with
      | nil =>
          split
          · rfl
          · rfl
      | cons c' block =>
          rw [List.length_cons, List.length_cons] at h
          have hmore : ¬ (false = true ∨ room ≤ 1) := by
            simp
            omega
          rw [if_neg hmore, ih (by rw [List.length_cons]; omega) (List.cons_ne_nil _ _),
            prepend_cons]

/-- Full blocks and what comes after them. -/
theorem blocks_flatten_append {bs : List (List α)} (hpos : 0 < size)
    (h : ∀ b ∈ bs, b.length = size) (text : List α) :
    blocks size (bs.flatten ++ text) = bs ++ blocks size text := by
  induction bs with
  | nil => rfl
  | cons b bs ih =>
      obtain ⟨hb, hbs⟩ := List.forall_mem_cons.mp h
      have hne : b ≠ [] := List.length_pos_iff.mp (by omega)
      rw [List.flatten_cons, List.append_assoc, blocks, pieces_append_of_full hb hne, ih hbs,
        List.cons_append]

end Blocks

/-! ## Words -/

/-- The first word of a text, and what comes after it. -/
def word (delim : α → Bool) (text : List α) : Option (List α × List α) :=
  match text.dropWhile delim with
  | [] => none
  | c :: rest =>
      some ((c :: rest).takeWhile (fun c => !delim c), (c :: rest).dropWhile (fun c => !delim c))

section Word

variable {delim : α → Bool}

/-- A text with a first word, taken apart. -/
structure IsWord (delim : α → Bool) (text w rest : List α) : Prop where
  split : ∃ pre, text = pre ++ w ++ rest ∧ ∀ c ∈ pre, delim c = true
  ne_nil : w ≠ []
  not_delim : ∀ c ∈ w, delim c = false
  ended : ∀ c ∈ rest.head?, delim c = true

theorem head_dropWhile_not (text : List α) :
    ∀ c ∈ (text.dropWhile fun c => !delim c).head?, delim c = true := by
  intro c hc
  have hhead := List.head?_dropWhile_not (fun c => !delim c) text
  rw [hc] at hhead
  simpa using hhead

theorem word_eq_some_iff {text w rest : List α} :
    word delim text = some (w, rest) ↔ IsWord delim text w rest := by
  constructor
  · intro h
    rw [word] at h
    split at h
    · cases h
    · next c text' hdrop =>
        have hc : delim c = false := by
          have hhead := List.head?_dropWhile_not delim text
          rw [hdrop] at hhead
          exact hhead
        cases h
        refine ⟨⟨text.takeWhile delim, ?_, fun _ => List.mem_takeWhile_imp⟩, ?_, ?_, ?_⟩
        · rw [List.append_assoc, List.takeWhile_append_dropWhile, ← hdrop,
            List.takeWhile_append_dropWhile]
        · simp [hc]
        · intro d hd
          simpa using List.mem_takeWhile_imp hd
        · exact head_dropWhile_not (c :: text')
  · rintro ⟨⟨pre, rfl, hpre⟩, hne, hword, hended⟩
    cases w with
    | nil => exact absurd rfl hne
    | cons c w =>
        have hdrop : (pre ++ (c :: w) ++ rest).dropWhile delim = c :: w ++ rest := by
          rw [List.append_assoc, List.dropWhile_append_of_pos hpre]
          simp [hword c List.mem_cons_self]
        have hnot : ∀ d ∈ c :: w, (!delim d) = true := by
          intro d hd
          rw [hword d hd]
          rfl
        rw [word, hdrop]
        show some ((c :: w ++ rest).takeWhile _, (c :: w ++ rest).dropWhile _) = _
        rw [List.takeWhile_append_of_pos hnot, List.dropWhile_append_of_pos hnot]
        cases rest with
        | nil => simp
        | cons d rest => simp [hended d rfl]

theorem word_append_of_rest {a w rest : List α} (h : word delim a = some (w, rest))
    (hrest : rest ≠ []) (b : List α) : word delim (a ++ b) = some (w, rest ++ b) := by
  obtain ⟨⟨pre, hsplit, hpre⟩, hne, hword, hended⟩ := word_eq_some_iff.mp h
  refine word_eq_some_iff.mpr ⟨⟨pre, ?_, hpre⟩, hne, hword, ?_⟩
  · rw [hsplit, List.append_assoc]
  · cases rest with
    | nil => exact absurd rfl hrest
    | cons d rest => exact hended

/-- A word at the end of a text grows by what comes next. -/
theorem word_append {a w rest : List α} (h : word delim a = some (w, rest)) (b : List α) :
    ∃ more rest', word delim (a ++ b) = some (w ++ more, rest') ∧
      (more = [] ∨ more = b.takeWhile fun c => !delim c) := by
  by_cases hrest : rest = []
  · obtain ⟨⟨pre, hsplit, hpre⟩, hne, hword, -⟩ := word_eq_some_iff.mp h
    refine ⟨b.takeWhile fun c => !delim c, b.dropWhile fun c => !delim c,
      word_eq_some_iff.mpr ⟨⟨pre, ?_, hpre⟩, ?_, ?_, ?_⟩, .inr rfl⟩
    · rw [hsplit, hrest, List.append_nil]
      simp
    · simp [hne]
    · intro c hc
      rw [List.mem_append] at hc
      rcases hc with hc | hc
      · exact hword c hc
      · simpa using List.mem_takeWhile_imp hc
    · exact head_dropWhile_not b
  · exact ⟨[], rest ++ b, by rw [List.append_nil, word_append_of_rest h hrest], .inl rfl⟩

end Word

end MoxaDrivers.Text

import MoxaDrivers.Lib.Machine
import MoxaDrivers.Lib.Text
import MoxaDrivers.Mxhtspd.Daemon
import Mathlib.Data.List.Chain
import Mathlib.Data.List.Nodup

/-!
# The configuration file of the hotswap daemon

`read_conf` reads the file a buffer at a time, and takes what is in the buffer for
a line; `clist_check_insert` compares a new mount point with those in the list,
the last one excepted. Numbers that do not fit an `int` are undefined for `sscanf`
and `atoi`: a file with one is not read.
-/

namespace MoxaDrivers.Mxhtspd

open MoxaDrivers.Machine MoxaDrivers.Text

/-- `BUFSIZ`. -/
def bufsiz : Nat := 8192

def isNewline (c : Char) : Bool := decide (c = '\n')

/-- `delim`. -/
def isDelim (c : Char) : Bool := decide (c = ' ') || decide (c = '\n')

def nul : Char := Char.ofNat 0

/-- What a buffer holds for the string functions. -/
def cstr (buf : List Char) : List Char := buf.takeWhile fun c => decide (c ≠ nul)

def atoi (token : List Char) : Int := ((scanInt token).map Prod.fst).getD 0

/-- A value of an `int`. -/
def IsInt (i : Int) : Prop := -2147483648 ≤ i ∧ i < 2147483648

instance (i : Int) : Decidable (IsInt i) := inferInstanceAs (Decidable (_ ∧ _))

/-- How `read_conf` ends otherwise: with `exit`, with −1, or in a conversion of a
number that is no `int`. -/
inductive ConfFail where
  | exit
  | parse
  | undefined
  deriving DecidableEq, Repr

/-- `none` for a repeated mount point. -/
def clistCheckInsert : List Clist → Clist → Option (List Clist)
  | [], new => some [new]
  | [c], new => some [c, new]
  | c :: c' :: cl, new =>
      if c.mpoint = new.mpoint then none
      else (clistCheckInsert (c' :: cl) new).map (c :: ·)

/-- The usage limit of a mount point. -/
def readPercent (mpoint rest : List Char) {n m : Int} (scanned : scanMpoint mpoint = some (n, m))
    (disk : n = 1 ∨ n = 2) (part : 0 ≤ m) : Except ConfFail (Option Clist) :=
  match word isDelim rest with
  | none => .error .parse
  | some (token, _) =>
      let percent := atoi token
      if IsInt percent then
        if limit : 0 ≤ percent ∧ percent ≤ 100 then
          .ok (some ⟨mpoint, percent, n, m, scanned, disk, part, limit⟩)
        else .error .exit
      else .error .undefined

/-- What is in the buffer: a comment, or an entry. -/
def readEntry (buf : List Char) : Except ConfFail (Option Clist) :=
  match word isDelim (cstr buf) with
  | none => .error .parse
  | some (mpoint, rest) =>
      if mpoint.head? = some '#' then .ok none
      else
        match scanned : scanMpoint mpoint with
        | none => .error .exit
        | some (n, m) =>
            if IsInt n ∧ IsInt m then
              if h : (n = 1 ∨ n = 2) ∧ 0 ≤ m then readPercent mpoint rest scanned h.1 h.2
              else .error .exit
            else .error .undefined

/-- One turn of the loop. -/
def readBuffer (cl : List Clist) (buf : List Char) : Except ConfFail (List Clist) :=
  match readEntry buf with
  | .error e => .error e
  | .ok none => .ok cl
  | .ok (some new) =>
      match clistCheckInsert cl new with
      | none => .error .exit
      | some cl => .ok cl

/-- The contents of the buffer in the loop: `fgets` leaves room for a NUL. -/
def buffers (text : List Char) : List (List Char) :=
  pieces isNewline (bufsiz - 1) (bufsiz - 1) text

def readConf (text : List Char) : Except ConfFail (List Clist) := run readBuffer [] (buffers text)

/-! ## What a file says -/

def mpointOf (line : List Char) : Option (List Char) := (word isDelim line).map Prod.fst

def limitOf (line : List Char) : Option Int := do
  let (_, rest) ← word isDelim line
  let (token, _) ← word isDelim rest
  return atoi token

def isComment (line : List Char) : Bool := decide ((mpointOf line).bind List.head? = some '#')

/-- The lines that are no comments. -/
def noted (text : List Char) : List (List Char) :=
  (lines isNewline text).filter fun line => !isComment line

/-- The list is what the file says, and is fit for the daemon. -/
structure ReadExactly (text : List Char) (cl : List Clist) : Prop where
  entries : cl.map (fun c => (some c.mpoint, some c.percent)) =
    (noted text).map fun line => (mpointOf line, limitOf line)
  disk : ∀ c ∈ cl, ∃ n m, scanMpoint c.mpoint = some (n, m) ∧ (n = 1 ∨ n = 2)
  limit : ∀ c ∈ cl, 0 ≤ c.percent ∧ c.percent ≤ 100
  distinct : (cl.map Clist.mpoint).Nodup

/-- Where a line does not fit the buffer, what comes next reads as comments, and no
mount point is that of the entry right before it. -/
structure ReadsWell (text : List Char) : Prop where
  fits : ∀ line ∈ lines isNewline text, ∀ buf ∈ (buffers line).tail, isComment (cstr buf) = true
  repeats : ((noted text).map mpointOf).IsChain (· ≠ ·)

/-! ## The list -/

theorem clistCheckInsert_eq_some {cl cl' : List Clist} {new : Clist}
    (h : clistCheckInsert cl new = some cl') :
    cl' = cl ++ [new] ∧ ∀ c ∈ cl.dropLast, c.mpoint ≠ new.mpoint := by
  induction cl generalizing cl' with
  | nil =>
      cases h
      exact ⟨rfl, by simp⟩
  | cons c cl ih =>
      cases cl with
      | nil =>
          cases h
          exact ⟨rfl, by simp⟩
      | cons c' cl =>
          rw [clistCheckInsert] at h
          split at h
          · cases h
          · next hne =>
              rw [Option.map_eq_some_iff] at h
              obtain ⟨rest, hrest, rfl⟩ := h
              obtain ⟨rfl, hothers⟩ := ih hrest
              refine ⟨rfl, ?_⟩
              rw [List.dropLast_cons_cons, List.forall_mem_cons]
              exact ⟨hne, hothers⟩

/-- Only the last entry may come twice in a row. -/
def RepeatsLast (cl : List Clist) : Prop :=
  (cl.map Clist.mpoint).Nodup ↔ (cl.map Clist.mpoint).IsChain (· ≠ ·)

theorem repeatsLast_concat {cl : List Clist} {new : Clist} (h : RepeatsLast cl)
    (hnew : ∀ c ∈ cl.dropLast, c.mpoint ≠ new.mpoint) : RepeatsLast (cl ++ [new]) := by
  rw [RepeatsLast] at h ⊢
  rw [List.map_append, List.map_singleton, List.isChain_append, ← h]
  cases cl using List.reverseRecOn with
  | nil => simp
  | append_singleton cl c =>
      rw [List.dropLast_concat] at hnew
      have hnotin : new.mpoint ∉ cl.map Clist.mpoint := by
        rw [List.mem_map]
        rintro ⟨d, hd, heq⟩
        exact hnew d hd heq
      rw [List.nodup_append]
      simp only [List.map_append, List.map_singleton, List.getLast?_concat, List.mem_append,
        List.mem_singleton, Option.mem_some_iff, List.head?_cons, List.isChain_singleton,
        List.nodup_singleton, true_and]
      constructor
      · rintro ⟨hnodup, hdisj⟩
        refine ⟨hnodup, ?_⟩
        rintro _ rfl _ rfl
        exact hdisj _ (.inr rfl) _ rfl
      · rintro ⟨hnodup, hlast⟩
        refine ⟨hnodup, ?_⟩
        rintro a (ha | rfl) _ rfl
        · exact fun heq => hnotin (heq ▸ ha)
        · exact hlast _ rfl _ rfl

/-! ## The loop -/

/-- The entry in a buffer, if there is one. -/
def entryOf (buf : List Char) : Option Clist :=
  match readEntry buf with
  | .ok entry => entry
  | .error _ => none

theorem readBuffer_ok {cl cl' : List Clist} {buf : List Char} (h : readBuffer cl buf = .ok cl') :
    readEntry buf = .ok (entryOf buf) ∧ cl' = cl ++ (entryOf buf).toList ∧
      ∀ new ∈ entryOf buf, ∀ c ∈ cl.dropLast, c.mpoint ≠ new.mpoint := by
  rw [readBuffer] at h
  split at h
  · cases h
  · next hentry =>
      cases h
      rw [entryOf, hentry]
      exact ⟨rfl, by simp, by simp⟩
  · next new hentry =>
      rw [entryOf, hentry]
      split at h
      · cases h
      · next hinsert =>
          cases h
          obtain ⟨hcl, hothers⟩ := clistCheckInsert_eq_some hinsert
          refine ⟨rfl, hcl, ?_⟩
          intro new' hnew
          cases hnew
          exact hothers

theorem run_readBuffer {bufs : List (List Char)} {cl cl' : List Clist}
    (h : run readBuffer cl bufs = .ok cl') :
    cl' = cl ++ bufs.filterMap entryOf ∧ ∀ buf ∈ bufs, readEntry buf = .ok (entryOf buf) := by
  induction bufs generalizing cl with
  | nil =>
      cases h
      exact ⟨by simp, by simp⟩
  | cons buf bufs ih =>
      obtain ⟨mid, hmid, hrest⟩ := run_cons_ok.mp h
      obtain ⟨hentry, rfl, -⟩ := readBuffer_ok hmid
      obtain ⟨hcl, hothers⟩ := ih hrest
      constructor
      · rw [hcl, List.append_assoc]
        cases hbuf : entryOf buf with
        | none => simp [hbuf]
        | some new => simp [hbuf]
      · rw [List.forall_mem_cons]
        exact ⟨hentry, hothers⟩

theorem readConf_repeatsLast {text : List Char} {cl : List Clist} (h : readConf text = .ok cl) :
    RepeatsLast cl := by
  refine run_invariant (I := RepeatsLast) (fun cl buf cl' hcl hstep => ?_) (by simp [RepeatsLast]) h
  obtain ⟨-, rfl, hothers⟩ := readBuffer_ok hstep
  cases hbuf : entryOf buf with
  | none => simpa using hcl
  | some new => exact repeatsLast_concat hcl (hothers new hbuf)

/-! ## A buffer and its line -/

theorem readPercent_ok {mpoint rest : List Char} {n m : Int}
    {scanned : scanMpoint mpoint = some (n, m)} {disk : n = 1 ∨ n = 2} {part : 0 ≤ m}
    {entry : Option Clist} (h : readPercent mpoint rest scanned disk part = .ok entry) :
    ∃ c token rest', entry = some c ∧ c.mpoint = mpoint ∧
      word isDelim rest = some (token, rest') ∧ c.percent = atoi token := by
  rw [readPercent] at h
  split at h
  · cases h
  · next token rest' hword =>
      simp only at h
      split at h
      · split at h
        · cases h
          exact ⟨_, token, rest', rfl, rfl, hword, rfl⟩
        · cases h
      · cases h

/-- What is known of a buffer that is not refused. -/
inductive Entry (buf : List Char) : Option Clist → Prop where
  | comment {w rest : List Char} (h : word isDelim (cstr buf) = some (w, rest))
      (hcomment : w.head? = some '#') : Entry buf none
  | entry {c : Clist} {rest token rest' : List Char}
      (h : word isDelim (cstr buf) = some (c.mpoint, rest)) (hnot : c.mpoint.head? ≠ some '#')
      (hpercent : word isDelim rest = some (token, rest')) (heq : c.percent = atoi token) :
      Entry buf (some c)

theorem readEntry_ok {buf : List Char} {entry : Option Clist} (h : readEntry buf = .ok entry) :
    Entry buf entry := by
  rw [readEntry] at h
  split at h
  · cases h
  · next mpoint rest hword =>
      split at h
      · next hcomment =>
          cases h
          exact .comment hword hcomment
      · next hnot =>
          split at h
          · cases h
          · split at h
            · split at h
              · obtain ⟨c, token, rest', rfl, rfl, hpercent, heq⟩ := readPercent_ok h
                exact .entry hword hnot hpercent heq
              · cases h
            · cases h

/-- A character that ends a number, or is behind the end of the string. -/
def Inert (c : Char) : Prop := isSpace c = false ∧ c.isDigit = false ∧ c ≠ '-' ∧ c ≠ '+'

def signOf : List Char → Bool × List Char
  | '-' :: rest => (true, rest)
  | '+' :: rest => (false, rest)
  | rest => (false, rest)

/-- The number that some digits are. -/
def numberOf (negative : Bool) (digits : List Char) : Option Int :=
  let value : Int := digits.foldl (fun value c => value * 10 + (c.toNat - '0'.toNat : Nat)) 0
  if digits = [] then none else some (if negative then -value else value)

theorem scanInt_fst (text : List Char) :
    (scanInt text).map Prod.fst =
      numberOf (signOf (text.dropWhile isSpace)).1
        ((signOf (text.dropWhile isSpace)).2.takeWhile Char.isDigit) := by
  have hscan : scanInt text =
      if (signOf (text.dropWhile isSpace)).2.takeWhile Char.isDigit = [] then none else _ := rfl
  rw [hscan, numberOf]
  split
  · rfl
  · rfl

theorem signOf_of_ne {c : Char} (hminus : c ≠ '-') (hplus : c ≠ '+') (text : List Char) :
    signOf (c :: text) = (false, c :: text) := by
  rw [signOf]
  · rintro rest ⟨rfl, -⟩
    exact hminus rfl
  · rintro rest ⟨rfl, -⟩
    exact hplus rfl

theorem signOf_append (d : Char) (text more : List Char) :
    signOf (d :: text ++ more) = ((signOf (d :: text)).1, (signOf (d :: text)).2 ++ more) := by
  by_cases hminus : d = '-'
  · subst hminus
    rfl
  · by_cases hplus : d = '+'
    · subst hplus
      rfl
    · rw [List.cons_append, signOf_of_ne hminus hplus, signOf_of_ne hminus hplus]
      rfl

theorem takeWhile_append_of_head {p : Char → Bool} {text more : List Char}
    (h : ∀ c ∈ more.head?, p c = false) : (text ++ more).takeWhile p = text.takeWhile p := by
  have hmore : more.takeWhile p = [] := by
    cases more with
    | nil => rfl
    | cons c more => simp [h c rfl]
  rw [List.takeWhile_append]
  split
  · next hlen =>
      rw [hmore, List.append_nil]
      exact ((List.takeWhile_prefix _).eq_of_length hlen).symm
  · rfl

theorem atoi_append {w more : List Char} (h : ∀ c ∈ more.head?, Inert c) :
    atoi (w ++ more) = atoi w := by
  rw [atoi, atoi, scanInt_fst, scanInt_fst, List.dropWhile_append]
  cases hw : w.dropWhile isSpace with
  | nil =>
      cases more with
      | nil => rfl
      | cons c more =>
          obtain ⟨hspace, hdigit, hminus, hplus⟩ := h c rfl
          simp [hspace, signOf_of_ne hminus hplus, hdigit]
          rfl
  | cons d t =>
      rw [List.isEmpty_cons, if_neg Bool.false_ne_true, signOf_append,
        takeWhile_append_of_head fun c hc => (h c hc).2.1]

theorem isComment_iff {line w rest : List Char} (h : word isDelim line = some (w, rest)) :
    isComment line = true ↔ w.head? = some '#' := by
  simp [isComment, mpointOf, h]

/-- A string that reads as a comment starts with a delimiter or with the sign. -/
theorem head_of_isComment {text : List Char} (h : isComment text = true) :
    ∃ c rest, text = c :: rest ∧ (isDelim c = true ∨ c = '#') := by
  cases hword : word isDelim text with
  | none => simp [isComment, mpointOf, hword] at h
  | some t =>
      obtain ⟨w, rest⟩ := t
      obtain ⟨⟨pre, rfl, hpre⟩, -, -, -⟩ := word_eq_some_iff.mp hword
      have hw := (isComment_iff hword).mp h
      cases pre with
      | cons c pre => exact ⟨c, pre ++ w ++ rest, rfl, .inl (hpre c List.mem_cons_self)⟩
      | nil =>
          cases w with
          | nil => cases hw
          | cons c w =>
              cases hw
              exact ⟨'#', w ++ rest, rfl, .inr rfl⟩

/-- The first buffer of a line and what of the line the string functions do not see
in it. -/
theorem line_eq {line buf : List Char} {bufs : List (List Char)} (h : buffers line = buf :: bufs) :
    line = cstr buf ++ (buf.dropWhile (fun c => decide (c ≠ nul)) ++ bufs.flatten) := by
  have hflat : (buffers line).flatten = line := flatten_pieces line (bufsiz - 1)
  rw [h, List.flatten_cons] at hflat
  rw [← List.append_assoc, cstr, List.takeWhile_append_dropWhile, hflat]

theorem unseen_head {buf : List Char} {bufs : List (List Char)}
    (h : ∀ b ∈ bufs, isComment (cstr b) = true) :
    ∀ c ∈ (buf.dropWhile (fun c => decide (c ≠ nul)) ++ bufs.flatten).head?,
      isDelim c = true ∨ c = '#' ∨ c = nul := by
  intro c hc
  have hhead := List.head?_dropWhile_not (fun c => decide (c ≠ nul)) buf
  cases hrest : buf.dropWhile (fun c => decide (c ≠ nul)) with
  | cons d rest =>
      rw [hrest] at hc hhead
      cases hc
      exact .inr (.inr (by simpa using hhead))
  | nil =>
      rw [hrest, List.nil_append] at hc
      cases bufs with
      | nil => cases hc
      | cons b bufs =>
          obtain ⟨d, rest, hb, hd⟩ := head_of_isComment (h b List.mem_cons_self)
          have hhead : b = d :: (rest ++ b.dropWhile fun c => decide (c ≠ nul)) := by
            rw [← List.cons_append, ← hb, cstr, List.takeWhile_append_dropWhile]
          rw [hhead, List.flatten_cons] at hc
          cases hc
          exact hd.imp_right .inl

theorem isComment_line {line buf : List Char} {bufs : List (List Char)}
    (h : buffers line = buf :: bufs) {entry : Option Clist} (hentry : Entry buf entry) :
    isComment line = true ↔ entry = none := by
  rw [line_eq h]
  cases hentry with
  | @comment w rest hword hcomment =>
      obtain ⟨more, rest', hline, -⟩ := word_append hword _
      rw [isComment_iff hline]
      simp [List.head?_append, hcomment]
  | @entry c rest token rest' hword hnot hpercent heq =>
      obtain ⟨more, rest', hline, -⟩ := word_append hword _
      have hne : c.mpoint ≠ [] := (word_eq_some_iff.mp hword).ne_nil
      rw [isComment_iff hline]
      cases hm : c.mpoint with
      | nil => exact absurd hm hne
      | cons d m =>
          rw [hm] at hnot
          simp only [List.cons_append, List.head?_cons] at hnot ⊢
          exact iff_of_false hnot (by simp)

theorem entry_line {line buf : List Char} {bufs : List (List Char)}
    (h : buffers line = buf :: bufs) (hrest : ∀ b ∈ bufs, isComment (cstr b) = true) {c : Clist}
    (hentry : Entry buf (some c)) :
    mpointOf line = some c.mpoint ∧ limitOf line = some c.percent := by
  cases hentry with
  | @entry _ rest token rest' hword hnot hpercent heq =>
      have hne : rest ≠ [] := by
        rintro rfl
        cases hpercent
      have hline := word_append_of_rest hword hne
        (buf.dropWhile (fun c => decide (c ≠ nul)) ++ bufs.flatten)
      rw [← line_eq h] at hline
      obtain ⟨more, rest'', hlimit, hmore⟩ := word_append hpercent
        (buf.dropWhile (fun c => decide (c ≠ nul)) ++ bufs.flatten)
      have hinert : ∀ c ∈ more.head?, Inert c := by
        rcases hmore with rfl | rfl
        · intro c hc
          cases hc
        · intro c hc
          cases hb : buf.dropWhile (fun c => decide (c ≠ nul)) ++ bufs.flatten with
          | nil =>
              rw [hb] at hc
              cases hc
          | cons d b =>
              have hd : isDelim d = true ∨ d = '#' ∨ d = nul :=
                unseen_head hrest d (Option.mem_def.mpr (congrArg List.head? hb))
              rw [hb, List.takeWhile_cons] at hc
              split at hc
              · next hdelim =>
                  cases hc
                  rcases hd with hd | rfl | rfl
                  · simp [hd] at hdelim
                  · exact ⟨by decide, by decide, by decide, by decide⟩
                  · exact ⟨by decide, by decide, by decide, by decide⟩
              · cases hc
      constructor
      · rw [mpointOf, hline]
        rfl
      · rw [limitOf, hline]
        show (word isDelim (rest ++ _) >>= fun (token, _) => some (atoi token)) = _
        rw [hlimit]
        show some (atoi (token ++ more)) = _
        rw [atoi_append hinert, heq]

/-! ## All lines -/

section AllLines

variable {ls : List (List Char)}

/-- Every line of some has a first buffer, and no buffer is refused. -/
def AllRead (ls : List (List Char)) : Prop :=
  ∀ line ∈ ls, buffers line ≠ [] ∧ ∀ buf ∈ buffers line, Entry buf (entryOf buf)

theorem entryOf_eq_none_iff {buf : List Char} (h : Entry buf (entryOf buf)) :
    entryOf buf = none ↔ isComment (cstr buf) = true := by
  generalize entryOf buf = entry at h
  cases h with
  | comment hword hcomment => exact iff_of_true rfl ((isComment_iff hword).mpr hcomment)
  | entry hword hnot => exact iff_of_false (by simp) (mt (isComment_iff hword).mp hnot)

/-- There is an entry for each line that is no comment, and one for each buffer
after the first of a line that does not read as one. -/
theorem length_entries (h : AllRead ls) :
    ((ls.flatMap buffers).filterMap entryOf).length =
      (ls.filter fun line => !isComment line).length +
        ((ls.flatMap fun line => (buffers line).tail).filterMap entryOf).length := by
  induction ls with
  | nil => rfl
  | cons line ls ih =>
      obtain ⟨⟨hne, hline⟩, hrest⟩ := List.forall_mem_cons.mp h
      obtain ⟨buf, bufs, hbufs⟩ := List.exists_cons_of_ne_nil hne
      have hiff := isComment_line hbufs (hline buf (hbufs ▸ List.mem_cons_self))
      rw [List.flatMap_cons, List.flatMap_cons, List.filterMap_append, List.filterMap_append,
        List.length_append, List.length_append, ih hrest, hbufs, List.tail_cons]
      cases hbuf : entryOf buf with
      | none =>
          rw [List.filterMap_cons_none hbuf, List.filter_cons_of_neg (by simp [hiff.mpr hbuf])]
          omega
      | some c =>
          have hnot : isComment line = false := by simpa [hbuf] using hiff
          rw [List.filterMap_cons_some hbuf, List.filter_cons_of_pos (by simp [hnot]),
            List.length_cons, List.length_cons]
          omega

theorem entries_eq (h : AllRead ls)
    (hfits : ∀ line ∈ ls, ∀ buf ∈ (buffers line).tail, isComment (cstr buf) = true) :
    ((ls.flatMap buffers).filterMap entryOf).map (fun c => (some c.mpoint, some c.percent)) =
      (ls.filter fun line => !isComment line).map fun line => (mpointOf line, limitOf line) := by
  induction ls with
  | nil => rfl
  | cons line ls ih =>
      obtain ⟨⟨hne, hline⟩, hrest⟩ := List.forall_mem_cons.mp h
      obtain ⟨hlinefits, hrestfits⟩ := List.forall_mem_cons.mp hfits
      obtain ⟨buf, bufs, hbufs⟩ := List.exists_cons_of_ne_nil hne
      rw [hbufs] at hline hlinefits
      have hentry := hline buf List.mem_cons_self
      have hiff := isComment_line hbufs hentry
      have hnone : bufs.filterMap entryOf = [] := by
        rw [List.filterMap_eq_nil_iff]
        intro b hb
        exact (entryOf_eq_none_iff (hline b (List.mem_cons_of_mem _ hb))).mpr (hlinefits b hb)
      rw [List.flatMap_cons, List.filterMap_append, List.map_append, ih hrest hrestfits, hbufs]
      cases hbuf : entryOf buf with
      | none =>
          rw [List.filterMap_cons_none hbuf, hnone,
            List.filter_cons_of_neg (by simp [hiff.mpr hbuf])]
          rfl
      | some c =>
          have hnot : isComment line = false := by simpa [hbuf] using hiff
          obtain ⟨hmpoint, hlimit⟩ := entry_line hbufs hlinefits (hbuf ▸ hentry)
          rw [List.filterMap_cons_some hbuf, hnone, List.filter_cons_of_pos (by simp [hnot]),
            List.map_cons, List.map_cons, hmpoint, hlimit]
          rfl

end AllLines

theorem readConf_ok {text : List Char} {cl : List Clist} (h : readConf text = .ok cl) :
    cl = ((lines isNewline text).flatMap buffers).filterMap entryOf ∧
      AllRead (lines isNewline text) := by
  obtain ⟨hcl, hread⟩ := run_readBuffer h
  have hbuffers : buffers text = (lines isNewline text).flatMap buffers := pieces_eq_flatMap text
  rw [hbuffers] at hcl hread
  refine ⟨by rw [hcl, List.nil_append], fun line hline => ⟨?_, fun buf hbuf => ?_⟩⟩
  · exact pieces_ne_nil (mem_lines_ne_nil hline) _
  · exact readEntry_ok (hread buf (List.mem_flatMap_of_mem hline hbuf))

/-- **The list** holds exactly what the file says in exactly the files, of those
that are read, in which nothing but a comment is on a line beyond the buffer and no
two entries in a row have the same mount point. -/
theorem read_exactly_iff (text : List Char) (cl : List Clist) (h : readConf text = .ok cl) :
    ReadExactly text cl ↔ ReadsWell text := by
  obtain ⟨hcl, hread⟩ := readConf_ok h
  have hrepeats : RepeatsLast cl := readConf_repeatsLast h
  have hmpoints (hentries : cl.map (fun c => (some c.mpoint, some c.percent)) =
      (noted text).map fun line => (mpointOf line, limitOf line)) :
      (cl.map Clist.mpoint).map some = (noted text).map mpointOf := by
    have hfst := congrArg (List.map Prod.fst) hentries
    rw [List.map_map, List.map_map] at hfst
    rw [List.map_map]
    exact hfst
  constructor
  · rintro ⟨hentries, -, -, hdistinct⟩
    refine ⟨fun line hline buf hbuf => ?_, ?_⟩
    · have hlength := congrArg List.length hentries
      rw [List.length_map, List.length_map, hcl, length_entries hread, noted] at hlength
      have hnone : ((lines isNewline text).flatMap fun line => (buffers line).tail).filterMap
          entryOf = [] := List.length_eq_zero_iff.mp (by omega)
      rw [List.filterMap_eq_nil_iff] at hnone
      have hentry := (hread line hline).2 buf (List.mem_of_mem_tail hbuf)
      exact (entryOf_eq_none_iff hentry).mp (hnone buf (List.mem_flatMap_of_mem hline hbuf))
    · rw [← hmpoints hentries, List.isChain_map]
      exact (hrepeats.mp hdistinct).imp fun _ _ hne heq => hne (Option.some.inj heq)
  · rintro ⟨hfits, hchain⟩
    have hentries : cl.map (fun c => (some c.mpoint, some c.percent)) =
        (noted text).map fun line => (mpointOf line, limitOf line) := by
      rw [hcl]
      exact entries_eq hread hfits
    refine ⟨hentries, fun c _ => ⟨c.n, c.m, c.scanned, c.disk⟩, fun c _ => c.limit, ?_⟩
    rw [← hmpoints hentries, List.isChain_map] at hchain
    exact hrepeats.mpr (hchain.imp fun _ _ hne heq => hne (congrArg some heq))

def twoEntries : List Char := "# limits\n/media/disk1p1 50\n/media/disk2p1 60\n".toList

theorem read_exactly_two_entries :
    ∃ cl, readConf twoEntries = .ok cl ∧ ReadExactly twoEntries cl :=
  ⟨_, rfl, (read_exactly_iff _ _ rfl).mpr ⟨by decide, by decide⟩⟩

/-- A mount point is taken twice in a row. -/
theorem repeated_mpoint_read :
    ∃ cl, readConf "/media/disk1p1 50\n/media/disk1p1 60\n".toList = .ok cl ∧
      ¬ ReadExactly "/media/disk1p1 50\n/media/disk1p1 60\n".toList cl := by
  refine ⟨_, rfl, fun h => ?_⟩
  exact absurd h.distinct (by decide)

end MoxaDrivers.Mxhtspd

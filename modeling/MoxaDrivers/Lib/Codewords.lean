import MoxaDrivers.Lib.Machine

/-!
# Decoders that read a codeword at a time

A machine reads letters and puts out items. `Decodes` says of it that it puts out
one item at the end of each codeword, and nothing before, and is then where it can
read the next. It follows for streams of codewords, complete (`run_stream`) or cut
off anywhere (`run_prefix`), in whatever pieces they come.
-/

namespace MoxaDrivers.Codewords

open MoxaDrivers.Machine

variable {σ α β γ ε : Type*}

/-- From a state in `Clean`, the codeword of `x` leads to a state in `Clean` with
`dec x` put out, and a part of it puts out nothing. -/
structure Decodes (step : σ → α → Except ε σ) (out : σ → List β) (Clean : σ → Prop)
    (enc : γ → List α) (dec : γ → β) (x : γ) : Prop where
  whole : ∀ s, Clean s → ∃ t, run step s (enc x) = .ok t ∧ Clean t ∧ out t = out s ++ [dec x]
  part : ∀ s t p, Clean s → p <+: enc x → p ≠ enc x → run step s p = .ok t → out t = out s

section

variable {step : σ → α → Except ε σ} {out : σ → List β} {Clean : σ → Prop}
  {enc : γ → List α} {dec : γ → β}

/-- **A stream of codewords** is decoded one by one, in order. -/
theorem run_stream {xs : List γ} (h : ∀ x ∈ xs, Decodes step out Clean enc dec x) {s : σ}
    (hs : Clean s) :
    ∃ t, run step s (xs.flatMap enc) = .ok t ∧ Clean t ∧ out t = out s ++ xs.map dec := by
  induction xs generalizing s with
  | nil => exact ⟨s, rfl, hs, (List.append_nil _).symm⟩
  | cons x xs ih =>
      obtain ⟨t, ht, hclean, hout⟩ := (h x (List.mem_cons_self ..)).whole s hs
      obtain ⟨u, hu, hclean', hout'⟩ := ih (fun y hy => h y (List.mem_cons_of_mem x hy)) hclean
      refine ⟨u, ?_, hclean', ?_⟩
      · rw [List.flatMap_cons, run_append_of_ok ht, hu]
      · rw [hout', hout, List.map_cons, List.append_assoc, List.singleton_append]

/-- A prefix of two lists is one of the first, short of it, or goes on in the second. -/
theorem prefix_append_cases {p xs ys : List α} (h : p <+: xs ++ ys) :
    (p <+: xs ∧ p ≠ xs) ∨ ∃ q, p = xs ++ q ∧ q <+: ys := by
  rcases List.prefix_or_prefix_of_prefix h (List.prefix_append xs ys) with hp | hp
  · by_cases heq : p = xs
    · exact .inr ⟨[], by rw [heq, List.append_nil], List.nil_prefix⟩
    · exact .inl ⟨hp, heq⟩
  · obtain ⟨q, rfl⟩ := hp
    exact .inr ⟨q, rfl, (List.prefix_append_right_inj xs).mp h⟩

/-- **A stream that is cut off** has put out the items of its first codewords, and
nothing else. -/
theorem run_prefix {xs : List γ} (h : ∀ x ∈ xs, Decodes step out Clean enc dec x) {s t : σ}
    (hs : Clean s) {p : List α} (hp : p <+: xs.flatMap enc) (hrun : run step s p = .ok t) :
    ∃ n ≤ xs.length, out t = out s ++ (xs.take n).map dec := by
  induction xs generalizing s p with
  | nil =>
      rw [List.prefix_nil.mp hp] at hrun
      cases hrun
      exact ⟨0, Nat.le_refl 0, (List.append_nil _).symm⟩
  | cons x xs ih =>
      have hx := h x (List.mem_cons_self ..)
      rw [List.flatMap_cons] at hp
      obtain ⟨hpart, hne⟩ | ⟨q, rfl, hq⟩ := prefix_append_cases hp
      · exact ⟨0, Nat.zero_le _, by rw [hx.part s t p hs hpart hne hrun]; simp⟩
      · obtain ⟨u, hu, hclean, hout⟩ := hx.whole s hs
        rw [run_append_of_ok hu] at hrun
        obtain ⟨n, hn, hout'⟩ := ih (fun y hy => h y (List.mem_cons_of_mem x hy)) hclean hq hrun
        refine ⟨n + 1, Nat.succ_le_succ hn, ?_⟩
        rw [hout', hout, List.take_succ_cons, List.map_cons, List.append_assoc,
          List.singleton_append]

end

end MoxaDrivers.Codewords

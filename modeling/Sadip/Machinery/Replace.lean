import Mathlib.Data.List.Chain
import Mathlib.Data.List.Infix
import Mathlib.Logic.Function.Iterate

/-!
# Machinery/Replace — the first occurrence of a pattern, replaced

`replaceFirst` puts a replacement in place of the first occurrence of a pattern.  Where the pattern
is one letter and the text is known to have it, what stands before and after does not depend on the
replacement (`exists_replaceFirst`), so different replacements give different texts.

Replacing again and again ends with a text that does not have the pattern, when something becomes
less each time (`not_infix_iterate_of_measure`): the length, when the replacement is shorter, or the
number of letters that another one is put in place of.  What each replacement keeps is kept to the
end (`iterate_replaceFirst_induction`).  One letter put in place of another again and again is a map
(`iterate_replaceFirst_letter`).
-/

namespace Replace

variable {α : Type*} [DecidableEq α]

/-- The text with the first occurrence of `target` replaced, or as it is when there is none. -/
def replaceFirst (target replacement : List α) : List α → List α
  | [] => if target.isEmpty then replacement else []
  | a :: as =>
      if target.isPrefixOf (a :: as) then replacement ++ (a :: as).drop target.length
      else a :: replaceFirst target replacement as

variable {a c : α} {as : List α}

theorem replaceFirst_singleton_self (a : α) (replacement as : List α) :
    replaceFirst [a] replacement (a :: as) = replacement ++ as := by
  simp [replaceFirst, List.isPrefixOf]

theorem replaceFirst_singleton_of_ne (h : c ≠ a) (replacement as : List α) :
    replaceFirst [a] replacement (c :: as) = c :: replaceFirst [a] replacement as := by
  simp [replaceFirst, List.isPrefixOf, h.symm]

/-- The first occurrence of a letter is behind a text that does not have it. -/
theorem replaceFirst_singleton_append (replacement tail : List α) : ∀ {head : List α}, a ∉ head →
    replaceFirst [a] replacement (head ++ a :: tail) = head ++ (replacement ++ tail)
  | [], _ => replaceFirst_singleton_self a replacement tail
  | c :: head, h => by
      rw [List.mem_cons, not_or] at h
      rw [List.cons_append, replaceFirst_singleton_of_ne (Ne.symm h.1),
        replaceFirst_singleton_append replacement tail h.2, List.cons_append]

/-- **What stands around the replaced letter**; a letter known to be there may not be the first one,
but all that follows it is kept. -/
theorem exists_replaceFirst (a : α) (tail : List α) : ∀ head : List α,
    ∃ before after, ∀ replacement,
      replaceFirst [a] replacement (head ++ a :: tail) = before ++ replacement ++ (after ++ tail)
  | [] => ⟨[], [], fun replacement => replaceFirst_singleton_self a replacement tail⟩
  | c :: head => by
      by_cases hc : c = a
      · subst hc
        refine ⟨[], head ++ [c], fun replacement => ?_⟩
        rw [List.cons_append, replaceFirst_singleton_self, List.append_assoc head, List.nil_append,
          List.singleton_append]
      · obtain ⟨before, after, h⟩ := exists_replaceFirst a tail head
        refine ⟨c :: before, after, fun replacement => ?_⟩
        rw [List.cons_append, replaceFirst_singleton_of_ne hc, h]
        rfl

/-- **One replacement**, if there is something to replace. -/
theorem replaceFirst_cases (target replacement : List α) : ∀ as : List α,
    (∃ before after, as = before ++ target ++ after ∧
        replaceFirst target replacement as = before ++ replacement ++ after) ∨
      (¬ target <:+: as ∧ replaceFirst target replacement as = as)
  | [] => by
      rcases target with - | ⟨b, bs⟩
      · exact .inl ⟨[], [], rfl, (List.append_nil replacement).symm⟩
      · exact .inr ⟨by simp, rfl⟩
  | a :: as => by
      by_cases h : target <+: a :: as
      · obtain ⟨after, hafter⟩ := h
        refine .inl ⟨[], after, hafter.symm, ?_⟩
        rw [replaceFirst, if_pos (List.isPrefixOf_iff_prefix.mpr ⟨after, hafter⟩), ← hafter,
          List.drop_left]
        rfl
      rw [replaceFirst, if_neg (mt List.isPrefixOf_iff_prefix.mp h)]
      rcases replaceFirst_cases target replacement as with ⟨before, after, has, hrep⟩ | ⟨hnot, hrep⟩
      · exact .inl ⟨a :: before, after, by rw [has]; rfl, by rw [hrep]; rfl⟩
      · exact .inr ⟨fun hin => (List.infix_cons_iff.mp hin).elim h hnot, by rw [hrep]⟩

/-- **A measure that every replacement takes down** bounds how many there are. -/
theorem not_infix_iterate_of_measure {target replacement : List α} (μ : List α → ℕ)
    (hμ : ∀ before after, μ (before ++ replacement ++ after) < μ (before ++ target ++ after)) :
    ∀ (n : ℕ) (as : List α), μ as ≤ n → ¬ target <:+: (replaceFirst target replacement)^[n] as
  | 0, as, hn => by
      rintro ⟨before, after, rfl⟩
      exact Nat.not_lt_zero _ ((hμ before after).trans_le hn)
  | n + 1, as, hn => by
      rw [Function.iterate_succ_apply]
      rcases replaceFirst_cases target replacement as with ⟨before, after, rfl, hrep⟩ | ⟨hnot, hrep⟩
      · have hlt := hμ before after
        refine not_infix_iterate_of_measure μ hμ n _ ?_
        rw [hrep]
        omega
      · rw [hrep, Function.iterate_fixed hrep]
        exact hnot

omit [DecidableEq α] in
/-- A shorter text in place of a pattern makes a shorter text. -/
theorem length_replacement_lt {target replacement : List α}
    (h : replacement.length < target.length) (before after : List α) :
    (before ++ replacement ++ after).length < (before ++ target ++ after).length := by
  simp only [List.length_append]
  omega

/-- Another letter in place of one leaves one less of it. -/
theorem count_replacement_lt {a b : α} (hne : b ≠ a) (before after : List α) :
    (before ++ [b] ++ after).count a < (before ++ [a] ++ after).count a := by
  have hzero : [b].count a = 0 := List.count_eq_zero.mpr (by simpa using hne.symm)
  simp only [List.count_append, List.count_singleton_self, hzero]
  omega

/-- **Taking out a pattern** as often as the text is long leaves none of it. -/
theorem not_infix_iterate_replaceFirst {target : List α} (ht : target ≠ []) :
    ∀ (n : ℕ) (as : List α), as.length ≤ n → ¬ target <:+: (replaceFirst target [])^[n] as :=
  not_infix_iterate_of_measure List.length
    (length_replacement_lt (List.length_pos_of_ne_nil ht))

/-- **What one replacement keeps, all of them keep.** -/
theorem iterate_replaceFirst_induction {target replacement : List α} {P : List α → Prop}
    (hP : ∀ before after, P (before ++ target ++ after) → P (before ++ replacement ++ after)) :
    ∀ (n : ℕ) (as : List α), P as → P ((replaceFirst target replacement)^[n] as)
  | 0, _, has => has
  | n + 1, as, has => by
      rw [Function.iterate_succ_apply]
      refine iterate_replaceFirst_induction hP n _ ?_
      rcases replaceFirst_cases target replacement as with ⟨before, after, rfl, hrep⟩ | ⟨-, hrep⟩
      · exact hrep ▸ hP before after has
      · exact hrep.symm ▸ has

/-- What an occurrence of the pattern makes no difference to, taking it out makes none to. -/
theorem apply_iterate_replaceFirst {β : Type*} (f : List α → β) {target : List α}
    (hf : ∀ before after, f (before ++ target ++ after) = f (before ++ after)) (n : ℕ)
    (as : List α) : f ((replaceFirst target [])^[n] as) = f as := by
  refine iterate_replaceFirst_induction (P := fun bs => f bs = f as)
    (fun before after h => ?_) n as rfl
  rw [List.append_nil, ← hf, h]

/-- **Replacing a letter by another one**, as often as it occurs, replaces it everywhere. -/
theorem iterate_replaceFirst_letter {a b : α} (hne : b ≠ a) :
    ∀ (n : ℕ) (as : List α), as.count a ≤ n →
      (replaceFirst [a] [b])^[n] as = as.map fun c => if c = a then b else c
  | 0, as, hcount => by
      have hnot := List.count_eq_zero.mp (Nat.le_zero.mp hcount)
      rw [Function.iterate_zero_apply]
      exact (List.map_id as).symm.trans
        (List.map_congr_left fun c hc => (if_neg fun h : c = a => hnot (h ▸ hc)).symm)
  | n + 1, as, hcount => by
      rw [Function.iterate_succ_apply]
      rcases replaceFirst_cases [a] [b] as with ⟨before, after, rfl, hrep⟩ | ⟨hnot, hrep⟩
      · have hlt := count_replacement_lt hne before after
        rw [hrep, iterate_replaceFirst_letter hne n _ (by omega)]
        simp [hne]
      · rw [hrep, iterate_replaceFirst_letter hne n]
        have hmem : a ∉ as := fun h => hnot ((List.singleton_infix_iff a as).mpr h)
        rw [List.count_eq_zero.mpr hmem]
        exact Nat.zero_le n

/-! ## Pairs of a letter -/

omit [DecidableEq α] in
/-- No letter stands twice in a row. -/
theorem not_infix_pair_iff (c : α) (as : List α) :
    ¬ [c, c] <:+: as ↔ as.IsChain fun x y => ¬ (x = c ∧ y = c) := by
  refine ⟨fun h => (List.isChain_isInfix as).imp ?_, fun h hin => ?_⟩
  · rintro x y hxy ⟨rfl, rfl⟩
    exact h hxy
  · have hpair := List.IsChain.infix h hin
    exact List.isChain_pair.mp hpair ⟨rfl, rfl⟩

omit [DecidableEq α] in
/-- One letter in place of what it stands at both ends of makes no pair of it. -/
theorem not_infix_pair_of_between (mid : List α) {before after : List α}
    (h : ¬ [c, c] <:+: before ++ (c :: mid ++ [c]) ++ after) :
    ¬ [c, c] <:+: before ++ [c] ++ after := by
  rw [not_infix_pair_iff] at h ⊢
  have hleft : (before ++ [c]).IsChain fun x y => ¬ (x = c ∧ y = c) :=
    List.IsChain.infix h ⟨[], mid ++ [c] ++ after, by simp⟩
  have hright : (c :: after).IsChain fun x y => ¬ (x = c ∧ y = c) :=
    List.IsChain.infix h ⟨before ++ c :: mid, [], by simp⟩
  rw [List.append_assoc, List.singleton_append]
  exact List.isChain_split.mpr ⟨hleft, hright⟩

end Replace

import Mathlib.Data.List.DropRight
import Mathlib.Data.List.Induction

/-!
# Machinery/Blanks — a text less the blanks at its ends, and its pieces between blanks

`strip` takes elements away from both ends of a list.  What is left of a text less its blanks says
as much as the pieces of the text between blanks, less the empty ones at the two ends (`words`):
`strip_eq_strip_iff`.
-/

namespace Blanks

variable {α : Type*} {p : α → Bool}

/-- The list less the elements at its two ends that `p` holds of. -/
def strip (p : α → Bool) (l : List α) : List α := (l.dropWhile p).rdropWhile p

/-- A blank in front is removed. -/
theorem strip_cons_of_pos {a : α} (h : p a) (l : List α) : strip p (a :: l) = strip p l := by
  rw [strip, List.dropWhile_cons_of_pos h, strip]

theorem strip_concat_of_pos {a : α} (h : p a) (l : List α) : strip p (l ++ [a]) = strip p l := by
  rw [strip, strip, List.dropWhile_append]
  split
  · rename_i hnil
    rw [List.dropWhile_cons_of_pos h, List.isEmpty_iff.mp hnil]
    rfl
  · exact List.rdropWhile_concat_pos _ _ _ h

/-- One more part is added behind one more blank. -/
theorem intercalate_concat (b : α) (q : List α) : ∀ {ls : List (List α)}, ls ≠ [] →
    [b].intercalate (ls ++ [q]) = [b].intercalate ls ++ b :: q
  | [r], _ => by
      rw [List.singleton_append, List.intercalate_cons_cons, List.intercalate_singleton,
        List.intercalate_singleton, List.append_assoc, List.singleton_append]
  | r :: s :: ls, _ => by
      have ih := intercalate_concat b q (List.cons_ne_nil s ls)
      rw [List.cons_append, List.cons_append, List.intercalate_cons_cons, ← List.cons_append, ih,
        List.intercalate_cons_cons, List.append_assoc, List.append_assoc, List.append_assoc]

variable [DecidableEq α] {b : α} {l m : List α} {ls : List (List α)}

/-- The element is the blank `b`. -/
def isBlank (b a : α) : Bool := a = b

theorem isBlank_iff {a : α} : isBlank b a = true ↔ a = b := decide_eq_true_iff

/-- The pieces of the text between blanks, less the empty ones at the two ends. -/
def words (b : α) (l : List α) : List (List α) := strip List.isEmpty (l.splitOn b)

/-! ## Blanks at the ends make no difference to the pieces -/

/-- A blank in front adds no word. -/
theorem words_cons_blank (b : α) (l : List α) : words b (b :: l) = words b l := by
  rw [words, ← List.nil_append (b :: l), List.splitOn_append_cons_self, List.splitOn_nil]
  exact strip_cons_of_pos rfl _

theorem words_concat_blank (b : α) (l : List α) : words b (l ++ [b]) = words b l := by
  rw [words, List.splitOn_append_cons_self, List.splitOn_nil]
  exact strip_concat_of_pos rfl _

theorem words_dropWhile (b : α) : ∀ l : List α, words b (l.dropWhile (isBlank b)) = words b l
  | [] => rfl
  | a :: l => by
      by_cases h : isBlank b a = true
      · rw [List.dropWhile_cons_of_pos h, words_dropWhile b l, isBlank_iff.mp h, words_cons_blank]
      · rw [List.dropWhile_cons_of_neg h]

theorem words_rdropWhile (b : α) (l : List α) : words b (l.rdropWhile (isBlank b)) = words b l := by
  induction l using List.reverseRecOn with
  | nil => rfl
  | append_singleton l a ih =>
    by_cases h : isBlank b a = true
    · rw [List.rdropWhile_concat_pos _ _ _ h, ih, isBlank_iff.mp h, words_concat_blank]
    · rw [List.rdropWhile_concat_neg _ _ _ h]

/-- Stripping changes no word. -/
theorem words_strip (b : α) (l : List α) : words b (strip (isBlank b) l) = words b l := by
  rw [strip, words_rdropWhile, words_dropWhile]

/-! ## The pieces put together again -/

/-- No part has a blank in it. -/
theorem not_mem_of_mem_splitOn : ∀ {l : List α}, ∀ q ∈ l.splitOn b, b ∉ q
  | [], q, hq => by
      rw [List.splitOn_nil, List.mem_singleton] at hq
      exact hq ▸ List.not_mem_nil
  | a :: l, q, hq => by
      have ih : ∀ q ∈ l.splitOn b, b ∉ q := not_mem_of_mem_splitOn
      rw [List.splitOn_cons_eq_if_modifyHead] at hq
      split at hq
      · rcases List.mem_cons.mp hq with rfl | hq
        · exact List.not_mem_nil
        · exact ih q hq
      · rename_i ha
        obtain ⟨r, rs, hrs⟩ := List.exists_cons_of_ne_nil (List.splitOn_ne_nil b l)
        rw [hrs] at hq ih
        rcases List.mem_cons.mp hq with rfl | hq
        · have hr := ih r List.mem_cons_self
          exact List.not_mem_cons_of_ne_of_not_mem (fun he => ha (by simp [he])) hr
        · exact ih q (List.mem_cons_of_mem r hq)

/-- Blanks in front are the empty parts in front. -/
theorem dropWhile_intercalate : ∀ {ls : List (List α)}, (∀ q ∈ ls, b ∉ q) →
    ([b].intercalate ls).dropWhile (isBlank b) = [b].intercalate (ls.dropWhile List.isEmpty)
  | [], _ => rfl
  | [] :: ls, h => by
      have ih := dropWhile_intercalate fun q hq => h q (List.mem_cons_of_mem [] hq)
      rw [List.dropWhile_cons_of_pos (by rfl), ← ih]
      rcases ls with - | ⟨r, ls⟩
      · rfl
      · rw [List.intercalate_cons_cons, List.nil_append, List.singleton_append,
          List.dropWhile_cons_of_pos (isBlank_iff.mpr rfl)]
  | (a :: q) :: ls, h => by
      have ha : ¬ isBlank b a = true := fun he =>
        h _ List.mem_cons_self (isBlank_iff.mp he ▸ List.mem_cons_self)
      rw [List.dropWhile_cons_of_neg (by simp)]
      rcases ls with - | ⟨r, ls⟩
      · rw [List.intercalate_singleton, List.dropWhile_cons_of_neg ha]
      · rw [List.intercalate_cons_cons, List.cons_append, List.cons_append,
          List.dropWhile_cons_of_neg ha]

theorem rdropWhile_intercalate (ls : List (List α)) (h : ∀ q ∈ ls, b ∉ q) :
    ([b].intercalate ls).rdropWhile (isBlank b) = [b].intercalate (ls.rdropWhile List.isEmpty) := by
  induction ls using List.reverseRecOn with
  | nil => rfl
  | append_singleton ls q ih =>
    have ih := ih fun r hr => h r (List.mem_append_left [q] hr)
    rcases q.eq_nil_or_concat with rfl | ⟨q, a, rfl⟩
    · rw [List.rdropWhile_concat_pos _ _ _ rfl, ← ih]
      rcases eq_or_ne ls [] with rfl | hne
      · rfl
      · rw [intercalate_concat b [] hne, List.rdropWhile_concat_pos _ _ _ (isBlank_iff.mpr rfl)]
    · have ha : ¬ isBlank b a = true := fun he => by
        refine h _ (List.mem_append_right ls (List.mem_singleton_self _)) ?_
        simp [isBlank_iff.mp he]
      rw [List.rdropWhile_concat_neg _ _ _ (by simp)]
      rcases eq_or_ne ls [] with rfl | hne
      · rw [List.nil_append, List.intercalate_singleton, List.concat_eq_append,
          List.rdropWhile_concat_neg _ _ _ ha]
      · rw [intercalate_concat b _ hne, List.concat_eq_append, ← List.cons_append,
          ← List.append_assoc, List.rdropWhile_concat_neg _ _ _ ha]

/-- **A text less its blanks is its pieces put together.** -/
theorem strip_eq_intercalate (b : α) (l : List α) :
    strip (isBlank b) l = [b].intercalate (words b l) := by
  have hfree : ∀ q ∈ l.splitOn b, b ∉ q := not_mem_of_mem_splitOn
  have hl : [b].intercalate (l.splitOn b) = l := List.intercalate_splitOn b
  conv_lhs => rw [← hl]
  rw [strip, dropWhile_intercalate hfree, rdropWhile_intercalate, words, strip]
  exact fun q hq => hfree q (List.dropWhile_sublist _ |>.subset hq)

/-- **Texts are the same less their blanks when they have the same pieces.** -/
theorem strip_eq_strip_iff : strip (isBlank b) l = strip (isBlank b) m ↔ words b l = words b m := by
  constructor
  · intro h
    rw [← words_strip b l, h, words_strip]
  · intro h
    rw [strip_eq_intercalate, h, ← strip_eq_intercalate]

end Blanks

import Mathlib.Data.List.Basic
import Sadip.Machinery.Lines

/-!
# Split — cutting strings up, `utils/split.h`

`split` reads the pieces between delimiters from a stream, one `getline` each.  A delimiter at the
end has no piece behind it, and is the one thing that is lost.
-/

namespace Sadip

namespace Split

open Lines

variable {α : Type*} [DecidableEq α] {delim : α} {s line rest : List α} {pos pos' : ℕ}

/-- The loop of `split`, with the stream at a position: the pieces read from there on. -/
def splitFrom (delim : α) (s : List α) (pos : ℕ) : List (List α) :=
  match _hline : getline delim s pos with
  | none => []
  | some (temp, pos') => temp :: splitFrom delim s pos'
termination_by s.length - pos
decreasing_by
  have := lt_of_getline _hline
  omega

/-- `utility::string::split`. -/
def split (delim : α) (s : List α) : List (List α) := splitFrom delim s 0

theorem splitFrom_none (h : getline delim s pos = none) : splitFrom delim s pos = [] := by
  rw [splitFrom]
  split
  · rfl
  · exact absurd (h.symm.trans ‹_›) (by simp)

theorem splitFrom_some (h : getline delim s pos = some (line, pos')) :
    splitFrom delim s pos = line :: splitFrom delim s pos' := by
  rw [splitFrom]
  split
  · exact absurd (h.symm.trans ‹_›) (by simp)
  · rename_i hline
    obtain ⟨rfl, rfl⟩ := Prod.mk.inj (Option.some.inj (h.symm.trans hline))
    rfl

/-- **The pieces are those of what is left in the stream.** -/
theorem splitFrom_congr (delim : α) (rest : List α) : ∀ {s t : List α} {pos pos' : ℕ},
    s.drop pos = rest → t.drop pos' = rest → splitFrom delim s pos = splitFrom delim t pos' := by
  induction rest using lines_induction delim with
  | nil =>
    intro s t pos pos' hs ht
    rw [splitFrom_none (getline_end hs), splitFrom_none (getline_end ht)]
  | last line hline hne =>
    intro s t pos pos' hs ht
    rw [splitFrom_some (getline_last hs hline hne), splitFrom_some (getline_last ht hline hne),
      splitFrom_none (getline_length s), splitFrom_none (getline_length t)]
  | cons line rest hline ih =>
    intro s t pos pos' hs ht
    rw [splitFrom_some (getline_line hs hline), splitFrom_some (getline_line ht hline),
      ih (drop_line hs) (drop_line ht)]

theorem split_nil (delim : α) : split delim [] = [] := splitFrom_none (getline_end rfl)

theorem split_last (hline : delim ∉ line) (hne : line ≠ []) : split delim line = [line] := by
  rw [split, splitFrom_some (getline_last List.drop_zero hline hne),
    splitFrom_none (getline_length line)]

theorem split_cons (hline : delim ∉ line) (rest : List α) :
    split delim (line ++ delim :: rest) = line :: split delim rest := by
  rw [split, splitFrom_some (getline_line List.drop_zero hline), split,
    splitFrom_congr delim rest (drop_line List.drop_zero) List.drop_zero]

theorem split_eq_nil_iff : split delim s = [] ↔ s = [] := by
  induction s using lines_induction delim with
  | nil => simp [split_nil]
  | last line hline hne => simp [split_last hline hne, hne]
  | cons line rest hline _ => simp [split_cons hline]

/-! ## What is read, and what is lost -/

theorem not_mem_of_mem_split : ∀ piece ∈ split delim s, delim ∉ piece := by
  induction s using lines_induction delim with
  | nil => simp [split_nil]
  | last line hline hne =>
    rw [split_last hline hne]
    exact List.forall_mem_singleton.mpr hline
  | cons line rest hline ih =>
    rw [split_cons hline]
    exact List.forall_mem_cons.mpr ⟨hline, ih⟩

omit [DecidableEq α] in
/-- A line's delimiter is at the end of the text when there is nothing behind it. -/
theorem getLast?_line (line : List α) (hne : rest ≠ []) :
    (line ++ delim :: rest).getLast? = rest.getLast? := by
  rw [List.append_cons line delim rest, List.getLast?_append_of_ne_nil _ hne]

/-- **The pieces, joined again**, are all of the text but a delimiter at its end. -/
theorem intercalate_split : [delim].intercalate (split delim s)
    = if s.getLast? = some delim then s.dropLast else s := by
  induction s using lines_induction delim with
  | nil => simp [split_nil]
  | last line hline hne =>
    rw [split_last hline hne, List.intercalate_singleton,
      if_neg fun h => hline (List.mem_of_getLast? h)]
  | cons line rest hline ih =>
    rw [split_cons hline]
    rcases eq_or_ne rest [] with rfl | hne
    · simp [split_nil]
    obtain ⟨piece, pieces, hpieces⟩ := List.exists_cons_of_ne_nil (mt split_eq_nil_iff.mp hne)
    rw [hpieces] at ih ⊢
    rw [List.intercalate_cons_cons, ih, getLast?_line line hne, List.append_cons line delim rest,
      List.dropLast_append_of_ne_nil hne]
    split_ifs <;> rfl

/-- **The number of pieces.** -/
theorem length_split : (split delim s).length
    = s.count delim + 1 - if s = [] ∨ s.getLast? = some delim then 1 else 0 := by
  induction s using lines_induction delim with
  | nil => simp [split_nil]
  | last line hline hne =>
    rw [split_last hline hne, List.count_eq_zero.mpr hline,
      if_neg (not_or.mpr ⟨hne, fun h => hline (List.mem_of_getLast? h)⟩)]
    rfl
  | cons line rest hline ih =>
    rw [split_cons hline, List.length_cons, ih, List.count_append, List.count_cons_self,
      List.count_eq_zero.mpr hline]
    rcases eq_or_ne rest [] with rfl | hne
    · simp
    rw [getLast?_line line hne]
    simp only [hne, List.append_eq_nil_iff, reduceCtorEq, and_false, false_or]
    split_ifs <;> omega

/-- **Cutting loses nothing but one delimiter at the end.** -/
theorem split_loses (delim : α) (s : List α) :
    (∀ piece ∈ split delim s, delim ∉ piece) ∧
      [delim].intercalate (split delim s)
        = (if s.getLast? = some delim then s.dropLast else s) ∧
      (split delim s).length
        = s.count delim + 1 - if s = [] ∨ s.getLast? = some delim then 1 else 0 :=
  ⟨not_mem_of_mem_split, intercalate_split, length_split⟩

/-! ## Strings -/

/-- `split` of a string of letters. -/
def strings (s : String) (delim : Char) : List String := (split delim s.toList).map String.ofList

theorem strings_empty (delim : Char) : strings "" delim = [] :=
  congrArg (List.map String.ofList) (split_nil delim)

theorem strings_ne_nil {s : String} (hs : s ≠ "") (delim : Char) : strings s delim ≠ [] := fun h =>
  hs (String.toList_eq_nil_iff.mp (split_eq_nil_iff.mp (List.map_eq_nil_iff.mp h)))

end Split

end Sadip

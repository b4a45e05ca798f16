import Mathlib.Data.List.TakeWhile

/-!
# Machinery/Lines — reading a text line by line

A text made of complete lines, each with its delimiter.  A reader keeps an offset; `getline` gives
the line there and the offset of the next one.  From the end of some lines it gives the line that
follows (`getline_text`), and nothing at the end of the text.  The last line of a text may have no
delimiter, and be read all the same (`getline_last`): `lines_induction` goes through any text.
-/

namespace Lines

variable {α : Type*} [DecidableEq α] {nl : α}

/-- A line, without its delimiter. -/
abbrev Line (nl : α) := { l : List α // nl ∉ l }

/-- Complete lines, one after the other. -/
def text (ls : List (Line nl)) : List α := ls.flatMap fun l => l.1 ++ [nl]

/-- The line at an offset, and the offset after its delimiter; nothing at the end of the text. -/
def getline (nl : α) (content : List α) (pos : ℕ) : Option (List α × ℕ) :=
  let rest := content.drop pos
  let line := rest.takeWhile (· ≠ nl)
  if rest = [] then none else some (line, min content.length (pos + line.length + 1))

omit [DecidableEq α] in
theorem text_append (ls ms : List (Line nl)) : text (ls ++ ms) = text ls ++ text ms :=
  List.flatMap_append

omit [DecidableEq α] in
theorem text_singleton (l : Line nl) : text [l] = l.1 ++ [nl] := by
  simp [text]

omit [DecidableEq α] in
theorem text_ne_nil {ls : List (Line nl)} (h : ls ≠ []) : text ls ≠ [] := by
  obtain ⟨l, ls, rfl⟩ := List.exists_cons_of_ne_nil h
  simp [text]

omit [DecidableEq α] in
/-- Lines that are there take room. -/
theorem length_text_lt (ls : List (Line nl)) {ms : List (Line nl)} (h : ms ≠ []) :
    (text ls).length < (text (ls ++ ms)).length := by
  rw [text_append, List.length_append]
  have := List.length_pos_iff.mpr (text_ne_nil h)
  omega

omit [DecidableEq α] in
/-- Whatever is left of complete lines has a delimiter in it. -/
theorem mem_drop_text {ls : List (Line nl)} {pos : ℕ} (h : (text ls).drop pos ≠ []) :
    nl ∈ (text ls).drop pos := by
  rcases ls.eq_nil_or_concat with rfl | ⟨ms, l, rfl⟩
  · exact absurd List.drop_nil h
  · rw [List.concat_eq_append, text_append, text_singleton, ← List.append_assoc] at h ⊢
    rw [List.drop_append] at h ⊢
    rcases Nat.lt_or_ge (text ms ++ l.1).length pos with hlt | hle
    · rw [List.drop_eq_nil_of_le (Nat.le_of_lt hlt), 
        List.drop_eq_nil_of_le (by rw [List.length_singleton]; omega)] at h
      exact absurd rfl h
    · rw [Nat.sub_eq_zero_of_le hle]
      exact List.mem_append_right _ List.mem_cons_self

/-! ## What is read -/

variable {content line rest : List α} {pos pos' : ℕ}

/-- At the end of the text nothing is read. -/
theorem getline_end (h : content.drop pos = []) : getline nl content pos = none := by
  rw [getline, if_pos h]

/-- A line up to its delimiter. -/
theorem getline_line (h : content.drop pos = line ++ nl :: rest) (hline : nl ∉ line) :
    getline nl content pos = some (line, pos + line.length + 1) := by
  have hall : ∀ x ∈ line, (decide (x ≠ nl)) = true := fun x hx =>
    decide_eq_true fun hn => hline (hn ▸ hx)
  have htake : (line ++ nl :: rest).takeWhile (· ≠ nl) = line := by
    rw [List.takeWhile_append_of_pos hall, List.takeWhile_cons_of_neg (by simp), List.append_nil]
  have hlen := congrArg List.length h
  rw [List.length_drop, List.length_append, List.length_cons] at hlen
  rw [getline, h, if_neg (by simp), htake, Nat.min_eq_right (by omega)]

omit [DecidableEq α] in
/-- What is left of the text behind the delimiter. -/
theorem drop_line (h : content.drop pos = line ++ nl :: rest) :
    content.drop (pos + line.length + 1) = rest := by
  rw [Nat.add_assoc, ← List.drop_drop, h, ← List.drop_drop, List.drop_left, List.drop_one,
    List.tail_cons]

/-- What is left of the text, without a delimiter. -/
theorem getline_last (h : content.drop pos = line) (hline : nl ∉ line) (hne : line ≠ []) :
    getline nl content pos = some (line, content.length) := by
  have htake : line.takeWhile (· ≠ nl) = line :=
    List.takeWhile_eq_self_iff.mpr fun x hx => decide_eq_true fun hn => hline (hn ▸ hx)
  have hlen := congrArg List.length h
  rw [List.length_drop] at hlen
  rw [getline, h, if_neg hne, htake, Nat.min_eq_left (by omega)]

/-- The reader goes on, within the text. -/
theorem lt_of_getline (h : getline nl content pos = some (line, pos')) :
    pos < content.length ∧ pos < pos' := by
  rw [getline] at h
  split at h
  · cases h
  · have hpos : pos < content.length := by
      by_contra hle
      exact absurd (List.drop_eq_nil_of_le (Nat.le_of_not_lt hle)) ‹_›
    obtain ⟨-, rfl⟩ := Prod.mk.inj (Option.some.inj h)
    omega

/-- **After some lines, the next one is read.** -/
theorem getline_text (ls : List (Line nl)) (l : Line nl) (ms : List (Line nl)) :
    getline nl (text (ls ++ l :: ms)) (text ls).length = some (l.1, (text (ls ++ [l])).length) := by
  have hdrop : (text (ls ++ l :: ms)).drop (text ls).length = l.1 ++ (nl :: text ms) := by
    rw [text_append, List.drop_left, show l :: ms = [l] ++ ms from rfl, text_append, text_singleton,
      List.append_assoc, List.singleton_append]
  rw [getline_line hdrop l.2, text_append, text_singleton]
  simp [Nat.add_assoc]

/-- **A text is empty, or a line without a delimiter, or one with it and then a text.** -/
@[elab_as_elim]
theorem lines_induction (nl : α) {motive : List α → Prop} (nil : motive [])
    (last : ∀ line, nl ∉ line → line ≠ [] → motive line)
    (cons : ∀ line rest, nl ∉ line → motive rest → motive (line ++ nl :: rest)) :
    ∀ content, motive content := by
  intro content
  induction hlen : content.length using Nat.strongRecOn generalizing content with
  | ind n ih =>
    by_cases hmem : nl ∈ content
    · obtain ⟨line, rest, rfl, hline⟩ := List.eq_append_cons_of_mem hmem
      rw [List.length_append, List.length_cons] at hlen
      exact cons line rest hline (ih rest.length (by omega) rest rfl)
    rcases eq_or_ne content [] with rfl | hne
    · exact nil
    · exact last content hmem hne

theorem getline_length (content : List α) : getline nl content content.length = none :=
  getline_end (List.drop_length ..)

end Lines

import Sadip.Machinery.Sql.Template

/-!
# Machinery/Sql/Letters — what is left of a statement when its numbers are not looked at

`letters` are the values among tokens, and `rowLetters` those of a row, where a number only counts
as one.  The rows that a statement inserts have the letters of its tokens, in the same order
(`letters_of_insert`), however they are divided into tuples.
-/

namespace Sql

open Printf

/-- The text that a value is, if it is no number. -/
def Value.letters : Value → Option (List Char)
  | .number _ => none
  | .text t => some t

/-- The values among tokens. -/
def letters (ts : List Token) : List (Option (List Char)) :=
  ts.filterMap fun t => t.value.map Value.letters

def rowLetters (r : Row) : List (Option (List Char)) := r.map fun column => column.2.letters

@[simp] theorem letters_append (ts us : List Token) :
    letters (ts ++ us) = letters ts ++ letters us :=
  List.filterMap_append

theorem letters_cons_of_value {t : Token} {v : Value} (h : t.value = some v) (ts : List Token) :
    letters (t :: ts) = v.letters :: letters ts :=
  List.filterMap_cons_some (by rw [h, Option.map_some])

/-! ## Statements -/

theorem letters_of_columns : ∀ {ts : List Token} {cols : List (List Char)} {rest : List Token},
    columns ts = some (cols, rest) → letters ts = letters rest
  | .name n :: .closing :: ts, _, _, h => by
      obtain ⟨-, rfl⟩ := Prod.mk.inj (Option.some.inj h)
      rfl
  | .name n :: .comma :: ts, _, _, h => by
      obtain ⟨⟨cols, rest⟩, hcols, heq⟩ := Option.map_eq_some_iff.mp h
      obtain ⟨-, rfl⟩ := Prod.mk.inj heq
      show letters ts = letters rest
      exact letters_of_columns hcols

/-- There are no values before the first tuple. -/
theorem letters_of_head {ts : List Token} {table : List Char} {cols : List (List Char)}
    {rest : List Token} (h : head ts = some (table, cols, rest)) : letters ts = letters rest := by
  unfold head at h
  split at h
  · split at h
    · split at h
      · next w₃ ts' hcols =>
          split at h
          · obtain ⟨-, heq⟩ := Prod.mk.inj (Option.some.inj h)
            obtain ⟨-, rfl⟩ := Prod.mk.inj heq
            exact (letters_of_columns hcols : _ = letters (.word w₃ :: .opening :: ts'))
          · cases h
      · cases h
    · cases h
  · cases h

theorem letters_of_rows (row : List Value) (ts : List Token) : ∀ {vs : List (List Value)},
    rows row ts = some vs → row.map Value.letters ++ letters ts = vs.flatten.map Value.letters := by
  fun_induction rows row ts with
  | case1 row t ts ih =>
    intro vs h
    obtain ⟨v, hv, h⟩ := Option.bind_eq_some_iff.mp h
    rw [← ih v h, letters_cons_of_value hv, List.map_append, List.append_assoc]
    rfl
  | case2 row t ts ih =>
    intro vs h
    obtain ⟨v, hv, h⟩ := Option.bind_eq_some_iff.mp h
    obtain ⟨us, hus, rfl⟩ := Option.map_eq_some_iff.mp h
    have hrest := ih hus
    rw [List.map_nil, List.nil_append] at hrest
    rw [List.flatten_cons, List.map_append, ← hrest, letters_cons_of_value hv, List.map_append,
      List.append_assoc]
    rfl
  | case3 row t =>
    intro vs h
    obtain ⟨v, hv, rfl⟩ := Option.map_eq_some_iff.mp h
    rw [letters_cons_of_value hv, List.flatten_singleton, List.map_append]
    rfl
  | case4 => exact fun h => by cases h

theorem rowLetters_zip {cols : List String} {vs : List Value} (h : vs.length = cols.length) :
    rowLetters (cols.zip vs) = vs.map Value.letters := by
  rw [rowLetters, ← Function.comp_def Value.letters Prod.snd, ← List.map_map,
    List.map_snd_zip (Nat.le_of_eq h)]

theorem Insert.flatMap_rowLetters (s : Insert) :
    s.rows.flatMap rowLetters = s.tuples.flatten.map Value.letters := by
  have harity := s.arity
  rw [Insert.rows]
  generalize s.tuples = tuples at harity
  induction tuples with
  | nil => rfl
  | cons vs tuples ih =>
    obtain ⟨hvs, htuples⟩ := List.forall_mem_cons.mp harity
    rw [List.map_cons, List.flatMap_cons, List.flatten_cons, List.map_append, rowLetters_zip hvs,
      ih htuples]

/-- **The rows have the letters of the tokens.** -/
theorem letters_of_insert {ts : List Token} {s : Insert} (h : insert ts = some s) :
    letters ts = s.rows.flatMap rowLetters := by
  rw [Insert.flatMap_rowLetters]
  obtain ⟨⟨table, cols, rest⟩, hhead, h⟩ := Option.bind_eq_some_iff.mp h
  obtain ⟨vs, hvs, h⟩ := Option.bind_eq_some_iff.mp h
  split at h
  · obtain rfl := Option.some.inj h
    rw [letters_of_head hhead, ← letters_of_rows [] rest hvs]
    rfl
  · cases h

/-! ## Printed texts -/

variable {σ : Type} {content : σ → List Char}

/-- Every string of a text is among its letters. -/
theorem Printing.mem_letters {m m' : Mode} {ps : List Piece} {t : List (Chunk σ)} {hs : List Hole}
    (h : Printing m ps t m' hs) :
    ∀ s ∈ strings t, some (content s) ∈ letters (fill content hs (args t)) := by
  induction h with
  | nil => exact fun s hs => absurd hs List.not_mem_nil
  | @char m m₁ m' c us ps t hs _ _ ih =>
    intro s hmem
    rw [show args (.char c :: t) = args t from rfl, fill_tokens, letters_append]
    exact List.mem_append_right _ (ih s hmem)
  | @number m' a k ps t hs hsuits hk _ _ ih =>
    rw [strings_arg_of_suits hsuits hk]
    exact fun s hmem => List.mem_cons_of_mem _ (ih s hmem)
  | @text m' a k ps t hs _ _ _ ih =>
    have hletters : letters (fill content (.text :: hs) (args (.arg a :: .char '\'' :: t)))
        = some (a.chars content) :: letters (fill content hs (args t)) := rfl
    rw [hletters]
    rcases a with v | v | v | - | s
    case str.some =>
      exact List.forall_mem_cons.mpr ⟨List.mem_cons_self, fun s hs => .tail _ (ih s hs)⟩
    all_goals exact fun s hmem => .tail _ (ih s hmem)

end Sql

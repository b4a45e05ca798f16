import Sadip.Machinery.Sql.Insert

/-!
# Machinery/Sql/Misfit — texts that are no statement

Some tokens do not begin a statement, whatever comes after them (`Dead`): a column list that is not
closed (`dead_of_unclosed`), a tuple with a comma missing (`rows_runOn`), a tuple and then another
header (`rows_tuple_word`).  A text that begins with such tokens means no statement, however it goes
on.
-/

namespace Sql

open Printf

/-- No statement begins with these tokens. -/
def Dead (ts : List Token) : Prop := ∀ us, insert (ts ++ us) = none

/-! ## Column lists -/

/-- After one of the names there is a word. -/
def unclosed : List Token → Bool
  | .name _ :: .comma :: ts => unclosed ts
  | .name _ :: .word _ :: _ => true
  | _ => false

/-- Without the closing parenthesis there is no list of columns. -/
theorem columns_of_unclosed (us : List Token) : ∀ {ts : List Token}, unclosed ts = true →
    columns (ts ++ us) = none
  | .name n :: .comma :: ts, h => by
      rw [unclosed] at h
      rw [List.cons_append, List.cons_append, columns, columns_of_unclosed us h, Option.map_none]
  | .name _ :: .word _ :: _, _ => rfl

/-- Whatever follows, the statement cannot be read. -/
theorem dead_of_unclosed {w₁ w₂ n : List Char} {ts : List Token} (h : unclosed ts = true) :
    Dead (.word w₁ :: .word w₂ :: .name n :: .opening :: ts) := by
  intro us
  rw [insert, List.cons_append, List.cons_append, List.cons_append, List.cons_append, head,
    columns_of_unclosed us h, ite_self, Option.bind_none]

/-! ## Tuples -/

/-- The same if the rows cannot be. -/
theorem dead_of_rows {hs ts : List Token} {table : List Char} {cols : List (List Char)}
    (hhead : head hs = some (table, cols, [])) (h : ∀ us, rows [] (ts ++ us) = none) :
    Dead (hs ++ ts) := by
  intro us
  rw [List.append_assoc, insert, head_append hhead, Option.bind_some, List.nil_append, h us,
    Option.bind_none]

theorem rows_tuple_word (w : List Char) (ts : List Token) : ∀ {vs : List Value}, vs ≠ [] →
    ∀ row : List Value, rows row (tupleTokens vs ++ .comma :: .word w :: ts) = none
  | [v], _, row => by cases v <;> rfl
  | v :: v' :: vs, _, row => by
      rw [tupleTokens, List.cons_append, List.cons_append, rows, Value.value_token,
        Option.bind_some, rows_tuple_word w ts (List.cons_ne_nil v' vs)]

/-- The format of a tuple in which there is no comma between these and those slots. -/
def runOn : List Slot → List Slot → List Hole
  | [], ys => tupleHoles ys
  | [x], ys => x.hole :: tupleHoles ys
  | x :: y :: xs, ys => x.hole :: .token .comma :: runOn (y :: xs) ys

variable {σ : Type} {content : σ → List Char}

/-- Two values need a comma between them. -/
theorem rows_value_value (row : List Value) (v v' : Value) (ts : List Token) :
    rows row (v.token :: v'.token :: ts) = none := by
  cases v' <;> rfl

theorem tupleTokens_eq_cons : ∀ {vs : List Value}, vs ≠ [] →
    ∃ (v : Value) (ts : List Token), tupleTokens vs = v.token :: ts
  | [v], _ => ⟨v, _, rfl⟩
  | v :: _ :: _, _ => ⟨v, _, rfl⟩

theorem fill_hole (x : Slot) (hs : List Hole) (a : Arg σ) (as : List (Arg σ)) :
    fill content (x.hole :: hs) (a :: as) = (x.value content a).token :: fill content hs as := by
  cases x <;> rfl

/-- Two lists that run on into each other are no tuple. -/
theorem rows_runOn (us : List Token) {ys : List Slot} (hys : ys ≠ []) : ∀ {xs : List Slot},
    xs ≠ [] → ∀ {as : List (Arg σ)}, Fills as (xs ++ ys) → ∀ row : List Value,
      rows row (fill content (runOn xs ys) as ++ us) = none
  | [x], _, as, has, row => by
      obtain ⟨a, as, -, htail, rfl⟩ := List.forall₂_cons_right_iff.mp has
      have hrest : Fills as ys := htail
      have hvalues : values content ys as ≠ [] := by
        obtain ⟨y, ys, rfl⟩ := List.exists_cons_of_ne_nil hys
        obtain ⟨b, bs, -, -, rfl⟩ := List.forall₂_cons_right_iff.mp hrest
        exact List.cons_ne_nil _ _
      obtain ⟨v, ts, hts⟩ := tupleTokens_eq_cons hvalues
      rw [runOn, fill_hole, fill_tupleHoles hrest hys, hts, List.cons_append, List.cons_append,
        rows_value_value]
  | x :: x' :: xs, _, as, has, row => by
      obtain ⟨a, as, -, hrest, rfl⟩ := List.forall₂_cons_right_iff.mp has
      rw [runOn, fill_hole, List.cons_append]
      show rows row (_ :: .comma :: (fill content (runOn (x' :: xs) ys) as ++ us)) = none
      rw [rows, Value.value_token, Option.bind_some,
        rows_runOn us hys (List.cons_ne_nil x' xs) hrest]

/-! ## Texts -/

/-- **A text that begins with dead tokens** means no statement. -/
theorem Dead.meaning_eq_none {ts : List Token} (h : Dead ts) {t u : List (Chunk σ)}
    (ht : meant content .start (t ++ [.char ' ']) = after ts (meant content .start u)) :
    meaning content t = none := by
  rw [meaning, meantTokens, ht]
  rcases meant content .start u with - | ⟨m, us⟩
  · rfl
  · cases m with
    | start => exact h us
    | word w => rfl
    | name n => rfl
    | minus => rfl
    | digits negative v => rfl
    | text s => rfl
    | escape s => rfl
    | quote s => rfl

theorem terminated_append (t : List (Chunk σ)) {u : List (Chunk σ)} (hu : u ≠ []) :
    terminated (t ++ u) = t ++ terminated u := by
  rw [terminated, terminated, List.dropLast_append_of_ne_nil hu, List.append_assoc]

theorem terminated_cons (x : Chunk σ) {u : List (Chunk σ)} (hu : u ≠ []) :
    terminated (x :: u) = x :: terminated u :=
  terminated_append [x] hu

/-- The header has a column list that is not closed. -/
def unclosedIn (header : List Char) : Bool :=
  match scan .start (header ++ ['(']) with
  | some (.start, .word _ :: .word _ :: .name _ :: .opening :: ts) => unclosed ts
  | _ => false

theorem literal_append_cons (header : List Char) (t : List (Chunk σ)) :
    literal header ++ .char '(' :: t = literal (header ++ ['(']) ++ t := by
  rw [literal, literal, List.map_append]
  exact List.append_cons _ _ _

/-- **A header that is not closed makes none either.** -/
theorem meaning_of_unclosedIn {header : List Char} (h : unclosedIn header = true)
    (t : List (Chunk σ)) : meaning content (literal header ++ .char '(' :: t) = none := by
  unfold unclosedIn at h
  split at h
  · next w₁ w₂ n ts hscan =>
      have hdead : Dead (.word w₁ :: .word w₂ :: .name n :: .opening :: ts) := dead_of_unclosed h
      refine hdead.meaning_eq_none (u := t ++ [.char ' ']) ?_
      rw [← show meant content _ (literal _) = _ from meant_literal _ _] at hscan
      rw [literal_append_cons, List.append_assoc, meant_append_of_meant hscan]
  · cases h

/-- The header is one, and the format of the tuples has no comma between these and those slots. -/
def runsOn (header row : List Char) (xs ys : List Slot) : Bool :=
  match pieces row with
  | some (.char '(' :: ps) =>
    decide ((opening header).isSome = true ∧ xs ≠ [] ∧ ys ≠ [] ∧ ps.getLast? = some (.char ',') ∧
      holes .start ps.dropLast = some (.start, runOn xs ys))
  | _ => false

theorem bounded_terminated (t : List (Chunk σ)) :
    Bounded (terminated (.char ',' :: t) ++ [.char ' ']) := by
  cases t with
  | nil => rfl
  | cons x t =>
      rw [terminated, List.dropLast_cons_cons]
      rfl

/-- **A format that lacks a comma makes no statement**, whatever is printed. -/
theorem meaning_of_runsOn {header row : List Char} {xs ys : List Slot}
    (h : runsOn header row xs ys = true) {as : List (Arg σ)} (has : Fills as (xs ++ ys))
    {r : List (Chunk σ)} (hr : Printed row as r) (t : List (Chunk σ)) :
    meaning content (terminated (literal header ++ (r ++ t))) = none := by
  unfold runsOn at h
  split at h
  · next ps hps =>
      obtain ⟨hopening, hxs, hys, hlast, hholes⟩ := of_decide_eq_true h
      obtain ⟨body, rfl⟩ := List.getLast?_eq_some_iff.mp hlast
      rw [List.dropLast_concat] at hholes
      obtain ⟨ps, hps', hformat⟩ := hr
      obtain rfl := Option.some.inj (hps'.symm.trans hps)
      obtain ⟨u, hu, rfl⟩ := Option.map_eq_some_iff.mp hformat
      obtain ⟨b, hb, rfl⟩ := format_append_char ',' hu
      obtain ⟨⟨table, cols⟩, hcols⟩ := Option.isSome_iff_exists.mp hopening
      have hopen : Opens header (String.ofList table) (cols.map String.ofList) := by
        rw [Opens, hcols, Option.map_some]
      obtain ⟨ts, n, cs, hscan, hhead, -⟩ := hopen.tokens
      rw [← show meant content _ (literal _) = _ from meant_literal _ _] at hscan
      have hdead : Dead (ts ++ fill content (runOn xs ys) as) :=
        dead_of_rows hhead fun us => rows_runOn us hys hxs has []
      have htext : terminated (literal header ++ (.char '(' :: (b ++ [.char ',']) ++ t))
          = literal (header ++ ['(']) ++ (b ++ terminated (.char ',' :: t)) := by
        rw [List.cons_append, literal_append_cons, List.append_assoc, List.singleton_append,
          terminated_append _ (by simp), terminated_append _ (by simp)]
      refine hdead.meaning_eq_none (u := terminated (.char ',' :: t) ++ [.char ' ']) ?_
      rw [htext, List.append_assoc, meant_append_of_meant hscan, List.append_assoc,
        meant_format hholes hb (bounded_terminated t), after_after]
  · cases h

/-- **A header and a tuple, and then a header again**: no statement. -/
theorem meaning_of_header_twice {header header' : List Char} {table table' : String}
    {cols cols' : List String} (hopen : Opens header table cols)
    (hopen' : Opens header' table' cols')
    {b : List (Chunk σ)} {vs : List Value} (hb : Lists content b vs) (t : List (Chunk σ)) :
    meaning content (literal header ++ .char '(' :: (b ++ .char ',' ::
      (literal header' ++ .char '(' :: t))) = none := by
  obtain ⟨ts, n, cs, hscan, hhead, -⟩ := hopen.tokens
  obtain ⟨ts', n', cs', hscan', hhead', -⟩ := hopen'.tokens
  rw [← show meant content _ (literal _) = _ from meant_literal _ _] at hscan hscan'
  obtain ⟨w, us, rfl⟩ : ∃ w us, ts' = .word w :: us := by
    unfold head at hhead'
    split at hhead'
    · exact ⟨_, _, rfl⟩
    · cases hhead'
  have hdead : Dead (ts ++ (tupleTokens vs ++ .comma :: .word w :: us)) :=
    dead_of_rows hhead fun rest => by
      rw [List.append_assoc]
      exact rows_tuple_word w (us ++ rest) hb.1 []
  refine hdead.meaning_eq_none (u := t ++ [.char ' ']) ?_
  have hcomma : pass content .start (.char ',') = some (.start, [.comma]) := rfl
  have hbounded : Bounded (.char ',' :: (literal (header' ++ ['(']) ++ (t ++ [.char ' '])) :
    List (Chunk σ)) := rfl
  rw [literal_append_cons header' t, literal_append_cons, List.append_assoc,
    meant_append_of_meant hscan, List.append_assoc, List.cons_append, List.append_assoc,
    hb.2 _ hbounded, meant_cons_of_pass hcomma, meant_append_of_meant hscan', after_after,
    after_after, after_after]
  simp only [List.append_assoc, List.singleton_append]

end Sql

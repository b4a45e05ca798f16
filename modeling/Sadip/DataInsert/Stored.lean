import Sadip.DataInsert.Table
import Sadip.Machinery.Sql.Literal

/-!
# DataInsert/Stored — the rows that are read off the executed texts

`%s` prints what `c_str()` points to, so a string is printed up to its first NUL and is not escaped.
What a statement is meant to store is therefore what it is read to store exactly if its strings are
literal.  `storedAs_iff` says so of all statements of a run together: when the rows that are read
have the strings that are meant, whatever their numbers are, every string in the statements is
literal.
-/

namespace Sadip

namespace DataInsert

open Printf Sql Insertion

variable {σ : Type} {print content : σ → List Char} {names T : List String} {ss : List (Text σ)}

/-- What `%s` prints of the strings of a message. -/
abbrev printed (content : σ → List Char) (s : σ) : List Char := cut (content s)

@[simp] theorem letters_int32 (v : Int32) : (int32 v).letters = none := rfl

@[simp] theorem letters_int64 (v : Int64) : (int64 v).letters = none := rfl

/-- If every string is read as meant, so is every row. -/
theorem rowsOf_eq_meantRows (hss : ∀ t ∈ ss, Executed names t)
    (hdenotes : ∀ t ∈ ss, ∀ s ∈ strings t, Denotes (print s) (content s)) (table : String) :
    rowsOf print table ss = meantRows content table ss :=
  List.flatMap_congr fun t ht => by rw [(hss t ht).1.read_eq_meaning (hdenotes t ht)]

/-- The texts are statements, and the rows that they insert into these tables are those of a forest
in `P`. -/
def StoredAs (print : σ → List Char) (T : List String) (P : Forest Int64 Row → Prop)
    (ss : List (Text σ)) : Prop :=
  (∀ t ∈ ss, WellFormed (chars print t)) ∧
    ∃ F, P F ∧ ∀ table ∈ T, rowsOf print table ss = F.rowsAt table

/-- The strings in the statements are stored as they are. -/
def Literal (content : σ → List Char) (ss : List (Text σ)) : Prop :=
  ∀ t ∈ ss, ∀ s ∈ strings t, isLiteral (content s) = true

/-- A literal string is read as it is printed. -/
theorem Literal.rowsOf_eq (h : Literal content ss) (hss : ∀ t ∈ ss, Executed names t)
    (table : String) : rowsOf (printed content) table ss = meantRows content table ss :=
  rowsOf_eq_meantRows hss (fun t ht s hs => denotes_of_isLiteral (h t ht s hs)) table

theorem rowsIn_of_table_ne {table : String} {s : Insert} (h : s.table ≠ table) :
    rowsIn table (some s) = [] := if_neg h

theorem rowsIn_of_table_eq {table : String} {s : Insert} (h : s.table = table) :
    rowsIn table (some s) = s.rows := if_pos h

/-- **The strings of the statements on a table are literal** if the rows that are read have the
letters that are meant.  From the first statement with another string on, the rows would be
different. -/
theorem literal_of_rowLetters {table : String} : ∀ {ss : List (Text σ)},
    (∀ t ∈ ss, Executed names t) → Formed content ss →
    (∀ t ∈ ss, WellFormed (chars (printed content) t)) →
    (meantRows content table ss).flatMap rowLetters
      = (rowsOf (printed content) table ss).flatMap rowLetters →
    ∀ t ∈ ss, ∀ m, meaning content t = some m → m.table = table →
      ∀ s ∈ strings t, isLiteral (content s) = true
  | [], _, _, _, _ => nofun
  | t :: ss, hss, hformed, hread, heq => by
      obtain ⟨ht, hss⟩ := List.forall_mem_cons.mp hss
      obtain ⟨hm, hformed⟩ := List.forall_mem_cons.mp hformed
      obtain ⟨hr, hread⟩ := List.forall_mem_cons.mp hread
      obtain ⟨m, hm⟩ := Option.isSome_iff_exists.mp hm
      obtain ⟨r, hr⟩ := Option.isSome_iff_exists.mp hr
      have htable : r.table = m.table := ht.1.table_eq hr hm
      rw [meantRows, rowsOf, List.flatMap_cons, List.flatMap_cons, hm, hr, List.flatMap_append,
        List.flatMap_append] at heq
      by_cases hhere : m.table = table
      · rw [rowsIn_of_table_eq hhere, rowsIn_of_table_eq (htable.trans hhere)] at heq
        have hliteral : ∀ s ∈ strings t, isLiteral (content s) = true :=
          ht.1.literal (fun _ => rfl) hr hm heq
        -- this statement is read as it is meant, and the next ones are in the same place
        obtain rfl : r = m := by
          rw [ht.1.read_eq_meaning (fun s hs => denotes_of_isLiteral (hliteral s hs)), hm] at hr
          exact (Option.some.inj hr).symm
        refine List.forall_mem_cons.mpr ⟨fun _ _ _ => hliteral, ?_⟩
        exact literal_of_rowLetters hss hformed hread (List.append_cancel_left heq)
      · rw [rowsIn_of_table_ne hhere,
          rowsIn_of_table_ne fun h => hhere (htable.symm.trans h)] at heq
        refine List.forall_mem_cons.mpr ⟨fun m' hm' h => ?_, ?_⟩
        · obtain rfl := Option.some.inj (hm.symm.trans hm')
          exact absurd h hhere
        · exact literal_of_rowLetters hss hformed hread heq

/-! ## Tables -/

/-- The texts of the row are stored as they are. -/
def RowLiteral (r : Row) : Prop := ∀ v, some v ∈ rowLetters r → isLiteral v = true

@[simp] theorem rowLiteral_nil : RowLiteral [] := nofun

theorem rowLiteral_cons {column : String} {v : Value} {r : Row} :
    RowLiteral ((column, v) :: r) ↔
      (∀ t, v.letters = some t → isLiteral t = true) ∧ RowLiteral r := by
  rw [RowLiteral, rowLetters, List.map_cons]
  simp only [List.mem_cons, or_imp, forall_and]
  exact and_congr_left' (forall_congr' fun t => imp_congr_left eq_comm)

@[simp] theorem rowLiteral_int32 {column : String} {v : Int32} {r : Row} :
    RowLiteral ((column, int32 v) :: r) ↔ RowLiteral r :=
  rowLiteral_cons.trans (and_iff_right nofun)

@[simp] theorem rowLiteral_int64 {column : String} {v : Int64} {r : Row} :
    RowLiteral ((column, int64 v) :: r) ↔ RowLiteral r :=
  rowLiteral_cons.trans (and_iff_right nofun)

/-- A column with a string is literal if the string is. -/
@[simp] theorem rowLiteral_text {column : String} {o : Option σ} {r : Row} :
    RowLiteral ((column, text content o) :: r) ↔
      (∀ s ∈ o.toList, isLiteral (content s) = true) ∧ RowLiteral r := by
  refine rowLiteral_cons.trans (and_congr_left' ?_)
  cases o with
  | none =>
      exact iff_of_true (fun t ht => by rw [← Option.some.inj ht]; rfl) (List.forall_mem_nil _)
  | some s =>
    rw [Option.toList_some, List.forall_mem_singleton]
    refine ⟨fun h => h _ rfl, fun h t ht => ?_⟩
    rw [← Option.some.inj ht]
    exact h

/-- A row is literal if its texts are. -/
theorem rowLiteral_zip {cols : List String} {vs : List Value}
    (h : ∀ v, .text v ∈ vs → isLiteral v = true) : RowLiteral (cols.zip vs) := by
  intro v hv
  obtain ⟨⟨col, value⟩, hmem, hletters⟩ := List.mem_map.mp hv
  cases value with
  | number n => cases hletters
  | text u =>
    obtain rfl : u = v := Option.some.inj hletters
    exact h u (List.of_mem_zip hmem).2

theorem isLiteral_decimal (v : ℤ) : isLiteral (decimal v) = true :=
  isLiteral_of_forall fun _ hc => mark_of_mem_decimal hc

namespace Table

variable {t : Table} {row : Row} {rows : List Row} {i : ℕ} {as : List (Arg σ)} {txt : Text σ}

/-- A row is literal if the strings it is printed from are. -/
theorem Stores.rowLiteral (h : t.Stores content as row)
    (hliteral : ∀ s ∈ strings (as.map .arg), isLiteral (content s) = true) : RowLiteral row := by
  obtain ⟨-, rfl⟩ := h
  refine rowLiteral_zip fun v hv => ?_
  obtain ⟨x, a, ha, hvalue⟩ : ∃ x a, a ∈ as ∧ Slot.value content x a = .text v := by
    rw [values, ← List.map_uncurry_zip_eq_zipWith] at hv
    obtain ⟨⟨x, a⟩, hmem, heq⟩ := List.mem_map.mp hv
    exact ⟨x, a, (List.of_mem_zip hmem).2, heq⟩
  cases x with
  | number k => cases hvalue
  | text k =>
    obtain rfl : a.chars content = v := Value.text.inj hvalue
    rcases a with n | n | n | - | s
    case str.none => rfl
    case str.some =>
      exact hliteral s (List.mem_flatMap.mpr ⟨_, List.mem_map_of_mem ha, List.mem_cons_self⟩)
    all_goals exact isLiteral_decimal _

theorem Adds.strings_eq (h : t.Adds content i row txt) :
    ∃ as, t.Stores content as row ∧ strings txt = strings (as.map .arg) := by
  obtain ⟨as, r, hstores, hr, rfl⟩ := h
  refine ⟨as, hstores, ?_⟩
  have hheader : strings (if i = 0 then literal (σ := σ) t.header.toList else []) = [] := by
    split
    · exact strings_literal _
    · rfl
  rw [strings_append, hheader, List.nil_append, t.sound.strings_row hr hstores.1]

/-- Where the strings are literal, the rows are. -/
theorem Gathers.rowLiteral : ∀ {i : ℕ} {rows : List Row} {txt : Text σ},
    t.Gathers content i rows txt → (∀ s ∈ strings txt, isLiteral (content s) = true) →
    ∀ r ∈ rows, RowLiteral r
  | _, [], _, _, _ => List.forall_mem_nil _
  | i, row :: rows, _, h, hliteral => by
      obtain ⟨a, b, rfl, ha, hb⟩ := h
      obtain ⟨as, hstores, has⟩ := ha.strings_eq
      rw [strings_append, List.forall_mem_append, has] at hliteral
      exact List.forall_mem_cons.mpr ⟨hstores.rowLiteral hliteral.1, hb.rowLiteral hliteral.2⟩

/-- What a loop adds is made of tuples of its table. -/
theorem Adds.tuples (h : t.Adds content i row txt) : Tuples [t.table] txt := by
  obtain ⟨as, r, -, hr, rfl⟩ := h
  split
  · exact t.sound.tuples List.mem_cons_self hr
  · exact t.sound.tuples_row hr

theorem Gathers.formatted : ∀ {i : ℕ} {rows : List Row} {row : Row} {txt : Text σ},
    t.Gathers content i (row :: rows) txt → Tuples [t.table] txt
  | _, [], _, _, h => by
      obtain ⟨a, b, rfl, ha, rfl⟩ := h
      rw [List.append_nil]
      exact ha.tuples
  | _, _ :: _, _, _, h => by
      obtain ⟨a, b, rfl, ha, hb⟩ := h
      exact ha.tuples.append hb.formatted

/-- Without the start no statement is read either. -/
theorem Gathers.read_eq_none (h : t.Gathers content (i + 1) (row :: rows) txt) :
    read (chars print (terminated txt)) = none := by
  obtain ⟨a, b, rfl, ⟨as, r, ⟨hfills, -⟩, hr, ha⟩, -⟩ := h
  obtain ⟨c, rfl, -⟩ : ∃ c, r = _ ∧ Lists content c _ := t.matched.shapes.lists hfills hr
  rw [ha, if_neg (Nat.succ_ne_zero i), List.nil_append, terminated, List.cons_append,
    List.dropLast_cons_of_ne_nil (by simp), List.cons_append, chars_cons, Sql.read, tokens,
    List.append_assoc, show Chunk.chars print (.char '(') = ['('] from rfl, List.singleton_append,
    scan_cons,
    show step .start '(' = some (.start, [.opening]) from rfl, Option.bind_some]
  rcases scan .start _ with - | ⟨m, ts⟩
  · rfl
  · cases m <;> rfl

end Table

/-! ## All statements -/

/-- A row of a statement is a row of its table. -/
theorem mem_meantRows {t : Text σ} (ht : t ∈ ss) {m : Insert} (hm : meaning content t = some m)
    {r : Row} (hr : r ∈ m.rows) : r ∈ meantRows content m.table ss := by
  refine List.mem_flatMap.mpr ⟨t, ht, ?_⟩
  rw [hm, rowsIn_of_table_eq rfl]
  exact hr

/-- **What is stored is what is meant** exactly if the strings are literal and what is meant is
right. The tables `L` have all the strings. -/
theorem storedAs_iff {L : List String} {P : Forest Int64 Row → Prop}
    (hss : ∀ t ∈ ss, Executed names t) (hformed : Formed content ss) (hsub : L ⊆ T)
    (hletters : ∀ F, P F → ∀ table ∈ L,
      (F.rowsAt table).map rowLetters = (meantRows content table ss).map rowLetters)
    (hnone : ∀ table ∉ L, ∀ r ∈ meantRows content table ss, ∀ l ∈ rowLetters r, l = none) :
    StoredAs (printed content) T P ss ↔ Literal content ss ∧
      ∃ F, P F ∧ ∀ table ∈ T, meantRows content table ss = F.rowsAt table := by
  constructor
  · rintro ⟨hread, F, hF, hrows⟩
    have hliteral : Literal content ss := by
      intro t ht s hs
      obtain ⟨m, hm⟩ := Option.isSome_iff_exists.mp (hformed t ht)
      by_cases htable : m.table ∈ L
      · refine literal_of_rowLetters hss hformed hread ?_ t ht m hm rfl s hs
        rw [List.flatMap_def, List.flatMap_def, hrows m.table (hsub htable),
          hletters F hF m.table htable]
      · obtain ⟨r, hr, hmem⟩ := List.mem_flatMap.mp ((hss t ht).1.mem_rowLetters hm s hs)
        cases hnone m.table htable r (mem_meantRows ht hm hr) _ hmem
    refine ⟨hliteral, F, hF, fun table htable => ?_⟩
    rw [← hliteral.rowsOf_eq hss, hrows table htable]
  · rintro ⟨hliteral, F, hF, hrows⟩
    refine ⟨fun t ht => ?_, F, hF, fun table htable => ?_⟩
    · rw [WellFormed, (hss t ht).1.read_eq_meaning fun s hs =>
        denotes_of_isLiteral (hliteral t ht s hs)]
      exact hformed t ht
    · rw [hliteral.rowsOf_eq hss, hrows table htable]

end DataInsert

end Sadip

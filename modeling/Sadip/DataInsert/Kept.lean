import Sadip.DataInsert.Stored

/-!
# DataInsert/Kept — loops that pass elements over

Some lists are filtered as they are inserted: `continue` comes before anything is printed, and the
start of the statement is printed at index 0 only.  So the tuples are those of the elements that are
kept, and whether there is a start depends on one of them: the first of the list, kept or not
(`Starts`).  Without it the text is no statement at all.

What is below the kept elements does not depend on this: it has statements of its own.
`yields_insertEach_kept` has both halves.
-/

namespace Sadip

namespace DataInsert

open Printf Sql Insertion

variable {σ α : Type}

/-- If any element is kept, the first one is. -/
def Starts (keep : α → Bool) (es : List α) : Prop :=
  es.any keep = true → es.head?.any keep = true
  deriving Decidable

theorem starts_iff_of_any {keep : α → Bool} {es : List α} (h : es.any keep = true) :
    Starts keep es ↔ es.head?.any keep = true := forall_prop_of_true h

/-! ## One element -/

/-- A kept element, with its place: its own row is still in `text`, and what is below it has been
stored, as far as the tables `T` go, by statements on `names`. -/
def Sprouts (t : Table) (content : σ → List Char) (names T : List String)
    (row : Int64 → α × ℕ → Row) (kids : Int64 → α × ℕ → Forest Int64 Row → Prop) (q : α × ℕ)
    (_ : List Int64) (ss : List (Text σ)) (text : Text σ) : Prop :=
  ∃ id under, t.Adds content q.2 (row id q) text ∧ kids id q under ∧
    (∀ table ∈ T, meantRows content table ss = under.rowsAt table) ∧ ∀ s ∈ ss, Executed names s

/-! ## The loop -/

/-- What the loop from the `i`th element on has gathered: it has its start if it begins with the
first element of all and keeps it. -/
def Sifts (t : Table) (content : σ → List Char) (keep : α → Bool) (i : ℕ) (es : List α)
    (rows : List Row) (text : Text σ) : Prop :=
  t.Gathers content (if i = 0 ∧ es.head?.any keep = true then 0 else 1) rows text

variable {t : Table} {print content : σ → List Char} {I : Int64 → Prop} {keep : α → Bool}
  {names T : List String} {row : Int64 → α × ℕ → Row}
  {kids : Int64 → α × ℕ → Forest Int64 Row → Prop} {body : ℕ → α → Insertion σ (Text σ)}

theorem Sifts.headless {i : ℕ} {es : List α} {rows : List Row} {text : Text σ}
    (h : Sifts t content keep (i + 1) es rows text) : t.Gathers content 1 rows text := by
  rwa [Sifts, if_neg fun hi => Nat.succ_ne_zero i hi.1] at h

theorem Sifts.cons {i : ℕ} {e : α} {es : List α} {r : Row} {rows : List Row} {a b : Text σ}
    (he : keep e = true) (ha : t.Adds content i r a) (hb : Sifts t content keep (i + 1) es rows b) :
    Sifts t content keep i (e :: es) (r :: rows) (a ++ b) := by
  rw [Sifts, List.head?_cons, Option.any_some, he]
  cases i with
  | zero => exact ⟨a, b, rfl, ha, hb.headless⟩
  | succ i =>
    rw [if_neg fun hi => Nat.succ_ne_zero i hi.1]
    exact ⟨a, b, rfl, ha, hb.headless.shift⟩

theorem Sifts.skip {i : ℕ} {e : α} {es : List α} {rows : List Row} {text : Text σ}
    (he : keep e = false) (h : Sifts t content keep (i + 1) es rows text) :
    Sifts t content keep i (e :: es) rows text := by
  rw [Sifts, List.head?_cons, Option.any_some, he, if_neg fun hi => Bool.false_ne_true hi.2]
  exact h.headless

theorem yields_forEach_kept (hkids : ∀ id q f, kids id q f → f.rowsAt t.table = [])
    (hT : t.table ∉ T) (hskip : ∀ i e, keep e = false → body i e = pure []) :
    ∀ (i : ℕ) (es : List α), (∀ q ∈ es.zipIdx i, keep q.1 = true →
      Yields print I (body q.2 q.1) (Sprouts t content names T row kids q) fun _ _ => False) →
    Yields print I (forEach body i es) (fun _ ss text =>
      ∃ F, Forest.Grown t.table row kids ((es.zipIdx i).filter fun q => keep q.1) F ∧
        Sifts t content keep i es (F.rowsAt t.table) text ∧
        (∀ table ∈ T, meantRows content table ss = F.rowsAt table) ∧
        (∀ s ∈ ss, Executed names s) ∧ (es.any keep = false → ss = [])) fun _ _ => False
  | i, [], _ => ⟨.nil, rfl, by rw [Sifts]; rfl, fun _ _ => rfl, nofun, fun _ => rfl⟩
  | i, e :: es, hbody => by
      have hrest := yields_forEach_kept hkids hT hskip (i + 1) es fun q hq => hbody q (.tail _ hq)
      rw [forEach]
      cases he : keep e with
      | false =>
        rw [hskip i e he]
        show Yields print I (forEach body (i + 1) es >>= fun sqls => pure ([] ++ sqls)) _ _
        rw [yields_bind]
        refine hrest.mono ?_ fun _ _ h => h
        rintro ds ss text ⟨F, hF, htext, hrows, hnames, hnone⟩
        rw [yields_pure, List.append_nil, List.nil_append]
        refine ⟨F, ?_, htext.skip he, hrows, hnames, fun hany => hnone ?_⟩
        · rwa [List.zipIdx_cons, List.filter_cons_of_neg (by rw [he]; exact Bool.false_ne_true)]
        · rwa [List.any_cons, he, Bool.false_or] at hany
      | true =>
        rw [yields_bind]
        refine (hbody (e, i) List.mem_cons_self he).mono ?_ fun _ _ h => h.elim
        rintro ds ss text ⟨id, under, htext, hunder, hrows, hnames⟩
        rw [yields_bind]
        refine hrest.mono ?_ fun _ _ h => h.elim
        rintro ds' ss' text' ⟨F, hF, htext', hrows', hnames', -⟩
        rw [yields_pure, List.append_nil]
        have htop : (Forest.node t.table id (row id (e, i)) under F).rowsAt t.table
            = row id (e, i) :: F.rowsAt t.table := by
          rw [Forest.rowsAt, if_pos rfl, hkids id (e, i) under hunder]
          rfl
        refine ⟨.node t.table id (row id (e, i)) under F, ?_, ?_, fun table htable => ?_,
          List.forall_mem_append.mpr ⟨hnames, hnames'⟩, fun hany => ?_⟩
        · rw [List.zipIdx_cons, List.filter_cons, if_pos he]
          exact ⟨id, under, F, rfl, hunder, hF⟩
        · rw [htop]
          exact htext'.cons he htext
        · rw [meantRows_append, hrows table htable, hrows' table htable, Forest.rowsAt,
            if_neg fun h => hT (by rwa [h]), List.nil_append]
        · rw [List.any_cons, he] at hany
          cases hany

/-! ## The statement -/

/-- How the statement of the loop ends up behind those on `names`: there is none if nothing is kept,
and else it has these rows and, if the first element of the list is kept, its start. -/
structure Closes (t : Table) (content : σ → List Char) (names : List String) (keep : α → Bool)
    (es : List α) (rows : List Row) (ss : List (Text σ)) : Prop where
  none : es.any keep = false → ss = [] ∧ rows = []
  some : es.any keep = true → ∃ under text row rest, ss = under ++ [terminated text] ∧
    (∀ u ∈ under, Executed names u) ∧ rows = row :: rest ∧ Sifts t content keep 0 es rows text

theorem Sifts.gathers {es : List α} {rows : List Row} {text : Text σ}
    (h : Sifts t content keep 0 es rows text) (hhead : es.head?.any keep = true) :
    t.Gathers content 0 rows text := by
  rwa [Sifts, if_pos ⟨rfl, hhead⟩] at h

theorem Sifts.gathers_headless {es : List α} {rows : List Row} {text : Text σ}
    (h : Sifts t content keep 0 es rows text) (hhead : es.head?.any keep = false) :
    t.Gathers content 1 rows text := by
  rwa [Sifts, if_neg fun hi => by rw [hhead] at hi; exact Bool.false_ne_true hi.2] at h

/-- Every tuple is long enough for the text to be executed, also without its start. -/
theorem Sifts.lt_size (hlong : t.Long) {es : List α} {r : Row} {rows : List Row} {text : Text σ}
    (h : Sifts t content keep 0 es (r :: rows) text) : 10 < Printf.size print text := by
  obtain ⟨a, b, rfl, ⟨as, u, -, hu, ha⟩, -⟩ := h
  have hbulk := hlong.lt_bulk hu
  have hsize : bulk u ≤ Printf.size print u := bulk_le_size u
  rw [ha, size_append, size_append]
  omega

theorem filter_zipIdx_eq_nil {es : List α} {i : ℕ} :
    ((es.zipIdx i).filter fun q => keep q.1) = [] ↔ es.any keep = false := by
  rw [← List.map_eq_nil_iff (f := Prod.fst), ← Function.comp_def keep Prod.fst, ← List.filter_map,
    List.zipIdx_map_fst, List.filter_eq_nil_iff, List.any_eq_false]

/-- **A filtered list**: a forest of the elements that are kept, less their own rows when the
statement lacks its start. -/
theorem yields_insertEach_kept (hlong : t.Long)
    (hkids : ∀ id q f, kids id q f → f.rowsAt t.table = []) (hT : t.table ∉ T)
    (hskip : ∀ i e, keep e = false → body i e = pure []) {es : List α}
    (hbody : ∀ q ∈ es.zipIdx, keep q.1 = true →
      Yields print I (body q.2 q.1) (Sprouts t content names T row kids q) fun _ _ => False) :
    Yields print I (insertEach body es) (fun _ ss _ =>
      ∃ F, Forest.Grown t.table row kids (es.zipIdx.filter fun q => keep q.1) F ∧
        (∀ table ∈ T, meantRows content table ss = F.rowsAt table) ∧
        Closes t content names keep es (F.rowsAt t.table) ss) fun _ _ => False := by
  rw [insertEach, yields_bind]
  refine (yields_forEach_kept hkids hT hskip 0 es hbody).mono ?_ fun _ _ h => h
  rintro ds ss text ⟨F, hF, htext, hrows, hnames, hnone⟩
  have hlength := Forest.Grown.length_rowsAt hkids hF
  have hmeant : ∀ {u : Text σ}, (∀ s, meaning content u = some s → s.table = t.table) →
      ∀ table ∈ T, meantRows content table (ss ++ [u]) = F.rowsAt table := by
    intro u hu table htable
    have hnil : rowsIn table (meaning content u) = [] :=
      rowsIn_eq_nil fun s hs heq => hT (by rwa [← hu s hs, heq])
    rw [meantRows_append, hrows table htable, meantRows, List.flatMap_singleton, hnil,
      List.append_nil]
  show if _ then _ else _
  cases hcase : F.rowsAt t.table with
  | nil =>
    rw [hcase] at htext hlength
    have hany : es.any keep = false :=
      filter_zipIdx_eq_nil.mp (List.length_eq_zero_iff.mp hlength.symm)
    obtain rfl : text = [] := htext
    obtain rfl : ss = [] := hnone hany
    refine ⟨F, hF, hrows, ⟨fun _ => ⟨rfl, hcase⟩, fun h => ?_⟩⟩
    rw [h] at hany
    cases hany
  | cons r rs =>
    rw [hcase] at htext hlength
    have hany : es.any keep = true := by
      rw [← Bool.not_eq_false, ← filter_zipIdx_eq_nil (i := 0)]
      intro hnil
      rw [hnil] at hlength
      cases hlength
    rw [if_pos (htext.lt_size hlong)]
    refine ⟨F, hF, hmeant fun s hs => ?_, ⟨fun h => ?_, fun _ => ?_⟩⟩
    · cases hhead : es.head?.any keep with
      | true =>
        obtain ⟨s', hs', htable, -⟩ := (htext.gathers hhead).meaning
        rw [← Option.some.inj (hs'.symm.trans hs), htable]
      | false =>
        rw [(htext.gathers_headless hhead).meaning_eq_none] at hs
        cases hs
    · rw [h] at hany
      cases hany
    · rw [hcase]
      exact ⟨ss, text, r, rs, rfl, hnames, rfl, htext⟩

/-! ## The rows of the elements that are kept -/

variable {own : Int64 → α → Row} {owns : α → Int64 → Prop} {es : List α} {ss : List (Text σ)}

/-- The elements are stored by one statement with one header, which is read to have a tuple for each
of them, in order; if there are none, nothing is executed at all. -/
structure StoredAtOnce (t : Table) (print : σ → List Char) (names : List String)
    (owns : α → Int64 → Prop) (own : Int64 → α → Row) (es : List α)
    (ss : List (Text σ)) : Prop where
  none : es = [] → ss = []
  statement : es ≠ [] → ∃ under text s, ss = under ++ [text] ∧ (∀ u ∈ under, Executed names u) ∧
    read (chars print text) = some s ∧ s.table = t.table ∧ s.columns = t.columns ∧
    List.Forall₂ (fun e r => ∃ id, owns e id ∧ r = own id e) es s.rows

theorem filter_ne_nil_iff_any {es : List α} : es.filter keep ≠ [] ↔ es.any keep = true := by
  rw [Ne, List.filter_eq_nil_iff, ← List.any_eq_false, Bool.not_eq_false]

theorem filter_zipIdx_map_fst (keep : α → Bool) (es : List α) :
    (es.zipIdx.filter fun q => keep q.1).map Prod.fst = es.filter keep := by
  rw [← Function.comp_def keep Prod.fst, ← List.filter_map, List.zipIdx_map_fst]

/-- The rows that are gathered are those of the elements that are kept. -/
theorem forall₂_kept {F : Forest Int64 Row}
    (hkids : ∀ id q f, kids id q f → f.rowsAt t.table = [])
    (howns : ∀ id q f, kids id q f → owns q.1 id)
    (hF : Forest.Grown t.table (fun id q => own id q.1) kids
      (es.zipIdx.filter fun q => keep q.1) F) :
    List.Forall₂ (fun e r => ∃ id, owns e id ∧ r = own id e) (es.filter keep)
      (F.rowsAt t.table) := by
  rw [← filter_zipIdx_map_fst, List.forall₂_map_left_iff]
  refine (hF.forall₂_rowsAt hkids).imp ?_
  rintro q r ⟨id, under, hunder, rfl⟩
  exact ⟨id, howns id q under hunder, rfl⟩

/-- What holds of the rows, said of their elements. -/
theorem forall_mem_iff_of_forall₂ {β : Type} {R : α → β → Prop} {P : α → Prop} {Q : β → Prop} :
    ∀ {es : List α} {rs : List β}, List.Forall₂ R es rs →
      (∀ e ∈ es, ∀ r, R e r → (Q r ↔ P e)) → ((∀ r ∈ rs, Q r) ↔ ∀ e ∈ es, P e)
  | [], _, .nil, _ => iff_of_true (List.forall_mem_nil Q) (List.forall_mem_nil P)
  | e :: es, r :: rs, .cons hr hrest, h => by
      rw [List.forall_mem_cons] at h
      rw [List.forall_mem_cons, List.forall_mem_cons, h.1 r hr, forall_mem_iff_of_forall₂ hrest h.2]

/-- Rows of the same elements have the same letters. -/
theorem flatMap_rowLetters_eq (hown : ∀ id id' e, rowLetters (own id e) = rowLetters (own id' e)) :
    ∀ {es : List α} {rs rs' : List Row},
    List.Forall₂ (fun e r => ∃ id, owns e id ∧ r = own id e) es rs →
    List.Forall₂ (fun e r => ∃ id, owns e id ∧ r = own id e) es rs' →
    rs.flatMap rowLetters = rs'.flatMap rowLetters
  | [], _, _, .nil, .nil => rfl
  | e :: es, _, _, .cons ⟨id, _, hr⟩ h, .cons ⟨id', _, hr'⟩ h' => by
      rw [List.flatMap_cons, List.flatMap_cons, hr, hr', hown id id' e,
        flatMap_rowLetters_eq hown h h']

namespace Table.Gathers

variable {t : Table} {row : Row} {rows : List Row} {text : Text σ}

/-- A statement whose strings are literal is read to have the rows that were gathered. -/
theorem exists_read (h : t.Gathers content 0 (row :: rows) text)
    (hrows : ∀ r ∈ row :: rows, RowLiteral r) :
    ∃ m, read (chars (printed content) (terminated text)) = some m ∧ m.table = t.table ∧
      m.columns = t.columns ∧ m.rows = row :: rows := by
  obtain ⟨m, hm, htable, hcolumns, hmrows⟩ := h.meaning
  have htemplated : Templated [t.table] (terminated text) := h.formatted.terminated
  refine ⟨m, ?_, htable, hcolumns, hmrows⟩
  rw [htemplated.read_eq_meaning fun s hs => denotes_of_isLiteral ?_, hm]
  obtain ⟨r, hr, hmem⟩ := List.mem_flatMap.mp (htemplated.mem_rowLetters hm s hs)
  rw [hmrows] at hr
  exact hrows r hr _ hmem

/-- A statement that is read to have the letters of the rows that were gathered has literal
strings. -/
theorem rowLiteral_of_read {m : Insert} (h : t.Gathers content 0 (row :: rows) text)
    (hread : read (chars (printed content) (terminated text)) = some m)
    (hletters : (row :: rows).flatMap rowLetters = m.rows.flatMap rowLetters) :
    ∀ r ∈ row :: rows, RowLiteral r := by
  obtain ⟨m', hm, -, -, hmrows⟩ := h.meaning
  refine h.rowLiteral fun s hs => ?_
  have heq : m'.rows.flatMap rowLetters ++ [] = m.rows.flatMap rowLetters ++ [] := by
    rw [hmrows, hletters]
  refine h.formatted.terminated.literal (fun _ => rfl) hread hm heq s ?_
  rwa [h.formatted.strings_terminated]

end Table.Gathers

/-- **Stored at once if the statement has its start and its strings are literal**, and only then. -/
theorem Closes.atOnce_iff {F : Forest Int64 Row} (texts : α → List σ)
    (hkids : ∀ id q f, kids id q f → f.rowsAt t.table = [])
    (howns : ∀ id q f, kids id q f → owns q.1 id)
    (hown : ∀ id id' e, rowLetters (own id e) = rowLetters (own id' e))
    (htexts : ∀ id e, keep e = true →
      (RowLiteral (own id e) ↔ ∀ s ∈ texts e, isLiteral (content s) = true))
    (hF : Forest.Grown t.table (fun id q => own id q.1) kids
      (es.zipIdx.filter fun q => keep q.1) F)
    (h : Closes t content names keep es (F.rowsAt t.table) ss) :
    StoredAtOnce t (printed content) names owns own (es.filter keep) ss ↔
      Starts keep es ∧ ∀ e ∈ es, keep e = true → ∀ s ∈ texts e, isLiteral (content s) = true := by
  have hrows : List.Forall₂ (fun e r => ∃ id, owns e id ∧ r = own id e) (es.filter keep)
      (F.rowsAt t.table) := forall₂_kept hkids howns hF
  have hliteral : (∀ r ∈ F.rowsAt t.table, RowLiteral r) ↔
      ∀ e ∈ es, keep e = true → ∀ s ∈ texts e, isLiteral (content s) = true := by
    simp only [← and_imp, ← List.mem_filter]
    refine forall_mem_iff_of_forall₂ hrows fun e he r => ?_
    rintro ⟨id, -, rfl⟩
    exact htexts id e (List.mem_filter.mp he).2
  rw [← hliteral]
  cases hany : es.any keep with
  | false =>
    obtain ⟨rfl, hnil⟩ := h.none hany
    rw [hnil]
    refine iff_of_true ⟨fun _ => rfl, fun hne => ?_⟩
      ⟨fun hkept => absurd hkept (by rw [hany]; exact Bool.false_ne_true), List.forall_mem_nil _⟩
    rw [filter_ne_nil_iff_any, hany] at hne
    cases hne
  | true =>
    obtain ⟨under, text, row, rest, hss, hunder, hcase, htext⟩ := h.some hany
    rw [hcase] at htext hrows ⊢
    rw [starts_iff_of_any hany]
    constructor
    · intro hstored
      obtain ⟨under', text', s, hss', -, hs, -, -, hsrows⟩ :=
        hstored.statement (filter_ne_nil_iff_any.mpr hany)
      obtain ⟨-, heq⟩ := List.append_inj' (hss.symm.trans hss') rfl
      obtain rfl := List.singleton_inj.mp heq
      have hhead : es.head?.any keep = true := by
        rw [← Bool.not_eq_false]
        intro hhead
        rw [(htext.gathers_headless hhead).read_eq_none] at hs
        cases hs
      exact ⟨hhead, (htext.gathers hhead).rowLiteral_of_read hs
        (flatMap_rowLetters_eq hown hrows hsrows)⟩
    · rintro ⟨hhead, hrowsLiteral⟩
      obtain ⟨m, hread, htable, hcolumns, hmrows⟩ := (htext.gathers hhead).exists_read hrowsLiteral
      refine ⟨fun hnil => absurd hnil (filter_ne_nil_iff_any.mpr hany), fun _ =>
        ⟨under, terminated text, m, hss, hunder, hread, htable, hcolumns, ?_⟩⟩
      rw [hmrows]
      exact hrows

/-- The rows of the statement, if it has its start. -/
theorem Closes.meantRows_eq {rows : List Row} (h : Closes t content names keep es rows ss)
    (hnames : t.table ∉ names) (hstarts : Starts keep es) :
    meantRows content t.table ss = rows := by
  cases hany : es.any keep with
  | false =>
    obtain ⟨rfl, rfl⟩ := h.none hany
    rfl
  | true =>
    obtain ⟨under, text, row, rest, rfl, hunder, rfl, htext⟩ := h.some hany
    obtain ⟨s, hs, htable, -, hrows⟩ := (htext.gathers (hstarts hany)).meaning
    rw [meantRows_append, meantRows_eq_nil hunder hnames, meantRows_singleton hs, if_pos htable,
      hrows, List.nil_append]

/-! ## What is below the elements that are kept -/

theorem forall_mem_filter_zipIdx {P : α → Prop} :
    (∀ q ∈ es.zipIdx.filter (fun q => keep q.1), P q.1) ↔ ∀ e ∈ es, keep e = true → P e := by
  rw [← List.forall_mem_map, filter_zipIdx_map_fst]
  simp only [List.mem_filter, and_imp]

theorem mem_filter_zipIdx {q : α × ℕ} :
    q ∈ es.zipIdx.filter (fun q => keep q.1) ↔ es[q.2]? = some q.1 ∧ keep q.1 = true := by
  rw [List.mem_filter, List.mem_zipIdx_iff_getElem?]

/-- The forest of the elements that are kept, with or without their places. -/
theorem grown_filter {table : String} {below : Int64 → α → Forest Int64 Row → Prop}
    {F : Forest Int64 Row} :
    Forest.Grown table own below (es.filter keep) F ↔
      Forest.Grown table (fun id q => own id q.1) (fun id q => below id q.1)
        (es.zipIdx.filter fun q => keep q.1) F := by
  rw [← filter_zipIdx_map_fst, Forest.grown_map]

/-- In the tables `T` there is `below` for each element that is kept, with the identifier of its own
row; and those are the rows that are stored, if the statement has its start. -/
def StoredBelow (t : Table) (content : σ → List Char) (T : List String) (own : Int64 → α → Row)
    (below : Int64 → α → Forest Int64 Row → Prop) (keep : α → Bool) (es : List α)
    (ss : List (Text σ)) : Prop :=
  ∃ F, Forest.Grown t.table own below (es.filter keep) F ∧
    (∀ table ∈ T, meantRows content table ss = F.rowsAt table) ∧
    (Starts keep es → meantRows content t.table ss = F.rowsAt t.table)

/-- **When what is stored below is what should be**, if one of the tables tells. -/
theorem Closes.storedBelow_iff {F : Forest Int64 Row} {below : Int64 → α → Forest Int64 Row → Prop}
    {cond : α × ℕ → Prop} {u : String} {n : α → ℕ}
    (hF : Forest.Grown t.table (fun id q => own id q.1) kids
      (es.zipIdx.filter fun q => keep q.1) F)
    (hrows : ∀ table ∈ T, meantRows content table ss = F.rowsAt table)
    (h : Closes t content names keep es (F.rowsAt t.table) ss)
    (hnames : t.table ∉ names) (hu : u ∈ T) (hut : u ≠ t.table)
    (hlength : ∀ id q f, kids id q f → (f.rowsAt u).length = n q.1)
    (hlength' : ∀ id e f, below id e f → (f.rowsAt u).length = n e)
    (hfrom : ∀ q ∈ es.zipIdx.filter (fun q => keep q.1), ∀ id id' f f', kids id q f →
      below id' q.1 f' → f.rowsAt u = f'.rowsAt u → cond q)
    (hto : ∀ q ∈ es.zipIdx.filter (fun q => keep q.1), cond q → ∀ id f, kids id q f →
      ∃ f', below id q.1 f' ∧ ∀ table ∈ t.table :: T, f'.rowsAt table = f.rowsAt table) :
    StoredBelow t content T own below keep es ss ↔
      ∀ q ∈ es.zipIdx.filter (fun q => keep q.1), cond q := by
  constructor
  · rintro ⟨F', hF', hrows', -⟩ q hq
    obtain ⟨id, id', f, f', hf, hf', heq⟩ := Forest.Grown.under_eq (n := fun q => n q.1) hut hlength
      (fun id q => hlength' id q.1) hF (grown_filter.mp hF')
      ((hrows u hu).symm.trans (hrows' u hu)) q hq
    exact hfrom q hq id id' f f' hf hf' heq
  · intro hcond
    obtain ⟨F', hF', hrows'⟩ := hF.replace fun q hq id f hf => hto q hq (hcond q hq) id f hf
    refine ⟨F', grown_filter.mpr hF', fun table htable => ?_, fun hstarts => ?_⟩
    · rw [hrows table htable, hrows' table (.tail _ htable)]
    · rw [h.meantRows_eq hnames hstarts, hrows' t.table (.head _)]

end DataInsert

end Sadip

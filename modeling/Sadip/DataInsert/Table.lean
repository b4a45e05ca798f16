import Sadip.DataInsert.Layout

/-!
# DataInsert/Table — the rows that are stored

A `Table` is a layout whose tuples have a value for every column.  `rowsOf` says which rows a run
has stored in a table, going by the text of its statements; `meantRows` which it was meant to.

If every tuple has what its columns ask for, and what is below an element is inserted too, then the
rows that are meant are a forest grown from the list (`grows_insertEach`).
-/

namespace Sadip

namespace DataInsert

open Printf Sql Insertion

variable {σ α : Type}

/-- The header has these columns, and a tuple a slot for each of them. -/
structure Matches (header row table : String) (columns : List String)
    (slots : List Slot) : Prop where
  opens : Opens header.toList table columns
  shapes : Shapes row.toList slots
  arity : slots.length = columns.length

theorem Matches.of_chars {header row table : String} {columns : List String} {slots : List Slot}
    {h r n : List Char} {cs : List (List Char)} (hh : header = String.ofList h)
    (hr : row = String.ofList r) (hn : table = String.ofList n) (hcs : Spells columns cs)
    (hmatches : (decide (opening h = some (n, cs)) && Sql.shapes r slots &&
      decide (slots.length = cs.length)) = true) : Matches header row table columns slots := by
  rw [Bool.and_eq_true, Bool.and_eq_true, decide_eq_true_iff, decide_eq_true_iff] at hmatches
  exact ⟨.of_chars hh hn hcs hmatches.1.1, .of_chars hr hmatches.1.2,
    hmatches.2.trans hcs.length_eq.symm⟩

structure Table extends Layout where
  columns : List String
  matched : Matches header row table columns slots

/-! Values as they are stored. -/

def int32 (v : Int32) : Value := .number v.toInt

def int64 (v : Int64) : Value := .number v.toInt

@[simp] theorem int32_inj {v w : Int32} : int32 v = int32 w ↔ v = w := by
  rw [int32, int32, Value.number.injEq, Int32.toInt_inj]

def text (content : σ → List Char) (s : Option σ) : Value := .text (s.elim [] content)

/-- The rows that a statement inserts into a table. -/
def rowsIn (table : String) (s : Option Insert) : List Row :=
  match s with
  | some s => if s.table = table then s.rows else []
  | none => []

/-- The rows that the statements insert into a table. -/
def rowsOf (print : σ → List Char) (table : String) (ss : List (Text σ)) : List Row :=
  ss.flatMap fun t => rowsIn table (read (chars print t))

/-- The rows that they are meant to insert. -/
def meantRows (content : σ → List Char) (table : String) (ss : List (Text σ)) : List Row :=
  ss.flatMap fun t => rowsIn table (meaning content t)

variable {print content : σ → List Char} {names : List String}

@[simp] theorem meantRows_append (table : String) (ss ss' : List (Text σ)) :
    meantRows content table (ss ++ ss') = meantRows content table ss ++
      meantRows content table ss' :=
  List.flatMap_append

@[simp] theorem meantRows_nil (table : String) :
    meantRows content table ([] : List (Text σ)) = [] :=
  rfl

theorem meantRows_singleton {text : Text σ} {s : Insert} (hs : meaning content text = some s)
    (table : String) : meantRows content table [text] = if s.table = table then s.rows else [] := by
  rw [meantRows, List.flatMap_singleton, hs]
  rfl

theorem rowsIn_eq_nil {table : String} {o : Option Insert} (h : ∀ s, o = some s → s.table ≠ table) :
    rowsIn table o = [] := by
  cases o with
  | none => rfl
  | some s => exact if_neg (h s rfl)

/-! Statements on other tables. -/

theorem meantRows_eq_nil {ss : List (Text σ)} (hss : ∀ t ∈ ss, Executed names t) {table : String}
    (htable : table ∉ names) : meantRows content table ss = [] := by
  refine List.flatMap_eq_nil_iff.mpr fun t ht => rowsIn_eq_nil fun s hs heq => htable ?_
  rw [← heq]
  exact (hss t ht).1.table_mem hs

namespace Table

/-- The arguments have the types that the format asks for, and `row` is the row they become. -/
def Stores (t : Table) (content : σ → List Char) (as : List (Arg σ)) (row : Row) : Prop :=
  Fills as t.slots ∧ t.columns.zip (values content t.slots as) = row

theorem stores {t : Table} {as : List (Arg σ)} {row : Row} (hfills : fills as t.slots = true)
    (hrow : t.columns.zip (values content t.slots as) = row) : t.Stores content as row :=
  ⟨fills_iff.mp hfills, hrow⟩

/-- `text` is what the `i`th element adds to the statement, and `row` the row it stores. -/
def Adds (t : Table) (content : σ → List Char) (i : ℕ) (row : Row) (text : Text σ) : Prop :=
  ∃ as r, t.Stores content as row ∧ Printed t.row.toList as r ∧
    text = (if i = 0 then literal t.header.toList else []) ++ r

/-- `text` is what elements add to the statement from the `i`th on, and these the rows they store.
-/
def Gathers (t : Table) (content : σ → List Char) : ℕ → List Row → Text σ → Prop
  | _, [], text => text = []
  | i, row :: rows, text => ∃ a b, text = a ++ b ∧ t.Adds content i row a ∧
    t.Gathers content (i + 1) rows b

variable {t : Table}

theorem gathers_nil {i : ℕ} : t.Gathers content i [] [] := rfl

theorem Gathers.tuples : ∀ {i : ℕ} {rows : List Row} {text : Text σ},
    t.Gathers content (i + 1) rows text → ∃ rs : List (List (Arg σ) × Text σ),
      text = (rs.map Prod.snd).flatten ∧ (∀ r ∈ rs, Fills r.1 t.slots) ∧
      (∀ r ∈ rs, Printed t.row.toList r.1 r.2) ∧
      rs.map (fun r => t.columns.zip (values content t.slots r.1)) = rows
  | _, [], _, h => ⟨[], h, by simp, by simp, rfl⟩
  | i, row :: rows, text, h => by
      obtain ⟨a, b, rfl, ⟨as, r, ⟨hfills, rfl⟩, hr, ha⟩, hb⟩ := h
      obtain ⟨rs, rfl, hall, hprinted, rfl⟩ := hb.tuples
      refine ⟨(as, r) :: rs, by rw [ha]; rfl, ?_, ?_, rfl⟩
      · exact List.forall_mem_cons.mpr ⟨hfills, hall⟩
      · exact List.forall_mem_cons.mpr ⟨hr, hprinted⟩

/-- **The statement of a loop** means the rows of its elements. -/
theorem Gathers.meaning {row : Row} {rows : List Row} {text : Text σ}
    (h : t.Gathers content 0 (row :: rows) text) :
    ∃ s, Sql.meaning content (terminated text) = some s ∧ s.table = t.table ∧
      s.columns = t.columns ∧ s.rows = row :: rows := by
  obtain ⟨a, b, rfl, ⟨as, r, ⟨hfills, rfl⟩, hr, rfl⟩, hb⟩ := h
  obtain ⟨rs, rfl, hall, hprinted, rfl⟩ := hb.tuples
  have hnil : (as, r) :: rs ≠ [] := List.cons_ne_nil _ _
  obtain ⟨s, hs, htable, hcolumns, htuples⟩ : ∃ s, Sql.meaning content _ = some s ∧ _ :=
    meaning_rows t.matched.opens t.matched.shapes t.matched.arity hnil
      (List.forall_mem_cons.mpr ⟨hfills, hall⟩) (List.forall_mem_cons.mpr ⟨hr, hprinted⟩)
  rw [if_pos rfl, List.append_assoc]
  refine ⟨s, hs, htable, hcolumns, ?_⟩
  rw [Insert.rows, hcolumns, htuples, List.map_map]
  rfl

/-- Without the start there is no statement: the first token is a parenthesis. -/
theorem Gathers.meaning_eq_none {i : ℕ} {row : Row} {rows : List Row} {text : Text σ}
    (h : t.Gathers content (i + 1) (row :: rows) text) :
    Sql.meaning content (terminated text) = none := by
  obtain ⟨a, b, rfl, ⟨as, r, ⟨hfills, -⟩, hr, ha⟩, -⟩ := h
  obtain ⟨c, rfl, -⟩ : ∃ c, r = _ ∧ Lists content c _ := t.matched.shapes.lists hfills hr
  rw [ha, if_neg (Nat.succ_ne_zero i), List.nil_append, terminated, List.cons_append,
    List.dropLast_cons_of_ne_nil (by simp), Sql.meaning, meantTokens, List.cons_append,
    List.cons_append,
    meant_cons_of_pass (show pass content .start (.char '(') = some (.start, [.opening]) from rfl)]
  rcases meant content .start _ with - | ⟨m, ts⟩
  · rfl
  · cases m <;> rfl

/-- Only the first element has the start. -/
theorem Gathers.shift {j : ℕ} : ∀ {i : ℕ} {rows : List Row} {text : Text σ},
    t.Gathers content (i + 1) rows text → t.Gathers content (j + 1) rows text
  | _, [], _, h => h
  | i, row :: rows, _, h => by
      obtain ⟨a, b, rfl, ⟨as, r, hstores, hr, ha⟩, hb⟩ := h
      exact ⟨a, b, rfl, ⟨as, r, hstores, hr, ha⟩, hb.shift⟩

theorem Gathers.lt_size {row : Row} {rows : List Row} {text : Text σ}
    (h : t.Gathers content 0 (row :: rows) text) : 10 < Printf.size print text := by
  obtain ⟨a, b, rfl, ⟨as, r, -, -, rfl⟩, -⟩ := h
  have hheader := t.lt_bulk_header (σ := σ)
  have hbulk : _ ≤ size print _ := bulk_le_size (literal t.header.toList)
  rw [if_pos rfl, size_append, size_append]
  omega

end Table

/-- All of these are meant to be statements. -/
def Formed (content : σ → List Char) (ss : List (Text σ)) : Prop :=
  ∀ t ∈ ss, (meaning content t).isSome = true

theorem Formed.append {ss ss' : List (Text σ)} (h : Formed content ss) (h' : Formed content ss') :
    Formed content (ss ++ ss') := List.forall_mem_append.mpr ⟨h, h'⟩

theorem formed_singleton {text : Text σ} {s : Insert} (hs : meaning content text = some s) :
    Formed content [text] :=
  List.forall_mem_singleton.mpr (by rw [hs, Option.isSome_some])

/-- The statement of a format that is whole. -/
theorem yields_whole {t : Table} {I : Int64 → Prop} {fmt : String} {size : ℕ} {as : List (Arg σ)}
    (row : Row) (hwhole : Whole fmt t.header t.row) (h : t.Stores content as row) :
    Yields print I (sprintf size fmt as >>= excuteSql)
      (fun _ ss _ => meantRows content t.table ss = [row] ∧ Formed content ss)
        fun _ _ => False := by
  obtain ⟨r, hr⟩ := t.matched.shapes.printed h.1
  have hgathers : t.Gathers content 0 [row] (literal t.header.toList ++ r) :=
    ⟨_, [], (List.append_nil _).symm, ⟨as, r, h, hr, rfl⟩, rfl⟩
  obtain ⟨s, hs, htable, -, hrows⟩ := hgathers.meaning
  rw [sprintf_of_printed ((hwhole.printed_iff t.sound).mpr ⟨r, hr, rfl⟩)]
  show meantRows content t.table [_] = [row] ∧ Formed content [_]
  rw [meantRows_singleton hs, if_pos htable, hrows]
  exact ⟨rfl, formed_singleton hs⟩

/-! ## Forests -/

variable {I : Int64 → Prop} {carried : List Int64}

/-- The rows that the statements are meant to insert are those of the forest.  Its identifiers, less
those that the message carried, are among those taken for it, each as often. -/
structure Bears (content : σ → List Char) (carried ds : List Int64) (ss : List (Text σ))
    (F : Forest Int64 Row) : Prop where
  rows : ∀ table, meantRows content table ss = F.rowsAt table
  formed : Formed content ss
  ids : (F.ids.filter (· ∉ carried)).Subperm ds

/-- The result is reached, and what is inserted is a forest in `P`. -/
def Grows (print content : σ → List Char) (I : Int64 → Prop) (carried : List Int64)
    (p : Insertion σ Unit) (P : Forest Int64 Row → Prop) : Prop :=
  Yields print I p (fun ds ss _ => ∃ F, P F ∧ Bears content carried ds ss F) fun _ _ => False

/-- A part of an insertion that is a forest of its own. -/
theorem Grows.bind {p : Insertion σ Unit} {P : Forest Int64 Row → Prop} {f : Unit → Insertion σ α}
    {R : List Int64 → List (Text σ) → α → Prop} {U : List Int64 → List (Text σ) → Prop}
    (hp : Grows print content I carried p P) (hf : ∀ ds ss F, P F → Bears content carried ds ss F →
      Yields print I (f ()) (fun ds' ss' => R (ds ++ ds') (ss ++ ss'))
        fun ds' ss' => U (ds ++ ds') (ss ++ ss')) :
    Yields print I (p >>= f) R U := by
  refine yields_bind.mpr (Yields.mono hp ?_ fun _ _ h => h.elim)
  rintro ds ss - ⟨F, hF, hbears⟩
  exact hf ds ss F hF hbears

theorem Bears.nil : Bears content carried [] ([] : List (Text σ)) .nil :=
  ⟨fun _ => rfl, nofun, .refl _⟩

theorem Bears.append {ds ds' : List Int64} {ss ss' : List (Text σ)} {F G : Forest Int64 Row}
    (hF : Bears content carried ds ss F) (hG : Bears content carried ds' ss' G) :
    Bears content carried (ds ++ ds') (ss ++ ss') (F.append G) where
  rows table := by rw [meantRows_append, hF.rows, hG.rows, Forest.rowsAt_append]
  formed := hF.formed.append hG.formed
  ids := by
    rw [Forest.ids_append, List.filter_append]
    exact hF.ids.append hG.ids

theorem Grows.both {p q : Insertion σ Unit} {P Q : Forest Int64 Row → Prop}
    (hp : Grows print content I carried p P) (hq : Grows print content I carried q Q) :
    Grows print content I carried (p >>= fun _ => q) (Forest.Both P Q) := by
  refine hp.bind fun ds ss F hF hbF => Yields.mono hq ?_ fun _ _ h => h.elim
  rintro ds' ss' - ⟨G, hG, hbG⟩
  exact ⟨F.append G, ⟨F, G, rfl, hF, hG⟩, hbF.append hbG⟩

/-- An element has been inserted: its own row is still in `text`, what is below it has been stored.
-/
def Planted (t : Table) (content : σ → List Char) (carried : List Int64) (row : Int64 → α → Row)
    (kids : Int64 → α → Forest Int64 Row → Prop) (i : ℕ) (e : α) (ds : List Int64)
    (ss : List (Text σ)) (text : Text σ) : Prop :=
  ∃ id under, t.Adds content i (row id e) text ∧ kids id e under ∧
    (∀ table, meantRows content table ss = under.rowsAt table) ∧ Formed content ss ∧
    ((id :: under.ids).filter (· ∉ carried)).Subperm ds

/-- What a loop has gathered from the `i`th element on, and has stored below these elements. -/
def Growing (t : Table) (content : σ → List Char) (carried : List Int64) (row : Int64 → α → Row)
    (kids : Int64 → α → Forest Int64 Row → Prop) (i : ℕ) (es : List α) (ds : List Int64)
    (ss : List (Text σ)) (text : Text σ) : Prop :=
  ∃ F, Forest.Grown t.table row kids es F ∧ t.Gathers content i (F.rowsAt t.table) text ∧
    (∀ table, meantRows content table ss = if table = t.table then [] else F.rowsAt table) ∧
    Formed content ss ∧ (F.ids.filter (· ∉ carried)).Subperm ds

section

variable {t : Table} {row : Int64 → α → Row} {kids : Int64 → α → Forest Int64 Row → Prop}

theorem Growing.nil {i : ℕ} : Growing t content carried row kids i [] [] [] [] := by
  refine ⟨.nil, rfl, rfl, fun table => ?_, nofun, .refl _⟩
  rw [Forest.rowsAt_nil, ite_self]
  rfl

theorem Growing.cons (hkids : ∀ id e f, kids id e f → f.rowsAt t.table = []) {i : ℕ} {e : α}
    {es : List α} {ds ds' : List Int64} {ss ss' : List (Text σ)} {text text' : Text σ}
    (h : Planted t content carried row kids i e ds ss text)
    (h' : Growing t content carried row kids (i + 1) es ds' ss' text') :
    Growing t content carried row kids i (e :: es) (ds ++ ds') (ss ++ ss') (text ++ text') := by
  obtain ⟨id, under, htext, hunder, hrows, hformed, hids⟩ := h
  obtain ⟨F, hF, htext', hrows', hformed', hids'⟩ := h'
  have htop : (Forest.node t.table id (row id e) under F).rowsAt t.table
      = row id e :: F.rowsAt t.table := by
    rw [Forest.rowsAt, if_pos rfl, hkids id e under hunder]
    rfl
  refine ⟨.node t.table id (row id e) under F, ⟨id, under, F, rfl, hunder, hF⟩, ?_, fun table => ?_,
    hformed.append hformed', ?_⟩
  · rw [htop]
    exact ⟨text, text', rfl, htext, htext'⟩
  · rw [meantRows_append, hrows, hrows']
    split
    · next heq => rw [heq, hkids id e under hunder, List.append_nil]
    · next hne => rw [Forest.rowsAt, if_neg fun h => hne h.symm, List.nil_append]
  · rw [Forest.ids, ← List.cons_append, List.filter_append]
    exact hids.append hids'

/-- **The end of a loop**: the rows of the elements are stored too. -/
theorem Growing.yields_flush {es : List α} {ds : List Int64} {ss : List (Text σ)} {text : Text σ}
    (h : Growing t content carried row kids 0 es ds ss text) :
    Yields print I (flush text) (fun ds' ss' _ => ∃ F, Forest.Grown t.table row kids es F ∧
      Bears content carried (ds ++ ds') (ss ++ ss') F) fun _ _ => False := by
  obtain ⟨F, hF, htext, hrows, hformed, hids⟩ := h
  have hids' : (F.ids.filter (· ∉ carried)).Subperm (ds ++ []) := by rwa [List.append_nil]
  show if _ then _ else _
  cases hcase : F.rowsAt t.table with
  | nil =>
      rw [hcase] at htext
      obtain rfl : text = [] := htext
      refine ⟨F, hF, fun table => ?_, by rwa [List.append_nil], hids'⟩
      rw [meantRows_append, hrows, meantRows_nil, List.append_nil]
      split
      · next heq => rw [heq, hcase]
      · rfl
  | cons r rs =>
      rw [hcase] at htext
      obtain ⟨s, hs, htable, -, hstored⟩ := htext.meaning
      rw [if_pos htext.lt_size]
      refine ⟨F, hF, fun table => ?_, hformed.append (formed_singleton hs), hids'⟩
      rw [meantRows_append, hrows, meantRows_singleton hs, htable, hstored]
      split
      · next heq => rw [heq, hcase, if_pos rfl, List.nil_append]
      · next hne => rw [if_neg fun h => hne h.symm, List.append_nil]

end

theorem yields_nextId {R : List Int64 → List (Text σ) → Int64 → Prop}
    {U : List Int64 → List (Text σ) → Prop} :
    Yields print I nextId R U ↔ ∀ id, I id → R [id] [] id := Iff.rfl

theorem yields_append {t : Table} {as : List (Arg σ)} (row : Row) (h : t.Stores content as row)
    {i : ℕ} {R : List Int64 → List (Text σ) → Text σ → Prop} {U : List Int64 → List (Text σ) → Prop}
    (hR : ∀ text, t.Adds content i row text → R [] [] text) :
    Yields print I (t.append i as) R U := by
  obtain ⟨r, hr⟩ := t.matched.shapes.printed h.1
  rw [Layout.append, Layout.start, yields_bind]
  split
  · next hi =>
      rw [sprintf_of_printed t.printed_header, sprintf_of_printed hr]
      exact hR _ ⟨as, r, h, hr, by rw [if_pos hi]⟩
  · next hi =>
      rw [sprintf_of_printed hr]
      exact hR _ ⟨as, r, h, hr, by rw [if_neg hi]⟩

section

variable {t : Table} {row : Int64 → α × ℕ → Row} {kids : Int64 → α × ℕ → Forest Int64 Row → Prop}
  {body : ℕ → α → Insertion σ (Text σ)}

theorem yields_forEach (hkids : ∀ id q f, kids id q f → f.rowsAt t.table = []) :
    ∀ (i : ℕ) (es : List α), (∀ q ∈ es.zipIdx i, Yields print I (body q.2 q.1)
      (Planted t content carried row kids q.2 q) fun _ _ => False) →
    Yields print I (forEach body i es) (Growing t content carried row kids i (es.zipIdx i))
      fun _ _ => False
  | i, [], _ => Growing.nil
  | i, e :: es, hbody => by
      rw [forEach, yields_bind]
      refine (hbody (e, i) List.mem_cons_self).mono ?_ fun _ _ h => h.elim
      intro ds ss text htext
      rw [yields_bind]
      have hrest := yields_forEach hkids (i + 1) es fun q hq => hbody q (.tail _ hq)
      refine hrest.mono ?_ fun _ _ h => h.elim
      intro ds' ss' text' htext'
      rw [yields_pure, List.append_nil, List.append_nil]
      exact .cons hkids htext htext'

/-- **A list is stored as a forest**, which may depend on the places of the elements. -/
theorem grows_insertEach_zipIdx (hkids : ∀ id q f, kids id q f → f.rowsAt t.table = [])
    {es : List α} (hbody : ∀ q ∈ es.zipIdx, Yields print I (body q.2 q.1)
      (Planted t content carried row kids q.2 q) fun _ _ => False) :
    Grows print content I carried (insertEach body es)
      (Forest.Grown t.table row kids es.zipIdx) := by
  rw [Grows, insertEach, yields_bind]
  exact (yields_forEach hkids 0 es hbody).mono (fun _ _ _ h => h.yields_flush) fun _ _ h => h.elim

end

variable {t : Table} {row : Int64 → α → Row} {kids : Int64 → α → Forest Int64 Row → Prop}
  {body : ℕ → α → Insertion σ (Text σ)}

/-- **A list is stored as a forest.** -/
theorem grows_insertEach (hkids : ∀ id e f, kids id e f → f.rowsAt t.table = []) {es : List α}
    (hbody : ∀ i, ∀ e ∈ es, Yields print I (body i e) (Planted t content carried row kids i e)
      fun _ _ => False) :
    Grows print content I carried (insertEach body es) (Forest.Grown t.table row kids es) := by
  have h : Grows print content I carried (insertEach body es)
      (Forest.Grown t.table (fun id q => row id q.1) (fun id q => kids id q.1) es.zipIdx) :=
    grows_insertEach_zipIdx (fun id q => hkids id q.1) fun q hq =>
      hbody q.2 q.1 (List.fst_mem_of_mem_zipIdx hq)
  refine Yields.mono h ?_ fun _ _ h => h
  rintro ds ss - ⟨F, hF, hbears⟩
  refine ⟨F, ?_, hbears⟩
  have hmap : Forest.Grown t.table row kids (es.zipIdx.map Prod.fst) F :=
    (Forest.grown_map Prod.fst es.zipIdx).mpr hF
  rwa [List.zipIdx_map_fst] at hmap

/-- A list whose elements have nothing below them. -/
theorem grows_leaves {as : Int64 → α → List (Arg σ)}
    (h : ∀ id e, t.Stores content (as id e) (row id e)) (es : List α) :
    Grows print content I carried (insertEach
      (fun i e => nextId >>= fun id => t.append i (as id e)) es)
      (Forest.Leaves t.table row es) := by
  refine grows_insertEach (fun _ _ _ h => h.rowsAt_eq_nil) fun i e _ => ?_
  rw [yields_bind, yields_nextId]
  refine fun id _ => yields_append (row id e) (h id e) fun text htext => ?_
  exact ⟨id, .nil, htext, rfl, fun _ => rfl, nofun, List.filter_sublist.subperm⟩

/-- An element whose row is still in `text`, and what is below it. -/
theorem Planted.of_bears {i : ℕ} {e : α} {id : Int64} {under : Forest Int64 Row}
    {ds ds' : List Int64} {ss : List (Text σ)} {text : Text σ}
    (htext : t.Adds content i (row id e) text)
    (hds : ([id].filter (· ∉ carried)).Subperm ds) (hunder : kids id e under)
    (hbears : Bears content carried ds' ss under) :
    Planted t content carried row kids i e (ds ++ ds') ss text := by
  refine ⟨id, under, htext, hunder, hbears.rows, hbears.formed, ?_⟩
  rw [← List.singleton_append, List.filter_append]
  exact hds.append hbears.ids

/-- A list whose elements have a list below them, which is inserted after their own rows are
printed. -/
theorem grows_nested {β : Type} {as : Int64 → α → List (Arg σ)}
    (h : ∀ id e, t.Stores content (as id e) (row id e))
    (hkids : ∀ id e f, kids id e f → f.rowsAt t.table = []) {below : α → List β}
    {inner : Int64 → ℕ → β → Insertion σ (Text σ)}
    (hinner : ∀ id e, Grows print content I carried (insertEach (inner id) (below e)) (kids id e))
    (es : List α) :
    Grows print content I carried (insertEach
      (fun i e => nextId >>= fun id => t.append i (as id e) >>=
        fun sql => insertEach (inner id) (below e) >>= fun _ => pure sql) es)
      (Forest.Grown t.table row kids es) := by
  refine grows_insertEach hkids fun i e _ => ?_
  rw [yields_bind, yields_nextId]
  intro id hid
  rw [yields_bind]
  refine yields_append (row id e) (h id e) fun text htext => ?_
  refine (hinner id e).bind fun ds ss F hF hbF => ?_
  rw [yields_pure]
  simp only [List.nil_append, List.append_nil]
  exact .of_bears htext List.filter_sublist.subperm hF hbF

/-- `id` is the identifier that the message has for itself or, if that is zero, one of `I`. -/
def Owns (I : Int64 → Prop) (own : UInt64) (id : Int64) : Prop :=
  if own = 0 then I id else id = own.toInt64

theorem yields_ownId {own : UInt64} (hown : own ≠ 0 → own.toInt64 ∈ carried)
    {R : List Int64 → List (Text σ) → Int64 → Prop} {U : List Int64 → List (Text σ) → Prop}
    (h : ∀ ds id, Owns I own id → ([id].filter (· ∉ carried)).Subperm ds → R ds [] id) :
    Yields print I (ownId own) R U := by
  rw [ownId]
  split
  · next hzero =>
      exact fun id hid => h [id] id (by rwa [Owns, if_pos hzero]) List.filter_sublist.subperm
  · next hzero =>
      refine h [] _ (by rw [Owns, if_neg hzero]) ?_
      rw [List.filter_cons_of_neg (by simpa using hown hzero)]
      exact .refl _

/-- The list of a message that may be absent. -/
theorem grows_optionally {β : Type} {o : Option β} {f : β → Insertion σ Unit} {table : String}
    {es : β → List α} (h : ∀ b, Grows print content I carried (f b)
      (Forest.Grown table row kids (es b))) :
    Grows print content I carried (optionally o f)
      (Forest.Grown table row kids (o.elim [] es)) := by
  cases o with
  | none => exact ⟨.nil, rfl, .nil⟩
  | some b => exact h b

end DataInsert

end Sadip

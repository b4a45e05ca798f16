import Sadip.DataInsert.Insertion
import Sadip.Machinery.Forest
import Sadip.Machinery.Sql.Template

/-!
# DataInsert/Layout — the statements on a table

A list of the message goes into a table with one statement: the first element prints the start of
it, every element prints a tuple with a comma after it, and when the loop is over the last comma
becomes a semicolon (`insertEach`).

If every tuple has what its columns ask for, and what is below an element is stored too, then the
rows are a forest grown from the list (`yields_insertEach`).
-/

namespace Sadip

namespace DataInsert

open Printf Sql Insertion

variable {σ α : Type}

/-! ## Loops -/

def nextId : Insertion σ Int64 := .draw .done

/-- `sprintf` into a buffer of this size. -/
def sprintf (size : ℕ) (fmt : String) (as : List (Arg σ)) : Insertion σ (Text σ) :=
  match (pieces fmt.toList).bind (format · as) with
  | some t => .print size t (.done t)
  | none => .undefined

def excuteSql (sql : Text σ) : Insertion σ Unit := .execute sql (.done ())

def flush (sqls : Text σ) : Insertion σ Unit := .flush sqls (.done ())

/-- How the statements on a table are printed: their start, a tuple with the comma after it, the
buffer for both, and the slots that the tuple has for its arguments. -/
structure Layout where
  table : String
  header : String
  row : String
  size : ℕ
  slots : List Slot
  sound : Sound header row table slots

/-! The slots that occur: `%lld`, `%d`, `'%s'` and `'%d'`. -/

namespace Conversions

abbrev lld : Slot := .number .lld

abbrev d : Slot := .number .d

abbrev s : Slot := .text .s

abbrev quoted : Slot := .text .d

end Conversions

/-- The start of the statement, if `i` is the first. -/
def Layout.start (l : Layout) (i : ℕ) : Insertion σ (Text σ) :=
  if i = 0 then sprintf l.size l.header [] else pure []

/-- What the `i`th element adds to the statement. -/
def Layout.append (l : Layout) (i : ℕ) (as : List (Arg σ)) : Insertion σ (Text σ) := do
  let header ← l.start i
  let row ← sprintf l.size l.row as
  pure (header ++ row)

/-- `for (int i = …; i < size(); i++) sqls += …`; an element that is passed over adds nothing. -/
def forEach (body : ℕ → α → Insertion σ (Text σ)) : ℕ → List α → Insertion σ (Text σ)
  | _, [] => pure []
  | i, e :: es => do
    let sql ← body i e
    let sqls ← forEach body (i + 1) es
    pure (sql ++ sqls)

def insertEach (body : ℕ → α → Insertion σ (Text σ)) (es : List α) : Insertion σ Unit := do
  let sqls ← forEach body 0 es
  flush sqls

/-- `if (has_…)`. -/
def optionally {β : Type} (o : Option β) (f : β → Insertion σ Unit) : Insertion σ Unit :=
  match o with
  | some b => f b
  | none => pure ()

/-- The identifier that the message has for itself, or one of `nextId` if that is zero. -/
def ownId (id : UInt64) : Insertion σ Int64 := if id = 0 then nextId else pure id.toInt64

/-! ## Every statement -/

variable {names : List String} {W : Text σ → Prop}

/-- A statement on one of these tables, or none at all, with more than ten characters of its own. -/
def Executed (names : List String) (t : Text σ) : Prop := Templated names t ∧ 10 < bulk t

/-- What the `i`th element adds: tuples, after the header if it is the first. -/
def Adds (names : List String) (i : ℕ) (t : Text σ) : Prop :=
  Tuples names t ∧ (i = 0 → 10 < bulk t)

theorem sprintf_of_printed {size : ℕ} {fmt : String} {as : List (Arg σ)} {t : Text σ}
    (h : Printed fmt.toList as t) : sprintf size fmt as = .print size t (.done t) := by
  obtain ⟨ps, hps, hformat⟩ := h
  rw [sprintf, hps, Option.bind_some, hformat]

theorem Layout.printed_header (l : Layout) :
    Printed l.header.toList ([] : List (Arg σ)) (literal l.header.toList) := by
  obtain ⟨body, w₁, w₂, n, ts, us, hheader, -⟩ := l.sound.formats
  exact ⟨_, hheader, format_map_char _ _⟩

theorem Layout.lt_bulk_header (l : Layout) : 10 < bulk (literal l.header.toList : Text σ) := by
  obtain ⟨body, w₁, w₂, n, ts, us, -, hlen, -⟩ := l.sound.formats
  rwa [bulk_literal]

theorem always_sprintf (size : ℕ) (fmt : String) (as : List (Arg σ)) :
    Always W (sprintf size fmt as) (Printed fmt.toList as) := by
  rw [sprintf]
  split
  · next t ht =>
      obtain ⟨ps, hps, hformat⟩ := Option.bind_eq_some_iff.mp ht
      exact ⟨ps, hps, hformat⟩
  · trivial

-- what a format comes to is seen from the two lemmas only, never by running it in a proof
attribute [irreducible] sprintf

theorem Layout.always_start (l : Layout) (i : ℕ) : Always W (l.start i) fun t : Text σ =>
    t = if i = 0 then literal l.header.toList else [] := by
  rw [start]
  split
  · rw [sprintf_of_printed l.printed_header]
    rfl
  · rfl

theorem Layout.always_append (l : Layout) (names : List String) (hl : l.table ∈ names) (i : ℕ)
    (as : List (Arg σ)) : Always W (l.append i as) (Adds names i) := by
  refine (l.always_start i).bind fun header hheader => (always_sprintf _ _ _).bind fun r hr => ?_
  rw [always_pure, hheader]
  split
  · refine ⟨l.sound.tuples hl hr, fun _ => ?_⟩
    rw [bulk_append]
    exact Nat.lt_add_right _ l.lt_bulk_header
  · next hi => exact ⟨l.sound.tuples_row hr, fun h => absurd h hi⟩

/-- A tuple has more than ten characters of its own. -/
def Layout.Long (l : Layout) : Prop :=
  ((pieces l.row.toList).map fun ps => decide (10 < ps.countP Piece.isChar)) = some true

theorem Layout.Long.of_chars {l : Layout} {r : List Char} (hr : l.row = String.ofList r)
    (h : ((pieces r).map fun ps => decide (10 < ps.countP Piece.isChar)) = some true) : l.Long := by
  rwa [Long, hr, String.toList_ofList]

theorem Layout.Long.lt_bulk {l : Layout} (h : l.Long) {as : List (Arg σ)} {r : Text σ}
    (hr : Printed l.row.toList as r) : 10 < bulk r := by
  obtain ⟨ps, hps, hformat⟩ := hr
  rw [Long, hps, Option.map_some, Option.some.injEq, decide_eq_true_iff] at h
  rwa [bulk_of_prints (prints_of_format hformat)]

theorem Layout.Long.always_append {l : Layout} (h : l.Long) (names : List String)
    (hl : l.table ∈ names) (i : ℕ) (as : List (Arg σ)) :
    Always W (l.append i as) fun t => Tuples names t ∧ 10 < bulk t := by
  refine (l.always_start i).bind fun header hheader => (always_sprintf _ _ _).bind fun r hr => ?_
  rw [always_pure, hheader, bulk_append]
  refine ⟨?_, Nat.lt_add_left _ (h.lt_bulk hr)⟩
  split
  · exact l.sound.tuples hl hr
  · exact l.sound.tuples_row hr

/-- What a loop has gathered: nothing, or tuples with more than ten characters of their own. -/
def Gathers (names : List String) (t : Text σ) : Prop := t = [] ∨ Tuples names t ∧ 10 < bulk t

theorem Gathers.append {t u : Text σ} (ht : Gathers names t) (hu : Gathers names u) :
    Gathers names (t ++ u) := by
  rcases ht with rfl | ⟨ht, hlen⟩
  · exact hu
  rcases hu with rfl | ⟨hu, -⟩
  · rw [List.append_nil]
    exact .inr ⟨ht, hlen⟩
  · refine .inr ⟨ht.append hu, ?_⟩
    rw [bulk_append]
    exact Nat.lt_add_right _ hlen

/-- What a loop has gathered from the `i`th element on: it has its start if that is the first. -/
def Trails (names : List String) (i : ℕ) (t : Text σ) : Prop := t = [] ∨ Adds names i t

theorem Adds.trails {i j : ℕ} {t u : Text σ} (ht : Adds names i t) (hu : Trails names j u) :
    Trails names i (t ++ u) := by
  rcases hu with rfl | hu
  · rw [List.append_nil]
    exact .inr ht
  · refine .inr ⟨ht.1.append hu.1, fun hi => ?_⟩
    rw [bulk_append]
    exact Nat.lt_add_right _ (ht.2 hi)

theorem Trails.gathers {t : Text σ} (h : Trails names 0 t) : Gathers names t :=
  h.imp_right fun h => ⟨h.1, h.2 rfl⟩

theorem always_flush {sqls : Text σ} (h : Gathers names sqls) :
    Always (Executed names) (flush sqls) fun _ => True := by
  refine ⟨fun hne => ?_, trivial⟩
  obtain ⟨htuples, hlen⟩ := h.resolve_left hne
  refine ⟨htuples.terminated, ?_⟩
  rwa [htuples.bulk_terminated]

/-- A statement of one tuple. -/
theorem Layout.executed (l : Layout) (hl : l.table ∈ names) {as : List (Arg σ)} {r : Text σ}
    (hr : Printed l.row.toList as r) :
    Executed names (terminated (literal l.header.toList ++ r)) := by
  have htuples : Tuples names (literal l.header.toList ++ r) := l.sound.tuples hl hr
  refine ⟨htuples.terminated, ?_⟩
  rw [htuples.bulk_terminated, bulk_append]
  exact Nat.lt_add_right _ l.lt_bulk_header

variable {body : ℕ → α → Insertion σ (Text σ)}

theorem always_forEach {P : Text σ → Prop} (hnil : P [])
    (happend : ∀ t u, P t → P u → P (t ++ u)) (hbody : ∀ i e, Always W (body i e) P) :
    ∀ (i : ℕ) (es : List α), Always W (forEach body i es) P
  | _, [] => hnil
  | i, e :: es => by
      rw [forEach, always_bind]
      refine (hbody i e).mono fun t ht => always_bind.mpr ?_
      exact (always_forEach hnil happend hbody (i + 1) es).mono fun u hu => happend t u ht hu

theorem always_forEach_trails (hbody : ∀ i e, Always W (body i e) (Adds names i)) :
    ∀ (i : ℕ) (es : List α), Always W (forEach body i es) (Trails names i)
  | _, [] => .inl rfl
  | i, e :: es => by
      rw [forEach]
      refine (hbody i e).bind fun t ht => ?_
      exact (always_forEach_trails hbody (i + 1) es).bind fun u hu => ht.trails hu

/-- A loop in which every element adds a tuple. -/
theorem always_insertEach (hbody : ∀ i e, Always (Executed names) (body i e) (Adds names i))
    (es : List α) : Always (Executed names) (insertEach body es) fun _ => True :=
  (always_forEach_trails hbody 0 es).bind fun _ hsqls => always_flush hsqls.gathers

/-- A loop in which elements are passed over, so that the statement may lack its start. -/
theorem always_insertEach_of_gathers
    (hbody : ∀ i e, Always (Executed names) (body i e) (Gathers names)) (es : List α) :
    Always (Executed names) (insertEach body es) fun _ => True := by
  rw [insertEach, always_bind]
  exact (always_forEach (.inl rfl) (fun _ _ => Gathers.append) hbody 0 es).mono
    fun _ => always_flush

theorem always_nextId {Q : Int64 → Prop} (h : ∀ id, Q id) : Always W nextId Q := h

theorem always_ownId {own : UInt64} {Q : Int64 → Prop} (h : ∀ id, Q id) :
    Always W (ownId own) Q := by
  rw [ownId]
  split
  · exact h
  · exact h _

/-- An element that has no list below it. -/
theorem Layout.always_leaf (l : Layout) (names : List String) (hl : l.table ∈ names) (i : ℕ)
    {as : Int64 → List (Arg σ)} :
    Always W (nextId >>= fun id => l.append i (as id)) (Adds names i) :=
  .bind (always_nextId fun _ => trivial) fun _ _ => l.always_append names hl i _

/-- An element with a list below it. -/
theorem Layout.always_nested {β : Type} (l : Layout) (names : List String) (hl : l.table ∈ names)
    {inner : Int64 → ℕ → β → Insertion σ (Text σ)}
    (hinner : ∀ id i b, Always (Executed names) (inner id i b) (Adds names i)) (i : ℕ)
    {as : Int64 → List (Arg σ)} {below : List β} :
    Always (Executed names) (nextId >>= fun id => l.append i (as id) >>= fun sql =>
      insertEach (inner id) below >>= fun _ => pure sql) (Adds names i) := by
  refine .bind (always_nextId fun _ => trivial) fun id _ => ?_
  refine .bind (l.always_append names hl i _) fun sql hsql => ?_
  exact .bind (always_insertEach (hinner id) below) fun _ _ => hsql

theorem always_optionally {β : Type} {o : Option β} {f : β → Insertion σ Unit}
    (h : ∀ b, Always W (f b) fun _ => True) : Always W (optionally o f) fun _ => True := by
  cases o with
  | none => trivial
  | some b => exact h b

theorem Executed.mono {names' : List String} {t : Text σ} (h : Executed names t)
    (hsub : names ⊆ names') :
    Executed names' t := by
  obtain ⟨⟨ps, hs, ht, hps, haddr⟩, hlen⟩ := h
  refine ⟨⟨ps, hs, ht, hps, ?_⟩, hlen⟩
  exact haddr.imp_left fun ⟨w₁, w₂, n, us, heq, hn⟩ => ⟨w₁, w₂, n, us, heq, hsub hn⟩

/-- A part with tables of its own, among other parts. -/
theorem always_among {names' : List String} (hsub : names ⊆ names') {p : Insertion σ Unit}
    (h : Always (Executed names) p fun _ => True) : Always (Executed names') p fun _ => True :=
  Always.weaken (fun _ ht => ht.mono hsub) h

/-! ## Reaching the end -/

variable {print : σ → List Char}

theorem completes_nextId : Completes print (nextId : Insertion σ Int64) True := fun _ _ => trivial

theorem completes_ownId (own : UInt64) : Completes print (ownId own : Insertion σ Int64) True := by
  rw [ownId]
  split
  · exact completes_nextId
  · trivial

theorem completes_flush (sqls : Text σ) : Completes print (flush sqls) True := by
  show if _ then _ else _
  split <;> trivial

/-- Arguments of the right types are printed. -/
theorem Layout.completes_append (l : Layout) (i : ℕ) {as : List (Arg σ)}
    (h : fills as l.slots = true) : Completes print (l.append i as) True := by
  obtain ⟨r, hr⟩ := l.sound.printed (fills_iff.mp h)
  have hstart : Completes print (l.start i : Insertion σ (Text σ)) True := by
    rw [start]
    split
    · rw [sprintf_of_printed l.printed_header]
      trivial
    · trivial
  refine hstart.then fun header => ?_
  rw [sprintf_of_printed hr]
  trivial

theorem completes_forEach {P : ℕ → α → Prop} (hbody : ∀ i e, Completes print (body i e) (P i e)) :
    ∀ (i : ℕ) (es : List α),
      Completes print (forEach body i es) (∀ n e, es[n]? = some e → P (i + n) e)
  | _, [] => (completes_pure _).congr ⟨nofun, fun _ => trivial⟩
  | i, e :: es => by
      have hrest : Completes print _ _ := completes_forEach hbody (i + 1) es
      refine ((hbody i e).bind fun sql => hrest.bind fun sqls => completes_pure _).congr ?_
      constructor
      · rintro ⟨he, hes, -⟩ n e' hn
        cases n with
        | zero =>
            obtain rfl := Option.some.inj hn
            exact he
        | succ n =>
            rw [Nat.add_succ, ← Nat.succ_add]
            exact hes n e' hn
      · refine fun h => ⟨h 0 e rfl, fun n e' hn => ?_, trivial⟩
        rw [Nat.succ_add, ← Nat.add_succ]
        exact h (n + 1) e' hn

/-- **A loop reaches its end if every element does.** -/
theorem completes_insertEach {P : ℕ → α → Prop}
    (hbody : ∀ i e, Completes print (body i e) (P i e)) (es : List α) :
    Completes print (insertEach body es) (∀ i e, es[i]? = some e → P i e) := by
  refine ((completes_forEach hbody 0 es).bind fun sqls => completes_flush sqls).congr ?_
  simp only [Nat.zero_add, and_true]

theorem completes_insertEach_of_forall (hbody : ∀ i e, Completes print (body i e) True)
    (es : List α) : Completes print (insertEach body es) True :=
  (completes_insertEach hbody es).congr ⟨fun _ => trivial, fun _ _ _ _ => trivial⟩

end DataInsert

end Sadip

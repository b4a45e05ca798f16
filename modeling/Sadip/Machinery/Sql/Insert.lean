import Mathlib.Data.List.Forall2
import Sadip.Machinery.Sql

/-!
# Machinery/Sql/Insert — reading an INSERT statement

`read` takes the tokens of ``INSERT INTO `t` (`a`,`b`) VALUES (1,'x'),(2,'y');`` apart.  What it
returns is an `Insert`: a statement with at least one tuple, all of them as long as the column list.

Such a text is put together from a header, and from tuples printed one by one with the same format.
`meaning_rows` says what is meant then: the table and the columns of the header, and the arguments
of each tuple.
-/

namespace Sql

open Printf

/-! ## The grammar -/

/-- A literal value. -/
inductive Value
  | number (v : ℤ)
  | text (t : List Char)
  deriving DecidableEq

def Value.token : Value → Token
  | .number v => .number v
  | .text t => .text t

def Token.value : Token → Option Value
  | .number v => some (.number v)
  | .text t => some (.text t)
  | _ => none

@[simp] theorem Value.value_token (v : Value) : v.token.value = some v := by
  cases v <;> rfl

/-- `name, …, name )`: the names, and what follows the parenthesis. -/
def columns : List Token → Option (List (List Char) × List Token)
  | .name n :: .closing :: ts => some ([n], ts)
  | .name n :: .comma :: ts => (columns ts).map fun q => (n :: q.1, q.2)
  | _ => none

/-- The keywords, which may be written in any case. -/
def isWord (w : List Char) (keyword : String) : Bool := w.map Char.toUpper = keyword.toList

/-- ``INSERT INTO `t` (columns) VALUES (``: table, columns, and what follows. -/
def head : List Token → Option (List Char × List (List Char) × List Token)
  | .word w₁ :: .word w₂ :: .name table :: .opening :: ts =>
    if isWord w₁ "INSERT" && isWord w₂ "INTO" then
      match columns ts with
      | some (cols, .word w₃ :: .opening :: ts) =>
        if isWord w₃ "VALUES" || isWord w₃ "VALUE" then some (table, cols, ts) else none
      | _ => none
    else none
  | _ => none

/-- `v, …, v), (v, …, v), …, (v, …, v);` with `row` already read of the first tuple. -/
def rows (row : List Value) : List Token → Option (List (List Value))
  | t :: .comma :: ts => t.value.bind fun v => rows (row ++ [v]) ts
  | t :: .closing :: .comma :: .opening :: ts =>
    t.value.bind fun v => (rows [] ts).map fun vs => (row ++ [v]) :: vs
  | [t, .closing, .semicolon] => t.value.map fun v => [row ++ [v]]
  | _ => none

/-- A row, by its columns. -/
abbrev Row := List (String × Value)

/-- An INSERT statement: it has tuples, and every tuple has a value for every column. -/
structure Insert where
  table : String
  columns : List String
  tuples : List (List Value)
  tuples_ne : tuples ≠ []
  arity : ∀ t ∈ tuples, t.length = columns.length

/-- The rows it inserts. -/
def Insert.rows (s : Insert) : List Row := s.tuples.map s.columns.zip

def insert (ts : List Token) : Option Insert :=
  (head ts).bind fun h => (rows [] h.2.2).bind fun vs =>
    if hv : vs ≠ [] ∧ ∀ t ∈ vs, t.length = h.2.1.length then
      some ⟨String.ofList h.1, h.2.1.map String.ofList, vs, hv.1, by simpa using hv.2⟩
    else none

/-- The tokens of a whole text: the blank ends the last of them. -/
def tokens (text : List Char) : Option (List Token) :=
  match scan .start (text ++ [' ']) with
  | some (.start, ts) => some ts
  | _ => none

/-- The statement a text is. -/
def read (text : List Char) : Option Insert := (tokens text).bind insert

/-- The tokens that are meant by a text. -/
def meantTokens {σ : Type} (content : σ → List Char) (t : List (Chunk σ)) : Option (List Token) :=
  match meant content .start (t ++ [.char ' ']) with
  | some (.start, ts) => some ts
  | _ => none

/-- The statement that is meant by a text. -/
def meaning {σ : Type} (content : σ → List Char) (t : List (Chunk σ)) : Option Insert :=
  (meantTokens content t).bind insert

/-- The text is one INSERT statement. -/
def WellFormed (text : List Char) : Prop := (read text).isSome = true

instance (text : List Char) : Decidable (WellFormed text) := by
  unfold WellFormed
  infer_instance

theorem tokens_chars {σ : Type} {content print : σ → List Char} {t : List (Chunk σ)}
    {ts : List Token} (hdenotes : ∀ s ∈ strings t, Denotes (print s) (content s))
    (h : meantTokens content t = some ts) : tokens (chars print t) = some ts := by
  rw [meantTokens] at h
  split at h
  · next us hmeant =>
      obtain rfl := Option.some.inj h
      have hscan : scan .start (chars print (t ++ [.char ' '])) = some (.start, us) :=
        scan_chars (fun s hs => hdenotes s (by simpa [strings] using hs)) hmeant
      rw [chars_append] at hscan
      rw [tokens, show [' '] = chars print ([.char ' '] : List (Chunk σ)) from rfl, hscan]
  · cases h

/-! ## Headers -/

theorem columns_append : ∀ {ts : List Token} {cols : List (List Char)} {rest : List Token},
    columns ts = some (cols, rest) → ∀ us, columns (ts ++ us) = some (cols, rest ++ us)
  | .name n :: .closing :: ts, _, _, h, us => by
      cases h; rfl
  | .name n :: .comma :: ts, _, _, h, us => by
      rw [columns, Option.map_eq_some_iff] at h
      obtain ⟨⟨cols, rest⟩, hcols, h⟩ := h
      cases h
      rw [List.cons_append, List.cons_append, columns, columns_append hcols us]
      rfl

theorem head_append {ts : List Token} {table : List Char} {cols : List (List Char)}
    {rest : List Token} (h : head ts = some (table, cols, rest)) (us : List Token) :
    head (ts ++ us) = some (table, cols, rest ++ us) := by
  unfold head at h
  split at h
  · next w₁ w₂ t ts =>
      split at h
      · next hw =>
          split at h
          · next cols' w₃ ts' hcols =>
              split at h
              · next hw₃ =>
                  cases h
                  simp only [List.cons_append, head, hw, if_true, columns_append hcols us, hw₃]
              · cases h
          · cases h
      · cases h
  · cases h

/-- The table and the columns of a header that goes up to its `VALUES`. -/
def opening (text : List Char) : Option (List Char × List (List Char)) :=
  match scan .start (text ++ ['(']) with
  | some (.start, ts) =>
    match head ts with
    | some (table, cols, []) => some (table, cols)
    | _ => none
  | _ => none

/-- `text` opens a statement on this table, with these columns. -/
def Opens (text : List Char) (table : String) (cols : List String) : Prop :=
  (opening text).map (fun h => (String.ofList h.1, h.2.map String.ofList)) = some (table, cols)

/-- The strings have these characters. -/
def Spells (strings : List String) (chars : List (List Char)) : Prop :=
  List.Forall₂ (fun s cs => s = String.ofList cs) strings chars

theorem Spells.nil : Spells [] [] := List.Forall₂.nil

theorem Spells.cons {s : String} {cs : List Char} {strings : List String} {chars : List (List Char)}
    (hs : s = String.ofList cs) (h : Spells strings chars) : Spells (s :: strings) (cs :: chars) :=
  List.Forall₂.cons hs h

theorem Spells.eq {strings : List String} {chars : List (List Char)} (h : Spells strings chars) :
    chars.map String.ofList = strings := by
  induction h with
  | nil => rfl
  | cons hs _ ih => rw [List.map_cons, ih, hs]

/-- A header given as a string literal: its characters are what the automaton is run on. -/
theorem Opens.of_chars {s table : String} {cols : List String} {l t : List Char}
    {cs : List (List Char)} (hl : s = String.ofList l) (ht : table = String.ofList t)
    (hcs : Spells cols cs) (h : opening l = some (t, cs)) : Opens s.toList table cols := by
  rw [Opens, hl, String.toList_ofList, h, Option.map_some, hcs.eq, ht]

/-- The tokens of a header, before the first tuple. -/
theorem Opens.tokens {text : List Char} {table : String} {cols : List String}
    (h : Opens text table cols) : ∃ ts t cs, scan .start (text ++ ['(']) = some (.start, ts) ∧
      head ts = some (t, cs, []) ∧ table = String.ofList t ∧ cols = cs.map String.ofList := by
  rw [Opens, Option.map_eq_some_iff] at h
  obtain ⟨⟨t, cs⟩, hopening, heq⟩ := h
  obtain ⟨rfl, rfl⟩ := Prod.mk.inj heq
  rw [opening] at hopening
  split at hopening
  · next ts hscan =>
      split at hopening
      · next hhead =>
          obtain ⟨rfl, rfl⟩ := Prod.mk.inj (Option.some.inj hopening)
          exact ⟨ts, _, _, hscan, hhead, rfl, rfl⟩
      · cases hopening
  · cases hopening

/-! ## Tuples -/

/-- The tokens of a tuple, after its opening parenthesis. -/
def tupleTokens : List Value → List Token
  | [] => [.closing]
  | [v] => [v.token, .closing]
  | v :: w :: vs => v.token :: .comma :: tupleTokens (w :: vs)

section

variable {σ : Type} {content : σ → List Char}

/-- `t` is a tuple with these values, less its opening parenthesis. -/
def Lists (content : σ → List Char) (t : List (Chunk σ)) (vs : List Value) : Prop :=
  vs ≠ [] ∧ ∀ rest, Bounded rest →
    meant content .start (t ++ rest) = after (tupleTokens vs) (meant content .start rest)

theorem rows_tuple_comma : ∀ {vs : List Value}, vs ≠ [] → ∀ (row : List Value) (ts : List Token),
    rows row (tupleTokens vs ++ .comma :: .opening :: ts)
      = (rows [] ts).map fun us => (row ++ vs) :: us
  | [v], _, row, ts => by
      rw [tupleTokens, List.cons_append, List.cons_append, List.nil_append, rows,
        Value.value_token, Option.bind_some]
  | v :: w :: vs, _, row, ts => by
      rw [tupleTokens, List.cons_append, List.cons_append, rows, Value.value_token,
        Option.bind_some, rows_tuple_comma (List.cons_ne_nil w vs), List.append_assoc,
        List.singleton_append]

theorem rows_tuple_semicolon : ∀ {vs : List Value}, vs ≠ [] → ∀ row : List Value,
    rows row (tupleTokens vs ++ [.semicolon]) = some [row ++ vs]
  | [v], _, row => by
      rw [tupleTokens, List.cons_append, List.cons_append, List.nil_append, rows,
        Value.value_token, Option.map_some]
  | v :: w :: vs, _, row => by
      rw [tupleTokens, List.cons_append, List.cons_append, rows, Value.value_token,
        Option.bind_some, rows_tuple_semicolon (List.cons_ne_nil w vs), List.append_assoc,
        List.singleton_append]

/-- Tuples, the first without its opening parenthesis, with a comma between two of them and a
semicolon at the end. -/
def joined : List (List (Chunk σ)) → List (Chunk σ)
  | [] => [.char ';']
  | [b] => b ++ [.char ';']
  | b :: c :: bs => b ++ .char ',' :: .char '(' :: joined (c :: bs)

theorem meant_joined : ∀ {bs : List (List (Chunk σ) × List Value)}, bs ≠ [] →
    (∀ b ∈ bs, Lists content b.1 b.2) → ∃ ts,
      meant content .start (joined (bs.map Prod.fst) ++ [.char ' ']) = some (.start, ts)
        ∧ rows [] ts = some (bs.map Prod.snd)
  | [b], _, h => by
      obtain ⟨hne, hmeant⟩ := h b List.mem_cons_self
      refine ⟨tupleTokens b.2 ++ [.semicolon], ?_, ?_⟩
      · have hend : Bounded ([.char ';'] ++ [.char ' '] : List (Chunk σ)) := rfl
        rw [List.map_cons, List.map_nil, joined, List.append_assoc, hmeant _ hend]
        rfl
      · rw [rows_tuple_semicolon hne, List.nil_append, List.map_cons, List.map_nil]
  | b :: c :: bs, _, h => by
      obtain ⟨hne, hmeant⟩ := h b List.mem_cons_self
      obtain ⟨ts, hts, hrows⟩ := meant_joined (List.cons_ne_nil c bs) fun x hx =>
        h x (List.mem_cons_of_mem b hx)
      refine ⟨tupleTokens b.2 ++ .comma :: .opening :: ts, ?_, ?_⟩
      · have hsep : meant content .start
            (.char ',' :: .char '(' :: (joined ((c :: bs).map Prod.fst) ++ [.char ' ']))
            = some (.start, .comma :: .opening :: ts) := by
          have hcomma : pass content .start (.char ',') = some (.start, [.comma]) := rfl
          have hopening : pass content .start (.char '(') = some (.start, [.opening]) := rfl
          rw [meant_cons_of_pass hcomma, meant_cons_of_pass hopening, hts]
          rfl
        have hend : Bounded
            (.char ',' :: .char '(' :: (joined ((c :: bs).map Prod.fst) ++ [.char ' '])) := rfl
        rw [List.map_cons, List.map_cons, joined, List.append_assoc, ← List.map_cons,
          List.cons_append, List.cons_append, hmeant _ hend, hsep, after_some]
      · rw [rows_tuple_comma hne, hrows, Option.map_some, List.nil_append]
        rfl

/-- **A header and its tuples make a statement**, when every tuple has a value for every column. -/
theorem meaning_joined {header : List Char} {table : String} {cols : List String}
    (hopen : Opens header table cols) {bs : List (List (Chunk σ) × List Value)} (hne : bs ≠ [])
    (hbs : ∀ b ∈ bs, Lists content b.1 b.2 ∧ b.2.length = cols.length) :
    ∃ s, meaning content (literal header ++ .char '(' :: joined (bs.map Prod.fst)) = some s
      ∧ s.table = table ∧ s.columns = cols ∧ s.tuples = bs.map Prod.snd := by
  obtain ⟨hs, t, cs, hscan, hhead, rfl, rfl⟩ := hopen.tokens
  obtain ⟨ts, hts, hrows⟩ := meant_joined hne fun b hb => (hbs b hb).1
  rw [← show meant content _ (literal _) = _ from meant_literal _ _] at hscan
  have hall : meantTokens content (literal header ++ .char '(' :: joined (bs.map Prod.fst))
      = some (hs ++ ts) := by
    have htext : literal header ++ .char '(' :: joined (bs.map Prod.fst) ++ [.char ' ']
        = literal (header ++ ['(']) ++ (joined (bs.map Prod.fst) ++ [.char ' ']) := by
      rw [literal, literal, List.map_append]
      simp
    rw [meantTokens, htext, meant_append_of_meant hscan, hts, after_some]
  have hok : bs.map Prod.snd ≠ [] ∧ ∀ t ∈ bs.map Prod.snd, t.length = cs.length := by
    refine ⟨fun hnil => hne (List.map_eq_nil_iff.mp hnil), fun t ht => ?_⟩
    obtain ⟨b, hb, rfl⟩ := List.mem_map.mp ht
    rw [(hbs b hb).2, List.length_map]
  refine ⟨⟨String.ofList t, cs.map String.ofList, bs.map Prod.snd, hok.1, by simpa using hok.2⟩,
    ?_, rfl, rfl, rfl⟩
  rw [meaning, hall]
  simp only [insert, Option.bind_some, head_append hhead, List.nil_append, hrows, dif_pos hok]

end

/-! ## Printed statements -/

/-- The place of a value in the format of a tuple: a number, or a text between quotes. -/
inductive Slot
  | number (k : Conv)
  | text (k : Conv)
  deriving DecidableEq

namespace Slot

def conv : Slot → Conv
  | number k => k
  | text k => k

def hole : Slot → Hole
  | number _ => .number
  | text _ => .text

end Slot

variable {σ : Type} {content : σ → List Char}

/-- The value that an argument becomes. -/
def Slot.value (content : σ → List Char) : Slot → Arg σ → Value
  | .number _, a => .number a.number
  | .text _, a => .text (a.chars content)

/-- The values of a tuple. -/
def values (content : σ → List Char) (slots : List Slot) (as : List (Arg σ)) : List Value :=
  List.zipWith (Slot.value content) slots as

/-- The arguments have the types that the slots ask for. -/
def Fills (as : List (Arg σ)) (slots : List Slot) : Prop :=
  List.Forall₂ Arg.Suits as (slots.map Slot.conv)

/-- `Fills`, as a computation. -/
def fills : List (Arg σ) → List Slot → Bool
  | [], [] => true
  | a :: as, x :: xs => decide (a.Suits x.conv) && fills as xs
  | _, _ => false

theorem fills_iff : ∀ {as : List (Arg σ)} {slots : List Slot}, fills as slots = true ↔
    Fills as slots
  | [], [] => ⟨fun _ => .nil, fun _ => rfl⟩
  | [], _ :: _ => ⟨nofun, nofun⟩
  | _ :: _, [] => ⟨nofun, nofun⟩
  | a :: as, x :: xs => by
      rw [fills, Bool.and_eq_true, decide_eq_true_iff, fills_iff, Fills, Fills, List.map_cons,
        List.forall₂_cons]

def tupleHoles : List Slot → List Hole
  | [] => [.token .closing]
  | [x] => [x.hole, .token .closing]
  | x :: y :: xs => x.hole :: .token .comma :: tupleHoles (y :: xs)

/-- The format is that of a tuple with these slots and a comma after it. -/
def Shapes (row : List Char) (slots : List Slot) : Prop :=
  slots ≠ [] ∧ ∃ body, pieces row = some (.char '(' :: (body ++ [.char ','])) ∧
    convs body = slots.map Slot.conv ∧ holes .start body = some (.start, tupleHoles slots)

/-- `Shapes`, as a computation. -/
def shapes (row : List Char) (slots : List Slot) : Bool :=
  match pieces row with
  | some (.char '(' :: ps) =>
    decide (slots ≠ [] ∧ ps.getLast? = some (.char ',') ∧
      convs ps.dropLast = slots.map Slot.conv ∧
      holes .start ps.dropLast = some (.start, tupleHoles slots))
  | _ => false

theorem Shapes.of_chars {s : String} {l : List Char} {slots : List Slot} (hl : s = String.ofList l)
    (h : shapes l slots = true) : Shapes s.toList slots := by
  rw [shapes] at h
  rw [hl, String.toList_ofList]
  split at h
  · next ps hps =>
      obtain ⟨hne, hlast, hconvs, hholes⟩ := of_decide_eq_true h
      obtain ⟨body, rfl⟩ := List.getLast?_eq_some_iff.mp hlast
      rw [List.dropLast_concat] at hconvs hholes
      exact ⟨hne, body, hps, hconvs, hholes⟩
  · cases h

theorem fill_tupleHoles : ∀ {slots : List Slot} {as : List (Arg σ)}, Fills as slots → slots ≠ [] →
    fill content (tupleHoles slots) as = tupleTokens (values content slots as)
  | [x], as, h, _ => by
      obtain ⟨a, as, -, hnil, rfl⟩ := List.forall₂_cons_right_iff.mp h
      obtain rfl := List.forall₂_nil_right_iff.mp hnil
      cases x <;> rfl
  | x :: y :: xs, as, h, _ => by
      obtain ⟨a, as, -, htail, rfl⟩ := List.forall₂_cons_right_iff.mp h
      obtain ⟨b, as, hb, hrest, rfl⟩ := List.forall₂_cons_right_iff.mp htail
      have ih : fill content (tupleHoles (y :: xs)) (b :: as) = _ :=
        fill_tupleHoles htail (List.cons_ne_nil y xs)
      cases x
      · exact congrArg (fun ts => .number a.number :: .comma :: ts) ih
      · exact congrArg (fun ts => .text (a.chars content) :: .comma :: ts) ih

/-- `t` is what the format makes of the arguments. -/
def Printed (row : List Char) (as : List (Arg σ)) (t : List (Chunk σ)) : Prop :=
  ∃ ps, pieces row = some ps ∧ format ps as = some t

theorem Shapes.printed {row : List Char} {slots : List Slot} {as : List (Arg σ)}
    (h : Shapes row slots) (has : Fills as slots) : ∃ t, Printed row as t := by
  obtain ⟨-, body, hpieces, hconvs, -⟩ := h
  have hsuits : List.Forall₂ Arg.Suits as (convs (.char '(' :: (body ++ [.char ',']))) := by
    show List.Forall₂ Arg.Suits as (convs (body ++ [.char ',']))
    rw [convs_append, hconvs, show convs [.char ','] = [] from rfl, List.append_nil]
    exact has
  obtain ⟨t, ht⟩ := format_of_suits hsuits
  exact ⟨t, _, hpieces, ht⟩

/-- A tuple that is printed lists its arguments. -/
theorem Shapes.lists {row : List Char} {slots : List Slot} {as : List (Arg σ)} {t : List (Chunk σ)}
    (h : Shapes row slots) (has : Fills as slots) (ht : Printed row as t) :
    ∃ b, t = .char '(' :: (b ++ [.char ',']) ∧ Lists content b (values content slots as) := by
  obtain ⟨hne, body, hpieces, hconvs, hholes⟩ := h
  obtain ⟨ps, hps, hformat⟩ := ht
  obtain rfl := Option.some.inj (hps.symm.trans hpieces)
  rw [format, Option.map_eq_some_iff] at hformat
  obtain ⟨t', ht', rfl⟩ := hformat
  obtain ⟨b, hb, rfl⟩ := format_append_char ',' ht'
  have hvalues : values content slots as ≠ [] := by
    intro hnil
    rcases List.zipWith_eq_nil_iff.mp hnil with hnil | rfl
    · exact hne hnil
    · exact hne (List.map_eq_nil_iff.mp (List.forall₂_nil_left_iff.mp has))
  refine ⟨b, rfl, hvalues, fun rest hrest => ?_⟩
  rw [meant_format hholes hb hrest, fill_tupleHoles has hne]

/-- The last character of a text gives way to a semicolon; it is one of a format. -/
def terminated (t : List (Chunk σ)) : List (Chunk σ) := t.dropLast ++ [.char ';']

theorem terminated_flatten : ∀ {bs : List (List (Chunk σ))}, bs ≠ [] →
    terminated (bs.map fun b => .char '(' :: (b ++ [.char ','])).flatten = .char '(' :: joined bs
  | [b], _ => by
      rw [List.map_cons, List.map_nil, List.flatten_cons, List.flatten_nil, List.append_nil,
        terminated, ← List.cons_append, List.dropLast_concat]
      rfl
  | b :: c :: bs, _ => by
      have ih := terminated_flatten (List.cons_ne_nil c bs)
      rw [terminated] at ih
      rw [List.map_cons, List.flatten_cons, terminated, List.dropLast_append_of_ne_nil (by simp),
        List.append_assoc, ih]
      simp [joined]

/-- **A header and the tuples printed after it make a statement** with their arguments. -/
theorem meaning_rows {header row : List Char} {table : String} {cols : List String}
    {slots : List Slot} (hopen : Opens header table cols) (hshape : Shapes row slots)
    (harity : slots.length = cols.length) {rs : List (List (Arg σ) × List (Chunk σ))}
    (hne : rs ≠ [])
    (hfills : ∀ r ∈ rs, Fills r.1 slots) (hprinted : ∀ r ∈ rs, Printed row r.1 r.2) :
    ∃ s, meaning content (terminated (literal header ++ (rs.map Prod.snd).flatten)) = some s ∧
      s.table = table ∧ s.columns = cols ∧ s.tuples = rs.map (values content slots ·.1) := by
  let body (t : List (Chunk σ)) : List (Chunk σ) := t.tail.dropLast
  have hbody : ∀ r ∈ rs, r.2 = .char '(' :: (body r.2 ++ [.char ',']) ∧
      Lists content (body r.2) (values content slots r.1) := by
    intro r hr
    obtain ⟨b, hb, hlists⟩ : ∃ b, _ ∧ Lists content b _ :=
      hshape.lists (hfills r hr) (hprinted r hr)
    have hbr : body r.2 = b := by
      show r.2.tail.dropLast = b
      rw [hb, List.tail_cons, List.dropLast_concat]
    exact ⟨by rw [hbr, hb], by rw [hbr]; exact hlists⟩
  have htuples : rs.map Prod.snd
      = (rs.map fun r => body r.2).map fun b => .char '(' :: (b ++ [.char ',']) := by
    rw [List.map_map]
    exact List.map_congr_left fun r hr => (hbody r hr).1
  have hmeaning := meaning_joined hopen (show rs.map (fun r => (body r.2,
    values content slots r.1)) ≠ [] by simpa using hne) fun b hb => by
      obtain ⟨r, hr, rfl⟩ := List.mem_map.mp hb
      refine ⟨(hbody r hr).2, ?_⟩
      have hlength : r.1.length = slots.length := by simpa using (hfills r hr).length_eq
      rw [values, List.length_zipWith, hlength, Nat.min_self, harity]
  have htext : terminated (literal header ++ (rs.map Prod.snd).flatten)
      = literal header ++ .char '(' :: joined (((rs.map fun r => (body r.2,
          values content slots r.1))).map Prod.fst) := by
    have hnil : (rs.map Prod.snd).flatten ≠ [] := by
      obtain ⟨r, rs, rfl⟩ := List.exists_cons_of_ne_nil hne
      rw [List.map_cons, List.flatten_cons, (hbody r List.mem_cons_self).1]
      simp
    rw [terminated, List.dropLast_append_of_ne_nil hnil, List.append_assoc, ← terminated, htuples,
      terminated_flatten (by simpa using hne), List.map_map]
    rfl
  obtain ⟨s, hs, htable, hcols, hvalues⟩ := hmeaning
  exact ⟨s, by rw [htext, hs], htable, hcols, by rw [hvalues, List.map_map]; rfl⟩

end Sql

import Sadip.Machinery.Sql.Insert

/-!
# Machinery/Sql/Template — statements printed from formats

A text that was printed with a format means the format's tokens, whatever was put in.  Whatever it
is read as, the tokens before the first argument are those of the format; so the format alone says
which table the statement is on, and texts can be put together piece by piece without losing that
(`Tuples.append`).
-/

namespace Sql

open Printf

variable {σ : Type} {content print : σ → List Char} {names : List String}

/-- The tokens start a statement on one of these tables, or they start with a parenthesis and are no
statement at all. -/
def Addressed (names : List String) (hs : List Hole) : Prop :=
  (∃ w₁ w₂ n hs', hs = .token (.word w₁) :: .token (.word w₂) :: .token (.name n) :: hs' ∧
    String.ofList n ∈ names) ∨ ∃ hs', hs = .token .opening :: hs'

theorem Addressed.append {hs : List Hole} (h : Addressed names hs) (hs' : List Hole) :
    Addressed names (hs ++ hs') := by
  rcases h with ⟨w₁, w₂, n, us, rfl, hn⟩ | ⟨us, rfl⟩
  · exact .inl ⟨w₁, w₂, n, us ++ hs', rfl, hn⟩
  · exact .inr ⟨us ++ hs', rfl⟩

/-- `t` is printed with a format that has tokens, and they are `Addressed`. -/
def Templated (names : List String) (t : List (Chunk σ)) : Prop :=
  ∃ ps hs, List.Forall₂ Prints ps t ∧ holes .start ps = some (.start, hs) ∧ Addressed names hs

theorem meantTokens_of_holes {ps : List Piece} {hs : List Hole} {t : List (Chunk σ)}
    (hps : holes .start ps = some (.start, hs)) (ht : List.Forall₂ Prints ps t) :
    meantTokens content t = some (fill content hs (args t)) := by
  have hend : Bounded ([.char ' '] : List (Chunk σ)) := rfl
  rw [meantTokens, meant_format hps (format_args ht) hend]
  show some (fill content hs (args t) ++ []) = _
  rw [List.append_nil]

/-- A text printed with a format that has tokens, piece by piece: the automaton goes from `m` to
`m'` over it, and the tokens have holes where arguments are. -/
inductive Printing : Mode → List Piece → List (Chunk σ) → Mode → List Hole → Prop
  | nil (m : Mode) : Printing m [] [] m []
  | char {m m₁ m' : Mode} {c : Char} {us : List Token} {ps : List Piece} {t : List (Chunk σ)}
      {hs : List Hole} (hstep : step m c = some (m₁, us)) (h : Printing m₁ ps t m' hs) :
      Printing m (.char c :: ps) (.char c :: t) m' (us.map .token ++ hs)
  | number {m' : Mode} {a : Arg σ} {k : Conv} {ps : List Piece} {t : List (Chunk σ)}
      {hs : List Hole} (hsuits : a.Suits k) (hk : k ≠ .s) (hends : ends ps = true)
      (h : Printing .start ps t m' hs) :
      Printing .start (.conv k :: ps) (.arg a :: t) m' (.number :: hs)
  | text {m' : Mode} {a : Arg σ} {k : Conv} {ps : List Piece} {t : List (Chunk σ)}
      {hs : List Hole} (hsuits : a.Suits k) (hends : ends ps = true) (h :
        Printing .start ps t m' hs) :
      Printing (.text []) (.conv k :: .char '\'' :: ps) (.arg a :: .char '\'' :: t) m' (.text :: hs)

theorem printing_of_holes : ∀ {ps : List Piece} {m m' : Mode} {hs : List Hole} {t : List (Chunk σ)},
    holes m ps = some (m', hs) → List.Forall₂ Prints ps t → Printing m ps t m' hs
  | [], m, m', hs, t, hholes, ht => by
      obtain ⟨rfl, rfl⟩ := Prod.mk.inj (Option.some.inj hholes)
      obtain rfl := List.forall₂_nil_left_iff.mp ht
      exact .nil m
  | .char c :: ps, m, m', hs, _, hholes, ht => by
      obtain ⟨⟨m₁, us⟩, hstep, hholes⟩ := Option.bind_eq_some_iff.mp hholes
      obtain ⟨⟨m₂, hs'⟩, hholes', heq⟩ := Option.map_eq_some_iff.mp hholes
      obtain ⟨rfl, rfl⟩ := Prod.mk.inj heq
      obtain ⟨t, rfl, ht'⟩ := exists_of_prints_char ht
      exact .char hstep (printing_of_holes hholes' ht')
  | .conv k :: ps, m, m', hs, _, hholes, ht => by
      obtain ⟨a, t, rfl, hsuits, ht'⟩ := exists_of_prints_conv ht
      rcases m with - | w | n | - | ⟨negative, v⟩ | ⟨- | ⟨c, t'⟩⟩ | t' | t'
      case start =>
        obtain ⟨hcond, hholes⟩ := Option.ite_none_right_eq_some.mp hholes
        rw [Bool.and_eq_true, bne_iff_ne] at hcond
        obtain ⟨⟨m₂, hs'⟩, hholes', heq⟩ := Option.map_eq_some_iff.mp hholes
        obtain ⟨rfl, rfl⟩ := Prod.mk.inj heq
        exact .number hsuits hcond.2 hcond.1 (printing_of_holes hholes' ht')
      case text.nil =>
        rcases ps with - | ⟨c | k', ps⟩
        · cases hholes
        · obtain rfl : c = '\'' := by
            by_contra hc
            simp [holes, hc] at hholes
          obtain ⟨hends, hholes⟩ := Option.ite_none_right_eq_some.mp hholes
          obtain ⟨⟨m₂, hs'⟩, hholes', heq⟩ := Option.map_eq_some_iff.mp hholes
          obtain ⟨rfl, rfl⟩ := Prod.mk.inj heq
          obtain ⟨u, rfl, hu⟩ := exists_of_prints_char ht'
          exact .text hsuits hends (printing_of_holes hholes' hu)
        · cases hholes
      all_goals cases hholes

/-- The tokens before the first hole. -/
def lead : List Hole → List Token
  | .token t :: hs => t :: lead hs
  | _ => []

theorem lead_tokens (ts : List Token) (hs : List Hole) :
    lead (ts.map .token ++ hs) = ts ++ lead hs := by
  induction ts with
  | nil => rfl
  | cons t ts ih => exact congrArg (t :: ·) ih

theorem lead_fill (hs : List Hole) (as : List (Arg σ)) : lead hs <+: fill content hs as := by
  induction hs with
  | nil => exact List.nil_prefix
  | cons h hs ih => cases h with
    | token t => exact (List.prefix_cons_inj t).mpr ih
    | number => exact List.nil_prefix
    | text => exact List.nil_prefix

/-- **What comes before the first argument is read as it stands**, whatever the strings are. -/
theorem lead_prefix_of_scan {ps : List Piece} {m m' : Mode} {hs : List Hole} {t : List (Chunk σ)}
    {rest : List Char} (h : Printing m ps t m' hs) : ∀ {m'' : Mode} {ts : List Token},
      scan m (chars print t ++ rest) = some (m'', ts) → lead hs <+: ts := by
  induction h with
  | nil m => exact fun _ => List.nil_prefix
  | @char m m₁ m' c us ps t hs hstep _ ih =>
      intro m'' ts hscan
      rw [chars_cons, chars_char, List.singleton_append, List.cons_append,
        scan_cons_of_step hstep] at hscan
      obtain ⟨⟨m₃, vs⟩, hrest, heq⟩ := Option.map_eq_some_iff.mp hscan
      obtain ⟨rfl, rfl⟩ := Prod.mk.inj heq
      rw [lead_tokens]
      exact (List.prefix_append_right_inj us).mpr (ih hrest)
  | number => exact fun _ => List.nil_prefix
  | text => exact fun _ => List.nil_prefix

theorem table_of_insert {w₁ w₂ n : List Char} {ts : List Token} {s : Insert}
    (h : insert (.word w₁ :: .word w₂ :: .name n :: ts) = some s) : s.table = String.ofList n := by
  rw [insert, Option.bind_eq_some_iff] at h
  obtain ⟨⟨table, cols, rest⟩, hhead, h⟩ := h
  obtain ⟨vs, -, h⟩ := Option.bind_eq_some_iff.mp h
  split at h
  · obtain rfl := Option.some.inj h
    unfold head at hhead
    split at hhead
    · next heq =>
        obtain ⟨-, heq⟩ := List.cons.inj heq
        obtain ⟨-, heq⟩ := List.cons.inj heq
        obtain ⟨hname, -⟩ := List.cons.inj heq
        obtain rfl := Token.name.inj hname
        split at hhead
        · split at hhead
          · split at hhead
            · obtain ⟨rfl, -⟩ := Prod.mk.inj (Option.some.inj hhead)
              rfl
            · cases hhead
          · cases hhead
        · cases hhead
    · cases hhead
  · cases h

theorem Addressed.table_mem {hs : List Hole} (h : Addressed names hs) {ts : List Token}
    (hlead : lead hs <+: ts) {s : Insert} (hs : insert ts = some s) : s.table ∈ names := by
  rcases h with ⟨w₁, w₂, n, us, rfl, hn⟩ | ⟨us, rfl⟩
  · obtain ⟨vs, rfl⟩ := hlead
    rw [table_of_insert hs]
    exact hn
  · obtain ⟨vs, rfl⟩ := hlead
    cases hs

/-- **A statement is on the table that its format names**, whatever it is read as. -/
theorem Templated.table_mem_of_read {t : List (Chunk σ)} (h : Templated names t) {s : Insert}
    (hs : read (chars print t) = some s) : s.table ∈ names := by
  obtain ⟨ps, us, ht, hus, haddr⟩ := h
  obtain ⟨ts, hts, hs⟩ := Option.bind_eq_some_iff.mp hs
  rw [tokens] at hts
  split at hts
  · next ts' hscan =>
      obtain rfl := Option.some.inj hts
      exact haddr.table_mem (lead_prefix_of_scan (printing_of_holes hus ht) hscan) hs
  · cases hts

theorem Templated.table_mem {t : List (Chunk σ)} (h : Templated names t) {s : Insert}
    (hs : meaning content t = some s) : s.table ∈ names := by
  obtain ⟨ps, us, ht, hus, haddr⟩ := h
  rw [meaning, meantTokens_of_holes hus ht, Option.bind_some] at hs
  exact haddr.table_mem (lead_fill us _) hs

/-- What is read and what is meant are on the same table. -/
theorem Templated.table_eq {t : List (Chunk σ)} (h : Templated names t) {r m : Insert}
    (hr : read (chars print t) = some r) (hm : meaning content t = some m) : r.table = m.table := by
  obtain ⟨ps, us, ht, hus, ⟨w₁, w₂, n, us', rfl, -⟩ | ⟨us', rfl⟩⟩ := h
  · have hself : Templated [String.ofList n] t :=
      ⟨ps, _, ht, hus, .inl ⟨w₁, w₂, n, us', rfl, List.mem_cons_self⟩⟩
    rw [List.mem_singleton.mp (hself.table_mem_of_read hr),
      List.mem_singleton.mp (hself.table_mem hm)]
  · rw [meaning, meantTokens_of_holes hus ht] at hm
    cases hm

/-! ## Headers and tuples -/

/-- `t` is a header with tuples, or tuples alone, with a comma after the last of them. -/
def Tuples (names : List String) (t : List (Chunk σ)) : Prop :=
  ∃ ps hs u, t = u ++ [.char ','] ∧ List.Forall₂ Prints ps u ∧
    holes .start ps = some (.start, hs) ∧ Addressed names hs

theorem Tuples.append {t u : List (Chunk σ)} (ht : Tuples names t) (hu : Tuples names u) :
    Tuples names (t ++ u) := by
  obtain ⟨ps, hs, t, rfl, hps, hholes, haddr⟩ := ht
  obtain ⟨qs, hs', u, rfl, hqs, hholes', -⟩ := hu
  refine ⟨ps ++ .char ',' :: qs, hs ++ .token .comma :: hs', t ++ .char ',' :: u, by simp,
    List.rel_append hps (.cons rfl hqs), ?_, haddr.append _⟩
  have hcomma : holes .start (.char ',' :: qs) = some (.start, .token .comma :: hs') := by
    rw [holes, show step .start ',' = some (.start, [.comma]) from rfl, Option.bind_some, hholes']
    rfl
  rw [holes_append rfl hholes, hcomma, Option.map_some]

theorem Tuples.bulk_terminated {t : List (Chunk σ)} (h : Tuples names t) :
    bulk (Sql.terminated t) = bulk t := by
  obtain ⟨ps, hs, u, rfl, -⟩ := h
  rw [Sql.terminated, List.dropLast_concat, bulk_append, bulk_append]
  rfl

theorem Tuples.strings_terminated {t : List (Chunk σ)} (h : Tuples names t) :
    strings (Sql.terminated t) = strings t := by
  obtain ⟨ps, hs, u, rfl, -⟩ := h
  rw [Sql.terminated, List.dropLast_concat, strings_append, strings_append]
  rfl

theorem Tuples.terminated {t : List (Chunk σ)} (h : Tuples names t) :
    Templated names (terminated t) := by
  obtain ⟨ps, hs, u, rfl, hu, hholes, haddr⟩ := h
  refine ⟨ps ++ [.char ';'], hs ++ [.token .semicolon], ?_, ?_, haddr.append _⟩
  · rw [Sql.terminated, List.dropLast_concat]
    exact List.rel_append hu (.cons rfl .nil)
  · rw [holes_append rfl hholes]
    rfl

/-- The table of the statements with this header and rows of this format, if the rows take arguments
for these slots. -/
def target (header row : List Char) (slots : List Slot) : Option (List Char) :=
  match pieces row, scan .start (header ++ ['(']) with
  | some (.char '(' :: tl), some (.start, .word _ :: .word _ :: .name n :: _) =>
    if pieces header = some (header.map .char) ∧ 10 < header.length ∧
      tl.getLast? = some (.char ',') ∧ ((holes .start tl.dropLast).map Prod.fst) = some .start ∧
      convs tl = slots.map Slot.conv
    then some n else none
  | _, _ => none

/-- The header names this table, and rows of this format have tokens and these slots. -/
def Sound (header row table : String) (slots : List Slot) : Prop :=
  (target header.toList row.toList slots).map String.ofList = some table

section

variable {header row table : String} {slots : List Slot}

theorem Sound.of_chars {h r n : List Char} (hh : header = String.ofList h)
    (hr : row = String.ofList r) (hn : table = String.ofList n) (ht : target h r slots = some n) :
    Sound header row table slots := by
  rw [Sound, hh, hr, String.toList_ofList, String.toList_ofList, ht, hn, Option.map_some]

theorem Sound.formats (h : Sound header row table slots) :
    ∃ body w₁ w₂ n ts us, pieces header.toList = some (header.toList.map .char) ∧
      10 < header.toList.length ∧
      scan .start (header.toList ++ ['(']) = some (.start, .word w₁ :: .word w₂ :: .name n :: ts) ∧
      pieces row.toList = some (.char '(' :: (body ++ [.char ','])) ∧
      holes .start body = some (.start, us) ∧ convs (body ++ [.char ',']) = slots.map Slot.conv ∧
      String.ofList n = table := by
  rw [Sound, Option.map_eq_some_iff] at h
  obtain ⟨n, hn, htable⟩ := h
  unfold target at hn
  split at hn
  · next tl w₁ w₂ n' ts hrow hhead =>
      obtain ⟨⟨hheader, hlen, hlast, hbody, hconvs⟩, hn⟩ := Option.ite_none_right_eq_some.mp hn
      obtain rfl := Option.some.inj hn
      obtain ⟨body, rfl⟩ := List.getLast?_eq_some_iff.mp hlast
      obtain ⟨⟨m, us⟩, hus, rfl⟩ := Option.map_eq_some_iff.mp hbody
      rw [List.dropLast_concat] at hus
      exact ⟨body, w₁, w₂, n', ts, us, hheader, hlen, hhead, hrow, hus, hconvs, htable⟩
  · cases hn

/-- Arguments for the slots can be printed. -/
theorem Sound.printed (h : Sound header row table slots) {as : List (Arg σ)}
    (has : Fills as slots) : ∃ r, Printed row.toList as r := by
  obtain ⟨body, w₁, w₂, n, ts, us, -, -, -, hrow, -, hconvs, -⟩ := h.formats
  have hsuits : List.Forall₂ Arg.Suits as (convs (.char '(' :: (body ++ [.char ',']))) := by
    rw [convs, hconvs]
    exact has
  obtain ⟨r, hr⟩ := format_of_suits hsuits
  exact ⟨r, _, hrow, hr⟩

/-- Rows alone. -/
theorem Sound.tuples_row (h : Sound header row table slots) {as : List (Arg σ)}
    {r : List (Chunk σ)} (hr : Printed row.toList as r) : Tuples names r := by
  obtain ⟨body, w₁, w₂, n, ts, us, -, -, -, hrow, hbody, -⟩ := h.formats
  obtain ⟨ps, hps, hformat⟩ := hr
  obtain rfl := Option.some.inj (hps.symm.trans hrow)
  obtain ⟨u, hu, rfl⟩ := format_append_char ','
    (show format (.char '(' :: body ++ [_]) _ = _ from hformat)
  refine ⟨.char '(' :: body, .token .opening :: us, u, rfl, prints_of_format hu, ?_, .inr ⟨us, rfl⟩⟩
  rw [holes, show step .start '(' = some (.start, [.opening]) from rfl, Option.bind_some, hbody]
  rfl

/-- Characters are read as they stand. -/
theorem holes_map_char (qs : List Piece) : ∀ (cs : List Char) (m : Mode),
    holes m (cs.map .char ++ qs)
      = (scan m cs).bind fun q => (holes q.1 qs).map fun r => (r.1, q.2.map .token ++ r.2)
  | [], m => Option.map_id'.symm
  | c :: cs, m => by
      rw [List.map_cons, List.cons_append, holes, scan_cons]
      rcases step m c with - | ⟨m', ts⟩
      · rfl
      · rw [Option.bind_some, Option.bind_some, holes_map_char qs cs m']
        rcases scan m' cs with - | ⟨m'', us⟩
        · rfl
        · simp [List.append_assoc, Function.comp_def]

/-- A row after its header. -/
theorem Sound.tuples (h : Sound header row table slots) (htable : table ∈ names)
    {as : List (Arg σ)} {r : List (Chunk σ)} (hr : Printed row.toList as r) :
    Tuples names (literal header.toList ++ r) := by
  obtain ⟨body, w₁, w₂, n, ts, us, -, -, hhead, hrow, hbody, -, rfl⟩ := h.formats
  obtain ⟨ps, hps, hformat⟩ := hr
  obtain rfl := Option.some.inj (hps.symm.trans hrow)
  obtain ⟨u, hu, rfl⟩ := format_append_char ','
    (show format (.char '(' :: body ++ [_]) _ = _ from hformat)
  refine ⟨header.toList.map .char ++ .char '(' :: body, _, literal header.toList ++ u,
    (List.append_assoc _ _ _).symm, List.rel_append (prints_literal _) (prints_of_format hu), ?_,
    .inl ⟨w₁, w₂, n, ts.map .token ++ us, rfl, htable⟩⟩
  rw [← List.singleton_append, ← List.append_assoc, show ([.char '('] : List Piece) =
    ['('].map .char from rfl, ← List.map_append, holes_map_char, hhead, Option.bind_some, hbody]
  rfl

/-- A format of a whole statement: the header, one tuple, a semicolon. -/
def Whole (fmt header row : String) : Prop :=
  pieces fmt.toList = (pieces row.toList).map fun ps =>
    header.toList.map .char ++ (ps.dropLast ++ [.char ';'])

theorem Whole.of_chars {fmt : String} {f h r : List Char} (hf : fmt = String.ofList f)
    (hh : header = String.ofList h) (hr : row = String.ofList r)
    (hwhole : decide (pieces f = (pieces r).map fun ps =>
      h.map .char ++ (ps.dropLast ++ [.char ';'])) = true) : Whole fmt header row := by
  rw [Whole, hf, hh, hr, String.toList_ofList, String.toList_ofList, String.toList_ofList]
  exact of_decide_eq_true hwhole

/-- What is printed with it is the statement of one tuple. -/
theorem Whole.printed_iff {fmt : String} (h : Whole fmt header row)
    (hsound : Sound header row table slots) {as : List (Arg σ)} {t : List (Chunk σ)} :
    Printed fmt.toList as t ↔ ∃ r, Printed row.toList as r ∧
      t = Sql.terminated (literal header.toList ++ r) := by
  obtain ⟨body, w₁, w₂, n, ts, us, -, -, -, hrow, -⟩ := hsound.formats
  rw [← List.cons_append] at hrow
  rw [Whole, hrow, Option.map_some, List.dropLast_concat] at h
  have hend : ∀ v : List (Chunk σ), Sql.terminated (literal header.toList ++ (v ++ [.char ',']))
      = literal header.toList ++ (v ++ [.char ';']) := fun v => by
    rw [Sql.terminated, ← List.append_assoc, List.dropLast_concat, List.append_assoc]
  constructor
  · rintro ⟨ps, hps, hformat⟩
    obtain rfl := Option.some.inj (hps.symm.trans h)
    rw [format_map_char_append, Option.map_eq_some_iff] at hformat
    obtain ⟨u, hu, rfl⟩ := hformat
    obtain ⟨v, hv, rfl⟩ := format_append_char ';' hu
    exact ⟨v ++ [.char ','], ⟨_, hrow, format_append_of_format ',' hv⟩, (hend v).symm⟩
  · rintro ⟨r, ⟨ps, hps, hformat⟩, rfl⟩
    obtain rfl := Option.some.inj (hps.symm.trans hrow)
    obtain ⟨v, hv, rfl⟩ := format_append_char ',' hformat
    refine ⟨_, h, ?_⟩
    rw [format_map_char_append, format_append_of_format ';' hv, hend, Option.map_some]

end

end Sql

import Sadip.DataInsert.Demands
import Sadip.DataInsert.Kept
import Sadip.Machinery.Sql.Misfit

/-!
# DataInsert/Formed — what it takes for all statements to be formed

`Forms` demands that every statement of an insertion is meant to be one (`Demands`).  A loop over a
table puts the conditions of its elements together (`forms_insertEach`); a statement that does not
fit makes the condition false, whatever comes behind it (`forms_flush_of_none`).
-/

namespace Sadip

namespace DataInsert

open Printf Sql Insertion

variable {σ α β : Type} {print content : σ → List Char}

theorem formed_nil : Formed content ([] : List (Text σ)) := List.forall_mem_nil _

/-- All statements are formed and the result is reached and in `Q`, exactly if `P`; and as long as
they are formed, the result is in `T`. -/
abbrev Forms (print content : σ → List Char) (p : Insertion σ α) (P : Prop) (T Q : α → Prop) :
    Prop :=
  Demands print (fun t => (meaning content t).isSome = true) p P T Q

theorem Grows.forms {p : Insertion σ Unit} {carried : List Int64} {F : Forest Int64 Row → Prop}
    {P : Prop} (h : Grows print content (fun _ => True) carried p F) :
    Forms print content p P (fun _ => True) fun _ => P :=
  .of_yields (Yields.mono h (fun _ _ _ ⟨_, _, hbears⟩ => ⟨hbears.formed, trivial⟩) fun _ _ h => h)

/-! ## Steps -/

section

variable {P : Prop} {t : Table}

theorem forms_append {i : ℕ} {as : List (Arg σ)} (h : fills as t.slots = true) :
    Forms print content (t.append i as) P (fun text => ∃ row, t.Adds content i row text)
      fun _ => P :=
  .of_yields (yields_append _ (Table.stores h rfl) fun _ htext => ⟨formed_nil, _, htext⟩)

theorem forms_whole {fmt : String} {size : ℕ} {as : List (Arg σ)}
    (hwhole : Whole fmt t.header t.row)
    (h : fills as t.slots = true) :
    Forms print content (sprintf size fmt as >>= excuteSql) P (fun _ => True) fun _ => P :=
  .of_yields ((yields_whole _ hwhole (Table.stores h rfl)).mono (fun _ _ _ h => ⟨h.2, trivial⟩)
    fun _ _ h => h)

theorem forms_flush_of_gathers {rows : List Row} {text : Text σ}
    (h : t.Gathers content 0 rows text) :
    Forms print content (flush text) P (fun _ => True) fun _ => P := by
  refine .of_yields ?_
  show if _ then _ else _
  cases rows with
  | nil =>
      obtain rfl : text = [] := h
      exact ⟨formed_nil, trivial⟩
  | cons r rs =>
      obtain ⟨s, hs, -⟩ := h.meaning
      rw [if_pos h.lt_size]
      exact ⟨formed_singleton hs, trivial⟩

theorem forms_flush_of_none {T Q : Unit → Prop} {text : Text σ}
    (h : meaning content (terminated text) = none) (hsize : 10 < Printf.size print text) :
    Forms print content (flush text) False T Q := by
  refine .of_not ?_
  show if _ then _ else _
  rw [if_pos hsize]
  intro hformed
  have hsome := List.forall_mem_singleton.mp hformed
  rw [h] at hsome
  cases hsome

end

/-! ## Loops -/

section

variable {t : Table} {keep : α → Bool} {C : ℕ → α → Prop} {R : Prop}
  {body : ℕ → α → Insertion σ (Text σ)}

theorem forms_forEach_kept (hskip : ∀ i e, keep e = false → body i e = pure [])
    (hbody : ∀ i e, keep e = true → ∀ R, Forms print content (body i e) (C i e ∧ R)
      (fun text => ∃ row, t.Adds content i row text) fun _ => R) : ∀ (i : ℕ) (es : List α),
    Forms print content (forEach body i es) ((∀ q ∈ es.zipIdx i, keep q.1 = true → C q.2 q.1) ∧ R)
      (fun text => ∃ rows, Sifts t content keep i es rows text ∧ (rows = [] ↔ es.any keep = false))
      fun _ => R
  | i, [] => by
      refine (demands_pure (Q := fun _ => R) ⟨[], ?_, ?_⟩).congr
        (and_iff_right (List.forall_mem_nil _)).symm
      · rw [Sifts]
        exact Table.gathers_nil
      · exact iff_of_true rfl rfl
  | i, e :: es => by
      have hrest := forms_forEach_kept hskip hbody (i + 1) es
      rw [forEach]
      cases he : keep e with
      | false =>
        rw [hskip i e he, pure_bind]
        refine Demands.congr (hrest.bind (Q := fun _ => R) ?_) ?_
        · rintro text ⟨rows, htext, hrows⟩
          refine demands_pure (Q := fun _ => R) ⟨rows, htext.skip he, ?_⟩
          rwa [List.any_cons, he, Bool.false_or]
        · rw [List.zipIdx_cons, List.forall_mem_cons, he]
          simp only [Bool.false_eq_true, false_imp_iff, true_and]
      | true =>
        have hfirst := hbody i e he ((∀ q ∈ es.zipIdx (i + 1), keep q.1 = true → C q.2 q.1) ∧ R)
        refine Demands.congr (hfirst.bind ?_) ?_
        · rintro text ⟨row, htext⟩
          refine hrest.bind (Q := fun _ => R) ?_
          rintro text' ⟨rows, htext', -⟩
          refine demands_pure (Q := fun _ => R) ⟨row :: rows, htext'.cons he htext, ?_⟩
          rw [List.any_cons, he, Bool.true_or]
          exact iff_of_false (List.cons_ne_nil _ _) fun h => Bool.false_ne_true h.symm
        · rw [List.zipIdx_cons, List.forall_mem_cons, he, and_assoc]
          simp only [forall_const]

theorem forms_flush_of_sifts {es : List α} {rows : List Row} {text : Text σ}
    (hlong : ¬Starts keep es → t.Long) (htext : Sifts t content keep 0 es rows text)
    (hrows : rows = [] ↔ es.any keep = false) :
    Forms print content (flush text) (Starts keep es ∧ R) (fun _ => True) fun _ => R := by
  cases rows with
  | nil =>
      have hstarts : Starts keep es := fun hany => by
        rw [hrows.mp rfl] at hany
        cases hany
      obtain rfl : text = [] := htext
      exact (forms_flush_of_gathers (t := t) Table.gathers_nil).congr (and_iff_right hstarts).symm
  | cons r rs =>
      have hany : es.any keep = true := by
        rw [← Bool.not_eq_false, ← hrows]
        exact List.cons_ne_nil r rs
      rw [starts_iff_of_any hany]
      cases hhead : es.head?.any keep with
      | true =>
        rw [Sifts, hhead, if_pos ⟨rfl, rfl⟩] at htext
        exact (forms_flush_of_gathers htext).congr (and_iff_right rfl).symm
      | false =>
        have hsize : 10 < Printf.size print text := htext.lt_size (hlong fun h => by
          rw [h hany] at hhead
          cases hhead)
        rw [Sifts, hhead, if_neg fun h => Bool.false_ne_true h.2] at htext
        exact (forms_flush_of_none htext.meaning_eq_none hsize).congr
          (iff_of_false not_false fun h => Bool.false_ne_true h.1)

/-- **A filtered list**: its elements have their own conditions, and the statement its start. -/
theorem forms_insertEach_kept {es : List α} (hlong : ¬Starts keep es → t.Long)
    (hskip : ∀ i e, keep e = false → body i e = pure [])
    (hbody : ∀ i e, keep e = true → ∀ R, Forms print content (body i e) (C i e ∧ R)
      (fun text => ∃ row, t.Adds content i row text) fun _ => R) :
    Forms print content (insertEach body es)
      ((∀ q ∈ es.zipIdx, keep q.1 = true → C q.2 q.1) ∧ Starts keep es ∧ R) (fun _ => True)
      fun _ => R :=
  (forms_forEach_kept hskip hbody 0 es).bind fun _ ⟨_, htext, hrows⟩ =>
    forms_flush_of_sifts hlong htext hrows

/-- A list in which nothing is passed over and no element has a condition. -/
theorem forms_insertEach {es : List α} (hbody : ∀ i e R, Forms print content (body i e) R
      (fun text => ∃ row, t.Adds content i row text) fun _ => R) :
    Forms print content (insertEach body es) R (fun _ => True) fun _ => R := by
  have hstarts : Starts (fun _ => true) es := fun hany => by
    cases es with
    | nil => cases hany
    | cons e es => rfl
  have hkept : Forms print content (insertEach body es)
      ((∀ q ∈ es.zipIdx, (fun _ => true) q.1 = true → True) ∧ Starts (fun _ => true) es ∧ R)
      (fun _ => True) fun _ => R :=
    forms_insertEach_kept (fun h => absurd hstarts h) (fun _ _ h => by cases h) fun i e _ R =>
      (hbody i e R).congr (and_iff_right trivial).symm
  refine hkept.congr ?_
  rw [and_iff_right hstarts, and_iff_right fun _ _ _ => trivial]

theorem forms_optionally {o : Option β} {f : β → Insertion σ Unit}
    (h : ∀ b, Forms print content (f b) R (fun _ => True) fun _ => R) :
    Forms print content (optionally o f) R (fun _ => True) fun _ => R := by
  cases o with
  | none => exact demands_pure (T := fun _ => True) (Q := fun _ => R) trivial
  | some b => exact h b

end

/-! ## Statements that never fit -/

theorem Table.Adds.gathers {t : Table} {i : ℕ} {row : Row} {text : Text σ}
    (h : t.Adds content i row text) : t.Gathers content i [row] text :=
  ⟨text, [], (List.append_nil text).symm, h, gathers_nil⟩

/-- A text with two headers. -/
theorem Table.Adds.meaning_twice {t t' : Table} {row row' : Row} {a a' : Text σ}
    (h : t.Adds content 0 row a) (h' : t'.Adds content 0 row' a') (u : Text σ) :
    meaning content (terminated (a ++ (a' ++ u))) = none := by
  obtain ⟨as, r, ⟨hfills, -⟩, hr, rfl⟩ := h
  obtain ⟨as', r', ⟨hfills', -⟩, hr', rfl⟩ := h'
  obtain ⟨b, rfl, hlists⟩ : ∃ b, r = _ ∧ Lists content b _ := t.matched.shapes.lists hfills hr
  obtain ⟨b', rfl, -⟩ : ∃ b', r' = _ ∧ Lists content b' _ := t'.matched.shapes.lists hfills' hr'
  have htext : terminated (literal t.header.toList ++ .char '(' :: (b ++ [.char ',']) ++
        (literal t'.header.toList ++ .char '(' :: (b' ++ [.char ',']) ++ u))
      = literal t.header.toList ++ .char '(' :: (b ++ .char ',' ::
        (literal t'.header.toList ++ .char '(' :: terminated (b' ++ [.char ','] ++ u))) := by
    rw [List.append_assoc, List.append_assoc, List.cons_append, List.cons_append, List.append_assoc,
      List.singleton_append, terminated_append _ (by simp), terminated_cons _ (by simp),
      terminated_append _ (by simp), terminated_cons _ (by simp), terminated_append _ (by simp),
      terminated_cons _ (by simp)]
  rw [if_pos rfl, if_pos rfl, htext]
  exact meaning_of_header_twice t.matched.opens t'.matched.opens hlists _

/-- Whatever is printed into the tuples, there is no statement. -/
def Layout.Spoilt (l : Layout) (content : σ → List Char) : Prop :=
  ∀ as r u, Fills as l.slots → Printed l.row.toList as r →
    meaning content (terminated (literal l.header.toList ++ (r ++ u))) = none

theorem Layout.spoilt_of_unclosed {l : Layout} {h : List Char} (hh : l.header = String.ofList h)
    (hunclosed : unclosedIn h = true) : l.Spoilt content := by
  intro as r u _ hr
  obtain ⟨body, _, _, _, _, _, -, -, -, hrow, -⟩ := l.sound.formats
  obtain ⟨ps, hps, hformat⟩ := hr
  obtain rfl := Option.some.inj (hps.symm.trans hrow)
  obtain ⟨t, ht, rfl⟩ := Option.map_eq_some_iff.mp hformat
  obtain ⟨b, -, rfl⟩ := format_append_char ',' ht
  have hne : b ++ [.char ','] ++ u ≠ [] := by simp
  rw [hh, String.toList_ofList, List.cons_append, terminated_append _ (List.cons_ne_nil _ _),
    terminated_cons _ hne]
  exact meaning_of_unclosedIn hunclosed _

theorem Layout.spoilt_of_runsOn {l : Layout} {h r : List Char} {xs ys : List Slot}
    (hh : l.header = String.ofList h) (hr : l.row = String.ofList r) (hslots : l.slots = xs ++ ys)
    (hruns : runsOn h r xs ys = true) : l.Spoilt content := by
  intro as t u has ht
  rw [hr, String.toList_ofList] at ht
  rw [hh, String.toList_ofList]
  exact meaning_of_runsOn hruns (hslots ▸ has) ht u

section

variable {l : Layout} {R : Prop} {as : α → Int64 → List (Arg σ)}

/-- The first element: the header, and a tuple. -/
theorem always_first (hfills : ∀ e id, fills (as e id) l.slots = true) (e : α) :
    Always (fun _ => True) (nextId >>= fun id => l.append 0 (as e id)) fun text =>
      ∃ bs r, Fills bs l.slots ∧ Printed l.row.toList bs r ∧
        text = literal l.header.toList ++ r := by
  refine .bind (always_nextId fun _ => trivial) fun id _ => ?_
  refine (l.always_start 0).bind fun header hheader => (always_sprintf _ _ _).bind fun r hr => ?_
  rw [if_pos rfl] at hheader
  exact ⟨as e id, r, fills_iff.mp (hfills e id), hr, by rw [hheader]⟩

/-- **A list of such a table** has to be empty. -/
theorem forms_insertEach_spoilt (hspoilt : l.Spoilt content)
    (hfills : ∀ e id, fills (as e id) l.slots = true) (es : List α) :
    Forms print content (insertEach (fun i e => nextId >>= fun id => l.append i (as e id)) es)
      (es = [] ∧ R) (fun _ => True) fun _ => R := by
  cases es with
  | nil =>
      refine Demands.congr ?_ (and_iff_right rfl).symm
      exact Demands.of_yields ⟨formed_nil, trivial⟩
  | cons e es =>
      refine Demands.congr (P := False) ?_ (iff_of_false not_false
        fun h => List.cons_ne_nil e es h.1)
      have hfirst : Always (fun _ => True) (forEach (fun i e => nextId >>= fun id =>
          l.append i (as e id)) 0 (e :: es)) fun text => ∃ bs r u, Fills bs l.slots ∧
            Printed l.row.toList bs r ∧ text = literal l.header.toList ++ (r ++ u) := by
        rw [forEach]
        refine (always_first hfills e).bind ?_
        rintro text ⟨bs, r, hbs, hr, htext⟩
        refine (always_true _).bind fun text' _ => ⟨bs, r, text', hbs, hr, ?_⟩
        rw [htext, List.append_assoc]
      refine (demands_of_always hfirst).bind ?_
      rintro text ⟨bs, r, u, hbs, hr, htext⟩
      refine forms_flush_of_none (by rw [htext, hspoilt bs r u hbs hr]) ?_
      have hbulk : bulk _ ≤ Printf.size print _ := bulk_le_size (literal l.header.toList : Text σ)
      have hheader := l.lt_bulk_header (σ := σ)
      rw [htext, size_append]
      omega

end

end DataInsert

end Sadip

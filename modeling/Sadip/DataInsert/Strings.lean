import Sadip.DataInsert.Demands
import Sadip.DataInsert.Message
import Sadip.Machinery.Sql.Literal

/-!
# DataInsert/Strings — what the strings in the statements have to be

`Admits` demands that the strings in all statements of an insertion are in `D`.  A string that is
printed into a tuple counts only when the statement is executed; that it will be is known from the
length of what is printed around it (`Laden`).
-/

namespace Sadip

namespace DataInsert

open Printf Sql Insertion

variable {σ α β : Type} {print : σ → List Char} {D : σ → Prop}

/-- The strings in the text are in `D`. -/
def Spotless (D : σ → Prop) (t : Text σ) : Prop := ∀ s ∈ strings t, D s

/-- What is gathered for a statement: it ends with a comma, and if it has other strings it is long
enough to be executed. -/
def Laden (D : σ → Prop) (t : Text σ) : Prop :=
  t = [] ∨ (∃ u, t = u ++ [.char ',']) ∧ (Spotless D t ∨ 10 < bulk t)

theorem spotless_nil : Spotless D ([] : Text σ) := List.forall_mem_nil _

theorem spotless_of_strings {t : Text σ} {ss : List σ} (h : strings t = ss) :
    Spotless D t ↔ ∀ s ∈ ss, D s := by rw [Spotless, h]

theorem spotless_append {t u : Text σ} : Spotless D (t ++ u) ↔ Spotless D t ∧ Spotless D u := by
  rw [Spotless, strings_append, List.forall_mem_append]
  rfl

theorem laden_nil : Laden D ([] : Text σ) := .inl rfl

theorem Laden.append {t u : Text σ} (ht : Laden D t) (hu : Laden D u) : Laden D (t ++ u) := by
  rcases ht with rfl | ⟨⟨t, rfl⟩, hlen⟩
  · exact hu
  rcases hu with rfl | ⟨⟨u, rfl⟩, hlen'⟩
  · rw [List.append_nil]
    exact .inr ⟨⟨t, rfl⟩, hlen⟩
  · refine .inr ⟨⟨t ++ [.char ','] ++ u, by simp only [List.append_assoc]⟩, ?_⟩
    rw [spotless_append, bulk_append]
    rcases hlen with hlen | hlen
    · rcases hlen' with hlen' | hlen'
      · exact .inl ⟨hlen, hlen'⟩
      · exact .inr (Nat.lt_add_left _ hlen')
    · exact .inr (Nat.lt_add_right _ hlen)

/-- The comma at the end makes way for a semicolon. -/
theorem spotless_terminated {t u : Text σ} (h : t = u ++ [.char ',']) :
    Spotless D (terminated t) ↔ Spotless D t := by
  rw [h, terminated, List.dropLast_concat, Spotless, Spotless, strings_append, strings_append]
  rfl

/-! ### The strings among arguments

With these `simp` goes through the arguments of a row and leaves its strings.
-/

@[simp] theorem strings_nil : strings ([] : Text σ) = [] := rfl

@[simp] theorem strings_int (v : Int32) (t : Text σ) : strings (.arg (.int v) :: t) = strings t :=
    rfl

@[simp] theorem strings_long (v : Int64) (t : Text σ) : strings (.arg (.long v) :: t) = strings t :=
  rfl

@[simp] theorem strings_str (s : Option σ) (t : Text σ) :
    strings (.arg (.str s) :: t) = s.toList ++ strings t := by
  cases s with
  | none => rfl
  | some s => rfl

/-! ## Rules -/

/-- The strings in all statements are in `D` and the result is reached and in `Q`, exactly if `P`;
and as long as they are in `D`, the result is in `T`. -/
abbrev Admits (print : σ → List Char) (D : σ → Prop) (p : Insertion σ α) (P : Prop)
    (T Q : α → Prop) :
    Prop :=
  Demands print (Spotless D) p P T Q

section

variable {R : Prop} {l : Layout} {i : ℕ} {as : List (Arg σ)} {ss known : List σ}

/-- A tuple, with strings that are known behind the others. -/
theorem admits_append (h : fills as l.slots = true) (hstrings : strings (as.map .arg) = ss ++ known)
    (hknown : ∀ s ∈ known, D s) (hlong : ss = [] ∨ l.Long) : Admits print D (l.append i as)
      ((∀ s ∈ ss, D s) ∧ R) (Laden D) fun text => Spotless D text ∧ R := by
  obtain ⟨r, hr⟩ := l.sound.printed (fills_iff.mp h)
  obtain ⟨-, -, u, hu, -⟩ : Tuples [] r := l.sound.tuples_row hr
  have hspotless : Spotless D r ↔ ∀ s ∈ ss, D s := by
    rw [spotless_of_strings ((l.sound.strings_row hr (fills_iff.mp h)).trans hstrings),
      List.forall_mem_append, and_iff_left hknown]
  have hprinted : ∀ header : Text σ, strings header = [] → Laden D (header ++ r) ∧
      ((∀ s ∈ ss, D s) ∧ R ↔ Spotless D (header ++ r) ∧ R) := by
    intro header hnone
    have hheader : Spotless D header := (spotless_of_strings hnone).mpr (List.forall_mem_nil _)
    have hwhole : Spotless D (header ++ r) ↔ ∀ s ∈ ss, D s := by
      rw [spotless_append, and_iff_right hheader, hspotless]
    refine ⟨.inr ⟨⟨header ++ u, by rw [hu, List.append_assoc]⟩, ?_⟩, and_congr_left' hwhole.symm⟩
    rw [bulk_append, hwhole]
    rcases hlong with rfl | hlong
    · exact .inl (List.forall_mem_nil _)
    · exact .inr (Nat.lt_add_left _ (hlong.lt_bulk hr))
  rw [Layout.append, Layout.start]
  split
  · rw [sprintf_of_printed l.printed_header, sprintf_of_printed hr]
    exact ⟨fun _ => hprinted _ (strings_literal _), fun h => absurd (List.forall_mem_nil _) h⟩
  · rw [sprintf_of_printed hr]
    exact ⟨fun _ => hprinted [] rfl, fun h => absurd (List.forall_mem_nil _) h⟩

/-- A tuple with strings of its own. -/
theorem admits_append_own (h : fills as l.slots = true) (hstrings : strings (as.map .arg) = ss)
    (hlong : l.Long) : Admits print D (l.append i as) ((∀ s ∈ ss, D s) ∧ R) (Laden D)
      fun text => Spotless D text ∧ R :=
  admits_append h (hstrings.trans (List.append_nil ss).symm) (List.forall_mem_nil _) (.inr hlong)

/-- A tuple with no other strings. -/
theorem admits_append_of_known (h : fills as l.slots = true)
    (hstrings : strings (as.map .arg) = known) (hknown : ∀ s ∈ known, D s) :
    Admits print D (l.append i as) R (Laden D) fun text => Spotless D text ∧ R :=
  (admits_append h (hstrings.trans (List.nil_append known).symm) hknown (.inl rfl)).congr
    (and_iff_right (List.forall_mem_nil _))

/-- A tuple without strings. -/
theorem admits_append_nil (h : fills as l.slots = true) (hstrings : strings (as.map .arg) = []) :
    Admits print D (l.append i as) R (Laden D) fun text => Spotless D text ∧ R :=
  admits_append_of_known h hstrings (List.forall_mem_nil _)

/-- A statement of one tuple. -/
theorem admits_whole {T : Unit → Prop} {fmt : String} {size : ℕ} (hwhole : Whole fmt l.header l.row)
    (h : fills as l.slots = true) (hstrings : strings (as.map .arg) = ss)
    (hT : (∀ s ∈ ss, D s) → T ()) :
    Admits print D (sprintf size fmt as >>= excuteSql) ((∀ s ∈ ss, D s) ∧ R) T fun _ => R := by
  obtain ⟨r, hr⟩ := l.sound.printed (fills_iff.mp h)
  obtain ⟨-, -, u, hu, -⟩ : Tuples [] r := l.sound.tuples_row hr
  have hspotless : Spotless D (terminated (literal l.header.toList ++ r)) ↔ ∀ s ∈ ss, D s := by
    rw [spotless_terminated (u := literal l.header.toList ++ u) (by rw [hu, List.append_assoc]),
      Spotless, strings_append, strings_literal, List.nil_append,
      l.sound.strings_row hr (fills_iff.mp h), hstrings]
  rw [sprintf_of_printed ((hwhole.printed_iff l.sound).mpr ⟨r, hr, rfl⟩), ← hspotless]
  refine ⟨fun hall => ?_, fun hnot hP => hnot (List.forall_mem_singleton.mpr hP.1)⟩
  have hss : Spotless D _ := List.forall_mem_singleton.mp hall
  exact ⟨hT (hspotless.mp hss), and_iff_right hss⟩

theorem admits_pure {text : Text σ} (h : Laden D text) : Admits print D (pure text)
    (Spotless D text ∧ R) (Laden D) fun text => Spotless D text ∧ R :=
  demands_pure (Q := fun text => Spotless D text ∧ R) h

theorem admits_flush {text : Text σ} (h : Laden D text) :
    Admits print D (flush text) (Spotless D text ∧ R) (fun _ => True) fun _ => R := by
  show if _ then _ else _
  split
  · next hsize =>
      rcases h with rfl | ⟨⟨u, hu⟩, -⟩
      · exact absurd hsize (Nat.not_lt_zero 10)
      · rw [← spotless_terminated hu]
        refine ⟨fun hall => ⟨trivial, and_iff_right ?_⟩, fun hnot hP => hnot ?_⟩
        · exact List.forall_mem_singleton.mp hall
        · exact List.forall_mem_singleton.mpr hP.1
  · next hsize =>
      have hspotless : Spotless D text := by
        rcases h with rfl | ⟨-, hspotless | hlen⟩
        · exact spotless_nil
        · exact hspotless
        · exact absurd (Nat.lt_of_lt_of_le hlen (bulk_le_size text)) hsize
      exact ⟨fun _ => ⟨trivial, and_iff_right hspotless⟩,
        fun h => absurd (List.forall_mem_nil _) h⟩

end

/-! ## Loops -/

section

variable {C : ℕ → α → Prop} {R : Prop} {body : ℕ → α → Insertion σ (Text σ)}

theorem admits_forEach (hbody : ∀ i e R, Admits print D (body i e) (C i e ∧ R) (Laden D)
      fun text => Spotless D text ∧ R) : ∀ (i : ℕ) (es : List α) (R : Prop),
    Admits print D (forEach body i es) ((∀ q ∈ es.zipIdx i, C q.2 q.1) ∧ R) (Laden D)
      fun text => Spotless D text ∧ R
  | i, [], R => by
      refine (admits_pure laden_nil).congr (and_congr_left fun _ => ?_)
      exact iff_of_true spotless_nil (List.forall_mem_nil _)
  | i, e :: es, R => by
      rw [forEach, List.zipIdx_cons, List.forall_mem_cons, and_assoc]
      refine (hbody i e _).bind fun text htext => ?_
      rw [and_left_comm]
      refine (admits_forEach hbody (i + 1) es _).bind fun text' htext' => ?_
      rw [and_left_comm, ← and_assoc, ← spotless_append]
      exact admits_pure (htext.append htext')

/-- **A list of a message**, whose elements have conditions at their places. -/
theorem admits_insertEach_zipIdx {es : List α} (hbody : ∀ i e R, Admits print D (body i e)
      (C i e ∧ R) (Laden D) fun text => Spotless D text ∧ R) :
    Admits print D (insertEach body es) ((∀ q ∈ es.zipIdx, C q.2 q.1) ∧ R) (fun _ => True)
      fun _ => R :=
  (admits_forEach hbody 0 es R).bind fun _ htext => admits_flush htext

/-- **A list of a message**, whose elements have strings. -/
theorem admits_insertEach {g : α → List σ} {es : List α}
    (hbody : ∀ i e R, Admits print D (body i e) ((∀ s ∈ g e, D s) ∧ R) (Laden D)
      fun text => Spotless D text ∧ R) :
    Admits print D (insertEach body es) ((∀ s ∈ es.flatMap g, D s) ∧ R) (fun _ => True)
      fun _ => R := by
  refine (admits_insertEach_zipIdx hbody).congr (and_congr_left fun _ => ?_)
  rw [List.forall_mem_flatMap, ← List.forall_mem_map (f := Prod.fst) (P := fun e => ∀ s ∈ g e, D s),
    List.zipIdx_map_fst]

/-- A list whose elements have no strings, or only such as are known. -/
theorem admits_insertEach_nil {es : List α} (hbody : ∀ i e R, Admits print D (body i e) R (Laden D)
      fun text => Spotless D text ∧ R) :
    Admits print D (insertEach body es) R (fun _ => True) fun _ => R := by
  refine (admits_insertEach_zipIdx (C := fun _ _ => True) fun i e R =>
    (hbody i e R).congr (and_iff_right trivial).symm).congr ?_
  exact and_iff_right fun _ _ => trivial

theorem admits_optionally {texts : β → List σ} {o : Option β} {f : β → Insertion σ Unit}
    (h : ∀ b, Admits print D (f b) ((∀ s ∈ texts b, D s) ∧ R) (fun _ => True) fun _ => R) :
    Admits print D (optionally o f) ((∀ s ∈ o.elim [] texts, D s) ∧ R) (fun _ => True)
      fun _ => R := by
  cases o with
  | none =>
      have hnone : Admits print D (pure ()) R (fun _ => True) fun _ => R :=
        demands_pure (Q := fun _ => R) trivial
      exact hnone.congr (and_iff_right (List.forall_mem_nil _)).symm
  | some b => exact h b

theorem admits_optionally_nil {o : Option β} {f : β → Insertion σ Unit}
    (h : ∀ b, Admits print D (f b) R (fun _ => True) fun _ => R) :
    Admits print D (optionally o f) R (fun _ => True) fun _ => R := by
  cases o with
  | none => exact demands_pure (T := fun _ => True) (Q := fun _ => R) trivial
  | some b => exact h b

end

end DataInsert

end Sadip

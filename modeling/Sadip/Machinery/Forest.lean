import Mathlib.Algebra.GroupWithZero.Nat
import Mathlib.Data.List.Forall2
import Mathlib.Data.List.Perm.Subperm

/-!
# Machinery/Forest — rows that refer to rows

A nested list stored in tables becomes a forest: one row for each element, and under it the rows of
the lists the element has.  `Grown` says that a forest is that of a list, level by level, where each
level has a table, a way to write the row of an element with its identifier, and what grows under
it.
-/

/-- Rows with their tables and identifiers; a first row, what is under it, and what is beside it. -/
inductive Forest (ι ρ : Type*)
  | nil
  | node (table : String) (id : ι) (row : ρ) (under beside : Forest ι ρ)

namespace Forest

variable {ι ρ α β : Type*}

def append : Forest ι ρ → Forest ι ρ → Forest ι ρ
  | nil, g => g
  | node table id row under beside, g => node table id row under (append beside g)

/-- The rows of a table, in order. -/
def rowsAt (table : String) : Forest ι ρ → List ρ
  | nil => []
  | node t _ row under beside =>
    (if t = table then [row] else []) ++ rowsAt table under ++ rowsAt table beside

def ids : Forest ι ρ → List ι
  | nil => []
  | node _ id _ under beside => id :: (ids under ++ ids beside)

@[simp] theorem rowsAt_nil (table : String) : (nil : Forest ι ρ).rowsAt table = [] := rfl

@[simp] theorem rowsAt_append (table : String) : ∀ f g : Forest ι ρ,
    (f.append g).rowsAt table = f.rowsAt table ++ g.rowsAt table
  | nil, _ => rfl
  | node t id row under beside, g => by
      rw [append, rowsAt, rowsAt, rowsAt_append table beside g, List.append_assoc,
        List.append_assoc, List.append_assoc]

theorem ids_append : ∀ f g : Forest ι ρ, (f.append g).ids = f.ids ++ g.ids
  | nil, _ => rfl
  | node t id row under beside, g => by
      rw [append, ids, ids, ids_append beside g, List.cons_append, List.append_assoc]

/-- **The forest of a list**: a row in `table` for each element, in order, and under it what `kids`
says of its identifier and the element. -/
def Grown (table : String) (row : ι → α → ρ) (kids : ι → α → Forest ι ρ → Prop) :
    List α → Forest ι ρ → Prop
  | [], f => f = nil
  | e :: es, f => ∃ id under beside, f = node table id (row id e) under beside ∧ kids id e under ∧
      Grown table row kids es beside

/-- Nothing. -/
def Bare (f : Forest ι ρ) : Prop := f = nil

/-- A list whose elements have nothing below them. -/
def Leaves (table : String) (row : ι → α → ρ) : List α → Forest ι ρ → Prop :=
  Grown table row fun _ _ => Bare

/-- One after the other. -/
def Both (P Q : Forest ι ρ → Prop) (f : Forest ι ρ) : Prop := ∃ g h, f = g.append h ∧ P g ∧ Q h

variable {table t : String} {row : ι → α → ρ} {kids : ι → α → Forest ι ρ → Prop}

/-- No rows of a table other than that of the elements, if there are none under them. -/
theorem Grown.rowsAt_eq_nil (ht : t ≠ table) (hkids : ∀ id e f, kids id e f → f.rowsAt t = []) :
    ∀ {es : List α} {f : Forest ι ρ}, Grown table row kids es f → f.rowsAt t = []
  | [], _, h => by
      obtain rfl : _ = nil := h
      rfl
  | e :: es, _, ⟨id, under, beside, hf, hunder, hbeside⟩ => by
      rw [hf, rowsAt, if_neg ht.symm, hkids id e under hunder,
        Grown.rowsAt_eq_nil ht hkids hbeside]
      rfl

theorem Leaves.rowsAt_eq_nil (ht : t ≠ table) {es : List α} {f : Forest ι ρ}
    (h : Leaves table row es f) : f.rowsAt t = [] :=
  Grown.rowsAt_eq_nil ht (fun _ _ _ hf => by rw [show _ = nil from hf]; rfl) h

theorem Both.rowsAt_eq_nil {P Q : Forest ι ρ → Prop} (hP : ∀ f, P f → f.rowsAt t = [])
    (hQ : ∀ f, Q f → f.rowsAt t = []) : ∀ f, Both P Q f → f.rowsAt t = [] := by
  rintro f ⟨g, h, rfl, hg, hh⟩
  rw [rowsAt_append, hP g hg, hQ h hh]
  rfl

theorem Bare.rowsAt_eq_nil {f : Forest ι ρ} (h : Bare f) : f.rowsAt t = [] := by
  rw [show f = nil from h]
  rfl

/-- Rows that are written in another way, which is the same for the elements of the list. -/
theorem Grown.congr {row' : ι → α → ρ} {kids' : ι → α → Forest ι ρ → Prop} :
    ∀ {es : List α} {f : Forest ι ρ}, (∀ e ∈ es, ∀ id, row id e = row' id e) →
      (∀ e ∈ es, ∀ id f, kids id e f → kids' id e f) → Grown table row kids es f →
      Grown table row' kids' es f
  | [], _, _, _, h => h
  | e :: es, _, hrow, hkids, ⟨id, under, beside, hf, hunder, hbeside⟩ => by
      refine ⟨id, under, beside, ?_, hkids e List.mem_cons_self id under hunder,
        Grown.congr (fun x hx => hrow x (.tail _ hx)) (fun x hx => hkids x (.tail _ hx)) hbeside⟩
      rw [hf, hrow e List.mem_cons_self id]

/-- The forest of a list of images. -/
theorem grown_map (f : β → α) : ∀ (es : List β) {F : Forest ι ρ},
    Grown table row kids (es.map f) F ↔
      Grown table (fun id e => row id (f e)) (fun id e => kids id (f e)) es F
  | [], _ => Iff.rfl
  | e :: es, F => by
      rw [List.map_cons, Grown, Grown]
      simp only [grown_map f es]

/-- Every element has a row. -/
theorem Grown.eq_nil : ∀ {es : List α} {f : Forest ι ρ}, Grown table row kids es f →
    f.rowsAt table = [] → es = []
  | [], _, _, _ => rfl
  | e :: es, _, ⟨id, under, beside, hf, _⟩, hnil => by
      rw [hf, rowsAt, if_pos rfl] at hnil
      cases hnil

/-- Each element has its row, in order. -/
theorem Grown.forall₂_rowsAt (hkids : ∀ id e f, kids id e f → f.rowsAt table = []) :
    ∀ {es : List α} {f : Forest ι ρ}, Grown table row kids es f →
      List.Forall₂ (fun e r => ∃ id under, kids id e under ∧ r = row id e) es (f.rowsAt table)
  | [], _, h => by
      obtain rfl : _ = nil := h
      exact .nil
  | e :: es, _, ⟨id, under, beside, hf, hunder, hbeside⟩ => by
      rw [hf, rowsAt, if_pos rfl, hkids id e under hunder, List.append_nil, List.singleton_append]
      exact .cons ⟨id, under, hunder, rfl⟩ (Grown.forall₂_rowsAt hkids hbeside)

/-- As many rows as elements. -/
theorem Grown.length_rowsAt (hkids : ∀ id e f, kids id e f → f.rowsAt table = []) {es : List α}
    {f : Forest ι ρ} (h : Grown table row kids es f) : (f.rowsAt table).length = es.length :=
  (h.forall₂_rowsAt hkids).length_eq.symm

theorem Leaves.length_rowsAt {es : List α} {f : Forest ι ρ} (h : Leaves table row es f) :
    (f.rowsAt table).length = es.length :=
  Grown.length_rowsAt (fun _ _ _ h => Bare.rowsAt_eq_nil h) h

/-- As many rows below the elements as the elements say. -/
theorem Grown.length_rowsAt_below {n : α → ℕ} (ht : t ≠ table)
    (hkids : ∀ id e f, kids id e f → (f.rowsAt t).length = n e) :
    ∀ {es : List α} {f : Forest ι ρ}, Grown table row kids es f →
      (f.rowsAt t).length = (es.map n).sum
  | [], _, h => by
      obtain rfl : _ = nil := h
      rfl
  | e :: es, _, ⟨id, under, beside, hf, hunder, hbeside⟩ => by
      rw [hf, rowsAt, if_neg ht.symm, List.nil_append, List.length_append, hkids id e under hunder,
        Grown.length_rowsAt_below ht hkids hbeside, List.map_cons, List.sum_cons]

/-- Without rows in a table, there are none under the elements. -/
theorem Grown.under_rowsAt_eq_nil : ∀ {es : List α} {f : Forest ι ρ}, Grown table row kids es f →
    f.rowsAt t = [] → ∀ e ∈ es, ∃ id g, kids id e g ∧ g.rowsAt t = []
  | [], _, _, _ => nofun
  | e :: es, _, ⟨id, under, beside, hf, hunder, hbeside⟩, hnil => by
      rw [hf, rowsAt, List.append_eq_nil_iff, List.append_eq_nil_iff] at hnil
      exact List.forall_mem_cons.mpr
        ⟨⟨id, under, hunder, hnil.1.2⟩, Grown.under_rowsAt_eq_nil hbeside hnil.2⟩

/-- Something else below the elements, which has the same rows in these tables. -/
theorem Grown.replace {T : List String} {kids' : ι → α → Forest ι ρ → Prop} :
    ∀ {es : List α} {f : Forest ι ρ}, (∀ e ∈ es, ∀ id f, kids id e f →
        ∃ f', kids' id e f' ∧ ∀ t ∈ T, f'.rowsAt t = f.rowsAt t) →
      Grown table row kids es f →
      ∃ f', Grown table row kids' es f' ∧ ∀ t ∈ T, f'.rowsAt t = f.rowsAt t
  | [], _, _, h => by
      obtain rfl : _ = nil := h
      exact ⟨nil, rfl, fun _ _ => rfl⟩
  | e :: es, _, hkids, ⟨id, under, beside, hf, hunder, hbeside⟩ => by
      obtain ⟨under', hunder', hu⟩ := hkids e List.mem_cons_self id under hunder
      obtain ⟨beside', hbeside', hb⟩ := Grown.replace (fun x hx => hkids x (.tail _ hx)) hbeside
      refine ⟨node table id (row id e) under' beside',
        ⟨id, under', beside', rfl, hunder', hbeside'⟩, fun t ht => ?_⟩
      rw [hf, rowsAt, rowsAt, hu t ht, hb t ht]

/-- What is said of the elements' rows and of those under them is said of all rows of a table. -/
theorem Grown.forall_mem_rowsAt {Q : ρ → Prop} (hrow : table = t → ∀ id e, Q (row id e))
    (hkids : ∀ id e f, kids id e f → ∀ r ∈ f.rowsAt t, Q r) :
    ∀ {es : List α} {f : Forest ι ρ}, Grown table row kids es f → ∀ r ∈ f.rowsAt t, Q r
  | [], _, h => by
      obtain rfl : _ = nil := h
      exact List.forall_mem_nil Q
  | e :: es, _, ⟨id, under, beside, hf, hunder, hbeside⟩ => by
      rw [hf, rowsAt, List.forall_mem_append, List.forall_mem_append]
      refine ⟨⟨?_, hkids id e under hunder⟩, Grown.forall_mem_rowsAt hrow hkids hbeside⟩
      split
      · next ht => exact List.forall_mem_singleton.mpr (hrow ht id e)
      · exact List.forall_mem_nil Q

theorem Leaves.forall_mem_rowsAt {Q : ρ → Prop} (hrow : ∀ id e, Q (row id e)) {es : List α}
    {f : Forest ι ρ} (h : Leaves table row es f) : ∀ r ∈ f.rowsAt t, Q r :=
  Grown.forall_mem_rowsAt (fun _ => hrow)
    (fun _ _ _ hf => by rw [show _ = nil from hf]; exact List.forall_mem_nil Q) h

theorem Both.forall_mem_rowsAt {P P' Q : _ → Prop} (hP : ∀ f, P f → ∀ r ∈ f.rowsAt t, Q r)
    (hP' : ∀ f, P' f → ∀ r ∈ f.rowsAt t, Q r) {f : Forest ι ρ} (h : Both P P' f) :
    ∀ r ∈ f.rowsAt t, Q r := by
  obtain ⟨f₁, f₂, rfl, h₁, h₂⟩ := h
  rw [rowsAt_append, List.forall_mem_append]
  exact ⟨hP f₁ h₁, hP' f₂ h₂⟩

/-- Every element has its row, and something under it. -/
theorem Grown.mem : ∀ {es : List α} {f : Forest ι ρ}, Grown table row kids es f → ∀ e ∈ es,
    ∃ id g, row id e ∈ f.rowsAt table ∧ kids id e g ∧ ∀ t, g.rowsAt t ⊆ f.rowsAt t
  | [], _, _ => nofun
  | e :: es, _, ⟨id, under, beside, hf, hunder, hbeside⟩ => by
      rw [hf]
      refine List.forall_mem_cons.mpr ⟨⟨id, under, ?_, hunder, fun t => ?_⟩, fun e' he' => ?_⟩
      · rw [rowsAt, if_pos rfl]
        exact List.mem_cons_self
      · rw [rowsAt]
        exact fun r hr => List.mem_append_left _ (List.mem_append_right _ hr)
      · obtain ⟨id', g, hrow, hg, hsub⟩ := Grown.mem hbeside e' he'
        refine ⟨id', g, ?_, hg, fun t r hr => ?_⟩
        · rw [rowsAt]
          exact List.mem_append_right _ hrow
        · rw [rowsAt]
          exact List.mem_append_right _ (hsub t hr)

/-! Two forests that differ in part of their rows only. -/

section

variable {γ : Type*}

/-- As far as `g` goes, the rows of the table are the same. -/
def Alike (g : ρ → γ) (t : String) (f f' : Forest ι ρ) : Prop :=
  (f.rowsAt t).map g = (f'.rowsAt t).map g

variable {g : ρ → γ} {row' : ι → α → ρ} {kids' : ι → α → Forest ι ρ → Prop}

theorem Alike.append {f₁ f₁' f₂ f₂' : Forest ι ρ} (h₁ : Alike g t f₁ f₁') (h₂ : Alike g t f₂ f₂') :
    Alike g t (f₁.append f₂) (f₁'.append f₂') := by
  rw [Alike] at h₁ h₂ ⊢
  rw [rowsAt_append, rowsAt_append, List.map_append, List.map_append, h₁, h₂]

/-- Forests of one list, whose rows are written in two ways. -/
theorem Grown.alike (hrow : table = t → ∀ e id id', g (row id e) = g (row' id' e))
    (hkids : ∀ e id id' f f', kids id e f → kids' id' e f' → Alike g t f f') :
    ∀ {es : List α} {f f' : Forest ι ρ}, Grown table row kids es f → Grown table row' kids' es f' →
      Alike g t f f'
  | [], _, _, h, h' => by
      rw [show _ = nil from h, show _ = nil from h']
      rfl
  | e :: es, _, _, ⟨id, under, beside, hf, hunder, hbeside⟩,
    ⟨id', under', beside', hf', hunder', hbeside'⟩ => by
      have hunders : Alike g t under under' := hkids e id id' under under' hunder hunder'
      have hbesides : Alike g t beside beside' := Grown.alike hrow hkids hbeside hbeside'
      rw [Alike] at hunders hbesides ⊢
      rw [hf, hf', rowsAt, rowsAt, List.map_append, List.map_append, List.map_append,
        List.map_append, hunders, hbesides]
      congr 2
      split
      · next ht => exact congrArg (fun x => [x]) (hrow ht e id id')
      · rfl

theorem Leaves.alike {es : List α} {f f' : Forest ι ρ}
    (hrow : ∀ e id id', g (row id e) = g (row' id' e)) (h : Leaves table row es f)
    (h' : Leaves table row' es f') : Alike g t f f' :=
  Grown.alike (fun _ => hrow)
    (fun _ _ _ f f' (hf : f = nil) (hf' : f' = nil) => by rw [hf, hf']; rfl)
    h h'

end

/-! Two forests of one list, with the same rows in a table. -/

section

variable {row' : ι → α → ρ} {kids' : ι → α → Forest ι ρ → Prop}

/-- The rows of the elements are written in the same way. -/
theorem Grown.row_eq (hkids : ∀ id e f, kids id e f → f.rowsAt table = [])
    (hkids' : ∀ id e f, kids' id e f → f.rowsAt table = []) : ∀ {es : List α} {f f' : Forest ι ρ},
    Grown table row kids es f → Grown table row' kids' es f' → f.rowsAt table = f'.rowsAt table →
    ∀ e ∈ es, ∃ id id', row id e = row' id' e
  | [], _, _, _, _, _ => nofun
  | e :: es, _, _, ⟨id, under, beside, hf, hunder, hbeside⟩,
    ⟨id', under', beside', hf', hunder', hbeside'⟩, heq => by
      rw [hf, hf', rowsAt, rowsAt, if_pos rfl, if_pos rfl, hkids id e under hunder,
        hkids' id' e under' hunder'] at heq
      obtain ⟨hhead, htail⟩ := List.cons.inj heq
      exact List.forall_mem_cons.mpr
        ⟨⟨id, id', hhead⟩, Grown.row_eq hkids hkids' hbeside hbeside' htail⟩

/-- What is under an element has the same rows, if it has a number of them that the element gives.
-/
theorem Grown.under_eq {n : α → ℕ} (ht : t ≠ table)
    (hkids : ∀ id e f, kids id e f → (f.rowsAt t).length = n e)
    (hkids' : ∀ id e f, kids' id e f → (f.rowsAt t).length = n e) :
    ∀ {es : List α} {f f' : Forest ι ρ}, Grown table row kids es f → Grown table row' kids' es f' →
      f.rowsAt t = f'.rowsAt t →
      ∀ e ∈ es, ∃ id id' g g', kids id e g ∧ kids' id' e g' ∧ g.rowsAt t = g'.rowsAt t
  | [], _, _, _, _, _ => nofun
  | e :: es, _, _, ⟨id, under, beside, hf, hunder, hbeside⟩,
    ⟨id', under', beside', hf', hunder', hbeside'⟩, heq => by
      rw [hf, hf', rowsAt, rowsAt, if_neg ht.symm, if_neg ht.symm, List.nil_append,
        List.nil_append] at heq
      have hlen := (hkids id e under hunder).trans (hkids' id' e under' hunder').symm
      obtain ⟨hhead, htail⟩ := List.append_inj heq hlen
      exact List.forall_mem_cons.mpr ⟨⟨id, id', under, under', hunder, hunder', hhead⟩,
        Grown.under_eq ht hkids hkids' hbeside hbeside' htail⟩

end

end Forest

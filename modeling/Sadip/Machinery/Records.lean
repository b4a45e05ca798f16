import Mathlib.Data.List.Nodup

/-!
# Machinery/Records — a table as a list of rows

`amend p f` is what `update .. where p` does to a table: the rows that meet `p` change by `f`, in
place.  A column that `f` leaves alone is the same before and after, and a row of the new table is
an amended row or one that was left alone.
-/

namespace Records

variable {α β : Type*} {p : α → Prop} [DecidablePred p] {f : α → α} {rows : List α} {r : α}

/-- Change the rows that meet `p`. -/
def amend (p : α → Prop) [DecidablePred p] (f : α → α) (rows : List α) : List α :=
  rows.map fun r => if p r then f r else r

/-- **A column that is not set stays as it is.** -/
theorem map_amend (g : α → β) (h : ∀ r, p r → g (f r) = g r) (rows : List α) :
    (amend p f rows).map g = rows.map g := by
  rw [amend, List.map_map]
  refine List.map_congr_left fun r _ => ?_
  show g (if p r then f r else r) = g r
  split
  · exact h r ‹_›
  · rfl

theorem mem_amend (h : r ∈ amend p f rows) : (∃ s ∈ rows, p s ∧ r = f s) ∨ r ∈ rows ∧ ¬ p r := by
  obtain ⟨s, hs, rfl⟩ := List.mem_map.mp h
  split
  · exact .inl ⟨s, hs, ‹_›, rfl⟩
  · exact .inr ⟨hs, ‹_›⟩

theorem mem_amend_of_not (h : r ∈ rows) (hp : ¬ p r) : r ∈ amend p f rows :=
  List.mem_map.mpr ⟨r, h, if_neg hp⟩

/-- The second of two changes to the same rows finds what the first has made of them. -/
theorem amend_amend {g : α → α} (h : ∀ r, p r → p (f r)) (rows : List α) :
    amend p g (amend p f rows) = amend p (g ∘ f) rows := by
  rw [amend, amend, List.map_map]
  refine List.map_congr_left fun r _ => ?_
  show (if p (if p r then f r else r) then g (if p r then f r else r)
    else if p r then f r else r) = _
  by_cases hr : p r
  · simp only [if_pos hr, if_pos (h r hr), Function.comp]
  · simp only [if_neg hr]

theorem amend_append (rows rows' : List α) :
    amend p f (rows ++ rows') = amend p f rows ++ amend p f rows' := List.map_append ..

@[simp] theorem amend_id : amend p id rows = rows :=
  (List.map_congr_left fun r _ => by simp).trans (List.map_id rows)

/-- Rows with different keys are one row for a key. -/
theorem eq_of_key {key : α → β} (h : (rows.map key).Nodup) {r s : α} (hr : r ∈ rows) (hs : s ∈ rows)
    (hkey : key r = key s) : r = s :=
  List.inj_on_of_nodup_map h hr hs hkey

end Records

import Sadip.DataInsert.Layout

/-!
# DataInsert/Demands — what it takes for all statements to be as they should

`Demands` follows an insertion backwards: for a condition on its result it has the condition on what
comes before, exactly, under which the result is reached and all statements are in `W`.  Its rules
are put together in the order of the source (`Demands.bind`).
-/

namespace Sadip

namespace DataInsert

open Printf Insertion

variable {σ α β : Type} {print : σ → List Char} {W : Text σ → Prop}

/-- All statements are in `W` and the result is reached and in `Q`, exactly if `P`; and as long as
they are in `W`, the result is in `T`. -/
def Demands (print : σ → List Char) (W : Text σ → Prop) (p : Insertion σ α) (P : Prop)
    (T Q : α → Prop) : Prop :=
  Yields print (fun _ => True) p
    (fun _ ss a => ((∀ t ∈ ss, W t) → T a ∧ (P ↔ Q a)) ∧ ((¬∀ t ∈ ss, W t) → ¬P)) fun _ _ => ¬P

variable {p : Insertion σ α} {f : α → Insertion σ β} {P P' : Prop} {T Q : α → Prop}
  {T' Q' : β → Prop}

theorem Demands.congr (h : Demands print W p P T Q) (hP : P ↔ P') : Demands print W p P' T Q := by
  rwa [← propext hP]

theorem Demands.imp (h : Demands print W p P T Q) {T' : α → Prop} (hT : ∀ a, T a → T' a) :
    Demands print W p P T' Q :=
  Yields.mono h (fun _ _ a h => ⟨fun hss => ⟨hT a (h.1 hss).1, (h.1 hss).2⟩, h.2⟩) fun _ _ h => h

theorem Demands.bind (hp : Demands print W p P T Q)
    (hf : ∀ a, T a → Demands print W (f a) (Q a) T' Q') : Demands print W (p >>= f) P T' Q' := by
  refine yields_bind.mpr (Yields.mono hp ?_ fun _ _ h => h)
  rintro ds ss a ⟨hall, hnot⟩
  by_cases hss : ∀ t ∈ ss, W t
  · obtain ⟨ha, hPQ⟩ := hall hss
    refine Yields.mono (hf a ha) ?_ fun _ _ hQ hP => hQ (hPQ.mp hP)
    rintro ds' ss' b ⟨hall', hnot'⟩
    refine ⟨fun h => ?_, fun h hP => ?_⟩
    · obtain ⟨hb, hQ⟩ := hall' (List.forall_mem_append.mp h).2
      exact ⟨hb, hPQ.trans hQ⟩
    · exact hnot' (fun hss' => h (List.forall_mem_append.mpr ⟨hss, hss'⟩)) (hPQ.mp hP)
  · refine (always_true (f a)).yields.mono (fun ds' ss' b _ => ⟨fun h => ?_, fun _ => hnot hss⟩)
      fun _ _ _ => hnot hss
    exact absurd (List.forall_mem_append.mp h).1 hss

theorem demands_pure {a : α} (ha : T a) : Demands print W (pure a) (Q a) T Q :=
  ⟨fun _ => ⟨ha, Iff.rfl⟩, fun h => absurd (List.forall_mem_nil W) h⟩

/-- A part that has no condition of its own. -/
theorem Demands.of_yields (h : Yields print (fun _ => True) p
    (fun _ ss a => (∀ t ∈ ss, W t) ∧ T a) fun _ _ => False) : Demands print W p P T fun _ => P :=
  Yields.mono h (fun _ _ _ h => ⟨fun _ => ⟨h.2, Iff.rfl⟩, fun hnot => absurd h.1 hnot⟩)
    fun _ _ h => h.elim

/-- A part after which nothing can be saved. -/
theorem Demands.of_not (h : Yields print (fun _ => True) p (fun _ ss _ => ¬∀ t ∈ ss, W t)
    fun _ _ => True) : Demands print W p False T Q :=
  Yields.mono h (fun _ _ _ h => ⟨fun hall => absurd hall h, fun _ => not_false⟩)
    fun _ _ _ => not_false

/-- A part that does not reach its end. -/
theorem demands_of_completes (h : Completes print p False) : Demands print W p False T Q :=
  Yields.mono h (fun _ _ _ h => h.elim) fun _ _ h => h

/-- A part of a run that is lost already. -/
theorem demands_of_always (h : Always (fun _ => True) p T) :
    Demands print W p False T fun _ => False :=
  Yields.mono h.yields (fun _ _ _ h => ⟨fun _ => ⟨h.1, Iff.rfl⟩, fun _ => not_false⟩)
    fun _ _ _ => not_false

/-- **All statements are in `W`** exactly if `P`. -/
theorem Demands.yields (h : Demands print W p P T fun _ => True) :
    Yields print (fun _ => True) p (fun _ ss _ => (∀ t ∈ ss, W t) ↔ P) fun _ _ => ¬P := by
  refine Yields.mono h (fun _ ss _ ⟨hall, hnot⟩ => ⟨fun hss => ?_, fun hP => ?_⟩) fun _ _ h => h
  · exact (hall hss).2.mpr trivial
  · by_contra hss
    exact hnot hss hP

theorem demands_nextId :
    Demands print W (nextId : Insertion σ Int64) P (fun _ => True) fun _ => P :=
  .of_yields fun _ _ => ⟨List.forall_mem_nil W, trivial⟩

theorem demands_ownId (own : UInt64) :
    Demands print W (ownId own : Insertion σ Int64) P (fun _ => True) fun _ => P := by
  rw [ownId]
  split
  · exact demands_nextId
  · exact demands_pure (T := fun _ => True) (Q := fun _ => P) trivial

end DataInsert

end Sadip

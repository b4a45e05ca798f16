import Mathlib.Logic.Function.Iterate

/-!
# Machinery/Halts — machines that go from one state to the next, and their end

A machine is a function on states; a loop with its body cut into steps is one.  It halts when some
iterate is in a halted state, and it does when a counter that every other step moves stays below a
bound (`exists_halted`).
-/

namespace Halts

variable {σ : Type*} {step : σ → σ} {s s' s'' : σ}

/-- The machine comes from one state to another. -/
def Reaches (step : σ → σ) (s s' : σ) : Prop := ∃ t, step^[t] s = s'

theorem Reaches.refl (s : σ) : Reaches step s s := ⟨0, rfl⟩

theorem Reaches.head (h : Reaches step (step s) s') : Reaches step s s' := by
  obtain ⟨t, rfl⟩ := h
  exact ⟨t + 1, Function.iterate_succ_apply step t s⟩

theorem Reaches.trans (h : Reaches step s s') (h' : Reaches step s' s'') : Reaches step s s'' := by
  obtain ⟨t, rfl⟩ := h
  obtain ⟨t', rfl⟩ := h'
  exact ⟨t' + t, Function.iterate_add_apply step t' t s⟩

/-- **What every step keeps holds of every state reached.** -/
theorem Reaches.invariant {Inv : σ → Prop} (hstep : ∀ s, Inv s → Inv (step s)) :
    Reaches step s s' → Inv s → Inv s' := by
  rintro ⟨t, rfl⟩ hs
  induction t generalizing s with
  | zero => exact hs
  | succ t ih => exact ih (hstep s hs)

/-- **A bounded counter stops the machine**, when every step that does not halt it moves it. -/
theorem exists_halted (Inv halted : σ → Prop) (count : σ → ℕ) (N : ℕ)
    (hstep : ∀ s, Inv s → ¬ halted s →
      Inv (step s) ∧ (halted (step s) ∨ count s < count (step s)))
    (hbound : ∀ s, Inv s → count s ≤ N) (hs : Inv s) : ∃ s', Reaches step s s' ∧ halted s' := by
  induction hm : N - count s using Nat.strongRecOn generalizing s with
  | ind m ih =>
    by_cases hh : halted s
    · exact ⟨s, .refl s, hh⟩
    obtain ⟨hs', hstop | hlt⟩ := hstep s hs hh
    · exact ⟨step s, .head (.refl _), hstop⟩
    · have hle := hbound (step s) hs'
      obtain ⟨s', hreach, hhalt⟩ := ih (N - count (step s)) (by omega) hs' rfl
      exact ⟨s', hreach.head, hhalt⟩

end Halts

import Mathlib.Order.Basic

/-!
# Machinery/Streak — where a property of the natural numbers starts to hold

A *streak* of `P` is a block of consecutive positions on which `P` holds.  An observer that keeps a
window of three positions sees a streak come up at its second position: `P` at `k` and `k - 1`, not
at `k - 2`.  `rises_iff_of_streak` says that each streak long enough to have a second position rises
exactly once, there.
-/

namespace Streak

variable {P : ℕ → Prop}

/-- `P` comes up at `k`: it holds there and just before, and did not hold before that. -/
def Rises (P : ℕ → Prop) (k : ℕ) : Prop := 2 ≤ k ∧ P k ∧ P (k - 1) ∧ ¬ P (k - 2)

/-- `P` holds from `s` to `e`, both included. -/
def On (P : ℕ → Prop) (s e : ℕ) : Prop := ∀ i, s ≤ i → i ≤ e → P i

/-- A streak that does not start at `0` has a first position: `P` there, not just before. -/
def StartsAt (P : ℕ → Prop) (s : ℕ) : Prop := 1 ≤ s ∧ P s ∧ ¬ P (s - 1)

/-- **A streak rises at its second position only.** -/
theorem rises_iff_of_streak {s e k : ℕ} (hs : StartsAt P s) (hon : On P s e) (hsk : s ≤ k)
    (hke : k ≤ e) : Rises P k ↔ k = s + 1 := by
  obtain ⟨h1, -, hbefore⟩ := hs
  constructor
  · rintro ⟨hk, -, hprev, hnot⟩
    rcases Nat.lt_or_ge (s + 1) k with hlt | hge
    · exact absurd (hon (k - 2) (by omega) (by omega)) hnot
    · rcases Nat.eq_or_lt_of_le hsk with rfl | hlt
      · exact absurd hprev hbefore
      · omega
  · rintro rfl
    exact ⟨by omega, hon _ (by omega) hke, hon _ (by omega) (by omega), by
      rwa [show s + 1 - 2 = s - 1 by omega]⟩

/-- **A streak of at least two positions rises exactly once**, so that what happens only where it
rises happens exactly once if it does at its second position. -/
theorem existsUnique_rises_iff {Q : ℕ → Prop} {s e : ℕ} (hs : StartsAt P s) (hon : On P s e)
    (hlen : s + 1 ≤ e) : (∃! k, (s ≤ k ∧ k ≤ e) ∧ Rises P k ∧ Q k) ↔ Q (s + 1) := by
  constructor
  · rintro ⟨k, ⟨⟨hsk, hke⟩, hr, hQ⟩, -⟩
    rwa [← (rises_iff_of_streak hs hon hsk hke).mp hr]
  · intro hQ
    have hr := (rises_iff_of_streak hs hon (Nat.le_succ s) hlen).mpr rfl
    refine ⟨s + 1, ⟨⟨Nat.le_succ s, hlen⟩, hr, hQ⟩, ?_⟩
    rintro k ⟨⟨hsk, hke⟩, hr, -⟩
    exact (rises_iff_of_streak hs hon hsk hke).mp hr

/-- A streak that starts at `0` never rises. -/
theorem not_rises_of_on_zero {e k : ℕ} (hon : On P 0 e) (hke : k ≤ e) : ¬ Rises P k :=
  fun ⟨_, _, _, hnot⟩ => hnot (hon _ (Nat.zero_le _) (by omega))

end Streak

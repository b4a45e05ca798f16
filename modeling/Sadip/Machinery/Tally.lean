import Mathlib.Algebra.BigOperators.Fin
import Mathlib.Algebra.Group.Basic
import Mathlib.Tactic.Ring

/-!
# Machinery/Tally — sums kept in machine words

A tally is a finite family of counters.  `sum_update` is the sum after one of them has changed, and
`toInt_add_eq_iff` says when an addition to a signed 64-bit counter is one to the number it holds.
-/

namespace Tally

variable {ι : Type*} [Fintype ι] [DecidableEq ι]

theorem sum_update (f : ι → ℤ) (i : ι) (v : ℤ) :
    ∑ j, Function.update f i v j = ∑ j, f j - f i + v := by
  rw [Finset.sum_update_of_mem (Finset.mem_univ i), ← Finset.add_sum_erase _ f (Finset.mem_univ i),
    Finset.sdiff_singleton_eq_erase]
  ring

/-- A family of counters that a function reads, after one of them has changed. -/
theorem sum_comp_update {α : Type*} (f : α → ℤ) (c : ι → α) (i : ι) (v : α) :
    ∑ j, f (Function.update c i v j) = ∑ j, f (c j) - f (c i) + f v := by
  have h : ∀ j, f (Function.update c i v j) = Function.update (fun j => f (c j)) i (f v) j :=
    fun j => Function.apply_update (fun _ => f) c i v j
  rw [Finset.sum_congr rfl fun j _ => h j, sum_update]

/-- **Adding to `v` gives what adding to `w` ought to give** just when they are the same and the sum
does not overflow. -/
theorem toInt_add_eq_iff (v w : Int64) (n : ℕ) :
    (v + Int64.ofNat n).toInt = w.toInt + n ↔ v = w ∧ v.toInt + n < 2 ^ 63 := by
  have hv := v.toInt_lt
  have hv' := v.le_toInt
  have hw := w.toInt_lt
  have hw' := w.le_toInt
  rw [← Int64.toInt_inj, Int64.toInt_add, Int64.toInt_ofNat', show Int64.size = 2 ^ 64 from rfl,
    Int.add_bmod_bmod, Int.bmod_def]
  omega

end Tally

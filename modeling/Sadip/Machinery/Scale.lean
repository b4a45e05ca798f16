import Mathlib.Algebra.Order.Ring.Abs
import Mathlib.Data.Rat.Cast.Order

/-!
# Machinery/Scale — what an integer of a message says

A field of a message has a unit and a range.  A number outside of the range says nothing: the field
is invalid, or unknown.  A number on one scale *tells* a quantity if it says the same up to its own
unit, or if there is nothing to say and it says nothing.

`tells_read_iff` is about a number that is copied from one scale to another.
-/

structure Scale where
  (least greatest : ℤ)
  unit : ℚ

namespace Scale

variable {s t : Scale} {n : ℤ}

def read (s : Scale) (n : ℤ) : Option ℚ :=
  if s.least ≤ n ∧ n ≤ s.greatest then some (n * s.unit) else none

/-- Less than `step` apart, or both unknown. -/
def Near (step : ℚ) : Option ℚ → Option ℚ → Prop
  | none, none => True
  | some a, some b => |a - b| < step
  | _, _ => False

def Tells (t : Scale) (n : ℤ) (quantity : Option ℚ) : Prop := Near t.unit (t.read n) quantity

theorem tells_none_iff : t.Tells n none ↔ ¬ (t.least ≤ n ∧ n ≤ t.greatest) := by
  rw [Tells, read]
  split_ifs with h <;> simp [Near, h]

theorem tells_some_iff {q : ℚ} :
    t.Tells n (some q) ↔ (t.least ≤ n ∧ n ≤ t.greatest) ∧ |n * t.unit - q| < t.unit := by
  rw [Tells, read]
  split_ifs with h <;> simp [Near, h]

/-- **A number is copied from a scale to another**: it must be in both ranges or in neither, and the
units may differ by less than one unit over its whole length. -/
theorem tells_read_iff : t.Tells n (s.read n) ↔
    ((s.least ≤ n ∧ n ≤ s.greatest) ↔ (t.least ≤ n ∧ n ≤ t.greatest)) ∧
      ((s.least ≤ n ∧ n ≤ s.greatest) → |(n : ℚ)| * |t.unit - s.unit| < t.unit) := by
  rw [read]
  split_ifs with h
  · rw [tells_some_iff, ← mul_sub, abs_mul]
    simp only [h, and_self, true_iff, forall_const]
  · rw [tells_none_iff]
    simp only [h, false_iff, false_imp_iff, and_true]

/-- **Between scales of one unit** a number is told by itself. -/
theorem tells_read_iff_of_unit_eq {m : ℤ} (hunit : t.unit = s.unit) (hpos : 0 < t.unit) :
    t.Tells m (s.read n) ↔ ((s.least ≤ n ∧ n ≤ s.greatest) ↔ (t.least ≤ m ∧ m ≤ t.greatest)) ∧
      ((s.least ≤ n ∧ n ≤ s.greatest) → m = n) := by
  have hnear : |(m : ℚ) * t.unit - n * s.unit| < t.unit ↔ m = n := by
    rw [← hunit, ← sub_mul, abs_mul, abs_of_pos hpos, mul_lt_iff_lt_one_left hpos, ← Int.cast_sub,
      ← Int.cast_abs, ← Int.cast_one, Int.cast_lt, Int.abs_lt_one_iff, sub_eq_zero]
  rw [read]
  split_ifs with h
  · rw [tells_some_iff, hnear]
    simp only [h, and_self, true_iff, forall_const]
  · rw [tells_none_iff]
    simp only [h, false_iff, false_imp_iff, and_true]

end Scale

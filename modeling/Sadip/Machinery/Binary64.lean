import Mathlib.Algebra.Order.Field.Power
import Mathlib.Algebra.Order.Floor.Ring
import Mathlib.Data.Int.Log
import Mathlib.Data.Rat.Floor
import Mathlib.Tactic.Linarith
import Mathlib.Tactic.Positivity

/-!
# Machinery/Binary64 — `double`

A finite value is a rational of the format: 53 bits of significand, exponents from `-1074` on, less
than `2 ^ 1024`.  The two zeros are one.  An operation computes the exact result and rounds it to
the nearest value, to the even one of two (`rounded`).

Rounding does not cross a value of the format (`le_rounded`, `rounded_le`); so where whole numbers
are values, a product that is rounded and then truncated is less than 1 away from the exact product
(`abs_trunc_rounded_sub_lt`).
-/

namespace Binary64

/-! ## Rounding to an integer -/

/-- The nearest integer, the even one of two. -/
def roundEven (x : ℚ) : ℤ :=
  if x - ⌊x⌋ < 1 / 2 then ⌊x⌋
  else if 1 / 2 < x - ⌊x⌋ then ⌊x⌋ + 1
  else if Even ⌊x⌋ then ⌊x⌋ else ⌊x⌋ + 1

/-- Down, or up to the next integer. -/
theorem roundEven_eq (x : ℚ) : roundEven x = ⌊x⌋ ∨ roundEven x = ⌊x⌋ + 1 ∧ (⌊x⌋ : ℚ) < x := by
  have hfloor := Int.floor_le x
  rw [roundEven]
  split_ifs with hlow hhigh heven
  · exact .inl rfl
  · exact .inr ⟨rfl, by linarith⟩
  · exact .inl rfl
  · exact .inr ⟨rfl, by linarith⟩

/-- An integer below stays below. -/
theorem le_roundEven {k : ℤ} {x : ℚ} (h : (k : ℚ) ≤ x) : k ≤ roundEven x := by
  have hk : k ≤ ⌊x⌋ := Int.le_floor.mpr h
  rcases roundEven_eq x with heq | ⟨heq, -⟩ <;> omega

theorem roundEven_le {k : ℤ} {x : ℚ} (h : x ≤ (k : ℚ)) : roundEven x ≤ k := by
  rcases roundEven_eq x with heq | ⟨heq, hlt⟩
  · rw [heq]
    exact_mod_cast (Int.floor_le x).trans h
  · have hk : ⌊x⌋ < k := by exact_mod_cast hlt.trans_le h
    omega

/-! ## The format -/

/-- The significand `2 ^ 53` is `2 ^ 52` at the next exponent. -/
def Representable (q : ℚ) : Prop :=
  |q| < 2 ^ 1024 ∧ ∃ m e : ℤ, |m| ≤ 2 ^ 53 ∧ -1074 ≤ e ∧ q = m * 2 ^ e

/-- Integers of 53 bits are represented exactly. -/
theorem representable_intCast {k : ℤ} (h : |k| ≤ 2 ^ 53) : Representable k := by
  refine ⟨?_, k, 0, h, by norm_num, by simp⟩
  calc |(k : ℚ)| ≤ 2 ^ 53 := by exact_mod_cast h
    _ < 2 ^ 1024 := pow_lt_pow_right₀ one_lt_two (by norm_num)

/-- The exponent of the last place, for values of the size of `x`. -/
def exponent (x : ℚ) : ℤ := max (Int.log 2 |x| - 52) (-1074)

/-- The number rounded to the bits that its exponent leaves. -/
def rounded (x : ℚ) : ℚ := roundEven (x / 2 ^ exponent x) * 2 ^ exponent x

theorem abs_div_lt (x : ℚ) : |x / 2 ^ exponent x| < 2 ^ 53 := by
  have hpos : (0 : ℚ) < 2 ^ exponent x := by positivity
  rw [abs_div, abs_of_pos hpos, div_lt_iff₀ hpos]
  calc |x| < 2 ^ (Int.log 2 |x| + 1) := Int.lt_zpow_succ_log_self one_lt_two |x|
    _ ≤ 2 ^ (53 + exponent x) := by
        refine zpow_le_zpow_right₀ one_le_two ?_
        have := le_max_left (Int.log 2 |x| - 52) (-1074)
        rw [exponent]
        omega
    _ = 2 ^ 53 * 2 ^ exponent x := by rw [zpow_add₀ two_ne_zero]; rfl

/-- The mantissa has 53 bits; rounding may carry it to `2 ^ 53`. -/
theorem abs_roundEven_le (x : ℚ) : |roundEven (x / 2 ^ exponent x)| ≤ 2 ^ 53 := by
  obtain ⟨hlow, hhigh⟩ := abs_lt.mp (abs_div_lt x)
  refine abs_le.mpr ⟨le_roundEven ?_, roundEven_le ?_⟩
  · push_cast
    exact hlow.le
  · push_cast
    exact hhigh.le

/-- **What has been rounded is represented**, if it is not too large. -/
theorem representable_rounded {x : ℚ} (h : |rounded x| < 2 ^ 1024) : Representable (rounded x) :=
  ⟨h, _, _, abs_roundEven_le x, le_max_right _ _, rfl⟩

/-! ## Rounding does not cross a value -/

/-- A value of the format is a whole number of last places of `x`, or it is no larger than a power
of two that is, and that `x` reaches. -/
theorem Representable.multiple_or_le {r x : ℚ} (hr : Representable r) (hx : x ≠ 0) :
    (∃ k : ℤ, r = k * 2 ^ exponent x) ∨
      ∃ k : ℤ, |r| ≤ k * 2 ^ exponent x ∧ k * 2 ^ exponent x ≤ |x| := by
  obtain ⟨-, m, e, hm, he, rfl⟩ := hr
  rcases le_or_gt (exponent x) e with hle | hlt
  · refine .inl ⟨m * 2 ^ (e - exponent x).toNat, ?_⟩
    have hexp : ((e - exponent x).toNat : ℤ) = e - exponent x := Int.toNat_of_nonneg (by omega)
    push_cast
    rw [mul_assoc, ← zpow_natCast, hexp, ← zpow_add₀ two_ne_zero, sub_add_cancel]
  · have hlog : Int.log 2 |x| = 52 + exponent x := by
      rcases max_choice (Int.log 2 |x| - 52) (-1074) with h | h <;> rw [← exponent] at h <;> omega
    refine .inr ⟨2 ^ 52, ?_, ?_⟩
    · have hpos : (0 : ℚ) < 2 ^ e := zpow_pos two_pos e
      have hm' : |(m : ℚ)| ≤ 2 ^ 53 := by exact_mod_cast hm
      calc |(m : ℚ) * 2 ^ e| = |(m : ℚ)| * 2 ^ e := by rw [abs_mul, abs_of_pos hpos]
        _ ≤ 2 ^ 53 * 2 ^ (exponent x - 1) :=
            mul_le_mul hm' (zpow_le_zpow_right₀ one_le_two (by omega)) hpos.le (by norm_num)
        _ = ((2 ^ 52 : ℤ) : ℚ) * 2 ^ exponent x := by
            rw [zpow_sub_one₀ two_ne_zero]
            push_cast
            ring
    · calc ((2 ^ 52 : ℤ) : ℚ) * 2 ^ exponent x = 2 ^ (52 + exponent x) := by
            rw [zpow_add₀ two_ne_zero]
            push_cast
            rfl
        _ ≤ |x| := by
            rw [← hlog]
            exact Int.zpow_log_le_self one_lt_two (abs_pos.mpr hx)

theorem rounded_zero : rounded 0 = 0 := by
  have h : roundEven 0 = 0 := by
    refine le_antisymm (roundEven_le ?_) (le_roundEven ?_) <;> rw [Int.cast_zero]
  rw [rounded, zero_div, h, Int.cast_zero, zero_mul]

theorem mul_le_rounded {k : ℤ} {x : ℚ} (h : k * 2 ^ exponent x ≤ x) :
    k * 2 ^ exponent x ≤ rounded x := by
  have hpos : (0 : ℚ) < 2 ^ exponent x := by positivity
  have hk : (k : ℚ) ≤ roundEven (x / 2 ^ exponent x) := by
    exact_mod_cast le_roundEven ((le_div_iff₀ hpos).mpr h)
  exact mul_le_mul_of_nonneg_right hk hpos.le

theorem rounded_le_mul {k : ℤ} {x : ℚ} (h : x ≤ k * 2 ^ exponent x) :
    rounded x ≤ k * 2 ^ exponent x := by
  have hpos : (0 : ℚ) < 2 ^ exponent x := by positivity
  have hk : (roundEven (x / 2 ^ exponent x) : ℚ) ≤ k := by
    exact_mod_cast roundEven_le ((div_le_iff₀ hpos).mpr h)
  exact mul_le_mul_of_nonneg_right hk hpos.le

/-- **Rounding is monotone**: a representable number below stays below. -/
theorem le_rounded {r x : ℚ} (hr : Representable r) (h : r ≤ x) : r ≤ rounded x := by
  rcases eq_or_ne x 0 with rfl | hx
  · rwa [rounded_zero]
  obtain ⟨k, rfl⟩ | ⟨k, hrk, hkx⟩ := hr.multiple_or_le hx
  · exact mul_le_rounded h
  · rcases abs_cases x with ⟨habs, -⟩ | ⟨habs, -⟩
    · exact (le_abs_self r).trans (hrk.trans (mul_le_rounded (hkx.trans habs.le)))
    · -- below `0` only the power of two itself is as low as `x`
      have hneg : -|r| ≤ r := neg_abs_le r
      have heq : r = (-k : ℤ) * 2 ^ exponent x := by
        push_cast
        linarith
      rw [heq] at h ⊢
      exact mul_le_rounded h

theorem rounded_le {r x : ℚ} (hr : Representable r) (h : x ≤ r) : rounded x ≤ r := by
  rcases eq_or_ne x 0 with rfl | hx
  · rwa [rounded_zero]
  obtain ⟨k, rfl⟩ | ⟨k, hrk, hkx⟩ := hr.multiple_or_le hx
  · exact rounded_le_mul h
  · rcases abs_cases x with ⟨habs, -⟩ | ⟨habs, -⟩
    · have hle : r ≤ |r| := le_abs_self r
      have heq : r = (k : ℤ) * 2 ^ exponent x := by linarith
      rw [heq] at h ⊢
      exact rounded_le_mul h
    · have hmul : rounded x ≤ (-k : ℤ) * 2 ^ exponent x := by
        refine rounded_le_mul ?_
        push_cast
        linarith
      push_cast at hmul
      linarith [neg_abs_le r]

/-! ## Truncation -/

/-- Towards zero. -/
def trunc (q : ℚ) : ℤ := if 0 ≤ q then ⌊q⌋ else ⌈q⌉

/-- Truncation keeps the side of a positive integer. -/
theorem trunc_lt_iff {q : ℚ} {k : ℤ} (hk : 0 < k) : trunc q < k ↔ q < k := by
  rw [trunc]
  split_ifs with h
  · exact Int.floor_lt
  · have hneg : q < k := (not_le.mp h).trans (by exact_mod_cast hk)
    exact ⟨fun _ => hneg, fun _ => (Int.ceil_le.mpr (by push_cast; linarith)).trans_lt hk⟩

theorem lt_trunc_iff {q : ℚ} {k : ℤ} (hk : k < 0) : k < trunc q ↔ (k : ℚ) < q := by
  rw [trunc]
  split_ifs with h
  · have hpos : (k : ℚ) < q := lt_of_lt_of_le (by exact_mod_cast hk) h
    exact ⟨fun _ => hpos, fun _ => hk.trans_le (Int.floor_nonneg.mpr h)⟩
  · exact Int.lt_ceil

/-- Less than one is lost. -/
theorem abs_trunc_sub_lt (q : ℚ) : |(trunc q : ℚ) - q| < 1 := by
  rw [trunc, abs_lt]
  split_ifs
  · constructor <;> linarith [Int.floor_le q, Int.lt_floor_add_one q]
  · constructor <;> linarith [Int.le_ceil q, Int.ceil_lt_add_one q]

/-- **A number that is rounded and then truncated moves by less than 1.** -/
theorem abs_trunc_rounded_sub_lt {x : ℚ} (h : |trunc (rounded x)| < 2 ^ 53) :
    |(trunc (rounded x) : ℚ) - x| < 1 := by
  obtain ⟨hlow, hhigh⟩ := abs_lt.mp (abs_trunc_sub_lt (rounded x))
  obtain ⟨hneg, hpos⟩ := abs_lt.mp h
  rw [abs_lt]
  constructor
  · by_contra hle
    have hr : Representable ((trunc (rounded x) + 1 : ℤ) : ℚ) :=
      representable_intCast (abs_le.mpr ⟨by omega, by omega⟩)
    have := le_rounded hr (x := x) (by push_cast; linarith)
    push_cast at this
    linarith
  · by_contra hge
    have hr : Representable ((trunc (rounded x) - 1 : ℤ) : ℚ) :=
      representable_intCast (abs_le.mpr ⟨by omega, by omega⟩)
    have := rounded_le hr (x := x) (by push_cast; linarith)
    push_cast at this
    linarith

end Binary64

/-! ## The type -/

/-- The values of a `double`; the two zeros are one. -/
inductive Binary64
  | finite (q : ℚ) (h : Binary64.Representable q)
  | infinite (negative : Bool)
  | nan

namespace Binary64

/-- The nearest value; too large a number becomes infinite. -/
def ofRat (x : ℚ) : Binary64 :=
  if h : |rounded x| < 2 ^ 1024 then .finite (rounded x) (representable_rounded h)
  else .infinite (x < 0)

def ofInt (k : ℤ) (h : |k| ≤ 2 ^ 53) : Binary64 := .finite k (representable_intCast h)

/-- The number that a finite value is. -/
def value : Binary64 → Option ℚ
  | .finite q _ => some q
  | .infinite _ => none
  | .nan => none

/-- The product, rounded; `0 * ∞` is no number. -/
def mul : Binary64 → Binary64 → Binary64
  | .nan, _ => .nan
  | _, .nan => .nan
  | .infinite s, .infinite t => .infinite (s != t)
  | .infinite s, .finite q _ => if q = 0 then .nan else .infinite (s != decide (q < 0))
  | .finite q _, .infinite s => if q = 0 then .nan else .infinite (s != decide (q < 0))
  | .finite q _, .finite r _ => ofRat (q * r)

instance : Mul Binary64 := ⟨mul⟩

/-- The conversion to `int32_t`: towards zero, and undefined where the result does not fit. -/
def toInt32 : Binary64 → Option Int32
  | .finite q _ =>
      if -2 ^ 31 ≤ trunc q ∧ trunc q < 2 ^ 31 then some (Int32.ofInt (trunc q)) else none
  | .infinite _ => none
  | .nan => none

/-- A product with a number is a number only if both are, or not defined at all. -/
theorem toInt32_mul_of_value_eq_none {x : Binary64} {r : ℚ} {h : Representable r}
    (hx : x.value = none) : (x * .finite r h).toInt32 = none := by
  rcases x with ⟨q, hq⟩ | s | -
  · cases hx
  · change (mul (.infinite s) (.finite r h)).toInt32 = none
    rw [mul]
    split_ifs <;> rfl
  · rfl

/-- What overflows does not fit either. -/
theorem toInt32_ofRat (x : ℚ) : (ofRat x).toInt32 =
    if -2 ^ 31 ≤ trunc (rounded x) ∧ trunc (rounded x) < 2 ^ 31 then
      some (Int32.ofInt (trunc (rounded x))) else none := by
  rw [ofRat]
  split_ifs with hfin hfits hfits
  · exact if_pos hfits
  · exact if_neg hfits
  · have hlow : ((-2 ^ 31 - 1 : ℤ) : ℚ) < rounded x := (lt_trunc_iff (by norm_num)).mp (by omega)
    have hhigh : rounded x < ((2 ^ 31 : ℤ) : ℚ) := (trunc_lt_iff (by norm_num)).mp hfits.2
    push_cast at hlow hhigh
    have hsmall : |rounded x| < 2 ^ 32 := abs_lt.mpr ⟨by linarith, by linarith⟩
    exact absurd (hsmall.trans (pow_lt_pow_right₀ one_lt_two (by norm_num))) hfin
  · rfl

end Binary64

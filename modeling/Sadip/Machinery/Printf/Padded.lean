import Sadip.Machinery.Printf

/-!
# Machinery/Printf/Padded — `%d` with a width, filled up with zeros

`digits w n` are the last `w` decimal places of `n`.  A number that fits a width is printed as these
(`padded_eq_digits`); a negative number starts with its sign.
-/

namespace Printf

/-- `%0wd` -/
def padded (w : ℕ) (v : ℤ) : List Char :=
  if v < 0 then '-' :: (Nat.toDigits 10 v.natAbs).leftpad (w - 1) '0'
  else (Nat.toDigits 10 v.natAbs).leftpad w '0'

def digits : ℕ → ℕ → List Char
  | 0, _ => []
  | w + 1, n => digits w (n / 10) ++ [Nat.digitChar (n % 10)]

@[simp]
theorem length_digits : ∀ w n : ℕ, (digits w n).length = w
  | 0, _ => rfl
  | w + 1, n => by rw [digits, List.length_append, length_digits, List.length_singleton]

theorem isDigit_of_mem_digits {c : Char} : ∀ {w n : ℕ}, c ∈ digits w n → c.isDigit
  | w + 1, n, h => by
      rw [digits, List.mem_append, List.mem_singleton] at h
      rcases h with h | rfl
      · exact isDigit_of_mem_digits h
      · rw [Nat.isDigit_digitChar]
        exact decide_eq_true (Nat.mod_lt n (by decide))

theorem leftpad_toDigits : ∀ {w n : ℕ}, 0 < w → n < 10 ^ w →
    (Nat.toDigits 10 n).leftpad w '0' = digits w n
  | 1, n, _, hn => by
      have hlt : n < 10 := hn
      rw [Nat.toDigits_of_lt_base hlt, digits, digits, Nat.mod_eq_of_lt hlt]
      rfl
  | w + 2, n, _, hn => by
      have hdiv : n / 10 < 10 ^ (w + 1) := Nat.div_lt_of_lt_mul (by rwa [← Nat.pow_succ'])
      rw [digits, ← leftpad_toDigits (Nat.succ_pos w) hdiv]
      rcases Nat.lt_or_ge n 10 with hlt | hge
      · -- one place, and zeros in front of it
        rw [Nat.toDigits_of_lt_base hlt, Nat.div_eq_of_lt hlt, Nat.mod_eq_of_lt hlt,
          Nat.toDigits_zero]
        simp only [List.leftpad, List.length_singleton, Nat.succ_sub_one, List.replicate_succ']
      · have hpad : w + 2 - ((Nat.toDigits 10 (n / 10)).length + 1) =
            w.succ - (Nat.toDigits 10 (n / 10)).length := by omega
        rw [Nat.toDigits_of_base_le (by decide) hge, List.leftpad, List.leftpad,
          List.length_append, List.length_singleton, hpad, List.append_assoc]

/-- **A number that fits the width is printed with all of its places.** -/
theorem padded_eq_digits {w : ℕ} {v : ℤ} (hw : 0 < w) (hv : 0 ≤ v) (h : v < 10 ^ w) :
    padded w v = digits w v.toNat := by
  rw [padded, if_neg (by omega)]
  obtain ⟨n, rfl⟩ := Int.eq_ofNat_of_zero_le hv
  rw [Int.natAbs_natCast, Int.toNat_natCast, leftpad_toDigits hw (by exact_mod_cast h)]

/-- `%d` needs no zeros where the number has all of its places. -/
theorem decimal_eq_digits {w : ℕ} {v : ℤ} (hlow : 10 ^ w ≤ v) (hhigh : v < 10 ^ (w + 1)) :
    decimal v = digits (w + 1) v.toNat := by
  have hnonneg : 0 ≤ v := Int.le_trans (Int.le_of_lt (Int.pow_pos (by decide))) hlow
  obtain ⟨n, rfl⟩ := Int.eq_ofNat_of_zero_le hnonneg
  have hplaces : w + 1 ≤ (Nat.toDigits 10 n).length := by
    refine Nat.lt_of_not_le fun hle => ?_
    rcases Nat.eq_zero_or_pos w with rfl | hw
    · exact Nat.toDigits_ne_nil (List.length_eq_zero_iff.mp (Nat.le_zero.mp hle))
    · have hlt := (Nat.length_toDigits_le_iff (by decide) hw).mp hle
      have hge : 10 ^ w ≤ n := by exact_mod_cast hlow
      omega
  have hn : n < 10 ^ (w + 1) := by exact_mod_cast hhigh
  rw [decimal, if_neg (by omega), Int.natAbs_natCast, Int.toNat_natCast,
    ← leftpad_toDigits (Nat.succ_pos w) hn, List.leftpad, Nat.sub_eq_zero_of_le hplaces]
  rfl

theorem le_length_padded (w : ℕ) (v : ℤ) : w ≤ (padded w v).length := by
  rw [padded]
  split
  · rw [List.length_cons, List.length_leftpad]
    omega
  · rw [List.length_leftpad]
    exact Nat.le_max_left ..

/-- A negative number does not look like places. -/
theorem padded_ne_digits {w k n : ℕ} {v : ℤ} (hv : v < 0) : padded w v ≠ digits k n := by
  intro h
  have hsign : '-' ∈ digits k n := by
    rw [← h, padded, if_pos hv]
    exact List.mem_cons_self
  exact absurd (isDigit_of_mem_digits hsign) (by decide)

end Printf

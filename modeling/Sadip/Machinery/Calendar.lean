import Mathlib.Algebra.GroupWithZero.Nat
import Mathlib.Data.Int.Notation

/-!
# Machinery/Calendar — dates and day numbers

The Gregorian calendar, before its introduction too.  A date has a day number (`ordinal`): the days
of the years before it, of the months before it and of its own month, where `0` is the first of
January of the year 1.  `ofOrdinal` is the date of a day number (`ordinal_ofOrdinal`): it estimates
the year by the mean length of a year, which is at most one year too early, and searches the months.
-/

namespace Calendar

/-- The Gregorian rule. -/
def leap (year : ℤ) : Bool := year % 4 == 0 && (year % 100 != 0 || year % 400 == 0)

/-- The days of the twelve months. -/
def monthLengths (year : ℤ) : List ℕ :=
  [31, if leap year then 29 else 28, 31, 30, 31, 30, 31, 31, 30, 31, 30, 31]

/-- The days of the years before. -/
def daysBefore (year : ℤ) : ℤ :=
  365 * (year - 1) + (year - 1) / 4 - (year - 1) / 100 + (year - 1) / 400

/-- Months and days count from `0`. -/
structure Date where
  year : ℤ
  (month day : ℕ)
  valid : ∃ length, (monthLengths year)[month]? = some length ∧ day < length

/-- The days before a date, counted from the beginning of year 1. -/
def Date.ordinal (d : Date) : ℤ :=
  daysBefore d.year + ((monthLengths d.year).take d.month).sum + d.day

theorem Date.month_lt (d : Date) : d.month < 12 := by
  obtain ⟨length, hlength, -⟩ := d.valid
  exact (List.getElem?_eq_some_iff.mp hlength).1

theorem length_le_of_mem {year : ℤ} {l : ℕ} (h : l ∈ monthLengths year) : l ≤ 31 := by
  rw [monthLengths] at h
  split at h <;> revert l <;> decide

/-- No month has more than 31 days. -/
theorem Date.day_lt (d : Date) : d.day < 31 := by
  obtain ⟨length, hlength, hday⟩ := d.valid
  exact Nat.lt_of_lt_of_le hday (length_le_of_mem (List.mem_of_getElem? hlength))

/-! ## The year of a day -/

/-- 146097 days are 400 years. -/
def yearOf (n : ℤ) : ℤ :=
  let estimate := n * 400 / 146097 + 1
  if daysBefore (estimate + 1) ≤ n then estimate + 1 else estimate

/-- **A day lies in its year.** -/
theorem daysBefore_yearOf (n : ℤ) : daysBefore (yearOf n) ≤ n ∧ n < daysBefore (yearOf n + 1) := by
  rw [yearOf]
  split <;> simp only [daysBefore] at * <;> omega

/-- Later years begin later. -/
theorem daysBefore_mono {y z : ℤ} (h : y ≤ z) : daysBefore y ≤ daysBefore z := by
  rw [daysBefore, daysBefore]
  omega

theorem le_yearOf_iff {y n : ℤ} : y ≤ yearOf n ↔ daysBefore y ≤ n := by
  obtain ⟨hle, hlt⟩ := daysBefore_yearOf n
  constructor
  · intro h
    exact Int.le_trans (daysBefore_mono h) hle
  · intro h
    refine Int.not_lt.mp fun hgt => ?_
    have hbefore := daysBefore_mono (y := yearOf n + 1) (z := y) hgt
    omega

/-- A year is as long as its months. -/
theorem sum_monthLengths (year : ℤ) :
    ((monthLengths year).sum : ℤ) = daysBefore (year + 1) - daysBefore year := by
  rw [monthLengths, daysBefore, daysBefore]
  split <;> rename_i h <;> simp [leap] at h ⊢ <;> omega

/-! ## The month of a day of the year -/

/-- The block that a position falls in, and where in it. -/
def locate : List ℕ → ℕ → ℕ × ℕ
  | [], n => (0, n)
  | l :: ls, n => if n < l then (0, n) else ((locate ls (n - l)).1 + 1, (locate ls (n - l)).2)

/-- The place found is one of the list, and the rest is less than what stands there. -/
theorem locate_lt : ∀ {ls : List ℕ} {n : ℕ}, n < ls.sum →
    ∃ l, ls[(locate ls n).1]? = some l ∧ (locate ls n).2 < l
  | [], _, h => absurd h (Nat.not_lt_zero _)
  | l :: ls, n, h => by
      rw [locate]
      split
      · exact ⟨l, rfl, by assumption⟩
      · rw [List.sum_cons] at h
        exact locate_lt (by omega)

/-- What stands before the place and the rest make up the number. -/
theorem sum_take_locate : ∀ (ls : List ℕ) (n : ℕ),
    (ls.take (locate ls n).1).sum + (locate ls n).2 = n
  | [], n => by rw [List.take_nil, List.sum_nil, Nat.zero_add, locate]
  | l :: ls, n => by
      rw [locate]
      split
      · simp
      · rw [List.take_succ_cons, List.sum_cons, Nat.add_assoc, sum_take_locate ls (n - l)]
        omega

/-! ## The date of a day -/

/-- The days of the year before a day. -/
def dayOfYear (n : ℤ) : ℕ := (n - daysBefore (yearOf n)).toNat

theorem dayOfYear_eq (n : ℤ) : (dayOfYear n : ℤ) = n - daysBefore (yearOf n) :=
  Int.toNat_of_nonneg (by have := (daysBefore_yearOf n).1; omega)

theorem dayOfYear_lt (n : ℤ) : dayOfYear n < (monthLengths (yearOf n)).sum := by
  have hlt := (daysBefore_yearOf n).2
  have hsum := sum_monthLengths (yearOf n)
  have heq := dayOfYear_eq n
  omega

/-- The date of a day: the year first, then the month in it, then the day in that. -/
def ofOrdinal (n : ℤ) : Date where
  year := yearOf n
  month := (locate (monthLengths (yearOf n)) (dayOfYear n)).1
  day := (locate (monthLengths (yearOf n)) (dayOfYear n)).2
  valid := locate_lt (dayOfYear_lt n)

/-- **Each day number is the number of its date.** -/
theorem ordinal_ofOrdinal (n : ℤ) : (ofOrdinal n).ordinal = n := by
  have hsum := sum_take_locate (monthLengths (yearOf n)) (dayOfYear n)
  have heq := dayOfYear_eq n
  rw [Date.ordinal]
  simp only [ofOrdinal]
  omega

end Calendar

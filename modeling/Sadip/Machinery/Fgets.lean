import Mathlib.Data.List.Basic

/-!
# Machinery/Fgets — a text read through a buffer of bounded length

`fgets` reads up to and including the next delimiter, but no more than the buffer holds; what it
leaves is read by the next call.  Every line that the calls return fits the buffer and ends where a
delimiter is (`of_mem_lines`), and a line with its delimiter comes back as one if it fits
(`lines_line`).
-/

namespace Fgets

variable {α : Type*} [DecidableEq α] {nl : α} {n : ℕ} {l s : List α}

/-- One read of at most `n` elements, and what it leaves. -/
def fgets (nl : α) : ℕ → List α → List α × List α
  | _, [] => ([], [])
  | 0, s => ([], s)
  | n + 1, c :: s =>
      if c = nl then ([c], s)
      else (c :: (fgets nl n s).1, (fgets nl n s).2)

/-- The lines of successive reads, until one returns nothing; `fuel` bounds their number. -/
def linesWithin (nl : α) (n : ℕ) : ℕ → List α → List (List α)
  | 0, _ => []
  | _, [] => []
  | fuel + 1, s => (fgets nl n s).1 :: linesWithin nl n fuel (fgets nl n s).2

/-- The lines of a text: a read takes something, so there are no more than it has elements. -/
def lines (nl : α) (n : ℕ) (s : List α) : List (List α) := linesWithin nl n s.length s

/-! ## One read -/

theorem fgets_cons_of_ne {c : α} (h : c ≠ nl) : fgets nl (n + 1) (c :: s) =
    (c :: (fgets nl n s).1, (fgets nl n s).2) := if_neg h

theorem fgets_cons_self : fgets nl (n + 1) (nl :: s) = ([nl], s) := if_pos rfl

theorem fgets_zero (nl : α) (s : List α) : fgets nl 0 s = ([], s) := by
  cases s <;> rfl

/-- **A read takes from the front of the text.** -/
theorem fgets_append (nl : α) : ∀ (n : ℕ) (s : List α), (fgets nl n s).1 ++ (fgets nl n s).2 = s
  | n, [] => by cases n <;> rfl
  | 0, c :: s => rfl
  | n + 1, c :: s => by
      by_cases hc : c = nl
      · rw [hc, fgets_cons_self, List.singleton_append]
      · rw [fgets_cons_of_ne hc, List.cons_append, fgets_append nl n s]

theorem length_fgets_le (nl : α) : ∀ (n : ℕ) (s : List α), (fgets nl n s).1.length ≤ n
  | n, [] => by cases n <;> exact Nat.zero_le _
  | 0, c :: s => Nat.le_refl 0
  | n + 1, c :: s => by
      by_cases hc : c = nl
      · rw [hc, fgets_cons_self, List.length_singleton]
        exact Nat.succ_pos n
      · rw [fgets_cons_of_ne hc, List.length_cons]
        exact Nat.succ_le_succ (length_fgets_le nl n s)

theorem fgets_ne_nil (hn : 0 < n) (hs : s ≠ []) : (fgets nl n s).1 ≠ [] := by
  obtain ⟨c, s, rfl⟩ := List.exists_cons_of_ne_nil hs
  obtain ⟨n, rfl⟩ := Nat.exists_eq_add_one.mpr hn
  by_cases hc : c = nl
  · rw [hc, fgets_cons_self]
    exact List.cons_ne_nil _ _
  · rw [fgets_cons_of_ne hc]
    exact List.cons_ne_nil _ _

/-- A delimiter is the last thing that is read. -/
theorem not_mem_dropLast_fgets (nl : α) : ∀ (n : ℕ) (s : List α), nl ∉ (fgets nl n s).1.dropLast
  | n, [] => by cases n <;> exact List.not_mem_nil
  | 0, c :: s => List.not_mem_nil
  | n + 1, c :: s => by
      by_cases hc : c = nl
      · rw [hc, fgets_cons_self]
        exact List.not_mem_nil
      rw [fgets_cons_of_ne hc]
      rcases eq_or_ne (fgets nl n s).1 [] with hnil | hne
      · rw [hnil]
        exact List.not_mem_nil
      · rw [List.dropLast_cons_of_ne_nil hne]
        exact fun hmem => (List.mem_cons.mp hmem).elim (fun h => hc h.symm)
          (not_mem_dropLast_fgets nl n s)

/-- A line that fits is read with its delimiter. -/
theorem fgets_line (hl : nl ∉ l) (hn : l.length < n) (s : List α) :
    fgets nl n (l ++ nl :: s) = (l ++ [nl], s) := by
  induction l generalizing n with
  | nil =>
    obtain ⟨n, rfl⟩ := Nat.exists_eq_add_one.mpr hn
    exact fgets_cons_self
  | cons c l ih =>
    obtain ⟨n, rfl⟩ := Nat.exists_eq_add_one.mpr (Nat.zero_lt_of_lt hn)
    obtain ⟨hc, hl⟩ := not_or.mp (mt List.mem_cons.mpr hl)
    rw [List.cons_append, fgets_cons_of_ne (Ne.symm hc), ih hl (Nat.lt_of_succ_lt_succ hn),
      List.cons_append]

/-- A line that is longer than the buffer fills it. -/
theorem fgets_long (hl : nl ∉ l) (hn : n ≤ l.length) (s : List α) :
    fgets nl n (l ++ s) = (l.take n, l.drop n ++ s) := by
  induction l generalizing n with
  | nil =>
    obtain rfl := Nat.le_zero.mp hn
    exact fgets_zero nl s
  | cons c l ih =>
    obtain ⟨hc, hl⟩ := not_or.mp (mt List.mem_cons.mpr hl)
    rcases n with - | n
    · exact fgets_zero nl _
    · rw [List.cons_append, fgets_cons_of_ne (Ne.symm hc), ih hl (Nat.le_of_succ_le_succ hn),
        List.take_succ_cons, List.drop_succ_cons]

/-! ## All of them -/

theorem linesWithin_nil (fuel : ℕ) : linesWithin nl n fuel [] = [] := by cases fuel <;> rfl

theorem length_fgets_snd (hn : 0 < n) (hs : s ≠ []) : (fgets nl n s).2.length < s.length := by
  have hlen := congrArg List.length (fgets_append nl n s)
  have hpos : 0 < (fgets nl n s).1.length := List.length_pos_iff.mpr (fgets_ne_nil hn hs)
  rw [List.length_append] at hlen
  omega

/-- Enough fuel gives all lines. -/
theorem linesWithin_congr (hn : 0 < n) {fuel fuel' : ℕ} (h : s.length ≤ fuel)
    (h' : s.length ≤ fuel') : linesWithin nl n fuel s = linesWithin nl n fuel' s := by
  induction fuel generalizing fuel' s with
  | zero =>
    obtain rfl := List.length_eq_zero_iff.mp (Nat.le_zero.mp h)
    rw [linesWithin_nil, linesWithin_nil]
  | succ fuel ih =>
    rcases s with - | ⟨c, s⟩
    · rw [linesWithin_nil, linesWithin_nil]
    obtain ⟨fuel', rfl⟩ := Nat.exists_eq_add_one.mpr (Nat.zero_lt_of_lt h')
    have hlt : (fgets nl n (c :: s)).2.length < (c :: s).length :=
      length_fgets_snd hn (List.cons_ne_nil c s)
    show _ :: linesWithin nl n fuel _ = _ :: linesWithin nl n fuel' _
    rw [ih (Nat.le_of_lt_succ (Nat.lt_of_lt_of_le hlt h))
      (Nat.le_of_lt_succ (Nat.lt_of_lt_of_le hlt h'))]

theorem lines_of_ne_nil (hn : 0 < n) (hs : s ≠ []) :
    lines nl n s = (fgets nl n s).1 :: lines nl n (fgets nl n s).2 := by
  have hlt : (fgets nl n s).2.length < s.length := length_fgets_snd hn hs
  obtain ⟨c, s, rfl⟩ := List.exists_cons_of_ne_nil hs
  show _ :: linesWithin nl n s.length _ = _
  rw [linesWithin_congr hn (Nat.le_of_lt_succ hlt) (Nat.le_refl _), lines]

/-- **Induction on the reads.** -/
@[elab_as_elim]
theorem lines_induction (nl : α) (hn : 0 < n) {motive : List α → Prop} (nil : motive [])
    (read : ∀ s, s ≠ [] → motive (fgets nl n s).2 → motive s) : ∀ s, motive s := by
  intro s
  induction hlen : s.length using Nat.strongRecOn generalizing s with
  | ind k ih =>
    rcases eq_or_ne s [] with rfl | hs
    · exact nil
    · exact read s hs (ih _ (hlen ▸ length_fgets_snd hn hs) _ rfl)

/-- Each line has something, fits the buffer, and ends where a delimiter is. -/
theorem of_mem_lines (hn : 0 < n) (h : l ∈ lines nl n s) :
    l ≠ [] ∧ l.length ≤ n ∧ nl ∉ l.dropLast := by
  induction s using lines_induction nl hn with
  | nil => exact absurd h List.not_mem_nil
  | read s hs ih =>
    rw [lines_of_ne_nil hn hs] at h
    rcases List.mem_cons.mp h with rfl | h
    · exact ⟨fgets_ne_nil hn hs, length_fgets_le nl n s, not_mem_dropLast_fgets nl n s⟩
    · exact ih h

/-- **A line that fits is one of the lines.** -/
theorem lines_line (hl : nl ∉ l) (hn : l.length < n) (s : List α) :
    lines nl n (l ++ nl :: s) = (l ++ [nl]) :: lines nl n s := by
  rw [lines_of_ne_nil (Nat.zero_lt_of_lt hn) (by simp), fgets_line hl hn]

end Fgets

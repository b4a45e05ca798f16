import Mathlib.Data.List.Basic
import Mathlib.Data.Nat.Basic
import Mathlib.Tactic.Ring

/-!
# Machinery/Pieces — a list cut into consecutive pieces of one length

`piece B l i` is the `i`-th run of `B` elements of `l`; `pieceCount B n` says how many runs a list
of length `n` has, the last one perhaps short.  `flatten_pieces` puts the list together again.
-/

namespace Pieces

variable {α : Type*} {B n i : ℕ} {l : List α}

/-- The `i`-th piece of length `B`. -/
def piece (B : ℕ) (l : List α) (i : ℕ) : List α := (l.drop (i * B)).take B

/-- How many pieces of length `B` it takes to hold `n` elements. -/
def pieceCount (B n : ℕ) : ℕ := n / B + if n % B > 0 then 1 else 0

/-- **A piece is there exactly when the elements before it do not use the list up.** -/
theorem lt_pieceCount_iff (hB : 0 < B) : i < pieceCount B n ↔ i * B < n := by
  have hdiv := Nat.div_add_mod n B
  have hmod := Nat.mod_lt n hB
  rw [pieceCount]
  constructor
  · intro h
    split at h
    · calc i * B ≤ n / B * B := Nat.mul_le_mul_right B (by omega)
        _ < n := by rw [Nat.mul_comm]; omega
    · calc i * B < (i + 1) * B := Nat.mul_lt_mul_of_pos_right (Nat.lt_succ_self i) hB
        _ ≤ n / B * B := Nat.mul_le_mul_right B (by omega)
        _ ≤ n := Nat.div_mul_le_self n B
  · intro h
    have hle : i ≤ n / B := (Nat.le_div_iff_mul_le hB).mpr h.le
    rcases Nat.lt_or_eq_of_le hle with hlt | rfl
    · omega
    · have : 0 < n % B := by rw [Nat.mul_comm] at h; omega
      simp [this]

theorem length_piece : (piece B l i).length = min B (l.length - i * B) := by
  rw [piece, List.length_take, List.length_drop]

theorem length_piece_le : (piece B l i).length ≤ B := by
  rw [length_piece]
  exact min_le_left _ _

theorem piece_ne_nil (hB : 0 < B) (hi : i < pieceCount B l.length) : piece B l i ≠ [] := by
  have h := (lt_pieceCount_iff hB).mp hi
  rw [← List.length_pos_iff, length_piece]
  omega

/-- **Only the last piece may be short.** -/
theorem length_piece_of_lt (hB : 0 < B) (hi : i + 1 < pieceCount B l.length) :
    (piece B l i).length = B := by
  have h := (lt_pieceCount_iff hB).mp hi
  rw [Nat.add_mul, Nat.one_mul] at h
  rw [length_piece]
  omega

theorem flatten_pieces_eq_take (B : ℕ) (l : List α) :
    ∀ k, ((List.range k).map (piece B l)).flatten = l.take (k * B)
  | 0 => by simp
  | k + 1 => by
      rw [List.range_succ, List.map_append, List.flatten_append, flatten_pieces_eq_take B l k,
        Nat.add_mul, Nat.one_mul, List.take_add]
      simp [piece]

/-- **All the pieces together are the list.** -/
theorem flatten_pieces (hB : 0 < B) (l : List α) :
    ((List.range (pieceCount B l.length)).map (piece B l)).flatten = l := by
  rw [flatten_pieces_eq_take]
  refine List.take_of_length_le ?_
  by_contra h
  exact absurd ((lt_pieceCount_iff hB).mpr (Nat.lt_of_not_le h)) (Nat.lt_irrefl _)

end Pieces

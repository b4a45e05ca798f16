import Mathlib.Logic.Function.Iterate

/-!
# Machinery/Crc — cyclic redundancy checks, lowest bit first

A register of `w` bits is shifted to the right, and the polynomial is brought in when a one falls
out. A byte goes into its low end before it is shifted eight times.

Shifts are linear (`shift_xor`), so a byte and the low end of the register can be looked up together
in a table of 256 entries (`enter_eq`).  If the polynomial has its highest bit they can be undone
(`shift_injective`): messages that differ in one byte only leave different registers
(`register_ne`).
-/

namespace Crc

variable {w : ℕ} {poly c d : BitVec w}

/-- One shift to the right. -/
def shift (poly c : BitVec w) : BitVec w :=
  if c.getLsbD 0 then (c >>> 1) ^^^ poly else c >>> 1

/-- A byte that enters the register. -/
def enter (poly c : BitVec w) (b : BitVec 8) : BitVec w :=
  (shift poly)^[8] (c ^^^ b.setWidth w)

/-- The register behind a message. -/
def register (poly c : BitVec w) (bs : List (BitVec 8)) : BitVec w := bs.foldl (enter poly) c

/-! ## Linearity -/

theorem shift_xor (c d : BitVec w) : shift poly (c ^^^ d) = shift poly c ^^^ shift poly d := by
  have hswap : ∀ x y z : BitVec w, x ^^^ y ^^^ z = x ^^^ z ^^^ y := fun x y z => by
    rw [BitVec.xor_assoc, BitVec.xor_comm y z, ← BitVec.xor_assoc]
  rw [shift, shift, shift, BitVec.getLsbD_xor, BitVec.ushiftRight_xor_distrib]
  cases c.getLsbD 0 <;> cases d.getLsbD 0
  · rfl
  · exact BitVec.xor_assoc _ _ _
  · exact hswap _ _ _
  · show c >>> 1 ^^^ d >>> 1 = c >>> 1 ^^^ poly ^^^ (d >>> 1 ^^^ poly)
    rw [← BitVec.xor_assoc, hswap (c >>> 1), BitVec.xor_assoc _ poly, BitVec.xor_self,
      BitVec.xor_zero]

theorem iterate_shift_xor : ∀ (k : ℕ) (c d : BitVec w),
    (shift poly)^[k] (c ^^^ d) = (shift poly)^[k] c ^^^ (shift poly)^[k] d
  | 0, _, _ => rfl
  | k + 1, c, d => by
      rw [Function.iterate_succ_apply, shift_xor, iterate_shift_xor k]
      rfl

/-- Zeros fall out without the polynomial. -/
theorem iterate_shift_of_zeros : ∀ (k : ℕ) {c : BitVec w},
    (∀ i < k, c.getLsbD i = false) → (shift poly)^[k] c = c >>> k
  | 0, c, _ => (BitVec.ushiftRight_zero c).symm
  | k + 1, c, h => by
      have hzeros : ∀ i < k, (c >>> 1).getLsbD i = false := fun i hi => by
        rw [BitVec.getLsbD_ushiftRight]
        exact h (1 + i) (by omega)
      rw [Function.iterate_succ_apply, shift, h 0 (Nat.succ_pos k), if_neg Bool.false_ne_true,
        iterate_shift_of_zeros k hzeros, ← BitVec.shiftRight_add, Nat.add_comm]

/-- The low byte of a register, and the rest of it. -/
theorem low_xor_high (c : BitVec w) (b : BitVec 8) :
    c ^^^ b.setWidth w = (c.setWidth 8 ^^^ b).setWidth w ^^^ (c >>> 8) <<< 8 := by
  refine BitVec.eq_of_getLsbD_eq fun i hi => ?_
  simp only [BitVec.getLsbD_xor, BitVec.getLsbD_setWidth, BitVec.getLsbD_shiftLeft,
    BitVec.getLsbD_ushiftRight, decide_eq_true hi, Bool.true_and]
  by_cases hlow : i < 8
  · rw [decide_eq_true hlow, Bool.true_and, Bool.not_true, Bool.false_and, Bool.xor_false]
  · rw [decide_eq_false hlow, BitVec.getLsbD_of_ge b i (Nat.not_lt.mp hlow),
      Nat.add_sub_cancel' (Nat.not_lt.mp hlow), Bool.not_false, Bool.true_and, Bool.false_and,
      Bool.xor_false, Bool.xor_false, Bool.false_xor]

theorem high_shiftRight (c : BitVec w) : (c >>> 8) <<< 8 >>> 8 = c >>> 8 := by
  refine BitVec.eq_of_getLsbD_eq fun i _ => ?_
  have hhigh : ¬8 + i < 8 := by omega
  rw [BitVec.getLsbD_ushiftRight, BitVec.getLsbD_shiftLeft, Nat.add_sub_cancel_left,
    BitVec.getLsbD_ushiftRight, decide_eq_false hhigh, Bool.not_false, Bool.and_true]
  by_cases hin : 8 + i < w
  · rw [decide_eq_true hin, Bool.true_and]
  · rw [BitVec.getLsbD_of_ge c (8 + i) (Nat.not_lt.mp hin), Bool.and_false]

/-- **One look into a table** replaces eight shifts. -/
theorem enter_eq (poly c : BitVec w) (b : BitVec 8) :
    enter poly c b = (shift poly)^[8] ((c.setWidth 8 ^^^ b).setWidth w) ^^^ c >>> 8 := by
  have hzeros : ∀ i < 8, ((c >>> 8) <<< 8).getLsbD i = false := fun i hi => by
    rw [BitVec.getLsbD_shiftLeft, decide_eq_true hi, Bool.not_true, Bool.and_false, Bool.false_and]
  rw [enter, low_xor_high, iterate_shift_xor, iterate_shift_of_zeros 8 hzeros, high_shiftRight]

/-! ## Shifts undone -/

/-- What a one brings in stays at the high end. -/
theorem shift_eq_zero (hpoly : poly.msb = true) (h : shift poly c = 0#w) : c = 0#w := by
  rw [shift] at h
  split at h
  · next hone =>
      have hmsb := congrArg BitVec.msb (BitVec.xor_eq_zero_iff.mp h)
      rw [BitVec.msb_ushiftRight, hpoly] at hmsb
      cases hmsb
  · next hone =>
      refine BitVec.eq_of_getLsbD_eq fun i hi => ?_
      rw [BitVec.getLsbD_zero]
      cases i with
      | zero => rwa [Bool.not_eq_true] at hone
      | succ i =>
        have hbit := congrArg (fun x => x.getLsbD i) h
        rwa [BitVec.getLsbD_ushiftRight, BitVec.getLsbD_zero, Nat.add_comm] at hbit

theorem shift_injective (hpoly : poly.msb = true) : Function.Injective (shift poly) := by
  intro c d h
  rw [← BitVec.xor_eq_zero_iff]
  refine shift_eq_zero hpoly ?_
  rw [shift_xor, h, BitVec.xor_self]

theorem enter_injective (hpoly : poly.msb = true) (b : BitVec 8) :
    Function.Injective fun c => enter poly c b := by
  intro c d h
  exact (BitVec.xor_left_inj _).mp ((shift_injective hpoly).iterate 8 h)

/-- Registers that differ go on to differ. -/
theorem register_injective (hpoly : poly.msb = true) (bs : List (BitVec 8)) :
    Function.Injective fun c => register poly c bs := by
  induction bs with
  | nil => exact fun _ _ h => h
  | cons b bs ih =>
    intro c d h
    exact enter_injective hpoly b (ih h)

/-- **Messages that differ in one byte** leave different registers. -/
theorem register_ne (hpoly : poly.msb = true) (hw : 8 ≤ w) {a b : BitVec 8} (hab : a ≠ b)
    (c : BitVec w) (before after : List (BitVec 8)) :
    register poly c (before ++ a :: after) ≠ register poly c (before ++ b :: after) := by
  rw [register, register, List.foldl_append, List.foldl_append]
  intro h
  have henter := register_injective hpoly after h
  have hwidth := (BitVec.xor_right_inj _).mp ((shift_injective hpoly).iterate 8 henter)
  refine hab (BitVec.eq_of_getLsbD_eq fun i hi => ?_)
  have hbit := congrArg (fun x => x.getLsbD i) hwidth
  simpa only [BitVec.getLsbD_setWidth, decide_eq_true (Nat.lt_of_lt_of_le hi hw), Bool.true_and]
    using hbit

end Crc

import Mathlib.Data.List.Basic
import Mathlib.Algebra.Order.Ring.Nat
import Mathlib.Tactic.NormNum

/-!
# Machinery/Wire — the records of protocol buffers

A number is written seven bits a byte, the lowest first, and a string behind its length; before
either comes a tag with the number of its field and how it is written.  Each reads back as it was
written, with what follows it left alone (`readVarint_varint`, `readTag_tag`, `readBytes_sized`), as
long as a string is not longer than the reader's limit.
-/

namespace Wire

/-! ## Numbers -/

/-- The bytes of a number, no more than one and these. -/
def varintWithin : ℕ → ℕ → List UInt8
  | 0, n => [n.toUInt8]
  | k + 1, n =>
      if n < 128 then [n.toUInt8]
      else (n % 128 + 128).toUInt8 :: varintWithin k (n / 128)

/-- `WriteVarint64ToArray`, of a number of 64 bits. -/
def varint (n : ℕ) : List UInt8 := varintWithin 9 n

/-- The number of no more than so many bytes in front, and what is behind it. -/
def readVarint : ℕ → List UInt8 → Option (ℕ × List UInt8)
  | 0, _ => none
  | _ + 1, [] => none
  | k + 1, b :: s =>
      if b.toNat < 128 then some (b.toNat, s)
      else (readVarint k s).map fun p => (b.toNat - 128 + 128 * p.1, p.2)

variable {n k l : ℕ} {s b : List UInt8}

theorem toNat_toUInt8 (h : n < 256) : n.toUInt8.toNat = n := by
  rw [Nat.toUInt8, UInt8.toNat_ofNat', Nat.mod_eq_of_lt h]

theorem readVarint_small (h : n < 128) : readVarint (l + 1) (n.toUInt8 :: s) = some (n, s) := by
  rw [readVarint, toNat_toUInt8 (h.trans (by decide)), if_pos h]

theorem readVarint_varintWithin : ∀ {k l n : ℕ}, n < 128 ^ (k + 1) → n < 128 ^ (l + 1) →
    readVarint (l + 1) (varintWithin k n ++ s) = some (n, s)
  | 0, l, n, hk, _ => readVarint_small (by simpa using hk)
  | k + 1, l, n, hk, hl => by
      rw [varintWithin]
      by_cases h : n < 128
      · rw [if_pos h]
        exact readVarint_small h
      obtain ⟨l, rfl⟩ : ∃ m, l = m + 1 :=
        Nat.exists_eq_succ_of_ne_zero fun hzero => h (by simpa [hzero] using hl)
      have hdiv : ∀ m, n < 128 ^ (m + 1 + 1) → n / 128 < 128 ^ (m + 1) := fun m hm =>
        Nat.div_lt_of_lt_mul (by rwa [pow_succ, mul_comm] at hm)
      have hbyte : (n % 128 + 128).toUInt8.toNat = n % 128 + 128 := toNat_toUInt8 (by omega)
      rw [if_neg h, List.cons_append, readVarint, hbyte, if_neg (by omega),
        readVarint_varintWithin (hdiv k hk) (hdiv l hl), Option.map_some]
      exact congrArg some (Prod.ext (by show n % 128 + 128 - 128 + 128 * (n / 128) = n; omega) rfl)

/-- **Numbers read back**, in as many bytes as they need. -/
theorem readVarint_varint (hn : n < 2 ^ 64) (hl : n < 128 ^ (l + 1)) :
    readVarint (l + 1) (varint n ++ s) = some (n, s) :=
  readVarint_varintWithin (hn.trans (by norm_num)) hl

theorem varintWithin_ne_nil : ∀ k n : ℕ, varintWithin k n ≠ []
  | 0, _ => List.cons_ne_nil _ _
  | k + 1, n => by
      rw [varintWithin]
      split <;> exact List.cons_ne_nil _ _

theorem varint_ne_nil (n : ℕ) : varint n ≠ [] := varintWithin_ne_nil 9 n

/-! ## Tags -/

/-- How a record is written: a number, or a string behind its length. -/
def wireVarint : ℕ := 0

def wireLength : ℕ := 2

/-- The tag of a field. -/
def tag (number wire : ℕ) : List UInt8 := varint (8 * number + wire)

/-- `ReadTag`. -/
def readTag (s : List UInt8) : Option (ℕ × List UInt8) :=
  (readVarint 5 s).map fun p => (p.1 % 2 ^ 32, p.2)

/-- A number that a field may have. -/
def maxNumber : ℕ := 2 ^ 29

theorem readTag_tag {number wire : ℕ} (hnumber : number < maxNumber) (hwire : wire < 8) :
    readTag (tag number wire ++ s) = some (8 * number + wire, s) := by
  have hlt : 8 * number + wire < 2 ^ 32 := by
    have : number + 1 ≤ 2 ^ 29 := hnumber
    omega
  rw [readTag, tag, readVarint_varint (hlt.trans (by norm_num)) (hlt.trans (by norm_num)),
    Option.map_some, Nat.mod_eq_of_lt hlt]

/-- A null byte is the tag zero. -/
theorem readTag_zero (s : List UInt8) : readTag (0 :: s) = some (0, s) := rfl

/-! ## Strings -/

/-- The longest string that is read: `INT_MAX`, less the slop of the reader's buffer. -/
def maxSize : ℕ := 2 ^ 31 - 17

/-- `ReadSize`. -/
def readSize (s : List UInt8) : Option (ℕ × List UInt8) :=
  (readVarint 5 s).filter fun p => p.1 ≤ maxSize

/-- The string in front, behind its length, and what is behind it. -/
def readBytes (s : List UInt8) : Option (List UInt8 × List UInt8) :=
  (readSize s).bind fun p =>
    if p.1 ≤ p.2.length then some (p.2.take p.1, p.2.drop p.1) else none

/-- A string behind its length. -/
def sized (b : List UInt8) : List UInt8 := varint b.length ++ b

/-- **Strings read back**, if they are not too long. -/
theorem readBytes_sized (h : b.length ≤ maxSize) : readBytes (sized b ++ s) = some (b, s) := by
  have hlt : b.length < 2 ^ 31 := lt_of_le_of_lt h (by decide)
  have hsize : readSize (sized b ++ s) = some (b.length, b ++ s) := by
    rw [readSize, sized, List.append_assoc, readVarint_varint (hlt.trans (by norm_num))
      (hlt.trans (by norm_num)), Option.filter_some, if_pos (decide_eq_true h)]
  rw [readBytes, hsize, Option.bind_some, if_pos (by rw [List.length_append]; omega),
    List.take_left, List.drop_left]

end Wire

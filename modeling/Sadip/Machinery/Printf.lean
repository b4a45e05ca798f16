import Mathlib.Algebra.Group.Int.Defs
import Mathlib.Algebra.Ring.Nat
import Mathlib.Data.List.Forall2

/-!
# Machinery/Printf — formats, and what is printed with them

A format is a list of pieces, characters and conversions; `format` puts an argument in the place of
each conversion.  What comes out is a list of chunks: it is kept apart which characters are the
format's own and which were put in, so that a text can be followed while its strings change.
The strings have a type of their own, `σ`, and `print` says what is printed for one.
-/

namespace Printf

/-- The conversions. -/
inductive Conv
  | d
  | ld
  | lld
  | llu
  | s
  deriving DecidableEq

inductive Piece
  | char (c : Char)
  | conv (k : Conv)
  deriving DecidableEq

/-- The pieces of a format, if it has no other conversion. -/
def pieces : List Char → Option (List Piece)
  | [] => some []
  | '%' :: 'd' :: cs => (pieces cs).map (.conv .d :: ·)
  | '%' :: 's' :: cs => (pieces cs).map (.conv .s :: ·)
  | '%' :: 'l' :: 'd' :: cs => (pieces cs).map (.conv .ld :: ·)
  | '%' :: 'l' :: 'l' :: 'd' :: cs => (pieces cs).map (.conv .lld :: ·)
  | '%' :: 'l' :: 'l' :: 'u' :: cs => (pieces cs).map (.conv .llu :: ·)
  | '%' :: _ => none
  | c :: cs => (pieces cs).map (.char c :: ·)

variable {σ : Type}

/-- An argument; a string is one of `σ`, or empty. -/
inductive Arg (σ : Type)
  | int (v : Int32)
  | long (v : Int64)
  | ulong (v : UInt64)
  | str (s : Option σ)

namespace Arg

/-- The argument has the type that the conversion asks for. -/
def Suits : Arg σ → Conv → Prop
  | int _, k => k = .d
  | long _, k => k = .ld ∨ k = .lld
  | ulong _, k => k = .llu
  | str _, k => k = .s

instance : (a : Arg σ) → (k : Conv) → Decidable (a.Suits k)
  | int _, k => inferInstanceAs (Decidable (k = .d))
  | long _, k => inferInstanceAs (Decidable (k = .ld ∨ k = .lld))
  | ulong _, k => inferInstanceAs (Decidable (k = .llu))
  | str _, k => inferInstanceAs (Decidable (k = .s))

/-- The number it is; `0` for a string. -/
def number : Arg σ → ℤ
  | int v => v.toInt
  | long v => v.toInt
  | ulong v => v.toNat
  | str _ => 0

end Arg

/-- A part of a text: a character of the format, or what was put in. -/
inductive Chunk (σ : Type)
  | char (c : Char)
  | arg (a : Arg σ)

/-- What a format makes of its arguments; the result is undefined when they do not suit. -/
def format : List Piece → List (Arg σ) → Option (List (Chunk σ))
  | [], _ => some []
  | .char c :: ps, as => (format ps as).map (.char c :: ·)
  | .conv k :: ps, a :: as => if a.Suits k then (format ps as).map (.arg a :: ·) else none
  | .conv _ :: _, [] => none

/-- The conversions of a format, in order. -/
def convs : List Piece → List Conv
  | [] => []
  | .char _ :: ps => convs ps
  | .conv k :: ps => k :: convs ps

/-- Decimal digits, after a sign. -/
def decimal (v : ℤ) : List Char :=
  if v < 0 then '-' :: Nat.toDigits 10 v.natAbs else Nat.toDigits 10 v.natAbs

section

variable (print : σ → List Char)

def Arg.chars : Arg σ → List Char
  | .str s => s.elim [] print
  | a => decimal a.number

def Chunk.chars : Chunk σ → List Char
  | .char c => [c]
  | .arg a => a.chars print

/-- The text itself. -/
def chars (t : List (Chunk σ)) : List Char := t.flatMap (Chunk.chars print)

/-- Its length in bytes. -/
def size (t : List (Chunk σ)) : ℕ := ((chars print t).map Char.utf8Size).sum

end

/-- A text without arguments. -/
def literal (cs : List Char) : List (Chunk σ) := cs.map .char

/-- The strings that are put in. -/
def strings (t : List (Chunk σ)) : List σ :=
  t.flatMap fun
    | .arg (.str (some s)) => [s]
    | _ => []

variable {print : σ → List Char}

@[simp] theorem chars_nil : chars print [] = [] := rfl

@[simp] theorem chars_cons (x : Chunk σ) (t : List (Chunk σ)) :
    chars print (x :: t) = x.chars print ++ chars print t := rfl

@[simp] theorem chars_append (t u : List (Chunk σ)) :
    chars print (t ++ u) = chars print t ++ chars print u := List.flatMap_append

@[simp] theorem chars_char (c : Char) : (Chunk.char c : Chunk σ).chars print = [c] := rfl

@[simp] theorem chars_literal (cs : List Char) :
    chars print (literal cs : List (Chunk σ)) = cs := by
  induction cs with
  | nil => rfl
  | cons c cs ih => exact congrArg (c :: ·) ih

@[simp] theorem strings_append (t u : List (Chunk σ)) :
    strings (t ++ u) = strings t ++ strings u := List.flatMap_append

@[simp] theorem strings_char (c : Char) (t : List (Chunk σ)) :
    strings (.char c :: t) = strings t := rfl

@[simp] theorem strings_literal (cs : List Char) : strings (literal cs : List (Chunk σ)) = [] := by
  induction cs with
  | nil => rfl
  | cons c cs ih => exact ih

theorem format_conv_eq_some {k : Conv} {ps : List Piece} {as : List (Arg σ)} {t : List (Chunk σ)}
    (h : format (.conv k :: ps) as = some t) : ∃ a as' t', as = a :: as' ∧ a.Suits k ∧
      format ps as' = some t' ∧ t = .arg a :: t' := by
  rcases as with - | ⟨a, as⟩
  · cases h
  · rw [format] at h
    obtain ⟨hsuits, h⟩ := Option.ite_none_right_eq_some.mp h
    obtain ⟨t', ht', rfl⟩ := Option.map_eq_some_iff.mp h
    exact ⟨a, as, t', rfl, hsuits, ht', rfl⟩

theorem chars_of_suits {a : Arg σ} {k : Conv} (h : a.Suits k) (hk : k ≠ .s) :
    a.chars print = decimal a.number := by
  rcases a with v | v | v | s
  case str => exact absurd h hk
  all_goals rfl

theorem strings_arg_of_suits {a : Arg σ} {k : Conv} (h : a.Suits k) (hk : k ≠ .s)
    (t : List (Chunk σ)) : strings (.arg a :: t) = strings t := by
  rcases a with v | v | v | s
  case str => exact absurd h hk
  all_goals rfl

/-- Arguments of the right types can be printed. -/
theorem format_of_suits : ∀ {ps : List Piece} {as : List (Arg σ)},
    List.Forall₂ Arg.Suits as (convs ps) → ∃ t, format ps as = some t
  | [], _, _ => ⟨[], rfl⟩
  | .char c :: ps, as, h => by
      obtain ⟨t, ht⟩ : ∃ t, format ps as = some t := format_of_suits h
      exact ⟨.char c :: t, by rw [format, ht, Option.map_some]⟩
  | .conv k :: ps, as, h => by
      obtain ⟨a, as, hsuits, has, rfl⟩ := List.forall₂_cons_right_iff.mp h
      obtain ⟨t, ht⟩ := format_of_suits has
      exact ⟨.arg a :: t, by rw [format, if_pos hsuits, ht, Option.map_some]⟩

/-- A format that goes on with a character. -/
theorem format_append_char (c : Char) : ∀ {ps : List Piece} {as : List (Arg σ)}
    {t : List (Chunk σ)}, format (ps ++ [.char c]) as = some t →
    ∃ u, format ps as = some u ∧ t = u ++ [.char c]
  | [], as, t, h => by
      obtain rfl := Option.some.inj h
      exact ⟨[], rfl, rfl⟩
  | .char d :: ps, as, t, h => by
      rw [List.cons_append, format, Option.map_eq_some_iff] at h
      obtain ⟨t', ht', rfl⟩ := h
      obtain ⟨u, hu, rfl⟩ := format_append_char c ht'
      exact ⟨.char d :: u, by rw [format, hu, Option.map_some], rfl⟩
  | .conv k :: ps, as, t, h => by
      obtain ⟨a, as, t', rfl, hsuits, ht', rfl⟩ := format_conv_eq_some h
      obtain ⟨u, hu, rfl⟩ := format_append_char c ht'
      exact ⟨.arg a :: u, by rw [format, if_pos hsuits, hu, Option.map_some], rfl⟩

/-- A format without conversions is printed as it stands. -/
theorem format_map_char (cs : List Char) (as : List (Arg σ)) :
    format (cs.map .char) as = some (literal cs) := by
  induction cs with
  | nil => rfl
  | cons c cs ih => exact congrArg (Option.map (.char c :: ·)) ih

theorem format_map_char_append (cs : List Char) (ps : List Piece) (as : List (Arg σ)) :
    format (cs.map .char ++ ps) as = (format ps as).map (literal cs ++ ·) := by
  induction cs with
  | nil => exact Option.map_id'.symm
  | cons c cs ih =>
      rw [List.map_cons, List.cons_append, format, ih, Option.map_map]
      rfl

theorem format_append_of_format (c : Char) : ∀ {ps : List Piece} {as : List (Arg σ)}
    {t : List (Chunk σ)}, format ps as = some t →
      format (ps ++ [.char c]) as = some (t ++ [.char c])
  | [], as, t, h => by
      obtain rfl := Option.some.inj h
      rfl
  | .char d :: ps, as, t, h => by
      rw [format, Option.map_eq_some_iff] at h
      obtain ⟨t', ht', rfl⟩ := h
      rw [List.cons_append, format, format_append_of_format c ht', Option.map_some]
      rfl
  | .conv k :: ps, as, t, h => by
      obtain ⟨a, as, t', rfl, hsuits, ht', rfl⟩ := format_conv_eq_some h
      rw [List.cons_append, format, if_pos hsuits, format_append_of_format c ht', Option.map_some]
      rfl

@[simp] theorem convs_append : ∀ ps qs : List Piece, convs (ps ++ qs) = convs ps ++ convs qs
  | [], _ => rfl
  | .char _ :: ps, qs => convs_append ps qs
  | .conv k :: ps, qs => congrArg (k :: ·) (convs_append ps qs)

/-! ## Texts of a format -/

/-- The part of a text that a piece stands for. -/
def Prints : Piece → Chunk σ → Prop
  | .char c, .char d => c = d
  | .conv k, .arg a => a.Suits k
  | _, _ => False

/-- The arguments in a text. -/
def args (t : List (Chunk σ)) : List (Arg σ) :=
  t.flatMap fun
    | .arg a => [a]
    | .char _ => []

theorem exists_of_prints_char {c : Char} {ps : List Piece} {t : List (Chunk σ)}
    (h : List.Forall₂ Prints (.char c :: ps) t) :
    ∃ u, t = .char c :: u ∧ List.Forall₂ Prints ps u := by
  obtain ⟨x, u, hx, hu, rfl⟩ := List.forall₂_cons_left_iff.mp h
  cases x with
  | char d =>
      obtain rfl : c = d := hx
      exact ⟨u, rfl, hu⟩
  | arg a => exact hx.elim

theorem exists_of_prints_conv {k : Conv} {ps : List Piece} {t : List (Chunk σ)}
    (h : List.Forall₂ Prints (.conv k :: ps) t) :
    ∃ a u, t = .arg a :: u ∧ a.Suits k ∧ List.Forall₂ Prints ps u := by
  obtain ⟨x, u, hx, hu, rfl⟩ := List.forall₂_cons_left_iff.mp h
  cases x with
  | char d => exact hx.elim
  | arg a => exact ⟨a, u, rfl, hx, hu⟩

/-- A text is printed piece by piece. -/
theorem prints_of_format : ∀ {ps : List Piece} {as : List (Arg σ)} {t : List (Chunk σ)},
    format ps as = some t → List.Forall₂ Prints ps t
  | [], _, _, h => by
      obtain rfl := Option.some.inj h
      exact .nil
  | .char c :: ps, as, t, h => by
      rw [format, Option.map_eq_some_iff] at h
      obtain ⟨t', ht', rfl⟩ := h
      exact .cons rfl (prints_of_format ht')
  | .conv k :: ps, as, t, h => by
      obtain ⟨a, as, t', rfl, hsuits, ht', rfl⟩ := format_conv_eq_some h
      exact .cons hsuits (prints_of_format ht')

theorem format_args {ps : List Piece} {t : List (Chunk σ)} (h : List.Forall₂ Prints ps t) :
    format ps (args t) = some t := by
  induction h with
  | nil => rfl
  | @cons p x ps t hx _ ih =>
      match p, x, hx with
      | .char c, .char _, rfl => exact congrArg (Option.map (.char c :: ·)) ih
      | .conv k, .arg a, hx =>
          show format (.conv k :: ps) (a :: args t) = some (.arg a :: t)
          rw [format, if_pos (show a.Suits k from hx), ih, Option.map_some]

theorem prints_literal (cs : List Char) :
    List.Forall₂ Prints (cs.map .char) (literal cs : List (Chunk σ)) := by
  rw [literal, List.forall₂_map_left_iff, List.forall₂_map_right_iff, List.forall₂_same]
  exact fun _ _ => rfl

/-- How many characters are the format's own. -/
def bulk (t : List (Chunk σ)) : ℕ :=
  t.countP fun
    | .char _ => true
    | .arg _ => false

/-- The piece is a character. -/
def Piece.isChar : Piece → Bool
  | .char _ => true
  | .conv _ => false

theorem bulk_of_prints {ps : List Piece} {t : List (Chunk σ)} (h : List.Forall₂ Prints ps t) :
    bulk t = ps.countP Piece.isChar := by
  induction h with
  | nil => rfl
  | @cons p x ps t hx _ ih =>
      rw [bulk] at ih ⊢
      match p, x, hx with
      | .char _, .char _, _ =>
          rw [List.countP_cons_of_pos rfl, List.countP_cons_of_pos rfl, ih]
      | .conv _, .arg _, _ =>
          rw [List.countP_cons_of_neg Bool.false_ne_true, ih,
            List.countP_cons_of_neg Bool.false_ne_true]

theorem bulk_append (t u : List (Chunk σ)) : bulk (t ++ u) = bulk t + bulk u := List.countP_append

theorem bulk_literal (cs : List Char) : bulk (literal cs : List (Chunk σ)) = cs.length := by
  rw [bulk, literal, List.countP_map]
  exact congrFun List.countP_true cs

theorem size_append (t u : List (Chunk σ)) :
    size print (t ++ u) = size print t + size print u := by
  rw [size, chars_append, List.map_append, List.sum_append]
  rfl

/-- The length depends on those of the strings only. -/
theorem size_congr {print' : σ → List Char}
    (h : ∀ s, ((print s).map Char.utf8Size).sum = ((print' s).map Char.utf8Size).sum) :
    ∀ t : List (Chunk σ), size print t = size print' t
  | [] => rfl
  | x :: t => by
      have hx : size print [x] = size print' [x] := by
        rcases x with c | v | v | v | - | s
        case arg.str.some =>
          rw [size, size, chars_cons, chars_cons, chars_nil, chars_nil, List.append_nil,
            List.append_nil]
          exact h s
        all_goals rfl
      rw [← List.singleton_append, size_append, size_append, hx, size_congr h t]

theorem bulk_le_size : ∀ t : List (Chunk σ), bulk t ≤ size print t
  | [] => Nat.le_refl 0
  | .char c :: t => by
      have ih : bulk t ≤ size print t := bulk_le_size t
      have hsize : size print (.char c :: t) = c.utf8Size + size print t := by
        rw [← List.singleton_append, size_append]
        rfl
      have hbulk : bulk (.char c :: t) = bulk t + 1 := List.countP_cons_of_pos rfl
      have hpos := c.utf8Size_pos
      omega
  | .arg a :: t => by
      have ih : bulk t ≤ size print t := bulk_le_size t
      rw [← List.singleton_append, size_append]
      exact Nat.le_trans ih (Nat.le_add_left _ _)

/-! ## How long a text is -/

theorem size_literal_le : ∀ cs : List Char, size print (literal cs : List (Chunk σ)) ≤ 4 * cs.length
  | [] => Nat.le_refl 0
  | c :: cs => by
      have ih : size print (literal cs : List (Chunk σ)) ≤ _ := size_literal_le cs
      have hchar := c.utf8Size_le_four
      rw [size, chars_literal] at ih ⊢
      rw [List.map_cons, List.sum_cons, List.length_cons]
      omega

/-- The bytes of a character of the format. -/
def Piece.bytes : Piece → ℕ
  | .char c => c.utf8Size
  | .conv _ => 0

theorem size_of_format : ∀ {ps : List Piece} {as : List (Arg σ)} {t : List (Chunk σ)},
    format ps as = some t → List.Forall₂ Arg.Suits as (convs ps) →
      size print t = (ps.map Piece.bytes).sum + (as.map fun a => size print [.arg a]).sum
  | [], _, _, h, has => by
      obtain rfl := Option.some.inj h
      obtain rfl := List.forall₂_nil_right_iff.mp has
      rfl
  | .char c :: ps, as, t, h, has => by
      rw [format, Option.map_eq_some_iff] at h
      obtain ⟨t', ht', rfl⟩ := h
      rw [← List.singleton_append, size_append, size_of_format ht' has, List.map_cons,
        List.sum_cons, Nat.add_assoc]
      rfl
  | .conv k :: ps, as, t, h, has => by
      obtain ⟨a, as, t', rfl, -, ht', rfl⟩ := format_conv_eq_some h
      rw [← List.singleton_append, size_append,
        size_of_format ht' (List.forall₂_cons.mp has).2, List.map_cons, List.map_cons,
        List.sum_cons, List.sum_cons, Piece.bytes]
      omega

/-- The bytes of a string that is put in. -/
def Arg.bytes (print : σ → List Char) : Arg σ → ℕ
  | .str s => ((s.elim [] print).map Char.utf8Size).sum
  | _ => 0

theorem Arg.natAbs_number_lt (a : Arg σ) : a.number.natAbs < 10 ^ 20 := by
  cases a with
  | int v =>
      have hlt := v.toInt_lt
      have hge := v.le_toInt
      show v.toInt.natAbs < _
      omega
  | long v =>
      have hlt := v.toInt_lt
      have hge := v.le_toInt
      show v.toInt.natAbs < _
      omega
  | ulong v =>
      have hlt := v.toNat_lt
      show (v.toNat : ℤ).natAbs < _
      omega
  | str s => exact Nat.pow_pos (by decide)

theorem length_decimal_le {v : ℤ} (h : v.natAbs < 10 ^ 20) : (decimal v).length ≤ 21 := by
  have hdigits := (Nat.length_toDigits_le_iff (by decide) (by decide)).mpr h
  rw [decimal]
  split
  · exact Nat.succ_le_succ hdigits
  · exact Nat.le_succ_of_le hdigits

theorem size_arg_le (a : Arg σ) : size print [.arg a] ≤ 84 + a.bytes print := by
  have hnumber : size print (literal (decimal a.number) : List (Chunk σ)) ≤ 84 :=
    Nat.le_trans (size_literal_le _) (Nat.mul_le_mul_left 4 (length_decimal_le a.natAbs_number_lt))
  cases a with
  | str s =>
      rw [size, chars_cons, chars_nil, List.append_nil]
      exact Nat.le_add_left _ _
  | int v | long v | ulong v =>
      rw [size, chars_literal] at hnumber
      rw [size, chars_cons, chars_nil, List.append_nil]
      exact hnumber

/-- A bound from the format, for a text with these arguments. -/
theorem size_le_of_format : ∀ {ps : List Piece} {as : List (Arg σ)} {t : List (Chunk σ)},
    format ps as = some t →
      size print t ≤ 4 * ps.countP Piece.isChar + 84 * (convs ps).length
        + (as.map (Arg.bytes print)).sum
  | [], _, _, h => by
      obtain rfl := Option.some.inj h
      exact Nat.zero_le _
  | .char c :: ps, as, t, h => by
      rw [format, Option.map_eq_some_iff] at h
      obtain ⟨t', ht', rfl⟩ := h
      have ih : size print t' ≤ _ := size_le_of_format ht'
      have hchar : size print ([.char c] : List (Chunk σ)) ≤ 4 := size_literal_le [c]
      rw [← List.singleton_append, size_append, List.countP_cons_of_pos rfl, convs]
      omega
  | .conv k :: ps, as, t, h => by
      obtain ⟨a, as, t', rfl, -, ht', rfl⟩ := format_conv_eq_some h
      have ih : size print t' ≤ _ := size_le_of_format ht'
      have harg : size print [.arg a] ≤ 84 + a.bytes print := size_arg_le a
      rw [← List.singleton_append, size_append, List.countP_cons_of_neg Bool.false_ne_true, convs,
        List.length_cons, List.map_cons, List.sum_cons]
      omega

end Printf

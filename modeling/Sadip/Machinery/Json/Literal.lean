import Sadip.Machinery.Json.Writing
import Sadip.Machinery.Sql.Literal

/-!
# Machinery/Json/Literal — which JSON texts come back from a statement

A text of bytes stands between quotes as the characters of these bytes (`latin1`).  What the writer
makes of a value is stored as it is exactly if no string in the value has to be escaped, in JSON or
in SQL (`quotable_write_iff`).
-/

namespace Json

open Printf Sql

/-! ## Bytes as characters -/

/-- Each byte as the character with its number, as the server of the database takes them. -/
def latin1 (t : Text) : List Char := t.map fun b => Char.ofNat b.toNat

theorem latin1_append (t u : Text) : latin1 (t ++ u) = latin1 t ++ latin1 u := List.map_append

theorem toNat_latin1 {n : ℕ} (h : n < 256) : (Char.ofNat n).toNat = n := by
  have hvalid : n.isValidChar := .inl (by omega)
  rw [Char.ofNat, dif_pos hvalid]
  rfl

/-- Different bytes are different characters. -/
theorem char_ne {c d : UInt8} (h : c ≠ d) : Char.ofNat c.toNat ≠ Char.ofNat d.toNat := by
  intro heq
  have hnat := congrArg Char.toNat heq
  rw [toNat_latin1 c.toNat_lt, toNat_latin1 d.toNat_lt] at hnat
  exact h (UInt8.toNat_inj.mp hnat)

/-- A character below 128 is one byte, every other one some bytes from 128 on. -/
theorem latin1_utf8EncodeChar (c : Char) : latin1 (String.utf8EncodeChar c) = [c] ∧ c.toNat < 128 ∨
    latin1 (String.utf8EncodeChar c) ≠ [] ∧ 128 ≤ c.toNat ∧
      ∀ d ∈ latin1 (String.utf8EncodeChar c), 128 ≤ d.toNat := by
  by_cases hc : c.toNat < 128
  · left
    have h : String.utf8EncodeChar c = [UInt8.ofNat c.toNat] := if_pos (Nat.le_of_lt_succ hc)
    refine ⟨?_, hc⟩
    rw [h, latin1, List.map_singleton, UInt8.toNat_ofNat', Nat.mod_eq_of_lt (by omega),
      Char.ofNat_toNat]
  · right
    refine ⟨fun h => String.utf8EncodeChar_ne_nil (List.map_eq_nil_iff.mp h), by omega, ?_⟩
    intro d hd
    obtain ⟨b, hb, rfl⟩ := List.mem_map.mp hd
    rw [toNat_latin1 b.toNat_lt]
    exact le_of_mem_utf8EncodeChar (by omega) hb

theorem ne_of_le {c d : Char} (h : 128 ≤ c.toNat) (hd : d.toNat < 128) : c ≠ d := by
  rintro rfl
  omega

/-- A byte beyond ASCII has no meaning in a literal. -/
theorem plain_of_le {c : Char} (h : 128 ≤ c.toNat) : isPlain c = true ∧ c ≠ '\x00' := by
  rw [isPlain, Bool.and_eq_true, bne_iff_ne, bne_iff_ne]
  exact ⟨⟨ne_of_le h (by decide), ne_of_le h (by decide)⟩, ne_of_le h (by decide)⟩

theorem isLiteral_backslash_of_le {c : Char} (h : 128 ≤ c.toNat) (s : List Char) :
    isLiteral ('\\' :: c :: s) = false := by
  rw [isLiteral, beq_false_of_ne (ne_of_le h (by decide)), beq_false_of_ne (ne_of_le h (by decide))]
  rfl

theorem isLiteral_append_of_forall {r : List Char} (h : ∀ c ∈ r, isPlain c = true ∧ c ≠ '\x00')
    (s : List Char) : isLiteral (r ++ s) = isLiteral s := by
  induction r with
  | nil => rfl
  | cons c r ih =>
    obtain ⟨⟨hplain, hnul⟩, hr⟩ := List.forall_mem_cons.mp h
    have hbackslash : c ≠ '\\' := by
      rintro rfl
      cases hplain
    rw [List.cons_append, isLiteral_cons hbackslash, hplain, bne_iff_ne.mpr hnul, ih hr]
    rfl

/-- **Characters are literal** as bytes if they are as characters. -/
theorem isLiteral_utf8 : ∀ s : List Char,
    isLiteral (latin1 (s.flatMap String.utf8EncodeChar)) = isLiteral s
  | [] => rfl
  | c :: s => by
      have hs := isLiteral_utf8 s
      rw [List.flatMap_cons, latin1_append]
      by_cases hc : c = '\\'
      · subst hc
        rcases s with - | ⟨d, s⟩
        · rfl
        have hrest := isLiteral_utf8 s
        rw [List.flatMap_cons, latin1_append]
        show isLiteral ('\\' :: (latin1 (String.utf8EncodeChar d) ++ _)) = _
        rcases latin1_utf8EncodeChar d with ⟨hd, -⟩ | ⟨hne, hlt, hd⟩
        · rw [hd, List.singleton_append, isLiteral, isLiteral, hrest]
        · obtain ⟨e, l, hel⟩ := List.exists_cons_of_ne_nil hne
          rw [isLiteral_backslash_of_le hlt, hel, List.cons_append]
          exact isLiteral_backslash_of_le (hd e (hel ▸ List.mem_cons_self)) _
      rcases latin1_utf8EncodeChar c with ⟨henc, -⟩ | ⟨-, hlt, henc⟩
      · rw [henc, List.singleton_append, isLiteral_cons hc, isLiteral_cons hc, hs]
      · obtain ⟨hplain, hnul⟩ := plain_of_le hlt
        rw [isLiteral_append_of_forall fun d hd => plain_of_le (henc d hd), hs, isLiteral_cons hc,
          hplain, bne_iff_ne.mpr hnul]
        rfl

theorem latin1_flatMap_of_lt : ∀ {s : List Char}, (∀ c ∈ s, c.toNat < 128) →
    latin1 (s.flatMap String.utf8EncodeChar) = s
  | [], _ => rfl
  | c :: s, h => by
      obtain ⟨hc, hs⟩ := List.forall_mem_cons.mp h
      rw [List.flatMap_cons, latin1_append, latin1_flatMap_of_lt hs]
      rcases latin1_utf8EncodeChar c with ⟨henc, -⟩ | ⟨-, hle, -⟩
      · rw [henc]
        rfl
      · omega

/-- A text of ASCII characters is its own bytes. -/
theorem latin1_utf8 {s : String} (h : ∀ c ∈ s.toList, c.toNat < 128) : latin1 (utf8 s) = s.toList :=
  latin1_flatMap_of_lt h

/-- The bytes of a text are counted character by character. -/
theorem length_flatMap_utf8 (s : List Char) :
    (s.flatMap String.utf8EncodeChar).length = (s.map Char.utf8Size).sum := by
  rw [List.length_flatMap]
  exact congrArg List.sum (List.map_congr_left fun c _ => String.length_utf8EncodeChar c)

theorem lt_of_mem_decimal {v : ℤ} {c : Char} (hc : c ∈ Printf.decimal v) : c.toNat < 128 := by
  have hdigit : ∀ c ∈ Nat.toDigits 10 v.natAbs, c.toNat < 128 := by
    intro c hc
    have hdigit : c.isDigit = true := Nat.isDigit_of_mem_toDigits (by omega) (by omega) hc
    obtain ⟨-, hle⟩ := Bool.and_eq_true_iff.mp hdigit
    exact Nat.lt_of_le_of_lt (of_decide_eq_true hle) (by decide)
  rw [Printf.decimal] at hc
  split at hc
  · rcases List.mem_cons.mp hc with rfl | hc
    · decide
    · exact hdigit c hc
  · exact hdigit c hc

/-- A number is written in ASCII. -/
theorem latin1_decimal (v : ℤ) : latin1 (decimal v) = Printf.decimal v := by
  have hchar : ∀ c ∈ Printf.decimal v, Char.ofNat c.toUInt8.toNat = c := by
    intro c hc
    have hlt := lt_of_mem_decimal hc
    have hbyte : c.toUInt8.toNat = c.toNat := Nat.mod_eq_of_lt (Nat.lt_trans hlt (by decide))
    rw [hbyte, Char.ofNat_toNat]
  rw [latin1, decimal, List.map_map]
  exact (List.map_congr_left hchar).trans (List.map_id _)

/-- A text ends at its first null byte, whether it is cut before or after. -/
theorem latin1_takeWhile : ∀ t : Text, latin1 (t.takeWhile (· ≠ 0)) = cut (latin1 t)
  | [] => rfl
  | c :: t => by
      by_cases hc : c = 0
      · subst hc
        rfl
      · have hchar : Char.ofNat c.toNat ≠ '\x00' := char_ne hc
        rw [List.takeWhile_cons, if_pos (decide_eq_true hc), cut]
        show _ = List.takeWhile _ (Char.ofNat c.toNat :: latin1 t)
        rw [List.takeWhile_cons, if_pos (decide_eq_true hchar), ← cut, ← latin1_takeWhile t]
        rfl

theorem ne_zero_of_mem_utf8EncodeChar {c : Char} (hc : c ≠ '\x00') {b : UInt8}
    (hb : b ∈ String.utf8EncodeChar c) : b ≠ 0 := by
  rintro rfl
  have hmem : '\x00' ∈ latin1 (String.utf8EncodeChar c) := List.mem_map_of_mem hb
  rcases latin1_utf8EncodeChar c with ⟨henc, -⟩ | ⟨-, -, henc⟩
  · rw [henc] at hmem
    exact hc (List.mem_singleton.mp hmem).symm
  · exact absurd (henc _ hmem) (by decide)

/-- Only the null character has a null byte. -/
theorem takeWhile_flatMap_utf8 : ∀ s : List Char,
    (s.flatMap String.utf8EncodeChar).takeWhile (· ≠ 0) = (cut s).flatMap String.utf8EncodeChar
  | [] => rfl
  | c :: s => by
      rw [List.flatMap_cons, cut, List.takeWhile_cons]
      by_cases hc : c = '\x00'
      · subst hc
        rfl
      · rw [if_pos (decide_eq_true hc), List.flatMap_cons, List.takeWhile_append_of_pos fun b hb =>
          decide_eq_true (ne_zero_of_mem_utf8EncodeChar hc hb), takeWhile_flatMap_utf8 s, cut]

/-! ## Texts between quotes -/

/-- Between quotes the bytes denote themselves. -/
def Quotable (t : Text) : Prop := isLiteral (latin1 t) = true

instance (t : Text) : Decidable (Quotable t) := inferInstanceAs (Decidable (_ = true))

/-- A byte that is neither a quote nor a backslash nor NUL. -/
def Ordinary (c : UInt8) : Prop := c ≠ '\''.toUInt8 ∧ c ≠ '\\'.toUInt8 ∧ c ≠ 0

instance (c : UInt8) : Decidable (Ordinary c) := inferInstanceAs (Decidable (_ ∧ _ ∧ _))

variable {t u : Text} {c : UInt8}

theorem quotable_cons (hc : Ordinary c) (t : Text) : Quotable (c :: t) ↔ Quotable t := by
  obtain ⟨hquote, hbackslash, hnul⟩ := hc
  have hmark : isPlain (Char.ofNat c.toNat) = true ∧ Char.ofNat c.toNat ≠ '\x00' := by
    rw [isPlain, Bool.and_eq_true, bne_iff_ne, bne_iff_ne]
    exact ⟨⟨char_ne hquote, char_ne hbackslash⟩, char_ne hnul⟩
  rw [Quotable, latin1, List.map_cons, ← List.singleton_append,
    isLiteral_append_of_forall (List.forall_mem_singleton.mpr hmark)]
  rfl

/-- Ordinary bytes can stand between quotes. -/
theorem quotable_of_forall (h : ∀ c ∈ t, Ordinary c) : Quotable t := by
  induction t with
  | nil => rfl
  | cons c t ih =>
    obtain ⟨hc, ht⟩ := List.forall_mem_cons.mp h
    exact (quotable_cons hc t).mpr (ih ht)

/-- What is behind a text does not matter, if it begins with an ordinary byte that a backslash is
not kept for. -/
theorem quotable_append (hu : ∀ c ∈ u.head?, c ≠ '%'.toUInt8 ∧ c ≠ '_'.toUInt8) (t : Text) :
    Quotable (t ++ u) ↔ Quotable t ∧ Quotable u := by
  rw [Quotable, latin1_append, isLiteral_append, Bool.and_eq_true]
  · rfl
  · cases u with
    | nil => nofun
    | cons c u =>
      obtain ⟨hpercent, hunderscore⟩ := hu c rfl
      rintro _ ⟨⟩
      exact ⟨char_ne hpercent, char_ne hunderscore⟩

/-- No byte of the string is written otherwise than it is, by JSON or by SQL. -/
def Bare (s : Text) : Prop := ∀ c ∈ s, Plain c ∧ c ≠ '\''.toUInt8

instance (s : Text) : Decidable (Bare s) := List.decidableBAll _ s

/-- Of the bytes that need no escape only the quote has a meaning. -/
theorem ordinary_of_plain (hc : Json.Plain c) (hquote : c ≠ '\''.toUInt8) : Ordinary c := by
  obtain ⟨-, hbackslash, hcontrol⟩ := hc
  refine ⟨hquote, hbackslash, ?_⟩
  rintro rfl
  exact hcontrol (by decide)

/-- A byte is written as it is, or behind a backslash that is not kept. -/
theorem escape_cases (c : UInt8) : escape c = [c] ∧ Json.Plain c ∨
    ∃ e u, escape c = '\\'.toUInt8 :: e :: u ∧ e ≠ '%'.toUInt8 ∧ e ≠ '_'.toUInt8 ∧
      ¬ Json.Plain c := by
  rw [escape]
  rcases he : shortEscape c with - | e
  · by_cases hlt : c < 0x20
    · simp only [if_pos hlt]
      exact .inr ⟨_, _, rfl, by decide, by decide, fun h => h.2.2 hlt⟩
    · simp only [if_neg hlt]
      refine .inl ⟨trivial, ?_, ?_, hlt⟩
      · rintro rfl
        cases he
      · rintro rfl
        cases he
  · refine .inr ⟨e, [], rfl, ?_⟩
    rw [shortEscape] at he
    split_ifs at he <;> cases he <;> refine ⟨by decide, by decide, ?_⟩
    all_goals
      rename_i hc
      subst hc
      decide

/-- A backslash is no part of what the literal denotes, unless `%` or `_` follows. -/
theorem not_quotable_backslash (hpercent : c ≠ '%'.toUInt8) (hunderscore : c ≠ '_'.toUInt8)
    (t : Text) : ¬ Quotable ('\\'.toUInt8 :: c :: t) := by
  show ¬ isLiteral ('\\' :: Char.ofNat c.toNat :: latin1 t) = true
  have hpercent' : Char.ofNat c.toNat ≠ '%' := char_ne hpercent
  have hunderscore' : Char.ofNat c.toNat ≠ '_' := char_ne hunderscore
  rw [isLiteral, beq_false_of_ne hpercent', beq_false_of_ne hunderscore']
  exact Bool.false_ne_true

/-- **A string keeps its meaning** exactly if it needs no escape and has no quote. -/
theorem quotable_writeString (s : Text) : Quotable (writeString s) ↔ Bare s := by
  have hescape : Quotable (s.flatMap escape ++ ['"'.toUInt8]) ↔ Bare s := by
    induction s with
    | nil => exact iff_of_true rfl nofun
    | cons c s ih =>
      rw [List.flatMap_cons, List.append_assoc, Bare, List.forall_mem_cons]
      rcases escape_cases c with ⟨hc, hplain⟩ | ⟨e, u, hc, hpercent, hunderscore, hplain⟩
      · rw [hc, List.singleton_append]
        by_cases hquote : c = '\''.toUInt8
        · subst hquote
          exact iff_of_false (fun h => Bool.false_ne_true h) fun h => h.1.2 rfl
        · rw [quotable_cons (ordinary_of_plain hplain hquote), ih]
          exact (and_iff_right ⟨hplain, hquote⟩).symm
      · rw [hc]
        exact iff_of_false (not_quotable_backslash hpercent hunderscore _) fun h => hplain h.1.1
  rw [writeString, List.cons_append, quotable_cons (by decide), hescape]

/-- A list does if all its parts do: the commas have no meaning. -/
theorem quotable_commas : ∀ ts : List Text, Quotable (commas ts) ↔ ∀ t ∈ ts, Quotable t
  | [] => iff_of_true rfl nofun
  | t :: ts => by
      rw [commas, List.forall_mem_cons]
      rcases ts with - | ⟨t', ts⟩
      · rw [List.isEmpty_nil, if_pos rfl, List.append_nil]
        exact (and_iff_left nofun).symm
      · rw [List.isEmpty_cons, if_neg Bool.false_ne_true, quotable_append (by rintro c ⟨⟩; decide),
          quotable_cons (by decide), quotable_commas (t' :: ts)]

/-! ## What the writer makes -/

variable {D : Type} {doubles : Doubles D}

mutual

/-- The strings in a value and the names of its members. -/
def Value.texts : Value D → List Text
  | .string s => [s]
  | .array vs => textsOfElements vs
  | .object ms => textsOfMembers ms
  | _ => []

def textsOfElements : List (Value D) → List Text
  | [] => []
  | v :: vs => v.texts ++ textsOfElements vs

def textsOfMembers : List (Text × Value D) → List Text
  | [] => []
  | (k, v) :: ms => k :: v.texts ++ textsOfMembers ms

end

/-- A number of the type `double` is written with digits, signs, a point and an `e`. -/
def Numeric (doubles : Doubles D) : Prop :=
  ∀ d, ∀ c ∈ doubles.dtoa d, isDigit c = true ∨ c ∈ utf8 "+-.e"

/-- What numbers are written with has no meaning either. -/
theorem ordinary_of_numeric (h : isDigit c = true ∨ c ∈ utf8 "+-.e") : Ordinary c := by
  rcases h with h | h
  · have hne : ∀ d : UInt8, isDigit d = false → c ≠ d := by
      rintro d hd rfl
      rw [h] at hd
      cases hd
    exact ⟨hne _ (by decide), hne _ (by decide), hne _ (by decide)⟩
  · have hall : ∀ c ∈ utf8 "+-.e", Ordinary c := List.all_iff_forall_prop.mp (by decide)
    exact hall c h

theorem numeric_of_mem_decimal {v : ℤ} (h : c ∈ decimal v) : isDigit c = true ∨ c ∈ utf8 "+-.e" := by
  rw [decimal, Printf.decimal] at h
  split_ifs at h
  · rcases List.mem_cons.mp h with rfl | h
    · exact .inr (by decide)
    · exact .inl (isDigit_of_mem_natural h)
  · exact .inl (isDigit_of_mem_natural h)

mutual

theorem quotable_write_iff (hdoubles : Numeric doubles) : ∀ v : Value D,
    Quotable (write doubles v) ↔ ∀ s ∈ v.texts, Bare s
  | .null => iff_of_true (by rw [write]; decide) nofun
  | .bool true => iff_of_true (by rw [write]; decide) nofun
  | .bool false => iff_of_true (by rw [write]; decide) nofun
  | .int v => by
      rw [write]
      exact iff_of_true (quotable_of_forall fun c hc =>
        ordinary_of_numeric (numeric_of_mem_decimal hc)) nofun
  | .double d => by
      rw [write]
      exact iff_of_true (quotable_of_forall fun c hc =>
        ordinary_of_numeric (hdoubles d c hc)) nofun
  | .string s => by
      rw [write, Value.texts, List.forall_mem_singleton]
      exact quotable_writeString s
  | .array vs => by
      rw [write, Value.texts, List.cons_append, quotable_cons (by decide),
        quotable_append (by rintro c ⟨⟩; decide), writeElements_eq_commas, quotable_commas,
        List.forall_mem_map, quotable_writeElements hdoubles vs]
      exact and_iff_left rfl
  | .object ms => by
      rw [write, Value.texts, List.cons_append, quotable_cons (by decide),
        quotable_append (by rintro c ⟨⟩; decide), writeMembers_eq_commas, quotable_commas,
        List.forall_mem_map, quotable_writeMembers hdoubles ms]
      exact and_iff_left rfl

/-- The elements, by the same recursion. -/
theorem quotable_writeElements (hdoubles : Numeric doubles) : ∀ vs : List (Value D),
    (∀ v ∈ vs, Quotable (write doubles v)) ↔ ∀ s ∈ textsOfElements vs, Bare s
  | [] => iff_of_true nofun nofun
  | v :: vs => by
      rw [List.forall_mem_cons, textsOfElements, List.forall_mem_append,
        quotable_write_iff hdoubles v, quotable_writeElements hdoubles vs]

theorem quotable_writeMembers (hdoubles : Numeric doubles) : ∀ ms : List (Text × Value D),
    (∀ m ∈ ms, Quotable (writeMember doubles m)) ↔ ∀ s ∈ textsOfMembers ms, Bare s
  | [] => iff_of_true nofun nofun
  | (k, v) :: ms => by
      rw [List.forall_mem_cons, textsOfMembers, List.cons_append, List.forall_mem_cons,
        List.forall_mem_append, writeMember, quotable_append (by rintro c ⟨⟩; decide),
        quotable_cons (by decide), quotable_writeString, quotable_write_iff hdoubles v,
        quotable_writeMembers hdoubles ms, and_assoc]

end

/-- Without numbers of the type `double` nothing need be known of how they are written. -/
theorem quotable_write_of_exact {v : Value D} (h : Exact v) :
    Quotable (write doubles v) ↔ ∀ s ∈ v.texts, Bare s := by
  rw [h.write_eq ⟨fun _ => none, fun _ => []⟩]
  exact quotable_write_iff (fun _ _ h => absurd h List.not_mem_nil) v

theorem visible_of_numeric (h : ∀ c ∈ t, isDigit c = true ∨ c ∈ utf8 "+-.e") : Visible t := by
  have hall : ∀ c ∈ utf8 "+-.e", ¬ c < 0x20 := List.all_iff_forall_prop.mp (by decide)
  exact fun c hc => (h c hc).elim (fun hdigit => (plain_of_isDigit hdigit).2.2) (hall c)

mutual

/-- There are no control characters, also with numbers of the type `double`. -/
theorem visible_write (hdoubles : Numeric doubles) : ∀ v : Value D, Visible (write doubles v)
  | .null => by rw [write]; decide
  | .bool true => by rw [write]; decide
  | .bool false => by rw [write]; decide
  | .int v => by
      rw [write]
      exact visible_of_numeric fun c hc => numeric_of_mem_decimal hc
  | .double d => by
      rw [write]
      exact visible_of_numeric (hdoubles d)
  | .string s => visible_writeString s
  | .array vs => by
      rw [write, writeElements_eq_commas]
      refine Visible.append (Visible.cons (visible_commas ?_) (by decide)) (by decide)
      exact List.forall_mem_map.mpr (visible_writeElements hdoubles vs)
  | .object ms => by
      rw [write, writeMembers_eq_commas]
      refine Visible.append (Visible.cons (visible_commas ?_) (by decide)) (by decide)
      exact List.forall_mem_map.mpr (visible_writeMembers hdoubles ms)

theorem visible_writeElements (hdoubles : Numeric doubles) : ∀ vs : List (Value D),
    ∀ v ∈ vs, Visible (write doubles v)
  | [] => nofun
  | v :: vs => List.forall_mem_cons.mpr ⟨visible_write hdoubles v,
    visible_writeElements hdoubles vs⟩

theorem visible_writeMembers (hdoubles : Numeric doubles) : ∀ ms : List (Text × Value D),
    ∀ m ∈ ms, Visible (writeMember doubles m)
  | [] => nofun
  | (k, v) :: ms => List.forall_mem_cons.mpr
      ⟨(visible_writeString k).append ((visible_write hdoubles v).cons (by decide)),
        visible_writeMembers hdoubles ms⟩

end

/-! ## What the reader makes of letters -/

theorem texts_of_numeral {negative : Bool} {ds frac exp : Text} {v : Value D}
    (h : numeral doubles t negative ds frac exp = some v) : v.texts = [] := by
  simp only [numeral] at h
  generalize (if negative = true then -(ofDigits ds : ℤ) else ofDigits ds) = n at h
  split at h
  · obtain rfl := Option.some.inj h
    rfl
  · obtain ⟨d, -, rfl⟩ := Option.map_eq_some_iff.mp h
    rfl

/-- A number has no strings. -/
theorem texts_of_readNumber {v : Value D} {r : Text} (h : readNumber doubles t = some (v, r)) :
    v.texts = [] := by
  rw [readNumber] at h
  obtain ⟨⟨ds, r₁⟩, -, h⟩ := Option.bind_eq_some_iff.mp h
  obtain ⟨⟨frac, r₂⟩, -, h⟩ := Option.bind_eq_some_iff.mp h
  obtain ⟨⟨exp, r₃⟩, -, h⟩ := Option.bind_eq_some_iff.mp h
  obtain ⟨v', hv, h⟩ := Option.bind_eq_some_iff.mp h
  cases h
  exact texts_of_numeral hv

theorem texts_of_literal {word : Text} {v v' : Value D} {r : Text} (hv : v.texts = [])
    (h : literal word v t = some (v', r)) : v'.texts = [] := by
  rw [literal, Option.ite_none_right_eq_some, Option.some.injEq, Prod.mk.injEq] at h
  exact h.2.1 ▸ hv

/-- **A text that begins otherwise** than a string, an array or an object has no strings. -/
theorem texts_of_value {v : Value D} {r : Text} (hquote : c ≠ '"'.toUInt8)
    (hbracket : c ≠ '['.toUInt8) (hbrace : c ≠ '{'.toUInt8)
    (h : value doubles (c :: t) = some (v, r)) : v.texts = [] := by
  rw [value, List.length_cons, readValue, if_neg hquote, if_neg hbracket, if_neg hbrace] at h
  split_ifs at h
  · exact texts_of_literal rfl h
  · exact texts_of_literal rfl h
  · exact texts_of_literal rfl h
  · exact texts_of_readNumber h

/-- Letters lie between `A` and `z`. -/
theorem range_of_isAlpha {c : Char} (h : c.isAlpha = true) : 65 ≤ c.toNat ∧ c.toNat ≤ 122 := by
  unfold Char.isAlpha Char.isUpper Char.isLower at h
  simp only [Bool.or_eq_true, Bool.and_eq_true, decide_eq_true_eq] at h
  rcases h with ⟨hge, hle⟩ | ⟨hge, hle⟩
  · have hge : 65 ≤ c.toNat := UInt32.le_iff_toNat_le.mp hge
    have hle : c.toNat ≤ 90 := UInt32.le_iff_toNat_le.mp hle
    omega
  · have hge : 97 ≤ c.toNat := UInt32.le_iff_toNat_le.mp hge
    exact ⟨by omega, UInt32.le_iff_toNat_le.mp hle⟩

/-- The byte of a letter. -/
theorem utf8EncodeChar_of_isAlpha {c : Char} (h : c.isAlpha = true) :
    String.utf8EncodeChar c = [UInt8.ofNat c.toNat] ∧
      (∀ d : UInt8, (Char.ofNat d.toNat).isAlpha = false → UInt8.ofNat c.toNat ≠ d) ∧
        ¬ UInt8.ofNat c.toNat < 0x20 := by
  obtain ⟨hge, hle⟩ := range_of_isAlpha h
  have hbyte : (UInt8.ofNat c.toNat).toNat = c.toNat := by
    rw [UInt8.toNat_ofNat', Nat.mod_eq_of_lt (by omega)]
  refine ⟨if_pos (Nat.le_trans hle (by decide)), ?_, ?_⟩
  · rintro d halpha rfl
    rw [hbyte, Char.ofNat_toNat, h] at halpha
    cases halpha
  · rw [UInt8.lt_iff_toNat_lt, hbyte]
    exact Nat.not_lt.mpr (Nat.le_trans (by decide) hge)

/-- Letters have nothing to escape. -/
theorem bare_of_letters {s : List Char} (hs : ∀ c ∈ s, c.isAlpha = true) :
    Bare (s.flatMap String.utf8EncodeChar) := by
  intro b hb
  obtain ⟨c, hc, hb⟩ := List.mem_flatMap.mp hb
  obtain ⟨hbyte, hne, hge⟩ := utf8EncodeChar_of_isAlpha (hs c hc)
  rw [hbyte] at hb
  obtain rfl := List.mem_singleton.mp hb
  exact ⟨⟨hne _ (by decide), hne _ (by decide), hge⟩, hne _ (by decide)⟩

/-- What letters are read as has no strings. -/
theorem texts_of_letters {s : List Char} (hs : ∀ c ∈ s, c.isAlpha = true) {v : Value D}
    (h : parse doubles (s.flatMap String.utf8EncodeChar) = some v) : v.texts = [] := by
  rw [parse] at h
  obtain ⟨⟨v', r⟩, hv, h⟩ := Option.bind_eq_some_iff.mp h
  obtain ⟨-, heq⟩ := Option.ite_none_right_eq_some.mp h
  obtain rfl := Option.some.inj heq
  rcases s with - | ⟨c, s⟩
  · cases hv
  obtain ⟨hbyte, hne, -⟩ := utf8EncodeChar_of_isAlpha (hs c List.mem_cons_self)
  have hspace : isSpace (UInt8.ofNat c.toNat) = false := by
    simp only [isSpace, hne ' '.toUInt8 (by decide), hne 10 (by decide), hne 13 (by decide),
      hne 9 (by decide), decide_false, Bool.or_false]
  rw [List.flatMap_cons, hbyte, List.singleton_append, skipWhitespace_cons hspace] at hv
  exact texts_of_value (hne _ (by decide)) (hne _ (by decide)) (hne _ (by decide)) hv

end Json

import Mathlib.Data.Prod.Basic
import Sadip.Machinery.Json.Reading

/-!
# Machinery/Json/Writing — texts that the reader takes for a given value

`Reads` says when the reader takes a text for a value and stops at its end, whatever follows it
(`Behind`).  It goes through arrays and objects (`reads_array`, `reads_object`), for texts that are
put together with commas in any way.  For what the writer makes of a value there is no condition, if
its integers fit: `parse_write`.
-/

namespace Json

variable {D α β : Type} {cs r s t : Text} {c : UInt8} {doubles : Doubles D}

/-! ## Numbers -/

/-- A number ends here. -/
def Stops (cs : Text) : Prop :=
  ∀ c ∈ cs.head?, isDigit c = false ∧ c ≠ '.'.toUInt8 ∧ c ≠ 'e'.toUInt8 ∧ c ≠ 'E'.toUInt8

/-- A digit is one byte, with the same number. -/
theorem toUInt8_of_isDigit {c : Char} (h : c.isDigit = true) :
    isDigit c.toUInt8 = true ∧ c.toUInt8.toNat = c.toNat := by
  rw [Char.isDigit, Bool.and_eq_true, decide_eq_true_eq, decide_eq_true_eq] at h
  obtain ⟨hge, hle⟩ := h
  have hge : 48 ≤ c.toNat := UInt32.le_iff_toNat_le.mp hge
  have hle : c.toNat ≤ 57 := UInt32.le_iff_toNat_le.mp hle
  have hnat : c.toUInt8.toNat = c.toNat := by
    show c.toNat % 256 = c.toNat
    exact Nat.mod_eq_of_lt (by omega)
  refine ⟨?_, hnat⟩
  rw [isDigit, Bool.and_eq_true, decide_eq_true_eq, decide_eq_true_eq, UInt8.le_iff_toNat_le,
    UInt8.le_iff_toNat_le, hnat]
  exact ⟨hge, hle⟩

/-- Digits are taken as far as they go. -/
theorem digits_append {ds : Text} (hds : ∀ c ∈ ds, isDigit c = true) (hne : ds ≠ [])
    (hr : Stops r) : digits (ds ++ r) = some (ds, r) := by
  have htake : (ds ++ r).takeWhile isDigit = ds := by
    rw [List.takeWhile_append_of_pos hds]
    rcases r with - | ⟨c, r⟩
    · exact List.append_nil ds
    · rw [List.takeWhile_cons_of_neg (by rw [(hr c rfl).1]; decide), List.append_nil]
  have hdrop : (ds ++ r).dropWhile isDigit = r := by
    rw [List.dropWhile_append_of_pos hds]
    rcases r with - | ⟨c, r⟩
    · rfl
    · rw [List.dropWhile_cons_of_neg (by rw [(hr c rfl).1]; decide)]
  rw [digits, htake, hdrop, if_neg (by rwa [List.isEmpty_iff])]

/-- There is no fraction where a number ends. -/
theorem fraction_of_stops (hr : Stops r) : fraction r = some ([], r) := by
  rcases r with - | ⟨c, r⟩
  · rfl
  · rw [fraction, if_neg (hr c rfl).2.1]

/-- There is no exponent either. -/
theorem exponent_of_stops (hr : Stops r) : exponent r = some ([], r) := by
  rcases r with - | ⟨c, r⟩
  · rfl
  · rw [exponent, if_neg (not_or.mpr (hr c rfl).2.2)]

/-- The digits of a natural number. -/
def natural (n : ℕ) : Text := (Nat.toDigits 10 n).map Char.toUInt8

/-- A natural number is written in digits only. -/
theorem isDigit_of_mem_natural {n : ℕ} (hc : c ∈ natural n) : isDigit c = true := by
  obtain ⟨d, hd, rfl⟩ := List.mem_map.mp hc
  exact (toUInt8_of_isDigit (Nat.isDigit_of_mem_toDigits (by decide) (by decide) hd)).1

theorem ofDigits_map : ∀ {cs : List Char}, (∀ c ∈ cs, c.isDigit = true) → ∀ n : ℕ,
    (cs.map Char.toUInt8).foldl (fun n c => 10 * n + (c.toNat - '0'.toNat)) n =
      Nat.ofDigitChars 10 cs n
  | [], _, _ => rfl
  | c :: cs, h, n => by
      obtain ⟨hc, hcs⟩ := List.forall_mem_cons.mp h
      rw [List.map_cons, List.foldl_cons, (toUInt8_of_isDigit hc).2, ofDigits_map hcs]
      rfl

/-- The digits are read back as the number. -/
theorem ofDigits_natural (n : ℕ) : ofDigits (natural n) = n :=
  (ofDigits_map (fun _ => Nat.isDigit_of_mem_toDigits (by decide) (by decide)) 0).trans
    Nat.ofDigitChars_ten_toDigits

/-- Only zero begins with a zero. -/
theorem natural_cases : ∀ n : ℕ, n = 0 ∧ natural n = ['0'.toUInt8] ∨
    ∃ c ds, natural n = c :: ds ∧ c ≠ '0'.toUInt8 := by
  intro n
  induction n using Nat.strongRecOn with
  | ind n ih =>
    rcases Nat.lt_or_ge n 10 with hlt | hge
    · have hdigit : ∀ n < 10, n = 0 ∨ (Nat.digitChar n).toUInt8 ≠ '0'.toUInt8 := by decide
      rw [natural, Nat.toDigits_of_lt_base hlt]
      rcases hdigit n hlt with rfl | hne
      · exact .inl ⟨rfl, rfl⟩
      · exact .inr ⟨_, [], rfl, hne⟩
    · rcases ih (n / 10) (by omega) with ⟨hzero, -⟩ | ⟨c, ds, hn, hc⟩
      · omega
      · refine .inr ⟨c, ds ++ [(Nat.digitChar (n % 10)).toUInt8], ?_, hc⟩
        rw [natural, Nat.toDigits_of_base_le (by decide) hge, List.map_append, ← natural, hn]
        rfl

/-- A natural number is read to its last digit. -/
theorem integral_natural (n : ℕ) (hr : Stops r) :
    integral (natural n ++ r) = some (natural n, r) := by
  rcases natural_cases n with ⟨rfl, hn⟩ | ⟨c, ds, hn, hc⟩
  · rw [hn]
    rfl
  · have hdigits := digits_append (r := r) (fun c => isDigit_of_mem_natural (n := n))
      (by rw [hn]; exact List.cons_ne_nil c ds) hr
    rw [hn, List.cons_append] at hdigits ⊢
    rw [integral, if_neg hc, hdigits]

/-- **An integer is read as itself**, if it fits into 64 bits; another becomes a `double` and is not
this value. -/
theorem readNumber_decimal (v : ℤ) (hr : Stops r) :
    readNumber doubles (decimal v ++ r) = some (.int v, t) ↔ Fits v ∧ t = r := by
  have hminus : minus (decimal v ++ r) = (decide (v < 0), natural v.natAbs ++ r) := by
    rw [decimal, Printf.decimal]
    split_ifs with hv
    · rw [decide_eq_true hv, List.map_cons, List.cons_append, minus, if_pos (by decide)]
      rfl
    · rw [decide_eq_false hv]
      rcases natural_cases v.natAbs with ⟨hzero, hn⟩ | ⟨c, ds, hn, hc⟩
      · rw [hzero]
        rfl
      · have hdigit := isDigit_of_mem_natural (hn ▸ List.mem_cons_self : c ∈ natural v.natAbs)
        rw [← natural, hn, List.cons_append, minus, if_neg ?_]
        rintro rfl
        cases hdigit
  have hv : (if decide (v < 0) = true then -(v.natAbs : ℤ) else v.natAbs) = v := by
    simp only [decide_eq_true_eq]
    split_ifs <;> omega
  rw [readNumber, hminus]
  simp only [integral_natural _ hr, fraction_of_stops hr, exponent_of_stops hr, numeral,
    ofDigits_natural, hv, Option.bind_eq_bind, Option.bind_some, List.isEmpty_nil, true_and]
  split_ifs with hfits
  · simp [hfits, eq_comm]
  · simp only [hfits, false_and, iff_false, Option.bind_eq_some_iff, Option.map_eq_some_iff]
    rintro ⟨-, ⟨d, -, rfl⟩, h⟩
    cases h

/-! ## Strings -/

/-- The letter behind a backslash leads back to the byte. -/
theorem unescape_of_shortEscape {e : UInt8} (h : shortEscape c = some e) :
    e ≠ 'u'.toUInt8 ∧ unescape e = some c := by
  rw [shortEscape] at h
  split_ifs at h <;> cases h <;> subst c <;> decide

/-- What a byte is written as is one letter of a string, and stands for it. -/
theorem letter_escape (c : UInt8) : Letter (escape c) [c] := by
  have hcontrol : ∀ n < 32, hex4 '0'.toUInt8 '0'.toUInt8 (hexDigit (UInt8.ofNat n / 16))
      (hexDigit (UInt8.ofNat n % 16)) = some n ∧ encode n = [UInt8.ofNat n] := by decide
  have hc : UInt8.ofNat c.toNat = c := UInt8.ofNat_toNat
  rw [escape]
  rcases he : shortEscape c with - | e
  · by_cases hlt : c < 0x20
    · obtain ⟨hhex, hcode⟩ := hcontrol c.toNat (UInt8.lt_iff_toNat_lt.mp hlt)
      rw [hc] at hhex hcode
      simp only [if_pos hlt]
      rw [← hcode]
      exact .unicode hhex (.inl (Nat.lt_trans (UInt8.lt_iff_toNat_lt.mp hlt) (by decide)))
    · simp only [if_neg hlt]
      refine .plain ⟨?_, ?_, hlt⟩
      · rintro rfl
        cases he
      · rintro rfl
        cases he
  · obtain ⟨hu, hd⟩ := unescape_of_shortEscape he
    exact .short hu hd

/-- **What the writer makes of a string is read as that string.** -/
theorem readString_escape : ∀ s r : Text,
    readString (s.flatMap escape ++ '"'.toUInt8 :: r) = some (s, r)
  | [], r => readString_quote r
  | c :: s, r => by
      rw [List.flatMap_cons, List.append_assoc, (letter_escape c).readString, readString_escape s r]
      rfl

/-! ## What may follow -/

/-- No string that ends in a backslash can be read here. -/
def Clean (cs : Text) : Prop := ∀ t r, readString cs = some (t, r) → t.getLast? ≠ some '\\'.toUInt8

theorem clean_nil : Clean [] := fun _ _ h => nomatch h

/-- Behind the next quote nothing matters. -/
theorem clean_quote (cs : Text) : Clean ('"'.toUInt8 :: cs) := fun t r h => by
  rw [readString_quote] at h
  cases h
  exact fun h => nomatch h

/-- A byte that stands for itself changes nothing. -/
theorem Clean.cons (h : Clean cs) (hc : Plain c) : Clean (c :: cs) := fun t r hread => by
  rw [← List.singleton_append, (Letter.plain hc).readString] at hread
  obtain ⟨⟨t', r'⟩, ht, heq⟩ := Option.map_eq_some_iff.mp hread
  cases heq
  have := h t' _ ht
  show ([c] ++ t').getLast? ≠ _
  rw [List.getLast?_append]
  rcases hlast : t'.getLast? with - | d
  · exact fun heq => hc.2.1 (Option.some.inj heq)
  · rwa [hlast] at this

theorem Clean.append (h : Clean cs) : ∀ {s : Text}, (∀ c ∈ s, Plain c) → Clean (s ++ cs)
  | [], _ => h
  | _ :: _, hs => (h.append (List.forall_mem_cons.mp hs).2).cons (List.forall_mem_cons.mp hs).1

/-- A value ends here. -/
structure Behind (cs : Text) : Prop where
  stops : Stops cs
  clean : Clean cs

/-- A value may stand at the end of the text. -/
theorem behind_nil : Behind [] := ⟨fun _ h => (nomatch h), clean_nil⟩

/-- The bytes that come behind values. -/
def Separates (c : UInt8) : Prop := c = ','.toUInt8 ∨ c = ']'.toUInt8 ∨ c = '}'.toUInt8

theorem Separates.plain (hc : Separates c) : Plain c := by
  rcases hc with rfl | rfl | rfl <;> decide

/-- A value ends before a comma or a closing bracket. -/
theorem Separates.behind (hc : Separates c) (h : Clean cs) : Behind (c :: cs) := by
  refine ⟨?_, h.cons hc.plain⟩
  rintro d ⟨⟩
  rcases hc with rfl | rfl | rfl <;> decide

/-- **The reader takes the text for `a`** if and only if `ok`. -/
structure Reads (item : Text → Option (α × Text)) (text : Text) (a : α) (ok : Prop) : Prop where
  begins : ∃ c cs, text = c :: cs ∧ isSpace c = false ∧ ¬ Separates c
  clean : ∀ r, Clean r → Clean (text ++ r)
  read : ∀ r, Behind r → ∀ t, item (text ++ r) = some (a, t) ↔ ok ∧ t = r

theorem map_eq_some_iff {f : α → β} (hf : Function.Injective f) {x : Option (α × Text)} {a : α} :
    x.map (Prod.map f id) = some (f a, t) ↔ x = some (a, t) :=
  (Option.map_injective (hf.prodMap Function.injective_id)).eq_iff (b := some (a, t))

/-- **A string between two quotes, as it is,** is read as itself exactly if its bytes need no
escape. -/
theorem reads_raw (s : Text) : Reads (value doubles) ('"'.toUInt8 :: s ++ ['"'.toUInt8]) (.string s)
    (∀ c ∈ s, Plain c) where
  begins := ⟨_, _, rfl, by decide, by rw [Separates]; decide⟩
  clean r _ := clean_quote _
  read r hr t := by
    rw [List.cons_append, List.cons_append, List.append_assoc, List.singleton_append, value_quote,
      map_eq_some_iff fun _ _ => Value.string.inj]
    exact readString_raw hr.clean

/-- With escapes it is always read. -/
theorem reads_string (s : Text) : Reads (value doubles) (writeString s) (.string s) True where
  begins := ⟨_, _, rfl, by decide, by rw [Separates]; decide⟩
  clean r _ := clean_quote _
  read r hr t := by
    rw [writeString, List.cons_append, List.cons_append, List.append_assoc, List.singleton_append,
      value_quote, map_eq_some_iff fun _ _ => Value.string.inj, readString_escape]
    simp [eq_comm]

/-- A digit stands for itself in a string. -/
theorem plain_of_isDigit (h : isDigit c = true) : Plain c := by
  rw [isDigit, Bool.and_eq_true, decide_eq_true_eq, decide_eq_true_eq, UInt8.le_iff_toNat_le,
    UInt8.le_iff_toNat_le] at h
  refine ⟨?_, ?_, ?_⟩
  · rintro rfl
    exact absurd h.1 (by decide)
  · rintro rfl
    exact absurd h.2 (by decide)
  · rw [UInt8.lt_iff_toNat_lt]
    exact Nat.not_lt.mpr (Nat.le_trans (by decide) h.1)

/-- A number begins with a digit or a minus, and goes on with digits. -/
theorem decimal_cases (v : ℤ) :
    ∃ c ds, decimal v = c :: ds ∧ opensNumber c = true ∧ ∀ d ∈ decimal v, Plain d := by
  have hdigits : ∀ d ∈ natural v.natAbs, Plain d := fun d hd =>
    plain_of_isDigit (isDigit_of_mem_natural hd)
  rw [decimal, Printf.decimal]
  split_ifs
  · refine ⟨_, _, rfl, by decide, List.forall_mem_cons.mpr ⟨by decide, hdigits⟩⟩
  · obtain ⟨c, ds, hn⟩ := List.exists_cons_of_ne_nil
      (l := natural v.natAbs) fun h => Nat.toDigits_ne_nil (List.map_eq_nil_iff.mp h)
    refine ⟨c, ds, hn, ?_, hdigits⟩
    rw [opensNumber, isDigit_of_mem_natural (hn ▸ List.mem_cons_self : c ∈ natural v.natAbs),
      Bool.or_true]

/-- An integer is read if it fits. -/
theorem reads_int (v : ℤ) : Reads (value doubles) (decimal v) (.int v) (Fits v) := by
  obtain ⟨c, ds, hv, hc, hplain⟩ := decimal_cases v
  have hne : ∀ d : UInt8, opensNumber d = false → c ≠ d := fun d hd heq => by
    rw [heq, hd] at hc
    cases hc
  refine ⟨⟨c, ds, hv, ?_, ?_⟩, fun r hr => hr.append hplain, fun r hr t => ?_⟩
  · simp only [isSpace, hne ' '.toUInt8 (by decide), hne 10 (by decide), hne 13 (by decide),
      hne 9 (by decide), decide_false, Bool.or_false]
  · rintro (h | h | h)
    · exact hne _ (by decide) h
    · exact hne _ (by decide) h
    · exact hne _ (by decide) h
  · rw [hv, List.cons_append, value_number hc, ← List.cons_append, ← hv,
      readNumber_decimal v hr.stops]

/-- A word is taken where it stands. -/
theorem literal_append (word : Text) (a : α) (r : Text) :
    literal word a (word ++ r) = some (a, r) := by
  rw [literal, if_pos (List.isPrefixOf_iff_prefix.mpr (List.prefix_append word r)), List.drop_left]

theorem value_null (r : Text) : value doubles (utf8 "null" ++ r) = some (.null, r) := by
  obtain ⟨cs, hcs⟩ : ∃ cs, utf8 "null" = 'n'.toUInt8 :: cs := ⟨_, rfl⟩
  rw [value, hcs, List.cons_append, List.length_cons, readValue, if_pos rfl, ← List.cons_append,
    ← hcs, literal_append]

theorem value_true (r : Text) : value doubles (utf8 "true" ++ r) = some (.bool true, r) := by
  obtain ⟨cs, hcs⟩ : ∃ cs, utf8 "true" = 't'.toUInt8 :: cs := ⟨_, rfl⟩
  rw [value, hcs, List.cons_append, List.length_cons, readValue, if_neg (by decide), if_pos rfl,
    ← List.cons_append, ← hcs, literal_append]

theorem value_false (r : Text) : value doubles (utf8 "false" ++ r) = some (.bool false, r) := by
  obtain ⟨cs, hcs⟩ : ∃ cs, utf8 "false" = 'f'.toUInt8 :: cs := ⟨_, rfl⟩
  rw [value, hcs, List.cons_append, List.length_cons, readValue, if_neg (by decide),
    if_neg (by decide), if_pos rfl, ← List.cons_append, ← hcs, literal_append]

/-- A word that is always read as the same value. -/
theorem reads_word {word : Text} {v : Value D}
    (hbegins : ∃ c cs, word = c :: cs ∧ isSpace c = false ∧ ¬ Separates c)
    (hplain : word.all (Plain ·) = true) (h : ∀ r, value doubles (word ++ r) = some (v, r)) :
    Reads (value doubles) word v True where
  begins := hbegins
  clean _ hr := hr.append fun c hc => of_decide_eq_true (List.all_eq_true.mp hplain c hc)
  read r _ t := by
    rw [h]
    simp [eq_comm]

theorem reads_null : Reads (value doubles) (utf8 "null") .null True :=
  reads_word ⟨_, _, rfl, by decide, by rw [Separates]; decide⟩ rfl value_null

theorem reads_true : Reads (value doubles) (utf8 "true") (.bool true) True :=
  reads_word ⟨_, _, rfl, by decide, by rw [Separates]; decide⟩ rfl value_true

theorem reads_false : Reads (value doubles) (utf8 "false") (.bool false) True :=
  reads_word ⟨_, _, rfl, by decide, by rw [Separates]; decide⟩ rfl value_false

/-! ## Arrays and objects -/

/-- Only blanks are skipped. -/
theorem skipWhitespace_cons (hc : isSpace c = false) (cs : Text) :
    skipWhitespace (c :: cs) = c :: cs :=
  List.dropWhile_cons_of_neg (by rw [hc]; decide)

theorem Separates.skipWhitespace (hc : Separates c) (cs : Text) :
    skipWhitespace (c :: cs) = c :: cs := by
  refine skipWhitespace_cons ?_ cs
  rcases hc with rfl | rfl | rfl <;> rfl

variable {item : Text → Option (α × Text)} {text : Text} {a : α} {ok : Prop}

/-- A text that is read does not begin with a blank. -/
theorem Reads.skipWhitespace (h : Reads item text a ok) (r : Text) :
    skipWhitespace (text ++ r) = text ++ r := by
  obtain ⟨c, cs, rfl, hc, -⟩ := h.begins
  exact skipWhitespace_cons hc (cs ++ r)

/-- A name and a value with a colon between them are read as a member. -/
theorem Reads.member (h : Reads item text a ok) (k : Text) :
    Reads (member item) (writeString k ++ ':'.toUInt8 :: text) (k, a) ok where
  begins := ⟨_, _, rfl, by decide, by rw [Separates]; decide⟩
  clean r _ := clean_quote _
  read r hr t := by
    have hk := readString_escape k (':'.toUInt8 :: (text ++ r))
    simp only [writeString, List.cons_append, List.append_assoc, List.nil_append, Json.member,
      if_true, hk, Option.bind_eq_bind, Option.bind_some]
    rw [skipWhitespace_cons (by decide)]
    simp only [if_true, h.skipWhitespace, ← h.read r hr t]
    simp [Option.map_eq_some_iff]

/-- The texts with commas between them. -/
def commas : List Text → Text
  | [] => []
  | t :: ts => t ++ if ts.isEmpty then [] else ','.toUInt8 :: commas ts

/-- The text with a comma behind each item but the last. -/
theorem commas_concat (t : Text) :
    ∀ ts : List Text, commas (ts ++ [t]) = ts.flatMap (· ++ [','.toUInt8]) ++ t
  | [] => List.append_nil t
  | t' :: ts => by
      have hne : ts ++ [t] ≠ [] := List.append_ne_nil_of_right_ne_nil ts (List.cons_ne_nil t [])
      rw [List.cons_append, commas, commas_concat t ts, List.flatMap_cons,
        if_neg (by rw [List.isEmpty_iff]; exact hne)]
      simp only [List.append_assoc, List.cons_append, List.nil_append]

variable {text : β → Text} {a : β → α} {ok : β → Prop} {bs : List β} {close : UInt8}

theorem commas_cons_append (b : β) (bs : List β) (r : Text) :
    commas ((b :: bs).map text) ++ r =
      text b ++ if bs = [] then r else ','.toUInt8 :: (commas (bs.map text) ++ r) := by
  rw [List.map_cons, commas, List.append_assoc]
  rcases bs with - | ⟨b', bs⟩ <;> simp

/-- No item of a list leaves a string open. -/
theorem clean_commas (hc : Clean cs) : ∀ bs : List β,
    (∀ b ∈ bs, Reads item (text b) (a b) (ok b)) → Clean (commas (bs.map text) ++ cs)
  | [], _ => hc
  | b :: bs, h => by
      obtain ⟨hb, hbs⟩ := List.forall_mem_cons.mp h
      rw [commas_cons_append]
      refine hb.clean _ ?_
      split_ifs
      · exact hc
      · exact (clean_commas hc bs hbs).cons (by decide)

/-- What follows an item. -/
def afterItem (item : Text → Option (α × Text)) (close : UInt8) (n : ℕ) (x : α) (cs : Text) :
    Option (List α × Text) :=
  match skipWhitespace cs with
  | [] => none
  | c :: cs =>
    if c = ','.toUInt8 then (items item close n (skipWhitespace cs)).map (Prod.map (x :: ·) id)
    else if c = close then some ([x], cs)
    else none

/-- The first item stays the first. -/
theorem head_of_afterItem {n : ℕ} {x : α} {as : List α}
    (h : afterItem item close n x cs = some (as, t)) : as.head? = some x := by
  rw [afterItem] at h
  split at h
  · cases h
  split_ifs at h
  · obtain ⟨⟨as', t'⟩, -, heq⟩ := Option.map_eq_some_iff.mp h
    cases heq
    rfl
  · cases h
    rfl

/-- An item is read, and then what follows it. -/
theorem items_succ (n : ℕ) (x : α) (as : List α) :
    items item close (n + 1) cs = some (x :: as, t) ↔
      ∃ r, item cs = some (x, r) ∧ afterItem item close n x r = some (x :: as, t) := by
  rw [items]
  constructor
  · intro h
    obtain ⟨⟨y, r⟩, hy, h⟩ := Option.bind_eq_some_iff.mp h
    obtain rfl : x = y := Option.some.inj (head_of_afterItem (x := y) h)
    exact ⟨r, hy, h⟩
  · rintro ⟨r, hx, h⟩
    exact Option.bind_eq_some_iff.mpr ⟨(x, r), hx, h⟩

theorem Reads.items_succ {text : Text} {x : α} {ok : Prop} (h : Reads item text x ok)
    (hr : Behind r) (n : ℕ) (as : List α) :
    items item close (n + 1) (text ++ r) = some (x :: as, t) ↔
      ok ∧ afterItem item close n x r = some (x :: as, t) := by
  rw [Json.items_succ]
  constructor
  · rintro ⟨r', hx, hafter⟩
    obtain ⟨hok, rfl⟩ := (h.read r hr r').mp hx
    exact ⟨hok, hafter⟩
  · rintro ⟨hok, hafter⟩
    exact ⟨r, (h.read r hr r).mpr ⟨hok, rfl⟩, hafter⟩

/-- **One item after the other.** -/
theorem items_iff (hclose : Separates close) (hcomma : close ≠ ','.toUInt8) (hr : Clean r) :
    ∀ (b : β) (bs : List β) (n : ℕ), bs.length < n →
      (∀ b' ∈ b :: bs, Reads item (text b') (a b') (ok b')) →
      (items item close n (commas ((b :: bs).map text) ++ close :: r) = some ((b :: bs).map a, t) ↔
        (∀ b' ∈ b :: bs, ok b') ∧ t = r) := by
  intro b bs
  induction bs generalizing b with
  | nil =>
    intro n hn h
    obtain ⟨n, rfl⟩ := Nat.exists_eq_add_one_of_ne_zero (Nat.ne_zero_of_lt hn)
    have hafter : afterItem item close n (a b) (close :: r) = some ([a b], r) := by
      rw [afterItem, hclose.skipWhitespace]
      simp only [if_neg hcomma, if_true]
    rw [commas_cons_append, if_pos rfl, List.map_cons, List.map_nil,
      (h b List.mem_cons_self).items_succ (hclose.behind hr), hafter]
    simp [eq_comm]
  | cons b' bs ih =>
    intro n hn h
    obtain ⟨n, rfl⟩ := Nat.exists_eq_add_one_of_ne_zero (Nat.ne_zero_of_lt hn)
    obtain ⟨hb, hbs⟩ := List.forall_mem_cons.mp h
    have hcomma : Separates ','.toUInt8 := .inl rfl
    have hclean := clean_commas (hr.cons hclose.plain) (b' :: bs) hbs
    have hskip : skipWhitespace (commas ((b' :: bs).map text) ++ close :: r) =
        commas ((b' :: bs).map text) ++ close :: r := by
      rw [commas_cons_append]
      exact (hbs b' List.mem_cons_self).skipWhitespace _
    have hafter : afterItem item close n (a b)
        (','.toUInt8 :: (commas ((b' :: bs).map text) ++ close :: r)) =
          some (a b :: (b' :: bs).map a, t) ↔ (∀ d ∈ b' :: bs, ok d) ∧ t = r := by
      rw [afterItem, hcomma.skipWhitespace]
      simp only [if_true, hskip]
      refine Iff.trans ?_ (ih b' n (Nat.lt_of_succ_lt_succ hn) hbs)
      simp [Option.map_eq_some_iff]
    rw [commas_cons_append, if_neg (List.cons_ne_nil b' bs),
      show (b :: b' :: bs).map a = a b :: (b' :: bs).map a from rfl,
      hb.items_succ (hcomma.behind hclean), hafter, ← and_assoc, List.forall_mem_cons (a := b)]

/-- Each item takes a byte at least, so the bound of the reader is high enough. -/
theorem length_le_commas : ∀ bs : List β, (∀ b ∈ bs, Reads item (text b) (a b) (ok b)) →
    bs.length ≤ (commas (bs.map text)).length
  | [], _ => Nat.zero_le _
  | b :: bs, h => by
      obtain ⟨hb, hbs⟩ := List.forall_mem_cons.mp h
      obtain ⟨c, cs, hc, -⟩ := hb.begins
      have hle := length_le_commas bs hbs
      rw [List.map_cons, commas, hc, List.length_append, List.length_cons, List.length_cons]
      rcases bs with - | ⟨b', bs⟩
      · simp
      · simp only [List.map_cons, List.isEmpty_cons, Bool.false_eq_true, if_false, List.length_cons]
          at hle ⊢
        omega

/-- **What stands between the brackets**, be it nothing. -/
theorem bracketed_iff (hclose : Separates close) (hcomma : close ≠ ','.toUInt8) (hr : Clean r)
    (h : ∀ b ∈ bs, Reads item (text b) (a b) (ok b)) :
    bracketed item close (commas (bs.map text) ++ close :: r).length
        (commas (bs.map text) ++ close :: r) = some (bs.map a, t) ↔
      (∀ b ∈ bs, ok b) ∧ t = r := by
  rw [bracketed]
  rcases bs with - | ⟨b, bs⟩
  · rw [List.map_nil, commas, List.nil_append, hclose.skipWhitespace]
    simp [eq_comm]
  · obtain ⟨c, cs, hc, hspace, hsep⟩ := (h b List.mem_cons_self).begins
    obtain ⟨cs', hcs'⟩ : ∃ cs', commas ((b :: bs).map text) ++ close :: r = c :: cs' := by
      rw [commas_cons_append, hc]
      exact ⟨_, rfl⟩
    have hlen : bs.length < (commas ((b :: bs).map text) ++ close :: r).length := by
      have := length_le_commas (b :: bs) h
      rw [List.length_append]
      exact Nat.lt_of_lt_of_le this (Nat.le_add_right _ _)
    have hitems := items_iff (t := t) hclose hcomma hr b bs _ hlen h
    rw [hcs'] at hitems ⊢
    rw [skipWhitespace_cons hspace]
    simp only [if_neg fun heq : c = close => hsep (heq ▸ hclose)]
    exact hitems

/-- An array of texts that are read is read. -/
theorem reads_array {text : β → Text} {a : β → Value D}
    (h : ∀ b ∈ bs, Reads (value doubles) (text b) (a b) (ok b)) :
    Reads (value doubles) ('['.toUInt8 :: commas (bs.map text) ++ [']'.toUInt8])
      (.array (bs.map a)) (∀ b ∈ bs, ok b) where
  begins := ⟨_, _, rfl, by decide, by rw [Separates]; decide⟩
  clean r hr := by
    rw [List.cons_append, List.cons_append, List.append_assoc]
    exact (clean_commas (hr.cons (by decide)) bs h).cons (by decide)
  read r hr t := by
    rw [List.cons_append, List.cons_append, List.append_assoc, List.singleton_append, value_bracket,
      map_eq_some_iff fun _ _ => Value.array.inj]
    exact bracketed_iff (.inr (.inl rfl)) (by decide) hr.clean h

/-- So is an object. -/
theorem reads_object {text : β → Text} {a : β → Text × Value D}
    (h : ∀ b ∈ bs, Reads (member (value doubles)) (text b) (a b) (ok b)) :
    Reads (value doubles) ('{'.toUInt8 :: commas (bs.map text) ++ ['}'.toUInt8])
      (.object (bs.map a)) (∀ b ∈ bs, ok b) where
  begins := ⟨_, _, rfl, by decide, by rw [Separates]; decide⟩
  clean r hr := by
    rw [List.cons_append, List.cons_append, List.append_assoc]
    exact (clean_commas (hr.cons (by decide)) bs h).cons (by decide)
  read r hr t := by
    rw [List.cons_append, List.cons_append, List.append_assoc, List.singleton_append, value_brace,
      map_eq_some_iff fun _ _ => Value.object.inj]
    exact bracketed_iff (.inr (.inr rfl)) (by decide) hr.clean h

/-! ## What the writer makes -/

/-- A value whose numbers are integers that fit. -/
inductive Exact : Value D → Prop
  | null : Exact .null
  | bool (b : Bool) : Exact (.bool b)
  | int {v : ℤ} (h : Fits v) : Exact (.int v)
  | string (s : Text) : Exact (.string s)
  | array {vs : List (Value D)} (h : ∀ v ∈ vs, Exact v) : Exact (.array vs)
  | object {ms : List (Text × Value D)} (h : ∀ m ∈ ms, Exact m.2) : Exact (.object ms)

theorem writeElements_eq_commas : ∀ vs : List (Value D),
    writeElements doubles vs = commas (vs.map (write doubles))
  | [] => rfl
  | v :: vs => by
      rw [writeElements, writeElements_eq_commas vs, List.map_cons, commas, List.isEmpty_map]

/-- The text of a member. -/
def writeMember (doubles : Doubles D) (m : Text × Value D) : Text :=
  writeString m.1 ++ ':'.toUInt8 :: write doubles m.2

theorem writeMembers_eq_commas : ∀ ms : List (Text × Value D),
    writeMembers doubles ms = commas (ms.map (writeMember doubles))
  | [] => rfl
  | (k, v) :: ms => by
      rw [writeMembers, writeMembers_eq_commas ms, List.map_cons, commas, List.isEmpty_map,
        writeMember]

/-- It is written without numbers of the type `double`. -/
theorem Exact.write_eq {v : Value D} (h : Exact v) (doubles' : Doubles D) :
    write doubles v = write doubles' v := by
  induction h with
  | null => rw [write, write]
  | bool b => cases b <;> rw [write, write]
  | int => rw [write, write]
  | string s => rw [write, write]
  | array _ ih =>
      rw [write, write, writeElements_eq_commas, writeElements_eq_commas, List.map_congr_left ih]
  | object _ ih =>
      rw [write, write, writeMembers_eq_commas, writeMembers_eq_commas]
      refine congrArg (fun ts => _ :: commas ts ++ _) (List.map_congr_left fun m hm => ?_)
      rw [writeMember, writeMember, ih m hm]

/-- By induction on the value: the parts are read, and so are they with commas between them. -/
theorem Exact.reads {v : Value D} (h : Exact v) :
    Reads (value doubles) (write doubles v) v True := by
  have htrue : ∀ {text : Text} {v : Value D} {ok : Prop}, ok →
      Reads (value doubles) text v ok → Reads (value doubles) text v True := by
    intro text v ok hok h
    exact ⟨h.begins, h.clean, fun r hr t => by rw [h.read r hr t]; simp [hok]⟩
  induction h with
  | null => exact reads_null
  | bool b =>
      cases b
      · exact reads_false
      · exact reads_true
  | @int v h => exact htrue h (reads_int v)
  | string s => exact reads_string s
  | @array vs h ih =>
      have harray : Reads (value doubles) _ (.array (vs.map id)) (∀ v ∈ vs, True) := reads_array ih
      rw [List.map_id] at harray
      rw [write, writeElements_eq_commas]
      exact htrue (fun _ _ => trivial) harray
  | @object ms h ih =>
      have hmember : ∀ m ∈ ms, Reads (member (value doubles)) (writeMember doubles m) (id m) True :=
        fun m hm => (ih m hm).member m.1
      have hobject := reads_object hmember
      rw [List.map_id] at hobject
      rw [write, writeMembers_eq_commas]
      exact htrue (fun _ _ => trivial) hobject

/-- **A whole text.** -/
theorem Reads.parse {text : Text} {v : Value D} {ok : Prop}
    (h : Reads (value doubles) text v ok) : parse doubles text = some v ↔ ok := by
  have hskip := h.skipWhitespace []
  have hread := h.read [] behind_nil
  rw [List.append_nil] at hskip hread
  rw [Json.parse, hskip]
  constructor
  · intro hv
    obtain ⟨⟨v', r⟩, hv', hr⟩ := Option.bind_eq_some_iff.mp hv
    obtain ⟨-, heq⟩ := Option.ite_none_right_eq_some.mp hr
    obtain rfl := Option.some.inj heq
    exact ((hread r).mp hv').1
  · intro hok
    rw [(hread []).mpr ⟨hok, rfl⟩]
    rfl

/-- **What is written can be read again.** -/
theorem parse_write {v : Value D} (h : Exact v) : parse doubles (write doubles v) = some v :=
  (h.reads).parse.mpr trivial

/-! ### Control characters -/

/-- A text without control characters. -/
def Visible (t : Text) : Prop := ∀ c ∈ t, ¬ c < 0x20

instance (t : Text) : Decidable (Visible t) := List.decidableBAll _ t

theorem Visible.cons (h : Visible t) (hc : ¬ c < 0x20) : Visible (c :: t) :=
  List.forall_mem_cons.mpr ⟨hc, h⟩

theorem Visible.append (hs : Visible s) (ht : Visible t) : Visible (s ++ t) :=
  List.forall_mem_append.mpr ⟨hs, ht⟩

theorem visible_of_plain (h : ∀ c ∈ t, Plain c) : Visible t := fun c hc => (h c hc).2.2

/-- Control characters are written as escapes. -/
theorem visible_escape (c : UInt8) : Visible (escape c) := by
  have hcontrol : ∀ n < 32, ¬ hexDigit (UInt8.ofNat n / 16) < 0x20 ∧
      ¬ hexDigit (UInt8.ofNat n % 16) < 0x20 := by decide
  rw [escape]
  rcases he : shortEscape c with - | e
  · by_cases hlt : c < 0x20
    · obtain ⟨hhigh, hlow⟩ := hcontrol c.toNat (UInt8.lt_iff_toNat_lt.mp hlt)
      rw [UInt8.ofNat_toNat] at hhigh hlow
      simp only [if_pos hlt]
      have hlast : Visible [hexDigit (c / 16), hexDigit (c % 16)] := by
        rintro d (- | ⟨_, - | ⟨_, ⟨⟩⟩⟩)
        · exact hhigh
        · exact hlow
      exact (((hlast.cons (by decide)).cons (by decide)).cons (by decide)).cons (by decide)
    · simp only [if_neg hlt]
      exact List.forall_mem_singleton.mpr hlt
  · have hletter : ¬ e < 0x20 := by
      rw [shortEscape] at he
      split_ifs at he <;> cases he <;> decide
    exact Visible.cons (List.forall_mem_singleton.mpr hletter) (by decide)

/-- No control character stands in a string that is written. -/
theorem visible_writeString (s : Text) : Visible (writeString s) := by
  refine Visible.append (Visible.cons ?_ (by decide)) (by decide)
  intro d hd
  obtain ⟨c, -, hc⟩ := List.mem_flatMap.mp hd
  exact visible_escape c d hc

theorem visible_commas : ∀ {ts : List Text}, (∀ t ∈ ts, Visible t) → Visible (commas ts)
  | [], _ => fun _ h => nomatch h
  | t :: ts, h => by
      obtain ⟨ht, hts⟩ := List.forall_mem_cons.mp h
      rw [commas]
      refine ht.append ?_
      split
      · exact fun _ h => nomatch h
      · exact (visible_commas hts).cons (by decide)

/-- **The writer makes no control characters.** -/
theorem Exact.visible {v : Value D} (h : Exact v) : Visible (write doubles v) := by
  induction h with
  | null =>
      rw [write]
      decide
  | bool b =>
      cases b <;> rw [write] <;> decide
  | @int v h =>
      obtain ⟨-, -, -, -, hplain⟩ := decimal_cases v
      exact visible_of_plain hplain
  | string s => exact visible_writeString s
  | @array vs h ih =>
      rw [write, writeElements_eq_commas]
      refine Visible.append (Visible.cons (visible_commas ?_) (by decide)) (by decide)
      exact List.forall_mem_map.mpr ih
  | @object ms h ih =>
      rw [write, writeMembers_eq_commas]
      refine Visible.append (Visible.cons (visible_commas ?_) (by decide)) (by decide)
      refine List.forall_mem_map.mpr fun m hm => ?_
      exact (visible_writeString m.1).append ((ih m hm).cons (by decide))

/-! ## Texts put together by hand -/

/-- A value as it stands in such a text; a string stands between two quotes. -/
inductive Raw
  | int (v : ℤ)
  | string (s : Text)

/-- A string stands there as it is, without escapes. -/
def Raw.toText : Raw → Text
  | .int v => decimal v
  | .string s => '"'.toUInt8 :: s ++ ['"'.toUInt8]

/-- What it is meant to say. -/
def Raw.toValue : Raw → Value D
  | .int v => .int v
  | .string s => .string s

/-- What may stand so. -/
def Raw.Sound : Raw → Prop
  | .int v => Fits v
  | .string s => ∀ c ∈ s, Plain c

/-- An object of such values; its names are known ones. -/
def rawObject (ms : List (Text × Raw)) : Text :=
  '{'.toUInt8 :: commas (ms.map fun m => writeString m.1 ++ ':'.toUInt8 :: m.2.toText) ++
    ['}'.toUInt8]

/-- An array of such objects. -/
def rawArray (objects : List (List (Text × Raw))) : Text :=
  '['.toUInt8 :: commas (objects.map rawObject) ++ [']'.toUInt8]

/-- What the object is meant to say. -/
def valueObject (ms : List (Text × Raw)) : Value D := .object (ms.map (Prod.map id Raw.toValue))

theorem Raw.reads : ∀ v : Raw, Reads (value doubles) v.toText v.toValue v.Sound
  | .int v => reads_int v
  | .string s => reads_raw s

theorem reads_rawObject (ms : List (Text × Raw)) :
    Reads (value doubles) (rawObject ms) (valueObject ms) (∀ m ∈ ms, m.2.Sound) :=
  reads_object fun m _ => m.2.reads.member m.1

/-- **An array of objects put together by hand is read as what it was made of**, if and only if
every part of it may stand there. -/
theorem parse_rawArray_iff (objects : List (List (Text × Raw))) :
    parse doubles (rawArray objects) = some (.array (objects.map valueObject)) ↔
      ∀ ms ∈ objects, ∀ m ∈ ms, m.2.Sound :=
  (reads_array fun ms _ => reads_rawObject ms).parse

end Json

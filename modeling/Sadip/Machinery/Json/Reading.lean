import Mathlib.Data.List.DropRight
import Sadip.Machinery.Json

/-!
# Machinery/Json/Reading — what the reader of JSON makes of a text

A string is read letter by letter (`Letter`): a byte that stands for itself, or an escape.  Only the
first kind is as long as what it stands for.  Values, and items between brackets, are read from left
to right, each from what the one before it leaves; the equations of `value`, `list` and `member` say
so without fuel.
-/

namespace Json

variable {D α : Type} {cs r s t x u : Text} {c : UInt8}

/-! ## Strings -/

/-- A byte that stands for itself between quotes. -/
def Plain (c : UInt8) : Prop := c ≠ '"'.toUInt8 ∧ c ≠ '\\'.toUInt8 ∧ ¬ c < 0x20

instance (c : UInt8) : Decidable (Plain c) := inferInstanceAs (Decidable (_ ∧ _ ∧ _))

/-- The bytes `x` stand for `u`, whatever follows. -/
inductive Letter : Text → Text → Prop
  | plain {c : UInt8} (hc : Plain c) : Letter [c] [c]
  | short {e d : UInt8} (he : e ≠ 'u'.toUInt8) (h : unescape e = some d) :
      Letter ['\\'.toUInt8, e] [d]
  | unicode {a b c d : UInt8} {n : ℕ} (h : hex4 a b c d = some n) (hn : n < 0xD800 ∨ 0xDFFF < n) :
      Letter ['\\'.toUInt8, 'u'.toUInt8, a, b, c, d] (encode n)
  | surrogates {a b c d a' b' c' d' : UInt8} {n l : ℕ} (h : hex4 a b c d = some n)
      (hn : ¬ (n < 0xD800 ∨ 0xDFFF < n)) (hn' : n ≤ 0xDBFF) (h' : hex4 a' b' c' d' = some l)
      (hl : 0xDC00 ≤ l ∧ l ≤ 0xDFFF) :
      Letter ['\\'.toUInt8, 'u'.toUInt8, a, b, c, d, '\\'.toUInt8, 'u'.toUInt8, a', b', c', d']
        (encode ((n - 0xD800) * 0x400 + (l - 0xDC00) + 0x10000))

/-- The empty string. -/
theorem readString_quote (cs : Text) : readString ('"'.toUInt8 :: cs) = some ([], cs) := by
  rw [readString.eq_def]
  exact if_pos rfl

/-- A letter is read, and then the rest. -/
theorem Letter.readString (h : Letter x u) (cs : Text) :
    readString (x ++ cs) = (readString cs).map (Prod.map (u ++ ·) id) := by
  rw [readString.eq_def]
  cases h with
  | plain hc =>
      obtain ⟨hquote, hslash, hctl⟩ := hc
      simp only [List.singleton_append, if_neg hquote, if_neg hslash, if_neg hctl]
  | short he h =>
      simp only [List.cons_append, List.nil_append, if_neg he, h, if_true]
      rfl
  | unicode h hn =>
      simp only [List.cons_append, List.nil_append, h, if_pos hn, if_true]
      rfl
  | surrogates h hn hn' h' hl =>
      simp only [List.cons_append, List.nil_append, h, if_neg hn, if_pos hn', h', true_and,
        if_pos hl, if_true]
      rfl

/-- **What is read of a string**: its end, or a letter and the rest. -/
theorem readString_cases (h : readString cs = some (s, r)) :
    (s = [] ∧ cs = '"'.toUInt8 :: r) ∨
      ∃ x u cs' s', Letter x u ∧ cs = x ++ cs' ∧ s = u ++ s' ∧ readString cs' = some (s', r) := by
  have hrest : ∀ {x u cs' : Text}, Letter x u → cs = x ++ cs' →
      (readString cs').map (Prod.map (u ++ ·) id) = some (s, r) →
      ∃ x u cs' s', Letter x u ∧ cs = x ++ cs' ∧ s = u ++ s' ∧
        readString cs' = some (s', r) := by
    intro x u cs' hl hcs h
    obtain ⟨⟨s', r'⟩, hr, heq⟩ := Option.map_eq_some_iff.mp h
    cases heq
    exact ⟨x, u, cs', s', hl, hcs, rfl, hr⟩
  rw [readString.eq_def] at h
  split at h
  · cases h
  rename_i c cs
  split_ifs at h with hquote hslash hctl
  · cases h
    exact .inl ⟨rfl, by rw [hquote]⟩
  · right
    split at h
    · cases h
    rename_i e cs
    split_ifs at h with he
    · split at h
      · rename_i a b c d cs
        split at h
        · cases h
        rename_i n hn
        split_ifs at h with hlow hhigh
        · exact hrest (.unicode hn hlow) (by rw [hslash, he]; rfl) h
        · split at h
          · rename_i e' u' a' b' c' d' cs
            split at h
            · cases h
            rename_i l hl
            split_ifs at h with hpair
            obtain ⟨rfl, rfl, hrange⟩ := hpair
            exact hrest (.surrogates hn hlow hhigh hl hrange) (by rw [hslash, he]; rfl) h
          · cases h
      · cases h
    · split at h
      · cases h
      rename_i d hd
      exact hrest (.short he hd) (by rw [hslash]; rfl) h
  · exact .inr (hrest (.plain ⟨hquote, hslash, hctl⟩) rfl h)

/-- **Induction along a string.** -/
theorem readString_induction {P : Text → Text → Text → Prop}
    (hend : ∀ r, P ('"'.toUInt8 :: r) [] r)
    (hletter : ∀ x u cs s r, Letter x u → readString cs = some (s, r) → P cs s r →
      P (x ++ cs) (u ++ s) r) :
    ∀ cs s r, readString cs = some (s, r) → P cs s r := by
  intro cs
  induction hn : cs.length using Nat.strongRecOn generalizing cs with
  | ind n ih =>
    intro s r h
    rcases readString_cases h with ⟨rfl, rfl⟩ | ⟨x, u, cs', s', hl, rfl, rfl, h'⟩
    · exact hend r
    · refine hletter x u cs' s' r hl h' (ih cs'.length ?_ cs' rfl s' r h')
      rw [← hn, List.length_append]
      have : 0 < x.length := by cases hl <;> exact Nat.succ_pos _
      omega

/-- A code point has at most four bytes. -/
theorem length_encode_le (n : ℕ) : (encode n).length ≤ 4 := by
  rw [encode, String.length_utf8EncodeChar]
  exact Char.utf8Size_le_four _

theorem le_of_mem_utf8EncodeChar {c : Char} (hc : 128 ≤ c.toNat) {b : UInt8}
    (hb : b ∈ String.utf8EncodeChar c) : 128 ≤ b.toNat := by
  revert b
  fun_cases String.utf8EncodeChar c
  · rename_i h
    exact absurd (Nat.lt_of_lt_of_le (Nat.lt_succ_of_le h) hc) (Nat.lt_irrefl _)
  all_goals
    simp only [List.mem_cons, List.not_mem_nil, or_false, forall_eq_or_imp, forall_eq,
      UInt8.toNat_ofNat']
    omega

/-- An escape is longer than what it stands for. -/
theorem Letter.shorter (h : Letter x u) :
    (∃ c, Plain c ∧ x = [c] ∧ u = [c]) ∨ u.length < x.length := by
  cases h with
  | plain hc => exact .inl ⟨_, hc, rfl, rfl⟩
  | short => exact .inr (Nat.lt_succ_self _)
  | unicode => exact .inr (Nat.lt_of_le_of_lt (length_encode_le _) (by simp))
  | surrogates => exact .inr (Nat.lt_of_le_of_lt (length_encode_le _) (by simp))

/-- What is read of a string is as long as its text only if it is its text. -/
theorem exists_of_readString (h : readString cs = some (s, r)) :
    ∃ x, cs = x ++ '"'.toUInt8 :: r ∧ s.length ≤ x.length ∧
      (x.length ≤ s.length → x = s ∧ ∀ c ∈ s, Plain c) := by
  refine readString_induction (P := fun cs s r => ∃ x, cs = x ++ '"'.toUInt8 :: r ∧
    s.length ≤ x.length ∧ (x.length ≤ s.length → x = s ∧ ∀ c ∈ s, Plain c)) ?_ ?_ cs s r h
  · exact fun r => ⟨[], rfl, le_rfl, fun _ => ⟨rfl, fun _ h => nomatch h⟩⟩
  · rintro x u cs s r hl - ⟨y, rfl, hle, hsame⟩
    refine ⟨x ++ y, (List.append_assoc ..).symm, ?_⟩
    rw [List.length_append, List.length_append]
    rcases hl.shorter with ⟨c, hc, rfl, rfl⟩ | hlt
    · refine ⟨by omega, fun h => ?_⟩
      obtain ⟨rfl, hplain⟩ := hsame (by omega)
      exact ⟨rfl, List.forall_mem_cons.mpr ⟨hc, hplain⟩⟩
    · exact ⟨by omega, fun h => absurd h (by omega)⟩

/-- A string without escapes is read as it stands. -/
theorem readString_plain : ∀ {s : Text}, (∀ c ∈ s, Plain c) → ∀ r : Text,
    readString (s ++ '"'.toUInt8 :: r) = some (s, r)
  | [], _, r => readString_quote r
  | c :: s, h, r => by
      obtain ⟨hc, hs⟩ := List.forall_mem_cons.mp h
      rw [List.cons_append, ← List.singleton_append, (Letter.plain hc).readString,
        readString_plain hs r]
      rfl

theorem ne_quote_of_hex4 {a b c d : UInt8} {n : ℕ} (h : hex4 a b c d = some n) :
    '"'.toUInt8 ∉ [a, b, c, d] := by
  have hnone : hexValue '"'.toUInt8 = none := by decide
  rintro hq
  simp only [hex4, Option.bind_eq_bind, Option.bind_eq_some_iff] at h
  obtain ⟨_, ha, _, hb, _, hc, _, hd, -⟩ := h
  simp only [List.mem_cons, List.not_mem_nil, or_false] at hq
  rcases hq with hq | hq | hq | hq
  · rw [← hq, hnone] at ha; cases ha
  · rw [← hq, hnone] at hb; cases hb
  · rw [← hq, hnone] at hc; cases hc
  · rw [← hq, hnone] at hd; cases hd

/-- A quote in a letter is an escaped one. -/
theorem Letter.quote_mem (h : Letter x u) (hq : '"'.toUInt8 ∈ x) :
    x = ['\\'.toUInt8, '"'.toUInt8] ∧ u = ['"'.toUInt8] := by
  have hslash : '"'.toUInt8 ≠ '\\'.toUInt8 := by decide
  have hu : '"'.toUInt8 ≠ 'u'.toUInt8 := by decide
  cases h with
  | plain hc =>
      obtain rfl := List.mem_singleton.mp hq
      exact absurd rfl hc.1
  | short he h =>
      simp only [List.mem_cons, hslash, List.not_mem_nil, or_false, false_or] at hq
      subst hq
      have : unescape '"'.toUInt8 = some '"'.toUInt8 := by decide
      rw [this] at h
      cases h
      exact ⟨rfl, rfl⟩
  | unicode h =>
      have := ne_quote_of_hex4 h
      simp only [List.mem_cons, hslash, hu, false_or] at hq this
      exact absurd hq this
  | @surrogates a b c d a' b' c' d' _ _ h hn hn' h' hl =>
      rcases List.mem_append.mp (show '"'.toUInt8 ∈ ['\\'.toUInt8, 'u'.toUInt8, a, b, c, d] ++
        ['\\'.toUInt8, 'u'.toUInt8, a', b', c', d'] from hq) with hq | hq
      · have := ne_quote_of_hex4 h
        simp only [List.mem_cons, hslash, hu, false_or] at hq this
        exact absurd hq this
      · have := ne_quote_of_hex4 h'
        simp only [List.mem_cons, hslash, hu, false_or] at hq this
        exact absurd hq this

/-- **The quote behind a text ends the string** at it or after it has ended, or is an escaped one.
-/
theorem readString_append (h : readString cs = some (t, r)) :
    ∀ s u, cs = s ++ '"'.toUInt8 :: u →
      (∃ x, cs = x ++ '"'.toUInt8 :: r ∧ x.length ≤ s.length) ∨
        (s.getLast? = some '\\'.toUInt8 ∧
          ∃ t₀ t₁, t = t₀ ++ '"'.toUInt8 :: t₁ ∧ readString u = some (t₁, r)) := by
  refine readString_induction (P := fun cs t r => ∀ s u, cs = s ++ '"'.toUInt8 :: u →
      (∃ x, cs = x ++ '"'.toUInt8 :: r ∧ x.length ≤ s.length) ∨
        (s.getLast? = some '\\'.toUInt8 ∧
          ∃ t₀ t₁, t = t₀ ++ '"'.toUInt8 :: t₁ ∧ readString u = some (t₁, r))) ?_ ?_ cs t r h
  · exact fun r s u _ => .inl ⟨[], rfl, Nat.zero_le _⟩
  · intro x v cs t r hl hread ih s u heq
    rcases List.append_eq_append_iff.mp heq with ⟨s', rfl, hcs⟩ | ⟨y, rfl, hu⟩
    · rcases ih s' u hcs with ⟨x', hx', hle⟩ | ⟨hlast, t₀, t₁, rfl, hr⟩
      · refine .inl ⟨x ++ x', by rw [hx', List.append_assoc], ?_⟩
        rw [List.length_append, List.length_append]
        omega
      · refine .inr ⟨?_, v ++ t₀, t₁, (List.append_assoc ..).symm, hr⟩
        rw [List.getLast?_append, hlast]
        rfl
    · rcases y with - | ⟨c, y⟩
      · -- the letter ends where the text does
        rcases ih [] u hu.symm with ⟨x', hx', hle⟩ | ⟨hlast, -⟩
        · refine .inl ⟨s ++ x', by rw [hx', List.append_nil, List.append_assoc], ?_⟩
          rw [List.length_append]
          exact Nat.add_le_add_left hle _
        · cases hlast
      · obtain ⟨rfl, rfl⟩ := List.cons_eq_cons.mp hu
        obtain ⟨hx, rfl⟩ := hl.quote_mem (by simp)
        have hlen := congrArg List.length hx
        rcases s with - | ⟨d, - | ⟨d', s⟩⟩
        · cases hx
        · obtain ⟨rfl, htail⟩ := List.cons_eq_cons.mp hx
          obtain rfl : y = [] := (List.cons_eq_cons.mp htail).2
          exact .inr ⟨rfl, [], t, rfl, hread⟩
        · simp at hlen

/-- **A text between two quotes is read as it is** if and only if it has no quote, no backslash and
no control character, as long as nothing that ends in a backslash can be read behind it. -/
theorem readString_raw {u : Text}
    (hu : ∀ t r, readString u = some (t, r) → t.getLast? ≠ some '\\'.toUInt8) :
    readString (s ++ '"'.toUInt8 :: u) = some (s, r) ↔ (∀ c ∈ s, Plain c) ∧ r = u := by
  constructor
  · intro h
    obtain ⟨x, hx, hle, hsame⟩ := exists_of_readString h
    rcases readString_append h s u rfl with ⟨x', hx', hle'⟩ | ⟨hlast, t₀, t₁, hs, hr⟩
    · have hlen : x.length = x'.length := by
        have := congrArg List.length (hx.symm.trans hx')
        simp only [List.length_append] at this
        omega
      obtain ⟨rfl, hplain⟩ := hsame (hlen ▸ hle')
      exact ⟨hplain, (List.cons_eq_cons.mp (List.append_cancel_left hx)).2.symm⟩
    · -- what follows the escaped quote does not end in the backslash before it
      exfalso
      rw [hs, List.getLast?_append, List.getLast?_cons] at hlast
      have := hu t₁ r hr
      rcases ht : t₁.getLast? with - | d
      · rw [ht] at hlast
        exact absurd (Option.some.inj hlast) (by decide)
      · rw [ht] at hlast this
        exact this hlast
  · rintro ⟨hplain, rfl⟩
    exact readString_plain hplain r

/-! ## From left to right -/

/-- What is left is shorter. -/
def Shortens (item : Text → Option (α × Text)) : Prop :=
  ∀ cs a r, item cs = some (a, r) → r.length < cs.length

/-- A string has at least its quote. -/
theorem shortens_readString : Shortens readString := fun cs s r h => by
  obtain ⟨x, rfl, -⟩ := exists_of_readString h
  rw [List.length_append, List.length_cons]
  omega

theorem length_skipWhitespace_le (cs : Text) : (skipWhitespace cs).length ≤ cs.length :=
  (List.dropWhile_suffix _).length_le

theorem Shortens.nil {item : Text → Option (α × Text)} (h : Shortens item) : item [] = none := by
  rcases hi : item [] with - | ⟨a, r⟩
  · rfl
  · exact absurd (h [] a r hi) (Nat.not_lt_zero _)

/-- A list takes what its first item takes, at least. -/
theorem Shortens.items {item : Text → Option (α × Text)} (h : Shortens item) (close : UInt8) :
    ∀ n, Shortens (items item close n)
  | 0, _, _, _, hi => nomatch hi
  | n + 1, cs, as, r, hi => by
      rw [Json.items] at hi
      obtain ⟨⟨a, cs'⟩, ha, hi⟩ := Option.bind_eq_some_iff.mp hi
      have hlt := h cs a cs' ha
      have hle := length_skipWhitespace_le cs'
      rcases hw : skipWhitespace cs' with - | ⟨c, cs''⟩ <;> rw [hw] at hle <;>
        simp only [hw] at hi
      · cases hi
      split_ifs at hi
      · obtain ⟨⟨as', r'⟩, hrec, heq⟩ := Option.map_eq_some_iff.mp hi
        cases heq
        have := (h.items close n) _ _ _ hrec
        have := length_skipWhitespace_le cs''
        rw [List.length_cons] at hle
        show r'.length < _
        omega
      · cases hi
        rw [List.length_cons] at hle
        omega

theorem Shortens.bracketed {item : Text → Option (α × Text)} (h : Shortens item) (close : UInt8)
    (n : ℕ) : Shortens (bracketed item close n) := by
  intro cs as r hi
  rw [Json.bracketed] at hi
  have hle := length_skipWhitespace_le cs
  rcases hw : skipWhitespace cs with - | ⟨c, cs'⟩ <;> rw [hw] at hle <;> simp only [hw] at hi
  · cases hi
  split_ifs at hi
  · cases hi
    exact hle
  · exact Nat.lt_of_lt_of_le (h.items close n _ _ _ hi) hle

theorem Shortens.member {item : Text → Option (α × Text)} (h : Shortens item) :
    Shortens (member item) := by
  rintro (- | ⟨c, cs⟩) a r hi
  · cases hi
  rw [Json.member] at hi
  split_ifs at hi
  obtain ⟨⟨k, cs'⟩, hk, hi⟩ := Option.bind_eq_some_iff.mp hi
  have hlt := shortens_readString cs k cs' hk
  have hle := length_skipWhitespace_le cs'
  rcases hw : skipWhitespace cs' with - | ⟨c, cs''⟩ <;> rw [hw] at hle <;> simp only [hw] at hi
  · cases hi
  split_ifs at hi
  obtain ⟨⟨b, r'⟩, hb, heq⟩ := Option.map_eq_some_iff.mp hi
  cases heq
  have := h _ _ _ hb
  have := length_skipWhitespace_le cs''
  rw [List.length_cons] at hle ⊢
  show r'.length < _
  omega

theorem shortens_literal {word : Text} (hw : word ≠ []) (a : α) : Shortens (literal word a) := by
  intro cs b r hi
  rw [literal] at hi
  split_ifs at hi with hpre
  cases hi
  have hle := (List.isPrefixOf_iff_prefix.mp hpre).length_le
  have hpos := List.length_pos_of_ne_nil hw
  rw [List.length_drop]
  omega

theorem shortens_digits : Shortens digits := by
  intro cs ds r hi
  rw [digits] at hi
  split_ifs at hi with hnil
  cases hi
  have hsplit := congrArg List.length (List.takeWhile_append_dropWhile (p := isDigit) (l := cs))
  have hpos : 0 < (cs.takeWhile isDigit).length :=
    List.length_pos_of_ne_nil fun h => hnil (by rw [h]; rfl)
  rw [List.length_append] at hsplit
  omega

theorem shortens_integral : Shortens integral := by
  rintro (- | ⟨c, cs⟩) ds r hi
  · cases hi
  rw [integral] at hi
  split_ifs at hi
  · cases hi
    exact Nat.lt_succ_self _
  · exact shortens_digits _ _ _ hi

theorem length_fraction_le (h : fraction cs = some (t, r)) : r.length ≤ cs.length := by
  rcases cs with - | ⟨c, cs⟩
  · cases h
    exact le_rfl
  rw [fraction] at h
  split_ifs at h
  · obtain ⟨⟨ds, r'⟩, hd, heq⟩ := Option.map_eq_some_iff.mp h
    cases heq
    have := shortens_digits _ _ _ hd
    rw [List.length_cons]
    show r'.length ≤ _
    omega
  · cases h
    exact le_rfl

theorem length_sign_le (cs : Text) : (sign cs).2.length ≤ cs.length := by
  rcases cs with - | ⟨c, cs⟩
  · exact le_rfl
  rw [sign]
  split_ifs
  · exact Nat.le_succ _
  · exact le_rfl

theorem length_minus_le (cs : Text) : (minus cs).2.length ≤ cs.length := by
  rcases cs with - | ⟨c, cs⟩
  · exact le_rfl
  rw [minus]
  split_ifs
  · exact Nat.le_succ _
  · exact le_rfl

theorem length_exponent_le (h : exponent cs = some (t, r)) : r.length ≤ cs.length := by
  rcases cs with - | ⟨c, cs⟩
  · cases h
    exact le_rfl
  rw [exponent] at h
  split_ifs at h
  · obtain ⟨⟨ds, r'⟩, hd, heq⟩ := Option.map_eq_some_iff.mp h
    cases heq
    have := shortens_digits _ _ _ hd
    have := length_sign_le cs
    rw [List.length_cons]
    show r'.length ≤ _
    omega
  · cases h
    exact le_rfl

variable {doubles : Doubles D}

/-- A number has at least a digit. -/
theorem shortens_readNumber : Shortens (readNumber doubles) := by
  intro cs v r hi
  rw [readNumber] at hi
  obtain ⟨⟨ds, r₁⟩, h₁, hi⟩ := Option.bind_eq_some_iff.mp hi
  obtain ⟨⟨frac, r₂⟩, h₂, hi⟩ := Option.bind_eq_some_iff.mp hi
  obtain ⟨⟨exp, r₃⟩, h₃, hi⟩ := Option.bind_eq_some_iff.mp hi
  obtain ⟨v', -, hi⟩ := Option.bind_eq_some_iff.mp hi
  cases hi
  have := length_minus_le cs
  have := shortens_integral _ _ _ h₁
  have := length_fraction_le h₂
  have := length_exponent_le h₃
  omega

theorem Shortens.map {β : Type} {item : Text → Option (α × Text)} (h : Shortens item) (f : α → β) :
    Shortens fun cs => (item cs).map (Prod.map f id) := by
  intro cs b r hi
  obtain ⟨⟨a, r'⟩, ha, heq⟩ := Option.map_eq_some_iff.mp hi
  cases heq
  exact h cs a _ ha

theorem Shortens.cons {item : Text → Option (α × Text)} (h : Shortens item) (c : UInt8) {a : α}
    (hi : item cs = some (a, r)) : r.length < (c :: cs).length :=
  Nat.lt_succ_of_lt (h cs a r hi)

/-- A value takes at least a byte, by induction on the bound. -/
theorem shortens_readValue : ∀ n, Shortens (readValue doubles n)
  | 0, _, _, _, hi => nomatch hi
  | _ + 1, [], _, _, hi => nomatch hi
  | n + 1, c :: cs, v, r, hi => by
      have ih := shortens_readValue n
      rw [readValue] at hi
      split_ifs at hi
      · exact shortens_literal (by decide) _ _ _ _ hi
      · exact shortens_literal (by decide) _ _ _ _ hi
      · exact shortens_literal (by decide) _ _ _ _ hi
      · exact (shortens_readString.map _).cons c hi
      · exact ((ih.bracketed _ n).map _).cons c hi
      · exact ((ih.member.bracketed _ n).map _).cons c hi
      · exact shortens_readNumber _ _ _ hi

/-! ## Enough fuel -/

/-- Readers that agree on texts that are not longer make the same of a list of items, as long as
there is enough fuel. -/
theorem items_of_le {item' : Text → Option (α × Text)} (h' : Shortens item') (close : UInt8) :
    ∀ (n : ℕ) (item : Text → Option (α × Text)) (cs : Text), Shortens item → cs.length ≤ n →
      (∀ t : Text, t.length ≤ cs.length → item t = item' t) →
      items item close n cs = items item' close cs.length cs := by
  intro n
  induction n using Nat.strongRecOn with
  | ind n ih =>
    intro item cs h hn hagree
    rcases cs with - | ⟨c, cs⟩
    · rcases n with - | n
      · rfl
      · rw [items, h.nil]
        rfl
    obtain ⟨n, rfl⟩ := Nat.exists_eq_add_one_of_ne_zero (Nat.ne_zero_of_lt hn)
    rw [List.length_cons, items, items, hagree _ le_rfl]
    refine Option.bind_congr fun ⟨a, cs'⟩ ha => ?_
    have hlt := h' _ _ _ ha
    have hle := length_skipWhitespace_le cs'
    rcases hw : skipWhitespace cs' with - | ⟨d, cs''⟩ <;> rw [hw] at hle <;> simp only [hw]
    have hle' := length_skipWhitespace_le cs''
    rw [List.length_cons] at hlt hle hn
    rw [ih n (by omega) item (skipWhitespace cs'') h (by omega) fun t ht =>
        hagree t (by rw [List.length_cons]; omega),
      ih cs.length (by omega) item' (skipWhitespace cs'') h' (by omega) fun _ _ => rfl]

/-- **The bound does not matter** if it is as large as the text: each item takes a byte. -/
theorem bracketed_of_le {item item' : Text → Option (α × Text)} (h : Shortens item)
    (h' : Shortens item') (close : UInt8) {n m : ℕ} (hn : cs.length ≤ n) (hm : cs.length ≤ m)
    (hagree : ∀ t : Text, t.length ≤ cs.length → item t = item' t) :
    bracketed item close n cs = bracketed item' close m cs := by
  rw [bracketed, bracketed]
  have hle := length_skipWhitespace_le cs
  rcases hw : skipWhitespace cs with - | ⟨c, cs'⟩
  · rfl
  rw [hw] at hle
  simp only
  rw [items_of_le h' close n item (c :: cs') h (hle.trans hn) fun t ht => hagree t (ht.trans hle),
    items_of_le h' close m item' (c :: cs') h' (hle.trans hm) fun _ _ => rfl]

theorem member_congr {item item' : Text → Option (α × Text)}
    (hagree : ∀ t : Text, t.length ≤ cs.length → item t = item' t) :
    member item cs = member item' cs := by
  rcases cs with - | ⟨c, cs⟩
  · rfl
  rw [member, member]
  split_ifs
  · refine Option.bind_congr fun ⟨k, cs'⟩ hk => ?_
    have hlt := shortens_readString _ _ _ hk
    have hle := length_skipWhitespace_le cs'
    rcases hw : skipWhitespace cs' with - | ⟨d, cs''⟩ <;> simp only [hw]
    have hle' := length_skipWhitespace_le cs''
    rw [hw, List.length_cons] at hle
    rw [hagree _ (by rw [List.length_cons]; omega)]
  · rfl

/-- **Fuel for each byte of the text is enough.** -/
theorem readValue_of_le : ∀ (n : ℕ) (cs : Text), cs.length ≤ n →
    readValue doubles n cs = readValue doubles cs.length cs := by
  intro n
  induction n using Nat.strongRecOn with
  | ind n ih =>
    rintro (- | ⟨c, cs⟩) hn
    · rcases n with - | n <;> rfl
    obtain ⟨n, rfl⟩ := Nat.exists_eq_add_one_of_ne_zero (Nat.ne_zero_of_lt hn)
    have hn := Nat.le_of_succ_le_succ hn
    have hagree : ∀ t : Text, t.length ≤ cs.length →
        readValue doubles n t = readValue doubles cs.length t := fun t ht => by
      rw [ih n (Nat.lt_succ_self n) t (ht.trans hn), ih cs.length (Nat.lt_succ_of_le hn) t ht]
    rw [List.length_cons, readValue, readValue,
      bracketed_of_le (shortens_readValue n) (shortens_readValue cs.length) _ hn le_rfl hagree,
      bracketed_of_le (shortens_readValue n).member (shortens_readValue cs.length).member _ hn
        le_rfl fun t ht => member_congr fun t' ht' => hagree t' (ht'.trans ht)]

theorem shortens_value : Shortens (value doubles) := fun cs v r h => shortens_readValue _ cs v r h

/-- A quote opens a string. -/
theorem value_quote (cs : Text) :
    value doubles ('"'.toUInt8 :: cs) = (readString cs).map (Prod.map .string id) := by
  rw [value, List.length_cons, readValue]
  simp only [show '"'.toUInt8 ≠ 'n'.toUInt8 by decide, show '"'.toUInt8 ≠ 't'.toUInt8 by decide,
    show '"'.toUInt8 ≠ 'f'.toUInt8 by decide, if_false, if_true]

/-- A bracket opens an array. -/
theorem value_bracket (cs : Text) : value doubles ('['.toUInt8 :: cs) =
    (bracketed (value doubles) ']'.toUInt8 cs.length cs).map (Prod.map .array id) := by
  rw [value, List.length_cons, readValue]
  simp only [show '['.toUInt8 ≠ 'n'.toUInt8 by decide, show '['.toUInt8 ≠ 't'.toUInt8 by decide,
    show '['.toUInt8 ≠ 'f'.toUInt8 by decide, show '['.toUInt8 ≠ '"'.toUInt8 by decide, if_false,
    if_true]
  rw [bracketed_of_le (shortens_readValue _) shortens_value _ le_rfl le_rfl (readValue_of_le _)]

/-- A brace opens an object. -/
theorem value_brace (cs : Text) : value doubles ('{'.toUInt8 :: cs) =
    (bracketed (member (value doubles)) '}'.toUInt8 cs.length cs).map (Prod.map .object id) := by
  rw [value, List.length_cons, readValue]
  simp only [show '{'.toUInt8 ≠ 'n'.toUInt8 by decide, show '{'.toUInt8 ≠ 't'.toUInt8 by decide,
    show '{'.toUInt8 ≠ 'f'.toUInt8 by decide, show '{'.toUInt8 ≠ '"'.toUInt8 by decide,
    show '{'.toUInt8 ≠ '['.toUInt8 by decide, if_false, if_true]
  rw [bracketed_of_le (shortens_readValue _).member shortens_value.member _ le_rfl le_rfl
    fun t ht =>
    member_congr fun t' ht' => readValue_of_le _ t' (ht'.trans ht)]

/-- The first byte of a number. -/
def opensNumber (c : UInt8) : Bool := c = '-'.toUInt8 || isDigit c

/-- A digit or a minus opens a number. -/
theorem value_number (hc : opensNumber c = true) (cs : Text) :
    value doubles (c :: cs) = readNumber doubles (c :: cs) := by
  have hne : ∀ d : UInt8, opensNumber d = false → c ≠ d := fun d hd heq => by
    rw [heq, hd] at hc
    cases hc
  rw [value, List.length_cons, readValue, if_neg (hne _ (by decide)), if_neg (hne _ (by decide)),
    if_neg (hne _ (by decide)), if_neg (hne _ (by decide)), if_neg (hne _ (by decide)),
    if_neg (hne _ (by decide))]

end Json

import Sadip.Machinery.Json.Writing

/-!
# Machinery/Json/Shortest — no text of a value is shorter than the one that is written

A value can be spelled in many ways, with blanks, with other escapes or with zeros; `write` takes
the fewest bytes (`length_write_le`).  So a text that has lost a byte, however it is read, is not
read as the value it was written for.
-/

namespace Json

variable {D α : Type} {cs r s x u d : Text} {c : UInt8} {item : Text → Option (α × Text)}
  {text : α → Text} {P : α → Prop}

/-- What is left of the text, and what is written of an item read from it, are no longer than the
text. -/
def Spans (item : Text → Option (α × Text)) (text : α → Text) (P : α → Prop) : Prop :=
  ∀ cs a r, item cs = some (a, r) → P a → (text a).length + r.length ≤ cs.length

/-! ## Strings -/

/-- The longest escape has six bytes. -/
theorem length_escape_le (c : UInt8) : (escape c).length ≤ 6 := by
  rw [escape]
  split
  · exact Nat.succ_le_succ (Nat.succ_le_succ (Nat.zero_le 4))
  · split_ifs
    · exact le_rfl
    · exact Nat.succ_le_succ (Nat.zero_le 5)

/-- A byte that needs no escape is written as itself. -/
theorem escape_of_plain (hc : Plain c) : escape c = [c] := by
  obtain ⟨hquote, hslash, hctl⟩ := hc
  have hne : ∀ d : UInt8, d < 0x20 → c ≠ d := fun d hd heq => hctl (heq ▸ hd)
  rw [escape, shortEscape, if_neg hquote, if_neg hslash, if_neg (hne 8 (by decide)),
    if_neg (hne 9 (by decide)), if_neg (hne 10 (by decide)), if_neg (hne 12 (by decide)),
    if_neg (hne 13 (by decide))]
  exact if_neg hctl

theorem plain_byte_of_le (h : 128 ≤ c.toNat) : Plain c := by
  have hne : ∀ d : UInt8, d.toNat < 128 → c ≠ d := by
    rintro d hd rfl
    omega
  refine ⟨hne _ (by decide), hne _ (by decide), fun hlt => ?_⟩
  have hnat : c.toNat < 0x20 := hlt
  omega

/-- A character takes no more than its longest escape. -/
theorem length_escapes_utf8EncodeChar_le (c : Char) :
    ((String.utf8EncodeChar c).flatMap escape).length ≤ 6 := by
  by_cases hc : c.toNat < 128
  · have hbyte : String.utf8EncodeChar c = [UInt8.ofNat c.toNat] := if_pos (Nat.le_of_lt_succ hc)
    rw [hbyte, List.flatMap_singleton]
    exact length_escape_le _
  · have hplain : (String.utf8EncodeChar c).flatMap escape = String.utf8EncodeChar c := by
      refine (List.flatMap_congr fun b hb => ?_).trans (List.flatMap_singleton' _)
      exact escape_of_plain (plain_byte_of_le (le_of_mem_utf8EncodeChar (Nat.le_of_not_lt hc) hb))
    rw [hplain, String.length_utf8EncodeChar]
    exact (Char.utf8Size_le_four c).trans (by decide)

/-- What was read from a backslash and a letter takes two bytes at most. -/
theorem length_escape_of_unescape {e : UInt8} (h : unescape e = some c) :
    (escape c).length ≤ 2 := by
  rw [unescape] at h
  split_ifs at h <;> cases h <;> decide

/-- No letter is shorter than the escape that is written. -/
theorem Letter.length_escape_le (h : Letter x u) : (u.flatMap escape).length ≤ x.length := by
  cases h with
  | plain hc => rw [List.flatMap_singleton, escape_of_plain hc]
  | short _ h =>
      rw [List.flatMap_singleton]
      exact length_escape_of_unescape h
  | unicode => exact length_escapes_utf8EncodeChar_le _
  | surrogates => exact (length_escapes_utf8EncodeChar_le _).trans (by simp)

/-- **A string is written with no more bytes than it was read from.** -/
theorem spans_readString :
    Spans readString (fun s => s.flatMap escape ++ ['"'.toUInt8]) fun _ => True := by
  intro cs s r h _
  refine readString_induction (P := fun cs s r =>
    (s.flatMap escape ++ ['"'.toUInt8]).length + r.length ≤ cs.length) ?_ ?_ cs s r h
  · intro r
    rw [List.flatMap_nil, List.nil_append, List.length_singleton, List.length_cons, Nat.add_comm]
  · intro x u cs s r hl _ ih
    have hle := hl.length_escape_le
    rw [List.length_append] at ih
    rw [List.flatMap_append, List.append_assoc, List.length_append, List.length_append,
      List.length_append]
    omega

/-! ## Numbers -/

/-- With `k` digits behind it `n` stays below `10 ^ k * (n + 1)`. -/
theorem ofDigits_lt {ds : Text} (hds : ∀ c ∈ ds, isDigit c = true) : ∀ n : ℕ,
    ds.foldl (fun n c => 10 * n + (c.toNat - '0'.toNat)) n < 10 ^ ds.length * (n + 1) := by
  induction ds with
  | nil => simp
  | cons c ds ih =>
    intro n
    obtain ⟨hc, hds⟩ := List.forall_mem_cons.mp hds
    rw [List.foldl_cons, List.length_cons, pow_succ, mul_assoc]
    refine (ih hds _).trans_le (Nat.mul_le_mul_left _ ?_)
    have hnine : c.toNat - '0'.toNat ≤ 9 := by
      rw [isDigit, Bool.and_eq_true, decide_eq_true_eq, decide_eq_true_eq] at hc
      have hle : c.toNat ≤ 57 := hc.2
      exact Nat.sub_le_iff_le_add.mpr hle
    omega

/-- A number has no more digits than it was read from. -/
theorem length_natural_le {ds : Text} (hds : ∀ c ∈ ds, isDigit c = true) (hne : ds ≠ []) :
    (natural (ofDigits ds)).length ≤ ds.length := by
  rw [natural, List.length_map,
    Nat.length_toDigits_le_iff (by decide) (List.length_pos_of_ne_nil hne)]
  exact (ofDigits_lt hds 0).trans_eq (Nat.mul_one _)

/-- What is read of the digits of a number, and what is left. -/
theorem integral_eq_some {ds : Text} (h : integral cs = some (ds, r)) :
    cs = ds ++ r ∧ ds ≠ [] ∧ ∀ c ∈ ds, isDigit c = true := by
  rcases cs with - | ⟨c, cs⟩
  · cases h
  rw [integral] at h
  split_ifs at h with hzero
  · cases h
    exact ⟨rfl, List.cons_ne_nil _ _, List.forall_mem_singleton.mpr (by rw [hzero]; decide)⟩
  · rw [digits] at h
    split_ifs at h with hempty
    cases h
    refine ⟨List.takeWhile_append_dropWhile.symm, fun hnil => hempty (by rw [hnil]; rfl), ?_⟩
    exact fun c hc => List.mem_takeWhile_imp hc

/-- The minus is one byte. -/
theorem length_minus (cs : Text) :
    (minus cs).2.length + (if (minus cs).1 = true then 1 else 0) = cs.length := by
  rcases cs with - | ⟨c, cs⟩
  · rfl
  · rw [minus]
    split_ifs with hc <;> first | rfl | contradiction

/-- So it is when it is written; `-0` loses it. -/
theorem length_decimal_le (negative : Bool) (n : ℕ) :
    (decimal (if negative = true then -(n : ℤ) else n)).length ≤
      (natural n).length + if negative = true then 1 else 0 := by
  have hnat : ∀ v : ℤ, v.natAbs = n → (decimal v).length =
      (natural n).length + if v < 0 then 1 else 0 := by
    rintro v rfl
    rw [decimal, Printf.decimal]
    split_ifs <;> rfl
  cases negative
  · rw [if_neg Bool.false_ne_true, hnat n (Int.natAbs_natCast n), if_neg (by omega)]
    exact Nat.le_add_right _ _
  · rw [if_pos rfl, hnat (-n) (by omega), if_pos rfl]
    split_ifs <;> omega

/-- An integer is written with no more bytes than it was read from. -/
theorem spans_readNumber (doubles : Doubles D) :
    Spans (readNumber doubles) (write doubles) Exact := by
  intro cs v r h hv
  rw [readNumber] at h
  obtain ⟨⟨ds, r₁⟩, hds, h⟩ := Option.bind_eq_some_iff.mp h
  obtain ⟨⟨frac, r₂⟩, hfrac, h⟩ := Option.bind_eq_some_iff.mp h
  obtain ⟨⟨exp, r₃⟩, hexp, h⟩ := Option.bind_eq_some_iff.mp h
  obtain ⟨v', hnumeral, h⟩ := Option.bind_eq_some_iff.mp h
  cases h
  have hr₂ := length_fraction_le hfrac
  have hr₃ := length_exponent_le hexp
  obtain ⟨hsplit, hne, hdigits⟩ := integral_eq_some hds
  have hlen := congrArg List.length hsplit
  have hminus := length_minus cs
  have hnatural := length_natural_le hdigits hne
  have hdecimal := length_decimal_le (minus cs).1 (ofDigits ds)
  rw [List.length_append] at hlen
  simp only [numeral] at hnumeral
  generalize (if (minus cs).1 = true then -(ofDigits ds : ℤ) else ofDigits ds) = n at *
  split at hnumeral
  · cases hnumeral
    rw [write]
    omega
  · obtain ⟨d, -, rfl⟩ := Option.map_eq_some_iff.mp hnumeral
    cases hv

/-! ## Items -/

theorem spans_literal {word : Text} {a : α} (h : text a = word) :
    Spans (literal word a) text P := by
  intro cs b r hi _
  rw [literal] at hi
  split_ifs at hi with hpre
  cases hi
  have hle := (List.isPrefixOf_iff_prefix.mp hpre).length_le
  rw [h, List.length_drop]
  omega

/-- The items of a list have commas between them and the closing bracket behind. -/
theorem Spans.items (h : Spans item text P) (close : UInt8) : ∀ n, Spans (items item close n)
    (fun as => commas (as.map text) ++ [close]) fun as => ∀ a ∈ as, P a
  | 0, _, _, _, hi, _ => nomatch hi
  | n + 1, cs, as, r, hi, has => by
      rw [Json.items] at hi
      obtain ⟨⟨a, cs'⟩, ha, hi⟩ := Option.bind_eq_some_iff.mp hi
      have hle := length_skipWhitespace_le cs'
      rcases hw : skipWhitespace cs' with - | ⟨c, cs''⟩ <;> rw [hw] at hle <;>
        simp only [hw] at hi
      · cases hi
      rw [List.length_cons] at hle
      split_ifs at hi
      · obtain ⟨⟨as', r'⟩, hrec, heq⟩ := Option.map_eq_some_iff.mp hi
        cases heq
        obtain ⟨hPa, hPas⟩ := List.forall_mem_cons.mp has
        have hlt := h cs a cs' ha hPa
        have hrest := (h.items close n) _ _ _ hrec hPas
        have hskip := length_skipWhitespace_le cs''
        have hcomma : (commas ((a :: as').map text)).length ≤
            (text a).length + 1 + (commas (as'.map text)).length := by
          rw [List.map_cons, commas, List.length_append]
          split_ifs
          · rw [List.length_nil]
            omega
          · rw [List.length_cons]
            omega
        simp only [id, List.length_append, List.length_singleton] at hrest ⊢
        omega
      · cases hi
        have hlt := h cs a cs' ha (has a List.mem_cons_self)
        simp only [List.map_cons, List.map_nil, commas, List.isEmpty_nil, if_true, List.append_nil,
          List.length_append, List.length_singleton]
        omega

/-- A list, with its commas and its bracket: blanks are not written again. -/
theorem Spans.bracketed (h : Spans item text P) (close : UInt8) (n : ℕ) :
    Spans (bracketed item close n) (fun as => commas (as.map text) ++ [close])
      fun as => ∀ a ∈ as, P a := by
  intro cs as r hi has
  rw [Json.bracketed] at hi
  have hle := length_skipWhitespace_le cs
  rcases hw : skipWhitespace cs with - | ⟨c, cs'⟩ <;> rw [hw] at hle <;> simp only [hw] at hi
  · cases hi
  split_ifs at hi
  · cases hi
    rw [List.length_cons, Nat.add_comm] at hle
    exact hle
  · exact (h.items close n _ _ _ hi has).trans hle

/-- A member, with its colon. -/
theorem Spans.member (h : Spans item text P) : Spans (member item)
    (fun m => writeString m.1 ++ ':'.toUInt8 :: text m.2) fun m => P m.2 := by
  rintro (- | ⟨c, cs⟩) m r hi hm
  · cases hi
  rw [Json.member] at hi
  split_ifs at hi
  obtain ⟨⟨k, cs'⟩, hk, hi⟩ := Option.bind_eq_some_iff.mp hi
  have hname := spans_readString cs k cs' hk trivial
  have hle := length_skipWhitespace_le cs'
  rcases hw : skipWhitespace cs' with - | ⟨c, cs''⟩ <;> rw [hw] at hle <;> simp only [hw] at hi
  · cases hi
  split_ifs at hi
  obtain ⟨⟨b, r'⟩, hb, heq⟩ := Option.map_eq_some_iff.mp hi
  cases heq
  have hvalue := h _ _ _ hb hm
  have hskip := length_skipWhitespace_le cs''
  simp only [id, writeString, List.length_append, List.length_cons, List.length_nil] at *
  omega

/-! ## Values -/

theorem Spans.cons {β : Type} {text' : β → Text} {P' : β → Prop} (h : Spans item text P) (f : α → β)
    (hf : ∀ a, (text' (f a)).length = (text a).length + 1) (hP : ∀ a, P' (f a) → P a) (c : UInt8)
    {v : β} (hi : (item cs).map (Prod.map f id) = some (v, r)) (hv : P' v) :
    (text' v).length + r.length ≤ (c :: cs).length := by
  obtain ⟨⟨a, r'⟩, ha, heq⟩ := Option.map_eq_some_iff.mp hi
  cases heq
  have hle := h cs a _ ha (hP a hv)
  show (text' (f a)).length + r'.length ≤ _
  rw [hf, List.length_cons]
  omega

/-- **A value**, by induction on the bound of the reader. -/
theorem spans_readValue (doubles : Doubles D) :
    ∀ n, Spans (readValue doubles n) (write doubles) Exact
  | 0, _, _, _, hi, _ => nomatch hi
  | _ + 1, [], _, _, hi, _ => nomatch hi
  | n + 1, c :: cs, v, r, hi, hv => by
      have ih := spans_readValue doubles n
      rw [readValue] at hi
      split_ifs at hi
      · exact spans_literal (by rw [write]) _ _ _ hi hv
      · exact spans_literal (by rw [write]) _ _ _ hi hv
      · exact spans_literal (by rw [write]) _ _ _ hi hv
      · exact spans_readString.cons Value.string (fun s => by rw [write]; rfl) (fun _ _ => trivial)
          c hi hv
      · refine (ih.bracketed _ n).cons Value.array (fun vs => ?_) (fun vs h => ?_) c hi hv
        · rw [write, writeElements_eq_commas, List.cons_append, List.length_cons]
        · cases h with
          | array h => exact h
      · refine (ih.member.bracketed _ n).cons Value.object (fun ms => ?_) (fun ms h => ?_) c hi hv
        · rw [write, writeMembers_eq_commas, List.cons_append, List.length_cons]
          rfl
        · cases h with
          | object h => exact h
      · exact spans_readNumber doubles _ _ _ hi hv

/-- **No text of a value is shorter** than the one that is written. -/
theorem length_write_le {doubles : Doubles D} {v : Value D} (hv : Exact v)
    (h : parse doubles d = some v) : (write doubles v).length ≤ d.length := by
  rw [parse] at h
  obtain ⟨⟨v', r⟩, hvalue, h⟩ := Option.bind_eq_some_iff.mp h
  obtain ⟨-, heq⟩ := Option.ite_none_right_eq_some.mp h
  cases heq
  have hspan := spans_readValue doubles _ _ _ _ hvalue hv
  have hskip := length_skipWhitespace_le d
  omega

end Json

import Mathlib.Data.Bool.AllAny
import Mathlib.Data.List.TakeWhile
import Sadip.Machinery.Sql.Letters

/-!
# Machinery/Sql/Literal — which strings come back as they went in

`%s` stops at a NUL (`cut`), and between quotes a doubled quote is one quote and a backslash takes
the character behind it.  So a string is stored as it is if it has no NUL and no quote, and behind
each backslash a percent sign or an underscore (`isLiteral`).

No other string is.  One that has a quote may well swallow the quote that is to end it; but every
character that is lost in reading is lost together with a quote or a backslash (`Quoted.count`), and
the text behind the string starts with neither, so what is read is never the string that was meant
(`isLiteral_of_scan`).  For a whole text, `tokens_eq_iff`: it is read as it is meant exactly if its
strings are literal.
-/

namespace Sql

open Printf

/-! ## Strings -/

/-- What `%s` prints. -/
def cut (s : List Char) : List Char := s.takeWhile (· ≠ '\x00')

/-- Between quotes the string denotes itself, and there is all of it. -/
def isLiteral : List Char → Bool
  | [] => true
  | '\\' :: c :: s => (c == '%' || c == '_') && isLiteral s
  | c :: s => isPlain c && c != '\x00' && isLiteral s

/-- Characters, and what is read of them between quotes. -/
inductive Quoted : List Char → List Char → Prop
  | nil : Quoted [] []
  | plain {c : Char} {r u : List Char} (hc : isPlain c = true) (h : Quoted r u) :
      Quoted (c :: r) (c :: u)
  | quote {r u : List Char} (h : Quoted r u) : Quoted ('\'' :: '\'' :: r) ('\'' :: u)
  | escape (c : Char) {r u : List Char} (h : Quoted r u) : Quoted ('\\' :: c :: r) (unescape c ++ u)

theorem step_text_of_isPlain {c : Char} (hc : isPlain c = true) (t : List Char) :
    step (.text t) c = some (.text (t ++ [c]), []) := by
  rw [isPlain, Bool.and_eq_true, bne_iff_ne, bne_iff_ne] at hc
  rw [step, if_neg hc.1, if_neg hc.2]

theorem Quoted.denotes {r u : List Char} (h : Quoted r u) : Denotes r u := by
  induction h with
  | nil => exact fun t => by rw [scan_nil, List.append_nil]
  | @plain c r u hc _ ih =>
    intro t
    rw [scan_cons_of_step (step_text_of_isPlain hc t), after_nil, ih, List.append_assoc]
    rfl
  | @quote r u _ ih =>
    intro t
    have hopen : step (.text t) '\'' = some (.quote t, []) := rfl
    have hclose : step (.quote t) '\'' = some (.text (t ++ ['\'']), []) := rfl
    rw [scan_cons_of_step hopen, after_nil, scan_cons_of_step hclose, after_nil, ih,
      List.append_assoc]
    rfl
  | @escape c r u _ ih =>
    intro t
    have hopen : step (.text t) '\\' = some (.escape t, []) := rfl
    have hclose : step (.escape t) c = some (.text (t ++ unescape c), []) := rfl
    rw [scan_cons_of_step hopen, after_nil, scan_cons_of_step hclose, after_nil, ih,
      List.append_assoc]

/-- `\%` and `\_` are two characters, every other escape sequence is one. -/
theorem unescape_cases (c : Char) :
    (unescape c = ['\\', c] ∧ (c = '%' ∨ c = '_')) ∨
      ∃ d, unescape c = [d] ∧ (isPlain d = isPlain c) := by
  unfold unescape
  split_ifs with hn ht hr hb hZ h0 hkept
  · exact .inr ⟨_, rfl, by rw [hn]; rfl⟩
  · exact .inr ⟨_, rfl, by rw [ht]; rfl⟩
  · exact .inr ⟨_, rfl, by rw [hr]; rfl⟩
  · exact .inr ⟨_, rfl, by rw [hb]; rfl⟩
  · exact .inr ⟨_, rfl, by rw [hZ]; rfl⟩
  · exact .inr ⟨_, rfl, by rw [h0]; rfl⟩
  · exact .inl ⟨rfl, hkept⟩
  · exact .inr ⟨c, rfl, rfl⟩

theorem isPlain_of_kept {c : Char} (hc : c = '%' ∨ c = '_') : isPlain c = true := by
  rcases hc with rfl | rfl <;> rfl

/-- How many characters do not stand for themselves. -/
def marks (s : List Char) : ℕ := s.countP (!isPlain ·)

theorem marks_cons (c : Char) (s : List Char) :
    marks (c :: s) = marks s + if isPlain c = true then 0 else 1 := by
  rw [marks, List.countP_cons, marks]
  cases isPlain c <;> rfl

theorem marks_le_length (s : List Char) : marks s ≤ s.length := List.countP_le_length

/-- **What is lost** is lost with a quote or a backslash. -/
theorem Quoted.count {r u : List Char} (h : Quoted r u) :
    marks r + u.length = marks u + r.length := by
  have hquote : isPlain '\'' = false := rfl
  have hbackslash : isPlain '\\' = false := rfl
  induction h with
  | nil => rfl
  | plain hc _ ih =>
    simp only [marks_cons, hc, if_true, List.length_cons]
    omega
  | quote _ ih =>
    simp only [marks_cons, hquote, Bool.false_eq_true, if_false, List.length_cons]
    omega
  | escape c _ ih =>
    rcases unescape_cases c with ⟨hc, hkept⟩ | ⟨d, hc, hd⟩
    · simp only [hc, List.cons_append, List.nil_append, marks_cons, hbackslash,
        isPlain_of_kept hkept, if_true, Bool.false_eq_true, if_false, List.length_cons]
      omega
    · simp only [hc, List.cons_append, List.nil_append, marks_cons, hbackslash, hd,
        Bool.false_eq_true, if_false, List.length_cons]
      omega

theorem Quoted.length_le {r u : List Char} (h : Quoted r u) : u.length ≤ r.length := by
  induction h with
  | nil => exact Nat.le_refl 0
  | plain _ _ ih => exact Nat.succ_le_succ ih
  | quote _ ih => exact Nat.succ_le_succ (Nat.le_succ_of_le ih)
  | escape c _ ih =>
    rcases unescape_cases c with ⟨hc, -⟩ | ⟨d, hc, -⟩
    · rw [hc]
      exact Nat.succ_le_succ (Nat.succ_le_succ ih)
    · rw [hc]
      exact Nat.succ_le_succ (Nat.le_succ_of_le ih)

/-- What is read of the characters before a place where a string might have ended. -/
theorem Quoted.split {r v : List Char} (h : Quoted r v) : ∀ {a b : List Char}, v = a ++ b →
    (∀ c u, b = c :: u → c ≠ '%' ∧ c ≠ '_') →
      ∃ r₁ r₂, r = r₁ ++ r₂ ∧ Quoted r₁ a ∧ Quoted r₂ b := by
  induction h with
  | nil =>
    intro a b hv _
    obtain ⟨rfl, rfl⟩ := List.append_eq_nil_iff.mp hv.symm
    exact ⟨[], [], rfl, .nil, .nil⟩
  | @plain c r u hc h ih =>
    rintro (- | ⟨x, a⟩) b hv hb
    · obtain rfl : c :: u = b := hv
      exact ⟨[], c :: r, rfl, .nil, .plain hc h⟩
    · obtain ⟨rfl, hu⟩ := List.cons_eq_cons.mp (hv.trans List.cons_append)
      obtain ⟨r₁, r₂, rfl, h₁, h₂⟩ := ih hu hb
      exact ⟨c :: r₁, r₂, rfl, .plain hc h₁, h₂⟩
  | @quote r u h ih =>
    rintro (- | ⟨x, a⟩) b hv hb
    · obtain rfl : '\'' :: u = b := hv
      exact ⟨[], _, rfl, .nil, .quote h⟩
    · obtain ⟨rfl, hu⟩ := List.cons_eq_cons.mp (hv.trans List.cons_append)
      obtain ⟨r₁, r₂, rfl, h₁, h₂⟩ := ih hu hb
      exact ⟨_, r₂, rfl, .quote h₁, h₂⟩
  | @escape c r u h ih =>
    rintro (- | ⟨x, a⟩) b hv hb
    · obtain rfl : unescape c ++ u = b := hv
      exact ⟨[], _, rfl, .nil, .escape c h⟩
    rw [List.cons_append] at hv
    rcases unescape_cases c with ⟨hc, hkept⟩ | ⟨d, hc, -⟩
    · have hescape : ∀ {r₁ a₁ : List Char}, Quoted r₁ a₁ →
          Quoted ('\\' :: c :: r₁) ('\\' :: c :: a₁) := by
        intro r₁ a₁ h₁
        have h₂ := h₁.escape c
        rwa [hc] at h₂
      rw [hc] at hv
      obtain ⟨rfl, hu⟩ := List.cons_eq_cons.mp hv
      rcases a with - | ⟨y, a⟩
      · -- the place is not between the backslash and the character it is kept for
        obtain ⟨hpercent, hunderscore⟩ := hb c u hu.symm
        exact absurd hkept (not_or.mpr ⟨hpercent, hunderscore⟩)
      · obtain ⟨rfl, hu'⟩ := List.cons_eq_cons.mp (hu.trans List.cons_append)
        obtain ⟨r₁, r₂, rfl, h₁, h₂⟩ := ih hu' hb
        exact ⟨_, r₂, rfl, hescape h₁, h₂⟩
    · rw [hc] at hv
      obtain ⟨rfl, hu⟩ := List.cons_eq_cons.mp hv
      obtain ⟨r₁, r₂, rfl, h₁, h₂⟩ := ih hu hb
      have hescape := h₁.escape c
      rw [hc] at hescape
      exact ⟨_, r₂, rfl, hescape, h₂⟩

/-- Between quotes a text ends at the first quote that is not doubled. -/
theorem exists_quoted : ∀ {cs t : List Char} {m : Mode} {x : Token} {ts : List Token},
    scan (.text t) cs = some (m, x :: ts) → ∃ r u c rest, cs = r ++ '\'' :: c :: rest ∧
      c ≠ '\'' ∧ Quoted r u ∧ x = .text (t ++ u)
  | [], t, m, x, ts, h => by cases h
  | [c], t, m, x, ts, h => by
      rw [scan_cons, step] at h
      split_ifs at h <;> cases h
  | c :: d :: cs, t, m, x, ts, h => by
      by_cases hquote : c = '\''
      · subst hquote
        have hopen : step (.text t) '\'' = some (.quote t, []) := rfl
        rw [scan_cons_of_step hopen, after_nil] at h
        by_cases hd : d = '\''
        · subst hd
          have hclose : step (.quote t) '\'' = some (.text (t ++ ['\'']), []) := rfl
          rw [scan_cons_of_step hclose, after_nil] at h
          obtain ⟨r, u, c, rest, rfl, hc, hr, rfl⟩ := exists_quoted h
          exact ⟨_, _, c, rest, rfl, hc, .quote hr, by rw [List.append_assoc]; rfl⟩
        · refine ⟨[], [], d, cs, rfl, hd, .nil, ?_⟩
          rw [scan_cons, step, if_neg hd] at h
          obtain ⟨⟨m', us⟩, hstep, h⟩ := Option.bind_eq_some_iff.mp h
          obtain ⟨⟨m'', vs⟩, -, hstep⟩ := Option.map_eq_some_iff.mp hstep
          obtain ⟨⟨m₃, ws⟩, -, h⟩ := Option.map_eq_some_iff.mp h
          obtain ⟨-, rfl⟩ := Prod.mk.inj hstep
          obtain ⟨-, h⟩ := Prod.mk.inj h
          rw [List.append_nil]
          exact (List.cons.inj h).1.symm
      by_cases hbackslash : c = '\\'
      · subst hbackslash
        have hopen : step (.text t) '\\' = some (.escape t, []) := rfl
        have hclose : step (.escape t) d = some (.text (t ++ unescape d), []) := rfl
        rw [scan_cons_of_step hopen, after_nil, scan_cons_of_step hclose, after_nil] at h
        obtain ⟨r, u, c, rest, rfl, hc, hr, rfl⟩ := exists_quoted h
        exact ⟨_, _, c, rest, rfl, hc, .escape d hr, by rw [List.append_assoc]⟩
      · have hplain : isPlain c = true := by
          rw [isPlain, Bool.and_eq_true, bne_iff_ne, bne_iff_ne]
          exact ⟨hquote, hbackslash⟩
        rw [scan_cons_of_step (step_text_of_isPlain hplain t), after_nil] at h
        obtain ⟨r, u, e, rest, heq, hc, hr, rfl⟩ := exists_quoted h
        refine ⟨c :: r, c :: u, e, rest, by rw [heq]; rfl, hc, .plain hplain hr, ?_⟩
        rw [List.append_assoc]
        rfl

theorem isLiteral_cons {c : Char} (hc : c ≠ '\\') (s : List Char) :
    isLiteral (c :: s) = (isPlain c && c != '\x00' && isLiteral s) := by
  rw [isLiteral]
  rintro d s' rfl
  exact absurd rfl hc

/-- A string that is read as itself is literal, -/
theorem Quoted.isLiteral {r u : List Char} (h : Quoted r u) :
    r = u → '\x00' ∉ r → isLiteral r = true := by
  induction h with
  | nil => exact fun _ _ => rfl
  | @plain c r u hc _ ih =>
    intro heq hnul
    rw [List.mem_cons, not_or] at hnul
    rw [isPlain, Bool.and_eq_true, bne_iff_ne, bne_iff_ne] at hc
    rw [isLiteral_cons hc.2, ih (List.cons_eq_cons.mp heq).2 hnul.2, isPlain, bne_iff_ne.mpr hc.1,
      bne_iff_ne.mpr hc.2, bne_iff_ne.mpr (Ne.symm hnul.1)]
    rfl
  | @quote r u h _ =>
    intro heq
    obtain rfl := (List.cons_eq_cons.mp heq).2
    exact absurd h.length_le (Nat.not_succ_le_self r.length)
  | @escape c r u h ih =>
    intro heq hnul
    rcases unescape_cases c with ⟨hc, hkept⟩ | ⟨d, hc, -⟩
    · rw [hc] at heq
      obtain rfl := (List.cons_eq_cons.mp (List.cons_eq_cons.mp heq).2).2
      rw [Sql.isLiteral, ih rfl fun hmem => hnul (.tail _ (.tail _ hmem)), Bool.and_true,
        Bool.or_eq_true, beq_iff_eq, beq_iff_eq]
      exact hkept
    · rw [hc] at heq
      obtain rfl := (List.cons_eq_cons.mp heq).2
      exact absurd h.length_le (Nat.not_succ_le_self r.length)

theorem isLiteral_backslash {s : List Char} (h : isLiteral ('\\' :: s) = true) :
    ∃ c s', s = c :: s' ∧ (c = '%' ∨ c = '_') ∧ isLiteral s' = true := by
  rcases s with - | ⟨c, s⟩
  · cases h
  · rw [isLiteral, Bool.and_eq_true, Bool.or_eq_true, beq_iff_eq, beq_iff_eq] at h
    exact ⟨c, s, rfl, h⟩

/-- and a literal string is read as itself. -/
theorem quoted_of_isLiteral : ∀ {s : List Char}, isLiteral s = true → Quoted s s
  | [], _ => .nil
  | c :: s, h => by
      by_cases hc : c = '\\'
      · subst hc
        obtain ⟨d, s', rfl, hd, hs⟩ := isLiteral_backslash h
        have hescape := (quoted_of_isLiteral hs).escape d
        rcases hd with rfl | rfl
        · exact hescape
        · exact hescape
      · rw [isLiteral_cons hc, Bool.and_eq_true, Bool.and_eq_true] at h
        exact .plain h.1.1 (quoted_of_isLiteral h.2)

theorem not_mem_of_isLiteral : ∀ {s : List Char}, isLiteral s = true → '\x00' ∉ s
  | [], _ => List.not_mem_nil
  | c :: s, h => by
      by_cases hc : c = '\\'
      · subst hc
        obtain ⟨d, s', rfl, hd, hs⟩ := isLiteral_backslash h
        have hs' := not_mem_of_isLiteral hs
        rcases hd with rfl | rfl
        · simp [hs']
        · simp [hs']
      · rw [isLiteral_cons hc, Bool.and_eq_true, Bool.and_eq_true, bne_iff_ne] at h
        rw [List.mem_cons, not_or]
        exact ⟨Ne.symm h.1.2, not_mem_of_isLiteral h.2⟩

/-- What comes behind a string does not matter, unless a backslash at its end would take it for its
own. -/
theorem isLiteral_append {s : List Char} (hs : ∀ c ∈ s.head?, c ≠ '%' ∧ c ≠ '_') :
    ∀ r : List Char, isLiteral (r ++ s) = (isLiteral r && isLiteral s)
  | [] => rfl
  | [c] => by
      by_cases hc : c = '\\'
      · subst hc
        cases s with
        | nil => rfl
        | cons d s =>
          obtain ⟨hpercent, hunderscore⟩ := hs d rfl
          rw [List.singleton_append, isLiteral, beq_false_of_ne hpercent,
            beq_false_of_ne hunderscore]
          rfl
      · rw [List.singleton_append, isLiteral_cons hc, isLiteral_cons hc, isLiteral, Bool.and_true]
  | c :: d :: r => by
      by_cases hc : c = '\\'
      · subst hc
        rw [List.cons_append, List.cons_append, isLiteral, isLiteral, isLiteral_append hs r,
          Bool.and_assoc]
      · rw [List.cons_append, isLiteral_cons hc, isLiteral_cons hc, isLiteral_append hs (d :: r)]
        simp only [Bool.and_assoc]

theorem isLiteral_of_forall {s : List Char} (h : ∀ c ∈ s, isPlain c = true ∧ c ≠ '\x00') :
    isLiteral s = true := by
  induction s with
  | nil => rfl
  | cons c s ih =>
    obtain ⟨⟨hplain, hnul⟩, hs⟩ := List.forall_mem_cons.mp h
    have hbackslash : c ≠ '\\' := by
      rintro rfl
      cases hplain
    rw [isLiteral_cons hbackslash, hplain, bne_iff_ne.mpr hnul, ih hs]
    rfl

theorem mark_of_isAlphanum {c : Char} (h : c.isAlphanum = true) :
    isPlain c = true ∧ c ≠ '\x00' := by
  refine ⟨?_, ?_⟩
  · rw [isPlain, Bool.and_eq_true, bne_iff_ne, bne_iff_ne]
    refine ⟨?_, ?_⟩ <;> rintro rfl <;> cases h
  · rintro rfl
    cases h

theorem mark_of_mem_decimal {v : ℤ} {c : Char} (hc : c ∈ decimal v) :
    isPlain c = true ∧ c ≠ '\x00' := by
  have hdigit : ∀ c ∈ Nat.toDigits 10 v.natAbs, isPlain c = true ∧ c ≠ '\x00' := by
    intro c hc
    have hdigit : c.isDigit = true := Nat.isDigit_of_mem_toDigits (by omega) (by omega) hc
    exact mark_of_isAlphanum (by rw [Char.isAlphanum, hdigit, Bool.or_true])
  rw [decimal] at hc
  split at hc
  · rcases List.mem_cons.mp hc with rfl | hc
    · exact ⟨rfl, by decide⟩
    · exact hdigit c hc
  · exact hdigit c hc

theorem cut_of_not_mem {s : List Char} (h : '\x00' ∉ s) : cut s = s :=
  List.takeWhile_eq_self_iff.mpr fun _ hc => decide_eq_true fun hnul => h (hnul ▸ hc)

theorem not_mem_cut (s : List Char) : '\x00' ∉ cut s := by
  intro hmem
  have hne := List.mem_takeWhile_imp hmem
  exact absurd rfl (of_decide_eq_true hne)

/-- What is printed of a string, and what the NUL keeps from being printed. -/
theorem exists_cut (s : List Char) :
    ∃ z, s = cut s ++ z ∧ ∀ c u, z = c :: u → c = '\x00' := by
  refine ⟨s.dropWhile (· ≠ '\x00'), List.takeWhile_append_dropWhile.symm, fun c u hcu => ?_⟩
  have hhead := List.head?_dropWhile_not (fun c => decide (c ≠ '\x00')) s
  rw [hcu] at hhead
  simpa using hhead

theorem denotes_of_isLiteral {s : List Char} (h : isLiteral s = true) : Denotes (cut s) s := by
  rw [cut_of_not_mem (not_mem_of_isLiteral h)]
  exact (quoted_of_isLiteral h).denotes

/-- **Only a literal string is read as it was meant**, when what follows it is neither a quote nor a
backslash. -/
theorem isLiteral_of_scan {s rest t : List Char} {d : Char} {m : Mode} {ts : List Token}
    (hd : isPlain d = true) (hd0 : d ≠ '\x00')
    (h : scan (.text t) (cut s ++ '\'' :: d :: rest) = some (m, .text (t ++ s) :: ts)) :
    isLiteral s = true := by
  obtain ⟨r, u, c, rest', hr, -, hquoted, heq⟩ := exists_quoted h
  obtain rfl : s = u := List.append_cancel_left (Token.text.inj heq)
  obtain ⟨z, hz, hnul⟩ := exists_cut s
  obtain ⟨r₁, r₂, rfl, h₁, h₂⟩ : ∃ r₁ r₂, r = r₁ ++ r₂ ∧ Quoted r₁ (cut s) ∧ Quoted r₂ z :=
    hquoted.split hz fun c u hcu => by
      rw [hnul c u hcu]
      decide
  -- the quote that ends the string is not read as one of it
  have hwhole : '\'' :: d :: rest = r₂ ++ '\'' :: c :: rest' → Quoted (cut s) (cut s) →
      isLiteral s = true := by
    intro hr₂ hcut
    cases h₂ with
    | nil =>
      rw [List.append_nil] at hz
      rw [hz]
      exact hcut.isLiteral rfl (not_mem_cut s)
    | plain hx _ =>
      obtain ⟨rfl, -⟩ := List.cons_eq_cons.mp (hr₂.trans List.cons_append)
      cases hx
    | quote _ =>
      obtain ⟨-, hr₂⟩ := List.cons_eq_cons.mp (hr₂.trans List.cons_append)
      obtain ⟨rfl, -⟩ := List.cons_eq_cons.mp (hr₂.trans List.cons_append)
      cases hd
    | escape e _ =>
      obtain ⟨hx, -⟩ := List.cons_eq_cons.mp (hr₂.trans List.cons_append)
      cases hx
  have hcount := h₁.count
  have hlength := h₁.length_le
  rw [List.append_assoc, List.append_eq_append_iff] at hr
  rcases hr with ⟨v, rfl, hv⟩ | ⟨v, hv, hr⟩
  · rcases v with - | ⟨x, v⟩
    · rw [List.append_nil] at h₁
      exact hwhole hv h₁
    obtain ⟨rfl, hv'⟩ := List.cons_eq_cons.mp (hv.trans List.cons_append)
    have hmarks : v.length ≤ marks v := by
      simp only [marks, List.countP_append, List.countP_cons, List.length_append,
        List.length_cons, show isPlain '\'' = false from rfl, Bool.not_false, if_true] at hcount ⊢
      omega
    rcases v with - | ⟨x, v⟩
    · -- it is, and then there is none behind it
      rw [List.nil_append] at hv'
      cases h₂ with
      | nil =>
        obtain ⟨rfl, -⟩ := List.cons_eq_cons.mp hv'
        cases hd
      | plain hx _ =>
        obtain ⟨rfl, -⟩ := List.cons_eq_cons.mp (hv'.trans List.cons_append)
        exact absurd (hnul _ _ rfl) hd0
      | quote _ =>
        obtain ⟨rfl, -⟩ := List.cons_eq_cons.mp (hv'.trans List.cons_append)
        cases hd
      | escape e _ =>
        obtain ⟨rfl, -⟩ := List.cons_eq_cons.mp (hv'.trans List.cons_append)
        cases hd
    · obtain ⟨rfl, -⟩ := List.cons_eq_cons.mp (hv'.trans List.cons_append)
      rw [marks_cons, hd, if_pos rfl, List.length_cons] at hmarks
      have hle := marks_le_length v
      omega
  · obtain rfl : v = [] := by
      rw [hv, List.length_append] at hlength
      exact List.length_eq_zero_iff.mp (by omega)
    rw [List.append_nil] at hv
    rw [← hv] at h₁
    exact hwhole hr.symm h₁

/-- A quote behind a character that stands for itself is only read with the one that follows. -/
theorem not_quoted_append {a b u : List Char} (ha : ∀ c ∈ a.getLast?, isPlain c = true)
    (hb : b.head? ≠ some '\'') : ¬ Quoted (a ++ '\'' :: b) u := by
  intro h
  generalize hr : a ++ '\'' :: b = r at h
  induction h generalizing a with
  | nil => exact List.append_ne_nil_of_right_ne_nil a (List.cons_ne_nil _ _) hr
  | @plain c r u hc _ ih =>
    rcases a with - | ⟨x, a⟩
    · obtain ⟨rfl, -⟩ := List.cons_eq_cons.mp hr
      cases hc
    · obtain ⟨-, hr⟩ := List.cons_eq_cons.mp hr
      refine ih (fun d hd => ha d ?_) hr
      rw [List.getLast?_cons, hd]
      rfl
  | @quote r u _ ih =>
    rcases a with - | ⟨x, - | ⟨y, a⟩⟩
    · obtain ⟨-, rfl⟩ := List.cons_eq_cons.mp hr
      exact hb rfl
    · obtain ⟨rfl, -⟩ := List.cons_eq_cons.mp hr
      cases ha '\'' rfl
    · obtain ⟨-, hr⟩ := List.cons_eq_cons.mp (List.cons_eq_cons.mp hr).2
      refine ih (fun d hd => ha d ?_) hr
      rw [List.getLast?_cons, List.getLast?_cons, hd]
      rfl
  | @escape e r u _ ih =>
    rcases a with - | ⟨x, - | ⟨y, a⟩⟩
    · cases (List.cons_eq_cons.mp hr).1
    · obtain ⟨rfl, -⟩ := List.cons_eq_cons.mp hr
      cases ha '\\' rfl
    · obtain ⟨-, hr⟩ := List.cons_eq_cons.mp (List.cons_eq_cons.mp hr).2
      refine ih (fun d hd => ha d ?_) hr
      rw [List.getLast?_cons, List.getLast?_cons, hd]
      rfl

theorem Quoted.eq_of_length_le {r u : List Char} (h : Quoted r u) :
    r.length ≤ u.length → r = u := by
  induction h with
  | nil => exact fun _ => rfl
  | plain _ _ ih => exact fun hle => congrArg _ (ih (Nat.le_of_succ_le_succ hle))
  | quote h _ => exact fun hle => absurd (hle.trans (Nat.succ_le_succ h.length_le)) (by simp)
  | escape c h ih =>
    intro hle
    rcases unescape_cases c with ⟨hc, -⟩ | ⟨d, hc, -⟩
    · rw [hc] at hle ⊢
      rw [ih (Nat.le_of_succ_le_succ (Nat.le_of_succ_le_succ hle))]
      rfl
    · rw [hc] at hle
      exact absurd (hle.trans (Nat.succ_le_succ h.length_le)) (by simp)

/-- **A string of which nothing is lost** is literal too, if its last character stands for
itself. -/
theorem isLiteral_of_length_le {s u rest t : List Char} {d : Char} {m : Mode} {ts : List Token}
    (hd : isPlain d = true) (hlast : ∀ c ∈ s.getLast?, isPlain c = true) (hnul : '\x00' ∉ s)
    (hle : s.length ≤ u.length)
    (h : scan (.text t) (cut s ++ '\'' :: d :: rest) = some (m, .text (t ++ u) :: ts)) :
    isLiteral s = true := by
  rw [cut_of_not_mem hnul] at h
  obtain ⟨r, v, c, rest', hr, -, hquoted, heq⟩ := exists_quoted h
  obtain rfl : u = v := List.append_cancel_left (Token.text.inj heq)
  have hlength := hquoted.length_le
  rcases List.append_eq_append_iff.mp hr with ⟨v, rfl, hv⟩ | ⟨v, rfl, -⟩
  · rcases v with - | ⟨x, v⟩
    · rw [List.append_nil] at hquoted
      exact hquoted.isLiteral (hquoted.eq_of_length_le hle) hnul
    · obtain ⟨rfl, hv'⟩ := List.cons_eq_cons.mp (hv.trans List.cons_append)
      refine absurd hquoted (not_quoted_append hlast fun hhead => ?_)
      obtain ⟨v, rfl⟩ := List.head?_eq_some_iff.mp hhead
      obtain ⟨rfl, -⟩ := List.cons_eq_cons.mp (hv'.trans List.cons_append)
      cases hd
  · rw [List.length_append] at hle
    obtain rfl : v = [] := List.length_eq_zero_iff.mp (by omega)
    rw [List.append_nil] at hnul ⊢
    exact hquoted.isLiteral (hquoted.eq_of_length_le (by omega)) hnul

/-! ## Texts -/

variable {σ : Type} {print content : σ → List Char}

theorem exists_of_after {us ts : List Token} {r : Option (Mode × List Token)} {m : Mode}
    (h : after us r = some (m, ts)) : ∃ vs, ts = us ++ vs ∧ r = some (m, vs) := by
  obtain ⟨⟨m', vs⟩, rfl, heq⟩ := Option.map_eq_some_iff.mp h
  obtain ⟨rfl, rfl⟩ := Prod.mk.inj heq
  exact ⟨vs, rfl, rfl⟩

/-- Between quotes. -/
def Mode.isQuoted : Mode → Bool
  | .text _ | .escape _ | .quote _ => true
  | _ => false

theorem isQuoted_of_step {m m' : Mode} {c : Char} (hm : m.isQuoted = true)
    (h : step m c = some (m', [])) : m'.isQuoted = true := by
  cases m with
  | text t =>
    rw [step] at h
    split_ifs at h <;> cases h <;> rfl
  | escape t =>
    cases h
    rfl
  | quote t =>
    rw [step] at h
    split_ifs at h
    · cases h
      rfl
    · obtain ⟨q, -, heq⟩ := Option.map_eq_some_iff.mp h
      cases (Prod.mk.inj heq).2
  | _ => cases hm

/-- A string that has not been read yet has not ended. -/
theorem isQuoted_of_scan : ∀ {cs : List Char} {m m' : Mode}, m.isQuoted = true →
    scan m cs = some (m', []) → m'.isQuoted = true
  | [], m, m', hm, h => by
      obtain ⟨rfl, -⟩ := Prod.mk.inj (Option.some.inj h)
      exact hm
  | c :: cs, m, m', hm, h => by
      rw [scan_cons] at h
      obtain ⟨⟨m₁, us⟩, hstep, h⟩ := Option.bind_eq_some_iff.mp h
      obtain ⟨vs, heq, h⟩ := exists_of_after h
      obtain ⟨rfl, rfl⟩ := List.append_eq_nil_iff.mp heq.symm
      exact isQuoted_of_scan (isQuoted_of_step hm hstep) h

theorem not_mark_of_step {m : Mode} {c : Char} {ts : List Token}
    (hstep : step .start c = some (m, ts)) (hc : isDelimiter c = true) :
    isPlain c = true ∧ c ≠ '\x00' := by
  refine ⟨?_, ?_⟩
  · rw [isDelimiter, Bool.and_eq_true, bne_iff_ne] at hc
    rw [isPlain, Bool.and_eq_true, bne_iff_ne, bne_iff_ne]
    refine ⟨hc.2, ?_⟩
    rintro rfl
    cases hstep
  · rintro rfl
    cases hstep

/-- The text goes on with a character that is not a quote, a backslash or NUL. -/
theorem Printing.exists_cons {ps : List Piece} {t : List (Chunk σ)} {m' : Mode} {hs : List Hole}
    (h : Printing .start ps t m' hs) (hends : ends ps = true) :
    ∃ d rest, chars print t ++ [' '] = d :: rest ∧ isDelimiter d = true ∧ isPlain d = true ∧
      d ≠ '\x00' := by
  cases h with
  | nil => exact ⟨' ', [], rfl, rfl, rfl, by decide⟩
  | @char _ m₁ _ c us ps t hs hstep _ =>
    obtain ⟨hplain, hnul⟩ := not_mark_of_step hstep hends
    exact ⟨c, _, rfl, hends, hplain, hnul⟩
  | number => cases hends

/-- What stands in such a relation to the characters read for it is literal. -/
def Recognises (R : List Char → List Char → Prop) : Prop :=
  ∀ ⦃s u rest t : List Char⦄ ⦃d : Char⦄ ⦃m : Mode⦄ ⦃ts : List Token⦄,
    isPlain d = true → d ≠ '\x00' → R s u →
      scan (.text t) (cut s ++ '\'' :: d :: rest) = some (m, .text (t ++ u) :: ts) →
      isLiteral s = true

theorem recognises_eq : Recognises (· = ·) := by
  rintro s _ rest t d m ts hd hd0 rfl h
  exact isLiteral_of_scan hd hd0 h

theorem forall₂_rel_of_eq {as bs : List (Option (List Char))} (h : as = bs) :
    List.Forall₂ (Option.Rel (· = ·)) as bs := by
  subst h
  refine List.forall₂_same.mpr fun a _ => ?_
  rcases a with - | a
  · exact .none
  · exact .some rfl

/-- **Only literal strings** let a text be read with letters in that relation to those that are
meant, whatever comes behind them. -/
theorem Printing.literal {R : List Char → List Char → Prop} (hR : Recognises R)
    (hprint : ∀ s, print s = cut (content s)) {m m' : Mode} {ps : List Piece}
    {t : List (Chunk σ)} {hs : List Hole} (h : Printing m ps t m' hs)
    {as bs : List (Option (List Char))} : ∀ {ts : List Token},
      scan m (chars print t ++ [' ']) = some (.start, ts) →
        List.Forall₂ (Option.Rel R) (letters (fill content hs (args t)) ++ as) (letters ts ++ bs) →
          ∀ s ∈ strings t, isLiteral (content s) = true := by
  induction h with
  | nil m => exact fun _ _ s hs => absurd hs List.not_mem_nil
  | @char m m₁ m' c us ps t hs hstep _ ih =>
    intro ts hscan hletters
    rw [chars_cons, chars_char, List.singleton_append, List.cons_append,
      scan_cons_of_step hstep] at hscan
    obtain ⟨vs, rfl, hrest⟩ := exists_of_after hscan
    rw [show args (.char c :: t) = args t from rfl, fill_tokens, letters_append, letters_append,
      List.append_assoc, List.append_assoc] at hletters
    have hbehind := List.forall₂_drop (letters us).length hletters
    rw [List.drop_left, List.drop_left] at hbehind
    exact ih hrest hbehind
  | @number m' a k ps t hs hsuits hk hends h ih =>
    intro ts hscan hletters
    obtain ⟨m₁, hnumber, hpending⟩ := scan_decimal a.number
    obtain ⟨d, rest, hcons, hd, -, -⟩ : ∃ d rest, chars print t ++ [' '] = d :: rest ∧ _ :=
      h.exists_cons hends
    rw [chars_cons, show (Chunk.arg a).chars print = a.chars print from rfl,
      chars_of_suits hsuits hk, List.append_assoc, scan_append_of_scan hnumber, after_nil,
      scan_of_pending hpending (by rw [hcons]; exact hd)] at hscan
    obtain ⟨vs, rfl, hrest⟩ := exists_of_after hscan
    rw [strings_arg_of_suits hsuits hk]
    exact ih hrest (List.forall₂_cons.mp hletters).2
  | @text m' a k ps t hs hsuits hends h ih =>
    intro ts hscan hletters
    obtain ⟨d, rest, hcons, hd, hplain, hnul⟩ : ∃ d rest, chars print t ++ [' '] = d :: rest ∧ _ :=
      h.exists_cons hends
    rw [chars_cons, chars_cons, chars_char, show (Chunk.arg a).chars print = a.chars print from rfl,
      List.append_assoc, List.append_assoc, List.singleton_append] at hscan
    have hquote : step (.text (a.chars content)) '\'' = some (.quote (a.chars content), []) := rfl
    -- once the argument has been read, the rest is
    have hrest : Denotes (a.chars print) (a.chars content) →
        ∀ s ∈ strings t, isLiteral (content s) = true := by
      intro hdenotes
      rw [scan_append_of_scan (hdenotes []), after_nil, List.nil_append, scan_cons_of_step hquote,
        after_nil, scan_of_pending rfl (by rw [hcons]; exact hd)] at hscan
      obtain ⟨vs, rfl, hrest⟩ := exists_of_after hscan
      exact ih hrest (List.forall₂_cons.mp hletters).2
    rcases a with v | v | v | - | s
    case str.some =>
      rw [hcons] at hscan
      rcases ts with - | ⟨x, ts⟩
      · cases isQuoted_of_scan rfl hscan
      obtain ⟨r, u, c, rest', -, -, -, rfl⟩ := exists_quoted hscan
      obtain ⟨hu⟩ : Option.Rel R (some (content s)) (some u) := (List.forall₂_cons.mp hletters).1
      have hliteral : isLiteral (content s) = true :=
        hR hplain hnul hu (by rw [← hprint s]; exact hscan)
      have hdenotes : Denotes (print s) (content s) := by
        rw [hprint s]
        exact denotes_of_isLiteral hliteral
      exact List.forall_mem_cons.mpr ⟨hliteral, hrest hdenotes⟩
    case str.none => exact hrest Quoted.nil.denotes
    all_goals exact hrest (plain_decimal _).denotes

/-- **A text is read as it is meant** exactly if its strings are literal. -/
theorem tokens_eq_iff (hprint : ∀ s, print s = cut (content s)) {ps : List Piece} {hs : List Hole}
    {t : List (Chunk σ)} (hholes : holes .start ps = some (.start, hs))
    (ht : List.Forall₂ Prints ps t) :
    tokens (chars print t) = meantTokens content t ↔
      ∀ s ∈ strings t, isLiteral (content s) = true := by
  have hmeant : meantTokens content t = some (fill content hs (args t)) :=
    meantTokens_of_holes hholes ht
  refine ⟨fun h => ?_, fun hliteral => ?_⟩
  · rw [hmeant, tokens] at h
    split at h
    · next ts hscan =>
        obtain rfl := Option.some.inj h
        have hletters : letters (fill content hs (args t)) ++ [] =
            letters (fill content hs (args t)) ++ [] := rfl
        exact (printing_of_holes hholes ht).literal recognises_eq hprint hscan
          (forall₂_rel_of_eq hletters)
    · cases h
  · rw [hmeant]
    refine tokens_chars (fun s hs => ?_) hmeant
    rw [hprint s]
    exact denotes_of_isLiteral (hliteral s hs)

/-- Literal strings are stored as they are, -/
theorem Templated.read_eq_meaning {names : List String} {t : List (Chunk σ)} (h : Templated names t)
    (hdenotes : ∀ s ∈ strings t, Denotes (print s) (content s)) :
    read (chars print t) = meaning content t := by
  obtain ⟨ps, hs, ht, hholes, -⟩ := h
  have hmeant : meantTokens content t = some (fill content hs (args t)) :=
    meantTokens_of_holes hholes ht
  rw [read, meaning, tokens_chars hdenotes hmeant, hmeant]

/-- and no other strings: the rows that are read, of this statement and of those behind it, would
not have the letters that are meant. -/
theorem Templated.literal (hprint : ∀ s, print s = cut (content s)) {names : List String}
    {t : List (Chunk σ)} (h : Templated names t) {r m : Insert} {as bs : List (Option (List Char))}
    (hr : read (chars print t) = some r) (hm : meaning content t = some m)
    (heq : m.rows.flatMap rowLetters ++ as = r.rows.flatMap rowLetters ++ bs) :
    ∀ s ∈ strings t, isLiteral (content s) = true := by
  obtain ⟨ps, hs, ht, hholes, -⟩ := h
  rw [meaning, meantTokens_of_holes hholes ht, Option.bind_some] at hm
  obtain ⟨us, htokens, hr⟩ := Option.bind_eq_some_iff.mp hr
  rw [← letters_of_insert hm, ← letters_of_insert hr] at heq
  rw [tokens] at htokens
  split at htokens
  · next ts hscan =>
      obtain rfl := Option.some.inj htokens
      exact (printing_of_holes hholes ht).literal recognises_eq hprint hscan (forall₂_rel_of_eq heq)
  · cases htokens

/-- Every string of a statement is in its rows. -/
theorem Templated.mem_rowLetters {names : List String} {t : List (Chunk σ)} (h : Templated names t)
    {m : Insert} (hm : meaning content t = some m) :
    ∀ s ∈ strings t, some (content s) ∈ m.rows.flatMap rowLetters := by
  obtain ⟨ps, hs, ht, hholes, -⟩ := h
  rw [meaning, meantTokens_of_holes hholes ht, Option.bind_some] at hm
  rw [← letters_of_insert hm]
  exact (printing_of_holes hholes ht).mem_letters

/-- The strings of a text are those among its arguments. -/
theorem strings_of_format : ∀ {ps : List Piece} {as : List (Arg σ)} {t : List (Chunk σ)},
    format ps as = some t → List.Forall₂ Arg.Suits as (convs ps) →
      strings t = strings (as.map .arg)
  | [], as, t, h, hsuits => by
      obtain rfl := Option.some.inj h
      obtain rfl := List.forall₂_nil_right_iff.mp hsuits
      rfl
  | .char c :: ps, as, t, h, hsuits => by
      rw [format, Option.map_eq_some_iff] at h
      obtain ⟨t', ht', rfl⟩ := h
      rw [strings_char, strings_of_format ht' hsuits]
  | .conv k :: ps, as, t, h, hsuits => by
      obtain ⟨a, as', t', rfl, -, ht', rfl⟩ := format_conv_eq_some h
      obtain ⟨-, hsuits'⟩ := List.forall₂_cons.mp hsuits
      show strings ([.arg a] ++ t') = strings ([.arg a] ++ as'.map .arg)
      rw [strings_append, strings_append, strings_of_format ht' hsuits']

theorem Sound.strings_row {header row table : String} {slots : List Slot}
    (h : Sound header row table slots) {as : List (Arg σ)} {r : List (Chunk σ)}
    (hr : Printed row.toList as r) (has : Fills as slots) : strings r = strings (as.map .arg) := by
  obtain ⟨body, -, -, -, -, -, -, -, -, hrow, -, hconvs, -⟩ := h.formats
  obtain ⟨ps, hps, hformat⟩ := hr
  obtain rfl := Option.some.inj (hps.symm.trans hrow)
  refine strings_of_format hformat ?_
  rw [convs, hconvs]
  exact has

end Sql

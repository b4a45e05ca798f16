import Mathlib.Data.List.Basic
import Sadip.Machinery.Printf

/-!
# Machinery/Sql — the tokens of a statement

`scan` is an automaton that turns characters into tokens, with the string literals of MySQL (doubled
quotes and backslash escapes).

Most statements are printed with a format.  `meant` reads a printed text while it is still known
which strings were put in: each of them is taken as it is, whatever characters it has.  `holes` runs
the automaton over the format alone: the tokens come out with holes, and what is meant is these
tokens with the holes filled (`meant_format`).  The characters that are printed mean the same if
every string `Denotes` itself between quotes (`scan_chars`).
-/

namespace Sql

open Printf

/-! ## Tokens -/

/-- A lexical token. -/
inductive Token
  | word (w : List Char)
  | name (n : List Char)
  | number (v : ℤ)
  | text (t : List Char)
  | opening
  | closing
  | comma
  | semicolon
  | equals
  deriving DecidableEq

/-! ## The automaton -/

/-- What has been read of a token that is not over yet. -/
inductive Mode
  | start
  | word (w : List Char)
  | name (n : List Char)
  | minus
  | digits (negative : Bool) (v : ℕ)
  | text (t : List Char)
  | escape (t : List Char)
  | quote (t : List Char)
  deriving DecidableEq

/-- Letters, digits and the underscore: what a word or a number must not run into. -/
def isWordChar (c : Char) : Bool := c.isAlphanum || c == '_'

def begin (c : Char) : Option (Mode × List Token) :=
  if c.isWhitespace then some (.start, [])
  else if c = '(' then some (.start, [.opening])
  else if c = ')' then some (.start, [.closing])
  else if c = ',' then some (.start, [.comma])
  else if c = ';' then some (.start, [.semicolon])
  else if c = '=' then some (.start, [.equals])
  else if c = '`' then some (.name [], [])
  else if c = '\'' then some (.text [], [])
  else if c = '-' then some (.minus, [])
  else if c.isDigit then some (.digits false (c.toNat - '0'.toNat), [])
  else if c.isAlpha then some (.word [c], [])
  else none

/-- The character an escape sequence stands for; `\%` and `\_` keep their backslash. -/
def unescape (c : Char) : List Char :=
  if c = 'n' then ['\n']
  else if c = 't' then ['\t']
  else if c = 'r' then ['\r']
  else if c = 'b' then ['\x08']
  else if c = 'Z' then ['\x1a']
  else if c = '0' then ['\x00']
  else if c = '%' ∨ c = '_' then ['\\', c]
  else [c]

def number (negative : Bool) (v : ℕ) : Token := .number (if negative then -v else v)

/-- Tokens already read, in front of what is still to come. -/
def after (ts : List Token) (r : Option (Mode × List Token)) : Option (Mode × List Token) :=
  r.map fun q => (q.1, ts ++ q.2)

def step : Mode → Char → Option (Mode × List Token)
  | .start, c => begin c
  | .word w, c => if isWordChar c then some (.word (w ++ [c]), []) else after [.word w] (begin c)
  | .name n, c => if c = '`' then some (.start, [.name n]) else some (.name (n ++ [c]), [])
  | .minus, c => if c.isDigit then some (.digits true (c.toNat - '0'.toNat), []) else none
  | .digits negative v, c =>
    if c.isDigit then some (.digits negative (10 * v + (c.toNat - '0'.toNat)), [])
    else if isWordChar c then none
    else after [number negative v] (begin c)
  | .text t, c =>
    if c = '\'' then some (.quote t, [])
    else if c = '\\' then some (.escape t, [])
    else some (.text (t ++ [c]), [])
  | .escape t, c => some (.text (t ++ unescape c), [])
  -- a doubled quote is a quote of the text
  | .quote t, c =>
    if c = '\'' then some (.text (t ++ ['\'']), []) else after [.text t] (begin c)

def scan : Mode → List Char → Option (Mode × List Token)
  | m, [] => some (m, [])
  | m, c :: cs => (step m c).bind fun q => after q.2 (scan q.1 cs)

@[simp] theorem after_some (ts us : List Token) (m : Mode) :
    after ts (some (m, us)) = some (m, ts ++ us) := rfl

@[simp] theorem after_nil (r : Option (Mode × List Token)) : after [] r = r := by
  rcases r with - | ⟨m, us⟩ <;> rfl

theorem after_after (ts us : List Token) (r : Option (Mode × List Token)) :
    after ts (after us r) = after (ts ++ us) r := by
  rcases r with - | ⟨m, vs⟩
  · rfl
  · rw [after_some, after_some, after_some, List.append_assoc]

@[simp] theorem scan_nil (m : Mode) : scan m [] = some (m, []) := rfl

theorem scan_cons (m : Mode) (c : Char) (cs : List Char) :
    scan m (c :: cs) = (step m c).bind fun q => after q.2 (scan q.1 cs) := rfl

theorem scan_cons_of_step {m m' : Mode} {c : Char} {ts : List Token}
    (h : step m c = some (m', ts)) (cs : List Char) :
    scan m (c :: cs) = after ts (scan m' cs) := by
  rw [scan_cons, h, Option.bind_some]

/-- **Texts are read one after the other.** -/
theorem scan_append : ∀ (as : List Char) (m : Mode) (bs : List Char),
    scan m (as ++ bs) = (scan m as).bind fun q => after q.2 (scan q.1 bs)
  | [], m, bs => by simp
  | a :: as, m, bs => by
      rw [List.cons_append, scan_cons, scan_cons]
      rcases step m a with - | ⟨m', ts⟩
      · rfl
      · rw [Option.bind_some, Option.bind_some, scan_append as m' bs]
        rcases scan m' as with - | ⟨m'', us⟩
        · rfl
        · rw [Option.bind_some, after_some, Option.bind_some, after_after]

theorem scan_append_of_scan {as : List Char} {m m' : Mode} {ts : List Token}
    (h : scan m as = some (m', ts)) (bs : List Char) :
    scan m (as ++ bs) = after ts (scan m' bs) := by
  rw [scan_append, h, Option.bind_some]

/-! ## Where a token ends -/

/-- A character that ends a number or a quoted text: none of those they are made of. -/
def isDelimiter (c : Char) : Bool := !isWordChar c && c != '\''

/-- The token that has been read if nothing more belongs to it. -/
def Mode.pending : Mode → Option Token
  | .digits negative v => some (number negative v)
  | .quote t => some (.text t)
  | _ => none

theorem not_isDigit_of_isDelimiter {c : Char} (h : isDelimiter c = true) : c.isDigit = false := by
  rw [isDelimiter, isWordChar, Char.isAlphanum, Bool.and_eq_true, Bool.not_eq_true',
    Bool.or_eq_false_iff, Bool.or_eq_false_iff] at h
  exact h.1.1.2

theorem step_of_isDelimiter {m : Mode} {x : Token} (hm : m.pending = some x) {c : Char}
    (h : isDelimiter c = true) : step m c = after [x] (begin c) := by
  have hdelimiter := h
  rw [isDelimiter, Bool.and_eq_true, Bool.not_eq_true', bne_iff_ne] at hdelimiter
  cases m with
  | digits negative v =>
      obtain rfl := Option.some.inj hm
      rw [step, not_isDigit_of_isDelimiter h, hdelimiter.1, if_neg Bool.false_ne_true,
        if_neg Bool.false_ne_true]
  | quote t =>
      obtain rfl := Option.some.inj hm
      rw [step, if_neg hdelimiter.2]
  | start => cases hm
  | word w => cases hm
  | name n => cases hm
  | minus => cases hm
  | text t => cases hm
  | escape t => cases hm

/-- The next token cannot run into the one before. -/
def Delimited : List Char → Prop
  | [] => False
  | c :: _ => isDelimiter c = true

theorem scan_of_pending {m : Mode} {x : Token} (hm : m.pending = some x) : ∀ {cs : List Char},
    Delimited cs → scan m cs = after [x] (scan .start cs)
  | c :: cs, h => by
      rw [scan_cons, scan_cons, step_of_isDelimiter hm h, show step .start c = begin c from rfl]
      rcases begin c with - | ⟨m', ts⟩
      · rfl
      · simp only [after_some, Option.bind_some, after_after]

/-! ## Numbers and texts -/

theorem scan_digits (negative : Bool) : ∀ (ds : List Char) (v : ℕ),
    (∀ d ∈ ds, d.isDigit = true) →
    scan (.digits negative v) ds = some (.digits negative (Nat.ofDigitChars 10 ds v), [])
  | [], v, _ => by simp
  | d :: ds, v, h => by
      have hstep : step (.digits negative v) d
          = some (.digits negative (10 * v + (d.toNat - '0'.toNat)), []) := by
        rw [step, if_pos (h d List.mem_cons_self)]
      rw [scan_cons_of_step hstep, after_nil,
        scan_digits negative ds _ fun x hx => h x (List.mem_cons_of_mem d hx),
        Nat.ofDigitChars_cons]

theorem begin_of_isDigit {c : Char} (h : c.isDigit = true) :
    begin c = some (.digits false (c.toNat - '0'.toNat), []) := by
  have hne : ∀ d : Char, d.isDigit = false → c ≠ d := by
    rintro d hd rfl
    rw [h] at hd
    cases hd
  have hspace : c.isWhitespace = false := by
    simp [Char.isWhitespace, hne ' ' rfl, hne '\t' rfl, hne '\r' rfl, hne '\n' rfl]
  rw [begin, hspace, if_neg (by simp), if_neg (hne '(' rfl), if_neg (hne ')' rfl),
    if_neg (hne ',' rfl), if_neg (hne ';' rfl), if_neg (hne '=' rfl), if_neg (hne '`' rfl),
    if_neg (hne '\'' rfl), if_neg (hne '-' rfl), if_pos h]

/-- A number that has been printed is read, but may not be over. -/
theorem scan_decimal (v : ℤ) :
    ∃ m, scan .start (decimal v) = some (m, []) ∧ m.pending = some (.number v) := by
  have hdigits : ∀ (negative : Bool) (m : Mode), (∀ c, c.isDigit = true →
      step m c = some (.digits negative (c.toNat - '0'.toNat), [])) →
      scan m (Nat.toDigits 10 v.natAbs) = some (.digits negative v.natAbs, []) := by
    intro negative m hm
    obtain ⟨d, ds, hds⟩ := List.exists_cons_of_ne_nil
      (Nat.toDigits_ne_nil (n := v.natAbs) (b := 10))
    have hall : ∀ c ∈ Nat.toDigits 10 v.natAbs, c.isDigit = true := fun c hc =>
      Nat.isDigit_of_mem_toDigits (by omega) (by omega) hc
    have hvalue : Nat.ofDigitChars 10 ds (d.toNat - '0'.toNat) = v.natAbs := by
      have := Nat.ofDigitChars_ten_toDigits (n := v.natAbs)
      rwa [hds, Nat.ofDigitChars_cons, Nat.mul_zero, Nat.zero_add] at this
    rw [hds] at hall ⊢
    rw [scan_cons_of_step (hm d (hall d List.mem_cons_self)), after_nil,
      scan_digits negative ds _ fun x hx => hall x (List.mem_cons_of_mem d hx), hvalue]
  rw [decimal]
  split
  · next hv =>
      have hminus : step .start '-' = some (.minus, []) := rfl
      refine ⟨.digits true v.natAbs, ?_, ?_⟩
      · rw [scan_cons_of_step hminus, after_nil, hdigits true .minus fun c hc => by
          rw [step, if_pos hc]]
      · rw [Mode.pending, number, if_pos rfl]
        congr 2
        omega
  · next hv =>
      refine ⟨.digits false v.natAbs, hdigits false .start fun c hc => begin_of_isDigit hc, ?_⟩
      rw [Mode.pending, number, if_neg Bool.false_ne_true]
      congr 2
      omega

/-- Between quotes, `raw` is read as `s`. -/
def Denotes (raw s : List Char) : Prop := ∀ t, scan (.text t) raw = some (.text (t ++ s), [])

/-- A character that stands for itself between quotes. -/
def isPlain (c : Char) : Bool := c != '\'' && c != '\\'

/-- A string without quotes and backslashes. -/
def Plain (s : List Char) : Prop := ∀ c ∈ s, isPlain c = true

instance (s : List Char) : Decidable (Plain s) := List.decidableBAll (fun c => isPlain c = true) s

theorem Plain.denotes : ∀ {s : List Char}, Plain s → Denotes s s
  | [], _, t => by simp
  | c :: s, h, t => by
      have hc := h c List.mem_cons_self
      rw [isPlain, Bool.and_eq_true, bne_iff_ne, bne_iff_ne] at hc
      have hstep : step (.text t) c = some (.text (t ++ [c]), []) := by
        rw [step, if_neg hc.1, if_neg hc.2]
      have hs : Plain s := fun x hx => h x (List.mem_cons_of_mem c hx)
      rw [scan_cons_of_step hstep, after_nil, hs.denotes, List.append_assoc, List.singleton_append]

theorem plain_decimal (v : ℤ) : Plain (decimal v) := by
  have hdigits : Plain (Nat.toDigits 10 v.natAbs) := by
    intro c hc
    have hdigit : c.isDigit = true := Nat.isDigit_of_mem_toDigits (by omega) (by omega) hc
    have hne : ∀ d : Char, d.isDigit = false → c ≠ d := by
      rintro d hd rfl
      rw [hdigit] at hd
      cases hd
    rw [isPlain, Bool.and_eq_true, bne_iff_ne, bne_iff_ne]
    exact ⟨hne '\'' rfl, hne '\\' rfl⟩
  rw [decimal]
  split
  · intro c hc
    rcases List.mem_cons.mp hc with rfl | hc
    · rfl
    · exact hdigits c hc
  · exact hdigits

/-! ## What a text means -/

section

variable {σ : Type} {content print : σ → List Char}

/-- A string that was put in between quotes is taken as it is. -/
def pass (content : σ → List Char) : Mode → Chunk σ → Option (Mode × List Token)
  | m, .char c => step m c
  | .text t, .arg (.str s) => some (.text (t ++ s.elim [] content), [])
  | _, .arg (.str _) => none
  | m, .arg a => scan m (decimal a.number)

def meant (content : σ → List Char) : Mode → List (Chunk σ) → Option (Mode × List Token)
  | m, [] => some (m, [])
  | m, x :: t => (pass content m x).bind fun q => after q.2 (meant content q.1 t)

theorem meant_cons_of_pass {m m' : Mode} {x : Chunk σ} {ts : List Token}
    (h : pass content m x = some (m', ts)) (t : List (Chunk σ)) :
    meant content m (x :: t) = after ts (meant content m' t) := by
  rw [meant, h, Option.bind_some]

theorem meant_append : ∀ (t : List (Chunk σ)) (m : Mode) (u : List (Chunk σ)),
    meant content m (t ++ u) = (meant content m t).bind fun q => after q.2 (meant content q.1 u)
  | [], m, u => by simp [meant]
  | x :: t, m, u => by
      rw [List.cons_append, meant, meant]
      rcases pass content m x with - | ⟨m', ts⟩
      · rfl
      · rw [Option.bind_some, Option.bind_some, meant_append t m' u]
        rcases meant content m' t with - | ⟨m'', us⟩
        · rfl
        · rw [Option.bind_some, after_some, Option.bind_some, after_after]

theorem meant_append_of_meant {t : List (Chunk σ)} {m m' : Mode} {ts : List Token}
    (h : meant content m t = some (m', ts)) (u : List (Chunk σ)) :
    meant content m (t ++ u) = after ts (meant content m' u) := by
  rw [meant_append, h, Option.bind_some]

theorem meant_literal : ∀ (cs : List Char) (m : Mode),
    meant content m (literal cs : List (Chunk σ)) = scan m cs
  | [], _ => rfl
  | c :: cs, m => by
      rw [scan_cons]
      exact congrArg (Option.bind (step m c)) (funext fun q =>
        congrArg (after q.2) (meant_literal cs q.1))

/-- **Strings that denote themselves are read as they are meant.** -/
theorem scan_chars : ∀ {t : List (Chunk σ)}, (∀ s ∈ strings t, Denotes (print s) (content s)) →
    ∀ {m m' : Mode} {ts : List Token}, meant content m t = some (m', ts) →
      scan m (chars print t) = some (m', ts)
  | [], _, m, m', ts, h => h
  | x :: t, hdenotes, m, m', ts, h => by
      rw [meant, Option.bind_eq_some_iff] at h
      obtain ⟨⟨m₁, us⟩, hx, h⟩ := h
      have hchunk : scan m (x.chars print) = some (m₁, us) := by
        rcases x with c | ⟨v | v | v | s⟩
        case char =>
          rw [Chunk.chars, scan_cons_of_step (show step m c = _ from hx), scan_nil, after_some,
            List.append_nil]
        case arg.str =>
          cases m with
          | text u =>
              obtain ⟨rfl, rfl⟩ := Prod.mk.inj (Option.some.inj hx)
              cases s with
              | none => exact congrArg (fun u => some (Mode.text u, [])) (List.append_nil u).symm
              | some s => exact hdenotes s List.mem_cons_self u
          | start => cases hx
          | word w => cases hx
          | name n => cases hx
          | minus => cases hx
          | digits negative v => cases hx
          | escape u => cases hx
          | quote u => cases hx
        all_goals
          rw [pass] at hx
          · exact hx
          all_goals exact nofun
      have hdenotes' : ∀ s ∈ strings t, Denotes (print s) (content s) := fun s hs =>
        hdenotes s (List.mem_append_right _ hs)
      obtain ⟨⟨m₂, vs⟩, ht, heq⟩ := Option.map_eq_some_iff.mp h
      obtain ⟨rfl, rfl⟩ := Prod.mk.inj heq
      rw [chars_cons, scan_append_of_scan hchunk, scan_chars hdenotes' ht, after_some]

end

/-! ## Formats -/

/-- A token of a format, or a hole: a number, or a text between quotes. -/
inductive Hole
  | token (t : Token)
  | number
  | text
  deriving DecidableEq

/-- What follows does not run into what was put in before it. -/
def ends : List Piece → Bool
  | [] => true
  | .char c :: _ => isDelimiter c
  | .conv _ :: _ => false

/-- The tokens of a format. -/
def holes : Mode → List Piece → Option (Mode × List Hole)
  | m, [] => some (m, [])
  | m, .char c :: ps =>
    (step m c).bind fun q => (holes q.1 ps).map fun r => (r.1, q.2.map .token ++ r.2)
  | .start, .conv k :: ps =>
    if ends ps && k != .s then (holes .start ps).map fun r => (r.1, .number :: r.2) else none
  | .text [], .conv _ :: .char '\'' :: ps =>
    if ends ps then (holes .start ps).map fun r => (r.1, .text :: r.2) else none
  | _, .conv _ :: _ => none

theorem ends_append {ps qs : List Piece} (hp : ends ps = true) (hq : ends qs = true) :
    ends (ps ++ qs) = true := by
  cases ps with
  | nil => exact hq
  | cons p ps => cases p with
    | char c => exact hp
    | conv k => exact hp

/-- Formats are read one after the other. -/
theorem holes_append {qs : List Piece} (hq : ends qs = true) : ∀ {ps : List Piece} {m m' : Mode}
    {hs : List Hole}, holes m ps = some (m', hs) →
      holes m (ps ++ qs) = (holes m' qs).map fun r => (r.1, hs ++ r.2)
  | [], m, m', hs, h => by
      obtain ⟨rfl, rfl⟩ := Prod.mk.inj (Option.some.inj h)
      exact Option.map_id'.symm
  | .char c :: ps, m, m', hs, h => by
      rw [holes] at h
      obtain ⟨⟨m₁, ts⟩, hstep, h⟩ := Option.bind_eq_some_iff.mp h
      obtain ⟨⟨m₂, hs'⟩, hps, heq⟩ := Option.map_eq_some_iff.mp h
      obtain ⟨rfl, rfl⟩ := Prod.mk.inj heq
      rw [List.cons_append, holes, hstep, Option.bind_some, holes_append hq hps, Option.map_map]
      simp only [Function.comp_def, List.append_assoc]
  | .conv k :: ps, .start, m', hs, h => by
      obtain ⟨hcond, h⟩ := Option.ite_none_right_eq_some.mp h
      obtain ⟨⟨m₂, hs'⟩, hps, heq⟩ := Option.map_eq_some_iff.mp h
      obtain ⟨rfl, rfl⟩ := Prod.mk.inj heq
      rw [Bool.and_eq_true] at hcond
      rw [List.cons_append, holes, ends_append hcond.1 hq, hcond.2, Bool.and_self, if_pos rfl,
        holes_append hq hps, Option.map_map]
      rfl
  | .conv k :: .char c :: ps, .text [], m', hs, h => by
      obtain rfl : c = '\'' := by
        by_contra hc
        simp [holes, hc] at h
      obtain ⟨hends, h⟩ := Option.ite_none_right_eq_some.mp h
      obtain ⟨⟨m₂, hs'⟩, hps, heq⟩ := Option.map_eq_some_iff.mp h
      obtain ⟨rfl, rfl⟩ := Prod.mk.inj heq
      rw [List.cons_append, List.cons_append, holes, ends_append hends hq, if_pos rfl,
        holes_append hq hps, Option.map_map]
      rfl
  | .conv _ :: [], .text [], _, _, h => by cases h
  | .conv _ :: .conv _ :: _, .text [], _, _, h => by cases h
  | .conv _ :: _, .text (_ :: _), _, _, h => by cases h
  | .conv _ :: _, .word _, _, _, h => by cases h
  | .conv _ :: _, .name _, _, _, h => by cases h
  | .conv _ :: _, .minus, _, _, h => by cases h
  | .conv _ :: _, .digits _ _, _, _, h => by cases h
  | .conv _ :: _, .escape _, _, _, h => by cases h
  | .conv _ :: _, .quote _, _, _, h => by cases h

variable {σ : Type} {content : σ → List Char}

/-- Arguments in the holes. -/
def fill (content : σ → List Char) : List Hole → List (Arg σ) → List Token
  | [], _ => []
  | .token t :: hs, as => t :: fill content hs as
  | .number :: hs, a :: as => .number a.number :: fill content hs as
  | .text :: hs, a :: as => .text (a.chars content) :: fill content hs as
  | _ :: _, [] => []

theorem fill_tokens (ts : List Token) (hs : List Hole) (as : List (Arg σ)) :
    fill content (ts.map .token ++ hs) as = ts ++ fill content hs as := by
  induction ts with
  | nil => rfl
  | cons t ts ih => exact congrArg (t :: ·) ih

/-- The text goes on with a character that ends what came before. -/
def Bounded : List (Chunk σ) → Prop
  | .char c :: _ => isDelimiter c = true
  | _ => False

theorem meant_of_pending {m : Mode} {x : Token} (hm : m.pending = some x) :
    ∀ {t : List (Chunk σ)}, Bounded t → meant content m t = after [x] (meant content .start t)
  | .char c :: t, h => by
      rw [meant, meant, pass, pass, step_of_isDelimiter hm h, show step .start c = begin c from rfl]
      rcases begin c with - | ⟨m', ts⟩
      · rfl
      · simp only [after_some, Option.bind_some, after_after]
  | .arg _ :: _, h => h.elim

theorem bounded_of_ends {ps : List Piece} {as : List (Arg σ)} {t rest : List (Chunk σ)}
    (h : ends ps = true) (ht : format ps as = some t) (hrest : Bounded rest) :
    Bounded (t ++ rest) := by
  rcases ps with - | ⟨c | k, ps⟩
  · obtain rfl := Option.some.inj ht
    exact hrest
  · rw [format, Option.map_eq_some_iff] at ht
    obtain ⟨t', -, rfl⟩ := ht
    exact h
  · cases h

/-- An argument between quotes. -/
theorem pass_text (a : Arg σ) :
    pass content (.text []) (.arg a) = some (.text (a.chars content), []) := by
  rcases a with v | v | v | s
  case str => rfl
  all_goals exact (plain_decimal _).denotes []

/-- A number that is not between quotes. -/
theorem pass_start {a : Arg σ} {k : Conv} (ha : a.Suits k) (hk : k ≠ .s) :
    pass content .start (.arg a) = scan .start (decimal a.number) := by
  rcases a with v | v | v | s
  case str => exact absurd ha hk
  all_goals rfl

/-- **A printed text means the tokens of its format**, with the arguments in the holes. -/
theorem meant_format : ∀ {ps : List Piece} {m m' : Mode} {hs : List Hole} {as : List (Arg σ)}
    {t rest : List (Chunk σ)}, holes m ps = some (m', hs) → format ps as = some t → Bounded rest →
      meant content m (t ++ rest) = after (fill content hs as) (meant content m' rest)
  | [], m, m', hs, as, t, rest, hholes, ht, _ => by
      obtain ⟨rfl, rfl⟩ := Prod.mk.inj (Option.some.inj hholes)
      obtain rfl := Option.some.inj ht
      rw [fill, after_nil]
      rfl
  | .char c :: ps, m, m', hs, as, t, rest, hholes, ht, hrest => by
      rw [holes] at hholes
      obtain ⟨⟨m₁, ts⟩, hstep, hholes⟩ := Option.bind_eq_some_iff.mp hholes
      obtain ⟨⟨m₂, hs'⟩, hholes', heq⟩ := Option.map_eq_some_iff.mp hholes
      obtain ⟨rfl, rfl⟩ := Prod.mk.inj heq
      rw [format, Option.map_eq_some_iff] at ht
      obtain ⟨t', ht', rfl⟩ := ht
      rw [List.cons_append, meant_cons_of_pass (show pass content m (.char c) = _ from hstep),
        meant_format hholes' ht' hrest, after_after, fill_tokens]
  | .conv k :: ps, m, m', hs, as, t, rest, hholes, ht, hrest => by
      obtain ⟨a, as, t', rfl, hsuits, ht', rfl⟩ := format_conv_eq_some ht
      rw [List.cons_append]
      rcases m with - | w | n | - | ⟨negative, v⟩ | ⟨- | ⟨c, t⟩⟩ | t | t
      case start =>
        obtain ⟨hcond, hholes⟩ := Option.ite_none_right_eq_some.mp hholes
        rw [Bool.and_eq_true, bne_iff_ne] at hcond
        obtain ⟨⟨m₂, hs'⟩, hholes', heq⟩ := Option.map_eq_some_iff.mp hholes
        obtain ⟨rfl, rfl⟩ := Prod.mk.inj heq
        obtain ⟨m₁, hnumber, hpending⟩ := scan_decimal a.number
        rw [← pass_start hsuits hcond.2] at hnumber
        rw [meant_cons_of_pass hnumber, after_nil,
          meant_of_pending hpending (bounded_of_ends hcond.1 ht' hrest),
          meant_format hholes' ht' hrest, after_after]
        rfl
      case text.nil =>
        rcases ps with - | ⟨c | k', ps⟩
        · cases hholes
        · obtain rfl : c = '\'' := by
            by_contra hc
            simp [holes, hc] at hholes
          obtain ⟨hends, hholes⟩ := Option.ite_none_right_eq_some.mp hholes
          obtain ⟨⟨m₂, hs'⟩, hholes', heq⟩ := Option.map_eq_some_iff.mp hholes
          obtain ⟨rfl, rfl⟩ := Prod.mk.inj heq
          rw [format, Option.map_eq_some_iff] at ht'
          obtain ⟨t'', ht'', rfl⟩ := ht'
          have hquote : pass content (.text (a.chars content)) (.char '\'')
              = some (.quote (a.chars content), []) := rfl
          rw [meant_cons_of_pass (pass_text a), after_nil, List.cons_append,
            meant_cons_of_pass hquote, after_nil,
            meant_of_pending rfl (bounded_of_ends hends ht'' hrest),
            meant_format hholes' ht'' hrest, after_after]
          rfl
        · cases hholes
      all_goals cases hholes

end Sql

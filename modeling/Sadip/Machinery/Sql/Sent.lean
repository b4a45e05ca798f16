import Sadip.Machinery.Sql.Literal

/-!
# Machinery/Sql/Sent — statements as they are sent

A statement is sent as a text, and there are tokens it is meant to have (`Sent`).  A text printed
from a format is faithful to what is meant exactly if its strings are literal (`faithful_send_iff`),
and then it has the same tokens as any other faithful text of the format, but for the strings
(`shape_send`).
-/

namespace Sql

open Printf

/-! ## Texts -/

/-- A token, less the string it is. -/
def blankToken : Token → Token
  | .text _ => .text []
  | t => t

/-- A text, and the tokens it is meant to have. -/
structure Sent where
  text : List Char
  meant : Option (List Token)

namespace Sent

/-- The text is read as it is meant. -/
def Faithful (s : Sent) : Prop := tokens s.text = s.meant

/-- What is read, less the strings. -/
def shape (s : Sent) : Option (List Token) := (tokens s.text).map (List.map blankToken)

end Sent

variable {σ τ : Type} {print content : σ → List Char} {print' content' : τ → List Char}

/-- A printed text. -/
def send (print content : σ → List Char) (t : List (Chunk σ)) : Sent :=
  ⟨chars print t, meantTokens content t⟩

theorem faithful_send_iff (hprint : ∀ s, print s = cut (content s)) {ps : List Piece}
    {hs : List Hole} {t : List (Chunk σ)} (hholes : holes .start ps = some (.start, hs))
    (ht : List.Forall₂ Prints ps t) :
    (send print content t).Faithful ↔ ∀ s ∈ strings t, isLiteral (content s) = true :=
  tokens_eq_iff hprint hholes ht

/-! ## What does not depend on the strings -/

/-- An argument, less the string it is. -/
def blankArg : Arg σ → Arg Unit
  | .int v => .int v
  | .long v => .long v
  | .ulong v => .ulong v
  | .str _ => .str none

theorem number_blankArg (a : Arg σ) : (blankArg a).number = a.number := by cases a <;> rfl

theorem map_blank_fill : ∀ (hs : List Hole) {as : List (Arg σ)} {as' : List (Arg τ)},
    as.map blankArg = as'.map blankArg →
      (fill content hs as).map blankToken = (fill content' hs as').map blankToken
  | [], _, _, _ => rfl
  | .token _ :: hs, _, _, h => congrArg (_ :: ·) (map_blank_fill hs h)
  | .number :: hs, [], [], _ => rfl
  | .text :: hs, [], [], _ => rfl
  | .number :: hs, a :: as, a' :: as', h => by
      obtain ⟨ha, has⟩ := List.cons_eq_cons.mp h
      rw [fill, fill, List.map_cons, List.map_cons, map_blank_fill hs has, ← number_blankArg a,
        ← number_blankArg a', ha]
  | .text :: hs, a :: as, a' :: as', h =>
      congrArg (_ :: ·) (map_blank_fill hs (List.cons_eq_cons.mp h).2)
  | _, [], _ :: _, h => by cases h
  | _, _ :: _, [], h => by cases h

/-- **Faithful texts of one format** differ in their strings only, if their numbers are the same. -/
theorem shape_send {ps : List Piece} {hs : List Hole} {t : List (Chunk σ)} {t' : List (Chunk τ)}
    (hholes : holes .start ps = some (.start, hs)) (ht : List.Forall₂ Prints ps t)
    (ht' : List.Forall₂ Prints ps t') (hargs : (args t).map blankArg = (args t').map blankArg)
    (h : (send print content t).Faithful) (h' : (send print' content' t').Faithful) :
    (send print content t).shape = (send print' content' t').shape := by
  rw [Sent.shape, Sent.shape, show tokens _ = _ from h, show tokens _ = _ from h', send, send,
    meantTokens_of_holes hholes ht, meantTokens_of_holes hholes ht', Option.map_some,
    Option.map_some, map_blank_fill hs hargs]

/-! ## Formats -/

/-- The format has tokens, these conversions, and so many bytes of its own. -/
def Legible (fmt : List Char) (ks : List Conv) (n : ℕ) : Prop :=
  ((pieces fmt).map fun ps => ((holes .start ps).map Prod.fst, convs ps, (ps.map Piece.bytes).sum))
    = some (some .start, ks, n)

theorem Legible.of_chars {fmt : String} {f : List Char} {ks : List Conv} {n : ℕ}
    (hf : fmt = String.ofList f) (h : ((pieces f).map fun ps =>
      ((holes .start ps).map Prod.fst, convs ps, (ps.map Piece.bytes).sum)) =
        some (some .start, ks, n)) :
    Legible fmt.toList ks n := by
  rwa [Legible, hf, String.toList_ofList]

theorem Legible.formats {fmt : List Char} {ks : List Conv} {n : ℕ} (h : Legible fmt ks n) :
    ∃ ps hs, pieces fmt = some ps ∧ holes .start ps = some (.start, hs) ∧ convs ps = ks ∧
      (ps.map Piece.bytes).sum = n := by
  obtain ⟨ps, hps, heq⟩ := Option.map_eq_some_iff.mp h
  obtain ⟨hholes, heq⟩ := Prod.mk.inj heq
  obtain ⟨hconvs, hn⟩ := Prod.mk.inj heq
  obtain ⟨⟨m, hs⟩, hholes, rfl⟩ := Option.map_eq_some_iff.mp hholes
  exact ⟨ps, hs, hps, hholes, hconvs, hn⟩

/-! ## Words and arguments in turn -/

/-- The pieces of a format that is given by its words, with a conversion behind each, and its end.
-/
def woven : List String → List Conv → String → List Piece
  | w :: ws, k :: ks, tail => w.toList.map .char ++ .conv k :: woven ws ks tail
  | _, _, tail => tail.toList.map .char

/-- What is printed with it. -/
def weave : List String → List (Arg σ) → String → List (Chunk σ)
  | w :: ws, a :: as, tail => literal w.toList ++ .arg a :: weave ws as tail
  | _, _, tail => literal tail.toList

theorem prints_weave {as : List (Arg σ)} {ks : List Conv} (h : List.Forall₂ Arg.Suits as ks)
    (tail : String) : ∀ ws : List String, List.Forall₂ Prints (woven ws ks tail)
    (weave ws as tail) := by
  induction h with
  | nil => exact fun ws => by cases ws <;> exact prints_literal _
  | cons ha _ ih =>
    intro ws
    cases ws with
    | nil => exact prints_literal _
    | cons w ws => exact List.rel_append (prints_literal _) (.cons ha (ih ws))

theorem args_append (t u : List (Chunk σ)) : args (t ++ u) = args t ++ args u := List.flatMap_append

theorem args_literal (cs : List Char) : args (literal cs : List (Chunk σ)) = [] := by
  induction cs with
  | nil => rfl
  | cons c cs ih => exact ih

theorem args_weave (tail : String) : ∀ {ws : List String} {as : List (Arg σ)},
    ws.length = as.length → args (weave ws as tail) = as
  | [], [], _ => args_literal _
  | w :: ws, a :: as, h => by
      rw [weave, args_append, args_literal, List.nil_append]
      exact congrArg (a :: ·) (args_weave tail (Nat.succ.inj h))

theorem strings_args (t : List (Chunk σ)) : strings ((args t).map .arg) = strings t := by
  induction t with
  | nil => rfl
  | cons x t ih =>
    cases x with
    | char c => exact ih
    | arg a =>
      show strings ([.arg a] ++ (args t).map .arg) = strings ([.arg a] ++ t)
      rw [strings_append, strings_append, ih]

/-! ## Lengths -/

/-- How many bytes the characters take. -/
def bytes (s : List Char) : ℕ := (s.map Char.utf8Size).sum

theorem bytes_append (s t : List Char) : bytes (s ++ t) = bytes s + bytes t := by
  rw [bytes, List.map_append, List.sum_append, bytes, bytes]

theorem utf8ByteSize_ofList (s : List Char) : (String.ofList s).utf8ByteSize = bytes s := by
  induction s with
  | nil => rfl
  | cons c s ih =>
    rw [← List.singleton_append, String.ofList_append, String.utf8ByteSize_append, ih, bytes_append,
      ← String.singleton_eq_ofList, String.utf8ByteSize_singleton]
    rfl

theorem utf8ByteSize_eq_bytes (s : String) : s.utf8ByteSize = bytes s.toList := by
  rw [← utf8ByteSize_ofList, String.ofList_toList]

/-- A chunk, less the string it is. -/
def blankChunk : Chunk σ → Chunk Unit
  | .char c => .char c
  | .arg a => .arg (blankArg a)

theorem map_blank_literal (cs : List Char) :
    (literal cs : List (Chunk σ)).map blankChunk = literal cs := by
  rw [literal, List.map_map]
  rfl

theorem map_blank_weave (tail : String) : ∀ (ws : List String) (as : List (Arg σ)),
    (weave ws as tail).map blankChunk = weave ws (as.map blankArg) tail
  | [], _ => map_blank_literal _
  | _ :: _, [] => map_blank_literal _
  | w :: ws, a :: as => by
      rw [weave, List.map_append, List.map_cons, map_blank_literal, map_blank_weave tail ws as]
      rfl

/-- The length without the strings, and that of the strings. -/
theorem size_eq_blank (print : σ → List Char) (t : List (Chunk σ)) : Printf.size print t =
    Printf.size (fun _ => []) (t.map blankChunk) +
      ((strings t).map fun s => bytes (print s)).sum := by
  induction t with
  | nil => rfl
  | cons x t ih =>
    have hx : Printf.size print [x] = Printf.size (fun _ => []) [blankChunk x] +
        ((strings [x]).map fun s => bytes (print s)).sum := by
      rcases x with c | v | v | v | - | s
      case arg.str.some =>
        show bytes (print s ++ []) = 0 + (bytes (print s) + 0)
        rw [List.append_nil, Nat.zero_add, Nat.add_zero]
      all_goals rfl
    rw [← List.singleton_append, size_append, hx, ih, List.map_append, size_append, strings_append,
      List.map_append, List.sum_append]
    exact Nat.add_add_add_comm ..

/-! ## Safety -/

/-- These strings are harmless, letters only, and as long as what is printed of the others. -/
def Replaces (harmless content : σ → List Char) : Prop :=
  ∀ s, (∀ c ∈ harmless s, c.isAlpha = true) ∧ bytes (harmless s) = bytes (cut (content s))

/-- What is sent, when the strings of a message are these: every statement is faithful, and they
have the structure that they would have with harmless strings. -/
def Secure (sent : (σ → List Char) → Option (List Sent)) (content : σ → List Char) : Prop :=
  ∃ ss, sent content = some ss ∧ (∀ s ∈ ss, s.Faithful) ∧
    ∀ harmless, Replaces harmless content →
      ∃ ss', sent harmless = some ss' ∧ ss'.map Sent.shape = ss.map Sent.shape

theorem Replaces.isLiteral {harmless content : σ → List Char} (h : Replaces harmless content)
    (s : σ) :
    isLiteral (harmless s) = true :=
  isLiteral_of_forall fun c hc => by
    have halpha := (h s).1 c hc
    exact mark_of_isAlphanum (by rw [Char.isAlphanum, halpha, Bool.true_or])

theorem Replaces.bytes_cut {harmless content : σ → List Char} (h : Replaces harmless content)
    (s : σ) :
    bytes (cut (harmless s)) = bytes (cut (content s)) := by
  rw [cut_of_not_mem (not_mem_of_isLiteral (h.isLiteral s))]
  exact (h s).2

/-- **When what is sent is safe**: `P` is exactly that it is faithful, goes over to harmless
strings, and makes the structure the same. -/
theorem secure_iff {sent : (σ → List Char) → Option (List Sent)} {P : (σ → List Char) → Prop}
    (hfaithful : ∀ content, (∃ ss, sent content = some ss ∧ ∀ s ∈ ss, s.Faithful) ↔ P content)
    (hP : ∀ {harmless content}, Replaces harmless content → P content → P harmless)
    (hshape : ∀ {harmless content ss ss'}, Replaces harmless content → sent content = some ss →
      sent harmless = some ss' → (∀ s ∈ ss, s.Faithful) → (∀ s ∈ ss', s.Faithful) →
        ss'.map Sent.shape = ss.map Sent.shape) (content : σ → List Char) :
    Secure sent content ↔ P content := by
  refine ⟨fun ⟨ss, hss, hall, _⟩ => (hfaithful content).mp ⟨ss, hss, hall⟩, fun h => ?_⟩
  obtain ⟨ss, hss, hall⟩ := (hfaithful content).mpr h
  refine ⟨ss, hss, hall, fun harmless hharmless => ?_⟩
  obtain ⟨ss', hss', hall'⟩ := (hfaithful harmless).mpr (hP hharmless h)
  exact ⟨ss', hss', hshape hharmless hss hss' hall hall'⟩

/-- What is sent if there is room for it. -/
theorem secure_ite_iff {sent : (σ → List Char) → Option (List Sent)}
    (ss : (σ → List Char) → List Sent)
    (room P : (σ → List Char) → Prop) [∀ content, Decidable (room content)]
    (hsent : ∀ content, sent content = if room content then some (ss content) else none)
    (hfaithful : ∀ content, (∀ s ∈ ss content, s.Faithful) ↔ P content)
    (hroom : ∀ {harmless content}, Replaces harmless content → P content → room content →
      room harmless)
    (hP : ∀ {harmless content}, Replaces harmless content → P content → P harmless)
    (hshape : ∀ {harmless content}, Replaces harmless content → P content → P harmless →
      (ss harmless).map Sent.shape = (ss content).map Sent.shape) (content : σ → List Char) :
    Secure sent content ↔ room content ∧ P content := by
  have hsome : ∀ {content us}, sent content = some us ↔ room content ∧ ss content = us := by
    intro content us
    rw [hsent, Option.ite_none_right_eq_some, Option.some.injEq]
  refine secure_iff (P := fun content => room content ∧ P content) (fun content => ?_)
    (fun h hcontent => ⟨hroom h hcontent.2 hcontent.1, hP h hcontent.2⟩) ?_ content
  · simp only [hsome, ← hfaithful]
    constructor
    · rintro ⟨us, ⟨hr, rfl⟩, hus⟩
      exact ⟨hr, hus⟩
    · rintro ⟨hr, hss⟩
      exact ⟨_, ⟨hr, rfl⟩, hss⟩
  · intro harmless content us us' h hus hus' hall hall'
    obtain ⟨-, rfl⟩ := hsome.mp hus
    obtain ⟨-, rfl⟩ := hsome.mp hus'
    exact hshape h ((hfaithful content).mp hall) ((hfaithful harmless).mp hall')

end Sql

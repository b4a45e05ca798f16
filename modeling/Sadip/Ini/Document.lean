import Mathlib.Data.Bool.AllAny
import Sadip.Ini.Meaning
import Sadip.Ini.Search

/-!
# Ini/Document — files that say what they mean

A document is a list of sections with entries, each of whose lines may have comments above it and
behind it, and blanks wherever they do no harm.  What a document says (`Doc.calls`) does not depend
on any of this, and it is what the reader finds (`callsOf_text`) if its lines fit the buffer.
-/

namespace Sadip

namespace Ini

open Fgets

/-- The end of a line. -/
def newline : UInt8 := '\n'.toUInt8

/-! ## The parts of lines -/

/-- A part of one line. -/
def Plain (s : Text) : Prop := ∀ c ∈ s, c ≠ newline ∧ c ≠ 0

/-- Blanks. -/
structure Gap where
  text : Text
  blank : ∀ c ∈ text, isspace c = true ∧ c ≠ newline

/-- Anything. -/
structure Rest where
  text : Text
  plain : Plain text

/-- A line that says nothing. -/
inductive Filler
  | blank (gap : Gap)
  | comment (gap : Gap) (hash : Bool) (rest : Rest)

/-- A name, perhaps with blanks behind it. -/
structure IsName (s : Text) : Prop where
  plain : Plain s
  free : Free ['='.toUInt8, ':'.toUInt8] false s
  begins : ∀ c ∈ s.head?, isspace c = false ∧ c ≠ ';'.toUInt8 ∧ c ≠ '#'.toUInt8 ∧ c ≠ '['.toUInt8

structure IsValue (s : Text) : Prop where
  plain : Plain s
  free : Free [] false s
  begins : ∀ c ∈ s.head?, isspace c = false
  ends : ∀ c ∈ s.getLast?, isspace c = false

/-- A name in a heading. -/
structure IsSection (s : Text) : Prop where
  plain : Plain s
  free : Free [']'.toUInt8] false s
  short : s.length < maxSection

structure Key where
  text : Text
  isName : IsName text
  ends : ∀ c ∈ text.getLast?, isspace c = false

structure Value where
  text : Text
  isValue : IsValue text

/-- What is behind a value: blanks, and perhaps a comment. -/
structure Behind where
  gap : Gap
  comment : Option Rest
  apart : comment ≠ none → gap.text ≠ []

structure Heading where
  above : List Filler
  name : Text
  isSection : IsSection name
  rest : Rest

/-- A line with more of a value. -/
structure More where
  above : List Filler
  gap : Gap
  value : Value
  behind : Behind
  indented : gap.text ≠ []
  nonempty : value.text ≠ []
  begins : ∀ c ∈ value.text.head?, c ≠ ';'.toUInt8 ∧ c ≠ '#'.toUInt8

structure Entry where
  above : List Filler
  key : Key
  before : Gap
  colon : Bool
  gap : Gap
  value : Value
  behind : Behind
  more : List More
  unindented : key.text = [] → before.text = []
  begins : gap.text ≠ [] → ∀ c ∈ value.text.head?, c ≠ ';'.toUInt8
  named : more ≠ [] → key.text ≠ [] ∧ key.text.length < maxName

structure Doc where
  entries : List Entry
  sections : List (Heading × List Entry)
  below : List Filler

/-! ## Their texts, and what they say -/

/-- Lines, with their ends. -/
def textOf (ls : List Text) : Text := ls.flatMap (· ++ [newline])

namespace Filler

def line : Filler → Text
  | blank gap => gap.text
  | comment gap hash rest => gap.text ++ (if hash then '#' else ';').toUInt8 :: rest.text

end Filler

def Behind.line (b : Behind) : Text := b.gap.text ++ b.comment.elim []
    fun r => ';'.toUInt8 :: r.text

namespace Heading

variable (h : Heading)

def line : Text := '['.toUInt8 :: (h.name ++ ']'.toUInt8 :: h.rest.text)

def lines : List Text := h.above.map Filler.line ++ [h.line]

end Heading

namespace More

variable (m : More)

def line : Text := m.gap.text ++ (m.value.text ++ m.behind.line)

def lines : List Text := m.above.map Filler.line ++ [m.line]

end More

namespace Entry

variable (e : Entry)

def separator : UInt8 := if e.colon then ':'.toUInt8 else '='.toUInt8

def line : Text :=
  e.key.text ++ e.before.text ++ e.separator :: (e.gap.text ++ (e.value.text ++ e.behind.line))

def lines : List Text := e.above.map Filler.line ++ e.line :: e.more.flatMap More.lines

def calls (sectionName : Text) : List Call :=
  ⟨sectionName, e.key.text, e.value.text⟩ ::
    e.more.map fun m => ⟨sectionName, e.key.text, m.value.text⟩

end Entry

namespace Doc

variable (d : Doc)

def lines : List Text :=
  d.entries.flatMap Entry.lines ++
    (d.sections.flatMap fun s => s.1.lines ++ s.2.flatMap Entry.lines) ++ d.below.map Filler.line

/-- What the document says. -/
def calls : List Call :=
  d.entries.flatMap (·.calls []) ++ d.sections.flatMap fun s => s.2.flatMap (·.calls s.1.name)

/-- The file, with a byte order mark or without. -/
def text (marked : Bool) : Text :=
  (if marked then bom else []) ++ textOf d.lines

/-- Every line fits the buffer, the first one with its mark; without a mark, there is nothing that
looks like one. -/
structure Fits (marked : Bool) : Prop where
  lines : ∀ l ∈ d.lines, l.length < maxLine
  first : marked = true → ∀ l ∈ d.lines.head?, bom.length + l.length + 1 < maxLine
  unmarked : marked = false → ¬ bom <+: d.text false

end Doc

/-! ## Documents that are put together by hand -/

instance {s : Text} : Decidable (Plain s) :=
  decidable_of_iff (s.all fun c => c ≠ newline && c ≠ 0) (by simp [Plain])

instance {s : Text} : Decidable (IsName s) :=
  decidable_of_iff (Plain s ∧ Free ['='.toUInt8, ':'.toUInt8] false s ∧ s.head?.all fun c =>
      !isspace c && c ≠ ';'.toUInt8 && c ≠ '#'.toUInt8 && c ≠ '['.toUInt8)
    ⟨fun ⟨hplain, hfree, hhead⟩ =>
        ⟨hplain, hfree, by simpa [Option.all_eq_true, and_assoc] using hhead⟩,
      fun ⟨hplain, hfree, hhead⟩ =>
        ⟨hplain, hfree, by simpa [Option.all_eq_true, and_assoc] using hhead⟩⟩

/-- No blank at the end. -/
def EndsPlain (s : Text) : Bool := s.getLast?.all (!isspace ·)

theorem endsPlain_iff {s : Text} : EndsPlain s ↔ ∀ c ∈ s.getLast?, isspace c = false := by
  simp [EndsPlain, Option.all_eq_true]

instance {s : Text} : Decidable (IsValue s) :=
  decidable_of_iff (Plain s ∧ Free [] false s ∧ s.head?.all (!isspace ·) ∧ EndsPlain s)
    ⟨fun ⟨hplain, hfree, hhead, hlast⟩ =>
        ⟨hplain, hfree, by simpa [Option.all_eq_true] using hhead, endsPlain_iff.mp hlast⟩,
      fun ⟨hplain, hfree, hhead, hlast⟩ =>
        ⟨hplain, hfree, by simpa [Option.all_eq_true] using hhead, endsPlain_iff.mpr hlast⟩⟩

instance {s : Text} : Decidable (IsSection s) :=
  decidable_of_iff (Plain s ∧ Free [']'.toUInt8] false s ∧ s.length < maxSection)
    ⟨fun ⟨hplain, hfree, hshort⟩ => ⟨hplain, hfree, hshort⟩,
      fun ⟨hplain, hfree, hshort⟩ => ⟨hplain, hfree, hshort⟩⟩

def Gap.none : Gap := ⟨[], List.forall_mem_nil _⟩

def Gap.one : Gap := ⟨[' '.toUInt8], List.forall_mem_singleton.mpr (by decide)⟩

/-- The line `key=value`. -/
def Entry.of (key value : Text) (hkey : IsName key ∧ EndsPlain key) (hvalue : IsValue value) :
    Entry where
  above := []
  key := ⟨key, hkey.1, endsPlain_iff.mp hkey.2⟩
  before := Gap.none
  colon := false
  gap := Gap.none
  value := ⟨value, hvalue⟩
  behind := ⟨Gap.none, none, fun h => absurd rfl h⟩
  more := []
  unindented _ := rfl
  begins h := absurd rfl h
  named h := absurd rfl h

/-- The line `[name]`. -/
def Heading.of (name : Text) (h : IsSection name) : Heading :=
  ⟨[], name, h, ⟨[], List.forall_mem_nil _⟩⟩

/-! ## One line -/

section Lines

variable {s t : Text} {first named : Bool} {g h : Gap}

theorem Plain.append (hs : Plain s) (ht : Plain t) : Plain (s ++ t) :=
  List.forall_mem_append.mpr ⟨hs, ht⟩

theorem Plain.cons {c : UInt8} (hc : c ≠ newline ∧ c ≠ 0) (hs : Plain s) : Plain (c :: s) :=
  List.forall_mem_cons.mpr ⟨hc, hs⟩

theorem Gap.isspace (g : Gap) : ∀ c ∈ g.text, isspace c = true := fun c hc => (g.blank c hc).1

theorem Gap.plain (g : Gap) : Plain g.text := by
  intro c hc
  obtain ⟨hspace, hne⟩ := g.blank c hc
  refine ⟨hne, ?_⟩
  rintro rfl
  exact absurd hspace (by decide)

theorem cString_of_plain (hs : Plain s) : cString s = s :=
  List.takeWhile_eq_self_iff.mpr fun c hc => decide_eq_true (hs c hc).2

theorem cString_concat (hs : Plain s) : cString (s ++ [newline]) = s ++ [newline] := by
  refine List.takeWhile_eq_self_iff.mpr (List.forall_mem_append.mpr ⟨fun c hc => ?_, ?_⟩)
  · exact decide_eq_true (hs c hc).2
  · exact List.forall_mem_singleton.mpr (by decide)

theorem rstrip_concat (s : Text) : rstrip (s ++ [newline]) = rstrip s :=
  rstrip_append_of_isspace (List.forall_mem_singleton.mpr (by decide)) s

/-- A line is what its text is, less the blanks. -/
theorem classify_of_plain (hs : Plain s) : classify false named s =
    classifyStart named (decide (lskip (rstrip s) ≠ rstrip s)) (lskip (rstrip s)) := by
  rw [classify, cString_of_plain hs, Bool.false_and, Bool.false_or, if_neg Bool.false_ne_true]

/-- The end of a line makes no difference. -/
theorem classify_concat (hs : Plain s) :
    classify false named (s ++ [newline]) = classify false named s := by
  rw [classify_of_plain hs, classify, cString_concat hs, Bool.false_and, Bool.false_or,
    if_neg Bool.false_ne_true, rstrip_concat]

/-- …and none without a mark is the first. -/
theorem classify_first (hs : ¬ bom <+: s) : classify true named s = classify false named s := by
  have hmark : bom.isPrefixOf (cString s) = false := by
    refine Bool.eq_false_iff.mpr fun h => hs ?_
    exact (List.isPrefixOf_iff_prefix.mp h).trans (List.takeWhile_prefix _)
  rw [classify, classify, hmark, Bool.true_and, Bool.false_and]

/-- Where no name goes on, blanks before a line make no difference. -/
theorem classifyStart_unnamed (moved moved' : Bool) (s : Text) :
    classifyStart false moved s = classifyStart false moved' s := by
  cases s with
  | nil => rfl
  | cons c s => simp only [classifyStart, Bool.false_eq_true, false_and, if_false]

/-- A mark at the beginning of the file is passed over. -/
theorem classify_bom (hs : Plain s) :
    classify true false (bom ++ (s ++ [newline])) = classify false false (s ++ [newline]) := by
  have hbom : cString (bom ++ (s ++ [newline])) = bom ++ (s ++ [newline]) := by
    rw [cString, List.takeWhile_append_of_pos (List.all_iff_forall_prop.mp (by decide)), ← cString,
      cString_concat hs]
  have hpre : bom.isPrefixOf (bom ++ (s ++ [newline])) = true :=
    List.isPrefixOf_iff_prefix.mpr (List.prefix_append _ _)
  rw [classify, classify, hbom, hpre, Bool.true_and, if_pos rfl, List.drop_left,
    cString_concat hs, Bool.false_and, if_neg Bool.false_ne_true]
  exact classifyStart_unnamed _ _ _

/-- The characters of a text that is not blank, behind blanks. -/
theorem lskip_rstrip_gap {c : UInt8} (hc : isspace c = false) (g : Gap) (s : Text) :
    lskip (rstrip (g.text ++ c :: s)) = c :: rstrip s := by
  rw [rstrip_append_cons hc, lskip_append_of_isspace g.isspace]
  exact lskip_of_head (by rintro d ⟨⟩; exact hc)

/-- Blanks on either side of a value. -/
theorem strip_value (g h : Gap) (v : Value) :
    rstrip (lskip (g.text ++ (v.text ++ h.text))) = v.text := by
  rw [lskip_append_of_isspace g.isspace]
  rcases hv : v.text with - | ⟨c, s⟩
  · have hnil : lskip h.text = [] := List.dropWhile_eq_nil_iff.mpr h.isspace
    rw [List.nil_append, hnil]
    rfl
  · rw [lskip_of_head, rstrip_append_of_isspace h.isspace, ← hv, rstrip_of_last v.isValue.ends]
    rintro d ⟨⟩
    exact v.isValue.begins c (by rw [hv]; rfl)

/-- **The value on a line**, without the blanks and the comment around it. -/
theorem uncommented_line (g : Gap) (v : Value) (b : Behind)
    (hv : g.text ≠ [] → ∀ c ∈ v.text.head?, c ≠ ';'.toUInt8) :
    uncommented (rstrip (g.text ++ (v.text ++ b.line))) = v.text := by
  have hgap : ∀ (h : Gap) (w : Bool), Free [] w h.text := fun h w =>
    free_of_isspace (fun c hc => ⟨h.isspace c hc, List.not_mem_nil⟩) w
  have hfree : Free [] false (g.text ++ v.text) := by
    refine free_append.mpr ⟨hgap g false, ?_⟩
    rcases eq_or_ne g.text [] with hg | hg
    · rw [hg]
      exact v.isValue.free
    · exact v.isValue.free.of_head (hv hg) _
  rcases hcomment : b.comment with - | r
  · have hline : b.line = b.gap.text := by rw [Behind.line, hcomment, Option.elim_none,
      List.append_nil]
    have hpre : rstrip (g.text ++ v.text) <+: g.text ++ v.text := rstrip_isPrefix _
    obtain ⟨t, ht⟩ := hpre
    rw [← ht] at hfree
    rw [hline, ← List.append_assoc, rstrip_append_of_isspace b.gap.isspace, uncommented,
      (free_append.mp hfree).1.find_eq]
    rcases eq_or_ne v.text [] with hnil | hne
    · have hstrip : rstrip (g.text ++ v.text) = [] := by
        rw [hnil, List.append_nil]
        exact List.rdropWhile_eq_nil_iff.mpr g.isspace
      rw [hstrip, hnil]
      rfl
    · have hstrip : rstrip (g.text ++ v.text) = g.text ++ v.text := by
        refine rstrip_of_last ?_
        rw [List.getLast?_append_of_ne_nil _ hne]
        exact v.isValue.ends
      rw [hstrip, lskip_append_of_isspace g.isspace, lskip_of_head v.isValue.begins,
        rstrip_of_last v.isValue.ends]
  · have hne : b.gap.text ≠ [] := b.apart (by rw [hcomment]; exact Option.some_ne_none r)
    have hline : g.text ++ (v.text ++ b.line) =
        (g.text ++ (v.text ++ b.gap.text)) ++ ';'.toUInt8 :: r.text := by
      rw [Behind.line, hcomment, Option.elim_some, List.append_assoc, List.append_assoc]
    have hbehind : Free [] false (g.text ++ (v.text ++ b.gap.text)) := by
      rw [← List.append_assoc]
      exact free_append.mpr ⟨hfree, hgap b.gap _⟩
    have hafter : after false (g.text ++ (v.text ++ b.gap.text)) = true := by
      rw [after_append, after_append]
      exact after_of_isspace b.gap.isspace hne _
    rw [hline, rstrip_append_cons (by decide), uncommented,
      hbehind.find_stop (.inr ⟨hafter, rfl⟩)]
    exact strip_value g b.gap v

/-! ### What each line is -/

theorem classify_filler (f : Filler) :
    classify false named f.line = .blank := by
  cases f with
  | blank gap =>
    have hnil : rstrip gap.text = [] := List.rdropWhile_eq_nil_iff.mpr gap.isspace
    rw [Filler.line, classify_of_plain gap.plain, hnil]
    rfl
  | comment gap hash rest =>
    have hspace : isspace (if hash then '#' else ';').toUInt8 = false := by cases hash <;> decide
    have hmem : (if hash then '#' else ';').toUInt8 = ';'.toUInt8 ∨
        (if hash then '#' else ';').toUInt8 = '#'.toUInt8 := by cases hash <;> decide
    have hplain : Plain (gap.text ++ (if hash then '#' else ';').toUInt8 :: rest.text) :=
      gap.plain.append (.cons (by cases hash <;> decide) rest.plain)
    rw [Filler.line, classify_of_plain hplain, lskip_rstrip_gap hspace, classifyStart,
      if_pos hmem]

theorem classify_heading (h : Heading) :
    classify false named h.line = .heading h.name := by
  have hplain : Plain h.line :=
    .cons (by decide) (h.isSection.plain.append (.cons (by decide) h.rest.plain))
  have hstrip : rstrip h.line = '['.toUInt8 :: (h.name ++ ']'.toUInt8 :: rstrip h.rest.text) := by
    rw [Heading.line, ← List.cons_append, rstrip_append_cons (by decide), List.cons_append]
  have hskip : lskip (rstrip h.line) = rstrip h.line := by
    refine lskip_of_head ?_
    rw [hstrip]
    rintro d ⟨⟩
    decide
  rw [classify_of_plain hplain, hskip, decide_eq_false (not_not.mpr rfl), hstrip,
    classifyStart, if_neg (by decide), if_neg (by simp), if_pos rfl,
    h.isSection.free.find_stop (.inl (List.mem_singleton_self _))]
  exact if_pos rfl

theorem Entry.plain_line (e : Entry) : Plain e.line := by
  have hbehind : Plain e.behind.line := by
    rw [Behind.line]
    refine e.behind.gap.plain.append ?_
    cases e.behind.comment with
    | none => exact List.forall_mem_nil _
    | some r => exact .cons (by decide) r.plain
  refine (e.key.isName.plain.append e.before.plain).append (.cons ?_ (e.gap.plain.append
    (e.value.isValue.plain.append hbehind)))
  rw [Entry.separator]
  split <;> decide

theorem classify_entry (e : Entry) :
    classify false named e.line = .pair e.key.text e.value.text := by
  have hsep : isspace e.separator = false ∧ (e.separator = '='.toUInt8 ∨
      e.separator = ':'.toUInt8) ∧ (e.separator ≠ ';'.toUInt8 ∧ e.separator ≠ '#'.toUInt8 ∧
        e.separator ≠ '['.toUInt8) := by
    rw [Entry.separator]
    split <;> decide
  obtain ⟨hspace, hmem, hne⟩ := hsep
  have hstrip : rstrip e.line = e.key.text ++ e.before.text ++
      e.separator :: rstrip (e.gap.text ++ (e.value.text ++ e.behind.line)) :=
    rstrip_append_cons hspace _ _
  -- the line begins with the name, or else with the separator
  have hhead : ∃ c s, rstrip e.line = c :: s ∧ isspace c = false ∧ c ≠ ';'.toUInt8 ∧
      c ≠ '#'.toUInt8 ∧ c ≠ '['.toUInt8 := by
    rw [hstrip]
    rcases hkey : e.key.text with - | ⟨c, s⟩
    · rw [e.unindented hkey]
      exact ⟨_, _, rfl, hspace, hne⟩
    · exact ⟨c, _, rfl, e.key.isName.begins c (by rw [hkey]; rfl)⟩
  have hfree : Free ['='.toUInt8, ':'.toUInt8] false (e.key.text ++ e.before.text) := by
    refine free_append.mpr ⟨e.key.isName.free,
      free_of_isspace (fun c hc => ⟨e.before.isspace c hc, ?_⟩) _⟩
    intro hstop
    have hnot : isspace c = false := by
      rcases List.mem_cons.mp hstop with rfl | hstop
      · rfl
      · rw [List.mem_singleton.mp hstop]
        rfl
    exact absurd (e.before.isspace c hc) (Bool.eq_false_iff.mp hnot)
  have hname : rstrip (e.key.text ++ e.before.text) = e.key.text := by
    rw [rstrip_append_of_isspace e.before.isspace, rstrip_of_last e.key.ends]
  obtain ⟨c, s, hline, hc, hsemi, hhash, hbracket⟩ := hhead
  have hskip : lskip (rstrip e.line) = rstrip e.line :=
    lskip_of_head (by rw [hline]; rintro d ⟨⟩; exact hc)
  rw [classify_of_plain e.plain_line, hskip, decide_eq_false (not_not.mpr rfl), hline,
    classifyStart, if_neg (by tauto), if_neg (by simp), if_neg hbracket, ← hline, hstrip,
    hfree.find_stop (.inl (by simpa using hmem))]
  refine (if_pos hmem).trans ?_
  rw [hname, uncommented_line e.gap e.value e.behind e.begins]

theorem More.plain_line (m : More) : Plain m.line := by
  have hbehind : Plain m.behind.line := by
    rw [Behind.line]
    refine m.behind.gap.plain.append ?_
    cases m.behind.comment with
    | none => exact List.forall_mem_nil _
    | some r => exact .cons (by decide) r.plain
  exact m.gap.plain.append (m.value.isValue.plain.append hbehind)

theorem classify_more (m : More) :
    classify false true m.line = .continuation m.value.text := by
  obtain ⟨c, s, hv⟩ := List.exists_cons_of_ne_nil m.nonempty
  have hspace : isspace c = false := m.value.isValue.begins c (by rw [hv]; rfl)
  obtain ⟨hsemi, hhash⟩ := m.begins c (by rw [hv]; rfl)
  have hline : m.line = m.gap.text ++ c :: (s ++ m.behind.line) := by
    rw [More.line, hv, List.cons_append]
  have hskip : lskip (rstrip m.line) = c :: rstrip (s ++ m.behind.line) := by
    rw [hline, lskip_rstrip_gap hspace]
  have hmoved : lskip (rstrip m.line) ≠ rstrip m.line := by
    obtain ⟨b, g, hg⟩ := List.exists_cons_of_ne_nil m.indented
    rw [hskip, hline, rstrip_append_cons hspace, hg]
    intro heq
    have hb := m.gap.isspace b (by rw [hg]; exact List.mem_cons_self)
    rw [← (List.cons.inj heq).1, hspace] at hb
    cases hb
  rw [classify_of_plain m.plain_line, decide_eq_true hmoved, hskip, classifyStart,
    if_neg (by tauto), if_pos ⟨rfl, rfl⟩]
  have hvalue : uncommented (rstrip (m.value.text ++ m.behind.line)) = m.value.text :=
    uncommented_line ⟨[], List.forall_mem_nil _⟩ m.value m.behind fun h => absurd rfl h
  have hrest : rstrip (m.value.text ++ m.behind.line) = c :: rstrip (s ++ m.behind.line) := by
    rw [hv, List.cons_append]
    exact rstrip_append_cons hspace [] _
  -- a text that begins with no blank has none to skip
  have hnot : ¬ (c ∈ ([] : Text) ∨ false = true ∧ c = ';'.toUInt8) := by simp
  rw [hrest, uncommented, find_cons_of_not hnot, lskip_of_head (by rintro d ⟨⟩; exact hspace)]
    at hvalue
  rw [find_cons_of_not hnot, hvalue]

end Lines

/-! ## Many lines -/

/-- What the lines of a text are, below a name. -/
def linesFrom (p content : Text) : List Line :=
  scan false (decide (p ≠ [])) (Fgets.lines newline (maxLine - 1) content)

/-- Reading these lines below a heading and a name: what they say, and what is left behind. -/
structure Reads (s p : Text) (ls : List Text) (cs : List Call) (s' p' : Text) : Prop where
  plain : ∀ l ∈ ls, Plain l
  calls : (∀ l ∈ ls, l.length < maxLine) → ∀ rest,
    meaning s p (linesFrom p (textOf ls ++ rest)) = cs ++ meaning s' p' (linesFrom p' rest)
  good : (∀ l ∈ ls, l.length < maxLine) → ∀ rest,
    .bad ∈ linesFrom p (textOf ls ++ rest) → .bad ∈ linesFrom p' rest

section Reading

variable {s p s' p' s'' p'' l rest : Text} {ls ls' : List Text} {cs cs' : List Call} {k : Line}

theorem Reads.nil (s p : Text) : Reads s p [] [] s p where
  plain := List.forall_mem_nil _
  calls _ _ := rfl
  good _ _ h := h

theorem textOf_append (ls ls' : List Text) : textOf (ls ++ ls') = textOf ls ++ textOf ls' :=
  List.flatMap_append

theorem Reads.append (h : Reads s p ls cs s' p') (h' : Reads s' p' ls' cs' s'' p'') :
    Reads s p (ls ++ ls') (cs ++ cs') s'' p'' where
  plain := List.forall_mem_append.mpr ⟨h.plain, h'.plain⟩
  calls hfits rest := by
    obtain ⟨hfits, hfits'⟩ := List.forall_mem_append.mp hfits
    rw [textOf_append, List.append_assoc, h.calls hfits, h'.calls hfits', List.append_assoc]
  good hfits rest hbad := by
    obtain ⟨hfits, hfits'⟩ := List.forall_mem_append.mp hfits
    rw [textOf_append, List.append_assoc] at hbad
    exact h'.good hfits' rest (h.good hfits _ hbad)

theorem newline_not_mem (h : Plain l) : newline ∉ l := fun hmem => (h _ hmem).1 rfl

theorem linesFrom_cons (hs : rest ≠ []) : linesFrom p rest =
    classify false (decide (p ≠ [])) (fgets newline (maxLine - 1) rest).1 ::
      scan false (stillNamed (decide (p ≠ []))
          (classify false (decide (p ≠ [])) (fgets newline (maxLine - 1) rest).1))
        (Fgets.lines newline (maxLine - 1) (fgets newline (maxLine - 1) rest).2) := by
  rw [linesFrom, lines_of_ne_nil (by decide) hs, scan]

/-- An end of a line that is left alone is a blank line. -/
theorem linesFrom_newline (p rest : Text) :
    linesFrom p (newline :: rest) = .blank :: linesFrom p rest := by
  have hread : fgets newline (maxLine - 1) (newline :: rest) = ([newline], rest) := fgets_cons_self
  rw [linesFrom_cons (List.cons_ne_nil _ _), hread]
  rfl

/-- A line, and perhaps what is left of it when its end does not fit. -/
theorem linesFrom_line (hplain : Plain l) (hfits : l.length < maxLine)
    (hclass : classify false (decide (p ≠ [])) l = k)
    (hnamed : stillNamed (decide (p ≠ [])) k = decide (p' ≠ [])) (rest : Text) :
    linesFrom p (l ++ newline :: rest) = k :: linesFrom p' rest ∨
      linesFrom p (l ++ newline :: rest) = k :: .blank :: linesFrom p' rest := by
  have hne : l ++ newline :: rest ≠ [] := by simp
  rcases Nat.lt_or_eq_of_le (Nat.le_sub_one_of_lt hfits) with hlt | heq
  · rw [linesFrom_cons hne, fgets_line (newline_not_mem hplain) hlt, classify_concat hplain, hclass,
      hnamed]
    exact .inl rfl
  · have hread : fgets newline (maxLine - 1) (l ++ newline :: rest) = (l, newline :: rest) := by
      rw [fgets_long (newline_not_mem hplain) heq.ge, ← heq, List.take_length, List.drop_length,
        List.nil_append]
    rw [linesFrom_cons hne, hread, hclass, hnamed, ← linesFrom_newline]
    exact .inr rfl

/-- A line that is not bad. -/
theorem Reads.line (hplain : Plain l) (hclass : classify false (decide (p ≠ [])) l = k)
    (hbad : k ≠ .bad) (hnamed : stillNamed (decide (p ≠ [])) k = decide (p' ≠ []))
    (hcalls : ∀ ks, meaning s p (k :: ks) = cs ++ meaning s' p' ks) :
    Reads s p [l] cs s' p' where
  plain := List.forall_mem_singleton.mpr hplain
  calls hfits rest := by
    have htext : textOf [l] ++ rest = l ++ newline :: rest := by simp [textOf]
    rw [htext]
    rcases linesFrom_line hplain (hfits l (List.mem_singleton_self l)) hclass hnamed rest with h | h
    · rw [h, hcalls]
    · rw [h, hcalls, meaning_blank]
  good hfits rest hmem := by
    have htext : textOf [l] ++ rest = l ++ newline :: rest := by simp [textOf]
    rw [htext] at hmem
    rcases linesFrom_line hplain (hfits l (List.mem_singleton_self l)) hclass hnamed rest with h | h
    all_goals
      rw [h] at hmem
      simpa [hbad.symm] using hmem

theorem Filler.plain_line (f : Filler) : Plain f.line := by
  cases f with
  | blank gap => exact gap.plain
  | comment gap hash rest =>
    exact gap.plain.append (.cons (by cases hash <;> decide) rest.plain)

theorem reads_fillers (s p : Text) (fs : List Filler) : Reads s p (fs.map Filler.line) [] s p := by
  induction fs with
  | nil => exact .nil s p
  | cons f fs ih =>
    have hline : Reads s p [f.line] [] s p :=
      .line f.plain_line (classify_filler f) nofun rfl fun _ => rfl
    exact hline.append ih

theorem Heading.plain_line (h : Heading) : Plain h.line :=
  .cons (by decide) (h.isSection.plain.append (.cons (by decide) h.rest.plain))

theorem reads_heading (s p : Text) (h : Heading) : Reads s p h.lines [] h.name [] := by
  refine (reads_fillers s p h.above).append
    (.line h.plain_line (classify_heading h) nofun rfl fun ks => ?_)
  rw [meaning, strncpy0_of_short h.isSection.short, List.nil_append]

theorem reads_more (hp : p ≠ []) (s : Text) (m : More) :
    Reads s p m.lines [⟨s, p, m.value.text⟩] s p := by
  have hclass : classify false (decide (p ≠ [])) m.line = .continuation m.value.text := by
    rw [decide_eq_true hp]
    exact classify_more m
  exact (reads_fillers s p m.above).append (.line m.plain_line hclass nofun rfl fun ks => rfl)

theorem reads_mores (hp : p ≠ []) (s : Text) (ms : List More) :
    Reads s p (ms.flatMap More.lines) (ms.map fun m => ⟨s, p, m.value.text⟩) s p := by
  induction ms with
  | nil => exact .nil s p
  | cons m ms ih => exact (reads_more hp s m).append ih

theorem reads_entry (s p : Text) (e : Entry) :
    Reads s p e.lines (e.calls s) s (strncpy0 e.key.text maxName) := by
  have hpair : Reads s p [e.line] [⟨s, e.key.text, e.value.text⟩] s (strncpy0 e.key.text maxName) :=
    .line e.plain_line (classify_entry e) nofun
      (decide_eq_decide.mpr (not_congr (strncpy0_eq_nil_iff (by decide)).symm)) fun ks => rfl
  suffices hmore : Reads s (strncpy0 e.key.text maxName) (e.more.flatMap More.lines)
      (e.more.map fun m => ⟨s, e.key.text, m.value.text⟩) s (strncpy0 e.key.text maxName) from
    (reads_fillers s p e.above).append (hpair.append hmore)
  rcases eq_or_ne e.more [] with hnil | hne
  · rw [hnil]
    exact .nil _ _
  · -- a name that is gone on with is not cut
    obtain ⟨hname, hshort⟩ := e.named hne
    rw [strncpy0_of_short hshort]
    exact reads_mores hname s e.more

theorem reads_entries (s p : Text) (es : List Entry) :
    ∃ p', Reads s p (es.flatMap Entry.lines) (es.flatMap (·.calls s)) s p' := by
  induction es generalizing p with
  | nil => exact ⟨p, .nil s p⟩
  | cons e es ih =>
    obtain ⟨p', h⟩ := ih (strncpy0 e.key.text maxName)
    exact ⟨p', (reads_entry s p e).append h⟩

theorem reads_sections (s p : Text) (ss : List (Heading × List Entry)) :
    ∃ s' p', Reads s p (ss.flatMap fun s => s.1.lines ++ s.2.flatMap Entry.lines)
      (ss.flatMap fun s => s.2.flatMap (·.calls s.1.name)) s' p' := by
  induction ss generalizing s p with
  | nil => exact ⟨s, p, .nil s p⟩
  | cons x ss ih =>
    obtain ⟨p₁, h₁⟩ := reads_entries x.1.name [] x.2
    obtain ⟨s', p', h'⟩ := ih x.1.name p₁
    exact ⟨s', p', ((reads_heading s p x.1).append h₁).append h'⟩

theorem reads_doc (d : Doc) : ∃ s' p', Reads [] [] d.lines d.calls s' p' := by
  obtain ⟨p₁, h₁⟩ := reads_entries [] [] d.entries
  obtain ⟨s', p', h'⟩ := reads_sections [] p₁ d.sections
  have h := (h₁.append h').append (reads_fillers s' p' d.below)
  rw [List.append_nil] at h
  exact ⟨s', p', h⟩

end Reading

/-! ## The file -/

section File

variable {content : Text} {marked : Bool}

/-- A file without a mark. -/
theorem linesOf_unmarked (h : ¬ bom <+: content) : linesOf content = linesFrom [] content := by
  rcases eq_or_ne content [] with rfl | hne
  · rfl
  have hpre : (fgets newline (maxLine - 1) content).1 <+: content :=
    ⟨_, fgets_append newline (maxLine - 1) content⟩
  show scan true false (Fgets.lines newline (maxLine - 1) content) = _
  rw [linesFrom_cons hne, lines_of_ne_nil (by decide) hne, scan,
    classify_first fun hbom => h (hbom.trans hpre)]
  rfl

/-- A file with a mark, of which the first line fits. -/
theorem linesOf_marked {l : Text} (hl : Plain l) (hfits : bom.length + l.length + 1 < maxLine)
    (rest : Text) : linesOf (bom ++ (l ++ newline :: rest)) =
    linesFrom [] (l ++ newline :: rest) := by
  have hbom : newline ∉ bom ++ l := fun hmem =>
    (List.mem_append.mp hmem).elim (by decide) (newline_not_mem hl)
  have hroom : (bom ++ l).length < maxLine - 1 := by
    rw [List.length_append]
    exact Nat.lt_sub_of_add_lt hfits
  have hlen : l.length < maxLine - 1 :=
    Nat.lt_of_le_of_lt (by rw [List.length_append]; exact Nat.le_add_left _ _) hroom
  show scan true false (Fgets.lines newline (maxLine - 1) _) =
    scan false false (Fgets.lines newline (maxLine - 1) _)
  rw [← List.append_assoc, lines_line hbom hroom, lines_line (newline_not_mem hl) hlen, scan, scan,
    List.append_assoc, classify_bom hl]

/-- What the file of a document is, less its mark. -/
theorem linesOf_text {d : Doc} (h : d.Fits marked) (hplain : ∀ l ∈ d.lines, Plain l) :
    linesOf (d.text marked) = linesFrom [] (textOf d.lines) ∨
      linesFrom [] (textOf d.lines) = [] ∧ linesOf (d.text marked) = [.blank] := by
  cases marked with
  | false => exact .inl (linesOf_unmarked (h.unmarked rfl))
  | true =>
    rw [Doc.text, if_pos rfl]
    rcases hlines : d.lines with - | ⟨l, ls⟩
    · exact .inr ⟨rfl, rfl⟩
    · have htext : textOf (l :: ls) = l ++ newline :: textOf ls := by simp [textOf]
      rw [htext]
      exact .inl (linesOf_marked (hplain l (by rw [hlines]; exact List.mem_cons_self))
        (h.first rfl l (by rw [hlines]; rfl)) _)

/-- **A document is read as it is meant**: no line is bad, and the calls are those that it says. -/
theorem callsOf_text {d : Doc} (h : d.Fits marked) :
    callsOf (d.text marked) = d.calls ∧ firstBad (linesOf (d.text marked)) = 0 := by
  obtain ⟨s', p', hreads⟩ := reads_doc d
  have hcalls := hreads.calls h.lines []
  have hgood := hreads.good h.lines []
  rw [List.append_nil] at hcalls hgood
  have hcalls : meaning [] [] (linesFrom [] (textOf d.lines)) = d.calls :=
    hcalls.trans (List.append_nil _)
  have hgood : .bad ∉ linesFrom [] (textOf d.lines) := fun hbad => List.not_mem_nil (hgood hbad)
  rcases linesOf_text h hreads.plain with hlines | ⟨hnil, hlines⟩
  · rw [callsOf, hlines]
    exact ⟨hcalls, if_neg hgood⟩
  · rw [hnil] at hcalls
    rw [callsOf, hlines]
    exact ⟨hcalls, rfl⟩

/-- **The reader gets from a document what it says, and no error**, whatever it does with it. -/
theorem iniParse_text {σ : Type} {handler : Handler σ} (htotal : handler.Total) (user : σ) {d : Doc}
    (h : d.Fits marked) : iniParse handler user (some (d.text marked)) =
      (0, feed handler user d.calls) := by
  obtain ⟨hcalls, hbad⟩ := callsOf_text h
  rw [iniParse_eq htotal, hcalls, hbad]
  rfl

end File

/-- A heading below a comment, and an entry with blanks, a comment behind it and one more line. -/
def settingsDoc : Doc where
  entries := []
  sections := [
    ({ above := [.comment Gap.none false ⟨ascii " settings", by decide⟩]
       name := ascii "base"
       isSection := by decide
       rest := ⟨[], by decide⟩ },
    [{ above := [.blank Gap.none]
       key := ⟨ascii "name", by decide, endsPlain_iff.mp (by decide)⟩
       before := .one
       colon := true
       gap := .one
       value := ⟨ascii "edge", by decide⟩
       behind := ⟨.one, some ⟨ascii " of the node", by decide⟩, fun _ => by decide⟩
       more := [
         { above := []
           gap := .one
           value := ⟨ascii "7", by decide⟩
           behind := ⟨Gap.none, none, fun h => absurd rfl h⟩
           indented := by decide
           nonempty := by decide
           begins := by rintro c ⟨⟩; decide }]
       unindented := by decide
       begins := by rintro - c ⟨⟩; decide
       named := fun _ => by decide }])]
  below := []
/-- The handler that keeps what it is called for. -/
def logged : Handler (List Call) := fun calls s n v => (true, calls ++ [⟨s, n, v⟩])

theorem iniParse_settingsDoc :
    iniParse logged [] (some (settingsDoc.text true)) =
      (0, [⟨ascii "base", ascii "name", ascii "edge"⟩, ⟨ascii "base", ascii "name", ascii "7"⟩]) := by
  have hfits : settingsDoc.Fits true := by
    refine ⟨?_, fun _ => ?_, fun h => Bool.noConfusion h⟩
    · decide
    · decide
  exact (iniParse_text (fun _ _ _ _ => rfl) [] hfits).trans (by decide)

end Ini

end Sadip

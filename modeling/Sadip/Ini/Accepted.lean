import Sadip.Ini.Document

/-!
# Ini/Accepted — what any file comes to

Whatever the bytes of a file are, what the handler is called with are sections, names and values
that a document can hold (`formed_callsOf`).  Written as a document, one heading and one line for
each call, they are read again as they are (`callsOf_rewritten`), but for names that were cut behind
a blank, and for lines that no longer fit.
-/

namespace Sadip

namespace Ini

open Fgets

/-- A call that a document can make. -/
structure Call.Formed (c : Call) : Prop where
  isSection : IsSection c.sectionName
  isName : IsName c.name
  isValue : IsValue c.value
  room : c.name.length + 1 < maxLine

/-! ## One line -/

section Lines

variable {s t l name value : Text} {first named moved : Bool} {chars : Text} {w : Bool}

theorem Plain.subset (h : Plain s) (hsub : t ⊆ s) : Plain t := fun c hc => h c (hsub hc)

theorem find_fst_isPrefix (chars : Text) (w : Bool) (s : Text) :
    (findCharsOrComment chars w s).1 <+: s :=
  ⟨_, find_append_find chars w s⟩

theorem find_snd_suffix (chars : Text) (w : Bool) (s : Text) :
    (findCharsOrComment chars w s).2 <:+ s :=
  ⟨_, find_append_find chars w s⟩

theorem Free.of_isPrefix (h : Free chars w s) (ht : t <+: s) : Free chars w t := by
  obtain ⟨u, rfl⟩ := ht
  exact (free_append.mp h).1

theorem Free.lskip (h : Free [] w s) : Free [] false (lskip s) := by
  obtain ⟨u, hu⟩ := lskip_suffix s
  rw [← hu] at h
  have hrest := (free_append.mp h).2
  cases hafter : after w u with
  | true =>
    rw [hafter] at hrest
    exact hrest.of_true false
  | false =>
    rw [hafter] at hrest
    exact hrest

theorem head_of_isPrefix (hs : ∀ c ∈ s.head?, isspace c = false) (ht : t <+: s) :
    ∀ c ∈ t.head?, isspace c = false := by
  obtain ⟨u, rfl⟩ := ht
  intro c hc
  rcases t with - | ⟨d, t⟩
  · cases hc
  · exact hs c hc

/-- **What is between the blanks and the comment is a value.** -/
theorem isValue_uncommented (h : Plain s) : IsValue (uncommented s) where
  plain := h.subset fun _ hc => (find_fst_isPrefix [] false s).subset
    ((lskip_suffix _).subset ((rstrip_isPrefix _).subset hc))
  free := ((free_fst [] false s).lskip).of_isPrefix (rstrip_isPrefix _)
  begins := head_of_isPrefix (head_lskip _) (rstrip_isPrefix _)
  ends := last_rstrip _

/-- The characters of a line before its end are not newlines, so none is left of it. -/
theorem plain_rstrip (h : newline ∉ l.dropLast) (hs : s <:+ cString l) : Plain (rstrip s) := by
  intro c hc
  have hmem : c ∈ cString l := hs.subset ((rstrip_isPrefix s).subset hc)
  have hnul : decide (c ≠ 0) = true := by
    rw [cString] at hmem
    exact List.mem_takeWhile_imp (p := fun c => decide (c ≠ 0)) hmem
  refine ⟨?_, of_decide_eq_true hnul⟩
  rintro rfl
  obtain ⟨u, hu⟩ := hs
  obtain ⟨v, hv⟩ : cString l <+: l := List.takeWhile_prefix _
  rcases List.eq_nil_or_concat (rstrip s) with hnil | ⟨x, d, hx⟩
  · rw [hnil] at hc
    cases hc
  rw [List.concat_eq_append] at hx
  -- the last character of what is left is no blank, and those before it are before the end
  rcases List.mem_append.mp (hx ▸ hc) with hc | hc
  · obtain ⟨y, hy⟩ := rstrip_isPrefix s
    refine h ?_
    have hl : l = u ++ x ++ ([d] ++ y ++ v) := by
      rw [← hv, ← hu, ← hy, hx]
      simp only [List.append_assoc]
    rw [hl, List.dropLast_append_of_ne_nil (by simp)]
    exact List.mem_append_left _ (List.mem_append_right _ hc)
  · rw [List.mem_singleton] at hc
    have hlast := last_rstrip s d (by rw [hx]; simp)
    rw [← hc] at hlast
    exact absurd hlast (by decide)

theorem isSection_strncpy0 (hplain : Plain s) (hfree : Free [']'.toUInt8] false s) :
    IsSection (strncpy0 s maxSection) where
  plain := hplain.subset (List.take_subset _ _)
  free := hfree.of_isPrefix (List.take_prefix _ _)
  short := Nat.lt_of_le_of_lt (List.length_take_le _ _) (by decide)

theorem IsName.of_isPrefix (h : IsName s) (ht : t <+: s) : IsName t where
  plain := h.plain.subset ht.subset
  free := h.free.of_isPrefix ht
  begins := by
    obtain ⟨u, rfl⟩ := ht
    intro c hc
    rcases t with - | ⟨d, t⟩
    · cases hc
    · exact h.begins c hc

/-- What a line is made of. -/
def Line.Formed : Line → Prop
  | .continuation value => IsValue value
  | .heading name => Plain name ∧ Free [']'.toUInt8] false name
  | .pair name value => (IsName name ∧ name.length + 1 < maxLine) ∧ IsValue value
  | _ => True

theorem formed_classifyStart (hplain : Plain s) (hs : ∀ c ∈ s.head?, isspace c = false)
    (hlen : s.length < maxLine) : (classifyStart named moved s).Formed := by
  rcases s with - | ⟨c, s⟩
  · trivial
  have hc : isspace c = false := hs c rfl
  rw [classifyStart]
  by_cases hcomment : c = ';'.toUInt8 ∨ c = '#'.toUInt8
  · rw [if_pos hcomment]
    trivial
  obtain ⟨hsemi, hhash⟩ := not_or.mp hcomment
  rw [if_neg hcomment]
  split
  · -- a text that begins with no blank has none to skip
    have hskip : lskip (findCharsOrComment [] false (c :: s)).1 =
        (findCharsOrComment [] false (c :: s)).1 :=
      lskip_of_head (head_of_isPrefix hs (find_fst_isPrefix _ _ _))
    have hvalue := isValue_uncommented hplain
    rw [uncommented, hskip] at hvalue
    exact hvalue
  split
  · split
    · next name e rest hfind =>
      split
      · have hfree := free_fst [']'.toUInt8] false s
        have hpre := find_fst_isPrefix [']'.toUInt8] false s
        rw [hfind] at hfree hpre
        exact ⟨hplain.subset fun d hd => List.mem_cons_of_mem _ (hpre.subset hd), hfree⟩
      · trivial
    · trivial
  · next hbracket =>
    split
    · next name e value hfind =>
      split
      · have hfree := free_fst ['='.toUInt8, ':'.toUInt8] false (c :: s)
        have hpre := find_fst_isPrefix ['='.toUInt8, ':'.toUInt8] false (c :: s)
        have hsuffix := find_snd_suffix ['='.toUInt8, ':'.toUInt8] false (c :: s)
        rw [hfind] at hfree hpre hsuffix
        have hname : IsName name := {
          plain := hplain.subset hpre.subset
          free := hfree
          begins := by
            obtain ⟨u, hu⟩ := hpre
            intro d hd
            rcases name with - | ⟨b, name⟩
            · cases hd
            · obtain ⟨rfl, -⟩ := List.cons.inj hu
              obtain rfl := Option.some.inj hd
              exact ⟨hc, hsemi, hhash, hbracket⟩ }
        have hroom : (rstrip name).length + 1 < maxLine := by
          have hall := congrArg List.length (find_append_find ['='.toUInt8, ':'.toUInt8] false
            (c :: s))
          have hle := (rstrip_isPrefix name).length_le
          rw [hfind, List.length_append, List.length_cons] at hall
          show (rstrip name).length + 1 < maxLine
          have hname : name.length + (value.length + 1) = (c :: s).length := hall
          omega
        refine ⟨⟨hname.of_isPrefix (rstrip_isPrefix _), hroom⟩, isValue_uncommented ?_⟩
        exact hplain.subset fun d hd => hsuffix.subset (List.mem_cons_of_mem _ hd)
      · trivial
    · trivial

theorem formed_classify (h : newline ∉ l.dropLast) (hlen : l.length < maxLine) :
    (classify first named l).Formed := by
  rw [classify]
  have hsuffix : (if (first && bom.isPrefixOf (cString l)) = true then
      (cString l).drop bom.length else cString l) <:+ cString l := by
    split
    · exact List.drop_suffix _ _
    · exact List.suffix_refl _
  refine formed_classifyStart ((plain_rstrip h hsuffix).subset (lskip_suffix _).subset)
    (head_lskip _) ?_
  have hle := (lskip_suffix _).length_le.trans
    ((rstrip_isPrefix _).length_le.trans hsuffix.length_le)
  have hcut : (cString l).length ≤ l.length := (List.takeWhile_prefix _).length_le
  omega

end Lines

/-! ## All lines -/

theorem isName_nil : IsName [] where
  plain := List.forall_mem_nil _
  free := rfl
  begins := by rintro c ⟨⟩

theorem formed_meaning {s p : Text} (hs : IsSection s) (hp : IsName p ∧ p.length + 1 < maxLine)
    {ks : List Line} (hks : ∀ k ∈ ks, k.Formed) : ∀ c ∈ meaning s p ks, c.Formed := by
  induction ks generalizing s p with
  | nil => exact List.forall_mem_nil _
  | cons k ks ih =>
    obtain ⟨hk, hrest⟩ := List.forall_mem_cons.mp hks
    cases k with
    | blank => exact ih hs hp hrest
    | continuation value =>
      exact List.forall_mem_cons.mpr ⟨⟨hs, hp.1, hk, hp.2⟩, ih hs hp hrest⟩
    | heading name => exact ih (isSection_strncpy0 hk.1 hk.2) ⟨isName_nil, by decide⟩ hrest
    | pair name value =>
      obtain ⟨⟨hname, hroom⟩, hvalue⟩ := hk
      have hcut : IsName (strncpy0 name maxName) := hname.of_isPrefix (List.take_prefix _ _)
      have hle : (strncpy0 name maxName).length ≤ name.length := List.length_take_le' _ _
      exact List.forall_mem_cons.mpr ⟨⟨hs, hname, hvalue, hroom⟩,
        ih hs ⟨hcut, Nat.lt_of_le_of_lt (Nat.succ_le_succ hle) hroom⟩ hrest⟩
    | bad => exact ih hs hp hrest

theorem formed_scan {ls : List Text} (h : ∀ l ∈ ls, newline ∉ l.dropLast ∧ l.length < maxLine)
    (first named : Bool) :
    ∀ k ∈ scan first named ls, k.Formed := by
  induction ls generalizing first named with
  | nil => exact List.forall_mem_nil _
  | cons l ls ih =>
    obtain ⟨hl, hls⟩ := List.forall_mem_cons.mp h
    exact List.forall_mem_cons.mpr ⟨formed_classify hl.1 hl.2, ih hls _ _⟩

/-- **What the handler is called with**, whatever the file. -/
theorem formed_callsOf (content : Text) : ∀ c ∈ callsOf content, c.Formed := by
  refine formed_meaning ⟨List.forall_mem_nil _, rfl, by decide⟩
    ⟨isName_nil, by decide⟩ (formed_scan (fun l hl => ?_) _ _)
  obtain ⟨-, hlen, hend⟩ := of_mem_lines (by decide) hl
  exact ⟨hend, Nat.lt_of_le_of_lt hlen (by decide)⟩

/-! ## Writing it out -/

/-- A call on lines of its own. -/
def Call.lines (c : Call) : List Text :=
  ['['.toUInt8 :: (c.sectionName ++ [']'.toUInt8]), c.name ++ '='.toUInt8 :: c.value]

def written (cs : List Call) : Text := textOf (cs.flatMap Call.lines)

/-- The name was not cut behind a blank, and there is room for the value behind it. -/
structure Call.Writable (c : Call) : Prop where
  ends : ∀ d ∈ c.name.getLast?, isspace d = false
  fits : c.name.length + 1 + c.value.length < maxLine

instance (c : Call) : Decidable c.Writable :=
  decidable_of_iff (EndsPlain c.name ∧ c.name.length + 1 + c.value.length < maxLine)
    ⟨fun h => ⟨endsPlain_iff.mp h.1, h.2⟩, fun h => ⟨endsPlain_iff.mpr h.ends, h.fits⟩⟩

section Writing

variable {s p u name value rest : Text} {c : Call} {cs : List Call}

/-- The blanks behind a text. -/
theorem exists_gap (h : Plain s) : ∃ g : Gap, s = rstrip s ++ g.text := by
  induction s using List.reverseRecOn with
  | nil => exact ⟨⟨[], List.forall_mem_nil _⟩, rfl⟩
  | append_singleton s c ih =>
    obtain ⟨hs, hc⟩ := List.forall_mem_append.mp h
    have hc := hc c (List.mem_singleton_self c)
    by_cases hspace : isspace c = true
    · obtain ⟨g, hg⟩ := ih hs
      have hstrip : rstrip (s ++ [c]) = rstrip s := List.rdropWhile_concat_pos _ _ _ hspace
      refine ⟨⟨g.text ++ [c], List.forall_mem_append.mpr ⟨g.blank, ?_⟩⟩, ?_⟩
      · exact List.forall_mem_singleton.mpr ⟨hspace, hc.1⟩
      · rw [hstrip, ← List.append_assoc, ← hg]
    · have hstrip : rstrip (s ++ [c]) = s ++ [c] := List.rdropWhile_concat_neg _ _ _ hspace
      exact ⟨⟨[], List.forall_mem_nil _⟩, by rw [hstrip, List.append_nil]⟩

theorem IsValue.rstrip_isPrefix (h : IsValue value) (hu : u <+: value) : IsValue (rstrip u) where
  plain := h.plain.subset ((Ini.rstrip_isPrefix u).trans hu).subset
  free := h.free.of_isPrefix ((Ini.rstrip_isPrefix u).trans hu)
  begins := head_of_isPrefix h.begins ((Ini.rstrip_isPrefix u).trans hu)
  ends := last_rstrip u

theorem rstrip_eq_nil_of_begins (h : IsName name) (hnil : rstrip name = []) : name = [] := by
  rcases name with - | ⟨c, s⟩
  · rfl
  · have hc := (h.begins c rfl).1
    have hkeep := rstrip_append_cons hc [] s
    rw [List.nil_append, hnil] at hkeep
    cases hkeep

/-- A name and as much of a value as there is room for. -/
theorem classify_cut (hname : IsName name) (hvalue : IsValue value) (hu : u <+: value)
    (named : Bool) :
    classify false named (name ++ '='.toUInt8 :: u) = .pair (rstrip name) (rstrip u) := by
  obtain ⟨g, hg⟩ := exists_gap hname.plain
  obtain ⟨g', hg'⟩ := exists_gap (hvalue.plain.subset hu.subset)
  let e : Entry := {
    above := []
    key := ⟨rstrip name, hname.of_isPrefix (Ini.rstrip_isPrefix name), last_rstrip name⟩
    before := g
    colon := false
    gap := ⟨[], List.forall_mem_nil _⟩
    value := ⟨rstrip u, hvalue.rstrip_isPrefix hu⟩
    behind := ⟨g', none, fun h => absurd rfl h⟩
    more := []
    unindented := fun hnil => by
      rw [rstrip_eq_nil_of_begins hname hnil] at hg
      exact (List.append_eq_nil_iff.mp hg.symm).2
    begins := fun h => absurd rfl h
    named := fun h => absurd rfl h }
  have hline : e.line = name ++ '='.toUInt8 :: u := by
    have hbehind : e.behind.line = g'.text := List.append_nil _
    rw [Entry.line, hbehind]
    show rstrip name ++ g.text ++ '='.toUInt8 :: (rstrip u ++ g'.text) = _
    rw [← hg, ← hg']
  rw [← hline]
  exact classify_entry e

theorem reads_section (hs : IsSection s) (s' p : Text) :
    Reads s' p ['['.toUInt8 :: (s ++ [']'.toUInt8])] [] s [] :=
  reads_heading s' p ⟨[], s, hs, ⟨[], List.forall_mem_nil _⟩⟩

theorem plain_pair (hname : IsName name) (hvalue : IsValue value) :
    Plain (name ++ '='.toUInt8 :: value) :=
  hname.plain.append (.cons (by decide) hvalue.plain)

/-- A line with a name and a value is read as far as there is room. -/
theorem linesFrom_pair (hname : IsName name) (hvalue : IsValue value)
    (hroom : name.length + 1 < maxLine) (p rest : Text) : ∃ ks,
      linesFrom p (name ++ '='.toUInt8 :: value ++ newline :: rest) =
        .pair (rstrip name) (rstrip (value.take (maxLine - 1 - (name.length + 1)))) :: ks := by
  have hplain := plain_pair hname hvalue
  have hne : name ++ '='.toUInt8 :: value ++ newline :: rest ≠ [] := by simp
  have hlen : (name ++ '='.toUInt8 :: value).length = name.length + 1 + value.length := by
    rw [List.length_append, List.length_cons]
    omega
  have hclass : classify false (decide (p ≠ []))
      (fgets newline (maxLine - 1) (name ++ '='.toUInt8 :: value ++ newline :: rest)).1 =
        .pair (rstrip name) (rstrip (value.take (maxLine - 1 - (name.length + 1)))) := by
    rcases Nat.lt_or_ge (name.length + 1 + value.length) (maxLine - 1) with hlt | hge
    · rw [fgets_line (newline_not_mem hplain) (hlen ▸ hlt), classify_concat hplain,
        classify_cut hname hvalue (List.prefix_refl _), List.take_of_length_le (by omega)]
    · have hcut : (name ++ '='.toUInt8 :: value).take (maxLine - 1) =
          name ++ '='.toUInt8 :: value.take (maxLine - 1 - (name.length + 1)) := by
        have hrest : maxLine - 1 - name.length = maxLine - 1 - (name.length + 1) + 1 := by omega
        rw [List.take_append, List.take_of_length_le (by omega), hrest, List.take_succ_cons]
      rw [fgets_long (newline_not_mem hplain) (hlen ▸ hge), hcut,
        classify_cut hname hvalue (List.take_prefix _ _)]
  exact ⟨_, (linesFrom_cons hne).trans (congrArg (· :: _) hclass)⟩

/-- A call that is written is read back, if it is writable. -/
theorem reads_call (hc : c.Formed) (h : c.Writable) (s p : Text) :
    Reads s p c.lines [c] c.sectionName (strncpy0 c.name maxName) := by
  have hclass : classify false (decide (([] : Text) ≠ [])) (c.name ++ '='.toUInt8 :: c.value) =
      .pair c.name c.value := by
    rw [classify_cut hc.isName hc.isValue (List.prefix_refl _), rstrip_of_last h.ends,
      rstrip_of_last hc.isValue.ends]
  refine (reads_section hc.isSection s p).append (.line (plain_pair hc.isName hc.isValue) hclass
    nofun ?_ fun ks => rfl)
  exact decide_eq_decide.mpr (not_congr (strncpy0_eq_nil_iff (by decide)).symm)

theorem fits_call (hc : c.Formed) (h : c.Writable) : ∀ l ∈ c.lines, l.length < maxLine := by
  have hshort := hc.isSection.short
  refine List.forall_mem_cons.mpr ⟨?_, List.forall_mem_singleton.mpr ?_⟩
  · rw [List.length_cons, List.length_append, List.length_singleton]
    exact Nat.lt_of_lt_of_le (Nat.add_lt_add_right hshort 2) (by decide)
  · have hfits := h.fits
    rw [List.length_append, List.length_cons]
    omega

/-- A call that is not writable is not what is read back. -/
theorem writable_of_meaning (hc : c.Formed)
    (h : meaning s p (linesFrom p (textOf c.lines ++ rest)) = c :: cs) : c.Writable := by
  have hsection := (reads_section hc.isSection s p).calls
    (List.forall_mem_singleton.mpr ?_) (c.name ++ '='.toUInt8 :: c.value ++ newline :: rest)
  · have htext : textOf c.lines ++ rest = textOf
      ['['.toUInt8 :: (c.sectionName ++ [']'.toUInt8])] ++
        (c.name ++ '='.toUInt8 :: c.value ++ newline :: rest) := by simp [textOf, Call.lines]
    obtain ⟨ks, hks⟩ := linesFrom_pair hc.isName hc.isValue hc.room [] rest
    rw [htext, hsection, hks, List.nil_append, meaning] at h
    have hcall := (List.cons.inj h).1
    have hname : rstrip c.name = c.name := congrArg Call.name hcall
    have hvalue : rstrip (c.value.take (maxLine - 1 - (c.name.length + 1))) = c.value :=
      congrArg Call.value hcall
    refine ⟨hname ▸ last_rstrip c.name, ?_⟩
    have hle := (rstrip_isPrefix (c.value.take (maxLine - 1 - (c.name.length + 1)))).length_le
    rw [hvalue, List.length_take] at hle
    have hroom := hc.room
    omega
  · rw [List.length_cons, List.length_append, List.length_singleton]
    exact Nat.lt_of_lt_of_le (Nat.add_lt_add_right hc.isSection.short 2) (by decide)

theorem meaning_written_iff (h : ∀ c ∈ cs, c.Formed) (s p : Text) :
    meaning s p (linesFrom p (written cs)) = cs ↔ ∀ c ∈ cs, c.Writable := by
  induction cs generalizing s p with
  | nil => exact iff_of_true rfl (List.forall_mem_nil _)
  | cons c cs ih =>
    obtain ⟨hc, hcs⟩ := List.forall_mem_cons.mp h
    have htext : written (c :: cs) = textOf c.lines ++ written cs := textOf_append _ _
    rw [htext, List.forall_mem_cons]
    by_cases hwritable : c.Writable
    · rw [(reads_call hc hwritable s p).calls (fits_call hc hwritable), List.singleton_append,
        List.cons_inj_right, ih hcs, and_iff_right hwritable]
    · exact iff_of_false (fun heq => hwritable (writable_of_meaning hc heq)) fun h => hwritable h.1

/-- **Any file can be written out plainly**, exactly if the calls that it comes to are writable. -/
theorem callsOf_rewritten_iff (content : Text) :
    callsOf (written (callsOf content)) = callsOf content ↔ ∀ c ∈ callsOf content, c.Writable := by
  have hformed := formed_callsOf content
  have hmark : ¬ bom <+: written (callsOf content) := by
    rcases callsOf content with - | ⟨c, cs⟩
    · exact fun h => absurd (List.prefix_nil.mp h) (by decide)
    · rintro ⟨t, ht⟩
      exact absurd (List.cons.inj ht).1 (by decide)
  rw [← meaning_written_iff hformed [] [], callsOf, linesOf_unmarked hmark]

end Writing

end Ini

end Sadip

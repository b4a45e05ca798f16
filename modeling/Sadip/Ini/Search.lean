import Mathlib.Data.List.TakeWhile
import Sadip.Ini

/-!
# Ini/Search — where the search for a separator stops

A text is free of some characters when the search for them runs through it (`Free`): none of them is
in it, and no comment.  Freedom of a text is that of its parts (`free_append`), and what comes
before the place where the search stops is free (`free_fst`).
-/

namespace Sadip

namespace Ini

variable {chars s t : Text} {w : Bool}

/-- Nothing in `s` stops the search, behind a blank or not. -/
def Free (chars : Text) (w : Bool) (s : Text) : Prop := (findCharsOrComment chars w s).2 = []

instance : Decidable (Free chars w s) := inferInstanceAs (Decidable (_ = _))

/-- Whether the character before what follows `s` is a blank. -/
def after (w : Bool) (s : Text) : Bool := s.foldl (fun _ c => isspace c) w

/-- The flag is carried from one part to the next. -/
theorem after_append (w : Bool) (s t : Text) : after w (s ++ t) = after (after w s) t :=
  List.foldl_append

/-- Only the last byte matters. -/
theorem after_concat (w : Bool) (s : Text) (c : UInt8) : after w (s ++ [c]) = isspace c := by
  rw [after_append]
  rfl

/-- The search ends here. -/
theorem find_cons_of_stop {c : UInt8} (h : c ∈ chars ∨ w = true ∧ c = ';'.toUInt8) (s : Text) :
    findCharsOrComment chars w (c :: s) = ([], c :: s) := if_pos h

/-- The search goes on, and remembers whether the byte was a blank. -/
theorem find_cons_of_not {c : UInt8} (h : ¬ (c ∈ chars ∨ w = true ∧ c = ';'.toUInt8)) (s : Text) :
    findCharsOrComment chars w (c :: s) = (c :: (findCharsOrComment chars (isspace c) s).1,
      (findCharsOrComment chars (isspace c) s).2) := if_neg h

theorem free_nil (chars : Text) (w : Bool) : Free chars w [] := rfl

/-- No stop at the first byte, and none behind it. -/
theorem free_cons_iff {c : UInt8} : Free chars w (c :: s) ↔
    ¬ (c ∈ chars ∨ w = true ∧ c = ';'.toUInt8) ∧ Free chars (isspace c) s := by
  by_cases h : c ∈ chars ∨ w = true ∧ c = ';'.toUInt8
  · rw [Free, find_cons_of_stop h]
    exact iff_of_false (List.cons_ne_nil _ _) fun hfree => hfree.1 h
  · rw [Free, find_cons_of_not h]
    exact (and_iff_right h).symm

/-- **The search goes through a free text** and on behind it. -/
theorem Free.find_append (h : Free chars w s) (t : Text) : findCharsOrComment chars w (s ++ t) =
    (s ++ (findCharsOrComment chars (after w s) t).1,
      (findCharsOrComment chars (after w s) t).2) := by
  induction s generalizing w with
  | nil => rfl
  | cons c s ih =>
    obtain ⟨hc, hs⟩ := free_cons_iff.mp h
    rw [List.cons_append, find_cons_of_not hc, ih hs]
    rfl

/-- The search goes to the end of a text that has no stop. -/
theorem Free.find_eq (h : Free chars w s) : findCharsOrComment chars w s = (s, []) := by
  have hfind := h.find_append []
  rwa [List.append_nil, findCharsOrComment, List.append_nil] at hfind

/-- It ends at the first stop. -/
theorem Free.find_stop (h : Free chars w s) {c : UInt8}
    (hc : c ∈ chars ∨ after w s = true ∧ c = ';'.toUInt8) (t : Text) :
    findCharsOrComment chars w (s ++ c :: t) = (s, c :: t) := by
  rw [h.find_append, find_cons_of_stop hc, List.append_nil]

/-- A text is free if its parts are, the second behind the first. -/
theorem free_append : Free chars w (s ++ t) ↔ Free chars w s ∧ Free chars (after w s) t := by
  induction s generalizing w with
  | nil => exact (and_iff_right (free_nil chars w)).symm
  | cons c s ih =>
    rw [List.cons_append, free_cons_iff, free_cons_iff, ih, and_assoc]
    rfl

/-- What the search finds makes up the text. -/
theorem find_append_find (chars : Text) (w : Bool) (s : Text) :
    (findCharsOrComment chars w s).1 ++ (findCharsOrComment chars w s).2 = s := by
  induction s generalizing w with
  | nil => rfl
  | cons c s ih =>
    by_cases h : c ∈ chars ∨ w = true ∧ c = ';'.toUInt8
    · rw [find_cons_of_stop h, List.nil_append]
    · rw [find_cons_of_not h, List.cons_append, ih]

/-- What has been passed over has no stop. -/
theorem free_fst (chars : Text) (w : Bool) (s : Text) :
    Free chars w (findCharsOrComment chars w s).1 := by
  induction s generalizing w with
  | nil => exact free_nil chars w
  | cons c s ih =>
    by_cases h : c ∈ chars ∨ w = true ∧ c = ';'.toUInt8
    · rw [find_cons_of_stop h]
      exact free_nil chars w
    · rw [find_cons_of_not h]
      exact free_cons_iff.mpr ⟨h, ih _⟩

/-- No character that was searched for stands in it. -/
theorem Free.not_mem (h : Free chars w s) : ∀ c ∈ s, c ∉ chars := by
  induction s generalizing w with
  | nil => exact List.forall_mem_nil _
  | cons c s ih =>
    obtain ⟨hc, hs⟩ := free_cons_iff.mp h
    exact List.forall_mem_cons.mpr ⟨fun hmem => hc (.inl hmem), ih hs⟩

/-- A text that is free behind a blank is free anywhere. -/
theorem Free.of_true (h : Free chars true s) (w : Bool) : Free chars w s := by
  cases w with
  | true => exact h
  | false =>
    rcases s with - | ⟨c, s⟩
    · exact free_nil chars false
    · obtain ⟨hc, hs⟩ := free_cons_iff.mp h
      refine free_cons_iff.mpr ⟨fun hstop => hc (.inl ?_), hs⟩
      exact hstop.resolve_right fun h => absurd h.1 Bool.false_ne_true

/-- …and one that does not begin with a comment. -/
theorem Free.of_head (h : Free chars false s) (hs : ∀ c ∈ s.head?, c ≠ ';'.toUInt8) (w : Bool) :
    Free chars w s := by
  rcases s with - | ⟨c, s⟩
  · exact free_nil chars w
  · obtain ⟨hc, hfree⟩ := free_cons_iff.mp h
    refine free_cons_iff.mpr ⟨fun hstop => hc (.inl ?_), hfree⟩
    exact hstop.resolve_right fun h => hs c rfl h.2

theorem free_of_isspace (h : ∀ c ∈ s, isspace c = true ∧ c ∉ chars) (w : Bool) :
    Free chars w s := by
  induction s generalizing w with
  | nil => exact free_nil chars w
  | cons c s ih =>
    obtain ⟨⟨hspace, hc⟩, hs⟩ := List.forall_mem_cons.mp h
    refine free_cons_iff.mpr ⟨?_, ih hs _⟩
    rintro (hmem | ⟨-, rfl⟩)
    · exact hc hmem
    · exact absurd hspace (by decide)

theorem after_of_isspace (h : ∀ c ∈ s, isspace c = true) (hs : s ≠ []) (w : Bool) :
    after w s = true := by
  rcases List.eq_nil_or_concat s with rfl | ⟨s, c, rfl⟩
  · exact absurd rfl hs
  · rw [List.concat_eq_append, after_concat]
    exact h c (by simp)

/-! ## Blanks at the ends -/

theorem rstrip_isPrefix (s : Text) : rstrip s <+: s := List.rdropWhile_prefix _ _

theorem lskip_suffix (s : Text) : lskip s <:+ s := List.dropWhile_suffix _

/-- Blanks at the end are removed. -/
theorem rstrip_append_of_isspace (h : ∀ c ∈ t, isspace c = true) (s : Text) :
    rstrip (s ++ t) = rstrip s := by
  induction t using List.reverseRecOn generalizing s with
  | nil => rw [List.append_nil]
  | append_singleton t c ih =>
    obtain ⟨ht, hc⟩ := List.forall_mem_append.mp h
    rw [← List.append_assoc, rstrip, List.rdropWhile_concat_pos _ _ _ (hc c (by simp))]
    exact ih ht s

/-- Nothing is removed behind a byte that is no blank. -/
theorem rstrip_of_last (h : ∀ c ∈ s.getLast?, isspace c = false) : rstrip s = s := by
  rcases List.eq_nil_or_concat s with rfl | ⟨s, c, rfl⟩
  · rfl
  · rw [List.concat_eq_append] at h ⊢
    exact List.rdropWhile_concat_neg _ _ _ (by simp [h c (by simp)])

/-- A text with a character that is no blank keeps what is before it. -/
theorem rstrip_append_cons {c : UInt8} (hc : isspace c = false) (s t : Text) :
    rstrip (s ++ c :: t) = s ++ c :: rstrip t := by
  induction t using List.reverseRecOn with
  | nil => exact List.rdropWhile_concat_neg _ _ _ (by simp [hc])
  | append_singleton t d ih =>
    have hsplit : s ++ c :: (t ++ [d]) = (s ++ c :: t) ++ [d] := by simp
    by_cases hd : isspace d = true
    · rw [hsplit, rstrip, List.rdropWhile_concat_pos _ _ _ hd, rstrip,
        List.rdropWhile_concat_pos _ _ _ hd]
      exact ih
    · have ht : rstrip (t ++ [d]) = t ++ [d] := List.rdropWhile_concat_neg _ _ _ hd
      rw [ht, hsplit]
      exact List.rdropWhile_concat_neg _ _ _ hd

/-- Blanks in front are skipped. -/
theorem lskip_append_of_isspace (h : ∀ c ∈ t, isspace c = true) (s : Text) :
    lskip (t ++ s) = lskip s := List.dropWhile_append_of_pos h

theorem lskip_of_head (h : ∀ c ∈ s.head?, isspace c = false) : lskip s = s := by
  rcases s with - | ⟨c, s⟩
  · rfl
  · exact List.dropWhile_cons_of_neg (by simp [h c rfl])

/-- No blank is left in front. -/
theorem head_lskip (s : Text) : ∀ c ∈ (lskip s).head?, isspace c = false := by
  intro c hc
  have h := List.head?_dropWhile_not isspace s
  rw [lskip] at hc
  rw [Option.mem_def.mp hc] at h
  exact h

/-- No blank is left at the end. -/
theorem last_rstrip (s : Text) : ∀ c ∈ (rstrip s).getLast?, isspace c = false := by
  intro c hc
  have hne : rstrip s ≠ [] := fun h => by
    rw [h] at hc
    cases hc
  have hlast := List.rdropWhile_last_not isspace s hne
  rw [List.getLast?_eq_some_getLast hne] at hc
  obtain rfl := Option.some.inj hc
  exact Bool.eq_false_iff.mpr hlast

end Ini

end Sadip

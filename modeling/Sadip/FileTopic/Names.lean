import Sadip.Machinery.FileSystem
import Sadip.Machinery.Replace

/-!
# FileTopic/Names — the names that `send_file` works with, `utils/split.h`

`send_file` takes every `./` out of a name, wherever it stands, and begins again until there is none
left.  Between the slashes of the name this is `fuse`: a part that ends in a dot loses the dot, and
runs into the part behind it.  That is right for a part that is a single dot, and for no other:
`kept_fuse_iff`.
-/

namespace Sadip

namespace FileTopic

open FsPath

/-- `utility::string::subreplace(s, "./", "")`; each round of its loop takes two letters away. -/
def subreplaceDot (s : String) : String :=
  .ofList ((Replace.replaceFirst "./".toList [])^[s.toList.length] s.toList)

/-! ## The parts of a name -/

/-- The parts of a name that name something. -/
def kept (ps : List (List Char)) : List (List Char) := ps.filter fun p => p ≠ [] && p ≠ ['.']

theorem components_eq_map_kept (s : String) :
    components s = (kept (s.toList.splitOn '/')).map String.ofList := by
  rw [components, kept, List.filter_map]
  congr 2
  funext p
  have hempty : String.ofList p = "" ↔ p = [] :=
    (String.ofList_inj : String.ofList p = String.ofList [] ↔ p = [])
  have hdot : String.ofList p = "." ↔ p = ['.'] :=
    (String.ofList_inj : String.ofList p = String.ofList ['.'] ↔ p = ['.'])
  simp only [Function.comp_apply, ne_eq, hempty, hdot]

theorem components_eq_iff {s t : String} :
    components s = components t ↔ kept (s.toList.splitOn '/') = kept (t.toList.splitOn '/') := by
  rw [components_eq_map_kept, components_eq_map_kept]
  exact (List.map_injective_iff.mpr fun _ _ h => String.ofList_injective h).eq_iff

/-- What taking out `./` makes of the parts of a name, begun at part `c`. -/
def fuse (c : List Char) : List (List Char) → List (List Char)
  | [] => [c]
  | p :: ps => if c.getLast? = some '.' then fuse (c.dropLast ++ p) ps else c :: fuse p ps

/-- Fusing all the parts of a text. -/
def fused (cs : List Char) : List (List Char) :=
  match cs.splitOn '/' with
  | [] => []
  | c :: ps => fuse c ps

variable {c p q : List Char} {ps : List (List Char)}

/-- Writing two texts one after the other joins two of their parts. -/
theorem exists_splitOn_append_parts (as : List Char) :
    ∃ init last, ∀ bs c ps, bs.splitOn '/' = c :: ps →
      (as ++ bs).splitOn '/' = init ++ (last ++ c) :: ps := by
  induction as with
  | nil => exact ⟨[], [], fun bs c ps h => h⟩
  | cons a as ih =>
    obtain ⟨init, last, h⟩ := ih
    by_cases ha : a = '/'
    · refine ⟨[] :: init, last, fun bs c ps hbs => ?_⟩
      rw [List.cons_append, List.splitOn_cons_eq_if_modifyHead, h bs c ps hbs, ha]
      rfl
    · rcases init with - | ⟨first, init⟩
      · refine ⟨[], a :: last, fun bs c ps hbs => ?_⟩
        rw [List.cons_append, List.splitOn_cons_eq_if_modifyHead, h bs c ps hbs]
        simp [ha]
      · refine ⟨(a :: first) :: init, last, fun bs c ps hbs => ?_⟩
        rw [List.cons_append, List.splitOn_cons_eq_if_modifyHead, h bs c ps hbs]
        simp [ha]

theorem fuse_append_dot (last c : List Char) (ps : List (List Char)) :
    ∀ (init : List (List Char)) (d : List Char),
      fuse d (init ++ (last ++ ['.']) :: c :: ps) = fuse d (init ++ (last ++ c) :: ps)
  | [], d => by
      by_cases hd : d.getLast? = some '.'
      · simp [fuse, hd, ← List.append_assoc]
      · simp [fuse, hd]
  | p :: init, d => by
      rw [List.cons_append, List.cons_append, fuse, fuse]
      split
      · exact fuse_append_dot last c ps init _
      · rw [fuse_append_dot last c ps init]

/-- **An occurrence of `./` makes no difference to what the parts fuse to.** -/
theorem fused_append_dot_slash (before after : List Char) :
    fused (before ++ "./".toList ++ after) = fused (before ++ after) := by
  obtain ⟨init, last, h⟩ := exists_splitOn_append_parts before
  obtain ⟨c, ps, hafter⟩ := List.exists_cons_of_ne_nil (List.splitOn_ne_nil '/' after)
  have hdot : ("./".toList ++ after).splitOn '/' = ['.'] :: c :: ps := by
    rw [show "./".toList ++ after = ['.'] ++ '/' :: after from rfl, List.splitOn_append_cons_self,
      hafter]
    rfl
  rw [List.append_assoc, fused, fused, h _ _ _ hdot, h _ _ _ hafter]
  rcases init with - | ⟨first, init⟩
  · simp [fuse]
  · exact fuse_append_dot last c ps init first

/-- A text begins with a slash when its first part is empty and not its last. -/
theorem head?_eq_slash_iff : ∀ {cs : List Char},
    cs.head? = some '/' ↔ ∃ q qs, cs.splitOn '/' = [] :: q :: qs
  | [] => by simp
  | a :: cs => by
      rw [List.splitOn_cons_eq_if_modifyHead]
      obtain ⟨c, ps, hcs⟩ := List.exists_cons_of_ne_nil (List.splitOn_ne_nil '/' cs)
      rw [hcs]
      by_cases ha : a = '/' <;> simp [ha]

/-- A text without `./` has no part that ends in a dot, its last part apart. -/
theorem isChain_splitOn : ∀ {cs : List Char}, ¬ "./".toList <:+: cs →
    (cs.splitOn '/').IsChain fun p _ => p.getLast? ≠ some '.'
  | [], _ => by
      rw [List.splitOn_nil]
      exact .singleton _
  | a :: cs, h => by
      have ih := isChain_splitOn fun hin => h (hin.trans (List.suffix_cons a cs).isInfix)
      rw [List.splitOn_cons_eq_if_modifyHead]
      obtain ⟨c, ps, hcs⟩ := List.exists_cons_of_ne_nil (List.splitOn_ne_nil '/' cs)
      rw [hcs] at ih ⊢
      split
      · exact .cons_cons (by simp) ih
      rcases ps with - | ⟨p, ps⟩
      · exact .singleton _
      obtain ⟨hc, hrest⟩ := List.isChain_cons_cons.mp ih
      refine .cons_cons ?_ hrest
      rcases c with - | ⟨b, c⟩
      · -- the text goes on with a slash
        have hslash := head?_eq_slash_iff.mpr ⟨p, ps, hcs⟩
        obtain ⟨cs, rfl⟩ := List.head?_eq_some_iff.mp hslash
        rintro ha
        obtain rfl : a = '.' := Option.some.inj ha
        exact h ⟨[], cs, rfl⟩
      · rwa [List.getLast?_cons_cons]

theorem fuse_of_isChain : ∀ {ps : List (List Char)} {c : List Char},
    ((c :: ps).IsChain fun p _ => p.getLast? ≠ some '.') → fuse c ps = c :: ps
  | [], _, _ => rfl
  | p :: ps, c, h => by
      obtain ⟨hc, hps⟩ := List.isChain_cons_cons.mp h
      rw [fuse, if_neg hc, fuse_of_isChain hps]

/-- **The parts of the name that is left** are the parts of the name it was, fused. -/
theorem splitOn_subreplaceDot (s : String) :
    (subreplaceDot s).toList.splitOn '/' = fused s.toList := by
  rw [subreplaceDot, String.toList_ofList, ← Replace.apply_iterate_replaceFirst fused
    fused_append_dot_slash s.toList.length s.toList]
  have hnot := Replace.not_infix_iterate_replaceFirst (by decide : "./".toList ≠ []) _ s.toList le_rfl
  generalize (Replace.replaceFirst "./".toList [])^[s.toList.length] s.toList = cs at hnot ⊢
  have hchain := isChain_splitOn hnot
  rw [fused]
  split
  · exact absurd ‹_› (List.splitOn_ne_nil '/' cs)
  · rename_i c ps hcs
    rw [hcs] at hchain ⊢
    exact (fuse_of_isChain hchain).symm

/-! ## What fusing loses -/

/-- A part that loses its dot, and is not the dot alone. -/
def Cut (p : List Char) : Prop := p.getLast? = some '.' ∧ p ≠ ['.']

instance (p : List Char) : Decidable (Cut p) := inferInstanceAs (Decidable (_ ∧ _))

/-- Every part behind one that loses its dot is a dot alone, and gives it the dot back. -/
def Whole (ps : List (List Char)) : Prop := ps.Pairwise fun p q => Cut p → q = ['.']

instance (ps : List (List Char)) : Decidable (Whole ps) :=
  inferInstanceAs (Decidable (List.Pairwise _ _))

/-- The letters of the parts that name something. -/
def weight : List (List Char) → ℕ
  | [] => 0
  | p :: ps => (if p = ['.'] then 0 else p.length) + weight ps

theorem weight_kept : ∀ ps : List (List Char), weight (kept ps) = weight ps
  | [] => rfl
  | p :: ps => by
      have ih := weight_kept ps
      by_cases hempty : p = []
      · simp [kept, hempty, weight, ← ih]
      · by_cases hdot : p = ['.']
        · simp [kept, hdot, weight, ← ih]
        · simp [kept, hempty, hdot, weight, ← ih]

theorem weight_dot (ps : List (List Char)) : weight (['.'] :: ps) = weight ps := Nat.zero_add _

theorem weight_cons_of_ne (h : p ≠ ['.']) (ps : List (List Char)) :
    weight (p :: ps) = p.length + weight ps := by rw [weight, if_neg h]

theorem weight_cons_le (p : List Char) (ps : List (List Char)) :
    weight (p :: ps) ≤ p.length + weight ps := by
  rw [weight]
  split <;> omega

/-- Two parts that run into each other lose a letter, unless one of them is a dot. -/
theorem weight_join_lt {d : List Char} (hd : d ≠ []) (hp : p ≠ ['.']) (ps : List (List Char)) :
    weight ((d ++ p) :: ps) < weight ((d ++ ['.']) :: p :: ps) := by
  have hle := weight_cons_le (d ++ p) ps
  have hd' : d ++ ['.'] ≠ ['.'] := by simpa using hd
  rw [List.length_append] at hle
  rw [weight_cons_of_ne hd', weight_cons_of_ne hp, List.length_append, List.length_singleton]
  omega

theorem weight_join_le (d p : List Char) (ps : List (List Char)) :
    weight ((d ++ p) :: ps) ≤ weight ((d ++ ['.']) :: p :: ps) := by
  by_cases hd : d = []
  · rw [hd, List.nil_append, List.nil_append, weight_dot]
  by_cases hp : p = ['.']
  · rw [hp, weight, weight, weight_dot]
  · exact (weight_join_lt hd hp ps).le

theorem weight_fuse_le : ∀ (ps : List (List Char)) (c : List Char),
    weight (fuse c ps) ≤ weight (c :: ps)
  | [], _ => le_rfl
  | p :: ps, c => by
      rw [fuse]
      split
      · obtain ⟨d, rfl⟩ := List.getLast?_eq_some_iff.mp ‹c.getLast? = some '.'›
        rw [List.dropLast_concat]
        exact (weight_fuse_le ps _).trans (weight_join_le d p ps)
      · have ih := weight_fuse_le ps p
        rw [weight, weight]
        omega

/-- A part that loses its dot runs into the first part that is not a dot. -/
theorem weight_fuse_lt_of_cut : ∀ {ps : List (List Char)} {c : List Char}, Cut c →
    (∃ p ∈ ps, p ≠ ['.']) → weight (fuse c ps) < weight (c :: ps)
  | p :: ps, c, hcut, hps => by
      obtain ⟨d, rfl⟩ := List.getLast?_eq_some_iff.mp hcut.1
      have hd : d ≠ [] := fun hd => hcut.2 (by rw [hd]; rfl)
      rw [fuse, if_pos hcut.1, List.dropLast_concat]
      by_cases hp : p = ['.']
      · obtain ⟨q, hq, hne⟩ := hps
        have hq' : q ∈ ps := (List.mem_cons.mp hq).resolve_left fun h => hne (h.trans hp)
        rw [hp, weight, weight_dot]
        exact weight_fuse_lt_of_cut hcut ⟨q, hq', hne⟩
      · exact (weight_fuse_le ps _).trans_lt (weight_join_lt hd hp ps)

/-- Parts that are dots run into the one before them, and change nothing. -/
theorem fuse_dots : ∀ {ps : List (List Char)} {c : List Char}, c.getLast? = some '.' →
    (∀ p ∈ ps, p = ['.']) → fuse c ps = [c]
  | [], _, _, _ => rfl
  | p :: ps, c, hc, hps => by
      obtain ⟨d, rfl⟩ := List.getLast?_eq_some_iff.mp hc
      rw [fuse, if_pos hc, hps p List.mem_cons_self, List.dropLast_concat]
      exact fuse_dots hc fun q hq => hps q (List.mem_cons_of_mem p hq)

theorem kept_dots : ∀ {ps : List (List Char)}, (∀ p ∈ ps, p = ['.']) → kept ps = []
  | [], _ => rfl
  | p :: ps, hps => by
      rw [kept, List.filter_cons_of_neg (by simp [hps p List.mem_cons_self])]
      exact kept_dots fun q hq => hps q (List.mem_cons_of_mem p hq)

/-- **The parts are fused without loss when they are whole**, and only then. -/
theorem kept_fuse : ∀ {ps : List (List Char)} {c : List Char}, Whole (c :: ps) →
    kept (fuse c ps) = kept (c :: ps)
  | [], _, _ => rfl
  | p :: ps, c, h => by
      obtain ⟨hc, hps⟩ := List.pairwise_cons.mp h
      by_cases hcut : Cut c
      · rw [fuse_dots hcut.1 fun q hq => hc q hq hcut, kept, kept, List.filter_cons,
          List.filter_cons]
        rw [show List.filter _ (p :: ps) = [] from kept_dots fun q hq => hc q hq hcut]
        rfl
      by_cases hlast : c.getLast? = some '.'
      · obtain rfl : c = ['.'] := not_not.mp fun hne => hcut ⟨hlast, hne⟩
        rw [fuse, if_pos hlast]
        exact kept_fuse hps
      · rw [fuse, if_neg hlast, kept, kept, List.filter_cons, List.filter_cons]
        rw [show List.filter _ (fuse p ps) = List.filter _ (p :: ps) from kept_fuse hps]

theorem weight_fuse_lt : ∀ {ps : List (List Char)} {c : List Char}, ¬ Whole (c :: ps) →
    weight (fuse c ps) < weight (c :: ps)
  | [], c, h => absurd (List.pairwise_singleton _ c) h
  | p :: ps, c, h => by
      by_cases hcut : Cut c
      · refine weight_fuse_lt_of_cut hcut ?_
        by_contra hdots
        have hdots' : ∀ q ∈ p :: ps, q = ['.'] :=
          fun q hq => by_contra fun hne => hdots ⟨q, hq, hne⟩
        exact h (List.pairwise_cons.mpr ⟨fun q hq _ => hdots' q hq,
          List.pairwise_of_forall_mem_list fun _ _ q hq _ => hdots' q hq⟩)
      have hps : ¬ Whole (p :: ps) := fun hps =>
        h (List.pairwise_cons.mpr ⟨fun q _ hc => absurd hc hcut, hps⟩)
      have ih := weight_fuse_lt hps
      rw [fuse]
      split
      · obtain rfl : c = ['.'] := not_not.mp fun hne => hcut ⟨‹_›, hne⟩
        rwa [weight_dot]
      · rw [weight, weight]
        omega

theorem kept_fuse_iff : kept (fuse c ps) = kept (c :: ps) ↔ Whole (c :: ps) := by
  refine ⟨fun h => ?_, kept_fuse⟩
  by_contra hnot
  have hlt := weight_fuse_lt hnot
  rw [← weight_kept (fuse c ps), h, weight_kept] at hlt
  exact Nat.lt_irrefl _ hlt

theorem fuse_ne_nil : ∀ (ps : List (List Char)) (c : List Char), fuse c ps ≠ []
  | [], c => List.cons_ne_nil c []
  | p :: ps, c => by
      rw [fuse]
      split
      · exact fuse_ne_nil ps _
      · exact List.cons_ne_nil _ _

/-- Behind the dots it begins with, the name begins with a slash. -/
def Rooted (ps : List (List Char)) : Prop := ∃ q qs, ps.dropWhile (· = ['.']) = [] :: q :: qs

theorem fuse_rooted_iff : ∀ {ps : List (List Char)} {c : List Char}, Whole (c :: ps) →
    ((∃ q qs, fuse c ps = [] :: q :: qs) ↔ Rooted (c :: ps))
  | [], c, _ => by
      by_cases hc : c = ['.'] <;> simp [fuse, Rooted, hc]
  | p :: ps, c, h => by
      obtain ⟨hc, hps⟩ := List.pairwise_cons.mp h
      by_cases hcut : Cut c
      · rw [fuse_dots hcut.1 fun q hq => hc q hq hcut, Rooted]
        have hne : c ≠ [] := fun hnil => by simp [hnil, Cut] at hcut
        simp [hcut.2, hne]
      by_cases hlast : c.getLast? = some '.'
      · obtain rfl : c = ['.'] := not_not.mp fun hne => hcut ⟨hlast, hne⟩
        rw [fuse, if_pos hlast]
        exact fuse_rooted_iff hps
      · have hdot : c ≠ ['.'] := fun hdot => hlast (by rw [hdot]; rfl)
        obtain ⟨q, qs, hfuse⟩ := List.exists_cons_of_ne_nil (fuse_ne_nil ps p)
        rw [fuse, if_neg hlast, hfuse, Rooted]
        simp [hdot]

/-! ## The names -/

/-- A name that does not begin at the root. -/
def IsRelative (s : String) : Prop := s.toList.head? ≠ some '/'

instance (s : String) : Decidable (IsRelative s) := inferInstanceAs (Decidable (_ ≠ _))

/-- No part that ends in a dot, a single dot apart, has a part behind it, single dots apart; and
behind the `./` that it begins with the name does not go on with a slash. -/
def Harmless (s : String) : Prop :=
  Whole (s.toList.splitOn '/') ∧ ¬ Rooted (s.toList.splitOn '/')

theorem components_subreplaceDot_iff (s : String) :
    components (subreplaceDot s) = components s ↔ Whole (s.toList.splitOn '/') := by
  obtain ⟨c, ps, hs⟩ := List.exists_cons_of_ne_nil (List.splitOn_ne_nil '/' s.toList)
  rw [components_eq_iff, splitOn_subreplaceDot, fused, hs]
  exact kept_fuse_iff

/-- **A name keeps its meaning exactly when it is harmless.** -/
theorem ofString_subreplaceDot_iff {s : String} (hs : IsRelative s) :
    ofString (subreplaceDot s) = ofString s ↔ Harmless s := by
  obtain ⟨c, ps, hparts⟩ := List.exists_cons_of_ne_nil (List.splitOn_ne_nil '/' s.toList)
  have hroot : Whole (c :: ps) →
      ((subreplaceDot s).toList.head? = some '/' ↔ Rooted (c :: ps)) := fun h => by
    rw [head?_eq_slash_iff, splitOn_subreplaceDot, fused, hparts]
    exact fuse_rooted_iff h
  rw [Harmless, hparts, ofString, ofString, if_neg hs]
  split
  · refine iff_of_false (fun h => ?_) fun h => h.2 ((hroot h.1).mp ‹_›)
    exact slash_not_mem_components s (h ▸ List.mem_cons_self)
  · rw [components_subreplaceDot_iff, hparts]
    exact (and_iff_left_of_imp fun h => (hroot h).not.mp ‹_›).symm

/-- What `send_file` relies on for two names. -/
def KeptApart (s t : String) : Prop :=
  ofString (subreplaceDot s) ≠ ofString (subreplaceDot t) ∧
    ofString (subreplaceDot s) = ofString s ∧ ofString (subreplaceDot t) = ofString t

/-- **When different files keep their names apart**, each its own. -/
theorem kept_apart_iff {s t : String} (hs : IsRelative s) (ht : IsRelative t)
    (hne : ofString s ≠ ofString t) : KeptApart s t ↔ Harmless s ∧ Harmless t := by
  rw [KeptApart, ofString_subreplaceDot_iff hs, ofString_subreplaceDot_iff ht]
  refine and_iff_right_of_imp fun ⟨h₁, h₂⟩ => ?_
  rwa [(ofString_subreplaceDot_iff hs).mpr h₁, (ofString_subreplaceDot_iff ht).mpr h₂]

/-- A name below the working directory, and one in it. -/
theorem kept_apart_plain : KeptApart "./up/a.txt" "b" ↔ Harmless "./up/a.txt" ∧ Harmless "b" :=
  kept_apart_iff (by decide) (by decide) (by decide)

/-- **Two files under one name**: one in a directory whose name ends in a dot, and one above the
working directory. -/
theorem not_kept_apart :
    ¬ (∀ s t : String, IsRelative s → IsRelative t → ofString s ≠ ofString t → KeptApart s t) ∧
      ¬ KeptApart "a./b" "ab" ∧ ¬ KeptApart "../x" ".x" := by
  have hdir : ¬ KeptApart "a./b" "ab" := fun h => h.1 (by decide)
  exact ⟨fun h => hdir (h _ _ (by decide) (by decide) (by decide)), hdir, fun h => h.1 (by decide)⟩

end FileTopic

end Sadip

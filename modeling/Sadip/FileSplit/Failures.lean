import Mathlib.Data.List.TakeDrop
import Sadip.FileSplit.Opens

/-!
# FileSplit/Failures — `move` when anything can fail, `utils/FileSplit.h`

A stream opens a name when the names above it are directories and the system grants it; the device
may be full before the last byte, and `remove` may fail.  `move` looks at one of these outcomes
only, whether the source opened, and by then the destination has been emptied.  It is all or nothing
in the cases of `Settles`, and in no other: `move_atomic_iff`.

Source and destination are one file when their names lead to one place, however they are spelled.
With every name one that opens and nothing failing this is `move` of `FileSplit`
(`moveFailing_eq_move`).
-/

namespace Sadip

namespace FileSplit

open FsPath

/-- What the system makes of one call of `move`. -/
structure MoveOutcome where
  /-- it grants the opening of the source, if the name opens -/
  ifs : Bool
  /-- and of the destination -/
  ofs : Bool
  /-- the bytes the destination's device takes -/
  room : ℕ
  /-- `remove` succeeds -/
  removed : Bool
  deriving DecidableEq

section

variable (o : MoveOutcome) (fs : FileSystem) (cwd : FsPath) (src dst : String)

/-- What `ifs` has opened. -/
def MoveOutcome.ifsPlace : Option FsPath := if o.ifs then fs.readPlace cwd src else none

/-- What `ofs` has opened. -/
def MoveOutcome.ofsPlace : Option FsPath := if o.ofs then fs.writePlace cwd dst else none

/-- `move`, in a working directory.  The destination is emptied before anything is read, so that a
file moved onto itself is empty by then; a directory opens, and nothing comes out of it. -/
def moveFailing : Bool × FileSystem :=
  let opened := match o.ofsPlace fs cwd dst with
    | some q => fs.write q []
    | none => fs
  match o.ifsPlace fs cwd src with
  | some p =>
      let copied := match o.ofsPlace fs cwd dst with
        | some q => opened.write q (((opened.files p).getD []).take o.room)
        | none => opened
      (true, if o.removed then copied.unlink p else copied)
  | none => (false, opened)

end

/-- What is stored at a place, if there is one. -/
def contentAt (fs : FileSystem) (p : Option FsPath) : Option Bytes := p.bind fs.files

/-- **All or nothing.**  The answer is true, the destination holds what the source held, and the
source, if it is another file, is gone; or the answer is false and both are as they were. -/
def Atomic (fs : FileSystem) (src dst : Option FsPath) (r : Bool × FileSystem) : Prop :=
  (r.1 = true ∧ (∃ content, contentAt fs src = some content ∧ contentAt r.2 dst = some content) ∧
      (src ≠ dst → contentAt r.2 src = none)) ∨
    (r.1 = false ∧ contentAt r.2 src = contentAt fs src ∧ contentAt r.2 dst = contentAt fs dst)

/-- The cases in which nothing is lost.  Apart from the first, in which all goes well, and the
second, in which nothing opens, they are coincidences: a destination that is empty already, or holds
the same already, and a file moved onto itself that could not be opened, or was empty, and was not
removed. -/
def Settles (o : MoveOutcome) (fs : FileSystem) (cwd : FsPath) (src dst : String) : Prop :=
  if (o.ifsPlace fs cwd src).isSome then
    ∃ content, contentAt fs (fs.place cwd src) = some content ∧
      if fs.place cwd src = fs.place cwd dst then
        o.removed = false ∧ ((o.ofsPlace fs cwd dst).isSome → content = [])
      else o.removed = true ∧
        if (o.ofsPlace fs cwd dst).isSome then content.length ≤ o.room
        else contentAt fs (fs.place cwd dst) = some content
  else (o.ofsPlace fs cwd dst).isSome → contentAt fs (fs.place cwd dst) = some []

/-! ## What is left where -/

variable {o : MoveOutcome} {fs : FileSystem} {cwd : FsPath} {src dst : String} {p q : FsPath}
  {content : Bytes}

/-- What is opened is what the name leads to. -/
theorem place_of_ifsPlace (h : o.ifsPlace fs cwd src = some p) : fs.place cwd src = some p := by
  rw [MoveOutcome.ifsPlace, Option.ite_none_right_eq_some, FileSystem.readPlace] at h
  exact (Option.filter_eq_some_iff.mp h.2).1

theorem place_of_ofsPlace (h : o.ofsPlace fs cwd dst = some q) : fs.place cwd dst = some q := by
  rw [MoveOutcome.ofsPlace, Option.ite_none_right_eq_some, FileSystem.writePlace] at h
  exact (Option.filter_eq_some_iff.mp h.2).1

/-- **The destination** of a call that reads: what the device took of the source, or what was
there. -/
theorem contentAt_moveFailing_dst (hsrc : o.ifsPlace fs cwd src = some p)
    (hne : some p ≠ fs.place cwd dst) :
    contentAt (moveFailing o fs cwd src dst).2 (fs.place cwd dst) =
      if (o.ofsPlace fs cwd dst).isSome then some (((fs.files p).getD []).take o.room)
      else contentAt fs (fs.place cwd dst) := by
  rw [moveFailing, hsrc]
  rcases hdst : o.ofsPlace fs cwd dst with - | q
  · rcases hplace : fs.place cwd dst with - | q
    · rfl
    · rw [hplace] at hne
      have hpq : q ≠ p := fun h => hne (congrArg some h.symm)
      rcases o.removed <;> simp [contentAt, hpq]
  · rw [place_of_ofsPlace hdst] at hne ⊢
    have hpq : q ≠ p := fun h => hne (congrArg some h.symm)
    rcases o.removed <;> simp [contentAt, hpq, hpq.symm]

/-- …and its source. -/
theorem contentAt_moveFailing_src (hsrc : o.ifsPlace fs cwd src = some p)
    (hne : some p ≠ fs.place cwd dst) : contentAt (moveFailing o fs cwd src dst).2 (some p) =
      if o.removed then none else fs.files p := by
  rw [moveFailing, hsrc]
  rcases hdst : o.ofsPlace fs cwd dst with - | q
  · rcases o.removed <;> simp [contentAt]
  · rw [place_of_ofsPlace hdst] at hne
    have hpq : p ≠ q := fun h => hne (congrArg some h)
    rcases o.removed <;> simp [contentAt, hpq]

/-- A file moved onto itself. -/
theorem contentAt_moveFailing_self (hsrc : o.ifsPlace fs cwd src = some p)
    (heq : some p = fs.place cwd dst) : contentAt (moveFailing o fs cwd src dst).2 (some p) =
      if o.removed then none
      else if (o.ofsPlace fs cwd dst).isSome then some [] else fs.files p := by
  rw [moveFailing, hsrc]
  rcases hdst : o.ofsPlace fs cwd dst with - | q
  · rcases o.removed <;> simp [contentAt]
  · obtain rfl := Option.some.inj (heq.trans (place_of_ofsPlace hdst))
    rcases o.removed <;> simp [contentAt]

/-- A call that cannot read. -/
theorem moveFailing_of_none (hsrc : o.ifsPlace fs cwd src = none) : moveFailing o fs cwd src dst =
    (false, match o.ofsPlace fs cwd dst with
      | some q => fs.write q []
      | none => fs) := by
  rw [moveFailing, hsrc]

/-- Directories stay, if the source is none. -/
theorem isDir_moveFailing (hsrc : ∀ p, fs.place cwd src = some p → fs.isDir p = false) :
    (moveFailing o fs cwd src dst).2.isDir = fs.isDir := by
  rw [moveFailing]
  rcases hifs : o.ifsPlace fs cwd src with - | p
  · rcases o.ofsPlace fs cwd dst <;> rfl
  · have hfile : Function.update fs.isDir p false = fs.isDir := by
      rw [← hsrc p (place_of_ifsPlace hifs), Function.update_eq_self]
    rcases o.ofsPlace fs cwd dst <;> rcases o.removed <;> simp [FileSystem.unlink, hfile]

theorem moveFailing_fst : (moveFailing o fs cwd src dst).1 = (o.ifsPlace fs cwd src).isSome := by
  rw [moveFailing]
  rcases o.ifsPlace fs cwd src <;> rfl

/-- A file moved onto itself is still there when it was not opened for writing, or was empty, and
was not removed. -/
theorem contentAt_self_iff (hsrc : o.ifsPlace fs cwd src = some p)
    (heq : some p = fs.place cwd dst) (hcontent : fs.files p = some content) :
    contentAt (moveFailing o fs cwd src dst).2 (some p) = some content ↔
      o.removed = false ∧ ((o.ofsPlace fs cwd dst).isSome → content = []) := by
  rw [contentAt_moveFailing_self hsrc heq, hcontent]
  rcases o.removed <;> rcases o.ofsPlace fs cwd dst <;> simp [eq_comm]

/-- Another file is moved when the source is removed and the destination takes all of it, or holds
it already. -/
theorem moved_iff (hsrc : o.ifsPlace fs cwd src = some p) (hne : some p ≠ fs.place cwd dst)
    (hcontent : fs.files p = some content) :
    (contentAt (moveFailing o fs cwd src dst).2 (fs.place cwd dst) = some content ∧
        contentAt (moveFailing o fs cwd src dst).2 (some p) = none) ↔
      o.removed = true ∧ if (o.ofsPlace fs cwd dst).isSome then content.length ≤ o.room
        else contentAt fs (fs.place cwd dst) = some content := by
  rw [contentAt_moveFailing_dst hsrc hne, contentAt_moveFailing_src hsrc hne, hcontent,
    Option.getD_some, and_comm]
  rcases o.removed <;> rcases o.ofsPlace fs cwd dst <;> simp

/-- A call that cannot read changes nothing but a destination that opens. -/
theorem unread_iff (hsrc : o.ifsPlace fs cwd src = none) :
    (contentAt (moveFailing o fs cwd src dst).2 (fs.place cwd src) =
          contentAt fs (fs.place cwd src) ∧
        contentAt (moveFailing o fs cwd src dst).2 (fs.place cwd dst) =
          contentAt fs (fs.place cwd dst)) ↔
      ((o.ofsPlace fs cwd dst).isSome → contentAt fs (fs.place cwd dst) = some []) := by
  rw [moveFailing_of_none hsrc]
  rcases hdst : o.ofsPlace fs cwd dst with - | q
  · simp
  · have hwrite : (fs.files q = some []) → fs.write q [] = fs := by
      intro h
      rw [FileSystem.write, ← h, Function.update_eq_self]
    rw [place_of_ofsPlace hdst]
    refine ⟨fun h _ => ?_, fun h => ?_⟩
    · rw [← h.2]
      simp [contentAt]
    · show contentAt (fs.write q []) _ = _ ∧ contentAt (fs.write q []) _ = _
      rw [hwrite (h rfl)]
      exact ⟨rfl, rfl⟩

/-- **When nothing is lost**: `move` is all or nothing in these cases alone. -/
theorem move_atomic_iff (o : MoveOutcome) (fs : FileSystem) (cwd : FsPath) (src dst : String) :
    Atomic fs (fs.place cwd src) (fs.place cwd dst) (moveFailing o fs cwd src dst) ↔
      Settles o fs cwd src dst := by
  rw [Atomic, moveFailing_fst, Settles]
  rcases hsrc : o.ifsPlace fs cwd src with - | p
  · simp only [Option.isSome_none, Bool.false_eq_true, false_and, false_or, true_and, if_false]
    exact unread_iff hsrc
  simp only [Option.isSome_some, reduceCtorEq, false_and, or_false, true_and, if_true]
  rw [← exists_and_right, place_of_ifsPlace hsrc]
  refine exists_congr fun content => ?_
  rw [and_assoc]
  refine and_congr_right fun hcontent => ?_
  by_cases heq : some p = fs.place cwd dst
  · rw [if_pos heq, ← contentAt_self_iff hsrc heq hcontent, ← heq]
    exact and_iff_left fun hne => absurd rfl hne
  · rw [if_neg heq, ← moved_iff hsrc heq hcontent, imp_iff_right heq]

/-- **What is all or nothing loses nothing**: the content is still at one of the two places. -/
theorem Atomic.stored {r : Bool × FileSystem} {p q : Option FsPath} (h : Atomic fs p q r)
    (hsrc : contentAt fs p = some content) :
    contentAt r.2 p = some content ∨ contentAt r.2 q = some content := by
  rcases h with ⟨-, ⟨content', hsrc', hdst⟩, -⟩ | ⟨-, hp, -⟩
  · obtain rfl := Option.some.inj (hsrc.symm.trans hsrc')
    exact .inr hdst
  · exact .inl (hp.trans hsrc)

/-- Nothing fails, and both names open their own paths: this is `move`. -/
theorem moveFailing_eq_move (hifs : o.ifsPlace fs cwd src = some (ofString src))
    (hofs : o.ofsPlace fs cwd dst = some (ofString dst))
    (hsrc : fs.files (ofString src) = some content) (hne : ofString src ≠ ofString dst)
    (hroom : content.length ≤ o.room) (hremoved : o.removed = true) :
    (moveFailing o fs cwd src dst).2.files = (move fs src dst).files := by
  have hopened : (fs.write (ofString dst) []).files (ofString src) = some content := by
    rw [FileSystem.files_write_of_ne _ _ hne, hsrc]
  rw [moveFailing, move, hifs, hofs, hremoved, hsrc]
  simp only [if_true, hopened, Option.getD_some, List.take_of_length_le hroom,
    FileSystem.append_write, FileSystem.write_write, List.nil_append]
  rfl

/-- All is granted, there is room, and `remove` succeeds. -/
def MoveOutcome.calm : MoveOutcome := ⟨true, true, 9, true⟩

/-- A file of one byte in the working directory `w`, and a directory next to it. -/
def oneFile (name : String) : FileSystem :=
  ⟨fun q => if q = ["w", name] then some [1] else none,
    fun q => q = [] || q = ["w"] || q = ["w", "e"]⟩

/-- **What is lost with nothing failing**: a destination whose source is not there is emptied, a
file moved onto itself is gone, however it is spelled, and so is one moved to a directory that is
not there. -/
theorem not_move_atomic :
    let atomic (name src dst : String) := Atomic (oneFile name) ((oneFile name).place ["w"] src)
      ((oneFile name).place ["w"] dst) (moveFailing .calm (oneFile name) ["w"] src dst)
    ¬ atomic "b" "a" "b" ∧ ¬ atomic "a" "a" "a" ∧ ¬ atomic "a" "a" "e/../a" ∧
      ¬ atomic "a" "a" "/w/a" ∧ ¬ atomic "a" "a" "d/b" := by
  have hself : ∀ dst, (oneFile "a").place ["w"] "a" = (oneFile "a").place ["w"] dst →
      ¬ Settles .calm (oneFile "a") ["w"] "a" dst := by
    intro dst heq h
    rw [Settles, if_pos (by decide)] at h
    obtain ⟨content, -, h⟩ := h
    rw [if_pos heq] at h
    cases h.1
  simp only [move_atomic_iff]
  refine ⟨fun h => ?_, hself "a" rfl, hself "e/../a" (by decide), hself "/w/a" (by decide),
    fun h => ?_⟩
  · rw [Settles, if_neg (by decide)] at h
    exact absurd (h (by decide)) (by decide)
  · rw [Settles, if_pos (by decide)] at h
    obtain ⟨content, -, h⟩ := h
    rw [if_neg (by decide), if_neg (by decide)] at h
    have hnone : contentAt (oneFile "a") ((oneFile "a").place ["w"] "d/b") = none := by decide
    rw [hnone] at h
    cases h.2

end FileSplit

end Sadip

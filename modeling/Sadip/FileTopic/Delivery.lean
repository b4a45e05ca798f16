import Sadip.FileSplit.Failures
import Sadip.FileTopic.Receive

/-!
# FileTopic/Delivery — `move_clear_tmp` when anything can fail, `node/src/FileTopic.cpp`

The merged file goes to a path worked out from two fields of the end block, its directory is
removed, and the sender is told that all is well.  What `move` came to is not looked at.
`delivers_iff` says when the file is where it should be by then: the path leads to a file's place,
in a directory that is there, and outside the one that is removed.

With nothing failing this is `moveClearTmp` of `FileTopic/Receive` (`files_moveClearTmpFailing`).
-/

namespace Sadip

namespace FileTopic

open FileSplit FsPath

/-- What the system makes of one call of `move_clear_tmp`. -/
structure DeliveryOutcome where
  /-- `mkdir` does not throw -/
  made : Bool
  move : MoveOutcome
  /-- what `remove_all_files` leaves when it throws -/
  left : Option (FsPath → Bool)

/-- The `mkdir` of `move_clear_tmp`, if it is called. -/
def makePathAt (fs : FileSystem) (cwd : FsPath) : Option String → FileSystem
  | none => fs
  | some path => fs.makeDirs cwd path

/-- What is left when the files of a directory are removed, up to an exception if there is one. -/
def removeUpTo (left : Option (FsPath → Bool)) (fs : FileSystem) (p : FsPath) : FileSystem :=
  match left with
  | none => fs.removeAll p
  | some left =>
      { fs with files := fun q => if p.isPrefixOf q && !left q then none else fs.files q }

/-- `remove_all_files`, and whether it returns. -/
def removeAllFailing (left : Option (FsPath → Bool)) (fs : FileSystem) (cwd : FsPath)
    (dir : String) : FileSystem × Bool :=
  match (fs.place cwd dir).filter fs.isDir with
  | none => (fs, true)
  | some p => (removeUpTo left fs p, left.isNone)

/-- `move_clear_tmp`, in a working directory: the file system, and the reply if one is put on
`reply_queue_`. -/
def moveClearTmpFailing (o : DeliveryOutcome) (size : Int) (fs : FileSystem) (cwd : FsPath)
    (fileData : FileData) (mergeFileName tmpDir : String) (reply : FileDataReply) :
    FileSystem × Option FileDataReply :=
  if size = fileData.fileTotalSize then
    let reply' := { reply with isEnd := true, state := 5 }
    if fileData.saveFileName.length > 0 then
      let paths := savePaths fileData
      if paths.1.isSome && !o.made then (fs, none)
      else
        let moved := (moveFailing o.move (makePathAt fs cwd paths.1) cwd mergeFileName paths.2).2
        let cleared := removeAllFailing o.left moved cwd tmpDir
        (cleared.1, if cleared.2 then some reply' else none)
    else (fs, some reply')
  else (fs, none)

/-- An end block whose blocks have been merged to as many bytes as it says. -/
structure MergedBlock where
  fileData : FileData
  fs : FileSystem
  cwd : FsPath
  tmpDir : String
  /-- where `tmpDir` leads -/
  dir : FsPath
  content : Bytes
  place : fs.place cwd tmpDir = some dir
  isDir : fs.isDir dir = true
  merged : fs.files (dir ++ ["merge.out"]) = some content
  isFile : fs.isDir (dir ++ ["merge.out"]) = false
  size : content.length = fileData.fileTotalSize

namespace MergedBlock

variable (E : MergedBlock) (o : DeliveryOutcome) (reply : FileDataReply)

/-- The call that `handle_file_data` makes. -/
def call : FileSystem × Option FileDataReply :=
  moveClearTmpFailing o E.content.length E.fs E.cwd E.fileData (E.tmpDir ++ "/merge.out") E.tmpDir
    reply

/-- The path the file is to be moved to. -/
def dst : String := (savePaths E.fileData).2

/-- The file system that `move` works in. -/
def made : FileSystem := makePathAt E.fs E.cwd (savePaths E.fileData).1

/-- Where the path leads. -/
def dstPlace : Option FsPath := E.made.place E.cwd E.dst

/-- The block names a place, and the whole content is there. -/
def Stored (fs : FileSystem) : Prop :=
  0 < E.fileData.saveFileName.length ∧ contentAt fs E.dstPlace = some E.content

/-- **Delivery before confirmation.**  A reply of state `5` is queued, and the directory removed,
only when the content is in its place. -/
structure Delivers : Prop where
  confirmed : ∀ r ∈ (E.call o reply).2, r.state = 5 → E.Stored (E.call o reply).1
  cleared : (E.call o reply).1.isDir E.dir = false → E.Stored (E.call o reply).1

/-- The content arrives: the place is outside the directory, and opens, with room for it; or does
not open, and has the content already.  (If the merged file is not opened, only an empty one
arrives.) -/
def Arrives (m : MoveOutcome) : Prop :=
  ∃ q, E.dstPlace = some q ∧ ¬ E.dir <+: q ∧
    if (m.ofsPlace E.made E.cwd E.dst).isSome then
      if (m.ifsPlace E.made E.cwd (E.tmpDir ++ "/merge.out")).isSome then E.content.length ≤ m.room
      else E.content = []
    else E.fs.files q = some E.content

variable {E o reply}

/-- The place of the merged file. -/
def mergedPlace (E : MergedBlock) : FsPath := E.dir ++ ["merge.out"]

@[simp] theorem files_made (E : MergedBlock) : E.made.files = E.fs.files := by
  rw [made]
  cases (savePaths E.fileData).1 <;> rfl

theorem isDir_made_of_isDir (E : MergedBlock) {p : FsPath} (h : E.fs.isDir p = true) :
    E.made.isDir p = true := by
  rw [made]
  cases (savePaths E.fileData).1 with
  | none => exact h
  | some path => exact E.fs.isDir_makeDirs_of_isDir E.cwd h path

theorem isDir_made_mergedPlace (E : MergedBlock) : E.made.isDir E.mergedPlace = false := by
  rw [made]
  cases (savePaths E.fileData).1 with
  | none => exact E.isFile
  | some path =>
    have hfile : (E.fs.files E.mergedPlace).isSome = true := by rw [mergedPlace, E.merged]; rfl
    exact (E.fs.isDir_makeDirs_of_file E.cwd hfile path).trans E.isFile

theorem place_made (E : MergedBlock) : E.made.place E.cwd E.tmpDir = some E.dir :=
  FileSystem.place_mono (fun _ => E.isDir_made_of_isDir) E.place

theorem place_mergeOut (E : MergedBlock) :
    E.made.place E.cwd (E.tmpDir ++ "/merge.out") = some E.mergedPlace := by
  have hname : E.tmpDir ++ "/merge.out" = E.tmpDir ++ "/" ++ "merge.out" := by
    rw [String.append_assoc]
    rfl
  rw [hname]
  exact FileSystem.place_append_name _ _ E.place_made (E.isDir_made_of_isDir E.isDir)
    ⟨by decide, by decide, by decide⟩ (by decide)

theorem isDir_moved (m : MoveOutcome) :
    (moveFailing m E.made E.cwd (E.tmpDir ++ "/merge.out") E.dst).2.isDir = E.made.isDir := by
  refine isDir_moveFailing fun p hp => ?_
  obtain rfl := Option.some.inj (E.place_mergeOut.symm.trans hp)
  exact E.isDir_made_mergedPlace

/-- **What is at a place outside the directory** once `move` has been called. -/
theorem files_moved {m : MoveOutcome} {q : FsPath} (hq : E.dstPlace = some q)
    (hout : ¬ E.dir <+: q) :
    (moveFailing m E.made E.cwd (E.tmpDir ++ "/merge.out") E.dst).2.files q = some E.content ↔
      if (m.ofsPlace E.made E.cwd E.dst).isSome then
        if (m.ifsPlace E.made E.cwd (E.tmpDir ++ "/merge.out")).isSome then
          E.content.length ≤ m.room
        else E.content = []
      else E.fs.files q = some E.content := by
  have hplace : E.made.place E.cwd E.dst = some q := hq
  rcases hifs : m.ifsPlace E.made E.cwd (E.tmpDir ++ "/merge.out") with - | p
  · rw [moveFailing_of_none hifs]
    rcases hofs : m.ofsPlace E.made E.cwd E.dst with - | q'
    · simp
    · obtain rfl := Option.some.inj (hplace.symm.trans (place_of_ofsPlace hofs))
      simp [eq_comm]
  · obtain rfl := Option.some.inj (E.place_mergeOut.symm.trans (place_of_ifsPlace hifs))
    have hne : some E.mergedPlace ≠ E.made.place E.cwd E.dst := by
      rw [hplace]
      rintro ⟨⟩
      exact hout (List.prefix_append _ _)
    have hmoved := contentAt_moveFailing_dst hifs hne
    rw [hplace] at hmoved
    have hmerged : E.made.files E.mergedPlace = some E.content := E.files_made ▸ E.merged
    show contentAt _ (some q) = _ ↔ _
    rw [hmoved, hmerged, Option.getD_some]
    rcases m.ofsPlace E.made E.cwd E.dst <;> simp [contentAt]

/-- What `move` leaves. -/
def moved (E : MergedBlock) (m : MoveOutcome) : FileSystem :=
  (moveFailing m E.made E.cwd (E.tmpDir ++ "/merge.out") E.dst).2

/-- `remove_all_files` finds the directory. -/
theorem removeAllFailing_moved (left : Option (FsPath → Bool)) (m : MoveOutcome) :
    removeAllFailing left (E.moved m) E.cwd E.tmpDir =
      (removeUpTo left (E.moved m) E.dir, left.isNone) := by
  have hisDir : (E.moved m).isDir = E.made.isDir := isDir_moved m
  have hplace : ((E.moved m).place E.cwd E.tmpDir).filter (E.moved m).isDir = some E.dir := by
    rw [FileSystem.place_congr hisDir, E.place_made, hisDir]
    exact Option.filter_some_pos (E.isDir_made_of_isDir E.isDir)
  rw [removeAllFailing, hplace]

/-- The call, with the size that matches. -/
theorem call_eq : E.call o reply =
    if 0 < E.fileData.saveFileName.length then
      if (savePaths E.fileData).1.isSome && !o.made then (E.fs, none)
      else (removeUpTo o.left (E.moved o.move) E.dir,
        if o.left.isNone then some { reply with isEnd := true, state := 5 } else none)
    else (E.fs, some { reply with isEnd := true, state := 5 }) := by
  have hclear := E.removeAllFailing_moved o.left o.move
  have hsize : (E.content.length : Int) = E.fileData.fileTotalSize := congrArg Nat.cast E.size
  rw [call, moveClearTmpFailing, if_pos hsize]
  show (if 0 < E.fileData.saveFileName.length then
    if (savePaths E.fileData).1.isSome && !o.made then (E.fs, none)
    else ((removeAllFailing o.left (E.moved o.move) E.cwd E.tmpDir).1,
      if (removeAllFailing o.left (E.moved o.move) E.cwd E.tmpDir).2 then
        some { reply with isEnd := true, state := 5 } else none)
    else (E.fs, some { reply with isEnd := true, state := 5 })) = _
  rw [hclear]

/-- A call that comes to its end stores the content when it arrives, and then only. -/
theorem stored_call_iff (hname : 0 < E.fileData.saveFileName.length)
    (hmade : ((savePaths E.fileData).1.isSome && !o.made) = false) (hleft : o.left = none) :
    E.Stored (E.call o reply).1 ↔ E.Arrives o.move := by
  rw [Stored, and_iff_right hname, call_eq, if_pos hname, hmade, hleft, Arrives]
  rcases hq : E.dstPlace with - | q
  · simp [contentAt]
  simp only [Option.some.injEq, exists_eq_left', Bool.false_eq_true, if_false, removeUpTo]
  rw [contentAt, Option.bind_some, FileSystem.files_removeAll]
  split
  · exact iff_of_false (by simp) fun h => h.1 ‹_›
  · rw [moved, files_moved hq ‹_›, and_iff_right ‹_›]

end MergedBlock

/-! ## With nothing failing -/

/-- Where a file is moved to does not depend on the directories. -/
theorem files_move_congr {fs fs' : FileSystem} (h : fs.files = fs'.files) (src dst : String) :
    (move fs src dst).files = (move fs' src dst).files := by
  simp only [move, FileSystem.write, FileSystem.append, FileSystem.remove, h]
  split <;> rfl

/-- **With nothing failing this is `moveClearTmp`**, if the names lead to their own paths. -/
theorem files_moveClearTmpFailing (E : MergedBlock) (o : DeliveryOutcome) (reply : FileDataReply)
    (hmade : o.made = true) (hleft : o.left = none) (hdir : E.dir = ofString E.tmpDir)
    (hifs : o.move.ifsPlace E.made E.cwd (E.tmpDir ++ "/merge.out") =
      some (ofString (E.tmpDir ++ "/merge.out")))
    (hofs : o.move.ofsPlace E.made E.cwd E.dst = some (ofString E.dst))
    (hdst : ofString (E.tmpDir ++ "/merge.out") ≠ ofString E.dst)
    (hroom : E.content.length ≤ o.move.room) (hremoved : o.move.removed = true) :
    (E.call o reply).1.files = (moveClearTmp E.fileData.fileTotalSize E.fs E.fileData
      (E.tmpDir ++ "/merge.out") E.tmpDir reply).1.files := by
  have hplace : E.mergedPlace = ofString (E.tmpDir ++ "/merge.out") :=
    Option.some.inj (E.place_mergeOut.symm.trans (place_of_ifsPlace hifs))
  have hmerged : E.made.files (ofString (E.tmpDir ++ "/merge.out")) = some E.content := by
    rw [← hplace]
    exact E.files_made ▸ E.merged
  have hmoved : (E.moved o.move).files = (move E.made (E.tmpDir ++ "/merge.out") E.dst).files :=
    moveFailing_eq_move hifs hofs hmerged hdst hroom hremoved
  have hfiles : E.made.files = (makePath E.fs (savePaths E.fileData).1).files :=
    E.files_made.trans (files_makePath _ _).symm
  have htmpDir : FileSplit.isDir E.fs E.tmpDir = true := by
    have hne : E.tmpDir ≠ "" := fun h => by
      have hplace := E.place
      rw [FileSystem.place, if_pos h] at hplace
      cases hplace
    rw [FileSplit.isDir, decide_eq_true hne, ← hdir, E.isDir]
    rfl
  rw [MergedBlock.call_eq, moveClearTmp, if_pos rfl]
  by_cases hname : 0 < E.fileData.saveFileName.length
  · rw [if_pos hname, if_pos (show E.fileData.saveFileName.length > 0 from hname), hmade, hleft]
    simp only [Bool.not_true, Bool.and_false, Bool.false_eq_true, if_false, removeUpTo]
    rw [removeAllFiles_eq (by rw [FileSplit.isDir, isDir_move]; exact isDir_makePath _ htmpDir)]
    funext q
    rw [FileSystem.files_removeAll, FileSystem.files_removeAll, hmoved, hdir,
      files_move_congr hfiles]
    rfl
  · rw [if_neg hname, if_neg (show ¬ E.fileData.saveFileName.length > 0 from hname)]

/-- All is granted, and nothing throws. -/
def DeliveryOutcome.calm : DeliveryOutcome := ⟨true, .calm, none⟩

/-- The end block of a file of one byte, with this name and directory to save it under. -/
def oneByte (saveFileName subDir : String) : MergedBlock where
  fileData := ⟨"u", "m", "n1", "recv/f", saveFileName, subDir, true, 1, 0, 0, 1, [1], 1, ".", "."⟩
  fs := ⟨fun p => if p = ["w", "recv", "f_tmp", "merge.out"] then some [1] else none,
    fun p => p = [] || p = ["w"] || p = ["w", "recv"] || p = ["w", "recv", "f_tmp"]⟩
  cwd := ["w"]
  tmpDir := "recv/f_tmp"
  dir := ["w", "recv", "f_tmp"]
  content := [1]
  place := by decide
  isDir := by decide
  merged := by decide
  isFile := by decide
  size := rfl

end FileTopic

end Sadip

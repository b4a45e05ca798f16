import Sadip.FileSplit

/-!
# FileSplit/Opens — the file helpers when opens fail, `utils/FileSplit.h`

`move` and `write_file` report to the log that a stream did not open, and go on.  An open for
reading needs the file to be there and the system to grant it; an open for writing makes the file,
or empties it.  With every open granted these are the operations of `FileSplit`
(`moveOpening_granted`).
-/

namespace Sadip

namespace FileSplit

open FsPath

/-- What the system grants the two streams of `move`. -/
structure MoveOpens where
  ifs : Bool
  ofs : Bool
  deriving DecidableEq

/-- `move`, with its result. -/
def moveOpening (o : MoveOpens) (fs : FileSystem) (src dst : String) : Bool × FileSystem :=
  let opened := if o.ofs then fs.write (ofString dst) [] else fs
  match o.ifs, fs.files (ofString src) with
  | true, some _ =>
      let copied := if o.ofs then
          opened.append (ofString dst) ((opened.files (ofString src)).getD [])
        else opened
      (true, copied.remove (ofString src))
  | _, _ => (false, opened)

/-- `write_file`. -/
def writeFileOpening (granted : Bool) (fs : FileSystem) (filename : String) (buff : Bytes) :
    FileSystem :=
  if granted then writeFile fs filename buff else fs

variable {o : MoveOpens} {fs : FileSystem} {src dst : String} {p : FsPath}

/-- **With both streams open** this is `move`. -/
theorem moveOpening_granted (fs : FileSystem) (src dst : String) :
    (moveOpening ⟨true, true⟩ fs src dst).2 = move fs src dst := by
  rw [moveOpening, move]
  cases fs.files (ofString src) <;> rfl

/-- The file that is moved is gone once it could be read, whether or not it could be written. -/
theorem files_moveOpening_src (h : ofString src ≠ ofString dst) :
    (moveOpening o fs src dst).2.files (ofString src)
      = if o.ifs then none else fs.files (ofString src) := by
  rcases o with ⟨ifs, ofs⟩
  rcases hsrc : fs.files (ofString src) with - | content
  · cases ifs <;> cases ofs <;> simp [moveOpening, hsrc, h]
  · cases ifs <;> cases ofs <;>
      simp [moveOpening, hsrc, h, FileSystem.remove]

/-- **What is at the destination**: once it could be opened, the file's content or nothing. -/
theorem files_moveOpening_dst (h : ofString src ≠ ofString dst) :
    (moveOpening o fs src dst).2.files (ofString dst)
      = if o.ofs then some (if o.ifs then (fs.files (ofString src)).getD [] else [])
        else fs.files (ofString dst) := by
  rcases o with ⟨ifs, ofs⟩
  rcases hsrc : fs.files (ofString src) with - | content
  · cases ifs <;> cases ofs <;> simp [moveOpening, hsrc]
  · cases ifs <;> cases ofs <;> simp [moveOpening, hsrc, h, h.symm]

theorem files_writeFileOpening_self (granted : Bool) (filename : String) (buff : Bytes) :
    (writeFileOpening granted fs filename buff).files (ofString filename)
      = if granted then some buff else fs.files (ofString filename) := by
  cases granted <;> simp [writeFileOpening, writeFile]

theorem files_writeFileOpening_of_ne {filename : String} (h : p ≠ ofString filename)
    (granted : Bool) (buff : Bytes) :
    (writeFileOpening granted fs filename buff).files p = fs.files p := by
  cases granted <;> simp [writeFileOpening, writeFile, h]

end FileSplit

end Sadip

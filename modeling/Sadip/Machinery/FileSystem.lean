import Mathlib.Data.List.Basic
import Mathlib.Logic.Function.Basic

/-!
# Machinery/FileSystem — paths, and files as a function of them

A path is the list of components the system walks: repeated slashes and `.` drop out, the root is
the component `/`, and `..` stays a component like any other.  A file system says which bytes are
stored under a path and which paths are directories; every operation succeeds.

Where it matters that two names may lead to one file, a name is followed from the working directory
or the root to its place (`place`), a path without `..`.
-/

/-- The bytes of a file. -/
abbrev Bytes := List UInt8

/-- A path, as its components. -/
abbrev FsPath := List String

namespace FsPath

/-- The components of a path string. -/
def components (s : String) : List String :=
  ((s.toList.splitOn '/').map String.ofList).filter fun c => c ≠ "" && c ≠ "."

/-- The path a string names. -/
def ofString (s : String) : FsPath :=
  if s.toList.head? = some '/' then "/" :: components s else components s

/-- A single proper component. -/
def IsName (s : String) : Prop := s ≠ "" ∧ s ≠ "." ∧ '/' ∉ s.toList

theorem components_append_slash (d s : String) :
    components (d ++ "/" ++ s) = components d ++ components s := by
  have h : (d ++ "/" ++ s).toList = d.toList ++ '/' :: s.toList := by
    rw [String.toList_append, String.toList_append, List.append_assoc]
    rfl
  rw [components, h, List.splitOn_append_cons_self, List.map_append, List.filter_append]
  rfl

theorem components_of_isName {s : String} (h : IsName s) : components s = [s] := by
  rw [components, List.splitOn_eq_singleton h.2.2]
  simp [h.1, h.2.1]

/-- **A path below a directory** has the directory's components first. -/
theorem ofString_append_slash {d : String} (hd : d ≠ "") (s : String) :
    ofString (d ++ "/" ++ s) = ofString d ++ components s := by
  obtain ⟨c, cs, hc⟩ := List.exists_cons_of_ne_nil (mt String.toList_eq_nil_iff.mp hd)
  rw [ofString, ofString, components_append_slash]
  simp only [String.toList_append, hc, List.cons_append, List.head?_cons]
  split <;> simp

theorem ofString_append_name {d s : String} (hd : d ≠ "") (hs : IsName s) :
    ofString (d ++ "/" ++ s) = ofString d ++ [s] := by
  rw [ofString_append_slash hd, components_of_isName hs]

theorem slash_not_mem_of_mem_splitOn : ∀ {cs p : List Char}, p ∈ cs.splitOn '/' → '/' ∉ p
  | [], p, hp => by
      rw [List.splitOn_nil, List.mem_singleton] at hp
      simp [hp]
  | c :: cs, p, hp => by
      obtain ⟨q, qs, hqs⟩ := List.exists_cons_of_ne_nil (List.splitOn_ne_nil '/' cs)
      have ih : ∀ r ∈ q :: qs, '/' ∉ r := fun r hr => slash_not_mem_of_mem_splitOn (hqs ▸ hr)
      rw [List.splitOn_cons_eq_if_modifyHead, hqs] at hp
      by_cases hc : c = '/'
      · rw [if_pos (by simp [hc])] at hp
        rcases List.mem_cons.mp hp with rfl | hp
        · simp
        · exact ih p hp
      · rw [if_neg (by simp [hc]), List.modifyHead_cons] at hp
        rcases List.mem_cons.mp hp with rfl | hp
        · simpa [Ne.symm hc] using ih q List.mem_cons_self
        · exact ih p (List.mem_cons_of_mem q hp)

/-- The root is no component of what is below it. -/
theorem slash_not_mem_components (s : String) : "/" ∉ components s := by
  intro h
  obtain ⟨p, hp, he⟩ := List.mem_map.mp (List.mem_filter.mp h).1
  obtain rfl : p = ['/'] := String.ofList_injective he
  exact slash_not_mem_of_mem_splitOn hp List.mem_cons_self

/-- Writing on without a slash changes the last piece only. -/
theorem exists_splitOn_append {t : List Char} (ht : '/' ∉ t) : ∀ xs : List Char,
    ∃ init last, xs.splitOn '/' = init ++ [last] ∧ (xs ++ t).splitOn '/' = init ++ [last ++ t]
  | [] => ⟨[], [], by simp [List.splitOn_eq_splitOnP], by simp [List.splitOn_eq_singleton ht]⟩
  | c :: xs => by
      obtain ⟨init, last, h, h'⟩ := exists_splitOn_append ht xs
      rw [List.cons_append, List.splitOn_cons_eq_if_modifyHead, List.splitOn_cons_eq_if_modifyHead,
        h, h']
      by_cases hc : c = '/'
      · exact ⟨[] :: init, last, by simp [hc], by simp [hc]⟩
      · cases init with
        | nil => exact ⟨[], c :: last, by simp [hc], by simp [hc]⟩
        | cons first init => exact ⟨(c :: first) :: init, last, by simp [hc], by simp [hc]⟩

/-- **Writing on without a slash loses no component.** -/
theorem length_components_append_le {s t : String} (ht : '/' ∉ t.toList) :
    (components s).length ≤ (components (s ++ t)).length := by
  obtain ⟨init, last, h, h'⟩ := exists_splitOn_append ht s.toList
  rw [components, components, String.toList_append, h, h']
  simp only [List.map_append, List.filter_append, List.length_append, List.map_singleton,
    Nat.add_le_add_iff_left]
  by_cases hkeep : last = [] ∨ last = ['.']
  · rcases hkeep with rfl | rfl <;> simp
  · have hkeep' : ¬ (last ++ t.toList = [] ∨ last ++ t.toList = ['.']) := by
      rintro (h0 | h0)
      · exact hkeep (.inl (List.append_eq_nil_iff.mp h0).1)
      · rcases List.append_eq_singleton_iff.mp h0 with ⟨h1, -⟩ | ⟨h1, -⟩
        · exact hkeep (.inl h1)
        · exact hkeep (.inr h1)
    have h1 : String.ofList (last ++ t.toList) ≠ "" := fun e =>
      hkeep' (.inl (by simpa using congrArg String.toList e))
    have h2 : String.ofList (last ++ t.toList) ≠ "." := fun e =>
      hkeep' (.inr (by simpa using congrArg String.toList e))
    refine Nat.le_trans (List.length_filter_le _ _) ?_
    rw [List.filter_cons_of_pos (by rw [decide_eq_true h1, decide_eq_true h2]; rfl)]
    simp

/-- **Writing on, and then a path below**, never gives back the path. -/
theorem ofString_append_ne {s t : String} (hs : s ≠ "") (ht : '/' ∉ t.toList)
    (hlen : 2 ≤ t.toList.length) (below : String) :
    ofString (s ++ t ++ "/" ++ below) ≠ ofString s := by
  obtain ⟨init, last, h, h'⟩ := exists_splitOn_append ht s.toList
  have hkeep : ∀ u : String, (last ++ t.toList).length ≠ u.toList.length →
      String.ofList (last ++ t.toList) ≠ u := fun u hu he => hu (by rw [← he, String.toList_ofList])
  have hlast : components (s ++ t) = ((init.map String.ofList).filter fun c => c ≠ "" && c ≠ ".")
      ++ [String.ofList (last ++ t.toList)] := by
    have h1 := hkeep "" (by rw [List.length_append]; show _ ≠ 0; omega)
    have h2 := hkeep "." (by rw [List.length_append]; show _ ≠ 1; omega)
    rw [components, String.toList_append, h', List.map_append, List.filter_append,
      List.map_singleton,
      List.filter_cons_of_pos (by rw [decide_eq_true h1, decide_eq_true h2]; rfl),
      List.filter_nil]
  have hself : components s = ((init.map String.ofList).filter fun c => c ≠ "" && c ≠ ".")
      ++ ([String.ofList last].filter fun c => c ≠ "" && c ≠ ".") := by
    rw [components, h, List.map_append, List.filter_append, List.map_singleton]
  obtain ⟨c, cs, hc⟩ := List.exists_cons_of_ne_nil (mt String.toList_eq_nil_iff.mp hs)
  have hhead : (s ++ t).toList.head? = s.toList.head? := by rw [String.toList_append, hc]; rfl
  have hst : s ++ t ≠ "" := fun he => by
    have := congrArg String.toList he
    rw [String.toList_append, hc] at this
    exact List.cons_ne_nil _ _ this
  intro heq
  have hcomp : components (s ++ t) ++ components below = components s := by
    rw [ofString_append_slash hst, ofString, ofString, hhead] at heq
    split at heq
    · exact (List.cons.inj heq).2
    · exact heq
  rw [hlast, hself, List.append_assoc] at hcomp
  have hmem : String.ofList (last ++ t.toList)
      ∈ [String.ofList last].filter fun c => c ≠ "" && c ≠ "." :=
    List.append_cancel_left hcomp ▸ List.mem_cons_self
  refine hkeep (String.ofList last) ?_ (List.mem_singleton.mp (List.mem_filter.mp hmem).1)
  rw [List.length_append, String.toList_ofList]
  omega

theorem isName_repr (n : ℕ) : IsName n.repr := by
  have hdigit : ∀ c ∈ n.repr.toList, c.isDigit := fun c hc =>
    Nat.isDigit_of_mem_toDigits (by decide) (by decide) (Nat.toList_repr ▸ hc)
  refine ⟨Nat.repr_ne_empty, fun h => ?_, fun h => ?_⟩
  · exact absurd (hdigit '.' (by rw [h]; decide)) (by decide)
  · exact absurd (hdigit '/' h) (by decide)

theorem repr_injective : Function.Injective Nat.repr := by
  intro m n h
  have hval := congrArg (fun s => Nat.ofDigitChars 10 s.toList 0) h
  simpa only [Nat.toList_repr, Nat.ofDigitChars_ten_toDigits] using hval

/-- What a name has after its last slash. -/
def leaf (s : String) : String := String.ofList ((s.toList.splitOn '/').getLastD [])

/-- A name that can be a file's: one that ends in a slash or a dot is a directory's. -/
def namesFile (s : String) : Bool := leaf s ≠ "" && leaf s ≠ "." && leaf s ≠ ".."

end FsPath

/-! ## File systems -/

/-- Files and directories under their paths. -/
structure FileSystem where
  files : FsPath → Option Bytes
  isDir : FsPath → Bool

namespace FileSystem

/-- Store a file, over whatever was there. -/
def write (fs : FileSystem) (p : FsPath) (b : Bytes) : FileSystem :=
  { fs with files := Function.update fs.files p (some b) }

/-- Write on at the end of a file. -/
def append (fs : FileSystem) (p : FsPath) (b : Bytes) : FileSystem :=
  fs.write p ((fs.files p).getD [] ++ b)

def remove (fs : FileSystem) (p : FsPath) : FileSystem :=
  { fs with files := Function.update fs.files p none }

/-- Make a directory, with those above it. -/
def mkdir (fs : FileSystem) (p : FsPath) : FileSystem :=
  { fs with isDir := fun q => fs.isDir q || q.isPrefixOf p }

/-- Remove a directory with all below it. -/
def removeAll (fs : FileSystem) (p : FsPath) : FileSystem where
  files q := if p.isPrefixOf q then none else fs.files q
  isDir q := if p.isPrefixOf q then false else fs.isDir q

/-- At most `n` bytes of a file from a position on; nothing of a file that is not there. -/
def readAt (fs : FileSystem) (p : FsPath) (pos n : ℕ) : Bytes :=
  (((fs.files p).getD []).drop pos).take n

/-- Take a file, or an empty directory, out of its directory. -/
def unlink (fs : FileSystem) (p : FsPath) : FileSystem where
  files := Function.update fs.files p none
  isDir := Function.update fs.isDir p false

variable (fs : FileSystem) {p q : FsPath} (b c : Bytes)

@[simp] theorem files_write_self : (fs.write p b).files p = some b := by simp [write]

@[simp] theorem files_write_of_ne (h : q ≠ p) : (fs.write p b).files q = fs.files q := by
  simp [write, h]

@[simp] theorem isDir_write : (fs.write p b).isDir = fs.isDir := rfl

@[simp] theorem write_write : (fs.write p b).write p c = fs.write p c := by simp [write]

@[simp] theorem append_write : (fs.write p b).append p c = fs.write p (b ++ c) := by
  simp [append]

@[simp] theorem files_remove_of_ne (h : q ≠ p) : (fs.remove p).files q = fs.files q := by
  simp [remove, h]

@[simp] theorem files_mkdir : (fs.mkdir p).files = fs.files := rfl

@[simp] theorem isDir_mkdir_self : (fs.mkdir p).isDir p = true := by simp [mkdir]

@[simp] theorem files_unlink_self : (fs.unlink p).files p = none := by simp [unlink]

@[simp] theorem files_unlink_of_ne (h : q ≠ p) : (fs.unlink p).files q = fs.files q := by
  simp [unlink, h]

theorem files_removeAll : (fs.removeAll p).files q = if p <+: q then none else fs.files q := by
  simp [removeAll]

theorem readAt_of_files {content : Bytes} (h : fs.files p = some content) (pos n : ℕ) :
    fs.readAt p pos n = (content.drop pos).take n := by
  rw [readAt, h, Option.getD_some]

end FileSystem

/-! ## Where names lead

Several names may lead to one file.  A place is given by the names from the root down to it, without
any `..`; there are no links. -/

namespace FsPath

/-- One component further on. -/
def next (p : FsPath) (c : String) : FsPath := if c = ".." then p.dropLast else p ++ [c]

/-- The place where a name is looked up first, in a working directory. -/
def start (cwd : FsPath) (s : String) : FsPath := if s.toList.head? = some '/' then [] else cwd

/-- Where components lead; all places on the way are directories. -/
def walk (isDir : FsPath → Bool) : FsPath → List String → Option FsPath
  | p, [] => some p
  | p, c :: cs => if isDir p then walk isDir (p.next c) cs else none

/-- The places that components lead to. -/
def trail : FsPath → List String → List FsPath
  | _, [] => []
  | p, c :: cs => p.next c :: trail (p.next c) cs

theorem walk_append (isDir : FsPath → Bool) : ∀ (cs ds : List String) (p : FsPath),
    walk isDir p (cs ++ ds) = (walk isDir p cs).bind fun q => walk isDir q ds
  | [], _, _ => rfl
  | c :: cs, ds, p => by
      rw [List.cons_append, walk, walk, walk_append isDir cs ds]
      split
      · rfl
      · rfl

theorem walk_mono {isDir isDir' : FsPath → Bool} (h : ∀ p, isDir p = true → isDir' p = true) :
    ∀ {cs : List String} {p q : FsPath}, walk isDir p cs = some q → walk isDir' p cs = some q
  | [], _, _, hq => hq
  | c :: cs, p, q, hq => by
      rw [walk, Option.ite_none_right_eq_some] at hq
      rw [walk, if_pos (h p hq.1)]
      exact walk_mono h hq.2

end FsPath

namespace FileSystem

open FsPath

variable (fs : FileSystem) (cwd : FsPath) {p : FsPath} {d s : String}

/-- Where a name leads. -/
def place (s : String) : Option FsPath :=
  if s = "" then none else walk fs.isDir (start cwd s) (components s)

/-- The place that a name opens for reading: that of a file, or of a directory, of which nothing can
be read. -/
def readPlace (s : String) : Option FsPath :=
  (fs.place cwd s).filter fun p => fs.isDir p || namesFile s && (fs.files p).isSome

/-- The place that a name opens for writing: that of no directory. -/
def writePlace (s : String) : Option FsPath :=
  (fs.place cwd s).filter fun p => namesFile s && !fs.isDir p

/-- Make all directories that a name goes through, unless there is a file in the way. -/
def makeDirs (s : String) : FileSystem :=
  { fs with isDir := fun q =>
      fs.isDir q || (fs.files q).isNone && (trail (start cwd s) (components s)).contains q }

theorem isDir_makeDirs_of_isDir (h : fs.isDir p = true) (s : String) :
    (fs.makeDirs cwd s).isDir p = true := by
  show (fs.isDir p || _) = true
  rw [h, Bool.true_or]

theorem isDir_makeDirs_of_file (h : (fs.files p).isSome = true) (s : String) :
    (fs.makeDirs cwd s).isDir p = fs.isDir p := by
  rw [makeDirs]
  simp [Option.isNone_eq_false_iff.mpr h]

theorem place_congr {fs fs' : FileSystem} (h : fs.isDir = fs'.isDir) (cwd : FsPath) (s : String) :
    fs.place cwd s = fs'.place cwd s := by rw [place, place, h]

theorem place_mono {fs fs' : FileSystem} (h : ∀ p, fs.isDir p = true → fs'.isDir p = true)
    {cwd : FsPath} (hs : fs.place cwd s = some p) : fs'.place cwd s = some p := by
  rw [place, Option.ite_none_left_eq_some] at hs ⊢
  exact ⟨hs.1, walk_mono h hs.2⟩

/-- **A name below a directory** leads to a place below its place. -/
theorem place_append_name (hd : fs.place cwd d = some p) (hdir : fs.isDir p = true) (hs : IsName s)
    (hup : s ≠ "..") : fs.place cwd (d ++ "/" ++ s) = some (p ++ [s]) := by
  rw [place, Option.ite_none_left_eq_some] at hd
  obtain ⟨hne, hwalk⟩ := hd
  obtain ⟨c, cs, hc⟩ := List.exists_cons_of_ne_nil (mt String.toList_eq_nil_iff.mp hne)
  have hlist : (d ++ "/" ++ s).toList = c :: (cs ++ '/' :: s.toList) := by
    rw [String.toList_append, String.toList_append, hc, List.append_assoc]
    rfl
  have hstart : start cwd (d ++ "/" ++ s) = start cwd d := by
    rw [start, start, hlist, hc]
    rfl
  have hne' : d ++ "/" ++ s ≠ "" := by
    intro h
    rw [h] at hlist
    cases hlist
  rw [place, if_neg hne', hstart, components_append_slash, walk_append, hwalk, Option.bind_some,
    components_of_isName hs, walk, if_pos hdir, walk, next, if_neg hup]

/-- Two names that lead to different places, whatever directories there are. -/
def Apart (s t : String) : Prop :=
  ∀ (fs : FileSystem) (p : FsPath), fs.place cwd s = some p → fs.place cwd t ≠ some p

theorem eq_append_of_walk {isDir : FsPath → Bool} : ∀ {cs : List String} {p q : FsPath},
    ".." ∉ cs → walk isDir p cs = some q → q = p ++ cs
  | [], p, q, _, h => (Option.some.inj h).symm.trans (List.append_nil p).symm
  | c :: cs, p, q, hup, h => by
      rw [List.mem_cons, not_or] at hup
      rw [walk, Option.ite_none_right_eq_some, next, if_neg (Ne.symm hup.1)] at h
      rw [eq_append_of_walk hup.2 h.2, List.append_assoc, List.singleton_append]

/-- **Plain names** with different components lead to different places. -/
theorem apart_of_components_ne {cwd : FsPath} {s t : String} (hs : s.toList.head? ≠ some '/')
    (ht : t.toList.head? ≠ some '/') (hups : ".." ∉ components s) (hupt : ".." ∉ components t)
    (hne : components s ≠ components t) : Apart cwd s t := by
  intro fs p hp hp'
  rw [place, start, if_neg hs, Option.ite_none_left_eq_some] at hp
  rw [place, start, if_neg ht, Option.ite_none_left_eq_some] at hp'
  have heq := (eq_append_of_walk hups hp.2).symm.trans (eq_append_of_walk hupt hp'.2)
  exact hne (List.append_cancel_left heq)

theorem walk_of_isDir {isDir : FsPath → Bool} (h : ∀ p, isDir p = true) : ∀ (cs : List String)
    (p : FsPath), ∃ q, walk isDir p cs = some q
  | [], p => ⟨p, rfl⟩
  | c :: cs, p => by
      rw [walk, if_pos (h p)]
      exact walk_of_isDir h cs (p.next c)

/-- **Names that lead to different places** have different components. -/
theorem Apart.ofString_ne {cwd : FsPath} {s t : String} (h : Apart cwd s t) (hs : s ≠ "")
    (ht : t ≠ "") : ofString s ≠ ofString t := by
  intro heq
  have hsame : start cwd s = start cwd t ∧ components s = components t := by
    rw [ofString, ofString] at heq
    rw [start, start]
    split at heq
    · rename_i hroot
      rw [if_pos hroot]
      split at heq
      · rename_i hroot'
        exact ⟨(if_pos hroot').symm, (List.cons.inj heq).2⟩
      · exact absurd (heq ▸ List.mem_cons_self) (slash_not_mem_components t)
    · rename_i hroot
      rw [if_neg hroot]
      split at heq
      · exact absurd (heq ▸ List.mem_cons_self) (slash_not_mem_components s)
      · rename_i hroot'
        exact ⟨(if_neg hroot').symm, heq⟩
  obtain ⟨q, hq⟩ : ∃ q, walk (fun _ => true) (start cwd s) (components s) = some q :=
    walk_of_isDir (fun _ => rfl) (components s) (start cwd s)
  refine h ⟨fun _ => none, fun _ => true⟩ q (by rw [place, if_neg hs]; exact hq) ?_
  rw [place, if_neg ht, ← hsame.1, ← hsame.2]
  exact hq

end FileSystem

/-! ## Operations one after another

What a program does to the disk is a list of operations.  A program that is broken off has done the
first of them, and of the next one, if it writes, some bytes.  One file only sees those that are on
it (`files_run`).
-/

inductive FileOp
  | mkdir (p : FsPath)
  /-- an open for writing, which makes the file or empties it -/
  | empty (p : FsPath)
  | append (p : FsPath) (b : Bytes)
  | remove (p : FsPath)

namespace FileOp

def exec (fs : FileSystem) : FileOp → FileSystem
  | mkdir p => fs.mkdir p
  | empty p => fs.write p []
  | append p b => fs.append p b
  | remove p => fs.remove p

def run (fs : FileSystem) (ops : List FileOp) : FileSystem := ops.foldl exec fs

/-- What an operation makes of a file. -/
def on (p : FsPath) (file : Option Bytes) : FileOp → Option Bytes
  | mkdir _ => file
  | empty q => if p = q then some [] else file
  | append q b => if p = q then some (file.getD [] ++ b) else file
  | remove q => if p = q then none else file

/-- The operation is on no other file. -/
def Within (ps : List FsPath) : FileOp → Prop
  | mkdir _ => True
  | empty q => q ∈ ps
  | append q _ => q ∈ ps
  | remove q => q ∈ ps

/-- What is done of an operation that is broken off after so many bytes. -/
def part (bytes : ℕ) : FileOp → List FileOp
  | append p b => [append p (b.take bytes)]
  | _ => []

/-- So many operations, and so many bytes of the next one. -/
def brokenOff (ops : List FileOp) (done bytes : ℕ) : List FileOp :=
  ops.take done ++ ops[done]?.elim [] (part bytes)

variable {fs : FileSystem} {p : FsPath} {ps : List FsPath} {op : FileOp} {ops : List FileOp}

theorem files_exec (fs : FileSystem) (p : FsPath) (op : FileOp) :
    (exec fs op).files p = on p (fs.files p) op := by
  cases op with
  | mkdir q => rfl
  | empty q => exact Function.update_apply ..
  | append q b =>
    rw [exec, on]
    refine (Function.update_apply ..).trans ?_
    split
    · rename_i h
      rw [h]
    · rfl
  | remove q => exact Function.update_apply ..

/-- **What becomes of a file** is what the operations on it make of it. -/
theorem files_run (p : FsPath) : ∀ (ops : List FileOp) (fs : FileSystem),
    (run fs ops).files p = ops.foldl (on p) (fs.files p)
  | [], _ => rfl
  | op :: ops, fs => by
      rw [List.foldl_cons, ← files_exec]
      exact files_run p ops (exec fs op)

theorem run_append (fs : FileSystem) (ops ops' : List FileOp) :
    run fs (ops ++ ops') = run (run fs ops) ops' := List.foldl_append

theorem Within.mono {ps' : List FsPath} (h : op.Within ps) (hps : ps ⊆ ps') : op.Within ps' := by
  cases op with
  | mkdir q => trivial
  | _ => exact hps h

theorem files_run_of_not_mem (hp : p ∉ ps) : ∀ {ops : List FileOp} {fs : FileSystem},
    (∀ op ∈ ops, op.Within ps) → (run fs ops).files p = fs.files p
  | [], _, _ => rfl
  | op :: ops, fs, h => by
      obtain ⟨hop, hops⟩ := List.forall_mem_cons.mp h
      refine (files_run_of_not_mem hp hops).trans ?_
      have hne : ∀ {q}, q ∈ ps → p ≠ q := fun hq heq => hp (heq ▸ hq)
      rw [files_exec]
      cases op with
      | mkdir q => rfl
      | _ => exact if_neg (hne hop)

theorem within_brokenOff (h : ∀ op ∈ ops, op.Within ps) (done bytes : ℕ) :
    ∀ op ∈ brokenOff ops done bytes, op.Within ps := by
  refine List.forall_mem_append.mpr ⟨fun op hop => h op (List.mem_of_mem_take hop), ?_⟩
  rcases hnext : ops[done]? with - | next
  · exact List.forall_mem_nil _
  · have hwithin := h next (List.mem_of_getElem? hnext)
    cases next with
    | append q b => exact List.forall_mem_singleton.mpr hwithin
    | _ => exact List.forall_mem_nil _

theorem brokenOff_of_length_le {done : ℕ} (h : ops.length ≤ done) (bytes : ℕ) :
    brokenOff ops done bytes = ops := by
  rw [brokenOff, List.take_of_length_le h, List.getElem?_eq_none h]
  exact List.append_nil ops

end FileOp

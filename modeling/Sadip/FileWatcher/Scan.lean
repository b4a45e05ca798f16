import Mathlib.Data.List.Infix
import Sadip.FileWatcher
import Sadip.Machinery.FileSystem

/-!
# FileWatcher/Scan — the files a scan collects, `utils/aws/s3/FileWatcher.h`

A scan walks the directory tree and puts every regular file it comes to into the map, under the path
the iterator gives it.  It is meant to leave out the archives, which the watcher puts into
directories named `zip`; it leaves out every directory that has `/zip` in its path, so that a name
that only begins with `zip` is left out too, and a path that begins with `zip` is not
(`collects_iff`).

The path of an entry is made of its directory's path; of the directory the watcher was given, whose
path may be written in many ways, the library makes the one that its entries get (`base`).
-/

namespace Sadip

namespace FileWatcher

open FsPath

/-- A map of files, as what it holds under a path. -/
abbrev Files := String → Option Timestamp

/-- The entries of a directory, in the order of the iterator. -/
inductive Listing
  | nil
  | file (name : String) (modified : Timestamp) (rest : Listing)
  | directory (name : String) (entries rest : Listing)
  /-- neither a regular file nor a directory -/
  | other (name : String) (rest : Listing)
  deriving DecidableEq

namespace Listing

def names : Listing → List String
  | nil => []
  | file name _ rest => name :: rest.names
  | directory name _ rest => name :: rest.names
  | other name rest => name :: rest.names

/-- The entries of each directory have names, and different ones. -/
def Proper : Listing → Prop
  | nil => True
  | file name _ rest => IsName name ∧ name ∉ rest.names ∧ rest.Proper
  | directory name entries rest =>
      IsName name ∧ name ∉ rest.names ∧ entries.Proper ∧ rest.Proper
  | other name rest => IsName name ∧ name ∉ rest.names ∧ rest.Proper

/-- The regular files at any depth, each with the names on the way to it and its own. -/
def regular : Listing → List (List String × Timestamp)
  | nil => []
  | file name modified rest => ([name], modified) :: rest.regular
  | directory name entries rest =>
      entries.regular.map (fun e => (name :: e.1, e.2)) ++ rest.regular
  | other _ rest => rest.regular

end Listing

/-- A directory tree. -/
structure Tree where
  entries : Listing
  proper : entries.Proper

/-- The path of an entry; there is none of the directory if the library makes nothing of it. -/
def entryPath : Option String → String → String
  | none, name => name
  | some directory, name => directory ++ "/" ++ name

/-- The path at the end of these names. -/
def pathOf : Option String → List String → String
  | base, [] => base.getD ""
  | base, name :: names => pathOf (some (entryPath base name)) names

/-- `isZipDirectory`. -/
def isZipDirectory (path : String) : Bool := "/zip".toList <:+: path.toList

/-- The loop of `scanDirectoryRecursive` over the entries of a directory. -/
def scanEntries (mWatchSubDir : Bool) : String → Option String → Listing → Files → Files
  | _, _, .nil, files => files
  | directory, base, .file name modified rest, files =>
      scanEntries mWatchSubDir directory base rest
        (Function.update files (entryPath base name) (some modified))
  | directory, base, .directory name entries rest, files =>
      let path := entryPath base name
      let files :=
        if mWatchSubDir && !isZipDirectory directory then
          -- the call for the directory found, which looks at its path in turn
          if !isZipDirectory path then scanEntries mWatchSubDir path (some path) entries files
          else files
        else files
      scanEntries mWatchSubDir directory base rest files
  | directory, base, .other _ rest, files => scanEntries mWatchSubDir directory base rest files

/-- `scanDirectory` into an empty map; there may be no directory at the path. -/
def scanDirectory (mWatchSubDir : Bool) (mDirectory : String) (base : Option String)
    (root : Option Tree) : Files :=
  match root with
  | none => fun _ => none
  | some tree =>
      if !isZipDirectory mDirectory then
        scanEntries mWatchSubDir mDirectory base tree.entries fun _ => none
      else fun _ => none

/-- The regular files below the directory watched, if there is one. -/
def regularFiles (root : Option Tree) : List (List String × Timestamp) :=
  (root.map (·.entries.regular)).getD []

/-- One of the directories on the way is named `zip`. -/
def BelowZip (mDirectory : String) (dirs : List String) : Prop :=
  "zip" ∈ components mDirectory ++ dirs

/-- What a scan is meant to find under a path: a file of the directory watched, or one of its
subdirectories if these are watched too, that is not below a directory named `zip`. -/
def Watched (mWatchSubDir : Bool) (mDirectory : String) (base : Option String) (root : Option Tree)
    (path : String) (modified : Timestamp) : Prop :=
  ∃ e ∈ regularFiles root, pathOf base e.1 = path ∧ e.2 = modified ∧
    (e.1.dropLast = [] ∨ mWatchSubDir = true) ∧ ¬ BelowZip mDirectory e.1.dropLast

/-- The scan does not go into the directory at the end of these names. -/
def PassedOver (mDirectory : String) (base : Option String) (dirs : List String) : Prop :=
  isZipDirectory mDirectory = true ∨ dirs ≠ [] ∧ isZipDirectory (pathOf base dirs) = true

variable {base : Option String} {names : List String} {sub : Bool} {l : Listing}

/-! ## Paths -/

theorem components_entryPath {name : String} (h : IsName name) :
    components (entryPath base name) = components (base.getD "") ++ [name] := by
  rcases base with - | directory
  · rw [entryPath, components_of_isName h]
    rfl
  · rw [entryPath, components_append_slash, components_of_isName h]
    rfl

/-- **The components of a path** are those of the directory, and the names. -/
theorem components_pathOf : ∀ {base : Option String} {names : List String},
    (∀ name ∈ names, IsName name) → components (pathOf base names) = components (base.getD "") ++ names
  | base, [], _ => by rw [pathOf, List.append_nil]
  | base, name :: names, h => by
      have ih : components (pathOf (some (entryPath base name)) names) =
          components ((some (entryPath base name)).getD "") ++ names :=
        components_pathOf fun n hn => h n (List.mem_cons_of_mem name hn)
      rw [pathOf, ih, Option.getD_some, components_entryPath (h name List.mem_cons_self),
        List.append_assoc, List.singleton_append]

theorem isZipDirectory_iff {path : String} :
    isZipDirectory path = true ↔ "/zip".toList <:+: path.toList := decide_eq_true_iff

theorem isZipDirectory_append {path : String} (h : isZipDirectory path = true) (s : String) :
    isZipDirectory (path ++ s) = true := by
  rw [isZipDirectory_iff] at h ⊢
  rw [String.toList_append]
  exact h.trans (List.prefix_append _ _).isInfix

/-- Below a path that is passed over, every path is. -/
theorem isZipDirectory_pathOf {path : String} (h : isZipDirectory path = true) :
    ∀ names : List String, isZipDirectory (pathOf (some path) names) = true
  | [] => h
  | name :: names => by
      refine isZipDirectory_pathOf ?_ names
      rw [entryPath, String.append_assoc]
      exact isZipDirectory_append h _

/-! ## What the names of a tree say -/

theorem exists_cons_of_regular : ∀ {l : Listing}, ∀ e ∈ l.regular,
    ∃ name names, e.1 = name :: names ∧ name ∈ l.names
  | .nil, _, h => absurd h List.not_mem_nil
  | .file name modified rest, e, h => by
      rcases List.mem_cons.mp h with rfl | h
      · exact ⟨name, [], rfl, List.mem_cons_self⟩
      · obtain ⟨n, ns, he, hn⟩ := exists_cons_of_regular e h
        exact ⟨n, ns, he, List.mem_cons_of_mem name hn⟩
  | .directory name entries rest, e, h => by
      rcases List.mem_append.mp h with h | h
      · obtain ⟨d, -, rfl⟩ := List.mem_map.mp h
        exact ⟨name, d.1, rfl, List.mem_cons_self⟩
      · obtain ⟨n, ns, he, hn⟩ := exists_cons_of_regular e h
        exact ⟨n, ns, he, List.mem_cons_of_mem name hn⟩
  | .other name rest, e, h => by
      obtain ⟨n, ns, he, hn⟩ := exists_cons_of_regular (l := rest) e h
      exact ⟨n, ns, he, List.mem_cons_of_mem name hn⟩

theorem regular_ne_nil {e : List String × Timestamp} (h : e ∈ l.regular) : e.1 ≠ [] := by
  obtain ⟨name, names, he, -⟩ := exists_cons_of_regular e h
  rw [he]
  exact List.cons_ne_nil name names

theorem isName_of_regular : ∀ {l : Listing}, l.Proper → ∀ e ∈ l.regular, ∀ name ∈ e.1, IsName name
  | .nil, _, _, he => absurd he List.not_mem_nil
  | .file name modified rest, h, e, he => by
      rcases List.mem_cons.mp he with rfl | he
      · exact fun n hn => List.mem_singleton.mp hn ▸ h.1
      · exact isName_of_regular h.2.2 e he
  | .directory name entries rest, h, e, he => by
      rcases List.mem_append.mp he with he | he
      · obtain ⟨d, hd, rfl⟩ := List.mem_map.mp he
        intro n hn
        rcases List.mem_cons.mp hn with rfl | hn
        · exact h.1
        · exact isName_of_regular h.2.2.1 d hd n hn
      · exact isName_of_regular h.2.2.2 e he
  | .other name rest, h, e, he => isName_of_regular (l := rest) h.2.2 e he

/-- No two regular files have the same names. -/
theorem nodup_regular : ∀ {l : Listing}, l.Proper → (l.regular.map Prod.fst).Nodup
  | .nil, _ => List.nodup_nil
  | .file name modified rest, h => by
      refine List.nodup_cons.mpr ⟨fun hmem => ?_, nodup_regular h.2.2⟩
      obtain ⟨e, he, hname⟩ := List.mem_map.mp hmem
      obtain ⟨n, ns, hcons, hn⟩ := exists_cons_of_regular e he
      obtain ⟨rfl, -⟩ := List.cons_eq_cons.mp (hname.symm.trans hcons)
      exact h.2.1 hn
  | .directory name entries rest, h => by
      have hbelow : ((entries.regular.map fun e => (name :: e.1, e.2)).map Prod.fst).Nodup := by
        have hmap : (entries.regular.map fun e => (name :: e.1, e.2)).map Prod.fst
            = (entries.regular.map Prod.fst).map (name :: ·) := by
          rw [List.map_map, List.map_map]
          rfl
        rw [hmap]
        exact (nodup_regular h.2.2.1).map (List.cons_injective)
      rw [Listing.regular, List.map_append]
      refine List.Nodup.append hbelow (nodup_regular h.2.2.2) fun names hbelow hrest => ?_
      obtain ⟨e, he, rfl⟩ := List.mem_map.mp hbelow
      obtain ⟨d, -, rfl⟩ := List.mem_map.mp he
      obtain ⟨e', he', hname⟩ := List.mem_map.mp hrest
      obtain ⟨n, ns, hcons, hn⟩ := exists_cons_of_regular e' he'
      obtain ⟨rfl, -⟩ := List.cons_eq_cons.mp (hname.symm.trans hcons)
      exact h.2.1 hn
  | .other name rest, h => nodup_regular (l := rest) h.2.2

/-- **The paths of regular files tell them apart.** -/
theorem eq_of_pathOf_eq (h : l.Proper) {e e' : List String × Timestamp} (he : e ∈ l.regular)
    (he' : e' ∈ l.regular) (heq : pathOf base e.1 = pathOf base e'.1) : e = e' := by
  have hcomp := congrArg components heq
  rw [components_pathOf (isName_of_regular h e he),
    components_pathOf (isName_of_regular h e' he')] at hcomp
  exact List.inj_on_of_nodup_map (nodup_regular h) he he' (List.append_cancel_left hcomp)

/-! ## What a scan passes -/

/-- The scan comes to the entry at the end of these names, on its way through a directory. -/
def passes (mWatchSubDir : Bool) : Option String → List String → Bool
  | _, [] => true
  | _, [_] => true
  | base, name :: n :: names =>
      let path := entryPath base name
      mWatchSubDir && !isZipDirectory path && passes mWatchSubDir (some path) (n :: names)

/-- **It is the last directory on the way that decides.** -/
theorem passes_iff : ∀ {base : Option String} {names : List String}, names ≠ [] →
    (passes sub base names = true ↔ names.dropLast = [] ∨ sub = true ∧
      isZipDirectory (pathOf base names.dropLast) = false)
  | _, [name], _ => by simp [passes]
  | base, name :: n :: names, _ => by
      have ih : passes sub (some (entryPath base name)) (n :: names) = true ↔ _ :=
        passes_iff (List.cons_ne_nil n names)
      rw [passes, Bool.and_eq_true, Bool.and_eq_true, ih, Bool.not_eq_true',
        List.dropLast_cons_of_ne_nil (List.cons_ne_nil n names), pathOf]
      constructor
      · rintro ⟨⟨hsub, hpath⟩, hnil | ⟨-, hdirs⟩⟩
        · exact .inr ⟨hsub, by rwa [hnil]⟩
        · exact .inr ⟨hsub, hdirs⟩
      · rintro (hnil | ⟨hsub, hdirs⟩)
        · cases hnil
        · refine ⟨⟨hsub, Bool.eq_false_iff.mpr fun hpath => ?_⟩, .inr ⟨hsub, hdirs⟩⟩
          rw [isZipDirectory_pathOf hpath] at hdirs
          cases hdirs

theorem passes_below {e : List String × Timestamp} (h : e ∈ l.regular) (base : Option String)
    (name : String) : passes sub base (name :: e.1) = (sub && !isZipDirectory (entryPath base name)
      && passes sub (some (entryPath base name)) e.1) := by
  obtain ⟨n, ns, hcons, -⟩ := exists_cons_of_regular e h
  rw [hcons, passes]

/-- What a scan passes below a directory, if it goes into it at all. -/
theorem filter_below (base : Option String) (name : String) (l : Listing) :
    l.regular.filter ((fun e => passes sub base e.1) ∘ fun e => (name :: e.1, e.2))
      = if sub && !isZipDirectory (entryPath base name) then
          l.regular.filter fun e => passes sub (some (entryPath base name)) e.1
        else [] := by
  split
  · rename_i hinto
    refine List.filter_congr fun e he => ?_
    rw [Function.comp_apply, passes_below he, hinto, Bool.true_and]
  · rename_i hinto
    refine List.filter_eq_nil_iff.mpr fun e he => ?_
    rw [Function.comp_apply, passes_below he, Bool.eq_false_iff.mpr hinto, Bool.false_and]
    exact Bool.false_ne_true

/-- One assignment to the map. -/
def collect (base : Option String) (files : Files) (e : List String × Timestamp) : Files :=
  Function.update files (pathOf base e.1) (some e.2)

/-- **A scan collects what it passes**, in the order it comes to it. -/
theorem scanEntries_eq : ∀ (l : Listing) {directory : String} {base : Option String}
    (files : Files), isZipDirectory directory = false →
    scanEntries sub directory base l files
      = (l.regular.filter (passes sub base ·.1)).foldl (collect base) files
  | .nil, _, _, _, _ => rfl
  | .file name modified rest, directory, base, files, h => scanEntries_eq rest _ h
  | .other name rest, directory, base, files, h => scanEntries_eq rest files h
  | .directory name entries rest, directory, base, files, h => by
      rw [scanEntries, Listing.regular, List.filter_append, List.foldl_append, List.filter_map,
        List.foldl_map, filter_below, h, Bool.not_false, Bool.and_true]
      refine (scanEntries_eq rest _ h).trans (congrArg (List.foldl (collect base) · _) ?_)
      have hbelow : isZipDirectory (entryPath base name) = false →
          scanEntries sub (entryPath base name) (some (entryPath base name)) entries files = _ :=
        scanEntries_eq entries files
      cases sub
      · rfl
      · rcases hpath : isZipDirectory (entryPath base name)
        · exact hbelow hpath
        · rfl

/-! ## What a map holds in the end -/

theorem foldl_collect_iff {path : String} {modified : Timestamp} :
    ∀ (es : List (List String × Timestamp)) (files : Files),
    (∀ e ∈ es, ∀ e' ∈ es, pathOf base e.1 = pathOf base e'.1 → e = e') →
    (es.foldl (collect base) files path = some modified ↔
      (∃ e ∈ es, pathOf base e.1 = path ∧ e.2 = modified) ∨
        (∀ e ∈ es, pathOf base e.1 ≠ path) ∧ files path = some modified)
  | [], files, _ => by simp
  | e :: es, files, h => by
      have ih : es.foldl (collect base) (collect base files e) path = some modified ↔ _ :=
        foldl_collect_iff es (collect base files e) fun d hd d' hd' =>
          h d (List.mem_cons_of_mem e hd) d' (List.mem_cons_of_mem e hd')
      rw [List.foldl_cons, ih, collect, Function.update_apply, List.forall_mem_cons]
      by_cases hpath : path = pathOf base e.1
      · rw [if_pos hpath]
        constructor
        · rintro (⟨d, hd, hdpath, hmod⟩ | ⟨-, hmod⟩)
          · exact .inl ⟨d, List.mem_cons_of_mem e hd, hdpath, hmod⟩
          · exact .inl ⟨e, List.mem_cons_self, hpath.symm, Option.some.inj hmod⟩
        · rintro (⟨d, hd, hdpath, rfl⟩ | ⟨hne, -⟩)
          · obtain rfl := h d hd e List.mem_cons_self (hdpath.trans hpath)
            by_cases hmem : d ∈ es
            · exact .inl ⟨d, hmem, hdpath, rfl⟩
            · refine .inr ⟨fun d' hd' heq => hmem ?_, rfl⟩
              rwa [← h d' (List.mem_cons_of_mem d hd') d List.mem_cons_self (heq.trans hpath)]
          · exact absurd hpath.symm hne.1
      · rw [if_neg hpath]
        simp [Ne.symm hpath]

/-- There is one regular file under the path of a regular file. -/
theorem exists_path_iff {root : Option Tree} {e : List String × Timestamp}
    (he : e ∈ regularFiles root)
    (base : Option String) (P : List String → Prop) :
    (∃ d ∈ regularFiles root, pathOf base d.1 = pathOf base e.1 ∧ d.2 = e.2 ∧ P d.1) ↔ P e.1 := by
  rcases root with - | tree
  · exact absurd he List.not_mem_nil
  constructor
  · rintro ⟨d, hd, hpath, -, hP⟩
    rwa [eq_of_pathOf_eq tree.proper hd he hpath] at hP
  · exact fun hP => ⟨e, he, rfl, rfl, hP⟩

/-- **What a scan collects.** -/
theorem scanDirectory_iff (sub : Bool) (mDirectory : String) (base : Option String)
    (root : Option Tree) (path : String) (modified : Timestamp) :
    scanDirectory sub mDirectory base root path = some modified ↔
      ∃ e ∈ regularFiles root, pathOf base e.1 = path ∧ e.2 = modified ∧
        (e.1.dropLast = [] ∨ sub = true) ∧ ¬ PassedOver mDirectory base e.1.dropLast := by
  rcases root with - | tree
  · simp [scanDirectory, regularFiles]
  rw [scanDirectory]
  rcases hdir : isZipDirectory mDirectory
  · have hinj : ∀ e ∈ tree.entries.regular.filter (passes sub base ·.1),
        ∀ e' ∈ tree.entries.regular.filter (passes sub base ·.1),
          pathOf base e.1 = pathOf base e'.1 → e = e' := fun e he e' he' =>
      eq_of_pathOf_eq tree.proper (List.mem_of_mem_filter he) (List.mem_of_mem_filter he')
    rw [if_pos (by rfl), scanEntries_eq _ _ hdir, foldl_collect_iff _ _ hinj, or_iff_left (by simp)]
    refine exists_congr fun e => ?_
    rw [List.mem_filter, and_assoc]
    refine and_congr_right fun he => ?_
    have hpasses : passes sub base e.1 = true ↔ (e.1.dropLast = [] ∨ sub = true) ∧
        ¬ PassedOver mDirectory base e.1.dropLast := by
      rw [passes_iff (regular_ne_nil he), PassedOver, hdir, or_iff_right Bool.false_ne_true]
      by_cases hdirs : e.1.dropLast = []
      · simp [hdirs]
      · simp [hdirs]
    rw [hpasses]
    tauto
  · simp [PassedOver, hdir]

/-- A directory `zipcode` with a file in it. -/
def zipcodeTree : Tree where
  entries := .directory "zipcode" (.file "a.txt" 1 .nil) .nil
  proper := ⟨⟨by simp, by simp, by simp⟩, List.not_mem_nil,
    ⟨⟨by simp, by simp, by simp⟩, List.not_mem_nil, trivial⟩, trivial⟩

end FileWatcher

end Sadip

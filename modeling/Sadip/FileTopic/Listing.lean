import Mathlib.Algebra.Ring.Int.Defs
import Mathlib.Algebra.Ring.Nat
import Mathlib.Data.Int.DivMod
import Mathlib.Data.List.Basic

/-!
# FileTopic/Listing — what `getFileInfos` lists of a directory, `node/src/FileTopic.cpp`

An entry is added to the list before it is looked at in earnest, and stays there, filled in as far
as it got, whatever fails behind that.  The time of the last write goes through the difference of
two readings of the clock before it is cut to seconds, so it may come out in another second.
`getFileInfos_exact_iff` says for which entries, failures and readings the list is what it should
be.
-/

namespace Sadip

namespace FileTopic

/-- What an entry of a directory is. -/
inductive EntryKind where
  | directory
  | regular (size : ℕ)
  /-- anything else: a socket, a device, a link that leads nowhere; `GetFileLength` may give a
  length for it -/
  | other (length : Int)
  deriving DecidableEq

/-- An entry, the calls about it that fail, and the time at which it is met. -/
structure DirEntry where
  path : String
  kind : EntryKind
  /-- `fs::last_write_time`, in nanoseconds since 1970 like both clocks -/
  lastWrite : Int64
  /-- the readings of the clock in `GetLastUpdatetime`, of `file_time_type::clock` and of
  `system_clock` -/
  fileClock : Int64
  systemClock : Int64
  /-- the milliseconds since 1970 when the entry is added -/
  now : Int
  statusFails : Bool
  fileSizeFails : Bool
  /-- the second `status` -/
  statusAgainFails : Bool
  /-- the open in `GetFileLength` -/
  openFails : Bool
  lastUpdateFails : Bool
  deriving DecidableEq

/-- `cn::seisys::dds::File`. -/
structure File where
  filePathName : String
  isDir : Bool
  fileSize : Int
  timestamp : Int
  deriving DecidableEq

namespace DirEntry

variable (e : DirEntry)

/-- `GetFileLength`. -/
def fileLength : Int :=
  match e.kind with
  | .directory => -1
  | .regular size => if e.openFails then -1 else size
  | .other length => if e.openFails then -1 else length

/-- `GetLastUpdatetime`, if it does not throw: `to_time_t` rounds towards zero. -/
def getLastUpdatetime : Int64 := (e.lastWrite - e.fileClock + e.systemClock) / 1000000000

/-- The `set_timestamp` at the end; what throws there leaves the file as it is. -/
def stamp (fi : File) : File :=
  if e.lastUpdateFails then fi else { fi with timestamp := e.getLastUpdatetime.toInt }

/-- The file that `add_files` has added, as the rest of the round leaves it. -/
def fillIn : File :=
  let added : File := ⟨e.path, false, 0, 0⟩
  if e.statusAgainFails then added
  else
    let fi : File :=
      { added with isDir := e.kind = .directory, fileSize := -1, timestamp := e.now }
    if fi.isDir then e.stamp fi
    else if e.fileLength ≤ 0 then fi
    else e.stamp { fi with fileSize := e.fileLength }

/-- One round of the loop: the file it adds, if it gets there. -/
def round : Option File :=
  if e.statusFails then none
  else
    match e.kind with
    | .regular size => if e.fileSizeFails || size = 0 then none else some e.fillIn
    | _ => some e.fillIn

/-- The second of the last write. -/
def lastUpdate : Int := e.lastWrite.toInt / 1000000000

/-- What the list is to say of an entry that can be read: a directory, or a file whose size is known
and positive. -/
def listed : Option File :=
  if e.statusFails then none
  else
    match e.kind with
    | .directory => some ⟨e.path, true, -1, e.lastUpdate⟩
    | .regular size =>
        if e.fileSizeFails || e.openFails || size = 0 then none
        else some ⟨e.path, false, size, e.lastUpdate⟩
    | .other _ => none

/-- What passes between the readings of the clock. -/
def drift : Int := (e.systemClock - e.fileClock).toInt

/-- The nanoseconds of the last write within its second, when this is added. -/
def fraction : Int := e.lastWrite.toInt % 1000000000 + e.drift

/-- The last write and what passes between the readings is in the second of the last write; before
1970, where times are cut upwards, it is in the second that ends there. -/
def SameSecond : Prop :=
  (-2 ^ 63 ≤ e.lastWrite.toInt + e.drift ∧ e.lastWrite.toInt + e.drift < 2 ^ 63) ∧
    if 0 ≤ e.lastWrite.toInt + e.drift then 0 ≤ e.fraction ∧ e.fraction < 1000000000
    else -1000000000 < e.fraction ∧ e.fraction ≤ 0

/-- The last update is known and stays in its second, or the time at hand happens to be it. -/
def Timed : Prop := if e.lastUpdateFails then e.now = e.lastUpdate else e.SameSecond

/-- Nothing goes wrong with the entry once it has been added. -/
def Exact : Prop :=
  e.statusFails = true ∨
    match e.kind with
    | .directory => e.statusAgainFails = false ∧ e.Timed
    | .regular size => e.fileSizeFails = true ∨ size = 0 ∨
        e.statusAgainFails = false ∧ e.openFails = false ∧ e.Timed
    | .other _ => False

end DirEntry

/-- `getFileInfos`, of a directory with these entries. -/
def getFileInfos (entries : List DirEntry) : List File := entries.filterMap DirEntry.round

/-- The list as it should be. -/
def exactListing (entries : List DirEntry) : List File := entries.filterMap DirEntry.listed

/-! ## One entry -/

variable {e : DirEntry}

/-- A time cut to seconds, and the second of another one. -/
theorem tdiv_eq_ediv_iff (t s : Int) : t.tdiv 1000000000 = s / 1000000000 ↔
    if 0 ≤ t then 0 ≤ s % 1000000000 + (t - s) ∧ s % 1000000000 + (t - s) < 1000000000
    else -1000000000 < s % 1000000000 + (t - s) ∧ s % 1000000000 + (t - s) ≤ 0 := by
  have hsign : Int.sign 1000000000 = 1 := rfl
  rw [Int.tdiv_eq_ediv, hsign]
  split_ifs <;> omega

theorem toInt_getLastUpdatetime (e : DirEntry) : e.getLastUpdatetime.toInt =
    ((e.lastWrite.toInt + e.drift).bmod (2 ^ 64)).tdiv 1000000000 := by
  have hsum : e.lastWrite - e.fileClock + e.systemClock =
      e.lastWrite + (e.systemClock - e.fileClock) := by
    rw [Int64.sub_eq_add_neg, Int64.sub_eq_add_neg, Int64.add_assoc, Int64.add_comm (-e.fileClock)]
  rw [DirEntry.getLastUpdatetime, hsum, Int64.toInt_div_of_ne_right _ _ (by decide),
    Int64.toInt_add]
  rfl

/-- **`GetLastUpdatetime` gives the second of the last write** if the readings do not lead out of
it. -/
theorem getLastUpdatetime_eq_iff (e : DirEntry) :
    e.getLastUpdatetime.toInt = e.lastUpdate ↔ e.SameSecond := by
  have hlo := e.lastWrite.le_toInt
  have hhi := e.lastWrite.toInt_lt
  have hdlo : -2 ^ 63 ≤ e.drift := (e.systemClock - e.fileClock).le_toInt
  have hdhi : e.drift < 2 ^ 63 := (e.systemClock - e.fileClock).toInt_lt
  rw [toInt_getLastUpdatetime, DirEntry.lastUpdate, DirEntry.SameSecond, DirEntry.fraction]
  generalize e.lastWrite.toInt = s at *
  generalize e.drift = d at *
  by_cases hfits : -2 ^ 63 ≤ s + d ∧ s + d < 2 ^ 63
  · have hmod : (s + d).bmod (2 ^ 64) = s + d := Int.bmod_eq_of_le hfits.1 hfits.2
    have hdiff : s + d - s = d := by omega
    rw [hmod, tdiv_eq_ediv_iff, and_iff_right hfits, hdiff]
  · -- the time that is cut is far from the last write
    refine iff_of_false (fun h => ?_) fun h => hfits h.1
    rw [tdiv_eq_ediv_iff, Int.bmod_def] at h
    split_ifs at h <;> omega

theorem stamp_eq_iff {path : String} {isDir : Bool} {size : Int} :
    e.stamp ⟨path, isDir, size, e.now⟩ = ⟨path, isDir, size, e.lastUpdate⟩ ↔ e.Timed := by
  rw [DirEntry.stamp, DirEntry.Timed, ← getLastUpdatetime_eq_iff]
  rcases e.lastUpdateFails <;> simp

/-- What should be listed is listed, if not as it should be. -/
theorem isSome_round : e.listed.isSome → e.round.isSome := by
  rw [DirEntry.listed, DirEntry.round]
  rcases e.statusFails
  · rcases e.kind with - | size | length
    · exact fun _ => rfl
    · rcases e.fileSizeFails
      · by_cases hsize : size = 0 <;> simp [hsize]
      · simp
    · simp
  · simp

theorem fillIn_directory (hkind : e.kind = .directory) :
    e.fillIn = ⟨e.path, true, -1, e.lastUpdate⟩ ↔ e.statusAgainFails = false ∧ e.Timed := by
  rw [DirEntry.fillIn, hkind]
  rcases e.statusAgainFails
  · rw [and_iff_right rfl]
    exact stamp_eq_iff
  · simp

theorem fillIn_regular {size : ℕ} (hkind : e.kind = .regular size) (hsize : size ≠ 0)
    (hopen : e.openFails = false) :
    e.fillIn = ⟨e.path, false, size, e.lastUpdate⟩ ↔ e.statusAgainFails = false ∧ e.Timed := by
  have hlength : e.fileLength = size := by
    rw [DirEntry.fileLength, hkind, hopen]
    rfl
  rw [DirEntry.fillIn, hlength, hkind]
  rcases e.statusAgainFails
  · rw [and_iff_right rfl, if_neg Bool.false_ne_true]
    simp only [reduceCtorEq, decide_false, Bool.false_eq_true, if_false]
    rw [if_neg (by omega)]
    exact stamp_eq_iff
  · refine iff_of_false (fun h => hsize ?_) (by simp)
    have hzero : (0 : Int) = size := congrArg File.fileSize h
    omega

/-- **One entry** is listed as it should be. -/
theorem round_eq_listed_iff : e.round = e.listed ↔ e.Exact := by
  rw [DirEntry.round, DirEntry.listed, DirEntry.Exact]
  rcases e.statusFails
  · rw [or_iff_right Bool.false_ne_true]
    rcases hkind : e.kind with - | size | length
    · exact Option.some_inj.trans (fillIn_directory hkind)
    · dsimp only
      rcases hsize : e.fileSizeFails
      · by_cases hzero : size = 0
        · simp [hzero]
        · rcases hopen : e.openFails
          · simpa [hzero] using fillIn_regular hkind hzero hopen
          · simp [hzero]
      · simp
    · simp
  · simp

/-! ## The list -/

theorem length_filterMap_le {α β : Type*} {f g : α → Option β} :
    ∀ {l : List α}, (∀ a ∈ l, (g a).isSome → (f a).isSome) →
      (l.filterMap g).length ≤ (l.filterMap f).length
  | [], _ => Nat.le_refl 0
  | a :: l, h => by
      have ih := length_filterMap_le fun b hb => h b (List.mem_cons_of_mem a hb)
      rcases hf : f a with - | b <;> rcases hg : g a with - | c
      · simpa [hf, hg] using ih
      · exact absurd (h a List.mem_cons_self (by rw [hg]; rfl)) (by simp [hf])
      · simpa [hf, hg] using Nat.le_succ_of_le ih
      · simpa [hf, hg] using ih

/-- Two lists of results are the same only when all the results are, if one of them has all that the
other has. -/
theorem filterMap_eq_iff {α β : Type*} {f g : α → Option β} :
    ∀ {l : List α}, (∀ a ∈ l, (g a).isSome → (f a).isSome) →
      (l.filterMap f = l.filterMap g ↔ ∀ a ∈ l, f a = g a)
  | [], _ => by simp
  | a :: l, h => by
      have hl : ∀ b ∈ l, (g b).isSome → (f b).isSome := fun b hb => h b (List.mem_cons_of_mem a hb)
      have ih := filterMap_eq_iff hl
      rw [List.forall_mem_cons, ← ih]
      rcases hf : f a with - | b <;> rcases hg : g a with - | c
      · simp [hf, hg]
      · exact absurd (h a List.mem_cons_self (by rw [hg]; rfl)) (by simp [hf])
      · -- the one list is longer than the other
        have hlen := length_filterMap_le hl
        simp only [List.filterMap_cons, hf, hg, reduceCtorEq, false_and, iff_false]
        intro he
        have := congrArg List.length he
        simp only [List.length_cons] at this
        omega
      · simp [hf, hg]

/-- **When the listing is exact**: every entry that can be read is a directory or a regular file,
nothing fails once it has been added, and its time stays in its second. -/
theorem getFileInfos_exact_iff (entries : List DirEntry) :
    getFileInfos entries = exactListing entries ↔ ∀ e ∈ entries, e.Exact :=
  (filterMap_eq_iff fun _ _ => isSome_round).trans (forall₂_congr fun _ _ => round_eq_listed_iff)

/-- A file of five bytes, written at the end of a second. -/
def lateFile : DirEntry where
  path := "d/f"
  kind := .regular 5
  lastWrite := 7999999999
  fileClock := 9000000000
  systemClock := 9000000000
  now := 9000
  statusFails := false
  fileSizeFails := false
  statusAgainFails := false
  openFails := false
  lastUpdateFails := false

/-- **A file that does not open**, and a socket, are in the list; a nanosecond between the readings
puts the file into the next second. -/
theorem not_getFileInfos_exact :
    getFileInfos [{ lateFile with openFails := true }] ≠
        exactListing [{ lateFile with openFails := true }] ∧
      getFileInfos [{ lateFile with path := "d/s", kind := .other (-1) }] ≠
        exactListing [{ lateFile with path := "d/s", kind := .other (-1) }] ∧
      getFileInfos [{ lateFile with systemClock := 9000000001 }] ≠
        exactListing [{ lateFile with systemClock := 9000000001 }] := by
  decide

end FileTopic

end Sadip

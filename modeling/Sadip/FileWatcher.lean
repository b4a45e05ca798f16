import Mathlib.Data.List.Basic
import Mathlib.Data.List.Nodup
import Sadip.Machinery.Streak

/-!
# FileWatcher — the S3 directory watcher of `utils/aws/s3/FileWatcher.h`

A watcher compares three successive scans of its directory and uploads a file version that is new
or changed in the second scan and unchanged in the third.  A history of scans is a function
`snap : ℕ → FileMap`: scans `0` and `1` are the constructor's, scan `k ≥ 2` is the one the
`(k - 2)`-th call of `scanContinuously` makes.

`mem_uploadsAt` reads the whole run off the history: a version is uploaded exactly where it
*rises* (`Machinery/Streak`), and in archive mode only while its path is still a file
(`exactly_once_upload`).  The upload's outcome never enters the window, and `zipFile` removes the
source before the upload starts; `no_loss_iff` says what follows from the two.
-/

namespace Sadip

/-! ## Directory scans -/

/-- `Poco::Timestamp`. -/
abbrev Timestamp := Int

/-- A file version: a path with its last write time. -/
abbrev Version := String × Timestamp

/-- `std::map<std::string, Poco::Timestamp>`: entries in key order, each key once. -/
structure FileMap where
  entries : List Version
  sorted : (entries.map Prod.fst).Pairwise (· < ·)

namespace FileMap

/-- What the map holds under a path. -/
def get? (m : FileMap) (path : String) : Option Timestamp :=
  (m.entries.find? (·.1 == path)).map Prod.snd

def count (m : FileMap) (path : String) : Bool := (m.get? path).isSome

/-- `operator[]`, which reads a default for a key that is not there. -/
def at' (m : FileMap) (path : String) : Timestamp := (m.get? path).getD 0

def empty : FileMap := ⟨[], List.Pairwise.nil⟩

def single (v : Version) : FileMap := ⟨[v], List.pairwise_singleton _ _⟩

theorem nodup_keys (m : FileMap) : (m.entries.map Prod.fst).Nodup :=
  m.sorted.imp fun h e => absurd (e ▸ h) (String.lt_irrefl _)

theorem nodup_entries (m : FileMap) : m.entries.Nodup := m.nodup_keys.of_map

/-- **An entry is what its key looks up.** -/
theorem mem_entries_iff (m : FileMap) (v : Version) : v ∈ m.entries ↔ m.get? v.1 = some v.2 := by
  have key : ∀ l : List Version, (l.map Prod.fst).Nodup →
      (v ∈ l ↔ (l.find? (·.1 == v.1)).map Prod.snd = some v.2) := by
    intro l
    induction l with
    | nil => intro _; simp
    | cons w l ih =>
      intro hnd
      obtain ⟨hw, hl⟩ := List.nodup_cons.mp hnd
      rw [List.mem_cons]
      by_cases h : w.1 = v.1
      · have hv : v ∉ l := fun hv => hw (h ▸ List.mem_map_of_mem hv)
        simp [h, hv, Prod.ext_iff, eq_comm]
      · have hne : v ≠ w := fun e => h (congrArg Prod.fst e.symm)
        rw [List.find?_cons_of_neg (by simpa using h)]
        simp [hne, ih hl]
  exact key m.entries m.nodup_keys

end FileMap

/-! ## Uploads -/

/-- What the upload step finds at the path it is asked to archive. -/
inductive PathKind where
  | absent
  | directory
  | file
  deriving DecidableEq

/-- What one upload meets: the path's kind when it is archived, and what `uploadfile` answers. -/
structure UploadEnv where
  kind : PathKind
  uploadfileOk : Bool

/-- The upload step answers with a success: `uploadfile` does, and the archive was made. -/
def UploadEnv.succeeds (needZip : Bool) (e : UploadEnv) : Bool :=
  e.uploadfileOk && !(needZip && e.kind == .directory)

/-- The upload makes no archive, or finds a file to put into it. -/
def UploadEnv.Archives (needZip : Bool) (e : UploadEnv) : Prop := needZip = true → e.kind = .file

/-- What `uploadToS3` does to the outside, in order. -/
inductive S3Event where
  /-- an archive of `src` was written, and `src` was added to it or was not there any more -/
  | zipped (src archive : String) (added : Bool)
  /-- the local file was removed -/
  | removed (src : String)
  /-- `uploadfile` was called on a local file and gave this answer -/
  | uploaded (file : String) (ok : Bool)
  deriving DecidableEq

/-- `utility::string::cutLastLeftStr` at a single character. -/
def cutLastLeftStr (s : String) (cut : Char) : String :=
  match s.toList.reverse.dropWhile (· ≠ cut) with
  | [] => s
  | _ :: left => String.ofList left.reverse

/-- `Poco::Path::getFileName`. -/
def getFileName (path : String) : String :=
  String.ofList (path.toList.reverse.takeWhile (· ≠ '/')).reverse

/-- `FileWatcher::zipFile`: the events, and the value returned.  Only a directory is refused; a
path that has gone gives an empty archive. -/
def zipFile (inputDirPath outputFilePath : String) (keepFile : Bool) :
    PathKind → List S3Event × Bool
  | .directory => ([], false)
  | .absent => ([.zipped inputDirPath outputFilePath false], true)
  | .file =>
      (.zipped inputDirPath outputFilePath true
        :: (if keepFile then [] else [.removed inputDirPath]), true)

/-- The watcher: the two last scans and the two flags an upload reads. -/
structure FileWatcher where
  mFiles1 : FileMap
  mFiles2 : FileMap
  mKeepFile : Bool
  mNeedZip : Bool

namespace FileWatcher

/-- `FileWatcher::uploadToS3`.  The answer of `uploadfile` is logged and dropped. -/
def uploadToS3 (w : FileWatcher) (file : Version) (env : UploadEnv) : List S3Event :=
  if w.mNeedZip then
    let zipDir := cutLastLeftStr file.1 '/' ++ "/zip"
    let archive := zipDir ++ "/" ++ getFileName file.1 ++ ".zip"
    let zipped := zipFile file.1 archive w.mKeepFile env.kind
    zipped.1 ++ if zipped.2 then [.uploaded archive env.uploadfileOk] else []
  else [.uploaded file.1 env.uploadfileOk]

/-! ## The scan loop -/

/-- The constructor: scans `0` and `1`. -/
def new (files1 files2 : FileMap) (keepFile needZip : Bool) : FileWatcher :=
  ⟨files1, files2, keepFile, needZip⟩

/-- The calls of `uploadToS3` one scan makes, in order: the two tests of the loop body, on each
entry of the new scan. -/
def uploads (w : FileWatcher) (files3 : FileMap) : List Version :=
  files3.entries.flatMap fun file =>
    (if w.mFiles1.count file.1 && w.mFiles2.count file.1
        && w.mFiles1.at' file.1 != w.mFiles2.at' file.1 && w.mFiles2.at' file.1 == file.2
      then [file] else [])
    ++ (if !w.mFiles1.count file.1 && w.mFiles2.count file.1 && w.mFiles2.at' file.1 == file.2
      then [file] else [])

/-- `FileWatcher::scanContinuously`: the uploads, and the window moved on by one scan. -/
def scanContinuously (w : FileWatcher) (files3 : FileMap) : List Version × FileWatcher :=
  (w.uploads files3, { w with mFiles1 := w.mFiles2, mFiles2 := files3 })

/-- **The two tests together**: unchanged since the last scan, and not so in the one before. -/
theorem uploads_eq_filter (w : FileWatcher) (files3 : FileMap) :
    w.uploads files3 = files3.entries.filter fun file =>
      w.mFiles2.get? file.1 == some file.2 && w.mFiles1.get? file.1 != some file.2 := by
  rw [uploads]
  induction files3.entries with
  | nil => rfl
  | cons file l ih =>
    rw [List.flatMap_cons, ih, List.filter_cons]
    cases h1 : w.mFiles1.get? file.1 with
    | none =>
      cases h2 : w.mFiles2.get? file.1 with
      | none => simp [FileMap.count, h1, h2]
      | some t2 => by_cases e : t2 = file.2 <;> simp [FileMap.count, FileMap.at', h1, h2, e]
    | some t1 =>
      cases h2 : w.mFiles2.get? file.1 with
      | none => simp [FileMap.count, h1, h2]
      | some t2 =>
        by_cases e : t2 = file.2
        · by_cases e1 : t1 = file.2 <;> simp [FileMap.count, FileMap.at', h1, h2, e, e1]
        · simp [FileMap.count, FileMap.at', h1, h2, e]

theorem mem_uploads_iff (w : FileWatcher) (files3 : FileMap) (v : Version) :
    v ∈ w.uploads files3 ↔ files3.get? v.1 = some v.2 ∧ w.mFiles2.get? v.1 = some v.2
      ∧ w.mFiles1.get? v.1 ≠ some v.2 := by
  rw [uploads_eq_filter, List.mem_filter, FileMap.mem_entries_iff]
  simp

theorem nodup_uploads (w : FileWatcher) (files3 : FileMap) : (w.uploads files3).Nodup := by
  rw [uploads_eq_filter]
  exact files3.nodup_entries.filter _

/-! ## Histories -/

/-- The watcher after `n` calls of `scanContinuously` on a history of scans. -/
def stateAt (keepFile needZip : Bool) (snap : ℕ → FileMap) : ℕ → FileWatcher
  | 0 => new (snap 0) (snap 1) keepFile needZip
  | n + 1 => ((stateAt keepFile needZip snap n).scanContinuously (snap (n + 2))).2

/-- The versions `uploadToS3` is called for at scan `k`; the constructor's own scans upload nothing.
-/
def uploadsAt (keepFile needZip : Bool) (snap : ℕ → FileMap) : ℕ → List Version
  | 0 => []
  | 1 => []
  | k + 2 => ((stateAt keepFile needZip snap k).scanContinuously (snap (k + 2))).1

/-- A version is in the directory at a scan. -/
def Present (snap : ℕ → FileMap) (v : Version) (k : ℕ) : Prop := (snap k).get? v.1 = some v.2

variable {keepFile needZip : Bool} {snap : ℕ → FileMap}

/-- **The window is the last two scans.** -/
theorem stateAt_eq (n : ℕ) :
    stateAt keepFile needZip snap n = ⟨snap n, snap (n + 1), keepFile, needZip⟩ := by
  induction n with
  | zero => rfl
  | succ n ih => rw [stateAt, ih]; rfl

/-- **`uploadToS3` is called for a version exactly where it rises.** -/
theorem mem_uploadsAt (v : Version) (k : ℕ) :
    v ∈ uploadsAt keepFile needZip snap k ↔ Streak.Rises (Present snap v) k := by
  match k with
  | 0 => simp [uploadsAt, Streak.Rises]
  | 1 => simp [uploadsAt, Streak.Rises]
  | k + 2 =>
    rw [uploadsAt, scanContinuously, stateAt_eq, mem_uploads_iff]
    exact ⟨fun ⟨h3, h2, h1⟩ => ⟨by omega, h3, h2, h1⟩, fun ⟨_, h3, h2, h1⟩ => ⟨h3, h2, h1⟩⟩

theorem nodup_uploadsAt (k : ℕ) : (uploadsAt keepFile needZip snap k).Nodup := by
  match k with
  | 0 => exact List.nodup_nil
  | 1 => exact List.nodup_nil
  | k + 2 => exact nodup_uploads _ _

/-! ## What is uploaded

`env k v` is what the upload of version `v` meets at scan `k`. -/

/-- The events of the upload of a version at a scan. -/
def eventsAt (keepFile needZip : Bool) (snap : ℕ → FileMap) (env : ℕ → Version → UploadEnv)
    (k : ℕ) (v : Version) : List S3Event :=
  uploadToS3 (stateAt keepFile needZip snap (k - 2)) v (env k v)

/-- A call of `uploadfile` on the version's file, or on an archive made before that holds it. -/
def carries (needZip : Bool) (v : Version) (events : List S3Event) : S3Event → Bool
  | .uploaded file _ => if needZip then events.contains (.zipped v.1 file true) else file == v.1
  | _ => false

/-- The uploads of a version at a scan. -/
def carriedAt (keepFile needZip : Bool) (snap : ℕ → FileMap) (env : ℕ → Version → UploadEnv)
    (k : ℕ) (v : Version) : List S3Event :=
  ((uploadsAt keepFile needZip snap k).filter (· == v)).flatMap fun w =>
    (eventsAt keepFile needZip snap env k w).filter
      (carries needZip w (eventsAt keepFile needZip snap env k w))

/-- A version is uploaded at a scan. -/
def UploadedAt (keepFile needZip : Bool) (snap : ℕ → FileMap) (env : ℕ → Version → UploadEnv)
    (k : ℕ) (v : Version) : Prop :=
  carriedAt keepFile needZip snap env k v ≠ []

variable {env : ℕ → Version → UploadEnv}

/-- **What one upload does**, case by case. -/
theorem eventsAt_eq (k : ℕ) (v : Version) :
    eventsAt keepFile needZip snap env k v =
      if needZip then
        let archive := cutLastLeftStr v.1 '/' ++ "/zip" ++ "/" ++ getFileName v.1 ++ ".zip"
        match (env k v).kind with
        | .directory => []
        | .absent => [.zipped v.1 archive false, .uploaded archive (env k v).uploadfileOk]
        | .file => .zipped v.1 archive true :: (if keepFile then [] else [.removed v.1])
            ++ [.uploaded archive (env k v).uploadfileOk]
      else [.uploaded v.1 (env k v).uploadfileOk] := by
  rw [eventsAt, stateAt_eq, uploadToS3]
  cases needZip
  · rfl
  · cases (env k v).kind <;> rfl

/-- **One upload calls `uploadfile` for its version once**, unless there is no file to archive. -/
theorem filter_carries (k : ℕ) (v : Version) :
    ((env k v).Archives needZip ∧ ∃ e, (eventsAt keepFile needZip snap env k v).filter
        (carries needZip v (eventsAt keepFile needZip snap env k v)) = [e]) ∨
      (¬ (env k v).Archives needZip ∧ (eventsAt keepFile needZip snap env k v).filter
        (carries needZip v (eventsAt keepFile needZip snap env k v)) = []) := by
  rw [eventsAt_eq, UploadEnv.Archives]
  cases needZip
  · exact .inl ⟨by simp, by simp [carries]⟩
  · rcases (env k v).kind with - | - | -
    · exact .inr ⟨by simp, by simp [carries]⟩
    · exact .inr ⟨by simp, by simp⟩
    · exact .inl ⟨by simp, by cases keepFile <;> simp [carries]⟩

theorem filter_beq_of_nodup {l : List Version} (h : l.Nodup) (v : Version) :
    l.filter (· == v) = if v ∈ l then [v] else [] := by
  rw [List.filter_beq, h.count]
  split <;> rfl

/-- **A version is uploaded where it rises**, once. -/
theorem carriedAt_cases (k : ℕ) (v : Version) :
    (Streak.Rises (Present snap v) k ∧ (env k v).Archives needZip ∧
        ∃ e, carriedAt keepFile needZip snap env k v = [e]) ∨
      (¬ (Streak.Rises (Present snap v) k ∧ (env k v).Archives needZip) ∧
        carriedAt keepFile needZip snap env k v = []) := by
  have hmem := @mem_uploadsAt keepFile needZip snap v k
  rw [carriedAt, filter_beq_of_nodup (nodup_uploadsAt k)]
  by_cases hrises : Streak.Rises (Present snap v) k
  · rw [if_pos (hmem.mpr hrises), List.flatMap_singleton]
    rcases @filter_carries keepFile needZip snap env k v with ⟨harchives, he⟩ | ⟨harchives, he⟩
    · exact .inl ⟨hrises, harchives, he⟩
    · exact .inr ⟨fun h => harchives h.2, he⟩
  · rw [if_neg (mt hmem.mp hrises)]
    exact .inr ⟨fun h => hrises h.1, rfl⟩

theorem uploadedAt_iff (k : ℕ) (v : Version) : UploadedAt keepFile needZip snap env k v ↔
    Streak.Rises (Present snap v) k ∧ (env k v).Archives needZip := by
  rw [UploadedAt]
  rcases @carriedAt_cases keepFile needZip snap env k v with ⟨hrises, harchives, e, he⟩ | ⟨hno, he⟩
  · rw [he]
    exact iff_of_true (List.cons_ne_nil e []) ⟨hrises, harchives⟩
  · rw [he]
    exact iff_of_false (fun h => h rfl) hno

/-- **Exactly-once upload.**  A version is uploaded at scan `k` when it is there at `k` and `k - 1`,
was not at `k - 2`, and its path still is a file if it is to be archived; and then once.  A streak
of at least two scans that does not start at scan `0` is uploaded at exactly one of its scans,
unless its path is no file any more when it is to be archived; a version that was there from scan
`0` on is not uploaded; nor is one that the last scan did not see. -/
theorem exactly_once_upload (keepFile needZip : Bool) (snap : ℕ → FileMap)
    (env : ℕ → Version → UploadEnv) (v : Version) :
    (∀ k, UploadedAt keepFile needZip snap env k v ↔
      2 ≤ k ∧ Present snap v k ∧ Present snap v (k - 1) ∧ ¬ Present snap v (k - 2) ∧
        (needZip = true → (env k v).kind = .file))
    ∧ (∀ k, (carriedAt keepFile needZip snap env k v).length ≤ 1)
    ∧ (∀ s e, Streak.StartsAt (Present snap v) s → Streak.On (Present snap v) s e → s + 1 ≤ e →
        ((∃! k, (s ≤ k ∧ k ≤ e) ∧ UploadedAt keepFile needZip snap env k v) ↔
          (needZip = true → (env (s + 1) v).kind = .file)))
    ∧ (∀ e, Streak.On (Present snap v) 0 e → ∀ k ≤ e, ¬ UploadedAt keepFile needZip snap env k v)
    ∧ (∀ k, ¬ Present snap v (k - 1) → ¬ UploadedAt keepFile needZip snap env k v) := by
  refine ⟨fun k => ?_, fun k => ?_, fun s e hs hon hlen => ?_, fun e hon k hk => ?_,
    fun k hnot => ?_⟩
  · rw [uploadedAt_iff, UploadEnv.Archives, Streak.Rises]
    tauto
  · rcases @carriedAt_cases keepFile needZip snap env k v with ⟨-, -, e, he⟩ | ⟨-, he⟩
    · exact he ▸ Nat.le_refl 1
    · rw [he]
      exact Nat.zero_le 1
  · simp only [uploadedAt_iff]
    exact Streak.existsUnique_rises_iff hs hon hlen
  · rw [uploadedAt_iff]
    exact fun h => Streak.not_rises_of_on_zero hon hk h.1
  · rw [uploadedAt_iff]
    exact fun ⟨⟨_, _, h, _⟩, _⟩ => hnot h

/-- The directory is empty at scan `0` and holds one file, unchanged, from scan `1` on. -/
def oneFileHistory : ℕ → FileMap
  | 0 => .empty
  | _ + 1 => .single ("./data/a.log", 1)

theorem rises_oneFileHistory : Streak.Rises (Present oneFileHistory ("./data/a.log", 1)) 2 :=
  ⟨Nat.le_refl 2, rfl, rfl, by unfold Present; decide⟩

/-- **A stable version is not uploaded**: a directory has taken the place of the file by the time it
is to be archived. -/
theorem not_uploaded_directory : ¬ ∀ (keepFile needZip : Bool) (snap : ℕ → FileMap)
    (env : ℕ → Version → UploadEnv) (v : Version) (k : ℕ),
    UploadedAt keepFile needZip snap env k v ↔
      2 ≤ k ∧ Present snap v k ∧ Present snap v (k - 1) ∧ ¬ Present snap v (k - 2) := by
  intro h
  have hup := (h true true oneFileHistory (fun _ _ => ⟨.directory, true⟩) ("./data/a.log", 1) 2).mpr
    rises_oneFileHistory
  exact absurd (((uploadedAt_iff 2 _).mp hup).2 rfl) (by decide)

/-! ## Failed uploads -/

/-- A version was uploaded at a scan, and no `uploadfile` of that upload succeeded. -/
def FailedAt (keepFile needZip : Bool) (snap : ℕ → FileMap) (env : ℕ → Version → UploadEnv)
    (k : ℕ) (v : Version) : Prop :=
  v ∈ uploadsAt keepFile needZip snap k
    ∧ ∀ file, .uploaded file true ∉ eventsAt keepFile needZip snap env k v

/-- A version whose upload failed and which stays in the directory is uploaded again. -/
def NoLoss (keepFile needZip : Bool) (snap : ℕ → FileMap) (env : ℕ → Version → UploadEnv) :
    Prop :=
  ∀ k v, FailedAt keepFile needZip snap env k v → (∀ j, k < j → Present snap v j) →
    ∃ j, k < j ∧ v ∈ uploadsAt keepFile needZip snap j

/-- A source file is removed only after an `uploadfile` of that upload has succeeded. -/
def RemovedAfterUpload (keepFile needZip : Bool) (snap : ℕ → FileMap)
    (env : ℕ → Version → UploadEnv) : Prop :=
  ∀ k v, v ∈ uploadsAt keepFile needZip snap k → ∀ before src after,
    eventsAt keepFile needZip snap env k v = before ++ .removed src :: after →
      ∃ file, .uploaded file true ∈ before

theorem exists_uploaded_iff (k : ℕ) (v : Version) :
    (∃ file, .uploaded file true ∈ eventsAt keepFile needZip snap env k v)
      ↔ (env k v).succeeds needZip = true := by
  rw [eventsAt_eq, UploadEnv.succeeds]
  obtain ⟨kind, ok⟩ := env k v
  cases needZip
  · cases ok <;> simp
  · cases kind <;> cases keepFile <;> cases ok <;> simp

/-- **A removal comes before the upload it belongs to**, so it is there exactly when the archived
source is a file that is not kept. -/
theorem removed_before_upload_iff (k : ℕ) (v : Version) :
    (∃ before src after, eventsAt keepFile needZip snap env k v = before ++ .removed src :: after
        ∧ ∀ file, .uploaded file true ∉ before)
      ↔ needZip = true ∧ keepFile = false ∧ (env k v).kind = .file := by
  rw [eventsAt_eq]
  constructor
  · rintro ⟨before, src, after, h, -⟩
    have hmem : S3Event.removed src ∈ before ++ S3Event.removed src :: after := by simp
    rw [← h] at hmem
    cases needZip
    · simp at hmem
    · cases hk : (env k v).kind <;> cases keepFile <;> simp [hk] at hmem
      exact ⟨rfl, rfl, rfl⟩
  · rintro ⟨rfl, rfl, hk⟩
    simp only [hk]
    exact ⟨[.zipped _ _ true], v.1, [.uploaded _ _], rfl, by simp⟩

theorem removedAfterUpload_iff :
    RemovedAfterUpload keepFile needZip snap env ↔
      ∀ k v, Streak.Rises (Present snap v) k →
        ¬ (needZip = true ∧ keepFile = false ∧ (env k v).kind = .file) := by
  unfold RemovedAfterUpload
  refine forall₂_congr fun k v => ?_
  rw [mem_uploadsAt, ← @removed_before_upload_iff keepFile needZip snap env k v]
  refine forall_congr' fun _ => ⟨?_, ?_⟩
  · rintro h ⟨before, src, after, heq, hno⟩
    obtain ⟨file, hf⟩ := h before src after heq
    exact hno file hf
  · intro h before src after heq
    by_contra hno
    exact h ⟨before, src, after, heq, fun file hf => hno ⟨file, hf⟩⟩

/-- A version that stays after a scan it rose at does not rise again. -/
theorem not_rises_again {v : Version} {k j : ℕ} (hk : Streak.Rises (Present snap v) k)
    (hstay : ∀ i, k < i → Present snap v i) (hj : k < j) :
    ¬ Streak.Rises (Present snap v) j := by
  rintro ⟨hj2, -, -, hnot⟩
  rcases Nat.lt_trichotomy k (j - 2) with h | h | h
  · exact hnot (hstay _ h)
  · exact hnot (h ▸ hk.2.1)
  · have hj1 : j - 2 = k - 1 := by omega
    exact hnot (hj1 ▸ hk.2.2.1)

theorem noLoss_iff :
    NoLoss keepFile needZip snap env ↔
      ∀ k v, Streak.Rises (Present snap v) k → (env k v).succeeds needZip = false →
        ∃ j, k < j ∧ ¬ Present snap v j := by
  have hfail : ∀ k v, FailedAt keepFile needZip snap env k v ↔
      Streak.Rises (Present snap v) k ∧ (env k v).succeeds needZip = false := by
    intro k v
    rw [FailedAt, mem_uploadsAt, ← not_exists, exists_uploaded_iff, Bool.not_eq_true]
  constructor
  · intro h k v hr hf
    by_contra hstay
    push Not at hstay
    obtain ⟨j, hj, hup⟩ := h k v ((hfail k v).mpr ⟨hr, hf⟩) hstay
    exact not_rises_again hr hstay hj ((mem_uploadsAt v j).mp hup)
  · intro h k v hf hstay
    obtain ⟨hr, hok⟩ := (hfail k v).mp hf
    obtain ⟨j, hj, hnot⟩ := h k v hr hok
    exact absurd (hstay j hj) hnot

/-- **When the watcher loses no version**: no upload of a stable version fails while the version
stays in the directory for good, and no upload archives a file it is told not to keep. -/
theorem no_loss_iff (keepFile needZip : Bool) (snap : ℕ → FileMap)
    (env : ℕ → Version → UploadEnv) :
    NoLoss keepFile needZip snap env ∧ RemovedAfterUpload keepFile needZip snap env ↔
      (∀ k v, Streak.Rises (Present snap v) k → (env k v).succeeds needZip = false →
        ∃ j, k < j ∧ ¬ Present snap v j)
      ∧ ∀ k v, Streak.Rises (Present snap v) k →
        ¬ (needZip = true ∧ keepFile = false ∧ (env k v).kind = .file) := by
  rw [noLoss_iff, removedAfterUpload_iff]

/-- **A version is lost**: the file's one upload, at scan `2`, fails, and the file stays; with the
archive option the file is removed although no upload has succeeded. -/
theorem version_lost :
    ¬ NoLoss true false oneFileHistory (fun _ _ => ⟨.file, false⟩)
      ∧ ¬ RemovedAfterUpload false true oneFileHistory (fun _ _ => ⟨.file, false⟩) := by
  have hr := rises_oneFileHistory
  rw [noLoss_iff, removedAfterUpload_iff]
  refine ⟨fun h => ?_, fun h => h 2 _ hr ⟨rfl, rfl, rfl⟩⟩
  obtain ⟨j, hj, hnot⟩ := h 2 _ hr rfl
  obtain ⟨i, rfl⟩ : ∃ i, j = i + 1 := ⟨j - 1, by omega⟩
  exact hnot rfl

end FileWatcher

end Sadip

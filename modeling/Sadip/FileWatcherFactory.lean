import Sadip.Machinery.Imperative
import Sadip.Machinery.Run
import Mathlib.Data.List.Nodup

/-!
# FileWatcherFactory — the registry of S3 watchers, `utils/aws/s3/FileWatcher.h`

The factory keeps one vector of owned watchers under one mutex, which every operation takes through
a `lock_guard`.  Two things end the process inside an operation: taking the mutex a second time,
since `std::mutex` is not recursive, and destroying a watcher whose thread is still joinable, since
nothing ever joins it.  `deleteFileWatcherByDirectory` does the first and `deleteFileWatcher` the
second, each exactly when it finds what it is asked to delete.
-/

namespace Sadip

namespace FileWatcherFactory

open Imperative Imperative.Prog

/-! ## Watchers and the registry -/

/-- A `FileWatcher`, less its scans. -/
structure FileWatcher where
  /-- where `new` has put it -/
  pointer : ℕ
  directory : String
  bucket : String
  nodeid : String
  stop : Bool := true
  keepFile : Bool
  /-- the constructor does not store its `sleep` -/
  sleep : Int := 10
  needZip : Bool
  watchSubDir : Bool
  /-- `m_thread.joinable()` -/
  joinable : Bool := false
  deriving DecidableEq

/-- `mtx` and `fileWatchers`, and where the next `new` puts an object. -/
structure State where
  locked : Bool
  fileWatchers : List FileWatcher
  next : ℕ

/-- How far a creation gets before something throws. -/
structure Creation where
  /-- the constructor, which scans the directory twice -/
  constructed : Bool
  /-- `createDirectories` for the archives -/
  zipDir : Bool
  /-- `std::thread` -/
  threaded : Bool
  /-- `push_back` -/
  pushed : Bool
  deriving DecidableEq

/-! ## The operations -/

/-- A step that the system may make throw. -/
def attempt (ok : Bool) : Prog State Unit := if ok then pure () else throw

/-- `std::lock_guard` over the rest of an operation: the mutex is released however that ends, and
cannot be taken by the thread that holds it. -/
def lockGuard {α : Type} (body : Prog State α) : Prog State α := do
  let s ← get
  if s.locked then abort
  else do
    modify fun s => { s with locked := true }
    let a ← tryCatch body (modify (fun s => { s with locked := false }) >>= fun _ => throw)
    modify fun s => { s with locked := false }
    pure a

/-- `findFileWatcher`, which takes no lock. -/
def findFileWatcher (directory : String) : Prog State (Option FileWatcher) := do
  let s ← get
  pure (s.fileWatchers.find? (·.directory = directory))

/-- `new FileWatcher(..)`. -/
def newFileWatcher (directory bucket nodeid : String) (keepFile needZip watchSubDir : Bool)
    (answer : Creation) : Prog State FileWatcher := do
  attempt answer.constructed
  let s ← get
  modify fun s => { s with next := s.next + 1 }
  pure { pointer := s.next, directory, bucket, nodeid, keepFile, needZip, watchSubDir }

/-- `start()` makes the directory of the archives where there are to be any. -/
def createZipDir (w : FileWatcher) (answer : Creation) : Prog State Unit :=
  if w.needZip then attempt answer.zipDir else pure ()

/-- `fileWatcher->start()`. -/
def start (w : FileWatcher) (answer : Creation) : Prog State FileWatcher := do
  createZipDir w answer
  attempt answer.threaded
  pure { w with stop := false, joinable := true }

/-- `fileWatchers.push_back(fileWatcher)`. -/
def pushBack (w : FileWatcher) (answer : Creation) : Prog State Unit := do
  attempt answer.pushed
  modify fun s => { s with fileWatchers := s.fileWatchers ++ [w] }

/-- `createFileWatcher`: the address of the new watcher, or `nullptr`. -/
def createFileWatcher (directory bucket nodeid : String) (_sleep : Int)
    (keepFile needZip watchSubDir : Bool) (answer : Creation) : Prog State (Option ℕ) :=
    lockGuard do
  match ← findFileWatcher directory with
  | some _ => pure none
  | none => do
      let w ← newFileWatcher directory bucket nodeid keepFile needZip watchSubDir answer
      let w ← start w answer
      pushBack w answer
      pure (some w.pointer)

/-- `delete fileWatcher`: a thread that is joinable when it is destroyed ends the process. -/
def destroy (w : FileWatcher) : Prog State Unit := if w.joinable then abort else pure ()

/-- `deleteFileWatcher`; the pointer may be null, or one the vector does not hold. -/
def deleteFileWatcher (fileWatcher : Option ℕ) : Prog State Unit := lockGuard do
  let s ← get
  match s.fileWatchers.find? (some ·.pointer = fileWatcher) with
  | none => pure ()
  | some w => do
      modify fun s =>
        { s with fileWatchers := s.fileWatchers.eraseP (some ·.pointer = fileWatcher) }
      destroy { w with stop := true }

/-- `deleteFileWatcherByDirectory`. -/
def deleteFileWatcherByDirectory (directory : String) : Prog State Unit := lockGuard do
  match ← findFileWatcher directory with
  | none => pure ()
  | some w => deleteFileWatcher (some w.pointer)

/-- What `rapidjson::Writer` writes for a character of a string. -/
def jsonChar (c : Char) : List Char :=
  if c = '"' then ['\\', '"']
  else if c = '\\' then ['\\', '\\']
  else if c = '\x08' then ['\\', 'b']
  else if c = '\t' then ['\\', 't']
  else if c = '\n' then ['\\', 'n']
  else if c = '\x0c' then ['\\', 'f']
  else if c = '\r' then ['\\', 'r']
  else if c.toNat < 32 then
    ['\\', 'u', '0', '0', (c.toNat / 16).digitChar.toUpper, (c.toNat % 16).digitChar.toUpper]
  else [c]

/-- A string member, which is read up to its first NUL. -/
def jsonString (s : String) : String :=
  "\"" ++ String.ofList ((s.toList.takeWhile (· ≠ '\x00')).flatMap jsonChar) ++ "\""

/-- A watcher as `listAllWatchers` shows it. -/
def FileWatcher.json (w : FileWatcher) : String :=
  "\x7b\"directory\":" ++ jsonString w.directory ++ ",\"bucket\":" ++ jsonString w.bucket ++
    ",\"nodeid\":" ++ jsonString w.nodeid ++ ",\"sleep\":" ++ toString w.sleep ++
    ",\"keepFile\":" ++ toString w.keepFile ++ "\x7d"

/-- `listAllWatchers`. -/
def listAllWatchers : Prog State String := lockGuard do
  let s ← get
  pure ("\x7b\"watchers\":[" ++ String.intercalate "," (s.fileWatchers.map FileWatcher.json) ++ "]\x7d")

/-- A call on the factory; a creation comes with what the system makes of it. -/
inductive Call
  | createFileWatcher (directory bucket nodeid : String) (sleep : Int)
      (keepFile needZip watchSubDir : Bool) (answer : Creation)
  | deleteFileWatcher (fileWatcher : Option ℕ)
  | deleteFileWatcherByDirectory (directory : String)
  | listAllWatchers

/-- The state a call leaves, if the process survives it. -/
def step (s : State) : Call → Option State
  | .createFileWatcher directory bucket nodeid sleep keepFile needZip watchSubDir answer =>
      (createFileWatcher directory bucket nodeid sleep keepFile needZip watchSubDir answer s).state
  | .deleteFileWatcher fileWatcher => (deleteFileWatcher fileWatcher s).state
  | .deleteFileWatcherByDirectory directory => (deleteFileWatcherByDirectory directory s).state
  | .listAllWatchers => (listAllWatchers s).state

/-- The process has made no watcher yet. -/
def initial : State := ⟨false, [], 0⟩

/-! ## Under the lock

What an operation does is what its body does with the mutex taken. -/

variable {α : Type} {body : Prog State α} {s s' : State} {w : FileWatcher} {directory : String}
  {fileWatcher : Option ℕ}

/-- **The mutex cannot be taken twice.** -/
theorem lockGuard_locked (h : s.locked = true) : lockGuard body s = .undefined := by
  rw [lockGuard, bind_done (show get s = .done s s from rfl), if_pos h]
  rfl

theorem lockGuard_state (h : s.locked = false) : (lockGuard body s).state
    = (body { s with locked := true }).state.map fun s' => { s' with locked := false } := by
  rw [lockGuard, bind_done (show get s = .done s s from rfl), if_neg (by simp [h]),
    bind_done (modify_run _ _)]
  rcases hrun : body { s with locked := true } with ⟨a, s'⟩ | s' | -
  · rw [bind_done (tryCatch_done hrun)]
    rfl
  · rw [bind_thrown ((tryCatch_thrown hrun).trans (bind_done (modify_run _ _)))]
    rfl
  · rw [bind_undefined (tryCatch_undefined hrun)]
    rfl

theorem unlock_lock (h : s.locked = false) :
    ({ ({ s with locked := true } : State) with locked := false } : State) = s := by
  rw [← h]

theorem findFileWatcher_run (directory : String) (s : State) : findFileWatcher directory s
    = .done (s.fileWatchers.find? (·.directory = directory)) s := rfl

/-! ## What the registry holds -/

/-- Watchers of different directories, each with its thread. -/
structure Registry (ws : List FileWatcher) : Prop where
  unique : (ws.map (·.directory)).Nodup
  started : ∀ w ∈ ws, w.joinable = true

theorem Registry.nil : Registry [] := ⟨List.nodup_nil, fun _ hw => absurd hw List.not_mem_nil⟩

theorem Registry.append {ws : List FileWatcher} (h : Registry ws) (hw : w.joinable = true)
    (hnew : w.directory ∉ ws.map (·.directory)) : Registry (ws ++ [w]) where
  unique := by
    rw [List.map_append, List.map_cons, List.map_nil]
    exact h.unique.append (List.nodup_singleton _)
      fun d hd hd' => hnew (List.mem_singleton.mp hd' ▸ hd)
  started := fun v hv => by
    rcases List.mem_append.mp hv with hv | hv
    · exact h.started v hv
    · exact List.mem_singleton.mp hv ▸ hw

/-- The registry has no watcher of this directory. -/
def Vacant (directory : String) (s : State) : Prop :=
  Registry s.fileWatchers ∧ directory ∉ s.fileWatchers.map (·.directory)

theorem keeps_attempt {I : State → Prop} (ok : Bool) : Keeps I (attempt ok) :=
  keeps_ite (fun _ => keeps_pure ()) fun _ => keeps_throw

theorem triple_newFileWatcher (directory bucket nodeid : String)
    (keepFile needZip watchSubDir : Bool)
    (answer : Creation) : Triple (Vacant directory)
      (newFileWatcher directory bucket nodeid keepFile needZip watchSubDir answer)
      (fun w s => Vacant directory s ∧ w.directory = directory) (Vacant directory) :=
  triple_bind (keeps_attempt _) fun _ => triple_bind keeps_get fun _ =>
    triple_bind (keeps_modify fun _ hs => hs) fun _ => triple_pure fun _ hs => ⟨hs, rfl⟩

theorem triple_start (w : FileWatcher) (answer : Creation) :
    Triple (fun s => Vacant directory s ∧ w.directory = directory) (start w answer)
      (fun w s => Vacant directory s ∧ w.directory = directory ∧ w.joinable = true)
      (Vacant directory) := by
  rintro s ⟨hs, hw⟩
  exact triple_bind (keeps_ite (fun _ => keeps_attempt _) fun _ => keeps_pure ())
    (fun _ => triple_bind (keeps_attempt _) fun _ => triple_pure fun _ ht => ⟨ht, hw, rfl⟩) s hs

theorem triple_pushBack (w : FileWatcher) (answer : Creation) :
    Triple (fun s => Vacant directory s ∧ w.directory = directory ∧ w.joinable = true)
      (pushBack w answer) (fun _ s => Registry s.fileWatchers) (Vacant directory) := by
  rintro s ⟨hs, hw, hjoin⟩
  exact triple_bind (keeps_attempt _)
    (fun _ => triple_modify fun t ht => ht.1.append hjoin (hw ▸ ht.2)) s hs

/-- **A creation keeps the registry**, also one that throws. -/
theorem createFileWatcher_state (hs : Registry s.fileWatchers) (hlock : s.locked = false)
    (directory bucket nodeid : String) (sleep : Int) (keepFile needZip watchSubDir : Bool)
    (answer : Creation) : ∃ s', (createFileWatcher directory bucket nodeid sleep keepFile needZip
      watchSubDir answer s).state = some s' ∧ s'.locked = false ∧ Registry s'.fileWatchers := by
  rw [createFileWatcher, lockGuard_state hlock, bind_done (findFileWatcher_run _ _)]
  rcases hfind : s.fileWatchers.find? (·.directory = directory) with - | w
  · have hnew : Vacant directory { s with locked := true } :=
      ⟨hs, by simpa [List.find?_eq_none] using hfind⟩
    have hbody := triple_bind (triple_newFileWatcher directory bucket nodeid keepFile needZip
      watchSubDir answer) fun w => triple_bind (triple_start w answer) fun w =>
        triple_bind (R := fun _ s => Registry s.fileWatchers) (triple_pushBack w answer) fun _ =>
          triple_pure (a := some w.pointer) fun _ ht => ht
    obtain ⟨s', hs', hreg⟩ := (triple_conseq hbody (fun _ h => h) (fun _ _ h => h)
      (fun _ h => h.1)).state hnew
    refine ⟨{ s' with locked := false }, ?_, rfl, hreg⟩
    simp only [hfind]
    exact congrArg (Option.map _) hs'
  · refine ⟨s, ?_, hlock, hs⟩
    simp only [hfind]
    exact congrArg some (unlock_lock hlock)

/-- **A deletion that finds its watcher destroys a thread that nothing has joined.** -/
theorem deleteFileWatcher_state (hs : Registry s.fileWatchers) (hlock : s.locked = false) :
    (deleteFileWatcher fileWatcher s).state
      = if ∃ w ∈ s.fileWatchers, some w.pointer = fileWatcher then none else some s := by
  rw [deleteFileWatcher, lockGuard_state hlock, bind_done (show get _ = .done _ _ from rfl)]
  rcases hfind : s.fileWatchers.find? (some ·.pointer = fileWatcher) with - | w
  · have hnot : ¬ ∃ w ∈ s.fileWatchers, some w.pointer = fileWatcher := by
      simpa [List.find?_eq_none] using hfind
    simp only [hfind, if_neg hnot]
    exact congrArg some (unlock_lock hlock)
  · have hw := List.mem_of_find?_eq_some hfind
    rw [if_pos ⟨w, hw, by simpa using List.find?_some hfind⟩]
    simp only [hfind]
    rw [bind_done (modify_run _ _), destroy, if_pos (hs.started w hw)]
    rfl

/-- **A deletion by directory that finds a watcher takes the mutex it holds.** -/
theorem deleteFileWatcherByDirectory_state (hlock : s.locked = false) :
    (deleteFileWatcherByDirectory directory s).state
      = if ∃ w ∈ s.fileWatchers, w.directory = directory then none else some s := by
  rw [deleteFileWatcherByDirectory, lockGuard_state hlock, bind_done (findFileWatcher_run _ _)]
  rcases hfind : s.fileWatchers.find? (·.directory = directory) with - | w
  · have hnot : ¬ ∃ w ∈ s.fileWatchers, w.directory = directory := by
      simpa [List.find?_eq_none] using hfind
    simp only [hfind, if_neg hnot]
    exact congrArg some (unlock_lock hlock)
  · rw [if_pos ⟨w, List.mem_of_find?_eq_some hfind, by simpa using List.find?_some hfind⟩]
    simp only [hfind]
    rw [deleteFileWatcher, lockGuard_locked rfl]
    rfl

theorem listAllWatchers_state (hlock : s.locked = false) : (listAllWatchers s).state = some s := by
  rw [listAllWatchers, lockGuard_state hlock]
  exact congrArg some (unlock_lock hlock)

/-! ## Runs -/

/-- What every call is to leave behind: the mutex free, one watcher for a directory at most, and
after a deletion by directory the other watchers as they were. -/
structure Lawful (s : State) (c : Call) (s' : State) : Prop where
  released : s'.locked = false
  unique : (s'.fileWatchers.map (·.directory)).Nodup
  deleted : ∀ d, c = .deleteFileWatcherByDirectory d →
    s'.fileWatchers = s.fileWatchers.filter (·.directory ≠ d)

/-- The call finds nothing to delete. -/
def DeletesNothing (s : State) : Call → Prop
  | .deleteFileWatcher fileWatcher => ∀ w ∈ s.fileWatchers, some w.pointer ≠ fileWatcher
  | .deleteFileWatcherByDirectory directory => ∀ w ∈ s.fileWatchers, w.directory ≠ directory
  | _ => True

/-- **One call is lawful exactly when it finds nothing to delete.** -/
theorem lawful_iff (hs : Registry s.fileWatchers) (hlock : s.locked = false) (c : Call) :
    (∃ s', step s c = some s' ∧ Lawful s c s') ↔ DeletesNothing s c := by
  rcases c with ⟨directory, bucket, nodeid, sleep, keepFile, needZip, watchSubDir, answer⟩ |
    fileWatcher | directory | -
  · obtain ⟨s', hs', hfree, hreg⟩ := createFileWatcher_state hs hlock directory bucket nodeid sleep
      keepFile needZip watchSubDir answer
    exact iff_of_true ⟨s', hs', hfree, hreg.unique, by simp⟩ trivial
  · rw [step, deleteFileWatcher_state hs hlock]
    by_cases h : ∃ w ∈ s.fileWatchers, some w.pointer = fileWatcher
    · rw [if_pos h]
      exact iff_of_false (by simp) fun hno => h.elim fun w hw => hno w hw.1 hw.2
    · rw [if_neg h]
      exact iff_of_true ⟨s, rfl, hlock, hs.unique, by simp⟩ fun w hw he => h ⟨w, hw, he⟩
  · rw [step, deleteFileWatcherByDirectory_state hlock]
    by_cases h : ∃ w ∈ s.fileWatchers, w.directory = directory
    · rw [if_pos h]
      exact iff_of_false (by simp) fun hno => h.elim fun w hw => hno w hw.1 hw.2
    · rw [if_neg h]
      refine iff_of_true ⟨s, rfl, hlock, hs.unique, ?_⟩ fun w hw he => h ⟨w, hw, he⟩
      rintro d ⟨⟩
      exact (List.filter_eq_self.mpr fun w hw => by simpa using fun he => h ⟨w, hw, he⟩).symm
  · exact iff_of_true ⟨s, listAllWatchers_state hlock, hlock, hs.unique, by simp⟩ trivial

/-- Whatever the call, it leaves the registry sound. -/
theorem step_registry (hs : Registry s.fileWatchers) (hlock : s.locked = false) {c : Call}
    (h : step s c = some s') : s'.locked = false ∧ Registry s'.fileWatchers := by
  rcases c with ⟨directory, bucket, nodeid, sleep, keepFile, needZip, watchSubDir, answer⟩ |
    fileWatcher | directory | -
  · obtain ⟨t, ht, hfree, hreg⟩ := createFileWatcher_state hs hlock directory bucket nodeid sleep
      keepFile needZip watchSubDir answer
    obtain rfl := Option.some.inj (ht.symm.trans h)
    exact ⟨hfree, hreg⟩
  · rw [step, deleteFileWatcher_state hs hlock, Option.ite_none_left_eq_some] at h
    obtain rfl := Option.some.inj h.2
    exact ⟨hlock, hs⟩
  · rw [step, deleteFileWatcherByDirectory_state hlock, Option.ite_none_left_eq_some] at h
    obtain rfl := Option.some.inj h.2
    exact ⟨hlock, hs⟩
  · obtain rfl := Option.some.inj ((listAllWatchers_state hlock).symm.trans h)
    exact ⟨hlock, hs⟩

/-- **Which runs keep to the law**: those that are never asked to delete a watcher they have. -/
theorem follows_lawful_iff (calls : List Call) :
    Run.Follows step Lawful initial calls ↔ Run.Meets step DeletesNothing initial calls :=
  Run.follows_iff_meets (I := fun s => s.locked = false ∧ Registry s.fileWatchers)
    (fun _ c hs => lawful_iff hs.2 hs.1 c) (fun _ _ _ hs h _ => step_registry hs.2 hs.1 h) calls
    initial ⟨rfl, Registry.nil⟩

/-- A creation in which nothing throws. -/
def calm : Creation := ⟨true, true, true, true⟩

/-- **A watcher that was created cannot be deleted**, by its directory or by its address. -/
theorem not_follows_lawful :
    let create := Call.createFileWatcher "d" "b" "n" 30 true true false calm
    ¬ Run.Follows step Lawful initial [create, .deleteFileWatcherByDirectory "d"] ∧
      ¬ Run.Follows step Lawful initial [create, .deleteFileWatcher (some 0)] := by
  refine ⟨?_, ?_⟩
  · rintro ⟨s₁, h₁, -, s₂, h₂, -⟩
    obtain rfl := Option.some.inj h₁
    cases h₂
  · rintro ⟨s₁, h₁, -, s₂, h₂, -⟩
    obtain rfl := Option.some.inj h₁
    cases h₂

end FileWatcherFactory

end Sadip

import Mathlib.Data.Finset.Range
import Sadip.FileTopic.Message
import Sadip.Split

/-!
# FileTopic/Receive — the receiving side of a file transfer, `node/src/FileTopic.cpp`

`handleFileData` takes the file system and one message and gives the file system and what the call
did: files handed to `move`, replies put on `reply_queue_`, replies recorded in the database.
`none` is a call without a defined result.

`Holds` says which blocks of a transfer are in its directory; `handleFileData_message` is what one
message of the transfer does to them, and every result about deliveries is read off it.
-/

namespace Sadip

namespace FileTopic

open FileSplit FsPath

/-! ## The handler -/

/-- `std::string(s.c_str())`. -/
def cStr (s : String) : String := String.ofList (s.toList.takeWhile (· ≠ '\x00'))

/-- What a call of `handle_file_data` does besides writing files. -/
inductive RecvEvent where
  /-- `move` was called on a file with these bytes -/
  | moved (bytes : Bytes) (dst : String)
  /-- a reply was put on `reply_queue_` -/
  | queued (reply : FileDataReply)
  /-- `file_data_reply_in` was called -/
  | recorded (reply : FileDataReply)

/-- `path` and `pathName` of `move_clear_tmp`: the directory to make, if any, and the place the
file is moved to. -/
def savePaths (fileData : FileData) : Option String × String :=
  let paths := Split.strings fileData.saveFileName '/'
  match paths with
  | [] => (none, cStr fileData.subDir)
  | [single] => (none, single)
  | _ :: rest => (some (rest.dropLast.foldl (fun path part => path ++ "/" ++ part) "."),
      cStr fileData.subDir)

/-- The `mkdir` of `move_clear_tmp`. -/
def makePath (fs : FileSystem) : Option String → FileSystem
  | none => fs
  | some path => mkdir fs path

/-- `move_clear_tmp`: the file system, what was done, and the reply as it was left. -/
def moveClearTmp (size : Int) (fs : FileSystem) (fileData : FileData)
    (mergeFileName tmpDir : String) (reply : FileDataReply) :
    FileSystem × List RecvEvent × FileDataReply :=
  if size = fileData.fileTotalSize then
    let reply' := { reply with isEnd := true, state := 5 }
    if fileData.saveFileName.length > 0 then
      let paths := savePaths fileData
      let made := makePath fs paths.1
      let bytes := (made.files (ofString mergeFileName)).getD []
      (removeAllFiles (move made mergeFileName paths.2) tmpDir,
        [.moved bytes paths.2, .queued reply'], reply')
    else (fs, [.queued reply'], reply')
  else (fs, [], reply)

/-- The end-block branch of `handle_file_data`. -/
def handleEnd (fs : FileSystem) (fileData : FileData) (tmpDir : String) (reply : FileDataReply) :
    Option (FileSystem × List RecvEvent × FileDataReply) :=
  match merge fs tmpDir (toInt fileData.totalBlockNum) with
  | none => none
  | some (result, merged) =>
      if result = 0 then
        let mergeFileName := tmpDir ++ "/merge.out"
        some (moveClearTmp (getFileLength merged mergeFileName) merged fileData mergeFileName
          tmpDir reply)
      else if result > 0 then
        some (merged, [], { reply with blockSeq := result.toNat, isEnd := true, state := 3 })
      else
        let reply' := { reply with isEnd := true, state := 4 }
        some (merged, [.queued reply'], reply')

/-- The reply a message starts from. -/
def startReply (uuid name : String) (fileData : FileData) : FileDataReply where
  uuid := uuid
  srcNodeId := fileData.toNodeId
  toNodeId := fileData.srcNodeId
  fileName := name
  replyUuid := fileData.uuid
  subDir := ""
  isEnd := false
  blockSeq := fileData.blockSeq
  totalBlockNum := fileData.totalBlockNum
  fileTotalSize := fileData.fileTotalSize
  blockLosts := []
  state := 1

/-- `handle_file_data`, with `uuid` the one `utility::uuid::generate` gives. -/
def handleFileData (monNodeId uuid : String) (fs : FileSystem) (fileData : FileData) :
    Option (FileSystem × List RecvEvent) :=
  let tmpDir := fileData.fileName ++ "_tmp"
  let tmpFileName := tmpDir ++ "/" ++ fileData.blockSeq.repr
  let written := writeFile (mkdir fs tmpDir) tmpFileName fileData.blockContent
  match (Split.strings fileData.fileName '/').getLast? with
  | none => none
  | some name =>
      let reply := startReply uuid name fileData
      let handled :=
        if fileData.isEnd then handleEnd written fileData tmpDir reply
        else some (written, [.queued reply], reply)
      match handled with
      | none => none
      | some (fs', events, reply') =>
          some (fs', events ++ if fileData.srcNodeId ≠ monNodeId then [.recorded reply'] else [])

/-- The reply an event put on `reply_queue_`. -/
def RecvEvent.queuedReply : RecvEvent → Option FileDataReply
  | .queued reply => some reply
  | _ => none

/-- The bytes an event handed to `move`. -/
def RecvEvent.movedBytes : RecvEvent → Option Bytes
  | .moved bytes _ => some bytes
  | _ => none

/-- The replies put on `reply_queue_`, in order. -/
def queuedReplies (events : List RecvEvent) : List FileDataReply :=
  events.filterMap RecvEvent.queuedReply

/-- The bytes handed to `move`, in order. -/
def movedBytes (events : List RecvEvent) : List Bytes :=
  events.filterMap RecvEvent.movedBytes

@[simp] theorem queuedReplies_append (e e' : List RecvEvent) :
    queuedReplies (e ++ e') = queuedReplies e ++ queuedReplies e' := List.filterMap_append

@[simp] theorem movedBytes_append (e e' : List RecvEvent) :
    movedBytes (e ++ e') = movedBytes e ++ movedBytes e' := List.filterMap_append

theorem queuedReplies_append_recorded (c : Prop) [Decidable c] (reply : FileDataReply)
    (events : List RecvEvent) :
    queuedReplies (events ++ if c then [.recorded reply] else []) = queuedReplies events := by
  rw [queuedReplies_append]
  split <;> exact List.append_nil _

theorem movedBytes_append_recorded (c : Prop) [Decidable c] (reply : FileDataReply)
    (events : List RecvEvent) :
    movedBytes (events ++ if c then [.recorded reply] else []) = movedBytes events := by
  rw [movedBytes_append]
  split <;> exact List.append_nil _

/-- A reply that says that the receiver has the whole of a transfer. -/
def FileDataReply.Confirms (reply : FileDataReply) (uuid : String) : Prop :=
  reply.replyUuid = uuid ∧ reply.isEnd = true ∧ reply.state = 5

/-! ## Which blocks are there -/

/-- The blocks of the transfer in its directory are those in `A`. -/
def Holds (T : Transfer) (fs : FileSystem) (A : Finset ℕ) : Prop :=
  ∀ i < T.fileNum, fs.files (T.tmpBlock i) = if i ∈ A then some (T.block i) else none

variable {T : Transfer} {fs : FileSystem} {A : Finset ℕ}

theorem Holds.congr {fs' : FileSystem} (h : Holds T fs A)
    (hfs : ∀ i, fs'.files (T.tmpBlock i) = fs.files (T.tmpBlock i)) : Holds T fs' A :=
  fun i hi => (hfs i).trans (h i hi)

theorem Holds.write (h : Holds T fs A) (i : ℕ) :
    Holds T (fs.write (T.tmpBlock i) (T.block i)) (insert i A) := by
  intro j hj
  by_cases hij : j = i
  · subst hij
    simp
  · rw [FileSystem.files_write_of_ne _ _ fun e => hij (T.tmpBlock_injective e), h j hj]
    simp [hij]

theorem Holds.removeAll : Holds T (fs.removeAll (ofString T.tmpDir)) ∅ := fun i _ => by
  rw [FileSystem.files_removeAll, if_pos (T.prefix_tmpBlock i)]
  simp

/-- The first place where a property holds. -/
theorem exists_first {p : ℕ → Prop} (h : ∃ m, p m) : ∃ m, p m ∧ ∀ j < m, ¬ p j := by
  classical
  exact ⟨Nat.find h, Nat.find_spec h, fun _ => Nat.find_min h⟩

/-- What `merge` finds in the directory: the blocks up to `m`, and then either the block count it
was given or a gap.  There is no result only when the count does not fit an `int`. -/
theorem merge_cases (h : Holds T fs A) (hdir : isDir fs T.tmpDir = true) :
    (merge fs T.tmpDir (toInt T.fileNum) = none ∧ intMax < T.fileNum) ∨
    ∃ m ≤ T.fileNum, ∃ result,
      merge fs T.tmpDir (toInt T.fileNum)
        = some (result, fs.write (mergeOut T.tmpDir) (joined T.block 0 m))
      ∧ (∀ j < m, j ∈ A)
      ∧ ((m : Int) = toInt T.fileNum ∧ (result = if (joined T.block 0 m).length = 0 then -1 else 0)
        ∨ m < T.fileNum ∧ m ∉ A ∧ result = m) := by
  obtain ⟨hle, hmax⟩ := toInt_le T.fileNum
  have hfile : ∀ j < T.fileNum, j ∈ A → fs.files (T.tmpBlock j) = some (T.block j) :=
    fun j hj hA => by rw [h j hj, if_pos hA]
  have hnone : ∀ j < T.fileNum, j ∉ A → fs.files (T.tmpBlock j) = none :=
    fun j hj hA => by rw [h j hj, if_neg hA]
  rcases Int.lt_or_le (toInt T.fileNum) 0 with hneg | hpos
  · have hbig : intMax < T.fileNum := by
      by_contra hn
      rw [toInt_of_le (Nat.le_of_not_lt hn)] at hneg
      omega
    by_cases hall : ∀ j ≤ intMax, j ∈ A
    · exact .inl ⟨merge_eq_none T.block hdir fun j hj =>
        ⟨hfile j (by omega) (hall j hj), by omega⟩, hbig⟩
    · push Not at hall
      obtain ⟨m, ⟨hm, hgap⟩, hfirst⟩ := exists_first hall
      have hbefore : ∀ j < m, j ∈ A := fun j hj => by
        by_contra hA
        exact hfirst j hj ⟨by omega, hA⟩
      exact .inr ⟨m, by omega, _, merge_eq_of_gap T.block hdir hm
        (fun j hj => ⟨hfile j (by omega) (hbefore j hj), by omega⟩)
        (hnone _ (by omega) hgap) (by omega), hbefore, .inr ⟨by omega, hgap, rfl⟩⟩
  · obtain ⟨b, hb⟩ := Int.eq_ofNat_of_zero_le hpos
    obtain ⟨m, hm, hfirst⟩ := exists_first (p := fun m => m = b ∨ m ∉ A) ⟨b, .inl rfl⟩
    have hmb : m ≤ b := Nat.le_of_not_lt fun hlt => hfirst b hlt (.inl rfl)
    have hbefore : ∀ j < m, j ∈ A := fun j hj => by
      by_contra hA
      exact hfirst j hj (.inr hA)
    refine .inr ⟨m, by omega, ?_⟩
    by_cases hend : m = b
    · subst hend
      refine ⟨_, ?_, hbefore, .inl ⟨by omega, rfl⟩⟩
      rw [hb]
      exact merge_eq_of_complete T.block hdir (by omega) fun j hj =>
        hfile j (by omega) (hbefore j hj)
    · have hgap : m ∉ A := hm.resolve_left hend
      exact ⟨_, merge_eq_of_gap T.block hdir (by omega)
        (fun j hj => ⟨hfile j (by omega) (hbefore j hj), by omega⟩)
        (hnone _ (by omega) hgap) (by omega), hbefore, .inr ⟨by omega, hgap, rfl⟩⟩

/-! ## One message of the transfer -/

/-- The last part of the name the receiver uses, which its replies carry. -/
theorem exists_name (T : Transfer) : ∃ name, (Split.strings T.recvfile '/').getLast? = some name :=
  ⟨_, List.getLast?_eq_some_getLast (Split.strings_ne_nil T.recvfile_ne_empty '/')⟩

/-- The directory once a block has been written to it. -/
def stored (T : Transfer) (fs : FileSystem) (i : ℕ) : FileSystem :=
  (fs.mkdir (ofString T.tmpDir)).write (T.tmpBlock i) (T.block i)

theorem Holds.stored (h : Holds T fs A) (i : ℕ) : Holds T (stored T fs i) (insert i A) :=
  (h.congr fun _ => rfl : Holds T (fs.mkdir (ofString T.tmpDir)) A).write i

theorem isDir_stored (T : Transfer) (fs : FileSystem) (i : ℕ) :
    isDir (stored T fs i) T.tmpDir = true := by
  rw [isDir, decide_eq_true T.tmpDir_ne_empty, Bool.true_and]
  exact fs.isDir_mkdir_self

variable {monNodeId uuid : String} {now : Int} {i : ℕ}

/-- **A block that is not the last** is stored, and one reply says so. -/
theorem handleFileData_block (hi : i ≠ T.fileNum - 1) :
    ∃ name events, handleFileData monNodeId uuid fs (T.message now i)
        = some (stored T fs i, events)
      ∧ queuedReplies events = [startReply uuid name (T.message now i)]
      ∧ movedBytes events = [] := by
  obtain ⟨name, hname⟩ := exists_name T
  have hend : (T.message now i).isEnd = false := by simpa [Transfer.message] using hi
  refine ⟨name, [.queued (startReply uuid name (T.message now i))]
    ++ if (T.message now i).srcNodeId ≠ monNodeId
      then [.recorded (startReply uuid name (T.message now i))] else [], ?_, ?_, ?_⟩
  · simp only [handleFileData, hend]
    rw [show (T.message now i).fileName = T.recvfile from rfl, hname]
    rfl
  · exact queuedReplies_append_recorded _ _ _
  · exact movedBytes_append_recorded _ _ _

/-- What the end block reaches when all the blocks are there. -/
structure Completes (T : Transfer) (fs' : FileSystem) (events : List RecvEvent) : Prop where
  moved : movedBytes events = [T.content]
  reply : ∃ reply, queuedReplies events = [reply] ∧ reply.Confirms T.uuid
  holds : Holds T fs' ∅
  dest : fs'.files (ofString (savePaths (T.message 0 0)).2)
    = if ofString T.tmpDir <+: ofString (savePaths (T.message 0 0)).2 then none
      else some T.content

/-- What the end block reaches otherwise, with the blocks `A` there. -/
structure Waits (T : Transfer) (A : Finset ℕ) (fs' : FileSystem) (events : List RecvEvent) :
    Prop where
  moved : movedBytes events = []
  reply : ∀ reply ∈ queuedReplies events, reply.state ≠ 5
  holds : Holds T fs' A

theorem saveFileName_length_pos (T : Transfer) : T.saveFileName.length > 0 := by
  rw [Transfer.saveFileName, String.length_append, String.length_append]
  exact Nat.lt_of_lt_of_le Nat.one_pos (Nat.le_trans (Nat.le_add_left _ _) (Nat.le_add_right _ _))

/-- `move` to a path that is not the source's leaves the bytes there. -/
theorem files_move {src dst : String} {content : Bytes}
    (hsrc : fs.files (ofString src) = some content) (hne : ofString dst ≠ ofString src) :
    (move fs src dst).files (ofString dst) = some content := by
  simp [move, hsrc, FileSystem.files_write_of_ne _ _ hne.symm,
    FileSystem.files_remove_of_ne _ hne]

theorem isDir_move (src dst : String) : (move fs src dst).isDir = fs.isDir := by
  rw [move]
  cases fs.files (ofString src) <;> rfl

@[simp] theorem files_makePath (fs : FileSystem) (path : Option String) :
    (makePath fs path).files = fs.files := by
  cases path <;> rfl

theorem isDir_makePath {dir : String} (path : Option String) (hdir : isDir fs dir = true) :
    isDir (makePath fs path) dir = true := by
  rw [isDir, Bool.and_eq_true_iff] at hdir ⊢
  cases path with
  | none => exact hdir
  | some path => exact ⟨hdir.1, by simp [makePath, mkdir, FileSystem.mkdir, hdir.2]⟩

theorem removeAllFiles_eq {dir : String} (hdir : isDir fs dir = true) :
    removeAllFiles fs dir = fs.removeAll (ofString dir) := by
  rw [isDir, Bool.and_eq_true_iff] at hdir
  rw [removeAllFiles, if_pos hdir.2]

/-- **The move of a complete file** to its place, and the end of its directory. -/
theorem moveClearTmp_complete (now : Int) (i : ℕ) (hdir : isDir fs T.tmpDir = true)
    (hout : fs.files (mergeOut T.tmpDir) = some T.content) (reply : FileDataReply)
    (hreply : reply.replyUuid = T.uuid) :
    ∃ fs' reply', moveClearTmp T.content.length fs (T.message now i) (T.tmpDir ++ "/merge.out")
        T.tmpDir reply
        = (fs', [.moved T.content (savePaths (T.message 0 0)).2, .queued reply'], reply')
      ∧ reply'.Confirms T.uuid ∧ Holds T fs' ∅
      ∧ fs'.files (ofString (savePaths (T.message 0 0)).2)
        = if ofString T.tmpDir <+: ofString (savePaths (T.message 0 0)).2 then none
          else some T.content := by
  let made := makePath fs (savePaths (T.message 0 0)).1
  have hbytes : made.files (ofString (T.tmpDir ++ "/merge.out")) = some T.content := by
    rw [files_makePath]
    exact hout
  have hmoved : ∀ src dst, isDir (move made src dst) T.tmpDir = true := fun src dst => by
    rw [isDir, isDir_move, ← isDir, isDir_makePath _ hdir]
  refine ⟨(move made (T.tmpDir ++ "/merge.out") (savePaths (T.message 0 0)).2).removeAll
      (ofString T.tmpDir), { reply with isEnd := true, state := 5 }, ?_, ⟨hreply, rfl, rfl⟩,
      Holds.removeAll, ?_⟩
  · have hsize : (T.content.length : Int) = (T.message now i).fileTotalSize := rfl
    have hpaths : savePaths (T.message now i) = savePaths (T.message 0 0) := rfl
    have hbytes' : ((makePath fs (savePaths (T.message 0 0)).1).files
        (ofString (T.tmpDir ++ "/merge.out"))).getD [] = T.content := by
      rw [hbytes, Option.getD_some]
    rw [← removeAllFiles_eq (hmoved _ _), moveClearTmp, if_pos hsize]
    dsimp only
    rw [if_pos (show (T.message now i).saveFileName.length > 0 from saveFileName_length_pos T),
      hpaths, hbytes']
  · rw [FileSystem.files_removeAll]
    split
    · rfl
    · rename_i hdst
      refine files_move hbytes fun e => hdst ?_
      rw [e, ← mergeOut.eq_def, mergeOut_eq T.tmpDir_ne_empty]
      exact List.prefix_append _ _

/-- A merged file that is not as long as the whole stays where it is, without a reply. -/
theorem moveClearTmp_of_ne {size : Int} (h : size ≠ T.content.length)
    (mergeFileName tmpDir : String)
    (reply : FileDataReply) :
    moveClearTmp size fs (T.message now i) mergeFileName tmpDir reply = (fs, [], reply) :=
  if_neg h

section HandleEnd

variable {merged : FileSystem} {reply : FileDataReply}

theorem handleEnd_of_zero {bytes : Bytes} (hmerge : merge fs T.tmpDir (toInt T.fileNum)
    = some (0, fs.write (mergeOut T.tmpDir) bytes)) :
    handleEnd fs (T.message now i) T.tmpDir reply
      = some (moveClearTmp bytes.length (fs.write (mergeOut T.tmpDir) bytes) (T.message now i)
          (T.tmpDir ++ "/merge.out") T.tmpDir reply) := by
  have hsize : getFileLength (fs.write (mergeOut T.tmpDir) bytes) (T.tmpDir ++ "/merge.out")
      = bytes.length := by
    rw [getFileLength, ← mergeOut.eq_def, FileSystem.files_write_self]
  rw [handleEnd, show (T.message now i).totalBlockNum = T.fileNum from rfl, hmerge]
  simp only [if_true, hsize]

theorem handleEnd_of_pos {fileData : FileData} {dir : String} {m : ℕ} (hm : 0 < m)
    (hmerge : merge fs dir (toInt fileData.totalBlockNum) = some ((m : Int), merged)) :
    handleEnd fs fileData dir reply
      = some (merged, [], { reply with blockSeq := m, isEnd := true, state := 3 }) := by
  rw [handleEnd, hmerge]
  dsimp only
  rw [if_neg (by omega), if_pos (by omega), Int.toNat_natCast]

theorem handleEnd_of_neg {fileData : FileData} {dir : String}
    (hmerge : merge fs dir (toInt fileData.totalBlockNum) = some (-1, merged)) :
    handleEnd fs fileData dir reply
      = some (merged, [.queued { reply with isEnd := true, state := 4 }],
          { reply with isEnd := true, state := 4 }) := by
  rw [handleEnd, hmerge]
  rfl

theorem waits_nil (h : Holds T fs A) : Waits T A fs [] := ⟨rfl, fun _ hr => (nomatch hr), h⟩

/-- **What the end-block branch does**: it completes when all the blocks are there and an `int`
counts them, and waits otherwise; with more blocks it may also not return. -/
theorem handleEnd_cases (now : Int) (i : ℕ) (h : Holds T fs A) (hpos : 0 < T.fileNum)
    (hdir : isDir fs T.tmpDir = true) (hreply : reply.replyUuid = T.uuid) :
    (handleEnd fs (T.message now i) T.tmpDir reply = none ∧ intMax < T.fileNum) ∨
    ∃ fs' events reply', handleEnd fs (T.message now i) T.tmpDir reply
        = some (fs', events, reply')
      ∧ (T.fileNum ≤ intMax ∧ (∀ j < T.fileNum, j ∈ A) ∧ Completes T fs' events
        ∨ (intMax < T.fileNum ∨ ∃ j < T.fileNum, j ∉ A) ∧ Waits T A fs' events) := by
  rcases merge_cases h hdir with ⟨hnone, hbig⟩ | ⟨m, hm, result, hmerge, hbefore, hresult⟩
  · refine .inl ⟨?_, hbig⟩
    rw [handleEnd, show (T.message now i).totalBlockNum = T.fileNum from rfl, hnone]
  right
  have hheld : Holds T (fs.write (mergeOut T.tmpDir) (joined T.block 0 m)) A :=
    h.congr fun i => FileSystem.files_write_of_ne _ _ (T.tmpBlock_ne_mergeOut i)
  -- a merge with result `0` that is not as long as the file
  have hshort : merge fs T.tmpDir (toInt T.fileNum)
        = some (0, fs.write (mergeOut T.tmpDir) (joined T.block 0 m)) → m ≠ T.fileNum →
      handleEnd fs (T.message now i) T.tmpDir reply
        = some (fs.write (mergeOut T.tmpDir) (joined T.block 0 m), [], reply) := by
    intro hzero hne
    rw [handleEnd_of_zero hzero, moveClearTmp_of_ne]
    have := (T.length_joined_eq_iff hm).not.mpr hne
    omega
  rcases hresult with ⟨hend, rfl⟩ | ⟨hlt, hgap, rfl⟩
  · have hcount : m = T.fileNum ∨ intMax < T.fileNum := by
      by_contra! hsmall
      rw [toInt_of_le hsmall.2] at hend
      exact hsmall.1 (by omega)
    by_cases hzero : (joined T.block 0 m).length = 0
    · rw [if_pos hzero] at hmerge
      have hne : m ≠ T.fileNum := by
        rintro rfl
        rw [T.joined_all] at hzero
        exact T.content_ne_nil hpos (List.length_eq_zero_iff.mp hzero)
      refine ⟨_, _, _, handleEnd_of_neg hmerge,
        .inr ⟨.inl (hcount.resolve_left hne), rfl, ?_, hheld⟩⟩
      intro r hr
      obtain rfl := List.mem_singleton.mp hr
      simp
    · rw [if_neg hzero] at hmerge
      by_cases hall : m = T.fileNum
      · subst hall
        rw [T.joined_all] at hmerge
        obtain ⟨fs', reply', hmove, hconfirms, hholds, hdest⟩ :=
          moveClearTmp_complete now i
            (show isDir (fs.write (mergeOut T.tmpDir) T.content) T.tmpDir = true from hdir)
            (FileSystem.files_write_self _ _) reply hreply
        exact ⟨fs', _, reply', (handleEnd_of_zero hmerge).trans (congrArg some hmove),
          .inl ⟨toInt_eq_iff.mp hend.symm, hbefore,
            ⟨rfl, ⟨reply', rfl, hconfirms⟩, hholds, hdest⟩⟩⟩
      · exact ⟨_, _, _, hshort hmerge hall,
          .inr ⟨.inl (hcount.resolve_left hall), waits_nil hheld⟩⟩
  · rcases Nat.eq_zero_or_pos m with rfl | hmpos
    · exact ⟨_, _, _, hshort hmerge (Nat.ne_of_lt hlt), .inr ⟨.inr ⟨0, hlt, hgap⟩, waits_nil hheld⟩⟩
    · exact ⟨_, _, _, handleEnd_of_pos hmpos hmerge, .inr ⟨.inr ⟨m, hlt, hgap⟩, waits_nil hheld⟩⟩

end HandleEnd

/-- **The end block** is stored and then tried. -/
theorem handleFileData_end (h : Holds T (stored T fs i) A) (hi : i + 1 = T.fileNum) :
    (handleFileData monNodeId uuid fs (T.message now i) = none ∧ intMax < T.fileNum) ∨
    ∃ fs' events, handleFileData monNodeId uuid fs (T.message now i) = some (fs', events)
      ∧ (T.fileNum ≤ intMax ∧ (∀ j < T.fileNum, j ∈ A) ∧ Completes T fs' events
        ∨ (intMax < T.fileNum ∨ ∃ j < T.fileNum, j ∉ A) ∧ Waits T A fs' events) := by
  obtain ⟨name, hname⟩ := exists_name T
  have hend : (T.message now i).isEnd = true := by
    simp only [Transfer.message, beq_iff_eq]
    omega
  have heq : handleFileData monNodeId uuid fs (T.message now i)
      = match handleEnd (stored T fs i) (T.message now i) T.tmpDir
          (startReply uuid name (T.message now i)) with
        | none => none
        | some (fs', events, reply') => some (fs', events
            ++ if (T.message now i).srcNodeId ≠ monNodeId then [.recorded reply'] else []) := by
    simp only [handleFileData, hend, if_true]
    rw [show (T.message now i).fileName = T.recvfile from rfl, hname]
    rfl
  rw [heq]
  have hreply : (startReply uuid name (T.message now i)).replyUuid = T.uuid := rfl
  rcases handleEnd_cases now i h (by omega) (isDir_stored T fs i) hreply with
    ⟨hnone, hbig⟩ | ⟨fs', events, reply', hsome, hcases⟩
  · exact .inl ⟨by rw [hnone], hbig⟩
  · refine .inr ⟨fs', _, by rw [hsome], ?_⟩
    rcases hcases with ⟨hcount, hall, hc⟩ | ⟨hwhy, hw⟩
    · refine .inl ⟨hcount, hall, ⟨?_, ?_, hc.holds, hc.dest⟩⟩
      · rw [movedBytes_append_recorded, hc.moved]
      · rw [queuedReplies_append_recorded]
        exact hc.reply
    · refine .inr ⟨hwhy, ⟨?_, ?_, hw.holds⟩⟩
      · rw [movedBytes_append_recorded, hw.moved]
      · rw [queuedReplies_append_recorded]
        exact hw.reply

/-! ## Any message -/

section AnyMessage

variable {d : FileData} {fs' : FileSystem} {events : List RecvEvent}

/-- **What a handled message leaves**, whatever it is: its block file, and for an end block the
merged file, in the directory or moved out of it. -/
theorem handleFileData_cases
    (h : handleFileData monNodeId uuid fs d = some (fs', events)) :
    let tmpDir := d.fileName ++ "_tmp"
    let written := writeFile (mkdir fs tmpDir) (tmpDir ++ "/" ++ d.blockSeq.repr) d.blockContent
    (∃ name, fs' = written ∧ queuedReplies events = [startReply uuid name d])
    ∨ ∃ result merged, merge written tmpDir (toInt d.totalBlockNum) = some (result, merged)
      ∧ (fs' = merged ∨ fs' = removeAllFiles (move (makePath merged (savePaths d).1)
          (tmpDir ++ "/merge.out") (savePaths d).2) tmpDir)
      ∧ ∀ reply ∈ queuedReplies events, reply.uuid = uuid ∧ reply.replyUuid = d.uuid
          ∧ reply.blockSeq = d.blockSeq ∧ reply.isEnd = true := by
  simp only [handleFileData] at h
  split at h
  · simp at h
  rename_i name _
  split at h
  · simp at h
  rename_i fs₁ events₁ reply₁ hhandled
  obtain ⟨rfl, rfl⟩ := Prod.mk.inj (Option.some.inj h)
  simp only [queuedReplies_append_recorded]
  split at hhandled
  · right
    simp only [handleEnd] at hhandled
    split at hhandled
    · simp at hhandled
    rename_i result merged hmerge
    refine ⟨result, merged, hmerge, ?_⟩
    have hreply : ∀ state : Int, ∀ reply ∈ [{ startReply uuid name d with
        isEnd := true, state := state }], reply.uuid = uuid ∧ reply.replyUuid = d.uuid
          ∧ reply.blockSeq = d.blockSeq ∧ reply.isEnd = true := by
      intro state reply hr
      obtain rfl := List.mem_singleton.mp hr
      exact ⟨rfl, rfl, rfl, rfl⟩
    split at hhandled
    · simp only [moveClearTmp, Option.some.injEq] at hhandled
      split at hhandled
      · split at hhandled
        · obtain ⟨rfl, rfl, -⟩ := by simpa only [Prod.mk.injEq] using hhandled
          exact ⟨.inr rfl, hreply 5⟩
        · obtain ⟨rfl, rfl, -⟩ := by simpa only [Prod.mk.injEq] using hhandled
          exact ⟨.inl rfl, hreply 5⟩
      · obtain ⟨rfl, rfl, -⟩ := by simpa only [Prod.mk.injEq] using hhandled
        exact ⟨.inl rfl, fun _ hr => (nomatch hr)⟩
    split at hhandled
    · obtain ⟨rfl, rfl, -⟩ := by
        simpa only [Option.some.injEq, Prod.mk.injEq] using hhandled
      exact ⟨.inl rfl, fun _ hr => (nomatch hr)⟩
    · obtain ⟨rfl, rfl, -⟩ := by
        simpa only [Option.some.injEq, Prod.mk.injEq] using hhandled
      exact ⟨.inl rfl, hreply 4⟩
  · left
    obtain ⟨rfl, rfl, -⟩ := by
      simpa only [Option.some.injEq, Prod.mk.injEq] using hhandled
    exact ⟨name, rfl, rfl⟩

/-- **Replies answer the message that was handled**, and only end blocks get state `5`. -/
theorem reply_of_handleFileData (h : handleFileData monNodeId uuid fs d = some (fs', events)) :
    ∀ reply ∈ queuedReplies events, reply.uuid = uuid ∧ reply.replyUuid = d.uuid
      ∧ reply.blockSeq = d.blockSeq ∧ (reply.state = 5 → reply.isEnd = true) := by
  intro reply hr
  rcases handleFileData_cases h with ⟨name, -, hq⟩ | ⟨_, _, -, -, hreply⟩
  · rw [hq] at hr
    obtain rfl := List.mem_singleton.mp hr
    exact ⟨rfl, rfl, rfl, by simp [startReply]⟩
  · obtain ⟨h1, h2, h3, h4⟩ := hreply reply hr
    exact ⟨h1, h2, h3, fun _ => h4⟩

/-- The message is one of another transfer that uses the same directory, or is moved into it. -/
def Interferes (T : Transfer) (d : FileData) : Prop :=
  ofString (d.fileName ++ "_tmp") = ofString T.tmpDir
    ∨ ∃ i, ofString (savePaths d).2 = T.tmpBlock i

/-- **A message that does not interfere** changes no block of the transfer, but may remove it. -/
theorem files_of_handleFileData (h : handleFileData monNodeId uuid fs d = some (fs', events))
    (hd : ¬ Interferes T d) (i : ℕ) :
    fs'.files (T.tmpBlock i) = fs.files (T.tmpBlock i) ∨ fs'.files (T.tmpBlock i) = none := by
  have hne : d.fileName ++ "_tmp" ≠ "" := by simp
  have hdir : ofString (d.fileName ++ "_tmp") ≠ ofString T.tmpDir := fun e => hd (.inl e)
  have hblock : T.tmpBlock i ≠ ofString (d.fileName ++ "_tmp" ++ "/" ++ d.blockSeq.repr) := by
    rw [ofString_append_name hne (isName_repr _), T.tmpBlock_eq]
    intro e
    exact hdir (List.append_inj_left' e rfl).symm
  have hout : T.tmpBlock i ≠ mergeOut (d.fileName ++ "_tmp") := by
    rw [mergeOut_eq hne, T.tmpBlock_eq]
    intro e
    exact hdir (List.append_inj_left' e rfl).symm
  have hdst : T.tmpBlock i ≠ ofString (savePaths d).2 := fun e => hd (.inr ⟨i, e.symm⟩)
  have hwritten : (writeFile (mkdir fs (d.fileName ++ "_tmp"))
      (d.fileName ++ "_tmp" ++ "/" ++ d.blockSeq.repr) d.blockContent).files (T.tmpBlock i)
        = fs.files (T.tmpBlock i) := by
    rw [writeFile, FileSystem.files_write_of_ne _ _ hblock, mkdir, FileSystem.files_mkdir]
  rcases handleFileData_cases h with ⟨-, rfl, -⟩ | ⟨_, merged, hmerge, hfs', -⟩
  · exact .inl hwritten
  have hmerged := (files_of_merge hout hmerge).trans hwritten
  rcases hfs' with rfl | rfl
  · exact .inl hmerged
  · rcases files_removeAllFiles (move (makePath merged (savePaths d).1)
        (d.fileName ++ "_tmp" ++ "/merge.out") (savePaths d).2) (d.fileName ++ "_tmp")
        (T.tmpBlock i) with hrm | hrm
    · rcases files_move_of_ne (makePath merged (savePaths d).1)
          (d.fileName ++ "_tmp" ++ "/merge.out") hdst with hmv | hmv
      · exact .inl (by rw [hrm, hmv, files_makePath, hmerged])
      · exact .inr (hrm.trans hmv)
    · exact .inr hrm

end AnyMessage

end FileTopic

end Sadip

import Sadip.FileTopic.Message
import Sadip.FileTopic.Names

/-!
# FileTopic/SendOneBlock — the messages of one call of `send_file`, `node/src/FileTopic.cpp`

`send_file` has the file split and goes through the block files; `sendOneBlock` puts one of them,
again and again, until a reply with its number comes out of the reply queue or the attempts are used
up.  A `Schedule` says what every attempt meets with.  `Disciplined` is what the messages of one
call have to be, and `sendFile_disciplined_iff` says when they are.

The call here is the one of `FileTopic/Protocol`, with the other side left open: its messages are
those of the `Transfer` there (`message_eq`).
-/

namespace Sadip

namespace FileTopic

open FileSplit FsPath Pieces

/-! ## The call -/

/-- What a call of `send_file_data` comes to. -/
inductive PutOutcome where
  | ok
  /-- it fails, and the message is not out -/
  | failsBefore
  /-- the message is out, and the statistics behind it fail -/
  | failsAfter
  deriving DecidableEq

/-- What an attempt at a block meets with. -/
structure Attempt where
  put : PutOutcome
  /-- the looks at `reply_queue_` while the time runs, each with the replies that have come since
  the one before -/
  looks : List (List FileDataReply)

/-- What a call meets with: every attempt at every block, and the time at which a block is begun. -/
structure Schedule where
  attempt : ℕ → ℕ → Attempt
  now : ℕ → Int

/-- What a call does that others see. -/
inductive SendEvent where
  /-- the message is put on the topic -/
  | put (fileData : FileData)
  /-- the reply is taken out of `reply_queue_` -/
  | took (reply : FileDataReply)

/-- The settings that the call reads; both are `int`s. -/
structure SendSettings where
  fileSplitSize : Int
  fileMaxReTry : ℕ
  fileMaxReTry_le : fileMaxReTry ≤ intMax

/-- The arguments of `send_file`, and the node that it runs on. -/
structure SendCall where
  nodeId : String
  fileName : String
  srcNodeId : String
  uuid : String
  toNodeId : String
  subDirs : String

namespace SendCall

variable (call : SendCall)

def sendfile : String := subreplaceDot call.fileName

def subFileName : String := subreplaceDot call.subDirs

/-- `sendfile_tmp`. -/
def tmp : String := sendfileTmp call.nodeId call.sendfile

def recvfile : String := "recv/" ++ call.srcNodeId ++ "/" ++ call.toNodeId ++ "/" ++ call.sendfile

def saveFileName : String := call.nodeId ++ "/" ++ call.subFileName

/-- `fileData`, as `sendOneBlock` fills it in. -/
def message (now : Int) (nCount fileSize fileNum : ℕ) (block : Bytes) : FileData where
  uuid := call.uuid
  srcNodeId := call.nodeId
  toNodeId := call.toNodeId
  fileName := call.recvfile
  saveFileName := call.saveFileName
  subDir := call.subDirs
  isEnd := nCount == fileNum - 1
  fileTotalSize := fileSize
  fModifyTime := now
  blockSeq := nCount
  totalBlockNum := fileNum
  blockContent := block
  blockContentLen := block.length
  transferId := "."
  md5 := "."

end SendCall

/-- The wait for a reply: the replies taken, and whether the last of them has the number. -/
def waitReply (nCount : ℕ) : List FileDataReply → List (List FileDataReply) →
    List FileDataReply × Bool
  | _, [] => ([], false)
  | queue, arrived :: looks =>
      match queue ++ arrived with
      | [] => waitReply nCount [] looks
      | reply :: rest =>
          if reply.blockSeq = nCount then ([reply], true)
          else (reply :: (waitReply nCount rest looks).1, (waitReply nCount rest looks).2)

/-- One round of the retry loop, begun with an empty `reply_queue_`: what it does, and whether the
block was answered. -/
def sendAttempt (a : Attempt) (fileData : FileData) : List SendEvent × Bool :=
  match a.put with
  | .ok =>
      (.put fileData :: (waitReply fileData.blockSeq [] a.looks).1.map .took,
        (waitReply fileData.blockSeq [] a.looks).2)
  | .failsBefore => ([], false)
  | .failsAfter => ([.put fileData], false)

/-- The retry loop; `none` when its `int` counter overflows. -/
def retryLoop (attempt : ℕ → Attempt) (fileMaxReTry : ℕ) (fileData : FileData) (retryCount : ℕ) :
    Option (List SendEvent × Bool) :=
  if retryCount ≤ fileMaxReTry then
    if (sendAttempt (attempt retryCount) fileData).2 then
      some (sendAttempt (attempt retryCount) fileData)
    else if retryCount < intMax then
      (retryLoop attempt fileMaxReTry fileData (retryCount + 1)).map fun r =>
        ((sendAttempt (attempt retryCount) fileData).1 ++ r.1, r.2)
    else none
  else some ([], false)
termination_by fileMaxReTry + 1 - retryCount

/-- `sendOneBlock`: what it does, `retFlag` and the value returned. -/
def sendOneBlock (o : Schedule) (cfg : SendSettings) (call : SendCall) (fs : FileSystem)
    (fileSize fileNum nCount : ℕ) : Option (List SendEvent × Bool × Bool) :=
  match fs.files (blockPath call.tmp nCount) with
  | none => some ([], false, false)
  | some block =>
      let size := block.length % 4294967296
      let fileData := call.message (o.now nCount) nCount fileSize fileNum (block.take size)
      if size = 0 then some ([], true, true)
      else
        (retryLoop (o.attempt nCount) cfg.fileMaxReTry fileData 0).map fun r =>
          (r.1, if r.2 then (fileData.isEnd, fileData.isEnd) else (true, false))

/-- The loop of `send_file` over the blocks. -/
def sendLoop (o : Schedule) (cfg : SendSettings) (call : SendCall) (fs : FileSystem)
    (fileSize fileNum nCount : ℕ) : Option (List SendEvent × Bool) :=
  if nCount < fileNum then
    match sendOneBlock o cfg call fs fileSize fileNum nCount with
    | none => none
    | some (events, retFlag, retVal) =>
        if retFlag then some (events, retVal)
        else (sendLoop o cfg call fs fileSize fileNum (nCount + 1)).map
          fun r => (events ++ r.1, r.2)
  else some ([], false)
termination_by fileNum - nCount

/-- `send_file`; `none` when it has no defined result.  A block size that is not positive holds no
byte. -/
def sendFile (o : Schedule) (cfg : SendSettings) (call : SendCall) (fs : FileSystem) :
    Option (List SendEvent × Bool) :=
  match fs.files (ofString call.sendfile) with
  | none => some ([], false)
  | some content =>
      match FileSplit.split (mkdir fs call.tmp) call.sendfile cfg.fileSplitSize.toNat call.tmp,
          blockCount content.length cfg.fileSplitSize with
      | some fs', some fileNum => sendLoop o cfg call fs' content.length fileNum 0
      | _, _ => none

/-! ## What is asked of it -/

/-- The messages put, in order. -/
def puts : List SendEvent → List FileData
  | [] => []
  | .put d :: events => d :: puts events
  | .took _ :: events => puts events

/-- The replies that come to the front of the queue while the time runs, one a look. -/
def polled : List FileDataReply → List (List FileDataReply) → List FileDataReply
  | _, [] => []
  | queue, arrived :: looks =>
      match queue ++ arrived with
      | [] => polled [] looks
      | reply :: rest => reply :: polled rest looks

/-- The attempt gets the message out, and a reply with the number of the block back in time. -/
def Attempt.Answers (a : Attempt) (nCount : ℕ) : Prop :=
  a.put = .ok ∧ ∃ reply ∈ polled [] a.looks, reply.blockSeq = nCount

/-- The block is answered in one of the attempts that the limit allows. -/
def Answered (o : Schedule) (cfg : SendSettings) (i : ℕ) : Prop :=
  ∃ k ≤ cfg.fileMaxReTry, (o.attempt i k).Answers i

/-- **The discipline of the sender**, for a file of these bytes in blocks of `B`. -/
structure Disciplined (o : Schedule) (cfg : SendSettings) (call : SendCall) (content : Bytes)
    (B fileNum : ℕ) (run : List SendEvent × Bool) : Prop where
  ordered : (puts run.1).Pairwise fun d d' => d.blockSeq ≤ d'.blockSeq
  bounded : ∀ i, (puts run.1).countP (fun d => d.blockSeq = i) ≤ cfg.fileMaxReTry + 1
  labelled : ∀ d ∈ puts run.1, d.uuid = call.uuid ∧ d.totalBlockNum = fileNum ∧
    d.blockSeq < fileNum ∧ (d.isEnd = true ↔ d.blockSeq = fileNum - 1) ∧
      d.blockContent = piece B content d.blockSeq
  /-- a block is put only after the one before it was put, and then answered -/
  answered : ∀ before d after i, run.1 = before ++ .put d :: after → d.blockSeq = i + 1 →
    ∃ d' reply, [.put d', .took reply].Sublist before ∧ d'.blockSeq = i ∧ reply.blockSeq = i
  /-- a block without an answer is the last, and the value is `false` -/
  stops : ∀ i < fileNum, ¬ Answered o cfg i →
    run.2 = false ∧ ∀ d ∈ puts run.1, d.blockSeq ≤ i

/-! ## One block -/

variable {o : Schedule} {cfg : SendSettings} {call : SendCall} {fs : FileSystem} {nCount : ℕ}
variable {d : FileData} {a : Attempt} {run : List SendEvent × Bool}

@[simp] theorem puts_append : ∀ es es' : List SendEvent, puts (es ++ es') = puts es ++ puts es'
  | [], _ => rfl
  | .put d :: es, es' => congrArg (d :: ·) (puts_append es es')
  | .took _ :: es, es' => puts_append es es'

@[simp] theorem puts_took : ∀ replies : List FileDataReply, puts (replies.map .took) = []
  | [] => rfl
  | _ :: replies => puts_took replies

/-- The wait is over when the reply comes to the front. -/
theorem waitReply_snd_iff : ∀ (looks : List (List FileDataReply)) (queue : List FileDataReply),
    (waitReply nCount queue looks).2 = true ↔ ∃ reply ∈ polled queue looks, reply.blockSeq = nCount
  | [], queue => by simp [waitReply, polled]
  | arrived :: looks, queue => by
      rw [waitReply, polled]
      rcases queue ++ arrived with - | ⟨reply, rest⟩
      · exact waitReply_snd_iff looks []
      · dsimp only
        split
        · simp [*]
        · rw [waitReply_snd_iff looks rest]
          simp [*]

/-- …and that is the last reply taken. -/
theorem mem_waitReply : ∀ (looks : List (List FileDataReply)) (queue : List FileDataReply),
    (waitReply nCount queue looks).2 = true →
      ∃ reply ∈ (waitReply nCount queue looks).1, reply.blockSeq = nCount
  | [], queue => by simp [waitReply]
  | arrived :: looks, queue => by
      rw [waitReply]
      rcases queue ++ arrived with - | ⟨reply, rest⟩
      · exact mem_waitReply looks []
      · dsimp only
        split
        · exact fun _ => ⟨reply, List.mem_singleton_self reply, ‹_›⟩
        · intro h
          obtain ⟨r, hr, hseq⟩ := mem_waitReply looks rest h
          exact ⟨r, List.mem_cons_of_mem reply hr, hseq⟩

theorem sendAttempt_snd_iff : (sendAttempt a d).2 = true ↔ a.Answers d.blockSeq := by
  rw [sendAttempt, Attempt.Answers]
  rcases a.put <;> simp [waitReply_snd_iff]

/-- What the events of an attempt, or of several, at one message are. -/
structure Tries (d : FileData) (n : ℕ) (r : List SendEvent × Bool) : Prop where
  same : ∀ d' ∈ puts r.1, d' = d
  length_le : (puts r.1).length ≤ n
  took : r.2 = true → ∃ reply, [.put d, .took reply].Sublist r.1 ∧ reply.blockSeq = d.blockSeq

theorem tries_sendAttempt (a : Attempt) (d : FileData) : Tries d 1 (sendAttempt a d) := by
  rw [sendAttempt]
  rcases a.put
  · refine ⟨fun d' hd' => ?_, ?_, fun h => ?_⟩
    · simpa [puts] using hd'
    · simp [puts]
    · obtain ⟨reply, hreply, hseq⟩ := mem_waitReply a.looks [] h
      exact ⟨reply, (List.singleton_sublist.mpr (List.mem_map_of_mem hreply)).cons_cons _, hseq⟩
  · exact ⟨fun d' hd' => absurd hd' List.not_mem_nil, Nat.zero_le 1, fun h => absurd h (by simp)⟩
  · exact ⟨fun d' hd' => List.mem_singleton.mp hd', le_rfl, fun h => absurd h (by simp)⟩

theorem Tries.mono {n m : ℕ} {r : List SendEvent × Bool} (h : Tries d n r) (hnm : n ≤ m) :
    Tries d m r :=
  ⟨h.same, h.length_le.trans hnm, h.took⟩

/-- An attempt that was not answered, and those behind it. -/
theorem Tries.append {n m : ℕ} {r r' : List SendEvent × Bool} (h : Tries d n r)
    (h' : Tries d m r') :
    Tries d (n + m) (r.1 ++ r'.1, r'.2) where
  same d' hd' := by
    rw [puts_append, List.mem_append] at hd'
    exact hd'.elim (h.same d') (h'.same d')
  length_le := by
    rw [puts_append, List.length_append]
    exact Nat.add_le_add h.length_le h'.length_le
  took hfound := by
    obtain ⟨reply, hsub, hseq⟩ := h'.took hfound
    exact ⟨reply, hsub.trans (List.sublist_append_right _ _), hseq⟩

variable {attempt : ℕ → Attempt} {R : ℕ}

/-- One round of the loop that is not answered. -/
theorem retryLoop_step {k : ℕ} (hk : k ≤ R) (h : ¬ (attempt k).Answers d.blockSeq) :
    retryLoop attempt R d k = if k < intMax then
      (retryLoop attempt R d (k + 1)).map fun r => ((sendAttempt (attempt k) d).1 ++ r.1, r.2)
      else none := by
  rw [retryLoop, if_pos hk, if_neg (sendAttempt_snd_iff.not.mpr h)]

/-- **The loop ends with the first attempt that is answered**, -/
theorem retryLoop_of_answers (hR : R ≤ intMax) :
    ∀ m k : ℕ, k + m = R + 1 → (∃ j, k ≤ j ∧ j ≤ R ∧ (attempt j).Answers d.blockSeq) →
      ∃ r, retryLoop attempt R d k = some r ∧ r.2 = true ∧ Tries d m r
  | 0, k, hk, ⟨j, hkj, hj, _⟩ => absurd hkj (by omega)
  | m + 1, k, hk, ⟨j, hkj, hj, hans⟩ => by
      by_cases hnow : (attempt k).Answers d.blockSeq
      · refine ⟨_, ?_, sendAttempt_snd_iff.mpr hnow, (tries_sendAttempt _ d).mono (by omega)⟩
        rw [retryLoop, if_pos (by omega), if_pos (sendAttempt_snd_iff.mpr hnow)]
      · have hne : j ≠ k := fun h => hnow (h ▸ hans)
        obtain ⟨r, hrun, hfound, htries⟩ :=
          retryLoop_of_answers hR m (k + 1) (by omega) ⟨j, by omega, hj, hans⟩
        refine ⟨((sendAttempt (attempt k) d).1 ++ r.1, r.2), ?_, hfound, ?_⟩
        · rw [retryLoop_step (by omega) hnow, if_pos (by omega), hrun]
          rfl
        · exact ((tries_sendAttempt (attempt k) d).append htries).mono (Nat.add_comm 1 m).le

/-- …or behind the last one, when none is and the counter can get there; -/
theorem retryLoop_of_not (hR : R < intMax) :
    ∀ m k : ℕ, k + m = R + 1 → (∀ j, k ≤ j → j ≤ R → ¬ (attempt j).Answers d.blockSeq) →
      ∃ r, retryLoop attempt R d k = some r ∧ r.2 = false ∧ Tries d m r
  | 0, k, hk, _ => by
      refine ⟨([], false), ?_, rfl, ⟨fun d' hd' => absurd hd' List.not_mem_nil, le_rfl,
        fun h => absurd h (by simp)⟩⟩
      rw [retryLoop, if_neg (by omega)]
  | m + 1, k, hk, hnone => by
      obtain ⟨r, hrun, hfound, htries⟩ := retryLoop_of_not hR m (k + 1) (by omega)
        fun j hkj => hnone j (by omega)
      refine ⟨((sendAttempt (attempt k) d).1 ++ r.1, r.2), ?_, hfound, ?_⟩
      · rw [retryLoop_step (by omega) (hnone k le_rfl (by omega)), if_pos (by omega), hrun]
        rfl
      · exact ((tries_sendAttempt (attempt k) d).append htries).mono (Nat.add_comm 1 m).le

/-- …and it cannot when the limit is `INT_MAX`. -/
theorem retryLoop_eq_none :
    ∀ m k : ℕ, k + m = intMax → (∀ j, k ≤ j → j ≤ intMax → ¬ (attempt j).Answers d.blockSeq) →
      retryLoop attempt intMax d k = none
  | 0, k, hk, hnone => by
      rw [retryLoop_step (by omega) (hnone k le_rfl (by omega)), if_neg (by omega)]
  | m + 1, k, hk, hnone => by
      rw [retryLoop_step (by omega) (hnone k le_rfl (by omega)), if_pos (by omega),
        retryLoop_eq_none m (k + 1) (by omega) fun j hkj => hnone j (by omega)]
      rfl

/-! ## The loop over the blocks -/

/-- The block files that the loop finds, and what of them it can count. -/
structure Ready (call : SendCall) (content : Bytes) (B fileNum : ℕ) (fs : FileSystem) : Prop where
  pos : 0 < B
  le : B ≤ intMax
  count : fileNum = pieceCount B content.length
  block : ∀ i < fileNum, fs.files (blockPath call.tmp i) = some (piece B content i)

variable {content : Bytes} {B fileNum : ℕ}

/-- The message that block `nCount` is put in. -/
def blockMessage (o : Schedule) (call : SendCall) (content : Bytes) (B fileNum nCount : ℕ) :
    FileData :=
  call.message (o.now nCount) nCount content.length fileNum (piece B content nCount)

/-- **One block** of a file that was split. -/
theorem sendOneBlock_eq (h : Ready call content B fileNum fs) (hn : nCount < fileNum) :
    sendOneBlock o cfg call fs content.length fileNum nCount =
      (retryLoop (o.attempt nCount) cfg.fileMaxReTry (blockMessage o call content B fileNum nCount)
        0).map fun r => (r.1, if r.2 then (nCount == fileNum - 1, nCount == fileNum - 1)
          else (true, false)) := by
  have hle : (piece B content nCount).length ≤ B := length_piece_le
  have hpos : 0 < (piece B content nCount).length :=
    List.length_pos_of_ne_nil (piece_ne_nil h.pos (h.count ▸ hn))
  have hsize : (piece B content nCount).length % 4294967296 = (piece B content nCount).length := by
    have hB := h.le
    rw [intMax] at hB
    exact Nat.mod_eq_of_lt (by omega)
  rw [sendOneBlock, h.block nCount hn]
  simp only [hsize, List.take_length]
  rw [if_neg (by omega)]
  rfl

/-- A block that is answered: the loop over the blocks ends with it if it is the last. -/
theorem sendOneBlock_of_answered (h : Ready call content B fileNum fs) (hn : nCount < fileNum)
    (hans : Answered o cfg nCount) :
    ∃ events, sendOneBlock o cfg call fs content.length fileNum nCount =
        some (events, nCount == fileNum - 1, nCount == fileNum - 1) ∧
      Tries (blockMessage o call content B fileNum nCount) (cfg.fileMaxReTry + 1)
        (events, true) := by
  obtain ⟨k, hk, hans⟩ := hans
  obtain ⟨⟨events, found⟩, hrun, rfl, htries⟩ :
      ∃ r, retryLoop (o.attempt nCount) cfg.fileMaxReTry
        (blockMessage o call content B fileNum nCount) 0 = some r ∧ r.2 = true ∧
          Tries (blockMessage o call content B fileNum nCount) (cfg.fileMaxReTry + 1) r :=
    retryLoop_of_answers cfg.fileMaxReTry_le _ 0 (Nat.zero_add _) ⟨k, Nat.zero_le k, hk, hans⟩
  refine ⟨events, ?_, htries⟩
  rw [sendOneBlock_eq h hn, hrun]
  rfl

/-- A block that is not ends it, with `false`; -/
theorem sendOneBlock_of_not (h : Ready call content B fileNum fs) (hn : nCount < fileNum)
    (hnot : ¬ Answered o cfg nCount) (hlimit : cfg.fileMaxReTry < intMax) :
    ∃ events, sendOneBlock o cfg call fs content.length fileNum nCount =
      some (events, true, false) ∧
      Tries (blockMessage o call content B fileNum nCount) (cfg.fileMaxReTry + 1)
        (events, false) := by
  obtain ⟨⟨events, found⟩, hrun, rfl, htries⟩ :
      ∃ r, retryLoop (o.attempt nCount) cfg.fileMaxReTry
        (blockMessage o call content B fileNum nCount) 0 = some r ∧ r.2 = false ∧
          Tries (blockMessage o call content B fileNum nCount) (cfg.fileMaxReTry + 1) r :=
    retryLoop_of_not hlimit _ 0 (Nat.zero_add _) fun j _ hj hans => hnot ⟨j, hj, hans⟩
  refine ⟨events, ?_, htries⟩
  rw [sendOneBlock_eq h hn, hrun]
  rfl

/-- …or never. -/
theorem sendOneBlock_eq_none (h : Ready call content B fileNum fs) (hn : nCount < fileNum)
    (hnot : ¬ Answered o cfg nCount) (hlimit : cfg.fileMaxReTry = intMax) :
    sendOneBlock o cfg call fs content.length fileNum nCount = none := by
  have hrun : retryLoop (o.attempt nCount) intMax (blockMessage o call content B fileNum nCount) 0 =
      none :=
    retryLoop_eq_none _ 0 (Nat.zero_add _) fun j _ hj hans => hnot ⟨j, hlimit ▸ hj, hans⟩
  rw [sendOneBlock_eq h hn, hlimit, hrun]
  rfl

/-- What the loop does from block `nCount` on, `Disciplined` with that block for the first. -/
structure DisciplinedFrom (o : Schedule) (cfg : SendSettings) (call : SendCall) (content : Bytes)
    (B fileNum nCount : ℕ) (run : List SendEvent × Bool) : Prop where
  ordered : (puts run.1).Pairwise fun d d' => d.blockSeq ≤ d'.blockSeq
  bounded : ∀ i, (puts run.1).countP (fun d => d.blockSeq = i) ≤ cfg.fileMaxReTry + 1
  message : ∀ d ∈ puts run.1, ∃ i, nCount ≤ i ∧ i < fileNum ∧
    d = blockMessage o call content B fileNum i
  answered : ∀ before d after i, nCount ≤ i → run.1 = before ++ .put d :: after →
    d.blockSeq = i + 1 →
    ∃ d' reply, [.put d', .took reply].Sublist before ∧ d'.blockSeq = i ∧ reply.blockSeq = i
  stops : ∀ i, nCount ≤ i → i < fileNum → ¬ Answered o cfg i →
    run.2 = false ∧ ∀ d ∈ puts run.1, d.blockSeq ≤ i

theorem disciplinedFrom_end : DisciplinedFrom o cfg call content B fileNum fileNum ([], false) where
  ordered := .nil
  bounded _ := Nat.zero_le _
  message _ hd := absurd hd List.not_mem_nil
  answered before _ _ _ _ h := by simp at h
  stops i hi hi' := absurd hi (not_le_of_gt hi')

/-- The run ends with this block: it was the last, or was not answered. -/
theorem disciplinedFrom_last {events : List SendEvent} {found result : Bool}
    (hn : nCount < fileNum)
    (h : Tries (blockMessage o call content B fileNum nCount) (cfg.fileMaxReTry + 1)
      (events, found))
    (hresult : Answered o cfg nCount ∧ nCount + 1 = fileNum ∨ result = false) :
    DisciplinedFrom o cfg call content B fileNum nCount (events, result) := by
  have hseq : ∀ d ∈ puts events, d.blockSeq = nCount := fun d hd => by rw [h.same d hd]; rfl
  refine ⟨List.pairwise_of_forall_mem_list fun d hd d' hd' => ?_, fun i => ?_, fun d hd => ?_,
    fun before d after i hi hev hd => ?_, fun i hi hi' hnot => ⟨?_, fun d hd => ?_⟩⟩
  · rw [hseq d hd, hseq d' hd']
  · exact List.countP_le_length.trans h.length_le
  · exact ⟨nCount, le_rfl, hn, h.same d hd⟩
  · have hmem : d ∈ puts events := by
      rw [show events = before ++ .put d :: after from hev]
      simp [puts]
    have := hseq d hmem
    omega
  · rcases hresult with ⟨hans, hlast⟩ | hfalse
    · obtain rfl : i = nCount := by omega
      exact absurd hans hnot
    · exact hfalse
  · rw [hseq d hd]
    exact hi

/-- The block is answered, and the loop goes on. -/
theorem disciplinedFrom_cons {events : List SendEvent} {run : List SendEvent × Bool}
    (hn : nCount < fileNum) (hans : Answered o cfg nCount)
    (h : Tries (blockMessage o call content B fileNum nCount) (cfg.fileMaxReTry + 1) (events, true))
    (hrest : DisciplinedFrom o cfg call content B fileNum (nCount + 1) run) :
    DisciplinedFrom o cfg call content B fileNum nCount (events ++ run.1, run.2) := by
  have hseq : ∀ d ∈ puts events, d.blockSeq = nCount := fun d hd => by rw [h.same d hd]; rfl
  have hseq' : ∀ d ∈ puts run.1, nCount < d.blockSeq := fun d hd => by
    obtain ⟨i, hi, -, rfl⟩ := hrest.message d hd
    exact hi
  refine ⟨?_, fun i => ?_, fun d hd => ?_, fun before d after i hi hev hd => ?_,
    fun i hi hi' hnot => ?_⟩
  · rw [puts_append, List.pairwise_append]
    refine ⟨List.pairwise_of_forall_mem_list fun d hd d' hd' => ?_, hrest.ordered,
      fun d hd d' hd' => ?_⟩
    · rw [hseq d hd, hseq d' hd']
    · rw [hseq d hd]
      exact (hseq' d' hd').le
  · rw [puts_append, List.countP_append]
    by_cases hi : i = nCount
    · have hzero : (puts run.1).countP (fun d => d.blockSeq = i) = 0 :=
        List.countP_eq_zero.mpr fun d hd => by simpa [hi] using (hseq' d hd).ne'
      rw [hzero, Nat.add_zero]
      exact List.countP_le_length.trans h.length_le
    · have hzero : (puts events).countP (fun d => d.blockSeq = i) = 0 :=
        List.countP_eq_zero.mpr fun d hd => by simpa [hseq d hd] using Ne.symm hi
      rw [hzero, Nat.zero_add]
      exact hrest.bounded i
  · rw [puts_append, List.mem_append] at hd
    rcases hd with hd | hd
    · exact ⟨nCount, le_rfl, hn, h.same d hd⟩
    · obtain ⟨i, hi, hmessage⟩ := hrest.message d hd
      exact ⟨i, by omega, hmessage⟩
  · -- what comes before a later block holds all the events of this one
    obtain ⟨as, hbefore, hrun⟩ : ∃ as, before = events ++ as ∧ run.1 = as ++ .put d :: after := by
      rcases List.append_eq_append_iff.mp hev with hlater | ⟨as, hevents, hrun⟩
      · exact hlater
      rcases as with - | ⟨e, as⟩
      · exact ⟨[], by simpa using hevents.symm, hrun.symm⟩
      · obtain rfl := (List.cons.inj hrun).1
        have hd' : d.blockSeq = nCount := hseq d (by rw [hevents]; simp [puts])
        omega
    rcases Nat.lt_or_eq_of_le hi with hlt | rfl
    · obtain ⟨d', reply, hsub, hd'⟩ := hrest.answered as d after i hlt hrun hd
      exact ⟨d', reply, hbefore ▸ hsub.trans (List.sublist_append_right _ _), hd'⟩
    · obtain ⟨reply, hsub, hreply⟩ := h.took rfl
      exact ⟨_, reply, hbefore ▸ hsub.trans (List.sublist_append_left _ _), rfl, hreply⟩
  · have hne : i ≠ nCount := fun hi => hnot (hi ▸ hans)
    obtain ⟨hresult, hputs⟩ := hrest.stops i (by omega) hi' hnot
    refine ⟨hresult, fun d hd => ?_⟩
    rw [puts_append, List.mem_append] at hd
    rcases hd with hd | hd
    · rw [hseq d hd]
      exact hi
    · exact hputs d hd

/-- **The loop over the blocks**, when every block is answered or the retry counter can pass its
limit. -/
theorem sendLoop_disciplined (h : Ready call content B fileNum fs)
    (hlimit : cfg.fileMaxReTry < intMax ∨ ∀ i < fileNum, Answered o cfg i) :
    ∀ m nCount : ℕ, nCount + m = fileNum →
      ∃ run, sendLoop o cfg call fs content.length fileNum nCount = some run ∧
        DisciplinedFrom o cfg call content B fileNum nCount run
  | 0, nCount, hn => by
      obtain rfl : nCount = fileNum := hn
      exact ⟨([], false), by rw [sendLoop, if_neg (Nat.lt_irrefl _)], disciplinedFrom_end⟩
  | m + 1, nCount, hn => by
      have hlt : nCount < fileNum := by omega
      rw [sendLoop, if_pos hlt]
      by_cases hans : Answered o cfg nCount
      · obtain ⟨events, hblock, htries⟩ := sendOneBlock_of_answered h hlt hans
        rw [hblock]
        by_cases hlast : nCount = fileNum - 1
        · refine ⟨(events, true), by simp [hlast], ?_⟩
          exact disciplinedFrom_last hlt htries (.inl ⟨hans, by omega⟩)
        · obtain ⟨run, hrun, hfrom⟩ := sendLoop_disciplined h hlimit m (nCount + 1) (by omega)
          exact ⟨(events ++ run.1, run.2), by simp [hlast, hrun],
            disciplinedFrom_cons hlt hans htries hfrom⟩
      · obtain ⟨events, hblock, htries⟩ := sendOneBlock_of_not h hlt hans
          (hlimit.resolve_right fun hall => hans (hall nCount hlt))
        rw [hblock]
        exact ⟨(events, false), rfl, disciplinedFrom_last hlt htries (.inr rfl)⟩

/-- A loop that has a result has had all its blocks answered, when the counter cannot pass. -/
theorem answered_of_sendLoop (h : Ready call content B fileNum fs)
    (hlimit : cfg.fileMaxReTry = intMax) :
    ∀ m nCount : ℕ, nCount + m = fileNum →
      (sendLoop o cfg call fs content.length fileNum nCount).isSome →
      ∀ i, nCount ≤ i → i < fileNum → Answered o cfg i
  | 0, nCount, hn, _, i, hi, hi' => absurd hi (by omega)
  | m + 1, nCount, hn, hsome, i, hi, hi' => by
      have hlt : nCount < fileNum := by omega
      rw [sendLoop, if_pos hlt] at hsome
      by_cases hans : Answered o cfg nCount
      · obtain ⟨events, hblock, -⟩ := sendOneBlock_of_answered h hlt hans
        rw [hblock] at hsome
        rcases Nat.lt_or_eq_of_le hi with hgt | rfl
        · have hlast : nCount ≠ fileNum - 1 := by omega
          refine answered_of_sendLoop h hlimit m (nCount + 1) (by omega) ?_ i hgt hi'
          simpa [hlast] using hsome
        · exact hans
      · rw [sendOneBlock_eq_none h hlt hans hlimit] at hsome
        simp at hsome

/-! ## The call -/

/-- The cases in which the call keeps the discipline: the block size is one to compute with, and the
file is empty, or it is positive, an `int` can count the blocks, and the limit can be passed or need
not be. -/
def Sends (o : Schedule) (cfg : SendSettings) (content : Bytes) : Prop :=
  Computes cfg.fileSplitSize ∧ (content = [] ∨ 0 < cfg.fileSplitSize ∧
    FileTopic.fileNum content.length cfg.fileSplitSize.toNat ≤ intMax ∧
      (cfg.fileMaxReTry < intMax ∨
        ∀ i < FileTopic.fileNum content.length cfg.fileSplitSize.toNat, Answered o cfg i))

/-- The call has a result, and it keeps the discipline. -/
def SendsDisciplined (o : Schedule) (cfg : SendSettings) (call : SendCall) (fs : FileSystem)
    (content : Bytes) : Prop :=
  ∃ run, sendFile o cfg call fs = some run ∧
    Disciplined o cfg call content (cfg.fileSplitSize.toNat * 1024)
      (FileTopic.fileNum content.length cfg.fileSplitSize.toNat) run

theorem DisciplinedFrom.disciplined (h : DisciplinedFrom o cfg call content B fileNum 0 run) :
    Disciplined o cfg call content B fileNum run where
  ordered := h.ordered
  bounded := h.bounded
  labelled d hd := by
    obtain ⟨i, -, hi, rfl⟩ := h.message d hd
    exact ⟨rfl, rfl, hi, beq_iff_eq, rfl⟩
  answered before d after i := h.answered before d after i (Nat.zero_le i)
  stops i := h.stops i (Nat.zero_le i)

/-- The blocks are cut as the loop needs them. -/
theorem exists_ready {kb : ℕ} (hkb : 0 < kb) (hle : kb * 1024 ≤ intMax)
    (hsrc : fs.files (ofString call.sendfile) = some content)
    (hcount : FileTopic.fileNum content.length kb ≤ intMax) :
    ∃ fs', FileSplit.split (mkdir fs call.tmp) call.sendfile kb call.tmp = some fs' ∧
      Ready call content (kb * 1024) (FileTopic.fileNum content.length kb) fs' := by
  have hinj : Function.Injective (blockPath call.tmp) := by
    rw [SendCall.tmp, sendfileTmp_eq]
    exact blockPath_injective (sendfileDir_ne_empty _ _)
  rw [fileNum_eq_pieceCount] at hcount ⊢
  have hsrc' : (mkdir fs call.tmp).files (ofString call.sendfile) = some content := hsrc
  obtain ⟨fs', hsplit, hfrom⟩ := exists_split hkb hsrc'
    (ne_blockPath_sendfileTmp call.nodeId call.sendfile) hinj hcount
  exact ⟨fs', hsplit, by omega, hle, rfl, fun i hi => hfrom.block i (Nat.zero_le i) hi⟩

/-- A file with something in it that could be cut into blocks. -/
theorem pos_of_split {kb : Int} {fs' : FileSystem} (hne : content ≠ [])
    (hsrc : fs.files (ofString call.sendfile) = some content)
    (hsplit : FileSplit.split (mkdir fs call.tmp) call.sendfile kb.toNat call.tmp = some fs') :
    0 < kb ∧ FileTopic.fileNum content.length kb.toNat ≤ intMax := by
  have hsrc' : (mkdir fs call.tmp).files (ofString call.sendfile) = some content := hsrc
  have hkb : 0 < kb.toNat := by
    by_contra hzero
    rw [Nat.eq_zero_of_not_pos hzero, split_zero_eq_none hsrc' hne] at hsplit
    cases hsplit
  refine ⟨by omega, ?_⟩
  by_contra hmany
  rw [fileNum_eq_pieceCount] at hmany
  have hnone := split_eq_none hkb hsrc' (ne_blockPath_sendfileTmp call.nodeId call.sendfile)
    (Nat.lt_of_not_le hmany)
  cases hnone.symm.trans hsplit

/-- The call of a file that could be cut is its loop. -/
theorem exists_sendFile_eq (hcomp : Computes cfg.fileSplitSize) (hpos : 0 < cfg.fileSplitSize)
    (hcount : FileTopic.fileNum content.length cfg.fileSplitSize.toNat ≤ intMax)
    (hsrc : fs.files (ofString call.sendfile) = some content) :
    ∃ fs', Ready call content (cfg.fileSplitSize.toNat * 1024)
        (FileTopic.fileNum content.length cfg.fileSplitSize.toNat) fs' ∧
      sendFile o cfg call fs = sendLoop o cfg call fs' content.length
        (FileTopic.fileNum content.length cfg.fileSplitSize.toNat) 0 := by
  have hkb : (cfg.fileSplitSize.toNat : Int) = cfg.fileSplitSize := Int.toNat_of_nonneg hpos.le
  have hle := hcomp.2.2
  obtain ⟨fs', hsplit, hready⟩ := exists_ready (by omega) (by omega) hsrc hcount
  have hblocks := blockCount_eq_fileNum (hkb ▸ hcomp) hcount
  rw [hkb] at hblocks
  refine ⟨fs', hready, ?_⟩
  rw [sendFile, hsrc]
  dsimp only
  rw [hsplit, hblocks]

/-- **When the sender keeps its discipline**, for a file that is there. -/
theorem sendFile_disciplined_iff (o : Schedule) (cfg : SendSettings) (call : SendCall)
    {fs : FileSystem} {content : Bytes} (hsrc : fs.files (ofString call.sendfile) = some content) :
    SendsDisciplined o cfg call fs content ↔ Sends o cfg content := by
  have hsrc' : (mkdir fs call.tmp).files (ofString call.sendfile) = some content := hsrc
  constructor
  · rintro ⟨run, hrun, -⟩
    obtain ⟨fs', hsplit, hcomp⟩ : ∃ fs', FileSplit.split (mkdir fs call.tmp) call.sendfile
        cfg.fileSplitSize.toNat call.tmp = some fs' ∧ Computes cfg.fileSplitSize := by
      rw [sendFile, hsrc] at hrun
      dsimp only at hrun
      split at hrun
      · rename_i fs' count hsplit hcount
        exact ⟨fs', hsplit, blockCount_isSome_iff.mp (by rw [hcount]; rfl)⟩
      · cases hrun
    refine ⟨hcomp, or_iff_not_imp_left.mpr fun hne => ?_⟩
    obtain ⟨hpos, hcount⟩ := pos_of_split hne hsrc hsplit
    refine ⟨hpos, hcount, or_iff_not_imp_left.mpr fun hlimit i hi => ?_⟩
    obtain ⟨fs'', hready, hloop⟩ := exists_sendFile_eq hcomp hpos hcount hsrc
    rw [hloop] at hrun
    have hmax := cfg.fileMaxReTry_le
    exact answered_of_sendLoop hready (by omega) _ 0 (Nat.zero_add _) (by rw [hrun]; rfl) i
      (Nat.zero_le i) hi
  · rintro ⟨hcomp, rfl | ⟨hpos, hcount, hlimit⟩⟩
    · have hnum : FileTopic.fileNum ([] : Bytes).length cfg.fileSplitSize.toNat = 0 := by
        simp [FileTopic.fileNum]
      refine ⟨([], false), ?_, ?_⟩
      · rw [sendFile, hsrc]
        dsimp only
        rw [split_of_nil hsrc', List.length_nil, blockCount_zero hcomp]
        dsimp only
        rw [sendLoop, if_neg (Nat.lt_irrefl 0)]
      · rw [hnum]
        exact disciplinedFrom_end.disciplined
    · obtain ⟨fs', hready, hloop⟩ := exists_sendFile_eq hcomp hpos hcount hsrc
      obtain ⟨run, hrun, hfrom⟩ := sendLoop_disciplined hready hlimit _ 0 (Nat.zero_add _)
      exact ⟨run, hloop.trans hrun, hfrom.disciplined⟩

/-- A file in the working directory. -/
def sendOne : SendCall := ⟨"m", "./f", "m", "u", "n1", "up"⟩

/-- No reply comes. -/
def silent : Schedule := ⟨fun _ _ => ⟨.ok, [[], []]⟩, fun _ => 0⟩

/-- A file of three bytes that nobody answers for. -/
theorem sendFile_disciplined_silent :
    SendsDisciplined silent ⟨62, 100, by decide⟩ sendOne ⟨fun _ => some [1, 2, 3], fun _ => true⟩
      [1, 2, 3] ↔ Sends silent ⟨62, 100, by decide⟩ [1, 2, 3] :=
  sendFile_disciplined_iff silent ⟨62, 100, by decide⟩ sendOne rfl

/-- **What the configuration can do**: blocks of 0 KB, and a limit that the retry counter cannot
pass. -/
theorem not_sendFile_disciplined :
    ¬ SendsDisciplined silent ⟨0, 100, by decide⟩ sendOne ⟨fun _ => some [1], fun _ => true⟩ [1] ∧
      ¬ SendsDisciplined silent ⟨62, intMax, le_rfl⟩ sendOne ⟨fun _ => some [1], fun _ => true⟩
        [1] := by
  rw [sendFile_disciplined_iff _ _ _ rfl, sendFile_disciplined_iff _ _ _ rfl]
  refine ⟨fun h => absurd h.1 (by decide), fun h => ?_⟩
  rcases h.2 with hnil | ⟨-, -, hlimit | hall⟩
  · exact List.cons_ne_nil _ _ hnil
  · exact Nat.lt_irrefl _ hlimit
  · obtain ⟨k, -, -, reply, hreply, -⟩ := hall 0 (by decide)
    exact absurd hreply (by simp [silent, polled])

/-! ## The transfer -/

/-- **The messages are those of the transfer** that `FileTopic/Protocol` sends. -/
theorem blockMessage_eq (b : BlockSize) {i : ℕ}
    (hi : i < FileTopic.fileNum content.length b.kb) :
    blockMessage o call content (b.kb * 1024) (FileTopic.fileNum content.length b.kb) i =
      (Transfer.ofFile call.uuid call.nodeId call.srcNodeId call.toNodeId call.sendfile
        call.subFileName call.subDirs content b).message (o.now i) i := by
  rw [blockMessage, SendCall.message, Transfer.message, Transfer.content_ofFile,
    Transfer.block_ofFile _ _ _ _ _ _ _ _ _ hi, Transfer.fileNum_ofFile]
  rfl

end FileTopic

end Sadip

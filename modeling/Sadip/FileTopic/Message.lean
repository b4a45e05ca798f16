import Sadip.FileTopic.SendFile

/-!
# FileTopic/Message — the messages of a file transfer, `node/proto/file.proto`

`Transfer` holds what `send_file` works out before its loop; `Transfer.message` is the `FileData`
that `sendOneBlock` fills in for one block of it.
-/

namespace Sadip

namespace FileTopic

open FileSplit FsPath

structure FileData where
  uuid : String
  srcNodeId : String
  toNodeId : String
  fileName : String
  saveFileName : String
  subDir : String
  isEnd : Bool
  fileTotalSize : ℕ
  fModifyTime : Int
  blockSeq : ℕ
  totalBlockNum : ℕ
  blockContent : Bytes
  blockContentLen : ℕ
  transferId : String
  md5 : String

structure FileDataReply where
  uuid : String
  srcNodeId : String
  toNodeId : String
  fileName : String
  replyUuid : String
  subDir : String
  isEnd : Bool
  blockSeq : ℕ
  totalBlockNum : ℕ
  fileTotalSize : ℕ
  blockLosts : List ℕ
  state : Int
  deriving DecidableEq

/-- One call of `send_file` past its checks: the names it works with, and the block files the
file was split into. -/
structure Transfer where
  uuid : String
  /-- `topic_info_.nodeId_` of the sender -/
  nodeId : String
  srcNodeId : String
  toNodeId : String
  sendfile : String
  subFileName : String
  subDirs : String
  blocks : List Bytes
  blocks_ne_nil : ∀ block ∈ blocks, block ≠ []

namespace Transfer

variable (T : Transfer)

/-- `recvfile`, the name under which the receiver assembles the file. -/
def recvfile : String := "recv/" ++ T.srcNodeId ++ "/" ++ T.toNodeId ++ "/" ++ T.sendfile

def saveFileName : String := T.nodeId ++ "/" ++ T.subFileName

/-- The bytes of the file. -/
def content : Bytes := T.blocks.flatten

/-- `fileNum`. -/
def fileNum : ℕ := T.blocks.length

/-- The bytes of a block. -/
def block (i : ℕ) : Bytes := T.blocks.getD i []

/-- The message `sendOneBlock` fills in at time `now` for block `nCount`. -/
def message (now : Int) (nCount : ℕ) : FileData where
  uuid := T.uuid
  srcNodeId := T.nodeId
  toNodeId := T.toNodeId
  fileName := T.recvfile
  saveFileName := T.saveFileName
  subDir := T.subDirs
  isEnd := nCount == T.fileNum - 1
  fileTotalSize := T.content.length
  fModifyTime := now
  blockSeq := nCount
  totalBlockNum := T.fileNum
  blockContent := T.block nCount
  blockContentLen := (T.block nCount).length
  transferId := "."
  md5 := "."

theorem block_of_lt {i : ℕ} (hi : i < T.blocks.length) : T.block i = T.blocks[i] := by
  rw [block, List.getD_eq_getElem?_getD, List.getElem?_eq_getElem hi, Option.getD_some]

/-- The transfer of a file of given bytes: the blocks are the ones `split` writes. -/
def ofFile (uuid nodeId srcNodeId toNodeId sendfile subFileName subDirs : String)
    (content : Bytes) (b : BlockSize) : Transfer where
  uuid := uuid
  nodeId := nodeId
  srcNodeId := srcNodeId
  toNodeId := toNodeId
  sendfile := sendfile
  subFileName := subFileName
  subDirs := subDirs
  blocks := (List.range (FileTopic.fileNum content.length b.kb)).map
    (Pieces.piece (b.kb * 1024) content)
  blocks_ne_nil := by
    intro block hblock
    obtain ⟨i, hi, rfl⟩ := List.mem_map.mp hblock
    exact Pieces.piece_ne_nil (Nat.mul_pos b.kb_pos (by decide)) (List.mem_range.mp hi)

/-- **The blocks of a file make up the file.** -/
theorem content_ofFile (uuid nodeId srcNodeId toNodeId sendfile subFileName subDirs : String)
    (content : Bytes) (b : BlockSize) :
    (ofFile uuid nodeId srcNodeId toNodeId sendfile subFileName subDirs content b).content
      = content :=
  Pieces.flatten_pieces (Nat.mul_pos b.kb_pos (by decide)) content

theorem fileNum_ofFile (uuid nodeId srcNodeId toNodeId sendfile subFileName subDirs : String)
    (content : Bytes) (b : BlockSize) :
    (ofFile uuid nodeId srcNodeId toNodeId sendfile subFileName subDirs content b).fileNum
      = FileTopic.fileNum content.length b.kb := by simp [fileNum, ofFile]

theorem block_ofFile (uuid nodeId srcNodeId toNodeId sendfile subFileName subDirs : String)
    (content : Bytes) (b : BlockSize) {i : ℕ} (hi : i < FileTopic.fileNum content.length b.kb) :
    (ofFile uuid nodeId srcNodeId toNodeId sendfile subFileName subDirs content b).block i
      = Pieces.piece (b.kb * 1024) content i := by
  rw [block_of_lt _ (hi.trans_eq (fileNum_ofFile ..).symm)]
  simp [ofFile]

/-- **The block files of the sender are the blocks of its transfer.** -/
theorem split_ofFile {uuid nodeId srcNodeId toNodeId sendfile subFileName subDirs : String}
    {content : Bytes} {b : BlockSize} {fs : FileSystem}
    (hsrc : fs.files (ofString sendfile) = some content)
    (hcount : FileTopic.fileNum content.length b.kb ≤ intMax) :
    let T := ofFile uuid nodeId srcNodeId toNodeId sendfile subFileName subDirs content b
    ∃ written, split fs sendfile b.kb (sendfileTmp nodeId sendfile) = some written
      ∧ T.fileNum = FileTopic.fileNum content.length b.kb
      ∧ ∀ i < T.fileNum, written.files (blockPath (sendfileTmp nodeId sendfile) i)
          = some (T.block i) := by
  intro T
  have hinj : Function.Injective (blockPath (sendfileTmp nodeId sendfile)) := by
    rw [sendfileTmp_eq]
    exact blockPath_injective (sendfileDir_ne_empty _ _)
  obtain ⟨written, hsplit, hfrom⟩ := exists_split b.kb_pos hsrc
    (ne_blockPath_sendfileTmp nodeId sendfile) hinj hcount
  have hnum : T.fileNum = FileTopic.fileNum content.length b.kb := fileNum_ofFile ..
  refine ⟨written, hsplit, hnum, fun i hi => ?_⟩
  rw [hfrom.block i (Nat.zero_le i) (hi.trans_eq hnum),
    show T.block i = Pieces.piece (b.kb * 1024) content i from block_ofFile _ _ _ _ _ _ _ _ _
      (hi.trans_eq hnum)]

/-- The first `m` blocks, one after the other. -/
theorem joined_block {m : ℕ} (hm : m ≤ T.fileNum) :
    joined T.block 0 m = (T.blocks.take m).flatten := by
  rw [joined, Nat.sub_zero, ← List.range_eq_range']
  congr 1
  have hm' : m ≤ T.blocks.length := hm
  refine List.ext_getElem (by simp [hm']) fun i h1 h2 => ?_
  rw [List.length_take] at h2
  rw [List.getElem_map, List.getElem_range, List.getElem_take, T.block_of_lt (by omega)]

theorem joined_all : joined T.block 0 T.fileNum = T.content := by
  rw [T.joined_block le_rfl, fileNum, List.take_length, content]

/-- **Only all the blocks are as long as the file.** -/
theorem length_joined_eq_iff {m : ℕ} (hm : m ≤ T.fileNum) :
    (joined T.block 0 m).length = T.content.length ↔ m = T.fileNum := by
  refine ⟨fun h => ?_, fun h => by rw [h, joined_all]⟩
  by_contra hne
  have hlt : m < T.fileNum := lt_of_le_of_ne hm hne
  have hsplit : T.content = (T.blocks.take m).flatten ++ (T.blocks.drop m).flatten := by
    rw [content, ← List.flatten_append, List.take_append_drop]
  have hrest : (T.blocks.drop m).flatten ≠ [] := by
    rw [List.drop_eq_getElem_cons hlt, List.flatten_cons]
    exact List.append_ne_nil_of_left_ne_nil (T.blocks_ne_nil _ (List.getElem_mem hlt)) _
  rw [T.joined_block hm, hsplit, List.length_append] at h
  exact hrest (List.length_eq_zero_iff.mp (by omega))

theorem content_ne_nil (h : 0 < T.fileNum) : T.content ≠ [] := by
  have hne := (T.length_joined_eq_iff (Nat.zero_le _)).not.mpr (Nat.ne_of_lt h)
  rw [joined_self] at hne
  exact fun h0 => hne (by rw [h0])

/-- The receiver's directory for the transfer. -/
def tmpDir : String := T.recvfile ++ "_tmp"

theorem recvfile_ne_empty : T.recvfile ≠ "" := by simp [recvfile]

theorem tmpDir_ne_empty : T.tmpDir ≠ "" := by simp [tmpDir]

/-- The path of a block in the receiver's directory. -/
def tmpBlock (i : ℕ) : FsPath := blockPath (T.tmpDir ++ "/") i

theorem tmpBlock_eq (i : ℕ) : T.tmpBlock i = ofString T.tmpDir ++ [i.repr] :=
  blockPath_slash T.tmpDir_ne_empty i

theorem tmpBlock_injective : Function.Injective T.tmpBlock :=
  blockPath_injective T.tmpDir_ne_empty

theorem tmpBlock_ne_mergeOut (i : ℕ) : T.tmpBlock i ≠ mergeOut T.tmpDir :=
  blockPath_ne_mergeOut T.tmpDir_ne_empty i

theorem prefix_tmpBlock (i : ℕ) : ofString T.tmpDir <+: T.tmpBlock i := by
  rw [tmpBlock_eq]
  exact List.prefix_append _ _

end Transfer

end FileTopic

end Sadip

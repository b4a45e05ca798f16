import Sadip.Machinery.FileSystem
import Sadip.Machinery.Wire.Codec

/-!
# Messages — what the nodes send each other, `node/src/proto`, `cam-app/src/proto/cam.proto`,
`dds/monitor.proto`

`Messages.received_iff`: what becomes of a message between the function that puts it and the
callback that parses it.  Most senders put a null byte behind it, and then the parser says that it
failed; no callback looks at that, and the message is complete all the same.
-/

namespace Sadip

namespace Messages

open Wire

/-- An entry of a listing: a file or a directory. -/
@[ext]
structure File where
  filePathName : Bytes
  isDir : Bool
  (fileSize timestamp : Int64)

namespace File

/-- The fields with their numbers, in ascending order. -/
def columns : List (Column File Empty) :=
  [.bytes 1 filePathName, .bool 2 isDir, .int64 3 fileSize, .int64 4 timestamp]

def make (c : Content Empty) : File :=
  ⟨(c 1).text, (c 2).toBool, (c 3).toInt64, (c 4).toInt64⟩

def codec : Codec File Empty where
  columns
  make
  enc := Empty.elim
  dec := fun _ _ => none
  ascending := by decide
  inRange := by decide
  decodes := fun _ item => item.elim
  make_content := fun _ => File.ext rfl (Slot.toBool_ofBool _) (Slot.toInt64_ofInt64 _)
    (Slot.toInt64_ofInt64 _)
  get_make := fun _ => rfl

/-- A file inside a reply. -/
def dec (lib : Library) (s : List UInt8) : Option File :=
  match codec.schema.parse lib s with
  | .done c => some (make c)
  | .stopped _ => none
  | .notUtf8 _ => none
  | .malformed => none

/-- An entry is read back from its bytes, whatever library checks UTF-8: it has no strings. -/
theorem dec_serialize (lib : Library) (item : File)
    (h : (codec.serialize item).length ≤ maxSize) :
    dec lib (codec.serialize item) = some item := by
  have hbroken : codec.broken? lib item = none := rfl
  have hparse : codec.schema.parse lib (codec.send 0 item) = .done (codec.content item) := by
    rw [Codec.parse_send h, hbroken, Option.elim_none, if_pos rfl]
  rw [Codec.send, List.replicate_zero, List.append_nil] at hparse
  rw [dec, hparse]
  exact congrArg some (codec.make_content item)

end File

/-- A sign of life of a node. -/
@[ext]
structure Ping where
  (toNodeId srcNodeId nodeAppVer nodeCfgVer : Bytes)
  state : Int32
  createdAt : Int64
  desc : Bytes

namespace Ping

def columns : List (Column Ping Empty) :=
  [.string 1 toNodeId, .string 2 srcNodeId, .string 3 nodeAppVer, .string 4 nodeCfgVer,
    .int32 5 state, .int64 6 createdAt, .string 7 desc]

def make (c : Content Empty) : Ping :=
  ⟨(c 1).text, (c 2).text, (c 3).text, (c 4).text, (c 5).toInt32, (c 6).toInt64, (c 7).text⟩

def codec : Codec Ping Empty where
  columns
  make
  enc := Empty.elim
  dec := fun _ _ => none
  ascending := by decide
  inRange := by decide
  decodes := fun _ item => item.elim
  make_content := fun _ => Ping.ext rfl rfl rfl rfl (Slot.toInt32_ofInt32 _)
    (Slot.toInt64_ofInt64 _) rfl
  get_make := fun _ => rfl

end Ping

/-- A configuration for a node, with the text of its file. -/
@[ext]
structure Node where
  (uuid toNodeId toNodeName srcNodeId toGroup : Bytes)
  (arch os : Int32)
  (uri toConfigPath srcConfigPath : Bytes)
  domain : UInt32
  (config configHash : Bytes)
  configSize : UInt32
  state : Int32
  (createdAt updatedAt : Int64)

namespace Node

def columns : List (Column Node Empty) :=
  [.string 1 uuid, .string 2 toNodeId, .bytes 3 toNodeName, .string 4 srcNodeId, .string 5 toGroup,
    .int32 6 arch, .int32 7 os, .string 8 uri, .string 9 toConfigPath, .string 10 srcConfigPath,
    .uint32 11 domain, .bytes 12 config, .string 13 configHash, .uint32 14 configSize,
    .int32 15 state, .int64 16 createdAt, .int64 17 updatedAt]

def make (c : Content Empty) : Node :=
  ⟨(c 1).text, (c 2).text, (c 3).text, (c 4).text, (c 5).text, (c 6).toInt32, (c 7).toInt32,
    (c 8).text, (c 9).text, (c 10).text, (c 11).toUInt32, (c 12).text, (c 13).text, (c 14).toUInt32,
    (c 15).toInt32, (c 16).toInt64, (c 17).toInt64⟩

def codec : Codec Node Empty where
  columns
  make
  enc := Empty.elim
  dec := fun _ _ => none
  ascending := by decide
  inRange := by decide
  decodes := fun _ item => item.elim
  make_content := fun _ => Node.ext rfl rfl rfl rfl rfl (Slot.toInt32_ofInt32 _)
    (Slot.toInt32_ofInt32 _) rfl rfl rfl (Slot.toUInt32_ofUInt32 _) rfl rfl
    (Slot.toUInt32_ofUInt32 _) (Slot.toInt32_ofInt32 _) (Slot.toInt64_ofInt64 _)
    (Slot.toInt64_ofInt64 _)
  get_make := fun _ => rfl

end Node

/-- What a node says to its configuration. -/
@[ext]
structure NodeReply where
  (uuid toNodeId toNodeName srcNodeId toGroup replyUuid : Bytes)
  status : Int32
  (desc descStr : Bytes)
  (createdAt updatedAt : Int64)

namespace NodeReply

def columns : List (Column NodeReply Empty) :=
  [.string 1 uuid, .string 2 toNodeId, .bytes 3 toNodeName, .string 4 srcNodeId, .string 5 toGroup,
    .string 6 replyUuid, .int32 7 status, .bytes 8 desc, .bytes 9 descStr, .int64 10 createdAt,
    .int64 11 updatedAt]

def make (c : Content Empty) : NodeReply :=
  ⟨(c 1).text, (c 2).text, (c 3).text, (c 4).text, (c 5).text, (c 6).text, (c 7).toInt32,
    (c 8).text, (c 9).text, (c 10).toInt64, (c 11).toInt64⟩

def codec : Codec NodeReply Empty where
  columns
  make
  enc := Empty.elim
  dec := fun _ _ => none
  ascending := by decide
  inRange := by decide
  decodes := fun _ item => item.elim
  make_content := fun _ => NodeReply.ext rfl rfl rfl rfl rfl rfl (Slot.toInt32_ofInt32 _) rfl rfl
    (Slot.toInt64_ofInt64 _) (Slot.toInt64_ofInt64 _)
  get_make := fun _ => rfl

end NodeReply

/-- A command, to one node or to a group. -/
@[ext]
structure NodeCmd where
  (uuid srcNodeId srcNodeName toNodeId toGroup : Bytes)
  (cmdType podmanCmd : Int32)
  (cmd paras paras1 paras2 : Bytes)
  (createdAt updatedAt : Int64)

namespace NodeCmd

def columns : List (Column NodeCmd Empty) :=
  [.string 1 uuid, .string 2 srcNodeId, .bytes 3 srcNodeName, .string 4 toNodeId, .string 5 toGroup,
    .int32 6 cmdType, .int32 7 podmanCmd, .string 8 cmd, .string 9 paras, .string 10 paras1,
    .string 11 paras2, .int64 12 createdAt, .int64 13 updatedAt]

def make (c : Content Empty) : NodeCmd :=
  ⟨(c 1).text, (c 2).text, (c 3).text, (c 4).text, (c 5).text, (c 6).toInt32, (c 7).toInt32,
    (c 8).text, (c 9).text, (c 10).text, (c 11).text, (c 12).toInt64, (c 13).toInt64⟩

def codec : Codec NodeCmd Empty where
  columns
  make
  enc := Empty.elim
  dec := fun _ _ => none
  ascending := by decide
  inRange := by decide
  decodes := fun _ item => item.elim
  make_content := fun _ => NodeCmd.ext rfl rfl rfl rfl rfl (Slot.toInt32_ofInt32 _)
    (Slot.toInt32_ofInt32 _) rfl rfl rfl rfl (Slot.toInt64_ofInt64 _) (Slot.toInt64_ofInt64 _)
  get_make := fun _ => rfl

end NodeCmd

/-- What a node says to a command; `result` is the only list of messages. -/
@[ext]
structure NodeCmdReply where
  (uuid srcNodeId srcNodeName toNodeId toNodeName cmdReplyUuid : Bytes)
  (cmdType status : Int32)
  (desc descStr : Bytes)
  result : List File
  (createdAt updatedAt : Int64)

namespace NodeCmdReply

def columns : List (Column NodeCmdReply File) :=
  [.string 1 uuid, .string 2 srcNodeId, .bytes 3 srcNodeName, .string 4 toNodeId,
    .bytes 5 toNodeName, .string 6 cmdReplyUuid, .int32 7 cmdType, .int32 8 status, .bytes 9 desc,
    .bytes 10 descStr, .messages 11 result, .int64 12 createdAt, .int64 13 updatedAt]

def make (c : Content File) : NodeCmdReply :=
  ⟨(c 1).text, (c 2).text, (c 3).text, (c 4).text, (c 5).text, (c 6).text, (c 7).toInt32,
    (c 8).toInt32, (c 9).text, (c 10).text, (c 11).items, (c 12).toInt64, (c 13).toInt64⟩

def codec : Codec NodeCmdReply File where
  columns
  make
  enc := File.codec.serialize
  dec := File.dec
  ascending := by decide
  inRange := by decide
  decodes := File.dec_serialize
  make_content := fun _ => NodeCmdReply.ext rfl rfl rfl rfl rfl rfl (Slot.toInt32_ofInt32 _)
    (Slot.toInt32_ofInt32 _) rfl rfl rfl (Slot.toInt64_ofInt64 _) (Slot.toInt64_ofInt64 _)
  get_make := fun _ => rfl

end NodeCmdReply

/-- A block of a file that is transferred. -/
@[ext]
structure FileData where
  (uuid srcNodeId toNodeId fileName saveFileName subDir : Bytes)
  isEnd : Bool
  fileTotalSize : UInt64
  fModifyTime : Int64
  (blockSeq totalBlockNum : UInt64)
  blockContent : Bytes
  blockContentLen : UInt64
  (transferId md5 : Bytes)

namespace FileData

def columns : List (Column FileData Empty) :=
  [.string 1 uuid, .string 2 srcNodeId, .string 3 toNodeId, .bytes 4 fileName,
    .bytes 5 saveFileName, .bytes 6 subDir, .bool 7 isEnd, .uint64 8 fileTotalSize,
    .int64 9 fModifyTime, .uint64 10 blockSeq, .uint64 11 totalBlockNum, .bytes 12 blockContent,
    .uint64 13 blockContentLen, .string 14 transferId, .string 15 md5]

def make (c : Content Empty) : FileData :=
  ⟨(c 1).text, (c 2).text, (c 3).text, (c 4).text, (c 5).text, (c 6).text, (c 7).toBool,
    (c 8).toUInt64, (c 9).toInt64, (c 10).toUInt64, (c 11).toUInt64, (c 12).text, (c 13).toUInt64,
    (c 14).text, (c 15).text⟩

def codec : Codec FileData Empty where
  columns
  make
  enc := Empty.elim
  dec := fun _ _ => none
  ascending := by decide
  inRange := by decide
  decodes := fun _ item => item.elim
  make_content := fun _ => FileData.ext rfl rfl rfl rfl rfl rfl (Slot.toBool_ofBool _)
    (Slot.toUInt64_ofUInt64 _) (Slot.toInt64_ofInt64 _) (Slot.toUInt64_ofUInt64 _)
    (Slot.toUInt64_ofUInt64 _) rfl (Slot.toUInt64_ofUInt64 _) rfl rfl
  get_make := fun _ => rfl

end FileData

/-- What the receiver says to a block.  The list of lost blocks, number 11, is filled by nobody. -/
@[ext]
structure FileDataReply where
  (uuid srcNodeId toNodeId fileName replyUuid subDir : Bytes)
  isEnd : Bool
  (blockSeq totalBlockNum fileTotalSize : UInt64)
  state : Int64

namespace FileDataReply

def columns : List (Column FileDataReply Empty) :=
  [.string 1 uuid, .string 2 srcNodeId, .string 3 toNodeId, .bytes 4 fileName, .string 5 replyUuid,
    .bytes 6 subDir, .bool 7 isEnd, .uint64 8 blockSeq, .uint64 9 totalBlockNum,
    .uint64 10 fileTotalSize, .int64 12 state]

def make (c : Content Empty) : FileDataReply :=
  ⟨(c 1).text, (c 2).text, (c 3).text, (c 4).text, (c 5).text, (c 6).text, (c 7).toBool,
    (c 8).toUInt64, (c 9).toUInt64, (c 10).toUInt64, (c 12).toInt64⟩

def codec : Codec FileDataReply Empty where
  columns
  make
  enc := Empty.elim
  dec := fun _ _ => none
  ascending := by decide
  inRange := by decide
  decodes := fun _ item => item.elim
  make_content := fun _ => FileDataReply.ext rfl rfl rfl rfl rfl rfl (Slot.toBool_ofBool _)
    (Slot.toUInt64_ofUInt64 _) (Slot.toUInt64_ofUInt64 _) (Slot.toUInt64_ofUInt64 _)
    (Slot.toInt64_ofInt64 _)
  get_make := fun _ => rfl

end FileDataReply

/-- New lines of a log. -/
@[ext]
structure LogData where
  (uuid srcNodeId toNodeId fileName newLogs : Bytes)

namespace LogData

def columns : List (Column LogData Empty) :=
  [.string 1 uuid, .string 2 srcNodeId, .string 3 toNodeId, .string 4 fileName, .string 5 newLogs]

def make (c : Content Empty) : LogData :=
  ⟨(c 1).text, (c 2).text, (c 3).text, (c 4).text, (c 5).text⟩

def codec : Codec LogData Empty where
  columns
  make
  enc := Empty.elim
  dec := fun _ _ => none
  ascending := by decide
  inRange := by decide
  decodes := fun _ item => item.elim
  make_content := fun _ => LogData.ext rfl rfl rfl rfl rfl
  get_make := fun _ => rfl

end LogData

/-- The envelope of a message of the roadside units. -/
@[ext]
structure Cam where
  (msgId srcNodeId toNodeId : Bytes)
  msgType : Int32
  length : UInt32
  data : Bytes
  (createdAt updatedAt : Int64)

namespace Cam

def columns : List (Column Cam Empty) :=
  [.string 1 msgId, .string 2 srcNodeId, .string 3 toNodeId, .int32 4 msgType, .uint32 5 length,
    .bytes 6 data, .int64 7 createdAt, .int64 8 updatedAt]

def make (c : Content Empty) : Cam :=
  ⟨(c 1).text, (c 2).text, (c 3).text, (c 4).toInt32, (c 5).toUInt32, (c 6).text, (c 7).toInt64,
    (c 8).toInt64⟩

def codec : Codec Cam Empty where
  columns
  make
  enc := Empty.elim
  dec := fun _ _ => none
  ascending := by decide
  inRange := by decide
  decodes := fun _ item => item.elim
  make_content := fun _ => Cam.ext rfl rfl rfl (Slot.toInt32_ofInt32 _) (Slot.toUInt32_ofUInt32 _)
    rfl (Slot.toInt64_ofInt64 _) (Slot.toInt64_ofInt64 _)
  get_make := fun _ => rfl

end Cam

/-- How much went over a topic in a period. -/
@[ext]
structure TopicMonInfo where
  uuid : Bytes
  domain : Int32
  (srcNodeId srcNodeName toNodeId toNodeName topicName : Bytes)
  (cycle updateTime nCount nSize : Int64)
  srcType : Int32
  progarmName : Bytes

namespace TopicMonInfo

def columns : List (Column TopicMonInfo Empty) :=
  [.string 1 uuid, .int32 2 domain, .string 3 srcNodeId, .string 4 srcNodeName, .string 5 toNodeId,
    .string 6 toNodeName, .string 7 topicName, .int64 8 cycle, .int64 9 updateTime,
    .int64 10 nCount, .int64 11 nSize, .int32 12 srcType, .string 13 progarmName]

def make (c : Content Empty) : TopicMonInfo :=
  ⟨(c 1).text, (c 2).toInt32, (c 3).text, (c 4).text, (c 5).text, (c 6).text, (c 7).text,
    (c 8).toInt64, (c 9).toInt64, (c 10).toInt64, (c 11).toInt64, (c 12).toInt32, (c 13).text⟩

def codec : Codec TopicMonInfo Empty where
  columns
  make
  enc := Empty.elim
  dec := fun _ _ => none
  ascending := by decide
  inRange := by decide
  decodes := fun _ item => item.elim
  make_content := fun _ => TopicMonInfo.ext rfl (Slot.toInt32_ofInt32 _) rfl rfl rfl rfl rfl
    (Slot.toInt64_ofInt64 _) (Slot.toInt64_ofInt64 _) (Slot.toInt64_ofInt64 _)
    (Slot.toInt64_ofInt64 _) (Slot.toInt32_ofInt32 _) rfl
  get_make := fun _ => rfl

end TopicMonInfo

/-! ## On a topic -/

/-- What is put somewhere. -/
inductive Channel
  | node
  | nodeReply
  | nodeCmd
  | nodeCmdReply
  | ping
  | fileData
  | fileDataReply
  | logData
  | cam
  | topicMonInfo

namespace Channel

/-- The type of the messages on it. -/
abbrev Message : Channel → Type
  | node => Node
  | nodeReply => NodeReply
  | nodeCmd => NodeCmd
  | nodeCmdReply => NodeCmdReply
  | ping => Ping
  | fileData => FileData
  | fileDataReply => FileDataReply
  | logData => LogData
  | cam => Cam
  | topicMonInfo => TopicMonInfo

/-- The messages inside these. -/
abbrev Inner : Channel → Type
  | nodeCmdReply => File
  | _ => Empty

abbrev codec : (channel : Channel) → Codec channel.Message channel.Inner
  | node => Node.codec
  | nodeReply => NodeReply.codec
  | nodeCmd => NodeCmd.codec
  | nodeCmdReply => NodeCmdReply.codec
  | ping => Ping.codec
  | fileData => FileData.codec
  | fileDataReply => FileDataReply.codec
  | logData => LogData.codec
  | cam => Cam.codec
  | topicMonInfo => TopicMonInfo.codec

/-- How much longer than the message the vector is that is put. -/
def padding : Channel → ℕ
  | node => 1
  | nodeReply => 0
  | nodeCmd => 1
  | nodeCmdReply => 1
  | ping => 1
  | fileData => 0
  | fileDataReply => 0
  | logData => 1
  | cam => 1
  | topicMonInfo => 1

/-- What `send_…` puts. -/
def put (channel : Channel) (m : channel.Message) : List UInt8 :=
  channel.codec.send channel.padding m

/-- The message that a callback goes on with: it does not ask whether it has been parsed. -/
def take (channel : Channel) (lib : Library) (payload : List UInt8) : Option channel.Message :=
  channel.codec.receive lib payload

end Channel

/-- **A message is received as it was sent** exactly if nothing is set in it behind the first string
that is not UTF-8, whether there is a null byte behind it or not; of another message there is what
stands up to that string.  That the parser fails says nothing about it. -/
theorem received_iff (lib : Library) (channel : Channel) (m : channel.Message)
    (hfits : (channel.codec.serialize m).length ≤ maxSize) :
    channel.take lib (channel.put m) = some (channel.codec.cut lib m) ∧
      (channel.take lib (channel.put m) = some m ↔ ∀ i ∈ channel.codec.broken? lib m,
        ∀ col ∈ channel.codec.columns, i < col.number → col.get m = .blank) ∧
      (channel.codec.accepts lib (channel.put m) = true ↔
        channel.padding = 0 ∧ channel.codec.broken? lib m = none) := by
  have htake : channel.take lib (channel.put m) = some (channel.codec.cut lib m) :=
    Codec.receive_send hfits channel.padding
  refine ⟨htake, ?_, Codec.accepts_send_iff hfits channel.padding⟩
  rw [htake, Option.some_inj]
  exact Codec.cut_eq_self_iff

/-- A command from `a` to `b` to copy a file.  Its name is not UTF-8, that of the copy is. -/
def cpfile : NodeCmd where
  uuid := [0x31]
  srcNodeId := [0x61]
  srcNodeName := []
  toNodeId := [0x62]
  toGroup := []
  cmdType := 40
  podmanCmd := 0
  cmd := [0x2F, 0xFF]
  paras := [0x2F, 0x31]
  paras1 := []
  paras2 := []
  createdAt := 1
  updatedAt := 1

/-- The name of the copy is lost. -/
theorem received_iff_cpfile :
    let lib : Library := ⟨fun s => s.all (· < 0x80), fun _ _ => none⟩
    (NodeCmd.codec.serialize cpfile).length ≤ maxSize ∧
      Channel.take .nodeCmd lib (Channel.put .nodeCmd cpfile) ≠ some cpfile := by
  refine ⟨by decide, fun h => ?_⟩
  have hget := (received_iff _ .nodeCmd cpfile (by decide)).2.1.mp h 8 (by decide)
    (NodeCmd.columns.get ⟨8, by decide⟩) (List.get_mem _ _) (by decide)
  exact List.cons_ne_nil _ _ (congrArg Slot.text hget)

end Messages

end Sadip

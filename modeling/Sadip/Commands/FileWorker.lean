import Sadip.Commands.Basic
import Sadip.FileTopic.Receive

/-!
# Commands/FileWorker — the commands on files, `node/src/FileTopic.cpp`

`process_node_cmd` hands a command to one of two handlers, or to none.  Each of them catches
standard exceptions around its `switch` and enqueues nothing then; what else is thrown gets to the
loop of `writer_worker`, which catches standard exceptions only.
-/

namespace Sadip

namespace Commands

open Calls Calls.Asking NodeCmdTopic
open NodeCmdWorker (trim)

namespace FileWorker

variable (node : Node) (c : NodeCmd) (reply : NodeCmdReply)

/-! ## Replies -/

/-- `desc`, which begins with the node's name and id. -/
def describe (text : String) : NodeCmdReply :=
  { reply with desc := node.nodeName ++ node.nodeId ++ text }

def invalidParameter : NodeCmdReply := describe node reply "invalid parameter"

/-- Success, with the files of a directory. -/
def listed (path text : String) : Handler NodeCmdReply := do
  let fileInfoVec ← ask (.getFileInfos path)
  pure (describe node
    { reply with result := reply.result ++ fileInfoVec.files, status := .SUCCESS } text)

def failed (text : String) : NodeCmdReply := describe node { reply with status := .INVALID } text

/-! ## Files -/

def ls : Handler NodeCmdReply :=
  if c.paras ≠ "" then listed node reply c.paras ("get directory sucess: " ++ c.paras)
  else pure (invalidParameter node reply)

def mkdir : Handler NodeCmdReply :=
  if c.paras ≠ "" then do
    perform (.mkdir c.paras)
    listed node reply (cutLastStr c.paras) ("creat directory sucess: " ++ c.paras)
  else pure (invalidParameter node reply)

def del : Handler NodeCmdReply :=
  if c.paras ≠ "" then do
    let found ← ask (.pathExists (trim c.paras))
    if found.ok then do
      let deleted ← ask (.del c.paras)
      if deleted.ok then
        listed node reply (cutLastStr c.paras) ("delete file sucess: " ++ c.paras)
      else pure reply
    else pure (failed node reply "deleted file is not exist,invalid parameter")
  else pure (failed node reply "invalid parameter")

/-- `file.exists() && file.isDirectory()`. -/
def existsDirectory (path : String) : Handler Bool := do
  let found ← ask (.pathExists path)
  if found.ok then do
    let dir ← ask (.isDirectory path)
    pure dir.ok
  else pure false

def delDir : Handler NodeCmdReply :=
  if c.paras ≠ "" then do
    let dir ← existsDirectory c.paras
    if dir then do
      perform (.removeAllFiles c.paras)
      listed node reply (cutLastStr c.paras) ("delete directory sucess: " ++ c.paras)
    else pure (describe node reply "deleted dir is not exist,invalid parameter")
  else pure (invalidParameter node reply)

def sendFile : Handler NodeCmdReply :=
  if c.paras ≠ "" then do
    let sent ← ask (.sendFile c.paras c.toNodeId c.uuid c.srcNodeId c.paras)
    if sent.ok then listed node reply (cutLastStr c.paras) ("send file sucess: " ++ c.paras)
    else pure (describe node reply ("send file fail: " ++ c.paras))
  else pure (invalidParameter node reply)

def mkFile : Handler NodeCmdReply :=
  if c.paras ≠ "" then do
    let found ← ask (.pathExists (trim c.paras))
    if found.ok then pure (describe node reply ("make file fail,file exist: " ++ c.paras))
    else do
      let made ← ask (.createFile (trim c.paras))
      if made.ok then listed node reply (cutLastStr c.paras) ("mk file sucess: " ++ c.paras)
      else pure (failed node reply ("mk file fail: " ++ c.paras))
  else pure (invalidParameter node reply)

/-- Both texts of the command are there. -/
def HasBoth : Prop := c.cmd ≠ "" ∧ c.paras ≠ ""

instance : Decidable (HasBoth c) := inferInstanceAs (Decidable (c.cmd ≠ "" ∧ c.paras ≠ ""))

def cpFile : Handler NodeCmdReply :=
  if HasBoth c then do
    let found ← ask (.pathExists (trim c.cmd))
    if found.ok then do
      perform (.copyTo (trim c.cmd) c.paras)
      listed node reply (cutLastStr c.paras) ("copy file sucess: " ++ c.paras)
    else pure (describe node reply ("copy file fail: " ++ c.paras))
  else pure (invalidParameter node reply)

/-- What is to be zipped is there: a directory when the name ends with a slash.  `back()` of an
empty name has no defined result. -/
def zipSource : Handler Bool :=
  match (trim c.cmd).toList.getLast? with
  | none => abort
  | some last =>
      if last = '/' then existsDirectory c.cmd
      else do
        let found ← ask (.pathExists c.cmd)
        pure found.ok

/-- `splitParas1`, the directory that is listed after zipping. -/
def zipDirectory : String :=
  let oriParas := "./" ++ c.cmd
  if oriParas.toList.getLast? = some '/' then cutLastStr (cutLastStr oriParas)
  else cutLastStr oriParas

def zip : Handler NodeCmdReply :=
  if c.paras ≠ "" then do
    let there ← zipSource c
    if there then do
      let zipped ← ask (.zip c.cmd c.paras)
      if zipped.ok then listed node reply (zipDirectory c) ("zip file sucess: " ++ c.paras)
      else pure (describe node reply ("zip file fail: " ++ c.paras))
    else pure (describe node reply " zipped file or dir is not exist,invalid parameter")
  else pure (invalidParameter node reply)

def dZip : Handler NodeCmdReply :=
  if HasBoth c then do
    let found ← ask (.pathExists c.cmd)
    if found.ok then do
      let unzipped ← ask (.uZip c.cmd c.paras)
      if unzipped.ok then
        listed node reply (cutLastStr ("./" ++ c.cmd)) ("uzip file sucess: " ++ c.paras)
      else pure (describe node reply ("uzip file fail: " ++ c.paras))
    else pure (describe node reply " dzipped file is not exist,invalid parameter")
  else pure (invalidParameter node reply)

/-- `handle_file_transfer_command`. -/
def handleFileTransferCommand : Handler Replies :=
  catchStd (do
    perform .texts
    match c.cmdType with
    | .LS => enqueue .fileDataReplyQueueOut (ls node c reply)
    | .MKDIR => enqueue .fileDataReplyQueueOut (mkdir node c reply)
    | .DEL => enqueue .fileDataReplyQueueOut (del node c reply)
    | .DELDIR => enqueue .fileDataReplyQueueOut (delDir node c reply)
    | .SENDFILE => enqueue .fileDataReplyQueueOut (sendFile node c reply)
    | .MKFILE => enqueue .fileDataReplyQueueOut (mkFile node c reply)
    | .CPFILE => enqueue .fileDataReplyQueueOut (cpFile node c reply)
    | .ZIP => enqueue .fileDataReplyQueueOut (zip node c reply)
    | .DZIP => enqueue .fileDataReplyQueueOut (dZip node c reply)
    | _ => enqueue .mainCmdReplyQueueOut (pure reply)) (pure [])

/-! ## S3 -/

def bucket : String := cutFirstLeftStr c.cmd

def fileKey : String := cutFirstRightStr c.cmd

/-- The directory to save to is made when it is not there. -/
def makeDirectory (there : Bool) (path : String) : Handler Unit :=
  if there then pure () else perform (.mkdir path)

def getS3File : Handler NodeCmdReply :=
  if HasBoth c then do
    perform .s3Config
    let splitParas := cutLastStr (formatPath c.paras)
    let found ← ask (.pathExists splitParas)
    makeDirectory found.ok splitParas
    let got ← ask (.downloadfile (bucket c) (fileKey c) c.paras)
    if got.ok then listed node reply splitParas ("download s3 file success: " ++ c.paras)
    else pure (failed node reply ("download s3 file failed: " ++ c.paras))
  else pure (invalidParameter node reply)

/-- The frame of two commands on one object: `act`, and its two texts. -/
def s3Object (act : Call) (success failure : String) : Handler NodeCmdReply :=
  if HasBoth c then do
    perform .s3Config
    let done ← ask act
    if done.ok then listed node reply (cutLastStr (formatPath c.paras)) (success ++ c.paras)
    else pure (failed node reply (failure ++ c.paras))
  else pure (invalidParameter node reply)

def putS3File : Handler NodeCmdReply :=
  s3Object node c reply (.uploadfile (bucket c) (fileKey c) c.paras) "upload s3 file success: "
    "upload s3 file failed: "

def delS3File : Handler NodeCmdReply :=
  s3Object node c reply (.deleteObject (fileKey c) (bucket c)) "copy s3 file success: "
    "copy s3 file failed: "

def lsS3Dir : Handler NodeCmdReply :=
  if HasBoth c then do
    perform .s3Config
    let done ← ask (.listObjects c.cmd)
    if done.ok then
      pure (describe node { reply with status := .SUCCESS } ("upload s3 file success: " ++ c.paras))
    else pure (failed node reply ("upload s3 file failed: " ++ c.paras))
  else pure (invalidParameter node reply)

/-- `fileKeyRoot`, without its first letter. -/
def fileKeyRoot : String := String.ofList (fileKey c).toList.tail

/-- `fileKeyRoot.substr(1)`, which throws on an empty text. -/
def substr1 : Handler String := if fileKey c = "" then throwStd else pure (fileKeyRoot c)

/-- Success, with the watched directories. -/
def listWatchers : Handler NodeCmdReply := do
  let watchers ← ask .listAllWatchers
  pure { reply with status := .SUCCESS, desc := watchers.text }

/-- `keepFile`, `needZip` and `watchSubDir`, read from the parameter. -/
def watchFlags : Bool × Bool × Bool :=
  match Split.strings c.paras '#' with
  | keep :: need :: sub :: _ => (keep = "1", need = "1", sub = "1")
  | _ => (true, true, false)

def addS3Watch : Handler NodeCmdReply :=
  if HasBoth c then do
    perform .s3Config
    let root ← substr1 c
    let dir ← existsDirectory root
    if dir then do
      perform (.createFileWatcher root (bucket c) (node.nodeId ++ "/up/") (watchFlags c).1
        (watchFlags c).2.1 (watchFlags c).2.2)
      listWatchers reply
    else pure { reply with status := .INVALID, desc := "dir not exist or not directory!" }
  else pure (invalidParameter node reply)

def rmS3Watch : Handler NodeCmdReply :=
  if HasBoth c then do
    perform .s3Config
    let root ← substr1 c
    perform (.deleteFileWatcherByDirectory root)
    listWatchers reply
  else pure (failed node reply "invalid parameter")

def lsS3Watch : Handler NodeCmdReply :=
  if HasBoth c then do
    perform .s3Config
    listWatchers reply
  else pure (failed node reply "invalid parameter")

/-- `handle_s3_operations`; the branch for other types enqueues nothing. -/
def handleS3Operations : Handler Replies :=
  catchStd (do
    perform .texts
    match c.cmdType with
    | .GETS3FILE => enqueue .fileDataReplyQueueOut (getS3File node c reply)
    | .PUTS3FILE => enqueue .fileDataReplyQueueOut (putS3File node c reply)
    | .LSS3DIR => enqueue .fileDataReplyQueueOut (lsS3Dir node c reply)
    | .DELS3FILE => enqueue .fileDataReplyQueueOut (delS3File node c reply)
    | .ADDS3WATCH => enqueue .fileDataReplyQueueOut (addS3Watch node c reply)
    | .RMS3WATCH => enqueue .fileDataReplyQueueOut (rmS3Watch node c reply)
    | .LSS3WATCH => enqueue .fileDataReplyQueueOut (lsS3Watch node c reply)
    | _ => pure []) (pure [])

/-! ## The loop -/

/-- The `switch` of `process_node_cmd`. -/
def handle : Handler Replies :=
  match c.cmdType with
  | .LS | .MKDIR | .DEL | .DELDIR | .SENDFILE | .MKFILE | .CPFILE | .ZIP | .DZIP =>
      handleFileTransferCommand node c reply
  | .GETS3FILE | .PUTS3FILE | .LSS3DIR | .DELS3FILE | .ADDS3WATCH | .RMS3WATCH | .LSS3WATCH =>
      if node.useS3 then handleS3Operations node c reply else pure []
  | _ => pure []

/-- `process_node_cmd`. -/
def processNodeCmd : Handler Replies := do
  let reply ← fillReply node c
  handle node c reply

/-- What the loop of `writer_worker` does with a command. -/
def writerWorker : Handler Replies := catchStd (processNodeCmd node c) (pure [])

end FileWorker

end Commands

end Sadip

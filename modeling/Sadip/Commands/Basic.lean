import Sadip.Machinery.Calls
import Sadip.NodeCmdTopic
import Sadip.NodeCmdWorker

/-!
# Commands/Basic — what the handlers of commands share, `node/proto/node.proto`

A command is answered by a reply, which the handler fills in while it calls on the process manager,
the plugins, the containers and the file system.  Each of these calls is named here with what it is
given; what it gives back is up to the environment.
-/

namespace Sadip

namespace Commands

open Calls Calls.Asking NodeCmdTopic

/-! ## Replies -/

structure File where
  filePathName : String
  isDir : Bool
  fileSize : Int
  timestamp : Int
  deriving DecidableEq

structure NodeCmdReply where
  uuid : String
  cmdReplyUuid : String
  srcNodeId : String
  srcNodeName : String
  toNodeId : String
  toNodeName : String
  cmdType : CmdType
  status : CommStatus
  desc : String
  descStr : String
  result : List File
  deriving DecidableEq

/-- The queues of `utility::msg` that replies go to. -/
inductive ReplyQueue
  | mainCmdReplyQueueOut
  | fileDataReplyQueueOut
  deriving DecidableEq

/-- The replies a handler enqueues. -/
abbrev Replies := List (ReplyQueue × NodeCmdReply)

/-- What the node is. -/
structure Node where
  nodeId : String
  nodeName : String
  osType : String
  /-- `podm_` is not null -/
  hasPodman : Bool
  /-- built with `USE_S3` -/
  useS3 : Bool

/-! ## Calls -/

/-- What `get_bundle` is called for. -/
inductive BundleUse
  | uninstall
  | start
  | stop
  deriving DecidableEq

/-- The body of a request. -/
inductive Body
  | none
  /-- `jsonToString` of what `stringToJson` made of a text -/
  | json (text : String)
  /-- `jsonToString` of an object with these members -/
  | object (members : List (String × String))
  deriving DecidableEq

/-- What a handler calls; the names are those of the source. -/
inductive Call
  /-- `utility::uuid::generate`, and the fields that are copied to the reply -/
  | fill
  /-- the texts that a branch puts together -/
  | texts
  | system (command : String)
  | killAllProcess
  | addProcess (uuid runPath cmd : String)
  | removeProcess (uuid : String)
  | startProcess (uuid : String)
  | killProcess (uuid : String)
  | lsProcess
  | installBundles (dll : String)
  /-- `GetBundles`, and their names put into `symbolicNameToId` -/
  | registerBundles
  | getBundles
  | getBundle (use : BundleUse) (name : String)
  | uninstallBundle (name : String)
  | startBundle (name : String)
  | stopBundle (name : String)
  | startMonitoring (path : String)
  | stopMonitoring (path : String)
  | getActiveMonitors
  | executeCommand (command : String)
  | getOutput (command : String)
  | killCommand (command : String)
  | getAllProcesses
  | stringToJson (text : String)
  /-- `executeRequest`, up to the response -/
  | request (endpoint method : String) (body : Body)
  /-- `podman-compose`, up to its end -/
  | compose (command : List String)
  | writeComposeFile (filePath composeFile : String)
  | removeComposeFile (filePath : String)
  | pathExists (path : String)
  | isDirectory (path : String)
  | getFileInfos (path : String)
  | mkdir (path : String)
  | del (path : String)
  | removeAllFiles (path : String)
  | sendFile (fileName srcNodeId uuid toNodeId subDirs : String)
  | createFile (path : String)
  | copyTo (path copy : String)
  | zip (input output : String)
  | uZip (input output : String)
  | s3Config
  | downloadfile (bucket fileKey path : String)
  | uploadfile (bucket fileKey path : String)
  | listObjects (bucket : String)
  | deleteObject (fileKey bucket : String)
  | createFileWatcher (directory bucket root : String) (keepFile needZip watchSubDir : Bool)
  | deleteFileWatcherByDirectory (directory : String)
  | listAllWatchers
  deriving DecidableEq

/-- A bundle, as `setLsPluginDesc` lists it. -/
structure Bundle where
  id : Int
  symbolicName : String
  state : Int

/-- What a call gives back; each has its own part of it. -/
structure Result where
  /-- the `bool` of a call that has one -/
  ok : Bool := true
  /-- the status of a response, the exit code of a process -/
  code : Int := 0
  text : String := ""
  members : List (String × String) := []
  files : List File := []
  bundles : List Bundle := []
  instances : List ProcessManager.ProcessAttribute := []

/-- The outside of a handler.  No handler makes the same call twice. -/
abbrev Env := Call → Ending Result

/-- A handler, or a part of one. -/
abbrev Handler (α : Type) := Asking Call Result α

/-- The reply as a handler starts with it: a failure. -/
def fillReply (node : Node) (c : NodeCmd) : Handler NodeCmdReply := do
  let generated ← ask .fill
  pure {
    uuid := generated.text
    cmdReplyUuid := c.uuid
    srcNodeId := node.nodeId
    srcNodeName := node.nodeName
    toNodeId := c.srcNodeId
    toNodeName := c.srcNodeName
    cmdType := c.cmdType
    status := .INVALID
    desc := ""
    descStr := ""
    result := [] }

/-- Enqueue the reply that a branch ends with. -/
def enqueue (queue : ReplyQueue) (branch : Handler NodeCmdReply) : Handler Replies := do
  let reply ← branch
  pure [(queue, reply)]

/-! ## Texts, `utils/split.h` -/

open NodeCmdWorker (trim finds)

/-- `cutlaststr` at `/`: what stands before the last one. -/
def cutLastStr (s : String) : String :=
  if '/' ∈ s.toList then String.ofList ((s.toList.rdropWhile (· ≠ '/')).dropLast) else s

/-- `cutFisrtLeftStr` at `/`: what stands before the first one. -/
def cutFirstLeftStr (s : String) : String := String.ofList (s.toList.takeWhile (· ≠ '/'))

/-- `cutFisrtRightstr` at `/`: the first one and what follows, or the text when there is none. -/
def cutFirstRightStr (s : String) : String :=
  if '/' ∈ s.toList then String.ofList (s.toList.dropWhile (· ≠ '/')) else s

/-- `formatPath`. -/
def formatPath (path : String) : String :=
  if path.toList.head? = some '/' then "." ++ path else path

/-- Something of a text is left. -/
theorem cutFirstRightStr_ne {s : String} (h : s ≠ "") : cutFirstRightStr s ≠ "" := by
  rw [cutFirstRightStr]
  split
  · rename_i hmem
    intro heq
    have hdrop : s.toList.dropWhile (· ≠ '/') = [] := by
      rw [← String.toList_ofList (l := s.toList.dropWhile (· ≠ '/')), heq]
      rfl
    have hall := List.dropWhile_eq_nil_iff.mp hdrop '/' hmem
    simp at hall
  · exact h

end Commands

end Sadip

import Sadip.FileSplit.Opens
import Sadip.FileTopic.Receive
import Sadip.Machinery.Imperative
import Sadip.NodeCmdTopic

/-!
# NodeTopic — a node's configuration file, `node/src/NodeTopic.cpp`

`process_config` moves the configuration to a backup, writes the new one in its place, reads the
node id back out of that, and moves the backup back when the id is not the node's own.  None of the
file helpers tells it that it failed: a backup that was never made is moved back all the same, which
leaves an empty file.  `atomic_iff` is the exact list of the cases in which nothing is lost.
-/

namespace Sadip

namespace NodeTopic

open FileSplit FsPath Imperative Imperative.Prog NodeCmdTopic

/-! ## Messages -/

/-- The fields of `Node` that the reader looks at. -/
structure Node where
  uuid : String
  toNodeId : String
  srcNodeId : String
  toGroup : String
  toConfigPath : String
  config : Bytes

structure NodeReply where
  uuid : String
  toNodeId : String
  srcNodeId : String
  toGroup : String
  replyUuid : String
  status : CommStatus
  desc : String
  createdAt : Int
  updatedAt : Int

/-! ## The reader -/

/-- What the node is. -/
structure NodeInfo where
  nodeId : String
  nodeName : String
  needReply : Bool

/-- What the system makes of one call of `process_config`: the opens it grants, the uuid it makes
and the time. -/
structure Env where
  /-- `create_directories` does not throw -/
  mkdir : Bool
  /-- the move of the configuration to the backup -/
  backup : MoveOpens
  /-- `write_file` opens the configuration -/
  write : Bool
  /-- `INIReader` opens the configuration, and has the memory to read it -/
  reader : Bool
  /-- the move of the backup to the configuration -/
  restore : MoveOpens
  uuid : String
  now : Int

variable (readNodeId : Bytes → String) (info : NodeInfo)

/-- `reader.GetString("base", "node_id", "")`, where `readNodeId` is what `INIReader` finds in the
bytes of a file. -/
def newNodeId (granted : Bool) (fs : FileSystem) (configPath : String) : String :=
  if granted then ((fs.files (ofString configPath)).map readNodeId).getD "" else ""

/-- The reply, but for its status and description. -/
def fillReply (env : Env) (node : Node) (status : CommStatus) (desc : String) : NodeReply where
  uuid := env.uuid
  toNodeId := node.srcNodeId
  srcNodeId := node.toNodeId
  toGroup := node.toGroup
  replyUuid := node.uuid
  status
  desc
  createdAt := env.now
  updatedAt := env.now

/-- `utility::file::mkdir`. -/
def makeDir (granted : Bool) (path : String) : Prog FileSystem Unit :=
  if granted then modify (mkdir · path) else throw

/-- `fileName.back()`, of the pieces of the path. -/
def lastPiece (path : String) : Prog FileSystem String :=
  match (Split.strings path '/').getLast? with
  | some piece => pure piece
  | none => abort

/-- `process_config`. -/
def processConfig (env : Env) (node : Node) : Prog FileSystem NodeReply := do
  let configPath := node.toConfigPath
  let tmpDir := configPath ++ "_tmp" ++ "/"
  makeDir env.mkdir tmpDir
  let fileName ← lastPiece configPath
  let copyFilename := tmpDir ++ fileName
  modify fun fs => (moveOpening env.backup fs configPath copyFilename).2
  modify fun fs => writeFileOpening env.write fs configPath node.config
  let fs ← get
  if newNodeId readNodeId env.reader fs configPath = info.nodeId then
    pure (fillReply env node .SUCCESS (info.nodeName ++ " config update success!"))
  else do
    modify fun fs => (moveOpening env.restore fs copyFilename configPath).2
    pure (fillReply env node .INVALID
      ("Because nodeId unmatch, " ++ info.nodeName ++ " config update fail!"))

/-- `handle_node`: the reply that is sent, if one is. -/
def handleNode (env : Env) (node : Node) : Prog FileSystem (Option NodeReply) :=
  tryCatch
    (if info.needReply ∧ node.uuid ≠ "" then some <$> processConfig readNodeId info env node
      else pure none)
    (pure none)

/-! ## What is promised -/

/-- Where the backup of a configuration goes. -/
def copyFilename (configPath : String) : String :=
  configPath ++ "_tmp" ++ "/" ++ ((Split.strings configPath '/').getLast?).getD ""

/-- A call that answers `INVALID` leaves the configuration as it was; no call is without a defined
result. -/
def AtomicOnFailure (env : Env) (node : Node) (fs : FileSystem) : Prop :=
  match processConfig readNodeId info env node fs with
  | .done reply fs' => reply.status = .INVALID →
      fs'.files (ofString node.toConfigPath) = fs.files (ofString node.toConfigPath)
  | .thrown _ => True
  | .undefined => False

/-- The node finds its own id where the new configuration should be. -/
def Accepted (env : Env) (new : Bytes) (config : Option Bytes) : Prop :=
  (if env.reader then
    if env.write then readNodeId new
    else if env.backup.ifs then "" else (config.map readNodeId).getD ""
  else "") = info.nodeId

instance (env : Env) (new : Bytes) (config : Option Bytes) :
    Decidable (Accepted readNodeId info env new config) :=
  inferInstanceAs (Decidable (_ = _))

/-- When a configuration is found again after a failure, given what was at the backup's path. -/
def Restorable (env : Env) (new : Bytes) (backup : Option Bytes) : Option Bytes → Prop
  | none => env.restore.ofs = false ∧ env.write = false
  | some content =>
      if env.restore.ofs then
        -- it was read, and its backup was written and read
        (env.backup.ifs = true ∧ env.backup.ofs = true ∧ env.restore.ifs = true)
        -- it is what an older backup held
        ∨ (env.backup.ofs = false ∧ env.restore.ifs = true ∧ backup = some content)
        -- it was empty, and so is what is moved back
        ∨ (content = [] ∧ (env.restore.ifs = false ∨ env.backup.ofs = true ∨ backup = none))
      else if env.write then new = content else env.backup.ifs = false

/-! ## One call -/

variable {readNodeId info} {env : Env} {node : Node} {fs : FileSystem} {path : String}

theorem lastPiece_empty : lastPiece "" = abort := by rw [lastPiece, Split.strings_empty]; rfl

theorem lastPiece_of_ne (h : path ≠ "") : ∃ name, lastPiece path = pure name
    ∧ copyFilename path = path ++ "_tmp" ++ "/" ++ name := by
  have hlast : (Split.strings path '/').getLast? = some _ :=
    List.getLast?_eq_some_getLast (Split.strings_ne_nil h '/')
  exact ⟨_, by rw [lastPiece, hlast], by rw [copyFilename, hlast, Option.getD_some]⟩

/-- The backup is another file than the configuration. -/
theorem copyFilename_ne (h : path ≠ "") : ofString (copyFilename path) ≠ ofString path :=
  ofString_append_ne h (by decide) (by decide) _

/-- What is at the configuration's path after a failure. -/
def afterFailure (env : Env) (new : Bytes) (backup config : Option Bytes) : Option Bytes :=
  if env.restore.ofs then
    some (if env.restore.ifs then
      if env.backup.ofs then if env.backup.ifs then config.getD [] else [] else backup.getD []
    else [])
  else if env.write then some new else if env.backup.ifs then none else config

theorem afterFailure_eq_iff (new : Bytes) (backup config : Option Bytes) :
    afterFailure env new backup config = config ↔ Restorable env new backup config := by
  rcases env with ⟨-, ⟨ifs, ofs⟩, write, -, ⟨ifs', ofs'⟩, -, -⟩
  cases config <;> cases backup <;> cases ifs <;> cases ofs <;> cases write <;> cases ifs' <;>
    cases ofs' <;> simp [afterFailure, Restorable, eq_comm]

/-- The file system after the backup, and after the new configuration. -/
def written (env : Env) (node : Node) (fs : FileSystem) : FileSystem :=
  writeFileOpening env.write (moveOpening env.backup (mkdir fs (node.toConfigPath ++ "_tmp" ++ "/"))
    node.toConfigPath (copyFilename node.toConfigPath)).2 node.toConfigPath node.config

theorem files_written_config (h : node.toConfigPath ≠ "") :
    (written env node fs).files (ofString node.toConfigPath)
      = if env.write then some node.config
        else if env.backup.ifs then none else fs.files (ofString node.toConfigPath) := by
  rw [written, files_writeFileOpening_self, files_moveOpening_src (copyFilename_ne h).symm]
  rfl

theorem files_written_copy (h : node.toConfigPath ≠ "") :
    (written env node fs).files (ofString (copyFilename node.toConfigPath))
      = if env.backup.ofs then
          some (if env.backup.ifs then (fs.files (ofString node.toConfigPath)).getD [] else [])
        else fs.files (ofString (copyFilename node.toConfigPath)) := by
  rw [written, files_writeFileOpening_of_ne (copyFilename_ne h),
    files_moveOpening_dst (copyFilename_ne h).symm]
  rfl

theorem accepted_iff (h : node.toConfigPath ≠ "") :
    newNodeId readNodeId env.reader (written env node fs) node.toConfigPath = info.nodeId
      ↔ Accepted readNodeId info env node.config (fs.files (ofString node.toConfigPath)) := by
  rw [newNodeId, files_written_config h, Accepted]
  cases env.reader <;> cases env.write <;> cases env.backup.ifs <;> rfl

/-- **What a call does**, on a path that names something. -/
theorem processConfig_run (hmkdir : env.mkdir = true) (h : node.toConfigPath ≠ "") :
    processConfig readNodeId info env node fs
      = if newNodeId readNodeId env.reader (written env node fs) node.toConfigPath =
        info.nodeId then
          .done (fillReply env node .SUCCESS (info.nodeName ++ " config update success!"))
            (written env node fs)
        else .done (fillReply env node .INVALID
            ("Because nodeId unmatch, " ++ info.nodeName ++ " config update fail!"))
            (moveOpening env.restore (written env node fs) (copyFilename node.toConfigPath)
              node.toConfigPath).2 := by
  obtain ⟨name, hname, hcopy⟩ := lastPiece_of_ne h
  rw [processConfig, makeDir, if_pos hmkdir, hname, written, hcopy]
  show (if _ then _ else _ : Prog FileSystem NodeReply) _ = _
  split <;> rfl

theorem files_restored (h : node.toConfigPath ≠ "") :
    (moveOpening env.restore (written env node fs) (copyFilename node.toConfigPath)
        node.toConfigPath).2.files (ofString node.toConfigPath)
      = afterFailure env node.config (fs.files (ofString (copyFilename node.toConfigPath)))
          (fs.files (ofString node.toConfigPath)) := by
  rw [files_moveOpening_dst (copyFilename_ne h), files_written_config h, files_written_copy h,
    afterFailure]
  cases env.backup.ofs <;> rfl

/-- **When a failed update leaves the configuration as it was**: the directory for the backup could
not be made, or the path names something and the update does not fail, or the file is one that the
opens granted bring back. -/
theorem atomic_iff (readNodeId : Bytes → String) (info : NodeInfo) (env : Env) (node : Node)
    (fs : FileSystem) :
    AtomicOnFailure readNodeId info env node fs ↔ env.mkdir = false ∨ node.toConfigPath ≠ "" ∧
      (Accepted readNodeId info env node.config (fs.files (ofString node.toConfigPath)) ∨
        Restorable env node.config (fs.files (ofString (copyFilename node.toConfigPath)))
          (fs.files (ofString node.toConfigPath))) := by
  rcases hmkdir : env.mkdir with - | -
  · have hthrown : processConfig readNodeId info env node fs = .thrown fs := by
      rw [processConfig, makeDir, hmkdir]
      rfl
    rw [AtomicOnFailure, hthrown]
    simp
  by_cases hpath : node.toConfigPath = ""
  · have hundefined : processConfig readNodeId info env node fs = .undefined := by
      rw [processConfig, makeDir, if_pos hmkdir, hpath, lastPiece_empty]
      rfl
    rw [AtomicOnFailure, hundefined]
    simp [hpath]
  rw [AtomicOnFailure, processConfig_run hmkdir hpath, ← accepted_iff hpath]
  by_cases hid : newNodeId readNodeId env.reader (written env node fs) node.toConfigPath =
    info.nodeId
  · rw [if_pos hid]
    simp [fillReply, hid, hpath]
  · rw [if_neg hid]
    simp [fillReply, hid, hpath, files_restored hpath, afterFailure_eq_iff]

/-- A configuration that is for the node `n2`. -/
def otherConfig : Bytes := "[base]\nnode_id=n2\n".toUTF8.toList

/-- It is sent to the node `n1`. -/
def otherNode : Node := ⟨"u", "n1", "m", "g", "config/node.ini", otherConfig⟩

/-- Every open is granted. -/
def granted : Env := ⟨true, ⟨true, true⟩, true, true, ⟨true, true⟩, "r", 0⟩

/-- **The first configuration of a node**: with all opens granted, one that is for another node
leaves an empty file where there was none. -/
theorem not_atomic : ¬ ∀ (readNodeId : Bytes → String) (info : NodeInfo) (env : Env) (node : Node)
    (fs : FileSystem), AtomicOnFailure readNodeId info env node fs := by
  intro h
  have hcall := h (fun bytes => if bytes = otherConfig then "n2" else "") ⟨"n1", "edge", true⟩
    granted otherNode ⟨fun _ => none, fun _ => false⟩
  have hpath : otherNode.toConfigPath ≠ "" := by decide
  have hrejected : ¬ Accepted (fun bytes => if bytes = otherConfig then "n2" else "")
      ⟨"n1", "edge", true⟩ granted otherNode.config none := by
    show ¬ (if otherConfig = otherConfig then "n2" else "") = "n1"
    rw [if_pos rfl]
    decide
  rw [AtomicOnFailure, processConfig_run rfl hpath, if_neg ((accepted_iff hpath).not.mpr hrejected)]
    at hcall
  have hfiles := hcall rfl
  rw [files_restored hpath] at hfiles
  exact absurd hfiles (Option.some_ne_none _)

end NodeTopic

end Sadip

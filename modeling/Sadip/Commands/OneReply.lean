import Sadip.Commands.FileWorker
import Sadip.Commands.Worker

/-!
# Commands/OneReply — one reply for each command, `node/src/NodeCmdWorker.cpp`,
`node/src/FileTopic.cpp`

Every branch ends by enqueueing its reply, so a command is answered when its branch is gone through
to the end, and has one.
-/

namespace Sadip

namespace Commands

open Calls Calls.Asking NodeCmdTopic
open NodeCmdWorker (trim finds)

/-- What becomes of a command once `handle_cmd` has put it in one of its queues. -/
def dispatch (node : Node) (c : NodeCmd) : Handler Replies :=
  match route c.cmdType with
  | .mainCmdQueueIn => Worker.worker node c
  | .fileDataQueueIn => FileWorker.writerWorker node c

/-- One reply, to this command. -/
def Answered (c : NodeCmd) (replies : Replies) : Prop :=
  ∃ queue reply, replies = [(queue, reply)] ∧ reply.cmdReplyUuid = c.uuid

/-- **What is promised**: the command is dealt with, and answered once. -/
def OneReply (node : Node) (env : Env) (c : NodeCmd) : Prop :=
  Returns (dispatch node c) env (Answered c)

/-! ## Calls that come back -/

/-- The call comes back, with a result in `Q`. -/
def Comes (env : Env) (call : Call) (Q : Result → Prop := fun _ => True) : Prop :=
  Returns (ask call) env Q

/-- The call comes back, or throws a standard exception. -/
def Ends (env : Env) (call : Call) : Prop := env call = .threw true ∨ Comes env call

/-- A call on a path is made when the path is there, and what follows it when it says so. -/
def PathComes (env : Env) (path : String) (call : Call) (next : Prop) : Prop :=
  Comes env (.pathExists path) fun found => found.ok = true →
    Comes env call fun done => done.ok = true → next

variable {node : Node} {env : Env} {c : NodeCmd} {reply : NodeCmdReply} {queue : ReplyQueue}
  {branch : Handler NodeCmdReply}

theorem not_answered_nil : ¬ Answered c [] := by
  rintro ⟨queue, reply, h, -⟩
  cases h

theorem returns_enqueue : Returns (enqueue queue branch) env (Answered c)
    ↔ Returns branch env fun reply => reply.cmdReplyUuid = c.uuid := by
  have hone : ∀ reply, Answered c [(queue, reply)] ↔ reply.cmdReplyUuid = c.uuid := by
    intro reply
    constructor
    · rintro ⟨queue', reply', h, huuid⟩
      cases h
      exact huuid
    · exact fun h => ⟨queue, reply, rfl, h⟩
  simp only [enqueue, returns_bind, returns_pure, hone]

/-! ## The worker -/

namespace Worker

/-- A bundle is looked up, and started or stopped when it is found. -/
def BundleEnds (env : Env) (use : BundleUse) (name : String) (act : Call) : Prop :=
  env (.getBundle use name) = .threw true ∨
    Comes env (.getBundle use name) fun bundle => bundle.ok = true → Ends env act

/-- The calls of a branch come back, or end in a handler of its own. -/
def Answers (node : Node) (env : Env) (c : NodeCmd) : Prop :=
  match c.cmdType with
  | .REBOOT => finds c.cmd "REBOOT" = true → Comes env (.system "shutdown -r -t 0")
  -- without the word there is no reply
  | .RESTART => finds c.cmd "RESTART" = true ∧ Comes env .killAllProcess
  | .ADDPLUGIN => HasPlugin c "ADDPLUGIN" →
      let dll := c.paras ++ if node.osType = "windows" then ".dll" else ".so"
      (env (.installBundles dll) = .threw true ∨
        Comes env (.installBundles dll) fun _ => Ends env .registerBundles) ∧ Comes env .getBundles
  | .REMOVEPLUGIN => HasPlugin c "REMOVEPLUGIN" → Comes env (.getBundle .uninstall c.paras) fun _ =>
      Ends env (.uninstallBundle c.paras) ∧ Comes env .getBundles
  | .STARTPLUGIN => HasPlugin c "STARTPLUGIN" →
      BundleEnds env .start c.paras (.startBundle c.paras) ∧ Comes env .getBundles
  | .STOPPLUGIN => HasPlugin c "STOPPLUGIN" →
      BundleEnds env .stop c.paras (.stopBundle c.paras) ∧ Comes env .getBundles
  | .RESTARTPLUGIN => HasPlugin c "RESTARTPLUGIN" →
      BundleEnds env .stop c.paras (.stopBundle c.paras) ∧
        BundleEnds env .start c.paras (.startBundle c.paras) ∧ Comes env .getBundles
  | .LSPLUGIN => finds c.cmd "LSPLUGIN" = true → Comes env .getBundles
  | .ADDAPP => c.cmd.utf8ByteSize > 1 → PathComes env (trim (c.paras1 ++ c.cmd))
      (.addProcess (appUuid c) c.paras1 (trim c.cmd ++ " " ++ trim c.paras)) (Comes env .lsProcess)
  | .REMOVEAPP => c.cmd.utf8ByteSize > 1 → PathComes env (trim (c.paras1 ++ c.cmd))
      (.removeProcess (appUuid c)) (Comes env .lsProcess)
  | .STARTAPP => c.cmd.utf8ByteSize > 1 → PathComes env (trim (c.paras1 ++ c.cmd))
      (.startProcess (appUuid c)) (Comes env .lsProcess)
  | .STOPAPP => c.cmd.utf8ByteSize > 1 → PathComes env (trim (c.paras1 ++ c.cmd))
      (.killProcess (appUuid c)) (Comes env .lsProcess)
  | .RESTARTAPP => c.cmd.utf8ByteSize > 1 → PathComes env (trim (c.paras1 ++ c.cmd))
      (.killProcess (appUuid c))
      (Comes env (.startProcess (appUuid c)) fun _ => Comes env .lsProcess)
  | .LSAPP => finds c.cmd "LSAPP" = true → Comes env .lsProcess
  | .STARTTRACELOG => c.cmd.utf8ByteSize > 1 → Comes env (.pathExists (trim c.cmd)) fun found =>
      found.ok = true → Comes env (.startMonitoring (trim c.cmd)) fun _ =>
        Comes env .getActiveMonitors
  | .STOPTRACELOG => c.cmd.utf8ByteSize > 1 → Comes env (.pathExists (trim c.cmd)) fun found =>
      found.ok = true → Comes env (.stopMonitoring (trim c.cmd)) fun _ =>
        Comes env .getActiveMonitors
  | .LSTRACELOG => Comes env .getActiveMonitors
  | .STARTEXEC => c.cmd.utf8ByteSize > 1 →
      Comes env (.executeCommand (trim c.cmd ++ " " ++ trim c.paras)) fun _ =>
        Comes env (.getOutput (trim c.cmd ++ " " ++ trim c.paras))
  | .STOPEXEC | .RMEXEC => c.cmd.utf8ByteSize > 1 →
      Comes env (.killCommand (trim c.cmd ++ " " ++ trim c.paras)) fun _ =>
        Comes env .getAllProcesses
  | .LSEXEC => c.cmd.utf8ByteSize > 1 → Comes env .getAllProcesses
  | .PODMANCMD => HasPodman node c → ∀ p ∈ podmanCmd? c, Settles (runPodmanCmd c p) env
  | _ => True

theorem returns_setLsPluginDesc (h : reply.cmdReplyUuid = c.uuid) :
    Returns (setLsPluginDesc reply) env (fun reply => reply.cmdReplyUuid = c.uuid)
      ↔ Comes env .getBundles := by
  simp [setLsPluginDesc, Comes, h]

theorem settles_bundle {use : BundleUse} {name : String} {act : Call} :
    Settles (do
      let bundle ← ask (.getBundle use name)
      if bundle.ok then do
        perform act
        pure true
      else pure false : Handler Bool) env ↔ BundleEnds env use name act := by
  simp [settles_bind, settles_ite, settles_pure, BundleEnds, Ends, Comes, ask]

theorem returns_podman (h : reply.cmdReplyUuid = c.uuid) :
    Returns (podman node c reply) env (fun reply => reply.cmdReplyUuid = c.uuid)
      ↔ (HasPodman node c → ∀ p ∈ podmanCmd? c, Settles (runPodmanCmd c p) env) := by
  rcases hp : podmanCmd? c with - | p
  · simp [podman, returns_catchStd, hp, h]
  · simp [podman, returns_catchStd, bind_eq_threw, hp, h, Settles]

theorem returns_handle (h : reply.cmdReplyUuid = c.uuid) :
    Returns (handle node c reply) env (Answered c) ↔ Answers node env c := by
  cases ht : c.cmdType <;> simp only [handle, Answers, ht, returns_enqueue]
  case REBOOT => simp [reboot, Comes, h]
  case RESTART => simp [restart, returns_enqueue, not_answered_nil, Comes, h]
  case ADDPLUGIN =>
    simp [addPlugin, returns_setLsPluginDesc, returns_catchStd_pure, settles_bind, settles_pure,
      Ends, Comes, h]
  case REMOVEPLUGIN =>
    simp [removePlugin, returns_setLsPluginDesc, returns_catchStd_pure, settles_bind, settles_pure,
      Ends, Comes, h]
  case STARTPLUGIN =>
    simp [startPluginCmd, startPlugin, returns_setLsPluginDesc, returns_catchStd_pure,
      settles_bundle, h]
  case STOPPLUGIN =>
    simp [stopPluginCmd, stopPlugin, returns_setLsPluginDesc, returns_catchStd_pure,
      settles_bundle, h]
  case RESTARTPLUGIN =>
    simp [restartPlugin, startPlugin, stopPlugin, returns_setLsPluginDesc, returns_catchStd_pure,
      settles_bundle, h]
  case LSPLUGIN => simp [lsPlugin, setLsPluginDesc, Comes, h]
  case ADDAPP => simp [addApp, appCommand, listIf, lsReply, PathComes, Comes, h]
  case REMOVEAPP => simp [removeApp, appCommand, listIf, lsReply, PathComes, Comes, h]
  case STARTAPP => simp [startApp, appCommand, listIf, lsReply, PathComes, Comes, h]
  case STOPAPP => simp [stopApp, appCommand, listIf, lsReply, PathComes, Comes, h]
  case RESTARTAPP => simp [restartApp, appCommand, lsReply, PathComes, Comes, h]
  case LSAPP => simp [lsApp, lsReply, Comes, h]
  case STARTTRACELOG => simp [startTraceLog, traceLog, activeMonitors, Comes, h]
  case STOPTRACELOG => simp [stopTraceLog, traceLog, activeMonitors, Comes, h]
  case LSTRACELOG => simp [lsTraceLog, activeMonitors, Comes, h]
  case STARTEXEC => simp [startExec, execCommand, Comes, h]
  case STOPEXEC => simp [stopExec, execCommand, Comes, h]
  case RMEXEC => simp [rmExec, execCommand, Comes, h]
  case LSEXEC => simp [lsExec, Comes, h]
  case PODMANCMD => exact returns_podman h
  all_goals simp [h]

end Worker

/-! ## The file worker -/

namespace FileWorker

/-- A directory is looked for, and what follows happens when it is found. -/
def DirComes (env : Env) (path : String) (next : Prop) : Prop :=
  PathComes env path (.isDirectory path) next

/-- The files of the directory that a path is in are listed. -/
def Lists (env : Env) (path : String) : Prop := Comes env (.getFileInfos (cutLastStr path))

/-- Once the client has its settings. -/
def S3Comes (node : Node) (env : Env) (c : NodeCmd) (next : Prop) : Prop :=
  node.useS3 = true ∧ (HasBoth c → Comes env .s3Config fun _ => next)

/-- The calls of a branch come back; other types have none. -/
def Answers (node : Node) (env : Env) (c : NodeCmd) : Prop :=
  match c.cmdType with
  | .LS => c.paras ≠ "" → Comes env (.getFileInfos c.paras)
  | .MKDIR => c.paras ≠ "" → Comes env (.mkdir c.paras) fun _ => Lists env c.paras
  | .DEL => c.paras ≠ "" → PathComes env (trim c.paras) (.del c.paras) (Lists env c.paras)
  | .DELDIR => c.paras ≠ "" → DirComes env c.paras
      (Comes env (.removeAllFiles c.paras) fun _ => Lists env c.paras)
  | .SENDFILE => c.paras ≠ "" →
      Comes env (.sendFile c.paras c.toNodeId c.uuid c.srcNodeId c.paras) fun sent =>
        sent.ok = true → Lists env c.paras
  | .MKFILE => c.paras ≠ "" → Comes env (.pathExists (trim c.paras)) fun found =>
      found.ok = false → Comes env (.createFile (trim c.paras)) fun made =>
        made.ok = true → Lists env c.paras
  | .CPFILE => HasBoth c → Comes env (.pathExists (trim c.cmd)) fun found =>
      found.ok = true → Comes env (.copyTo (trim c.cmd) c.paras) fun _ => Lists env c.paras
  | .ZIP => c.paras ≠ "" →
      let zips := Comes env (.zip c.cmd c.paras) fun zipped =>
        zipped.ok = true → Comes env (.getFileInfos (zipDirectory c))
      match (trim c.cmd).toList.getLast? with
      -- a blank name has no last letter
      | none => False
      | some last => if last = '/' then DirComes env c.cmd zips
          else Comes env (.pathExists c.cmd) fun found => found.ok = true → zips
  | .DZIP => HasBoth c → PathComes env c.cmd (.uZip c.cmd c.paras) (Lists env ("./" ++ c.cmd))
  | .GETS3FILE =>
      let path := cutLastStr (formatPath c.paras)
      let got := Comes env (.downloadfile (bucket c) (fileKey c) c.paras) fun got =>
        got.ok = true → Comes env (.getFileInfos path)
      S3Comes node env c (Comes env (.pathExists path) fun found =>
        if found.ok = true then got else Comes env (.mkdir path) fun _ => got)
  | .PUTS3FILE => S3Comes node env c (Comes env (.uploadfile (bucket c) (fileKey c) c.paras)
      fun done => done.ok = true → Lists env (formatPath c.paras))
  | .DELS3FILE => S3Comes node env c (Comes env (.deleteObject (fileKey c) (bucket c))
      fun done => done.ok = true → Lists env (formatPath c.paras))
  | .ADDS3WATCH => S3Comes node env c (DirComes env (fileKeyRoot c)
      (Comes env (.createFileWatcher (fileKeyRoot c) (bucket c) (node.nodeId ++ "/up/")
        (watchFlags c).1 (watchFlags c).2.1 (watchFlags c).2.2) fun _ =>
          Comes env .listAllWatchers))
  | .RMS3WATCH => S3Comes node env c (Comes env (.deleteFileWatcherByDirectory (fileKeyRoot c))
      fun _ => Comes env .listAllWatchers)
  | .LSS3WATCH => S3Comes node env c (Comes env .listAllWatchers)
  | _ => False

-- whatever fills a reply in keeps the uuid of its command, which `simp` needs in every branch below
@[simp] theorem cmdReplyUuid_describe (text : String) :
    (describe node reply text).cmdReplyUuid = reply.cmdReplyUuid := rfl

@[simp] theorem cmdReplyUuid_invalidParameter :
    (invalidParameter node reply).cmdReplyUuid = reply.cmdReplyUuid := rfl

@[simp] theorem cmdReplyUuid_failed (text : String) :
    (failed node reply text).cmdReplyUuid = reply.cmdReplyUuid := rfl

theorem returns_listed (h : reply.cmdReplyUuid = c.uuid) (path text : String) :
    Returns (listed node reply path text) env (fun reply => reply.cmdReplyUuid = c.uuid)
      ↔ Comes env (.getFileInfos path) := by
  simp [listed, Comes, h]

theorem returns_substr1 {Q : String → Prop} (h : HasBoth c) :
    Returns (substr1 c) env Q ↔ Q (fileKeyRoot c) := by
  rw [substr1, if_neg (show fileKey c ≠ "" from cutFirstRightStr_ne h.1), returns_pure]

theorem returns_zipSource {Q : Bool → Prop} : Returns (zipSource c) env Q
    ↔ match (trim c.cmd).toList.getLast? with
      | none => False
      | some last => if last = '/' then Returns (existsDirectory c.cmd) env Q
          else Comes env (.pathExists c.cmd) fun found => Q found.ok := by
  rw [zipSource]
  rcases (trim c.cmd).toList.getLast? with - | last
  · simp
  · simp [Comes]

theorem returns_handle (h : reply.cmdReplyUuid = c.uuid) (hne : c.cmdType ≠ .LSS3DIR) :
    Returns (handle node c reply) env (Answered c)
      ↔ Comes env .texts fun _ => Answers node env c := by
  have hnil : ¬ Returns (pure [] : Handler Replies) env (Answered c) :=
    returns_pure.not.mpr not_answered_nil
  cases ht : c.cmdType <;>
    simp only [handle, handleFileTransferCommand, handleS3Operations, Answers, ht, returns_ite,
      returns_catchStd_of_not hnil, returns_bind, returns_perform, returns_enqueue, hnil]
  case LS =>
    simp [ls, returns_listed, Comes, h]
  case MKDIR =>
    simp [mkdir, returns_listed, Lists, Comes, h]
  case DEL =>
    simp [del, returns_listed, Lists, PathComes, Comes, h]
  case DELDIR =>
    simp [delDir, existsDirectory, returns_listed, Lists, DirComes, PathComes, Comes, h]
  case SENDFILE =>
    simp [sendFile, returns_listed, Lists, Comes, h]
  case MKFILE =>
    simp [mkFile, returns_listed, Lists, Comes, h]
  case CPFILE =>
    simp [cpFile, returns_listed, Lists, Comes, h]
  case ZIP =>
    simp only [zip, returns_ite, returns_bind, returns_zipSource]
    rcases (trim c.cmd).toList.getLast? with - | last
    · simp [Comes, h]
    · by_cases hdir : last = '/' <;>
        simp [existsDirectory, returns_listed, DirComes, PathComes, Comes, hdir, h]
  case DZIP =>
    simp [dZip, returns_listed, Lists, PathComes, Comes, h]
  case GETS3FILE =>
    cases hs3 : node.useS3 <;> simp [getS3File, makeDirectory, returns_listed, S3Comes, Comes, hs3,
      h]
  case PUTS3FILE =>
    cases hs3 : node.useS3 <;>
      simp [putS3File, s3Object, returns_listed, Lists, S3Comes, Comes, hs3, h]
  case DELS3FILE =>
    cases hs3 : node.useS3 <;>
      simp [delS3File, s3Object, returns_listed, Lists, S3Comes, Comes, hs3, h]
  case ADDS3WATCH =>
    cases hs3 : node.useS3 <;> simp +contextual [addS3Watch, existsDirectory, listWatchers,
      returns_substr1, DirComes, PathComes, S3Comes, Comes, hs3, h]
  case RMS3WATCH =>
    cases hs3 : node.useS3 <;>
      simp +contextual [rmS3Watch, listWatchers, returns_substr1, S3Comes, Comes, hs3, h]
  case LSS3WATCH =>
    cases hs3 : node.useS3 <;> simp [lsS3Watch, listWatchers, S3Comes, Comes, hs3, h]
  case LSS3DIR => exact absurd ht hne
  all_goals simp [Comes]

end FileWorker

/-! ## Both workers -/

/-- The calls that the command's branch makes come back, as far as an exception of theirs is not
caught right there; and the branch has a reply. -/
def Answers (node : Node) (env : Env) (c : NodeCmd) : Prop :=
  Comes env .fill fun _ => Comes env .texts fun _ =>
    match route c.cmdType with
    | .mainCmdQueueIn => Worker.Answers node env c
    | .fileDataQueueIn => FileWorker.Answers node env c

theorem returns_fillReply {Q : NodeCmdReply → Prop} {P : Prop}
    (hQ : ∀ reply, reply.cmdReplyUuid = c.uuid → (Q reply ↔ P)) :
    Returns (fillReply node c) env Q ↔ Comes env .fill fun _ => P := by
  simp only [fillReply, returns_bind, returns_pure, hQ, Comes]

theorem returns_worker :
    Returns (Worker.worker node c) env (Answered c)
      ↔ Comes env .fill fun _ => Comes env .texts fun _ => Worker.Answers node env c := by
  have hnil : ¬ Returns (pure [] : Handler Replies) env (Answered c) :=
    returns_pure.not.mpr not_answered_nil
  rw [Worker.worker, returns_bind]
  refine returns_fillReply fun reply h => ?_
  rw [returns_catchAll_of_not hnil, returns_bind, returns_perform]
  simp only [Worker.returns_handle h, Comes]

theorem returns_writerWorker (hne : c.cmdType ≠ .LSS3DIR) :
    Returns (FileWorker.writerWorker node c) env (Answered c)
      ↔ Comes env .fill fun _ => Comes env .texts fun _ => FileWorker.Answers node env c := by
  have hnil : ¬ Returns (pure [] : Handler Replies) env (Answered c) :=
    returns_pure.not.mpr not_answered_nil
  rw [FileWorker.writerWorker, returns_catchStd_of_not hnil, FileWorker.processNodeCmd,
    returns_bind]
  exact returns_fillReply fun reply h => FileWorker.returns_handle h hne

/-- **A command is answered once exactly when its branch gets to its reply**: the exceptions that
are caught around a whole `switch` leave the command without one. -/
theorem oneReply_iff (node : Node) (env : Env) (c : NodeCmd) :
    OneReply node env c ↔ Answers node env c := by
  rw [OneReply, dispatch, Answers]
  cases hroute : route c.cmdType
  · exact returns_worker
  · refine returns_writerWorker fun ht => ?_
    rw [ht] at hroute
    cases hroute

/-- A command without texts. -/
def plainCmd (cmdType : CmdType) : NodeCmd where
  uuid := "u"
  toNodeId := "n"
  srcNodeId := "m"
  srcNodeName := "manager"
  toGroup := ""
  cmd := ""
  paras := ""
  paras1 := ""
  paras2 := ""
  cmdType
  podmanCmd := 0

/-- A node with neither containers nor S3. -/
def plainNode : Node := ⟨"n", "node", "linux", false, false⟩

/-- Every call comes back. -/
def quiet : Env := fun _ => .done {}

/-- **Without its word in the command, `RESTART` is taken and not answered.** -/
theorem not_oneReply : ¬ OneReply plainNode quiet (plainCmd .RESTART) := by
  have hrun : dispatch plainNode (plainCmd .RESTART) quiet = .done [] := by decide +kernel
  rintro ⟨replies, h, hone⟩
  rw [hrun] at h
  cases h
  exact not_answered_nil hone

end Commands

end Sadip

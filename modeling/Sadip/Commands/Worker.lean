import Sadip.Commands.Podman

/-!
# Commands/Worker — the `switch` of `NodeCmdWorker::worker`, `node/src/NodeCmdWorker.cpp`

Each branch fills in the reply and enqueues it as its last step.  One `catch (...)` stands around
the whole `switch`, and enqueues nothing; some calls have a handler of their own.
-/

namespace Sadip

namespace Commands

open Calls Calls.Asking NodeCmdTopic
open NodeCmdWorker (trim finds combUuid setLsAppDesc)

namespace Worker

variable (node : Node) (c : NodeCmd) (reply : NodeCmdReply)

/-! ## Plugins -/

/-- `std::map::insert`, by the id. -/
def insertBundle (b : Bundle) : List Bundle → List Bundle
  | [] => [b]
  | x :: xs =>
      if b.id < x.id then b :: x :: xs else if b.id = x.id then x :: xs else x :: insertBundle b xs

/-- One bundle in `setLsPluginDesc`. -/
def bundleDesc (b : Bundle) : String :=
  "\x7b\"id\":" ++ toString b.id ++ ",\"SymbolicName\":\"" ++ b.symbolicName ++ "\"" ++
    ",\"State\":\"" ++ toString b.state ++ "\"" ++ "\x7d,"

/-- The text of `setLsPluginDesc`. -/
def pluginDesc (bundles : List Bundle) : String :=
  let json := (bundles.foldl (fun m b => insertBundle b m) []).foldl
    (fun json b => json ++ bundleDesc b)
    "["
  if json.utf8ByteSize > 1 then String.ofList json.toList.dropLast ++ "]" else json ++ "]"

/-- `setLsPluginDesc`. -/
def setLsPluginDesc : Handler NodeCmdReply := do
  let listed ← ask .getBundles
  pure { reply with desc := pluginDesc listed.bundles }

/-- `set_status(SUCCESS)`, if a call says so. -/
def succeedIf (ok : Bool) (reply : NodeCmdReply) : NodeCmdReply :=
  if ok then { reply with status := .SUCCESS } else reply

/-- `simp` needs this for the commands whose status is their result. -/
@[simp] theorem cmdReplyUuid_succeedIf (ok : Bool) (reply : NodeCmdReply) :
    (succeedIf ok reply).cmdReplyUuid = reply.cmdReplyUuid := by
  cases ok <;> rfl

/-- `start_plugin`. -/
def startPlugin (pluginName : String) : Handler Bool :=
  catchStd (do
    let bundle ← ask (.getBundle .start pluginName)
    if bundle.ok then do
      perform (.startBundle pluginName)
      pure true
    else pure false) (pure false)

/-- `stop_plugin`. -/
def stopPlugin (pluginName : String) : Handler Bool :=
  catchStd (do
    let bundle ← ask (.getBundle .stop pluginName)
    if bundle.ok then do
      perform (.stopBundle pluginName)
      pure true
    else pure false) (pure false)

/-- The command names itself and has a parameter. -/
def HasPlugin (name : String) : Prop := finds c.cmd name = true ∧ c.paras ≠ ""

instance (name : String) : Decidable (HasPlugin c name) :=
  inferInstanceAs (Decidable (finds c.cmd name = true ∧ c.paras ≠ ""))

def addPlugin : Handler NodeCmdReply :=
  if HasPlugin c "ADDPLUGIN" then do
    let dll := c.paras ++ if node.osType = "windows" then ".dll" else ".so"
    let ok ← catchStd (do
      perform (.installBundles dll)
      perform .registerBundles
      pure true) (pure false)
    setLsPluginDesc (succeedIf ok reply)
  else pure reply

def removePlugin : Handler NodeCmdReply :=
  if HasPlugin c "REMOVEPLUGIN" then do
    perform (.getBundle .uninstall c.paras)
    let ok ← catchStd (do
      perform (.uninstallBundle c.paras)
      pure true) (pure false)
    setLsPluginDesc (succeedIf ok reply)
  else pure reply

def startPluginCmd : Handler NodeCmdReply :=
  if HasPlugin c "STARTPLUGIN" then do
    let ok ← startPlugin c.paras
    setLsPluginDesc (succeedIf ok reply)
  else pure reply

def stopPluginCmd : Handler NodeCmdReply :=
  if HasPlugin c "STOPPLUGIN" then do
    let ok ← stopPlugin c.paras
    setLsPluginDesc (succeedIf ok reply)
  else pure reply

def restartPlugin : Handler NodeCmdReply :=
  if HasPlugin c "RESTARTPLUGIN" then do
    let _ ← stopPlugin c.paras
    let ok ← startPlugin c.paras
    setLsPluginDesc (succeedIf ok reply)
  else pure reply

def lsPlugin : Handler NodeCmdReply :=
  if finds c.cmd "LSPLUGIN" = true then do
    let reply ← setLsPluginDesc reply
    pure { reply with status := .SUCCESS }
  else pure reply

/-! ## Applications -/

/-- `ls_process` and `setLsAppDesc`. -/
def lsReply : Handler NodeCmdReply := do
  let listed ← ask .lsProcess
  pure { reply with desc := setLsAppDesc listed.instances, status := .SUCCESS }

/-- The frame of the five commands on one application. -/
def appCommand (act : Handler NodeCmdReply) : Handler NodeCmdReply :=
  if c.cmd.utf8ByteSize > 1 then do
    let found ← ask (.pathExists (trim (c.paras1 ++ c.cmd)))
    if found.ok then act else pure { reply with status := .INVALID }
  else pure reply

/-- What four of them do with the answer of the process manager. -/
def listIf (done : Result) : Handler NodeCmdReply :=
  if done.ok then lsReply reply else pure { reply with status := .SUCCESS }

def appUuid : String := combUuid c.paras1 c.cmd c.paras c.paras2

def addApp : Handler NodeCmdReply :=
  appCommand c reply do
    let done ← ask (.addProcess (appUuid c) c.paras1 (trim c.cmd ++ " " ++ trim c.paras))
    listIf reply done

def removeApp : Handler NodeCmdReply :=
  appCommand c reply do
    let done ← ask (.removeProcess (appUuid c))
    listIf reply done

def startApp : Handler NodeCmdReply :=
  appCommand c reply do
    let done ← ask (.startProcess (appUuid c))
    listIf reply done

def stopApp : Handler NodeCmdReply := do
  let reply ← appCommand c reply do
    let done ← ask (.killProcess (appUuid c))
    listIf reply done
  pure { reply with status := .SUCCESS }

def restartApp : Handler NodeCmdReply := do
  let reply ← appCommand c reply do
    let done ← ask (.killProcess (appUuid c))
    if done.ok then do
      perform (.startProcess (appUuid c))
      lsReply reply
    else pure { reply with status := .SUCCESS }
  pure { reply with status := .SUCCESS }

def lsApp : Handler NodeCmdReply :=
  if finds c.cmd "LSAPP" = true then lsReply reply else pure reply

/-! ## Logs and commands of the shell -/

/-- `getActiveMonitors`, and success. -/
def activeMonitors : Handler NodeCmdReply := do
  let monitors ← ask .getActiveMonitors
  pure { reply with desc := monitors.text, status := .SUCCESS }

/-- The frame of the two commands on one log. -/
def traceLog (act : String → Call) : Handler NodeCmdReply :=
  if c.cmd.utf8ByteSize > 1 then do
    let found ← ask (.pathExists (trim c.cmd))
    if found.ok then do
      perform (act (trim c.cmd))
      activeMonitors reply
    else pure { reply with status := .INVALID }
  else pure reply

def startTraceLog : Handler NodeCmdReply := traceLog c reply .startMonitoring

def stopTraceLog : Handler NodeCmdReply := traceLog c reply .stopMonitoring

def lsTraceLog : Handler NodeCmdReply := activeMonitors reply

/-- The frame of three commands on a command of the shell: one call, and a second one for `desc`. -/
def execCommand (act result : String → Call) : Handler NodeCmdReply :=
  if c.cmd.utf8ByteSize > 1 then do
    let uuid := trim c.cmd ++ " " ++ trim c.paras
    perform (act uuid)
    let output ← ask (result uuid)
    pure { reply with desc := output.text, status := .SUCCESS }
  else pure reply

def startExec : Handler NodeCmdReply := execCommand c reply .executeCommand .getOutput

def stopExec : Handler NodeCmdReply := execCommand c reply .killCommand fun _ => .getAllProcesses

def rmExec : Handler NodeCmdReply := execCommand c reply .killCommand fun _ => .getAllProcesses

def lsExec : Handler NodeCmdReply :=
  if c.cmd.utf8ByteSize > 1 then do
    let processes ← ask .getAllProcesses
    pure { reply with desc := processes.text, status := .SUCCESS }
  else pure reply

/-! ## The node itself and its containers -/

def reboot : Handler NodeCmdReply :=
  if finds c.cmd "REBOOT" = true then do
    perform (.system "shutdown -r -t 0")
    pure { reply with status := .SUCCESS }
  else pure reply

/-- `RESTART`, which is not answered unless the command says so; the process exits after the reply.
-/
def restart : Handler Replies :=
  if finds c.cmd "RESTART" = true then
    enqueue .mainCmdReplyQueueOut do
      let killed ← ask .killAllProcess
      pure { reply with status := if killed.ok then .SUCCESS else .INVALID }
  else pure []

/-- The number is one of a sub-command, or could be, and there is something to carry it out. -/
def HasPodman : Prop := 0 < c.podmanCmd ∧ c.podmanCmd ≤ 255 ∧ node.hasPodman = true

instance : Decidable (HasPodman node c) :=
  inferInstanceAs (Decidable (0 < c.podmanCmd ∧ c.podmanCmd ≤ 255 ∧ node.hasPodman = true))

/-- The sub-command of a command. -/
def podmanCmd? : Option PodmanCmd := PodmanCmd.ofNat? c.podmanCmd.toNat

/-- `PODMANCMD`; the text of the exception, which ends `desc_str` after a failure, is left out. -/
def podman : Handler NodeCmdReply :=
  if HasPodman node c then
    catchStd (do
      let reply ← match podmanCmd? c with
        | some p => do
            let text ← runPodmanCmd c p
            pure { reply with descStr := text }
        | none => pure { reply with status := .INVALID, descStr := "未知的Podman命令" }
      pure { reply with status := .SUCCESS })
      (pure { reply with status := .INVALID, descStr := "Podman命令执行失败: " })
  else pure reply

/-! ## The loop -/

/-- The `switch`. -/
def handle : Handler Replies :=
  match c.cmdType with
  | .REBOOT => enqueue .mainCmdReplyQueueOut (reboot c reply)
  | .RESTART => restart c reply
  | .ADDPLUGIN => enqueue .mainCmdReplyQueueOut (addPlugin node c reply)
  | .REMOVEPLUGIN => enqueue .mainCmdReplyQueueOut (removePlugin c reply)
  | .STARTPLUGIN => enqueue .mainCmdReplyQueueOut (startPluginCmd c reply)
  | .STOPPLUGIN => enqueue .mainCmdReplyQueueOut (stopPluginCmd c reply)
  | .RESTARTPLUGIN => enqueue .mainCmdReplyQueueOut (restartPlugin c reply)
  | .LSPLUGIN => enqueue .mainCmdReplyQueueOut (lsPlugin c reply)
  | .ADDAPP => enqueue .mainCmdReplyQueueOut (addApp c reply)
  | .REMOVEAPP => enqueue .mainCmdReplyQueueOut (removeApp c reply)
  | .STARTAPP => enqueue .mainCmdReplyQueueOut (startApp c reply)
  | .STOPAPP => enqueue .mainCmdReplyQueueOut (stopApp c reply)
  | .RESTARTAPP => enqueue .mainCmdReplyQueueOut (restartApp c reply)
  | .LSAPP => enqueue .mainCmdReplyQueueOut (lsApp c reply)
  | .STARTTRACELOG => enqueue .mainCmdReplyQueueOut (startTraceLog c reply)
  | .STOPTRACELOG => enqueue .mainCmdReplyQueueOut (stopTraceLog c reply)
  | .LSTRACELOG => enqueue .mainCmdReplyQueueOut (lsTraceLog reply)
  | .STARTEXEC => enqueue .mainCmdReplyQueueOut (startExec c reply)
  | .STOPEXEC => enqueue .mainCmdReplyQueueOut (stopExec c reply)
  | .RMEXEC => enqueue .mainCmdReplyQueueOut (rmExec c reply)
  | .LSEXEC => enqueue .mainCmdReplyQueueOut (lsExec c reply)
  | .PODMANCMD => enqueue .mainCmdReplyQueueOut (podman node c reply)
  | _ => enqueue .mainCmdReplyQueueOut (pure reply)

/-- One round of the loop in `worker`; an exception of `fillReply` leaves the thread. -/
def worker : Handler Replies := do
  let reply ← fillReply node c
  catchAll (do
    perform .texts
    handle node c reply) (pure [])

end Worker

end Commands

end Sadip

import Sadip.Commands.Basic

/-!
# Commands/Podman — containers, `node/src/PodmanManager.cpp`

Containers, images, networks, volumes and registries are served by requests, stacks by
`podman-compose`.  A request gives the body of the response, whatever its status is; a process that
ends with an error makes its operation throw.  `Strict` is the environment in which an error status
throws as well: an operation that still ends properly there has been carried out.
-/

namespace Sadip

namespace Commands

open Calls Calls.Asking

namespace PodmanManager

/-! ## Requests and processes -/

/-- `executeRequest`: the status of the response is not looked at. -/
def executeRequest (endpoint method : String) (body : Body := .none) : Handler String := do
  let response ← ask (.request endpoint method body)
  pure response.text

/-- The path is that of the source, a placeholder. -/
def getComposeFilePath (stackName : String) : String :=
  "/path/to/compose/files/" ++ stackName ++ ".yml"

/-- `executePodmanCompose`. -/
def executePodmanCompose (args : List String) (stackName : String := "") : Handler String := do
  let ended ← ask (.compose (["podman-compose"] ++
    (if stackName = "" then [] else ["-f", getComposeFilePath stackName]) ++ args))
  if ended.code ≠ 0 then throwStd else pure ended.text

def writeComposeFile (stackName composeFile : String) : Handler Unit :=
  perform (.writeComposeFile (getComposeFilePath stackName) composeFile)

/-- It removes the file that `writeComposeFile` has written. -/
def removeComposeFile (stackName : String) : Handler Unit :=
  perform (.removeComposeFile (getComposeFilePath stackName))

/-- `stringToJson`, for a body. -/
def stringToJson (text : String) : Handler Body := do
  perform (.stringToJson text)
  pure (.json text)

/-! ## Containers -/

/-- The containers that run, or all of them. -/
def listContainers (all : Bool) : Handler String :=
  executeRequest ("/libpod/containers/json?all=" ++ (if all then "true" else "false")) "GET"

/-- The caller's configuration is passed on as it is. -/
def createContainer (config : Body) : Handler String :=
  executeRequest "/libpod/containers/create" "POST" config

def startContainer (containerId : String) : Handler String :=
  executeRequest ("/libpod/containers/" ++ containerId ++ "/start") "POST"

def stopContainer (containerId : String) : Handler String :=
  executeRequest ("/libpod/containers/" ++ containerId ++ "/stop") "POST"

/-- Deleted, not stopped first. -/
def removeContainer (containerId : String) : Handler String :=
  executeRequest ("/libpod/containers/" ++ containerId) "DELETE"

def inspectContainer (containerId : String) : Handler String :=
  executeRequest ("/libpod/containers/" ++ containerId ++ "/json") "GET"

def restartContainer (containerId : String) : Handler String :=
  executeRequest ("/libpod/containers/" ++ containerId ++ "/restart") "POST"

def pauseContainer (containerId : String) : Handler String :=
  executeRequest ("/libpod/containers/" ++ containerId ++ "/pause") "POST"

def unpauseContainer (containerId : String) : Handler String :=
  executeRequest ("/libpod/containers/" ++ containerId ++ "/unpause") "POST"

/-- The command to run is in the configuration. -/
def execInContainer (containerId : String) (execConfig : Body) : Handler String :=
  executeRequest ("/libpod/containers/" ++ containerId ++ "/exec") "POST" execConfig

/-! ## Images, networks and volumes -/

def listImages : Handler String := executeRequest "/libpod/images/json" "GET"

/-- The name is put together from the registry, the image and the tag. -/
def pullImage (imageName tag registry : String) : Handler String :=
  executeRequest "/libpod/images/pull" "POST"
    (.object [("reference", registry ++ "/" ++ imageName ++ ":" ++ tag)])

def removeImage (imageId : String) : Handler String :=
  executeRequest ("/libpod/images/" ++ imageId) "DELETE"

def inspectImage (imageId : String) : Handler String :=
  executeRequest ("/libpod/images/" ++ imageId ++ "/json") "GET"

/-- A second name for the image. -/
def tagImage (imageId newTag : String) : Handler String :=
  executeRequest ("/libpod/images/" ++ imageId ++ "/tag") "POST" (.object [("tag", newTag)])

def listNetworks : Handler String := executeRequest "/libpod/networks" "GET"

/-- The configuration is passed on as it is. -/
def createNetwork (config : Body) : Handler String :=
  executeRequest "/libpod/networks/create" "POST" config

def removeNetwork (networkId : String) : Handler String :=
  executeRequest ("/libpod/networks/" ++ networkId) "DELETE"

def inspectNetwork (networkId : String) : Handler String :=
  executeRequest ("/libpod/networks/" ++ networkId) "GET"

def listVolumes : Handler String := executeRequest "/libpod/volumes" "GET"

def createVolume (config : Body) : Handler String :=
  executeRequest "/libpod/volumes/create" "POST" config

def removeVolume (volumeName : String) : Handler String :=
  executeRequest ("/libpod/volumes/" ++ volumeName) "DELETE"

def inspectVolume (volumeName : String) : Handler String :=
  executeRequest ("/libpod/volumes/" ++ volumeName) "GET"

/-! ## Stacks and registries -/

def listStacks : Handler String := executePodmanCompose ["ps", "--format", "json"]

/-- The file is written before it is used. -/
def deployStack (stackName composeFile : String) : Handler String := do
  writeComposeFile stackName composeFile
  executePodmanCompose ["up", "-d"] stackName

/-- The file is removed only if the stack could be taken down. -/
def removeStack (stackName : String) : Handler String := do
  let result ← executePodmanCompose ["down"] stackName
  removeComposeFile stackName
  pure result

def inspectStack (stackName : String) : Handler String :=
  executePodmanCompose ["ps", "--format", "json"] stackName

/-- The same as `deployStack`. -/
def updateStack (stackName composeFile : String) : Handler String := do
  writeComposeFile stackName composeFile
  executePodmanCompose ["up", "-d"] stackName

def startStack (stackName : String) : Handler String := executePodmanCompose ["start"] stackName

def stopStack (stackName : String) : Handler String := executePodmanCompose ["stop"] stackName

def restartStack (stackName : String) : Handler String := executePodmanCompose ["restart"] stackName

def pauseStack (stackName : String) : Handler String := executePodmanCompose ["pause"] stackName

def unpauseStack (stackName : String) : Handler String := executePodmanCompose ["unpause"] stackName

/-- `scaleStack`, with the members of the object `stringToJson` makes. -/
def scaleStack (stackName serviceScaleConfig : String) : Handler String := do
  let config ← ask (.stringToJson serviceScaleConfig)
  executePodmanCompose ("scale" :: config.members.map fun pair => pair.1 ++ "=" ++ pair.2) stackName

def getStackLogs (stackName : String) : Handler String := executePodmanCompose ["logs"] stackName

def listRegistries : Handler String := executeRequest "/libpod/registries" "GET"

/-- A registry is known by its address. -/
def addRegistry (url : String) : Handler String :=
  executeRequest "/libpod/registries" "POST" (.object [("url", url)])

def removeRegistry (url : String) : Handler String :=
  executeRequest ("/libpod/registries/" ++ url) "DELETE"

/-- The password goes into the request as it is. -/
def loginRegistry (url username password : String) : Handler String :=
  executeRequest "/libpod/auth" "POST"
    (.object [("url", url), ("username", username), ("password", password)])

end PodmanManager

/-! ## The sub-commands -/

/-- `PodmanCmd`. -/
inductive PodmanCmd
  | LIST_CONTAINERS | CREATE_CONTAINER | START_CONTAINER | STOP_CONTAINER | REMOVE_CONTAINER
  | INSPECT_CONTAINER | RESTART_CONTAINER | PAUSE_CONTAINER | UNPAUSE_CONTAINER | EXEC_IN_CONTAINER
  | LIST_IMAGES | PULL_IMAGE | REMOVE_IMAGE | INSPECT_IMAGE | TAG_IMAGE
  | LIST_NETWORKS | CREATE_NETWORK | REMOVE_NETWORK | INSPECT_NETWORK
  | LIST_VOLUMES | CREATE_VOLUME | REMOVE_VOLUME | INSPECT_VOLUME
  | LIST_STACKS | DEPLOY_STACK | REMOVE_STACK | INSPECT_STACK | UPDATE_STACK | START_STACK
  | STOP_STACK | RESTART_STACK | PAUSE_STACK | UNPAUSE_STACK | SCALE_STACK | GET_STACK_LOGS
  | LIST_REGISTRIES | ADD_REGISTRY | REMOVE_REGISTRY | LOGIN_REGISTRY
  deriving DecidableEq

/-- The sub-command with this number, if there is one. -/
def PodmanCmd.ofNat? (n : ℕ) : Option PodmanCmd :=
  ([.LIST_CONTAINERS, .CREATE_CONTAINER, .START_CONTAINER, .STOP_CONTAINER, .REMOVE_CONTAINER,
    .INSPECT_CONTAINER, .RESTART_CONTAINER, .PAUSE_CONTAINER, .UNPAUSE_CONTAINER,
    .EXEC_IN_CONTAINER, .LIST_IMAGES, .PULL_IMAGE, .REMOVE_IMAGE, .INSPECT_IMAGE, .TAG_IMAGE,
    .LIST_NETWORKS, .CREATE_NETWORK, .REMOVE_NETWORK, .INSPECT_NETWORK, .LIST_VOLUMES,
    .CREATE_VOLUME, .REMOVE_VOLUME, .INSPECT_VOLUME, .LIST_STACKS, .DEPLOY_STACK, .REMOVE_STACK,
    .INSPECT_STACK, .UPDATE_STACK, .START_STACK, .STOP_STACK, .RESTART_STACK, .PAUSE_STACK,
    .UNPAUSE_STACK, .SCALE_STACK, .GET_STACK_LOGS, .LIST_REGISTRIES, .ADD_REGISTRY,
    .REMOVE_REGISTRY, .LOGIN_REGISTRY] : List PodmanCmd)[n]?

open PodmanManager NodeCmdTopic in
/-- The inner `switch` of `PODMANCMD`: what goes to `desc_str`. -/
def runPodmanCmd (c : NodeCmd) : PodmanCmd → Handler String
  | .LIST_CONTAINERS => listContainers true
  | .CREATE_CONTAINER => stringToJson c.paras2 >>= createContainer
  | .START_CONTAINER => startContainer c.paras
  | .STOP_CONTAINER => stopContainer c.paras
  | .REMOVE_CONTAINER => removeContainer c.paras
  | .INSPECT_CONTAINER => inspectContainer c.paras
  | .RESTART_CONTAINER => restartContainer c.paras
  | .PAUSE_CONTAINER => pauseContainer c.paras
  | .UNPAUSE_CONTAINER => unpauseContainer c.paras
  | .EXEC_IN_CONTAINER => stringToJson c.paras2 >>= execInContainer c.paras
  | .LIST_IMAGES => listImages
  | .PULL_IMAGE => pullImage c.paras c.paras1 c.paras2
  | .REMOVE_IMAGE => removeImage c.paras
  | .INSPECT_IMAGE => inspectImage c.paras
  | .TAG_IMAGE => tagImage c.paras c.paras1
  | .LIST_NETWORKS => listNetworks
  | .CREATE_NETWORK => stringToJson c.paras2 >>= createNetwork
  | .REMOVE_NETWORK => removeNetwork c.paras
  | .INSPECT_NETWORK => inspectNetwork c.paras
  | .LIST_VOLUMES => listVolumes
  | .CREATE_VOLUME => stringToJson c.paras2 >>= createVolume
  | .REMOVE_VOLUME => removeVolume c.paras
  | .INSPECT_VOLUME => inspectVolume c.paras
  | .LIST_STACKS => listStacks
  | .DEPLOY_STACK => deployStack c.paras c.paras1
  | .REMOVE_STACK => removeStack c.paras
  | .INSPECT_STACK => inspectStack c.paras
  | .UPDATE_STACK => updateStack c.paras c.paras1
  | .START_STACK => startStack c.paras
  | .STOP_STACK => stopStack c.paras
  | .RESTART_STACK => restartStack c.paras
  | .PAUSE_STACK => pauseStack c.paras
  | .UNPAUSE_STACK => unpauseStack c.paras
  | .SCALE_STACK => scaleStack c.paras c.paras2
  | .GET_STACK_LOGS => getStackLogs c.paras
  | .LIST_REGISTRIES => listRegistries
  | .ADD_REGISTRY => addRegistry c.paras
  | .REMOVE_REGISTRY => removeRegistry c.paras
  | .LOGIN_REGISTRY => loginRegistry c.paras c.paras1 c.paras2

/-! ## What was carried out -/

/-- A status that says that the request was carried out. -/
def HttpOk (status : Int) : Prop := 200 ≤ status ∧ status < 300

instance (status : Int) : Decidable (HttpOk status) :=
  inferInstanceAs (Decidable (200 ≤ status ∧ status < 300))

/-- The environment that throws when a response has an error status. -/
def Strict (env : Env) : Env := fun call =>
  match call, env call with
  | .request _ _ _, .done response => if HttpOk response.code then .done response else .threw true
  | _, e => e

/-- Where no response has an error status, being strict changes nothing. -/
theorem strict_eq_self {env : Env} (h : ∀ endpoint method body response,
    env (.request endpoint method body) = .done response → HttpOk response.code) :
    Strict env = env := by
  funext call
  unfold Strict
  split
  · rename_i hdone
    rw [if_pos (h _ _ _ _ hdone), hdone]
  · rfl

end Commands

end Sadip

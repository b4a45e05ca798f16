import Mathlib.Data.List.DropRight
import Mathlib.Data.List.Infix
import Sadip.Machinery.Run
import Sadip.ProcessManager.Start

/-!
# NodeCmdWorker — the application commands, `node/src/NodeCmdWorker.cpp`

The worker takes one command after another from its queue, and a listener ticks in between.  The
registry of applications is meant to change by `ADDAPP`, `REMOVEAPP` and `RESTART` only; a stop is
meant to leave the application registered, to be started again.

`registry_lawful_iff` says which runs keep to this: those in which no `STOPAPP`, `RESTARTAPP` or
`REMOVEAPP` gets through to a registered application, and what it leaves there was supervised
before, or is started by the `STARTAPP` after it.
-/

namespace Sadip

namespace NodeCmdWorker

open Imperative Imperative.Prog ProcessManager

/-! ## Commands and replies -/

/-- The command types that reach the registry. -/
inductive CmdType
  | RESTART
  | ADDAPP
  | REMOVEAPP
  | STARTAPP
  | STOPAPP
  | RESTARTAPP
  | LSAPP
  deriving DecidableEq

structure NodeCmd where
  uuid : String
  cmdType : CmdType
  cmd : String
  paras : String
  paras1 : String
  paras2 : String
  deriving DecidableEq

inductive CommStatus
  | SUCCESS
  | INVALID
  deriving DecidableEq

structure NodeCmdReply where
  cmdReplyUuid : String
  cmdType : CmdType
  status : CommStatus
  desc : String
  deriving DecidableEq

/-- `utility::string::trim`: only blanks. -/
def trim (s : String) : String :=
  String.ofList ((s.toList.dropWhile (· = ' ')).rdropWhile (· = ' '))

/-- `s.find(sub) != std::string::npos`. -/
def finds (s sub : String) : Bool := sub.toList <:+: s.toList

/-- `combUuid`. -/
def combUuid (paras1 cmd paras paras2 : String) : String :=
  trim (paras1 ++ " " ++ cmd ++ " " ++ paras ++ " " ++ paras2)

/-- The uuid of the application a command is about. -/
def NodeCmd.appUuid (c : NodeCmd) : String := combUuid c.paras1 c.cmd c.paras c.paras2

/-- `nodeCmdReply` as a command finds it. -/
def NodeCmd.reply (c : NodeCmd) : NodeCmdReply where
  cmdReplyUuid := c.uuid
  cmdType := c.cmdType
  status := .INVALID
  desc := ""

/-- One application in `setLsAppDesc`. -/
def appDesc (p : ProcessAttribute) : String :=
  "\x7b\"id\":" ++ toString p.child.id ++ ",\"state\":\"" ++ (if p.exceptionFlag then "0" else "1") ++ "\"" ++
    ",\"uuid\":\"" ++ p.uuid ++ "\"" ++ ",\"launch_cmd\":\"" ++ p.launchCmd ++ "\"" ++
    ",\"paras1\":\"" ++ p.workPath ++ "\"" ++ ",\"paras2\":\" \"" ++ "\x7d,"

/-- The text `setLsAppDesc` puts in a reply. -/
def setLsAppDesc (instances : List ProcessAttribute) : String :=
  let json := instances.foldl (fun json p => json ++ appDesc p) "["
  if json.utf8ByteSize > 2 then String.ofList json.toList.dropLast ++ "]" else json ++ "]"

/-! ## The commands

Each command of an application first asks whether its file exists; the answer, or that the call
throws, comes with the command. -/

/-- The reply with the list of applications. -/
def lsReply (reply : NodeCmdReply) : Prog State NodeCmdReply := do
  let _ ← lsProcess
  let s ← get
  pure { reply with desc := setLsAppDesc s.instances, status := .SUCCESS }

/-- The frame of the five commands on one application. -/
def appCommand (c : NodeCmd) (exists? : Option Bool) (act : Prog State NodeCmdReply) :
    Prog State NodeCmdReply :=
  if c.cmd.utf8ByteSize > 1 then
    match exists? with
    | none => throw
    | some true => act
    | some false => pure { c.reply with status := .INVALID }
  else pure { c.reply with status := .INVALID }

/-- What four of them do with the answer of the process manager. -/
def listIf (c : NodeCmd) (ok : Bool) : Prog State NodeCmdReply :=
  if ok then lsReply c.reply else pure { c.reply with status := .SUCCESS }

/-- `ADDAPP`. -/
def addApp (c : NodeCmd) (exists? : Option Bool) : Prog State NodeCmdReply :=
  appCommand c exists? do
    let ok ← addProcess c.appUuid c.paras1 (trim c.cmd ++ " " ++ trim c.paras) true
    listIf c ok

/-- `REMOVEAPP`. -/
def removeApp (c : NodeCmd) (exists? : Option Bool) : Prog State NodeCmdReply :=
  appCommand c exists? do
    let ok ← removeProcess c.appUuid
    listIf c ok

/-- `STARTAPP`. -/
def startApp (c : NodeCmd) (exists? : Option Bool) : Prog State NodeCmdReply :=
  appCommand c exists? do
    let ok ← startProcess c.appUuid
    listIf c ok

/-- `STOPAPP`: success in any case. -/
def stopApp (c : NodeCmd) (exists? : Option Bool) : Prog State NodeCmdReply := do
  let reply ← appCommand c exists? do
    let ok ← killProcess c.appUuid
    listIf c ok
  pure { reply with status := .SUCCESS }

/-- `RESTARTAPP`: success in any case. -/
def restartApp (c : NodeCmd) (exists? : Option Bool) : Prog State NodeCmdReply := do
  let reply ← appCommand c exists? do
    let ok ← killProcess c.appUuid
    if ok then do
      let _ ← startProcess c.appUuid
      lsReply c.reply
    else pure { c.reply with status := .SUCCESS }
  pure { reply with status := .SUCCESS }

/-- `LSAPP`. -/
def lsApp (c : NodeCmd) : Prog State NodeCmdReply :=
  if finds c.cmd "LSAPP" then lsReply c.reply else pure c.reply

/-- `RESTART`; the process exits after it. -/
def restart (c : NodeCmd) : Prog State (Option NodeCmdReply) :=
  if finds c.cmd "RESTART" then do
    let ok ← killAllProcess
    pure (some { c.reply with status := if ok then .SUCCESS else .INVALID })
  else pure none

/-- The `switch` of `worker`: the reply it enqueues. -/
def handle (c : NodeCmd) (exists? : Option Bool) : Prog State (Option NodeCmdReply) :=
  match c.cmdType with
  | .RESTART => restart c
  | .ADDAPP => some <$> addApp c exists?
  | .REMOVEAPP => some <$> removeApp c exists?
  | .STARTAPP => some <$> startApp c exists?
  | .STOPAPP => some <$> stopApp c exists?
  | .RESTARTAPP => some <$> restartApp c exists?
  | .LSAPP => some <$> lsApp c

/-! ## Runs -/

/-- What happens to the registry: a command, with the answer about its file, or a tick of the
listener. -/
inductive Input
  | cmd (c : NodeCmd) (exists? : Option Bool)
  | tick

/-- What an input does to the registry, and the reply it enqueues. -/
def effect : Input → Prog State (Option NodeCmdReply)
  | .cmd c exists? => handle c exists?
  | .tick => do
      let _ ← listener
      pure none

/-- The registry and the replies enqueued so far. -/
structure Worker where
  pm : State
  replies : List NodeCmdReply

/-- An exception ends an input without a reply. -/
def step (w : Worker) (c : Input) : Option Worker :=
  match effect c w.pm with
  | .done reply? s => some { pm := s, replies := w.replies ++ reply?.toList }
  | .thrown s => some { w with pm := s }
  | .undefined => none

theorem step_pm (w : Worker) (c : Input) : (step w c).map (·.pm) = (effect c w.pm).state := by
  rw [step]
  rcases effect c w.pm <;> rfl

/-! ## The law of the registry -/

/-- A command of this type that gets to the application with this uuid. -/
def Reaches (t : CmdType) (uuid : String) (c : Input) : Prop :=
  ∃ n, c = .cmd n (some true) ∧ n.cmdType = t ∧ n.cmd.utf8ByteSize > 1 ∧ n.appUuid = uuid

/-- The inputs meant to change what is registered. -/
def MayRegister : Input → Prop
  | .cmd n _ => n.cmdType = .ADDAPP ∨ n.cmdType = .REMOVEAPP ∨ n.cmdType = .RESTART
  | .tick => False

/-- The application is registered once, has been started, and is expected to run. -/
def Supervised (uuid : String) (s : State) : Prop :=
  (registered s).count uuid = 1 ∧ Going uuid s

/-- What one input has to keep to: only the inputs meant to change the registered uuids do, and a
restarted application is supervised. -/
structure Lawful (w : Worker) (c : Input) (w' : Worker) : Prop where
  registry : ¬ MayRegister c → registered w'.pm = registered w.pm
  restart : ∀ uuid, Reaches .RESTARTAPP uuid c → uuid ∈ registered w.pm → Supervised uuid w'.pm

/-- What a stop and the start after it have to keep to. -/
def StopStart (w : Worker) (c d : Input) (w' : Worker) : Prop :=
  ∀ uuid, Reaches .STOPAPP uuid c → Reaches .STARTAPP uuid d → uuid ∈ registered w.pm →
    Supervised uuid w'.pm

/-- A run that has a result and keeps to the law at every input. -/
def LawfulRun : Worker → List Input → Prop
  | _, [] => True
  | w, c :: cs => ∃ w', step w c = some w' ∧ Lawful w c w' ∧
      (∀ d ds, cs = d :: ds → ∃ w'', step w' d = some w'' ∧ StopStart w c d w'') ∧ LawfulRun w' cs

/-- No stop, restart or removal gets through to a registered application. -/
structure Spares (s : State) (c : Input) : Prop where
  stop : ∀ uuid, Reaches .STOPAPP uuid c → Spared uuid s
  restart : ∀ uuid, Reaches .RESTARTAPP uuid c → Spared uuid s
  remove : ∀ uuid, Reaches .REMOVEAPP uuid c → Spared uuid s

/-- A restart, which then does nothing, is of an application that was supervised before. -/
def Restarts (s : State) (c : Input) : Prop :=
  ∀ uuid, Reaches .RESTARTAPP uuid c → uuid ∈ registered s → Supervised uuid s

/-- A start makes a supervised application of one that has been started: it was expected to run
before, or the start gets it going. -/
def Recoverable (uuid : String) (s : State) : Prop :=
  (registered s).count uuid = 1 ∧
    ((uuid, true) ∈ expectations s ∨ GetsGoing uuid s.instances s.answers)

/-- A start right after a stop, which has done nothing, makes a supervised application of what it
finds. -/
def Restores (s : State) (c d : Input) (s' : State) : Prop :=
  ∀ uuid, Reaches .STOPAPP uuid c → Reaches .STARTAPP uuid d → uuid ∈ registered s →
    Recoverable uuid s'

/-- A run whose inputs spare the table and leave their applications supervised. -/
def SparingRun : Worker → List Input → Prop
  | _, [] => True
  | w, c :: cs => Spares w.pm c ∧ Restarts w.pm c ∧ ∀ w', step w c = some w' →
      (∀ d ds, cs = d :: ds → Restores w.pm c d w'.pm) ∧ SparingRun w' cs

/-! ## One command -/

variable {us : List String} {n : NodeCmd} {exists? : Option Bool} {act : Prog State NodeCmdReply}
  {s : State}

theorem keeps_lsReply (reply : NodeCmdReply) : Keeps (Registers us) (lsReply reply) :=
  keeps_bind keeps_listener fun _ => keeps_bind keeps_get fun _ => keeps_pure _

theorem keeps_listIf (ok : Bool) : Keeps (Registers us) (listIf n ok) :=
  keeps_ite (fun _ => keeps_lsReply _) fun _ => keeps_pure _

/-- The command gets past the frame. -/
def Passes (n : NodeCmd) (exists? : Option Bool) : Prop :=
  n.cmd.utf8ByteSize > 1 ∧ exists? = some true

theorem appCommand_of_passes (h : Passes n exists?) : appCommand n exists? act = act := by
  rw [h.2]
  exact if_pos h.1

theorem appCommand_state (h : ¬ Passes n exists?) (s : State) :
    (appCommand n exists? act s).state = some s := by
  by_cases hsize : n.cmd.utf8ByteSize > 1
  · rcases exists? with - | ⟨- | -⟩ <;> rw [appCommand.eq_def, if_pos hsize]
    · rfl
    · rfl
    · exact absurd ⟨hsize, rfl⟩ h
  · rw [appCommand.eq_def, if_neg hsize]
    rfl

theorem keeps_appCommand (h : Keeps (Registers us) act) :
    Keeps (Registers us) (appCommand n exists? act) := by
  refine keeps_ite (fun _ => ?_) fun _ => keeps_pure _
  rcases exists? with - | ⟨- | -⟩
  · exact keeps_throw
  · exact keeps_pure _
  · exact h

/-- **A command that kills** is defined, and keeps the registry, exactly when the kill is spared. -/
theorem kill_iff {f : Bool → Prog State NodeCmdReply} (hf : ∀ us b, Keeps (Registers us) (f b)) :
    (∃ s', (appCommand n exists? (killProcess n.appUuid >>= f) s).state = some s' ∧
      registered s' = registered s) ↔ (Passes n exists? → Spared n.appUuid s) := by
  by_cases hpass : Passes n exists?
  · rw [appCommand_of_passes hpass]
    refine ⟨fun ⟨s', hs', _⟩ _ => by_contra fun hno => ?_, fun h => ?_⟩
    · rw [bind_undefined (killProcess_not_spared hno)] at hs'
      cases hs'
    · obtain ⟨b, s₁, hrun, hs₁⟩ := killProcess_spared (h hpass)
      have hreg : Registers (registered s) s₁ := by rw [Registers, registered, registered, hs₁]
      rw [bind_done hrun]
      exact (hf (registered s) b).state hreg
  · exact iff_of_true ⟨s, appCommand_state hpass s, rfl⟩ fun h => absurd h hpass

/-- **A removal is defined** exactly when its kill is spared. -/
theorem remove_iff : (∃ s', (appCommand n exists? (removeProcess n.appUuid >>= listIf n) s).state
    = some s') ↔ (Passes n exists? → Spared n.appUuid s) := by
  by_cases hpass : Passes n exists?
  · rw [appCommand_of_passes hpass, removeProcess, bind_assoc]
    refine ⟨fun ⟨s', hs'⟩ _ => by_contra fun hno => ?_, fun h => ?_⟩
    · rw [bind_undefined (killProcess_not_spared hno)] at hs'
      cases hs'
    · obtain ⟨b, s₁, hrun, -⟩ := killProcess_spared (h hpass)
      rw [bind_done hrun, bind_assoc, bind_done (modify_run _ _)]
      obtain ⟨s', hs', -⟩ := (keeps_listIf (n := n) true).state
        (s := { s₁ with instances := s₁.instances.filter (·.uuid ≠ n.appUuid) }) rfl
      exact ⟨s', hs'⟩
  · exact iff_of_true ⟨s, appCommand_state hpass s⟩ fun h => absurd h hpass

theorem reaches_iff {t : CmdType} (h : n.cmdType = t) (uuid : String) :
    Reaches t uuid (.cmd n exists?) ↔ Passes n exists? ∧ n.appUuid = uuid := by
  constructor
  · rintro ⟨m, heq, -, hsize, huuid⟩
    injection heq with hm hex
    subst hm
    exact ⟨⟨hsize, hex⟩, huuid⟩
  · rintro ⟨⟨hsize, rfl⟩, huuid⟩
    exact ⟨n, rfl, h, hsize, huuid⟩

theorem not_reaches {t t' : CmdType} (h : n.cmdType = t) (hne : t ≠ t') (uuid : String) :
    ¬ Reaches t' uuid (.cmd n exists?) := by
  rintro ⟨m, heq, ht, -⟩
  injection heq with hm
  subst hm
  exact hne (h.symm.trans ht)

theorem spares_stop (h : n.cmdType = .STOPAPP) :
    Spares s (.cmd n exists?) ↔ (Passes n exists? → Spared n.appUuid s) :=
  ⟨fun hs hpass => hs.stop _ ((reaches_iff h _).mpr ⟨hpass, rfl⟩), fun hs =>
    { stop := fun _ hr => by
        obtain ⟨hpass, rfl⟩ := (reaches_iff h _).mp hr
        exact hs hpass
      restart := fun _ hr => absurd hr (not_reaches h (by decide) _)
      remove := fun _ hr => absurd hr (not_reaches h (by decide) _) }⟩

theorem spares_restart (h : n.cmdType = .RESTARTAPP) :
    Spares s (.cmd n exists?) ↔ (Passes n exists? → Spared n.appUuid s) :=
  ⟨fun hs hpass => hs.restart _ ((reaches_iff h _).mpr ⟨hpass, rfl⟩), fun hs =>
    { stop := fun _ hr => absurd hr (not_reaches h (by decide) _)
      restart := fun _ hr => by
        obtain ⟨hpass, rfl⟩ := (reaches_iff h _).mp hr
        exact hs hpass
      remove := fun _ hr => absurd hr (not_reaches h (by decide) _) }⟩

theorem spares_remove (h : n.cmdType = .REMOVEAPP) : Spares s (.cmd n exists?) ↔
    (Passes n exists? → Spared n.appUuid s) :=
  ⟨fun hs hpass => hs.remove _ ((reaches_iff h _).mpr ⟨hpass, rfl⟩), fun hs =>
    { stop := fun _ hr => absurd hr (not_reaches h (by decide) _)
      restart := fun _ hr => absurd hr (not_reaches h (by decide) _)
      remove := fun _ hr => by
        obtain ⟨hpass, rfl⟩ := (reaches_iff h _).mp hr
        exact hs hpass }⟩

theorem spares_other (hstop : n.cmdType ≠ .STOPAPP) (hrestart : n.cmdType ≠ .RESTARTAPP)
    (hremove : n.cmdType ≠ .REMOVEAPP) : Spares s (.cmd n exists?) where
  stop _ hr := absurd hr (not_reaches rfl hstop _)
  restart _ hr := absurd hr (not_reaches rfl hrestart _)
  remove _ hr := absurd hr (not_reaches rfl hremove _)

theorem spares_tick : Spares s .tick where
  stop := by rintro _ ⟨_, h, -⟩; cases h
  restart := by rintro _ ⟨_, h, -⟩; cases h
  remove := by rintro _ ⟨_, h, -⟩; cases h

/-! The state each command leaves, without the reply. -/

theorem handle_state (p : Prog State NodeCmdReply) (s : State) :
    ((some <$> p) s).state = (p s).state :=
  state_bind_pure p some s

theorem stopApp_state (s : State) : (stopApp n exists? s).state
    = (appCommand n exists? (killProcess n.appUuid >>= listIf n) s).state :=
  state_bind_pure _ _ s

/-- What `RESTARTAPP` does once the kill has answered. -/
def startAgain (n : NodeCmd) (ok : Bool) : Prog State NodeCmdReply :=
  if ok then startProcess n.appUuid >>= fun _ => lsReply n.reply
  else pure { n.reply with status := .SUCCESS }

theorem restartApp_state (s : State) : (restartApp n exists? s).state
    = (appCommand n exists? (killProcess n.appUuid >>= startAgain n) s).state :=
  state_bind_pure _ _ s

theorem keeps_startAgain (ok : Bool) : Keeps (Registers us) (startAgain n ok) :=
  keeps_ite (fun _ => keeps_bind keeps_startProcess fun _ => keeps_lsReply _) fun _ => keeps_pure _

theorem addApp_defined (n : NodeCmd) (exists? : Option Bool) (s : State) :
    ∃ s', (addApp n exists? s).state = some s' := by
  by_cases hpass : Passes n exists?
  · obtain ⟨s₁, hrun, -⟩ := addProcess_run n.appUuid n.paras1 (trim n.cmd ++ " " ++ trim n.paras) true s
    obtain ⟨s', hs', -⟩ := (keeps_listIf true :
      Keeps (Registers (registered s₁)) (listIf n true)).state
      rfl
    exact ⟨s', by rw [addApp, appCommand_of_passes hpass, bind_done hrun, hs']⟩
  · exact ⟨s, by rw [addApp, appCommand_state hpass]⟩

theorem restart_defined (n : NodeCmd) (s : State) : ∃ s', (restart n s).state = some s' := by
  by_cases h : finds n.cmd "RESTART" = true
  · obtain ⟨b, s', hrun, -⟩ := killAllProcess_run s
    exact ⟨s', by rw [restart, if_pos h, bind_done hrun, pure_run]; rfl⟩
  · exact ⟨s, by rw [restart, if_neg h, pure_run]; rfl⟩

theorem keeps_startApp (n : NodeCmd) (exists? : Option Bool) :
    Keeps (Registers us) (startApp n exists?) :=
  keeps_appCommand (keeps_bind keeps_startProcess fun _ => keeps_listIf _)

theorem keeps_lsApp : Keeps (Registers us) (lsApp n) :=
  keeps_ite (fun _ => keeps_lsReply _) fun _ => keeps_pure _

/-- **One input keeps to the law exactly when it spares the table.** -/
theorem spares_iff (s : State) (c : Input) : Spares s c ↔
    ∃ s', (effect c s).state = some s' ∧ (¬ MayRegister c → registered s' = registered s) := by
  rcases c with ⟨n, exists?⟩ | -
  · rcases ht : n.cmdType
    · obtain ⟨s', hs'⟩ := restart_defined n s
      refine iff_of_true (spares_other (by simp [ht]) (by simp [ht]) (by simp [ht])) ⟨s', ?_, ?_⟩
      · rw [effect, handle, ht, hs']
      · simp [MayRegister, ht]
    · obtain ⟨s', hs'⟩ := addApp_defined n exists? s
      refine iff_of_true (spares_other (by simp [ht]) (by simp [ht]) (by simp [ht])) ⟨s', ?_, ?_⟩
      · rw [effect, handle, ht]
        exact (handle_state _ s).trans hs'
      · simp [MayRegister, ht]
    · rw [spares_remove ht, ← remove_iff, effect, handle, ht]
      simp only [handle_state, MayRegister, ht]
      simp [removeApp]
    · obtain ⟨s', hs', hreg⟩ := (keeps_startApp n exists?).state
        (rfl : Registers (registered s) s)
      refine iff_of_true (spares_other (by simp [ht]) (by simp [ht]) (by simp [ht]))
        ⟨s', ?_, fun _ => hreg⟩
      rw [effect, handle, ht]
      exact (handle_state _ s).trans hs'
    · rw [spares_stop ht, ← kill_iff (f := listIf n) fun _ => keeps_listIf, effect, handle, ht]
      simp only [handle_state, stopApp_state, MayRegister, ht]
      simp
    · rw [spares_restart ht, ← kill_iff (f := startAgain n) fun _ => keeps_startAgain, effect,
        handle, ht]
      simp only [handle_state, restartApp_state, MayRegister, ht]
      simp
    · obtain ⟨s', hs', hreg⟩ := (keeps_lsApp (n := n)).state (rfl : Registers (registered s) s)
      refine iff_of_true (spares_other (by simp [ht]) (by simp [ht]) (by simp [ht]))
        ⟨s', ?_, fun _ => hreg⟩
      rw [effect, handle, ht]
      exact (handle_state _ s).trans hs'
  · obtain ⟨s', hs', hreg⟩ := (keeps_bind keeps_listener fun _ => keeps_pure
      (none : Option NodeCmdReply)).state (rfl : Registers (registered s) s)
    exact iff_of_true spares_tick ⟨s', hs', fun _ => hreg⟩

/-! ## What is left of an application -/

variable {c d : Input} {uuid : String} {s' : State}

/-- **A stop or a restart that is spared** leaves the entries as they are. -/
theorem spared_state (h : Spared uuid s) (hmem : uuid ∈ registered s)
    (hc : Reaches .STOPAPP uuid c ∨ Reaches .RESTARTAPP uuid c) :
    ∃ s', (effect c s).state = some s' ∧ s'.instances = s.instances := by
  rcases hfind : s.instances.find? (·.uuid = uuid) with - | p
  · exact absurd hmem (find?_eq_none_iff.mp hfind)
  obtain ⟨s', hrun, hs'⟩ := killProcess_cutShort hfind (h p hfind)
  refine ⟨s', ?_, hs'⟩
  rcases hc with ⟨n, rfl, ht, hsize, rfl⟩ | ⟨n, rfl, ht, hsize, rfl⟩
  · rw [effect, handle, ht]
    refine (handle_state _ s).trans ((stopApp_state s).trans ?_)
    rw [appCommand_of_passes ⟨hsize, rfl⟩, bind_done hrun]
    rfl
  · rw [effect, handle, ht]
    refine (handle_state _ s).trans ((restartApp_state s).trans ?_)
    rw [appCommand_of_passes ⟨hsize, rfl⟩, bind_done hrun]
    rfl

theorem supervised_congr (h : s'.instances = s.instances) :
    Supervised uuid s' ↔ Supervised uuid s := by
  rw [Supervised, Supervised, Going, Going, registered, registered, h]

/-- An application that is registered once, and whose end a kill is cut short at, has a child. -/
theorem child_of_spared (h : Spared uuid s) (hone : (registered s).count uuid = 1) :
    ∀ q ∈ s.instances, q.uuid = uuid → q.child ≠ .none := by
  have hmem : uuid ∈ registered s := List.count_pos_iff.mp (by omega)
  rcases hfind : s.instances.find? (·.uuid = uuid) with - | p
  · exact absurd hmem (find?_eq_none_iff.mp hfind)
  obtain ⟨pid, hpid⟩ := (h p hfind).1
  obtain ⟨hp, pre, post, hsplit, hpre⟩ := List.find?_eq_some_iff_append.mp hfind
  have hpuuid : p.uuid = uuid := by simpa using hp
  rw [registered, hsplit, List.map_append, List.map_cons, List.count_append, hpuuid,
    List.count_cons_self] at hone
  have hpost : uuid ∉ post.map (·.uuid) := List.count_eq_zero.mp (by omega)
  intro q hq he
  rw [hsplit, List.mem_append, List.mem_cons] at hq
  rcases hq with hq | rfl | hq
  · exact absurd he (by simpa using hpre q hq)
  · simp [hpid]
  · exact absurd (List.mem_map.mpr ⟨q, hq, he⟩) hpost

/-- **What a start makes of an application that has a child.** -/
theorem supervised_start_iff (hd : Reaches .STARTAPP uuid d)
    (hchild : (registered s).count uuid = 1 → ∀ q ∈ s.instances, q.uuid = uuid → q.child ≠ .none)
    (hs' : (effect d s).state = some s') : Supervised uuid s' ↔ Recoverable uuid s := by
  obtain ⟨n, rfl, ht, hsize, rfl⟩ := hd
  have hrun : ((startProcess n.appUuid >>= listIf n) s).state = some s' := by
    rw [← hs', effect, handle, ht]
    refine ((handle_state _ s).trans ?_).symm
    rw [startApp, appCommand_of_passes ⟨hsize, rfl⟩]
  have hkeep : Keeps (Registers (registered s)) (startProcess n.appUuid >>= listIf n) :=
    keeps_bind keeps_startProcess fun _ => keeps_listIf _
  have hreg : registered s' = registered s := by
    obtain ⟨t, ht, hreg⟩ := hkeep.state rfl
    obtain rfl := Option.some.inj (ht.symm.trans hrun)
    exact hreg
  rw [Supervised, Recoverable, hreg]
  refine and_congr_right fun hone => ?_
  have hwithstands := going_withstands (registered s) n.appUuid
  rcases startProcess_cases n.appUuid s with ⟨hgoing, s₁, hstart, hs₁⟩ | ⟨hgoing, s₁, hstart, hs₁⟩
  · refine iff_of_true ?_ (.inr hgoing)
    have hstarts : Keeps (Registers (registered s)) (startProcess n.appUuid) := keeps_startProcess
    have hreg₁ : Registers (registered s) s₁ := by
      obtain ⟨t, ht, hreg₁⟩ := hstarts.state rfl
      rw [hstart] at ht
      exact Option.some.inj ht ▸ hreg₁
    have hlist :
        Keeps (fun s' => Registers (registered s) s' ∧ Going n.appUuid s') (listIf n true) :=
      keeps_bind hwithstands.listener fun _ => keeps_bind keeps_get fun _ => keeps_pure _
    rw [bind_done hstart] at hrun
    obtain ⟨t, ht, -, hgoing'⟩ := hlist.state ⟨hreg₁, hs₁⟩
    obtain rfl := Option.some.inj (ht.symm.trans hrun)
    exact hgoing'
  · rw [bind_done hstart] at hrun
    obtain rfl : s₁ = s' := Option.some.inj hrun
    rw [or_iff_left hgoing]
    constructor
    · rintro ⟨p, hp, huuid, -, hexpected⟩
      rw [← hs₁]
      exact List.mem_map.mpr ⟨p, hp, by rw [huuid, hexpected]⟩
    · intro hmem
      obtain ⟨p, hp, he⟩ := List.mem_map.mp hmem
      obtain ⟨huuid, hexpected⟩ := Prod.mk.inj he
      have hstarts : Keeps _ (startProcess n.appUuid) := hwithstands.startProcess
      obtain ⟨t, ht, -, hgoing'⟩ := hstarts.state
        ⟨rfl, p, hp, huuid, hchild hone p hp huuid, hexpected⟩
      rw [hstart] at ht
      exact Option.some.inj ht ▸ hgoing'

/-! ## Runs -/

theorem step_of_state {w : Worker} (h : (effect c w.pm).state = some s') :
    ∃ w', step w c = some w' ∧ w'.pm = s' := by
  rw [← step_pm, Option.map_eq_some_iff] at h
  exact h

theorem state_of_step {w w' : Worker} (h : step w c = some w') :
    (effect c w.pm).state = some w'.pm := by
  rw [← step_pm, h]
  rfl

/-- A lawful input has spared the table. -/
theorem Lawful.spares {w w' : Worker} (h : Lawful w c w') (hstep : step w c = some w') :
    Spares w.pm c :=
  (spares_iff w.pm c).mpr ⟨w'.pm, state_of_step hstep, h.registry⟩

/-- An input that spares the table leaves the entries of the application it would have ended. -/
theorem Spares.instances {w w' : Worker} (h : Spares w.pm c) (hstep : step w c = some w')
    (hmem : uuid ∈ registered w.pm) (hc : Reaches .STOPAPP uuid c ∨ Reaches .RESTARTAPP uuid c) :
    w'.pm.instances = w.pm.instances := by
  obtain ⟨s', hs', hinstances⟩ := spared_state (hc.elim (h.stop uuid) (h.restart uuid)) hmem hc
  obtain rfl := Option.some.inj (hs'.symm.trans (state_of_step hstep))
  exact hinstances

/-- **A start after a stop** that spared the table leaves the application supervised exactly when
the table it finds can be recovered. -/
theorem stopStart_iff {w w' w'' : Worker} (h : Spares w.pm c) (hstep : step w c = some w')
    (hstep' : step w' d = some w'') : StopStart w c d w'' ↔ Restores w.pm c d w'.pm := by
  refine forall_congr' fun uuid => forall_congr' fun hc => forall_congr' fun hd =>
    forall_congr' fun hmem => supervised_start_iff hd ?_ (state_of_step hstep')
  have hsame := h.instances hstep hmem (.inl hc)
  rw [registered, hsame]
  exact child_of_spared (h.stop uuid hc)

/-- **Which runs keep the registry.**  A run has a result, changes what is registered by adding,
removing and `RESTART` only, and leaves every restarted application, and every one stopped and
started, supervised, exactly when each of its inputs spares the table it meets, and what it spares
was supervised before or is recovered by the start. -/
theorem registry_lawful_iff (w : Worker) (cs : List Input) : LawfulRun w cs ↔ SparingRun w cs := by
  induction cs generalizing w with
  | nil => exact iff_of_true trivial trivial
  | cons c cs ih =>
      constructor
      · rintro ⟨w', hstep, hlaw, hnext, hrest⟩
        have hspares := hlaw.spares hstep
        refine ⟨hspares, fun uuid hc hmem => ?_, fun w'' hw'' => ?_⟩
        · rw [← supervised_congr (hspares.instances hstep hmem (.inr hc))]
          exact hlaw.restart uuid hc hmem
        obtain rfl : w' = w'' := Option.some.inj (hstep.symm.trans hw'')
        refine ⟨fun d ds hds => ?_, (ih w').mp hrest⟩
        obtain ⟨w'', hstep', hlaw'⟩ := hnext d ds hds
        exact (stopStart_iff hspares hstep hstep').mp hlaw'
      · rintro ⟨hspares, hrestarts, hrest⟩
        obtain ⟨s', hs', hreg⟩ := (spares_iff w.pm c).mp hspares
        obtain ⟨w', hstep, rfl⟩ := step_of_state hs'
        obtain ⟨hrestores, hrest'⟩ := hrest w' hstep
        refine ⟨w', hstep, ⟨hreg, fun uuid hc hmem => ?_⟩, ?_, (ih w').mpr hrest'⟩
        · rw [supervised_congr (hspares.instances hstep hmem (.inr hc))]
          exact hrestarts uuid hc hmem
        rintro d ds rfl
        obtain ⟨s'', hs'', -⟩ := (spares_iff w'.pm d).mp hrest'.1
        obtain ⟨w'', hstep', -⟩ := step_of_state hs''
        exact ⟨w'', hstep', (stopStart_iff hspares hstep hstep').mpr (hrestores d ds rfl)⟩

/-- A command of this type about the file `./app`. -/
def appCmd (t : CmdType) : NodeCmd where
  uuid := "c"
  cmdType := t
  cmd := "app"
  paras := ""
  paras1 := "./"
  paras2 := ""

/-- A table with this one application, which runs, and a system that stays quiet. -/
def oneApp : Worker where
  pm := {
    instances := [{ launchCmd := "app ", uuid := "./ app", workPath := "./", exceptRunnig := true,
                    env := [], child := .alive 7 }]
    environment := []
    answers := []
    calls := [] }
  replies := []

/-- **A running application is lost** by a restart, and by a stop and a start. -/
theorem registry_not_lawful :
    ¬ LawfulRun oneApp [.cmd (appCmd .RESTARTAPP) (some true)] ∧
      ¬ LawfulRun oneApp [.cmd (appCmd .STOPAPP) (some true),
        .cmd (appCmd .STARTAPP) (some true)] := by
  have hreaches : ∀ t, Reaches t "./ app" (.cmd (appCmd t) (some true)) := fun t =>
    ⟨appCmd t, rfl, rfl, show "app".utf8ByteSize > 1 by decide,
      show combUuid "./" "app" "" "" = "./ app" by decide⟩
  have hlost : ∀ c, Reaches .STOPAPP "./ app" c ∨ Reaches .RESTARTAPP "./ app" c →
      ¬ Spares oneApp.pm c := fun c hc h =>
    absurd (hc.elim (h.stop _) (h.restart _))
      (not_spared (by decide) fun a ha => absurd ha (List.not_mem_nil))
  have hlaw : ∀ c cs, LawfulRun oneApp (c :: cs) → Spares oneApp.pm c := by
    rintro c cs ⟨w', hstep, hlaw, -⟩
    exact hlaw.spares hstep
  exact ⟨fun h => hlost _ (.inr (hreaches _)) (hlaw _ _ h),
    fun h => hlost _ (.inl (hreaches _)) (hlaw _ _ h)⟩

end NodeCmdWorker

end Sadip

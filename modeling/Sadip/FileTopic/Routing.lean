import Mathlib.Logic.Function.Basic
import Sadip.FileTopic.Message
import Sadip.FileTopic.Names
import Sadip.NodeCmdTopic
import Sadip.ZenohTopicManager

/-!
# FileTopic/Routing — the file writers of a management node, `node/src/main.cpp`

The manager starts one writer for each node, on that node's own topic, and all of them take their
commands from the one `fileDataQueueIn_`.  A command is not looked at before it is taken, and the
writer that took it puts the blocks on its own topic: they reach the node that asked for the file
exactly when that writer happens to be this node's (`routed_of_taken`, `misrouted_of_taken`).
-/

namespace Sadip

namespace FileTopic

namespace Routing

open FileSplit NodeCmdTopic ZenohTopicManager

/-! ## What `main` sets up -/

/-- The settings a topic for files is made of. -/
structure TopicConfig where
  project : String
  bussDomain : String
  domain : String
  buss : String
  func : String

/-- The settings of the cluster, which its nodes share but for their own ids and groups. -/
structure Config where
  /-- the manager's `nodeId` -/
  nodeId : String
  /-- `nodeInfo_.group_`, of each node -/
  group : String → String
  fileDownNodeIdsVec : List String
  fileDown : TopicConfig
  fileUp : TopicConfig
  fileSplitSize : BlockSize

namespace Config

variable (cfg : Config)

def fileDownBaseTopic : Topic :=
  ⟨.DEFAULT, cfg.fileDown.project, cfg.fileDown.bussDomain, cfg.fileDown.domain, "*",
    cfg.fileDown.buss, cfg.fileDown.func, .DOWN⟩

def fileUpBaseTopic : Topic :=
  ⟨.DEFAULT, cfg.fileUp.project, cfg.fileUp.bussDomain, cfg.fileUp.domain, "*",
    cfg.fileUp.buss, cfg.fileUp.func, .UP⟩

/-- `topic_` of the manager's writers, in the order they are started in. -/
def writerTopics : List String := cfg.fileDownNodeIdsVec.map (keyOf cfg.fileDownBaseTopic)

/-- `topic_` of the readers that a node starts: one for each node on a manager, else its own. -/
def readerTopics (nodeId : String) : List String :=
  if cfg.group nodeId = "mgr" then cfg.fileDownNodeIdsVec.map (keyOf cfg.fileUpBaseTopic)
  else [keyOf cfg.fileDownBaseTopic nodeId]

end Config

/-! ## The writers -/

/-- A writer in `send_file`, with the command it does this for. -/
structure Sending where
  cmd : NodeCmd
  transfer : Transfer
  nCount : ℕ

/-- A put of `send_file_data`. -/
structure Publication where
  topic : String
  cmd : NodeCmd
  data : FileData

structure State where
  fileDataQueueIn : List NodeCmd
  /-- what each writer sends, if anything -/
  sending : ℕ → Option Sending
  published : List Publication

inductive Event
  /-- `handle_cmd` has a command for the writers -/
  | enqueue (cmd : NodeCmd)
  /-- `try_dequeue` gives writer `i` the `k`-th command; `file` is what its file holds, if it is
  there -/
  | dequeue (i k : ℕ) (file : Option Bytes)
  /-- writer `i` puts its block, again or for the first time -/
  | put (i : ℕ) (now : Int)
  /-- `sendOneBlock` returns, and there is another block -/
  | next (i : ℕ)
  /-- `send_file` returns -/
  | finish (i : ℕ)
  deriving DecidableEq

/-- The commands that `send_file` is called for. -/
def IsSend (cmd : NodeCmd) : Prop := cmd.cmdType = .SENDFILE ∧ cmd.paras ≠ ""

instance (cmd : NodeCmd) : Decidable (IsSend cmd) :=
  inferInstanceAs (Decidable (cmd.cmdType = .SENDFILE ∧ cmd.paras ≠ ""))

/-- What `send_file` is to send for a command, when it gets past its checks; the node it goes to is
the one that the command came from. -/
def transferOf (cfg : Config) (cmd : NodeCmd) (content : Bytes) : Transfer :=
  .ofFile cmd.uuid cfg.nodeId cmd.toNodeId cmd.srcNodeId (subreplaceDot cmd.paras)
    (subreplaceDot cmd.paras) cmd.paras content cfg.fileSplitSize

/-- `process_node_cmd`, up to the first block. -/
def processNodeCmd (cfg : Config) (cmd : NodeCmd) (file : Option Bytes) : Option Sending :=
  if IsSend cmd then file.map fun content => ⟨cmd, transferOf cfg cmd content, 0⟩ else none

/-- One step of the manager. -/
def step (cfg : Config) (s : State) : Event → Option State
  | .enqueue cmd => some { s with fileDataQueueIn := s.fileDataQueueIn ++ [cmd] }
  | .dequeue i k file =>
      match s.sending i, s.fileDataQueueIn[k]? with
      | none, some cmd =>
          if i < cfg.writerTopics.length then
            some { s with
              fileDataQueueIn := s.fileDataQueueIn.eraseIdx k
              sending := Function.update s.sending i (processNodeCmd cfg cmd file) }
          else none
      | _, _ => none
  | .put i now =>
      match cfg.writerTopics[i]?, s.sending i with
      | some topic, some job =>
          if job.nCount < job.transfer.fileNum then
            some { s with
              published := s.published ++ [⟨topic, job.cmd, job.transfer.message now job.nCount⟩] }
          else none
      | _, _ => none
  | .next i =>
      match s.sending i with
      | none => none
      | some job =>
          if job.nCount < job.transfer.fileNum then
            some { s with
              sending := Function.update s.sending i (some { job with nCount := job.nCount + 1 }) }
          else none
  | .finish i =>
      match s.sending i with
      | none => none
      | some _ => some { s with sending := Function.update s.sending i none }

/-- The writers have started. -/
def initial : State := ⟨[], fun _ => none, []⟩

/-! ## What is promised -/

/-- Blocks are put only where the node that asked for the file reads. -/
def Routed (cfg : Config) (s : State) : Prop :=
  ∀ p ∈ s.published, p.topic ∈ cfg.readerTopics p.cmd.srcNodeId

/-- A command with blocks to send is taken by the writer of the node it came from, and this is not
a manager itself. -/
def TakenByOwn (cfg : Config) (s : State) : Event → Prop
  | .dequeue i k file => ∀ cmd ∈ s.fileDataQueueIn[k]?, IsSend cmd → file.getD [] ≠ [] →
      cfg.fileDownNodeIdsVec[i]? = some cmd.srcNodeId ∧ cfg.group cmd.srcNodeId ≠ "mgr"
  | _ => True

instance (cfg : Config) : ∀ (s : State) (e : Event), Decidable (TakenByOwn cfg s e)
  | s, .dequeue i k file => inferInstanceAs (Decidable (∀ cmd ∈ s.fileDataQueueIn[k]?,
      IsSend cmd → file.getD [] ≠ [] →
        cfg.fileDownNodeIdsVec[i]? = some cmd.srcNodeId ∧ cfg.group cmd.srcNodeId ≠ "mgr"))
  | _, .enqueue _ => isTrue trivial
  | _, .put _ _ => isTrue trivial
  | _, .next _ => isTrue trivial
  | _, .finish _ => isTrue trivial

/-! ## Topics -/

variable {cfg : Config} {s s' : State} {e : Event} {i k : ℕ} {topic : String}

theorem writerTopics_eq_some (h : cfg.writerTopics[i]? = some topic) :
    ∃ n, cfg.fileDownNodeIdsVec[i]? = some n ∧ topic = keyOf cfg.fileDownBaseTopic n := by
  rw [Config.writerTopics, List.getElem?_map] at h
  obtain ⟨n, hn, rfl⟩ := Option.map_eq_some_iff.mp h
  exact ⟨n, hn, rfl⟩

/-- **Where a writer's topic is read**: only by the node whose writer it is, and only when that
starts the readers of a worker. -/
theorem mem_readerTopics_iff (h : cfg.writerTopics[i]? = some topic) (x : String) :
    topic ∈ cfg.readerTopics x ↔ cfg.fileDownNodeIdsVec[i]? = some x ∧ cfg.group x ≠ "mgr" := by
  obtain ⟨n, hn, rfl⟩ := writerTopics_eq_some h
  rw [Config.readerTopics, hn, Option.some.injEq]
  by_cases hg : cfg.group x = "mgr"
  · rw [if_pos hg]
    refine ⟨fun hmem => ?_, fun h => absurd hg h.2⟩
    obtain ⟨m, -, hm⟩ := List.mem_map.mp hmem
    exact absurd hm.symm (keyOf_ne rfl rfl rfl rfl n m)
  · rw [if_neg hg, List.mem_singleton, keyOf_inj rfl]
    exact ⟨fun h => ⟨h, hg⟩, And.left⟩

/-- **A file has blocks when it is not empty.** -/
theorem fileNum_transferOf_pos (cfg : Config) (cmd : NodeCmd) (content : Bytes) :
    0 < (transferOf cfg cmd content).fileNum ↔ content ≠ [] := by
  have hcontent : (transferOf cfg cmd content).content = content := Transfer.content_ofFile ..
  refine ⟨fun h => hcontent ▸ (transferOf cfg cmd content).content_ne_nil h, fun h => ?_⟩
  by_contra hzero
  have hblocks := List.length_eq_zero_iff.mp (Nat.eq_zero_of_not_pos hzero)
  rw [Transfer.content, hblocks] at hcontent
  exact h hcontent.symm

/-- **What a writer begins to send**, for a command that it took. -/
theorem processNodeCmd_eq_some {cmd : NodeCmd} {file : Option Bytes} {job : Sending}
    (h : processNodeCmd cfg cmd file = some job) :
    IsSend cmd ∧ ∃ content, file = some content ∧ job = ⟨cmd, transferOf cfg cmd content, 0⟩ := by
  obtain ⟨hsend, h⟩ := Option.ite_none_right_eq_some.mp h
  obtain ⟨content, hfile, rfl⟩ := Option.map_eq_some_iff.mp h
  exact ⟨hsend, content, hfile, rfl⟩

/-! ## Steps -/

/-- Something is true of all that is being sent, and something of all that was put. -/
structure Holds (P : ℕ → Sending → Prop) (Q : Publication → Prop) (s : State) : Prop where
  sending : ∀ i job, s.sending i = some job → P i job
  published : ∀ p ∈ s.published, Q p

variable {P : ℕ → Sending → Prop} {Q : Publication → Prop}

theorem holds_initial (P : ℕ → Sending → Prop) (Q : Publication → Prop) : Holds P Q initial where
  sending i job h := by simp [initial] at h
  published p h := by simp [initial] at h

theorem Holds.update (h : Holds P Q s) {job : Option Sending} (hjob : ∀ j ∈ job, P i j)
    (queue : List NodeCmd) :
    Holds P Q ⟨queue, Function.update s.sending i job, s.published⟩ where
  sending i' j hj := by
    change Function.update s.sending i job i' = some j at hj
    rcases eq_or_ne i' i with rfl | hne
    · rw [Function.update_self] at hj
      exact hjob j hj
    · rw [Function.update_of_ne hne] at hj
      exact h.sending i' j hj
  published := h.published

/-- **What a step adds**: a job a writer begins on, the next block of its job, or a put. -/
theorem Holds.step (h : Holds P Q s) (hs : step cfg s e = some s')
    (hbegin : ∀ i k file cmd job, e = .dequeue i k file → s.fileDataQueueIn[k]? = some cmd →
      processNodeCmd cfg cmd file = some job → P i job)
    (hnext : ∀ i job, P i job → P i { job with nCount := job.nCount + 1 })
    (hput : ∀ i topic job now, P i job → cfg.writerTopics[i]? = some topic →
      job.nCount < job.transfer.fileNum →
      Q ⟨topic, job.cmd, job.transfer.message now job.nCount⟩) : Holds P Q s' := by
  rcases e with cmd | ⟨i, k, file⟩ | ⟨i, now⟩ | i | i
  · obtain rfl := Option.some.inj hs
    exact ⟨h.sending, h.published⟩
  · simp only [Routing.step] at hs
    split at hs
    · rename_i cmd hidle hcmd
      obtain ⟨-, ⟨⟩⟩ := Option.ite_none_right_eq_some.mp hs
      exact h.update (fun job hjob => hbegin i k file cmd job rfl hcmd hjob) _
    · cases hs
  · simp only [Routing.step] at hs
    split at hs
    · rename_i topic job htopic hjob
      obtain ⟨hlt, ⟨⟩⟩ := Option.ite_none_right_eq_some.mp hs
      refine ⟨h.sending, fun p hp => ?_⟩
      rcases List.mem_append.mp hp with hp | hp
      · exact h.published p hp
      · obtain rfl := List.mem_singleton.mp hp
        exact hput i topic job now (h.sending i job hjob) htopic hlt
    · cases hs
  · simp only [Routing.step] at hs
    split at hs
    · cases hs
    · rename_i job hjob
      obtain ⟨-, ⟨⟩⟩ := Option.ite_none_right_eq_some.mp hs
      refine h.update (fun j hj => ?_) _
      obtain rfl := Option.some.inj hj
      exact hnext i job (h.sending i job hjob)
  · simp only [Routing.step] at hs
    split at hs
    · cases hs
    · obtain rfl := Option.some.inj hs
      exact h.update (fun j hj => by cases hj) _

/-- A writer of a command with blocks is the one of the node that it came from. -/
def Own (cfg : Config) (i : ℕ) (job : Sending) : Prop :=
  0 < job.transfer.fileNum →
    cfg.fileDownNodeIdsVec[i]? = some job.cmd.srcNodeId ∧ cfg.group job.cmd.srcNodeId ≠ "mgr"

/-- **One step**: what the right writer puts, the right node reads. -/
theorem Holds.own_step
    (h : Holds (Own cfg) (fun p => p.topic ∈ cfg.readerTopics p.cmd.srcNodeId) s)
    (htaken : TakenByOwn cfg s e) (hs : Routing.step cfg s e = some s') :
    Holds (Own cfg) (fun p => p.topic ∈ cfg.readerTopics p.cmd.srcNodeId) s' := by
  refine h.step hs (fun i k file cmd job he hcmd hjob hpos => ?_) (fun i job hjob => hjob)
    fun i topic job now hjob htopic hlt => (mem_readerTopics_iff htopic _).mpr
      (hjob (Nat.zero_lt_of_lt hlt))
  subst he
  obtain ⟨hsend, content, rfl, rfl⟩ := processNodeCmd_eq_some hjob
  exact htaken cmd hcmd hsend ((fileNum_transferOf_pos cfg cmd content).mp hpos)

/-! ## The theorems -/

/-- **The address in the blocks** is the node that the command came from, whoever sends them. -/
theorem toNodeId_of_run {es : List Event} (h : Run.run (step cfg) initial es = some s) :
    ∀ p ∈ s.published, p.data.toNodeId = p.cmd.srcNodeId := by
  have hinv : Holds (fun _ job => job.transfer.toNodeId = job.cmd.srcNodeId)
      (fun p => p.data.toNodeId = p.cmd.srcNodeId) s := by
    refine Run.invariant (fun s e s' hs h => hs.step h ?_ ?_ ?_) (holds_initial _ _) h
    · intro i k file cmd job _ _ hjob
      obtain ⟨-, content, -, rfl⟩ := processNodeCmd_eq_some hjob
      rfl
    · exact fun i job hjob => hjob
    · exact fun i topic job now hjob _ _ => hjob
  exact hinv.published

/-- **Where blocks go**: when every command with blocks is taken by the writer of the node it came
from, which is no manager, the blocks are put only where that node reads. -/
theorem routed_of_taken (cfg : Config) (es : List Event)
    (h : Run.Meets (step cfg) (TakenByOwn cfg) initial es) (s : State)
    (hrun : Run.run (step cfg) initial es = some s) : Routed cfg s :=
  (Run.Meets.invariant (fun _ _ _ hs htaken hstep => hs.own_step htaken hstep) es initial
    (holds_initial (Own cfg) _) h s hrun).published

/-- **The condition is exact**: the first block of a command taken otherwise goes astray. -/
theorem misrouted_of_taken (h : step cfg s e = some s') (hnot : ¬ TakenByOwn cfg s e) (now : Int) :
    ∃ i s'', step cfg s' (.put i now) = some s'' ∧ ¬ Routed cfg s'' := by
  rcases e with cmd | ⟨i, k, file⟩ | ⟨i, t⟩ | i | i
  · exact absurd trivial hnot
  · simp only [TakenByOwn, Classical.not_forall] at hnot
    obtain ⟨cmd, hcmd, hsend, hfile, hwrong⟩ := hnot
    obtain ⟨content, rfl⟩ : ∃ content, file = some content := by
      cases file
      · exact absurd rfl hfile
      · exact ⟨_, rfl⟩
    simp only [step, Option.mem_def.mp hcmd] at h
    split at h
    · rename_i cmd' hidle hcmd'
      obtain rfl := Option.some.inj hcmd'
      obtain ⟨hi, ⟨⟩⟩ := Option.ite_none_right_eq_some.mp h
      have htopic : cfg.writerTopics[i]? = some cfg.writerTopics[i] := List.getElem?_eq_getElem hi
      have hpos := (fileNum_transferOf_pos cfg cmd content).mpr hfile
      refine ⟨i, ?_⟩
      simp only [step, htopic, Function.update_self, processNodeCmd, if_pos hsend, Option.map_some,
        if_pos hpos]
      refine ⟨_, rfl, fun hrouted => hwrong ((mem_readerTopics_iff htopic _).mp ?_)⟩
      exact hrouted _ (List.mem_append_right _ List.mem_cons_self)
    · cases h
  · exact absurd trivial hnot
  · exact absurd trivial hnot
  · exact absurd trivial hnot

/-- Two nodes and their manager. -/
def twoNodes : Config where
  nodeId := "m"
  group n := if n = "m" then "mgr" else "edge"
  fileDownNodeIdsVec := ["n1", "n2"]
  fileDown := ⟨"p", "b", "d", "file", "down"⟩
  fileUp := ⟨"p", "b", "d", "file", "up"⟩
  fileSplitSize := ⟨1, by decide, by decide⟩

/-- A node asks the manager for a file. -/
def sendFileFor (n : String) : NodeCmd :=
  ⟨"u", n, "", "m", "", .SENDFILE, 0, "", "f", "", ""⟩

/-- Two commands, taken in the other order by the two writers, each by its own. -/
theorem routed_twoNodes : ∃ s, Run.run (step twoNodes) initial
      [.enqueue (sendFileFor "n1"), .enqueue (sendFileFor "n2"), .dequeue 1 1 (some [1]),
        .dequeue 0 0 (some [2]), .put 0 5, .put 1 6, .finish 1, .next 0] = some s
    ∧ s.published.map (·.topic)
        = ["default/p/b/d/n1/file/down/down", "default/p/b/d/n2/file/down/down"]
    ∧ Routed twoNodes s := by
  obtain ⟨s, hrun, htopics⟩ := Option.map_eq_some_iff.mp (show
    (Run.run (step twoNodes) initial [.enqueue (sendFileFor "n1"), .enqueue (sendFileFor "n2"),
      .dequeue 1 1 (some [1]), .dequeue 0 0 (some [2]), .put 0 5, .put 1 6, .finish 1,
      .next 0]).map (fun s => s.published.map (·.topic))
        = some ["default/p/b/d/n1/file/down/down", "default/p/b/d/n2/file/down/down"]
    by decide +kernel)
  exact ⟨s, hrun, htopics, routed_of_taken twoNodes _ (by decide +kernel) s hrun⟩

/-- **The other writer is first**: what the first node asked for is put on the second one's topic.
-/
theorem not_routed : ¬ ∀ (cfg : Config) (es : List Event) (s : State),
    Run.run (step cfg) initial es = some s → Routed cfg s := by
  intro h
  obtain ⟨s, hrun, hputs⟩ := Option.map_eq_some_iff.mp (show
    (Run.run (step twoNodes) initial [.enqueue (sendFileFor "n1"), .dequeue 1 0 (some [1]),
      .put 1 5]).map (fun s => s.published.map fun p => (p.topic, p.cmd.srcNodeId))
        = some [("default/p/b/d/n2/file/down/down", "n1")]
    by decide +kernel)
  obtain ⟨p, hp, heq⟩ := List.mem_map.mp (hputs.symm ▸ List.mem_cons_self)
  obtain ⟨htopic, hsrc⟩ := Prod.mk.inj heq
  have hmem := h twoNodes _ s hrun p hp
  rw [htopic, hsrc] at hmem
  exact absurd hmem (by decide +kernel)

end Routing

end FileTopic

end Sadip

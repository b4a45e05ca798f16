import Sadip.NodeTopic

/-!
# NodeTopic/Sequence — one configuration after another, `node/src/NodeTopic.cpp`

The writer sends a configuration again until it is acknowledged, so a node may get any message any
number of times, in any order.  All of them go through one backup file, which a rejected message
empties and an accepted one leaves behind.  As long as the file operations succeed and there is a
configuration to begin with, one call is a write of its content or nothing at all
(`processConfig_granted`), whatever the backup holds, and a sequence of calls leaves the content of
the last message that was for this node.
-/

namespace Sadip

namespace NodeTopic

open FileSplit FsPath Imperative Imperative.Prog NodeCmdTopic

variable (readNodeId : Bytes → String) (info : NodeInfo)

/-- A message as it comes in, with the uuid and the time its answer gets. -/
structure Arrival where
  node : Node
  uuid : String
  now : Int

/-- Every file operation of the call succeeds. -/
def Arrival.env (m : Arrival) : Env where
  mkdir := true
  backup := ⟨true, true⟩
  write := true
  reader := true
  restore := ⟨true, true⟩
  uuid := m.uuid
  now := m.now

/-- The calls of `process_config` for messages that come in one after another. -/
def processConfigs : List Arrival → Prog FileSystem (List NodeReply)
  | [] => pure []
  | m :: ms => do
      let reply ← processConfig readNodeId info m.env m.node
      let replies ← processConfigs ms
      pure (reply :: replies)

/-- The content of the message carries the id of this node. -/
def Arrival.Carries (m : Arrival) : Prop := readNodeId m.node.config = info.nodeId

instance (m : Arrival) : Decidable (m.Carries readNodeId info) := by
  unfold Arrival.Carries; infer_instance

/-- The content of the last message for this node, or else what there was. -/
def lastAccepted (initial : Bytes) (ms : List Arrival) : Bytes :=
  (((ms.filter fun m => m.Carries readNodeId info).getLast?).map (·.node.config)).getD initial

/-- An answer to this message: `SUCCESS` exactly when its content carries the id of this node, and
`INVALID` otherwise. -/
structure Answers (m : Arrival) (reply : NodeReply) : Prop where
  replyUuid : reply.replyUuid = m.node.uuid
  success : reply.status = .SUCCESS ↔ m.Carries readNodeId info
  invalid : reply.status = .INVALID ↔ ¬ m.Carries readNodeId info

/-! ## One message -/

variable {readNodeId info} {fs : FileSystem} {path : String} {content : Bytes}

/-- **A call whose file operations succeed** writes the configuration or leaves it as it was. -/
theorem processConfig_granted (m : Arrival) (hpath : path ≠ "") (hm : m.node.toConfigPath = path)
    (hfile : fs.files (ofString path) = some content) :
    ∃ reply fs', processConfig readNodeId info m.env m.node fs = .done reply fs' ∧
      Answers readNodeId info m reply ∧ fs'.files (ofString path) =
        some (if m.Carries readNodeId info then m.node.config else content) := by
  subst hm
  have hid : newNodeId readNodeId m.env.reader (written m.env m.node fs) m.node.toConfigPath
      = readNodeId m.node.config := by
    rw [newNodeId, files_written_config hpath]
    rfl
  rw [processConfig_run rfl hpath, hid]
  by_cases hc : m.Carries readNodeId info
  · refine ⟨_, _, if_pos hc, ?_, ?_⟩
    · exact ⟨rfl, iff_of_true rfl hc, iff_of_false (by simp [fillReply]) (not_not.mpr hc)⟩
    · rw [files_written_config hpath, if_pos hc]
      rfl
  · refine ⟨_, _, if_neg hc, ?_, ?_⟩
    · exact ⟨rfl, iff_of_false (by simp [fillReply]) hc, iff_of_true rfl hc⟩
    · -- the backup was made of this configuration, so it is what is moved back
      rw [files_restored hpath, hfile, if_neg hc]
      rfl

/-- What the node is sent reaches `process_config` when it has a uuid and answers are wanted. -/
theorem handleNode_granted (m : Arrival) (hneed : info.needReply = true) (huuid : m.node.uuid ≠ "")
    (hpath : m.node.toConfigPath ≠ "") :
    handleNode readNodeId info m.env m.node fs
      = (some <$> processConfig readNodeId info m.env m.node) fs := by
  obtain ⟨reply, fs', hrun⟩ : ∃ reply fs',
      processConfig readNodeId info m.env m.node fs = .done reply fs' := by
    rw [processConfig_run rfl hpath]
    split <;> exact ⟨_, _, rfl⟩
  have hdone : (some <$> processConfig readNodeId info m.env m.node) fs = .done (some reply) fs' :=
    bind_done hrun
  rw [handleNode, if_pos ⟨hneed, huuid⟩, tryCatch_done hdone, hdone]

/-! ## A sequence of messages -/

theorem lastAccepted_cons (initial : Bytes) (m : Arrival) (ms : List Arrival) :
    lastAccepted readNodeId info initial (m :: ms) = lastAccepted readNodeId info
      (if m.Carries readNodeId info then m.node.config else initial) ms := by
  rw [lastAccepted, lastAccepted]
  by_cases hc : m.Carries readNodeId info
  · rw [List.filter_cons_of_pos (by simpa using hc), if_pos hc, List.getLast?_cons, Option.map_some,
      Option.getD_some]
    cases (ms.filter fun m => m.Carries readNodeId info).getLast? <;> rfl
  · rw [List.filter_cons_of_neg (by simpa using hc), if_neg hc]

/-- **The configuration follows the last accepted message.**  From any configuration and any backup,
after any sequence of messages for one path, with repetitions and in any order, the file holds the
content of the last one that carries the id of this node, and each message has got the answer that
its own content deserves. -/
theorem config_follows (hpath : path ≠ "") : ∀ (ms : List Arrival) (fs : FileSystem)
    (initial : Bytes), fs.files (ofString path) = some initial →
      (∀ m ∈ ms, m.node.toConfigPath = path) →
      ∃ replies fs', processConfigs readNodeId info ms fs = .done replies fs' ∧
        fs'.files (ofString path) = some (lastAccepted readNodeId info initial ms) ∧
        List.Forall₂ (Answers readNodeId info) ms replies
  | [], fs, initial, hfile, _ => ⟨[], fs, rfl, hfile, .nil⟩
  | m :: ms, fs, initial, hfile, hms => by
      obtain ⟨reply, fs₁, hrun, hanswer, hfile₁⟩ :=
        processConfig_granted m hpath (hms m List.mem_cons_self) hfile
      obtain ⟨replies, fs', hrest, hfile', hanswers⟩ := config_follows hpath ms fs₁ _ hfile₁
        fun m' hm' => hms m' (List.mem_cons_of_mem m hm')
      refine ⟨reply :: replies, fs', ?_, ?_, .cons hanswer hanswers⟩
      · rw [processConfigs, bind_done hrun, bind_done hrest]
        rfl
      · rw [hfile', lastAccepted_cons]

/-- A configuration for the node, one for another, and the first once more. -/
theorem config_follows_redelivered :
    let forNode : Arrival := ⟨⟨"u", "n1", "m", "g", "config/node.ini", [1]⟩, "r", 0⟩
    let forOther : Arrival := ⟨⟨"v", "n2", "m", "g", "config/node.ini", [2]⟩, "s", 1⟩
    let readNodeId : Bytes → String := fun b => if b = [1] then "n1" else "n2"
    let info : NodeInfo := ⟨"n1", "edge", true⟩
    ∃ replies fs', processConfigs readNodeId info [forNode, forOther, forNode]
        ⟨fun _ => some [0], fun _ => false⟩ = .done replies fs' ∧
      fs'.files (ofString "config/node.ini") = some [1] ∧
      List.Forall₂ (Answers readNodeId info) [forNode, forOther, forNode] replies := by
  intro forNode forOther readNodeId info
  exact config_follows (by decide) [forNode, forOther, forNode] ⟨fun _ => some [0], fun _ => false⟩
    [0] rfl (by decide)

end NodeTopic

end Sadip

import Sadip.Machinery.Replace

/-!
# ZenohTopicManager — the names of topics, `dds/zenoh_topic_manager.cpp`

A topic's key is its eight parts between slashes.  A topic for many nodes has a star for the node
id, which each of them has replaced by its own (`replaceFirstString`, from `utils/split.h`): keys
made so tell the nodes apart (`keyOf_inj`) and the directions (`keyOf_ne`), and each is that of the
topic with the node's own id (`keyOf_eq`).  Of the topics with no slash in their parts each has a
key of its own (`buildKeyExpr_inj`), although a direction may have a slash.
-/

namespace Sadip

namespace ZenohTopicManager

/-- `Domain`. -/
inductive Domain
  | DEFAULT | MEMORY | TIMES | S3 | DDS | FILE
  deriving DecidableEq

/-- `Direction`. -/
inductive Direction
  | UP | DOWN | BOTH
  deriving DecidableEq

structure Topic where
  domain : Domain
  project : String
  business : String
  region : String
  nodeId : String
  module : String
  function : String
  direction : Direction
  deriving DecidableEq

def getDomainString : Domain → String
  | .DEFAULT => "default"
  | .MEMORY => "memory"
  | .TIMES => "times"
  | .S3 => "s3"
  | .DDS => "dds"
  | .FILE => "file"

def getDirectionString : Direction → String
  | .UP => "up"
  | .DOWN => "down"
  | .BOTH => "up/down"

def buildKeyExpr (topic : Topic) : String :=
  getDomainString topic.domain ++ "/" ++ topic.project ++ "/" ++ topic.business ++ "/"
    ++ topic.region ++ "/" ++ topic.nodeId ++ "/" ++ topic.module ++ "/" ++ topic.function ++ "/"
    ++ getDirectionString topic.direction

/-- `utility::string::replaceFirstString`. -/
def replaceFirstString (original target replacement : String) : String :=
  .ofList (Replace.replaceFirst target.toList replacement.toList original.toList)

/-- The key a node makes of a topic. -/
def keyOf (topic : Topic) (nodeId : String) : String :=
  replaceFirstString (buildKeyExpr topic) "*" nodeId

variable {topic topic' : Topic} {m n : String}

/-- What stands in a key before the node id. -/
def beforeNodeId (topic : Topic) : String :=
  getDomainString topic.domain ++ "/" ++ topic.project ++ "/" ++ topic.business ++ "/"
    ++ topic.region ++ "/"

/-- What stands in a key between the node id and the direction. -/
def afterNodeId (topic : Topic) : String := "/" ++ topic.module ++ "/" ++ topic.function ++ "/"

theorem toList_buildKeyExpr (topic : Topic) : (buildKeyExpr topic).toList
    = (beforeNodeId topic).toList ++ (topic.nodeId.toList
      ++ ((afterNodeId topic).toList ++ (getDirectionString topic.direction).toList)) := by
  rw [buildKeyExpr, beforeNodeId, afterNodeId]
  simp only [String.toList_append, List.append_assoc]

/-- **The parts of a node's key**: the direction always stands at its end. -/
theorem exists_toList_keyOf (h : topic.nodeId = "*") : ∃ before after, ∀ n : String,
    (keyOf topic n).toList
      = before ++ n.toList ++ (after ++ (getDirectionString topic.direction).toList) := by
  obtain ⟨before, after, hparts⟩ := Replace.exists_replaceFirst '*'
    ((afterNodeId topic).toList ++ (getDirectionString topic.direction).toList)
    (beforeNodeId topic).toList
  have hstar : "*".toList = ['*'] := rfl
  refine ⟨before, after ++ (afterNodeId topic).toList, fun n => ?_⟩
  rw [keyOf, replaceFirstString, String.toList_ofList, toList_buildKeyExpr, h, hstar,
    List.append_assoc after, ← hparts n.toList, List.singleton_append]

/-- **Different nodes make different keys.** -/
theorem keyOf_inj (h : topic.nodeId = "*") : keyOf topic m = keyOf topic n ↔ m = n := by
  refine ⟨fun heq => ?_, fun heq => by rw [heq]⟩
  obtain ⟨before, after, hparts⟩ := exists_toList_keyOf h
  have hlist := congrArg String.toList heq
  rw [hparts, hparts] at hlist
  exact String.toList_inj.mp (List.append_cancel_left (List.append_cancel_right hlist))

/-- The last letter of a key is that of its direction. -/
theorem getLast?_keyOf (h : topic.nodeId = "*") (n : String) :
    (keyOf topic n).toList.getLast? = (getDirectionString topic.direction).toList.getLast? := by
  obtain ⟨before, after, hparts⟩ := exists_toList_keyOf h
  rw [hparts, ← List.append_assoc]
  exact List.getLast?_append_of_ne_nil _ (by cases topic.direction <;> decide)

/-- **Keys of the two directions differ**, whichever the nodes are. -/
theorem keyOf_ne (h : topic.nodeId = "*") (h' : topic'.nodeId = "*")
    (hdown : topic.direction = .DOWN) (hup : topic'.direction = .UP) (m n : String) :
    keyOf topic m ≠ keyOf topic' n := by
  intro heq
  have hlast := getLast?_keyOf h m
  rw [heq, getLast?_keyOf h', hdown, hup] at hlast
  exact absurd hlast (by decide)

/-! ## What keys tell -/

/-- No part of the topic has a slash, less the direction. -/
structure Topic.SlashFree (topic : Topic) : Prop where
  project : '/' ∉ topic.project.toList
  business : '/' ∉ topic.business.toList
  region : '/' ∉ topic.region.toList
  nodeId : '/' ∉ topic.nodeId.toList
  module : '/' ∉ topic.module.toList
  function : '/' ∉ topic.function.toList

theorem slash_not_mem_getDomainString (domain : Domain) :
    '/' ∉ (getDomainString domain).toList := by
  cases domain <;> decide

/-- **The parts of a key**, of which the direction may be one or two. -/
theorem splitOn_buildKeyExpr (h : topic.SlashFree) : (buildKeyExpr topic).toList.splitOn '/'
    = [(getDomainString topic.domain).toList, topic.project.toList, topic.business.toList,
        topic.region.toList, topic.nodeId.toList, topic.module.toList, topic.function.toList]
      ++ (getDirectionString topic.direction).toList.splitOn '/' := by
  have hslash : "/".toList = ['/'] := rfl
  have hpart := fun (part : List Char) (h : '/' ∉ part) =>
    List.splitOn_append_cons_self_of_not_mem h
  simp only [buildKeyExpr, String.toList_append, hslash, List.append_assoc, List.cons_append,
    List.nil_append, hpart _ (slash_not_mem_getDomainString _), hpart _ h.project,
    hpart _ h.business, hpart _ h.region, hpart _ h.nodeId, hpart _ h.module, hpart _ h.function]

theorem getDomainString_injective : Function.Injective getDomainString := by
  intro domain domain' h
  cases domain <;> cases domain' <;> first | rfl | exact absurd h (by decide)

theorem getDirectionString_injective : Function.Injective getDirectionString := by
  intro direction direction' h
  cases direction <;> cases direction' <;> first | rfl | exact absurd h (by decide)

/-- **Different topics have different keys.** -/
theorem buildKeyExpr_inj (h : topic.SlashFree) (h' : topic'.SlashFree) :
    buildKeyExpr topic = buildKeyExpr topic' ↔ topic = topic' := by
  refine ⟨fun heq => ?_, fun heq => by rw [heq]⟩
  have hparts := congrArg (fun key : String => key.toList.splitOn '/') heq
  simp only [splitOn_buildKeyExpr h, splitOn_buildKeyExpr h', List.cons_append, List.nil_append,
    List.cons.injEq, String.toList_inj] at hparts
  obtain ⟨hdomain, hproject, hbusiness, hregion, hnodeId, hmodule, hfunction, hdirection⟩ := hparts
  have hdirection := congrArg (List.intercalate ['/']) hdirection
  rw [List.intercalate_splitOn, List.intercalate_splitOn, String.toList_inj] at hdirection
  cases topic
  cases topic'
  cases hproject
  cases hbusiness
  cases hregion
  cases hnodeId
  cases hmodule
  cases hfunction
  cases getDomainString_injective hdomain
  cases getDirectionString_injective hdirection
  rfl

/-- A topic for many nodes: its one star, in the place of the node id, stands for all of them. -/
structure Topic.Base (topic : Topic) : Prop where
  nodeId : topic.nodeId = "*"
  project : '*' ∉ topic.project.toList
  business : '*' ∉ topic.business.toList
  region : '*' ∉ topic.region.toList
  module : '*' ∉ topic.module.toList
  function : '*' ∉ topic.function.toList

theorem star_not_mem_getDomainString (domain : Domain) :
    '*' ∉ (getDomainString domain).toList := by
  cases domain <;> decide

theorem Topic.Base.star_not_mem (h : topic.Base) : '*' ∉ (beforeNodeId topic).toList := by
  have hslash : '*' ∉ "/".toList := by decide
  simp only [beforeNodeId, String.toList_append, List.mem_append, not_or]
  exact ⟨⟨⟨⟨⟨⟨⟨star_not_mem_getDomainString _, hslash⟩, h.project⟩, hslash⟩, h.business⟩, hslash⟩,
    h.region⟩, hslash⟩

/-- **A node's key is the key of the topic with its node id.** -/
theorem keyOf_eq (h : topic.Base) (n : String) :
    keyOf topic n = buildKeyExpr { topic with nodeId := n } := by
  have hstar : "*".toList = ['*'] := rfl
  rw [← String.toList_inj, keyOf, replaceFirstString, String.toList_ofList, toList_buildKeyExpr,
    toList_buildKeyExpr, h.nodeId, hstar, List.singleton_append,
    Replace.replaceFirst_singleton_append _ _ h.star_not_mem]
  rfl

/-! ## The channels of nodes, `node/src/main.cpp` -/

/-- What differs between the channels of two nodes. -/
structure TopicInfo where
  topic_ : String
  topicReply_ : String
  partition_ : String
  deriving DecidableEq

section Channels

variable (nodeMsgBaseDownTopic nodeMsgBaseUpTopic : Topic)

def topicInfo (nodeId : String) : TopicInfo where
  topic_ := keyOf nodeMsgBaseDownTopic nodeId
  topicReply_ := keyOf nodeMsgBaseUpTopic nodeId
  partition_ := nodeId

/-- The channels that a node writes on: a manager on that of each node. -/
def nodeTopicDownList (group : String) (nodeMsgNodeIdsVec : List String) : List TopicInfo :=
  if group = "mgr" then nodeMsgNodeIdsVec.map (topicInfo nodeMsgBaseDownTopic nodeMsgBaseUpTopic)
  else []

/-- The channels that a node reads from: its own, which a manager may not have, or twice. -/
def nodeTopicUpList (group nodeId : String) (nodeMsgNodeIdsVec : List String) : List TopicInfo :=
  if group = "mgr" then (nodeMsgNodeIdsVec.filter (· = nodeId)).map
    (topicInfo nodeMsgBaseDownTopic nodeMsgBaseUpTopic)
  else [topicInfo nodeMsgBaseDownTopic nodeMsgBaseUpTopic nodeId]

end Channels

variable {down up : Topic} {group nodeId : String} {nodeIds : List String}

/-- A node that is no manager reads from its own channel only. -/
theorem nodeTopicUpList_of_ne (h : group ≠ "mgr") :
    nodeTopicUpList down up group nodeId nodeIds = [topicInfo down up nodeId] :=
  if_neg h

theorem nodeTopicDownList_mgr :
    nodeTopicDownList down up "mgr" nodeIds = nodeIds.map (topicInfo down up) :=
  if_pos rfl

/-- The manager writes on channels of nodes, each with the id of its node. -/
theorem eq_of_mem_nodeTopicDownList {info : TopicInfo}
    (h : info ∈ nodeTopicDownList down up "mgr" nodeIds) :
    info = topicInfo down up info.partition_ := by
  rw [nodeTopicDownList_mgr, List.mem_map] at h
  obtain ⟨m, -, rfl⟩ := h
  rfl

/-- A node's channel, in the keys of the topics with its node id. -/
theorem topicInfo_eq (hdown : down.Base) (hup : up.Base) (n : String) : topicInfo down up n
    = ⟨buildKeyExpr { down with nodeId := n }, buildKeyExpr { up with nodeId := n }, n⟩ := by
  rw [topicInfo, keyOf_eq hdown, keyOf_eq hup]

/-- **Keys tell topics and nodes apart**: different topics without slashes have different keys, a
node id in place of the star makes the key of the topic with this node id, and of the manager's
channels a node reads from the one that is written for it. -/
theorem buildKeyExpr_unambiguous :
    (∀ topic topic' : Topic, topic.SlashFree → topic'.SlashFree →
      (buildKeyExpr topic = buildKeyExpr topic' ↔ topic = topic')) ∧
    (∀ base : Topic, base.Base → ∀ n : String,
      replaceFirstString (buildKeyExpr base) "*" n = buildKeyExpr { base with nodeId := n }) ∧
    ∀ down up : Topic, down.Base → up.Base → ∀ (group : String), group ≠ "mgr" →
      ∀ (n : String) (nodeIds nodeIds' : List String),
        nodeTopicUpList down up group n nodeIds'
          = [⟨buildKeyExpr { down with nodeId := n }, buildKeyExpr { up with nodeId := n }, n⟩] ∧
        nodeTopicDownList down up "mgr" nodeIds = nodeIds.map (fun m =>
          ⟨buildKeyExpr { down with nodeId := m }, buildKeyExpr { up with nodeId := m }, m⟩) ∧
        ∀ writer ∈ nodeTopicDownList down up "mgr" nodeIds,
          ∀ reader ∈ nodeTopicUpList down up group n nodeIds',
            (writer.topic_ = reader.topic_ ↔ writer.partition_ = reader.partition_) ∧
            (writer.topicReply_ = reader.topicReply_ ↔ writer.partition_ = reader.partition_) := by
  refine ⟨fun _ _ => buildKeyExpr_inj, fun _ => keyOf_eq, ?_⟩
  intro down up hdown hup group hgroup n nodeIds nodeIds'
  refine ⟨?_, ?_, fun writer hwriter reader hreader => ?_⟩
  · rw [nodeTopicUpList_of_ne hgroup, topicInfo_eq hdown hup]
  · rw [nodeTopicDownList_mgr]
    exact List.map_congr_left fun m _ => topicInfo_eq hdown hup m
  · rw [nodeTopicUpList_of_ne hgroup, List.mem_singleton] at hreader
    rw [eq_of_mem_nodeTopicDownList hwriter, hreader]
    simp only [topicInfo]
    exact ⟨keyOf_inj hdown.nodeId, keyOf_inj hup.nodeId⟩

/-- The two nodes of a platform, its manager and one on the edge. -/
theorem buildKeyExpr_unambiguous_platform :
    let down : Topic := ⟨.TIMES, "platform", "mgr", "cloud", "*", "node", "mgmt", .DOWN⟩
    let up : Topic := ⟨.TIMES, "platform", "mgr", "cloud", "*", "node", "mgmt", .UP⟩
    buildKeyExpr down ≠ buildKeyExpr { down with direction := .BOTH } ∧
      replaceFirstString (buildKeyExpr down) "*" "edge"
        = "times/platform/mgr/cloud/edge/node/mgmt/down" ∧
      ∀ writer ∈ nodeTopicDownList down up "mgr" ["hub", "edge"],
        ∀ reader ∈ nodeTopicUpList down up "worker" "edge" [],
          (writer.topic_ = reader.topic_ ↔ writer.partition_ = reader.partition_) := by
  intro down up
  have hslash : ∀ direction, Topic.SlashFree { down with direction := direction } :=
    fun direction => by cases direction <;> constructor <;> decide
  have hstar : ∀ direction, Topic.Base { down with direction := direction } :=
    fun direction => by cases direction <;> constructor <;> decide
  obtain ⟨hinj, hkey, hnodes⟩ := buildKeyExpr_unambiguous
  refine ⟨fun h => ?_, (hkey down (hstar .DOWN) "edge").trans (by decide), ?_⟩
  · exact absurd ((hinj _ _ (hslash .DOWN) (hslash .BOTH)).mp h) (by decide)
  · intro writer hwriter reader hreader
    exact ((hnodes down up (hstar .DOWN) (hstar .UP) "worker" (by decide) "edge" ["hub", "edge"]
      []).2.2 writer hwriter reader hreader).1

end ZenohTopicManager

end Sadip

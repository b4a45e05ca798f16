import Sadip.NodeInfo
import Sadip.Split

/-!
# NodeInfo/Start — whether a node comes up, `node/src/main.cpp`, `utils/parseJson.h`

The file of a node names another one, which says in JSON which nodes are in which group.  Of four
lists of groups `main` takes the first node there is, without asking whether there is one.  So it
comes as far as its node exactly with a group file that lists groups, and with a node for each of
the four (`start_eq_ok_iff`); it ends with an exception if there is no such file, and not in any
defined way if it lists something else.

What `main` asks of the system besides (a log, a database for a manager, the framework) it gets.
-/

namespace Sadip

namespace NodeInfo

open Ini INIReader

open Json (Value Doubles parse)

/-- How `main` ends before it has its node. -/
inductive Ending
  /-- `main` returns -/
  | returned (code : ℤ)
  /-- an exception that nobody catches -/
  | thrown (what : Text)
  /-- an assertion of the library that reads JSON, or the first of no nodes -/
  | undefined

/-! ## The group file -/

section Groups

variable {D : Type}

/-- `HasMember` and `[]`: the first member with this name. -/
def findMember (members : List (Text × Value D)) (name : String) : Option (Value D) :=
  members.lookup (ascii name)

/-- `memberList`: those of `group_member` that are strings. -/
def memberList (group : List (Text × Value D)) : List Text :=
  match findMember group "group_member" with
  | some (.array members) => members.filterMap fun
      | .string member => some (cString member)
      | _ => none
  | _ => []

/-- The name and the nodes of a group, if it has a name. -/
def groupOf (group : List (Text × Value D)) : Option (Text × List Text) :=
  match findMember group "group_name" with
  | some (.string groupName) => some (cString groupName, memberList group)
  | _ => none

/-- `std::map<std::string, std::vector<std::string>>`. -/
abbrev GroupMap := Text → Option (List Text)

/-- One round of the loop of `parseJsonToMap`; `HasMember` is for objects only. -/
def addGroup (groupMap : GroupMap) : Value D → Except Ending GroupMap
  | .object group =>
      match groupOf group with
      | some (groupName, memberList) => .ok (Function.update groupMap groupName (some memberList))
      | none => .ok groupMap
  | _ => .error .undefined

/-- `parseJsonToMap`, of the content of the file if it opens. -/
def parseJsonToMap (doubles : Doubles D) (filename : Text) (file : Option Text) :
    Except Ending GroupMap :=
  match file with
  | none => .error (.thrown (ascii "Unable to open file: " ++ filename))
  | some content =>
      match parse doubles content with
      | none => .error (.thrown (ascii "Error parsing JSON file."))
      | some (.object members) =>
          match findMember members "groups" with
          | some (.array groups) => groups.foldlM addGroup fun _ => none
          | _ => .ok fun _ => none
      | some _ => .error .undefined

/-- `getGroupVec`, into an empty vector. -/
def getGroupVec (inputMap : GroupMap) (keys : List Text) : List Text :=
  keys.flatMap fun key => (inputMap key).getD []

/-- The value as an object, if it is one. -/
def asObject : Value D → Option (List (Text × Value D))
  | .object members => some members
  | _ => none

/-- The groups that a document lists, if it is an object and all of its groups are. -/
def groupsIn : Value D → Option (List (Text × List Text))
  | .object members =>
      match findMember members "groups" with
      | some (.array groups) => (groups.mapM asObject).map fun objects => objects.filterMap groupOf
      | _ => some []
  | _ => none

/-- The map of some groups: of those with one name the last one counts. -/
def mapOf (groups : List (Text × List Text)) : GroupMap := fun name => groups.reverse.lookup name

theorem foldlM_addGroup : ∀ (groups : List (Value D)) (before : List (Text × List Text)),
    groups.foldlM addGroup (mapOf before) =
      match groups.mapM asObject with
      | some objects => .ok (mapOf (before ++ objects.filterMap groupOf))
      | none => .error .undefined
  | [], before => by
      rw [List.foldlM_nil, List.mapM_nil]
      exact congrArg Except.ok (congrArg mapOf (List.append_nil before).symm)
  | group :: groups, before => by
      rw [List.foldlM_cons, List.mapM_cons]
      cases group with
      | object members =>
        have hadd : addGroup (mapOf before) (.object members) =
            .ok (mapOf (before ++ [members].filterMap groupOf)) := by
          rw [addGroup]
          cases hgroup : groupOf members with
          | none => simp [hgroup]
          | some group =>
            rw [List.filterMap_cons_some hgroup, List.filterMap_nil]
            refine congrArg Except.ok (funext fun name => ?_)
            rw [Function.update_apply, mapOf, mapOf, List.reverse_concat, List.lookup_cons]
            by_cases hname : name = group.1
            · rw [if_pos hname, beq_iff_eq.mpr hname]
            · rw [if_neg hname, beq_false_of_ne hname]
        rw [hadd]
        show groups.foldlM addGroup _ = _
        rw [foldlM_addGroup groups]
        rcases hobjects : groups.mapM asObject with - | objects
        · rfl
        · show Except.ok (mapOf (_ ++ _ ++ _)) = Except.ok (mapOf (before ++ (_ :: _).filterMap _))
          rw [List.append_assoc, ← List.filterMap_append]
          rfl
      | _ => rfl

/-- **What a document comes to**: its groups, or nothing that is defined. -/
theorem parseJsonToMap_eq {doubles : Doubles D} {content : Text} {document : Value D}
    (h : parse doubles content = some document) (filename : Text) :
    parseJsonToMap doubles filename (some content) =
      match groupsIn document with
      | some groups => .ok (mapOf groups)
      | none => .error .undefined := by
  rw [parseJsonToMap, h]
  cases document with
  | object members =>
    dsimp only [groupsIn]
    split
    · rename_i groups _
      refine (foldlM_addGroup groups []).trans ?_
      cases groups.mapM asObject <;> rfl
    · rfl
  | _ => rfl

end Groups

/-! ## The node -/

/-- What a node goes by, and what it does on its own. -/
structure Node where
  nodeId : Text
  nodeName : Text
  group : Text
  processVec : List Process
  s3WatchVec : List S3Watch

/-- `v[0]`. -/
def first : List Text → Except Ending Text
  | [] => .error .undefined
  | node :: _ => .ok node

section Files

variable (nodeConfig : INIReader) (groupMap : GroupMap)

/-- `groupPath`. -/
def groupPath : Text := nodeConfig.getString (ascii "group") (ascii "group_path") []

def nodeCmdGroup : Text := nodeConfig.getString (ascii "route") (ascii "node_cmd_group") []

def nodePingGroup : Text := nodeConfig.getString (ascii "route") (ascii "node_ping_group") []

def nodeMstateGroup : Text := nodeConfig.getString (ascii "route") (ascii "node_mstate_group") []

def monGroup : Text :=
  nodeConfig.getString (ascii "route") (ascii "mon_group") (ascii "mgr_x86_linux")

/-- The nodes of some groups: `split` by commas, and `getGroupVec`. -/
def nodesOf (groupNames : Text) : List Text :=
  getGroupVec groupMap (Split.split ','.toUInt8 groupNames)

def node : Node where
  nodeId := nodeConfig.getString (ascii "base") (ascii "node_id") []
  nodeName := nodeConfig.getString (ascii "base") (ascii "name") []
  group := nodeConfig.getString (ascii "base") (ascii "group") []
  processVec := processVec nodeConfig
  s3WatchVec := s3WatchVec nodeConfig

end Files

section Starting

variable {D : Type} (doubles : Doubles D) (groupFile : Text → Option Text)

/-- `main`, as far as its files decide: how it ends, or the node that comes up. -/
def start (file : Option Text) : Except Ending Node :=
  let nodeConfig := ofFile file
  if nodeConfig.error < 0 then .error (.returned (-1))
  else if groupPath nodeConfig = [] then .error (.returned 0)
  else do
    let groupMap ← parseJsonToMap doubles (groupPath nodeConfig) (groupFile (groupPath nodeConfig))
    let _ ← first (nodesOf groupMap (nodeCmdGroup nodeConfig))
    let _ ← first (nodesOf groupMap (nodePingGroup nodeConfig))
    let _ ← first (nodesOf groupMap (nodeMstateGroup nodeConfig))
    let _ ← first (nodesOf groupMap (monGroup nodeConfig))
    .ok (node nodeConfig)

/-- The groups of which `main` takes the first node. -/
def taken (nodeConfig : INIReader) : List Text :=
  [nodeCmdGroup nodeConfig, nodePingGroup nodeConfig, nodeMstateGroup nodeConfig,
    monGroup nodeConfig]

/-- What the files have to say for a node to come up. -/
structure ComesUp (nodeConfig : INIReader) : Prop where
  named : groupPath nodeConfig ≠ []
  listed : ∃ content document groups, groupFile (groupPath nodeConfig) = some content ∧
    parse doubles content = some document ∧ groupsIn document = some groups ∧
      ∀ groupNames ∈ taken nodeConfig, ∃ groupName ∈ Split.split ','.toUInt8 groupNames,
        ∃ node nodes, groups.reverse.lookup groupName = some (node :: nodes)

variable {doubles groupFile} {file : Option Text} {groupMap : GroupMap} {n : Node}

/-- Of the other files, only the one that is named counts. -/
theorem comesUp_congr {groupFile' : Text → Option Text} {nodeConfig : INIReader}
    (h : groupFile (groupPath nodeConfig) = groupFile' (groupPath nodeConfig)) :
    ComesUp doubles groupFile nodeConfig ↔ ComesUp doubles groupFile' nodeConfig := by
  constructor
  · rintro ⟨hnamed, hlisted⟩
    exact ⟨hnamed, h ▸ hlisted⟩
  · rintro ⟨hnamed, hlisted⟩
    exact ⟨hnamed, h.symm ▸ hlisted⟩

theorem error_nonneg (content : Text) : 0 ≤ (ofFile (some content)).error := by
  rw [ofFile, iniParse_eq total_valueHandler]
  exact Int.natCast_nonneg _

theorem first_bind_eq_ok_iff {v : List Text} {rest : Except Ending Node} :
    (first v >>= fun _ => rest) = .ok n ↔ v ≠ [] ∧ rest = .ok n := by
  cases v with
  | nil => exact iff_of_false (by rintro ⟨⟩) fun h => h.1 rfl
  | cons node nodes => exact ⟨fun h => ⟨List.cons_ne_nil _ _, h⟩, And.right⟩

theorem nodesOf_ne_nil_iff {groups : List (Text × List Text)} {groupNames : Text} :
    nodesOf (mapOf groups) groupNames ≠ [] ↔ ∃ groupName ∈ Split.split ','.toUInt8 groupNames,
      ∃ node nodes, groups.reverse.lookup groupName = some (node :: nodes) := by
  rw [nodesOf, getGroupVec, ne_eq, List.flatMap_eq_nil_iff, not_forall₂]
  simp only [exists_prop]
  refine exists_congr fun groupName => and_congr_right fun _ => ?_
  rw [mapOf]
  rcases groups.reverse.lookup groupName with - | - | ⟨node, nodes⟩
  · simp
  · simp
  · simp

/-- **When a node comes up**, and as which. -/
theorem start_eq_ok_iff : start doubles groupFile file = .ok n ↔
    file.isSome ∧ ComesUp doubles groupFile (ofFile file) ∧ n = node (ofFile file) := by
  rcases file with - | content
  · exact iff_of_false (by rintro ⟨⟩) (by rintro ⟨⟨⟩, -⟩)
  rw [start, if_neg (Int.not_lt.mpr (error_nonneg content))]
  by_cases hgroup : groupPath (ofFile (some content)) = []
  · rw [if_pos hgroup]
    exact iff_of_false (by rintro ⟨⟩) fun h => h.2.1.named hgroup
  rw [if_neg hgroup]
  constructor
  · intro h
    rcases htext : groupFile (groupPath (ofFile (some content))) with - | text
    · rw [htext] at h
      cases h
    rcases hdocument : parse doubles text with - | document
    · rw [htext, parseJsonToMap, hdocument] at h
      cases h
    rw [htext, parseJsonToMap_eq hdocument] at h
    rcases hgroups : groupsIn document with - | groups
    · rw [hgroups] at h
      cases h
    rw [hgroups] at h
    obtain ⟨hcmd, h⟩ := first_bind_eq_ok_iff.mp h
    obtain ⟨hping, h⟩ := first_bind_eq_ok_iff.mp h
    obtain ⟨hmstate, h⟩ := first_bind_eq_ok_iff.mp h
    obtain ⟨hmon, h⟩ := first_bind_eq_ok_iff.mp h
    refine ⟨rfl, ⟨hgroup, text, document, groups, htext, hdocument, hgroups, ?_⟩,
      (Except.ok.inj h).symm⟩
    simp only [taken, List.forall_mem_cons, ← nodesOf_ne_nil_iff]
    exact ⟨hcmd, hping, hmstate, hmon, List.forall_mem_nil _⟩
  · rintro ⟨-, ⟨-, text, document, groups, htext, hdocument, hgroups, htaken⟩, rfl⟩
    rw [htext, parseJsonToMap_eq hdocument, hgroups]
    simp only [taken, List.forall_mem_cons, ← nodesOf_ne_nil_iff] at htaken
    obtain ⟨hcmd, hping, hmstate, hmon, -⟩ := htaken
    exact first_bind_eq_ok_iff.mpr ⟨hcmd, first_bind_eq_ok_iff.mpr ⟨hping,
      first_bind_eq_ok_iff.mpr ⟨hmstate, first_bind_eq_ok_iff.mpr ⟨hmon, rfl⟩⟩⟩⟩

end Starting

end NodeInfo

end Sadip

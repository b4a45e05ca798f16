import Sadip.Machinery.Run
import Sadip.NodeInfo.Start
import Sadip.NodeTopic.Sequence

/-!
# NodeTopic/Restarts — a node and its file over restarts, `node/src/main.cpp`

Who a node is, it reads in its file when it starts; which configurations it takes, it decides by who
it is.  A message goes through its file operations one after another, and the process may end
between any two of them or in the middle of a write: then the file is gone for a while, or holds a
part of a configuration, or all of one that is another node's.  `identity_iff` says that these are
the only ways for a node to lose its identity, over any sequence of messages, starts and crashes.

Whether a node comes up again is another matter, for nobody asks this of a configuration before it
is accepted (`comes_up_iff`).
-/

namespace Sadip

namespace NodeTopic

open FileSplit FsPath Imperative Imperative.Prog NodeCmdTopic Ini INIReader

open Json (Doubles parse)

/-! ## Starting -/

/-- `reader.GetString("base", "node_id", "")`. -/
def nodeIdIn (content : Bytes) : String :=
  str ((ofFile (some content)).getString (ascii "base") (ascii "node_id") [])

section Starting

variable {D : Type} (doubles : Doubles D) (fs : FileSystem)

theorem str_ne_empty {t : Text} (h : t ≠ []) : str t ≠ "" := fun hstr =>
  h (List.map_eq_nil_iff.mp (String.ofList_injective hstr))

/-- A file that the program names by its bytes. -/
def named (name : Text) : Option Bytes := fs.files (ofString (str name))

/-- The node that comes up with its file at `path`, with the topic that `main` makes for
configurations. -/
def started (path : String) : Option NodeInfo :=
  match NodeInfo.start doubles (named fs) (fs.files (ofString path)) with
  | .ok node => some ⟨str node.nodeId, str node.nodeName, true⟩
  | .error _ => none

variable {doubles fs} {path : String} {content : Bytes} {info : NodeInfo}

theorem started_eq_some_iff (hfile : fs.files (ofString path) = some content) :
    started doubles fs path = some info ↔
      NodeInfo.ComesUp doubles (named fs) (ofFile (some content)) ∧ info = ⟨nodeIdIn content,
        str ((ofFile (some content)).getString (ascii "base") (ascii "name") []), true⟩ := by
  rw [started, hfile]
  rcases hstart : NodeInfo.start doubles (named fs) (some content) with ending | node
  · refine iff_of_false (by rintro ⟨⟩) fun h => ?_
    have hok := NodeInfo.start_eq_ok_iff.mpr ⟨rfl, h.1, rfl⟩
    rw [hstart] at hok
    cases hok
  · obtain ⟨-, hup, rfl⟩ := NodeInfo.start_eq_ok_iff.mp hstart
    exact ⟨fun h => ⟨hup, (Option.some.inj h).symm⟩, fun h => congrArg some h.2.symm⟩

theorem isSome_started_iff (hfile : fs.files (ofString path) = some content) :
    (started doubles fs path).isSome ↔
      NodeInfo.ComesUp doubles (named fs) (ofFile (some content)) := by
  rw [Option.isSome_iff_exists]
  constructor
  · rintro ⟨info, h⟩
    exact ((started_eq_some_iff hfile).mp h).1
  · exact fun h => ⟨_, (started_eq_some_iff hfile).mpr ⟨h, rfl⟩⟩

end Starting

/-! ## What a message does to the disk -/

/-- `move`, of another file than the one it goes to. -/
def moveOps (fs : FileSystem) (src dst : String) : List FileOp :=
  .empty (ofString dst) ::
    match fs.files (ofString src) with
    | some content => [.append (ofString dst) content, .remove (ofString src)]
    | none => []

/-- `write_file`. -/
def writeOps (filename : String) (buff : Bytes) : List FileOp :=
  [.empty (ofString filename), .append (ofString filename) buff]

/-- The operations of `process_config` up to where it reads the new configuration. -/
def updateOps (m : Arrival) (fs : FileSystem) : List FileOp :=
  .mkdir (ofString (m.node.toConfigPath ++ "_tmp" ++ "/")) ::
    (moveOps fs m.node.toConfigPath (copyFilename m.node.toConfigPath) ++
      writeOps m.node.toConfigPath m.node.config)

/-- The operations of `process_config`: the backup moves back if it comes to that. -/
def configOps (info : NodeInfo) (m : Arrival) (fs : FileSystem) : List FileOp :=
  updateOps m fs ++
    if m.Carries nodeIdIn info then []
    else moveOps (FileOp.run fs (updateOps m fs)) (copyFilename m.node.toConfigPath)
      m.node.toConfigPath

section Operations

variable {fs : FileSystem} {src dst : String} {m : Arrival} {info : NodeInfo} {content : Bytes}

theorem run_moveOps (h : ofString src ≠ ofString dst) :
    FileOp.run fs (moveOps fs src dst) = (moveOpening ⟨true, true⟩ fs src dst).2 := by
  rw [moveOps, moveOpening]
  cases hsrc : fs.files (ofString src) with
  | none => rfl
  | some content =>
    have hopened : (fs.write (ofString dst) []).files (ofString src) = some content := by
      rw [FileSystem.files_write_of_ne _ _ h, hsrc]
    simp only [if_true, hopened, Option.getD_some]
    rfl

theorem run_updateOps (h : m.node.toConfigPath ≠ "") :
    FileOp.run fs (updateOps m fs) = written m.env m.node fs := by
  have hmoved : FileOp.run (mkdir fs (m.node.toConfigPath ++ "_tmp" ++ "/"))
      (moveOps (mkdir fs (m.node.toConfigPath ++ "_tmp" ++ "/")) m.node.toConfigPath
        (copyFilename m.node.toConfigPath)) = _ :=
    run_moveOps (copyFilename_ne h).symm
  refine (FileOp.run_append _ _ _).trans ?_
  refine (congrArg (FileOp.run · (writeOps m.node.toConfigPath m.node.config)) hmoved).trans ?_
  exact FileSystem.append_write _ _ _

theorem processConfig_ops (info : NodeInfo) (fs : FileSystem) (h : m.node.toConfigPath ≠ "") :
    ∃ reply, processConfig nodeIdIn info m.env m.node fs =
      .done reply (FileOp.run fs (configOps info m fs)) := by
  have hid : newNodeId nodeIdIn m.env.reader (written m.env m.node fs) m.node.toConfigPath
      = nodeIdIn m.node.config := by
    rw [newNodeId, files_written_config h]
    rfl
  rw [processConfig_run rfl h, hid, configOps, FileOp.run_append, run_updateOps h]
  by_cases hc : m.Carries nodeIdIn info
  · rw [if_pos hc]
    exact ⟨_, if_pos hc⟩
  · rw [if_neg hc, run_moveOps (copyFilename_ne h)]
    exact ⟨_, if_neg hc⟩

/-- The operations on a configuration that is there. -/
theorem configOps_eq (h : m.node.toConfigPath ≠ "")
    (hfile : fs.files (ofString m.node.toConfigPath) = some content) :
    let path := ofString m.node.toConfigPath
    let copy := ofString (copyFilename m.node.toConfigPath)
    configOps info m fs =
      [.mkdir (ofString (m.node.toConfigPath ++ "_tmp" ++ "/")), .empty copy, .append copy content,
        .remove path, .empty path, .append path m.node.config] ++
      if m.Carries nodeIdIn info then []
      else [.empty path, .append path content, .remove copy] := by
  have hcopy : (FileOp.run fs (updateOps m fs)).files (ofString (copyFilename m.node.toConfigPath))
      = some content := by
    rw [run_updateOps h, files_written_copy h, hfile]
    rfl
  intro path copy
  rw [configOps, moveOps, hcopy, updateOps, moveOps, hfile]
  rfl

/-- What a message makes of a configuration: after so many of its operations, and so many bytes of
the next one. -/
def Arrival.config (info : NodeInfo) (m : Arrival) (config : Bytes) (done bytes : ℕ) :
    Option Bytes :=
  match done with
  | 0 | 1 | 2 | 3 => some config
  | 4 => none
  | 5 => some (m.node.config.take bytes)
  | 6 => some m.node.config
  | 7 => some (if m.Carries nodeIdIn info then m.node.config else config.take bytes)
  | _ => some (if m.Carries nodeIdIn info then m.node.config else config)

/-- The node's file after a message for it, or a part of one. -/
theorem files_brokenOff (h : m.node.toConfigPath ≠ "")
    (hfile : fs.files (ofString m.node.toConfigPath) = some content) (done bytes : ℕ) :
    (FileOp.run fs (FileOp.brokenOff (configOps info m fs) done bytes)).files
      (ofString m.node.toConfigPath) = m.config info content done bytes := by
  have hne : ofString m.node.toConfigPath ≠ ofString (copyFilename m.node.toConfigPath) :=
    (copyFilename_ne h).symm
  rw [FileOp.files_run, configOps_eq h hfile, hfile]
  by_cases hc : m.Carries nodeIdIn info
  · rcases done with - | - | - | - | - | - | - | - | done <;>
      simp [FileOp.brokenOff, FileOp.part, FileOp.on, Arrival.config, hne, hc]
  · rcases done with - | - | - | - | - | - | - | - | - | done <;>
      simp [FileOp.brokenOff, FileOp.part, FileOp.on, Arrival.config, hne, hc]

/-- The other files. -/
theorem within_configOps (info : NodeInfo) (m : Arrival) (fs : FileSystem) :
    ∀ op ∈ configOps info m fs, op.Within [ofString m.node.toConfigPath,
      ofString (copyFilename m.node.toConfigPath)] := by
  have hmove : ∀ {fs src dst},
      ∀ op ∈ moveOps fs src dst, op.Within [ofString src, ofString dst] := by
    intro fs src dst
    rw [moveOps]
    refine List.forall_mem_cons.mpr ⟨by simp [FileOp.Within], ?_⟩
    split <;> simp [FileOp.Within]
  have hback : ∀ op ∈ if m.Carries nodeIdIn info then [] else
      moveOps (FileOp.run fs (updateOps m fs)) (copyFilename m.node.toConfigPath)
        m.node.toConfigPath, op.Within [ofString m.node.toConfigPath,
          ofString (copyFilename m.node.toConfigPath)] := by
    split
    · exact List.forall_mem_nil _
    · intro op hop
      refine (hmove op hop).mono ?_
      simp
  refine List.forall_mem_append.mpr ⟨?_, hback⟩
  refine List.forall_mem_cons.mpr ⟨trivial, List.forall_mem_append.mpr ⟨hmove, ?_⟩⟩
  simp [writeOps, FileOp.Within]

end Operations

/-! ## A node and its disk -/

/-- What happens to a node. -/
inductive Event
  /-- a message comes in; all file operations succeed -/
  | message (m : Arrival)
  /-- the process ends while it handles a message, after so many of its file operations and, if the
  next one writes, so many bytes of that -/
  | crash (m : Arrival) (done bytes : ℕ)
  /-- the process is started, again if it runs -/
  | restart

/-- A disk, and the node that runs on it if there is one. -/
structure Life where
  fs : FileSystem
  node : Option NodeInfo

/-- What is left of a message that is broken off. -/
def touched (info : NodeInfo) (m : Arrival) (fs : FileSystem) (done bytes : ℕ) : FileSystem :=
  if info.needReply ∧ m.node.uuid ≠ "" then
    FileOp.run fs (FileOp.brokenOff (configOps info m fs) done bytes)
  else fs

section Lives

variable {D : Type} (doubles : Doubles D) (cwd : FsPath) (path : String)

/-- `path` is where the node has its file. -/
def step (life : Life) : Event → Option Life
  | .message m =>
      match life.node with
      | none => some life
      | some info => (handleNode nodeIdIn info m.env m.node life.fs).state.map fun fs => ⟨fs, info⟩
  | .crash m done bytes =>
      match life.node with
      | none => some life
      | some info => some ⟨touched info m life.fs done bytes, none⟩
  | .restart => some ⟨life.fs, started doubles life.fs path⟩

/-- A message that the node takes as one for its file. -/
def Arrival.For (m : Arrival) : Prop := m.node.toConfigPath = path ∧ m.node.uuid ≠ ""

instance (m : Arrival) : Decidable (m.For path) := inferInstanceAs (Decidable (_ ∧ _))

/-- The files of the message are not the one of this name. -/
def Arrival.KeepsOff (name : String) (m : Arrival) : Prop :=
  FileSystem.Apart cwd name m.node.toConfigPath ∧
    FileSystem.Apart cwd name (copyFilename m.node.toConfigPath)

/-- A message for the node's file, or for one that has nothing to do with it. -/
structure Arrival.Fits (m : Arrival) : Prop where
  names : m.node.toConfigPath ≠ ""
  apart : m.node.toConfigPath ≠ path → m.KeepsOff cwd path

/-- The messages keep off the node's file unless they are for it. -/
def Event.Fits : Event → Prop
  | .message m => m.Fits cwd path
  | .crash m _ _ => m.Fits cwd path
  | .restart => True

/-- The node that runs is `n`, and the file is there and is that of `n`. -/
structure Life.Whole (n : String) (life : Life) : Prop where
  node : ∀ info, life.node = some info → info.nodeId = n
  config : ∃ content, life.fs.files (ofString path) = some content ∧ nodeIdIn content = n

/-- The process does not end while the node's file is gone, nor while what is in it, a part of the
new configuration or all of it or a part of the old one, does not say who the node is. -/
def Life.Spared (life : Life) : Event → Prop
  | .crash m done bytes => ∀ info, life.node = some info → m.For path →
      done ≠ 4 ∧ (done = 5 → nodeIdIn (m.node.config.take bytes) = info.nodeId) ∧
        (done = 6 → m.Carries nodeIdIn info) ∧
        (done = 7 → ¬ m.Carries nodeIdIn info → ∀ content,
          life.fs.files (ofString path) = some content →
            nodeIdIn (content.take bytes) = info.nodeId)
  | _ => True

end Lives

section Steps

variable {D : Type} {doubles : Doubles D} {cwd : FsPath} {path : String} {n : String} {life : Life}
  {info : NodeInfo} {m : Arrival} {fs : FileSystem} {content : Bytes}

theorem copyFilename_ne_empty (configPath : String) : copyFilename configPath ≠ "" := by
  intro h
  have hlist := congrArg String.toList h
  rw [copyFilename, String.toList_append, String.toList_append, List.append_assoc] at hlist
  exact List.cons_ne_nil _ _ (List.append_eq_nil_iff.mp hlist).2

theorem Arrival.KeepsOff.files (h : m.KeepsOff cwd path) (hpath : path ≠ "")
    (hm : m.node.toConfigPath ≠ "") (done bytes : ℕ) :
    (touched info m fs done bytes).files (ofString path) = fs.files (ofString path) := by
  rw [touched]
  split
  · refine FileOp.files_run_of_not_mem ?_
      (FileOp.within_brokenOff (within_configOps info m fs) done bytes)
    simp only [List.mem_cons, List.not_mem_nil, or_false, not_or]
    exact ⟨h.1.ofString_ne hpath hm, h.2.ofString_ne hpath (copyFilename_ne_empty _)⟩
  · rfl

theorem files_touched (hpath : path ≠ "") (hm : m.Fits cwd path) (hneed : info.needReply = true)
    (hfile : fs.files (ofString path) = some content) (done bytes : ℕ) :
    (touched info m fs done bytes).files (ofString path) =
      if m.For path then m.config info content done bytes else some content := by
  by_cases hfor : m.For path
  · obtain ⟨rfl, huuid⟩ := hfor
    rw [if_pos ⟨rfl, huuid⟩, touched, if_pos ⟨hneed, huuid⟩, files_brokenOff hm.names hfile]
  rw [if_neg hfor]
  by_cases hsame : m.node.toConfigPath = path
  · rw [touched, if_neg fun h => hfor ⟨hsame, h.2⟩, hfile]
  · rw [(hm.apart hsame).files hpath hm.names, hfile]

theorem length_moveOps_le (fs : FileSystem) (src dst : String) :
    (moveOps fs src dst).length ≤ 3 := by
  rw [moveOps]
  split <;> simp

theorem length_updateOps_le (m : Arrival) (fs : FileSystem) : (updateOps m fs).length ≤ 6 := by
  have hmove := length_moveOps_le fs m.node.toConfigPath (copyFilename m.node.toConfigPath)
  rw [updateOps, writeOps, List.length_cons, List.length_append, List.length_cons,
    List.length_singleton]
  omega

theorem length_configOps_le (info : NodeInfo) (m : Arrival) (fs : FileSystem) :
    (configOps info m fs).length ≤ 9 := by
  rw [configOps, List.length_append]
  refine (Nat.add_le_add (length_updateOps_le m fs) ?_ : _ ≤ 6 + 3)
  split
  · exact Nat.zero_le 3
  · exact length_moveOps_le ..

/-- A message that is not broken off goes through all of its operations. -/
theorem handleNode_state (hm : m.node.toConfigPath ≠ "") (hneed : info.needReply = true) :
    (handleNode nodeIdIn info m.env m.node fs).state = some (touched info m fs 9 0) := by
  rw [touched, FileOp.brokenOff_of_length_le (length_configOps_le info m fs)]
  by_cases huuid : m.node.uuid = ""
  · rw [if_neg fun h => h.2 huuid, handleNode, if_neg fun h => h.2 huuid]
    rfl
  · obtain ⟨reply, hrun⟩ := processConfig_ops info fs hm
    have hdone : (some <$> processConfig nodeIdIn info m.env m.node) fs = _ := bind_done hrun
    rw [if_pos ⟨hneed, huuid⟩, handleNode_granted m hneed huuid hm, hdone]
    rfl

theorem started_eq (h : started doubles fs path = some info) : info.needReply = true ∧
    ∃ content, fs.files (ofString path) = some content ∧ info.nodeId = nodeIdIn content := by
  rcases hfile : fs.files (ofString path) with - | content
  · rw [started, hfile] at h
    cases h
  · obtain ⟨-, rfl⟩ := (started_eq_some_iff hfile).mp h
    exact ⟨rfl, content, rfl, rfl⟩

/-- What is in the file says who the node is. -/
theorem config_iff (hinfo : info.nodeId = n) (hcontent : nodeIdIn content = n) (done bytes : ℕ) :
    (∃ c, m.config info content done bytes = some c ∧ nodeIdIn c = n) ↔
      done ≠ 4 ∧ (done = 5 → nodeIdIn (m.node.config.take bytes) = n) ∧
        (done = 6 → m.Carries nodeIdIn info) ∧
        (done = 7 → ¬ m.Carries nodeIdIn info → nodeIdIn (content.take bytes) = n) := by
  have hnew : nodeIdIn m.node.config = n ↔ m.Carries nodeIdIn info := by
    rw [Arrival.Carries, hinfo]
  rcases done with - | - | - | - | - | - | - | - | done
  all_goals simp only [Arrival.config, Option.some.injEq, exists_eq_left', reduceCtorEq, false_and,
    exists_false]
  · simpa using hcontent
  · simpa using hcontent
  · simpa using hcontent
  · simpa using hcontent
  · simp
  · simp
  · simp [hnew]
  · by_cases hc : m.Carries nodeIdIn info
    · simp [hc, hnew]
    · simp [hc]
  · by_cases hc : m.Carries nodeIdIn info
    · simp [hc, hnew]
    · simp [hc, hcontent]

/-- What holds as long as the node keeps its identity. -/
structure Life.Kept (path n : String) (life : Life) : Prop extends life.Whole path n where
  needReply : ∀ info, life.node = some info → info.needReply = true

/-- A crash leaves a node its identity exactly if it does not strike at the wrong time. -/
theorem whole_crash_iff (hpath : path ≠ "") (hm : m.Fits cwd path) (hneed : info.needReply = true)
    (hfile : fs.files (ofString path) = some content) (hcontent : nodeIdIn content = info.nodeId)
    (done bytes : ℕ) :
    (Life.mk (touched info m fs done bytes) none).Whole path info.nodeId ↔
      (Life.mk fs (some info)).Spared path (.crash m done bytes) := by
  have hfiles := files_touched hpath hm hneed hfile done bytes
  by_cases hfor : m.For path
  · rw [if_pos hfor] at hfiles
    have hiff := config_iff (m := m) rfl hcontent done bytes
    rw [← hfiles] at hiff
    constructor
    · rintro ⟨-, hconfig⟩ info' ⟨⟩ -
      obtain ⟨hgone, hnew, hall, hold⟩ := hiff.mp hconfig
      refine ⟨hgone, hnew, hall, fun hdone hc c hc' => ?_⟩
      obtain rfl := Option.some.inj (hfile.symm.trans hc')
      exact hold hdone hc
    · intro hspared
      obtain ⟨hgone, hnew, hall, hold⟩ := hspared info rfl hfor
      exact ⟨by rintro info' ⟨⟩, hiff.mpr ⟨hgone, hnew, hall, fun hdone hc =>
        hold hdone hc content hfile⟩⟩
  · rw [if_neg hfor] at hfiles
    exact iff_of_true ⟨by rintro info' ⟨⟩, content, hfiles, hcontent⟩
      fun _ _ hm' => absurd hm' hfor

variable (doubles) in
/-- **One event leaves a node its identity** exactly if it does not strike at the wrong time. -/
theorem kept_step_iff (hpath : path ≠ "") (h : life.Kept path n) {e : Event}
    (he : e.Fits cwd path) :
    ∃ life', step doubles path life e = some life' ∧
      (life'.Whole path n ↔ life.Spared path e) ∧
      (∀ info, life'.node = some info → info.needReply = true) := by
  rcases life with ⟨fs, node⟩
  obtain ⟨content, hfile, hcontent⟩ := h.config
  cases e with
  | restart =>
    refine ⟨_, rfl, iff_of_true ⟨fun info hinfo => ?_, content, hfile, hcontent⟩ trivial, ?_⟩
    · obtain ⟨-, content', hfile', hid⟩ := started_eq hinfo
      obtain rfl := Option.some.inj (hfile.symm.trans hfile')
      exact hid.trans hcontent
    · exact fun info hinfo => (started_eq hinfo).1
  | message m =>
    cases node with
    | none => exact ⟨_, rfl, iff_of_true h.toWhole trivial, h.needReply⟩
    | some info =>
      have hneed := h.needReply info rfl
      refine ⟨⟨touched info m fs 9 0, info⟩,
        congrArg (Option.map _) (handleNode_state he.names hneed), ?_, h.needReply⟩
      refine iff_of_true ⟨h.node, ?_⟩ trivial
      rw [files_touched hpath he hneed hfile]
      split
      · exact (config_iff (h.node info rfl) hcontent 9 0).mpr (by simp)
      · exact ⟨content, rfl, hcontent⟩
  | crash m done bytes =>
    cases node with
    | none => exact ⟨_, rfl, iff_of_true h.toWhole (by rintro info ⟨⟩), h.needReply⟩
    | some info =>
      obtain rfl : info.nodeId = n := h.node info rfl
      exact ⟨⟨touched info m fs done bytes, none⟩, rfl,
        whole_crash_iff hpath he (h.needReply info rfl) hfile hcontent done bytes,
        by rintro info' ⟨⟩⟩

variable (doubles cwd path)

/-- The events that a node can meet. -/
abbrev Met := { e : Event // e.Fits cwd path }

/-- A node that has come up, with its file. -/
structure Life.Up (info : NodeInfo) (content : Bytes) (life : Life) : Prop where
  names : path ≠ ""
  config : life.fs.files (ofString path) = some content
  node : life.node = some info
  started : started doubles life.fs path = some info

variable {doubles cwd path}

theorem Life.Up.nodeId (h : life.Up doubles path info content) :
    info.nodeId = nodeIdIn content := by
  obtain ⟨-, hinfo⟩ := (started_eq_some_iff h.config).mp h.started
  rw [hinfo]

theorem Life.Up.needReply (h : life.Up doubles path info content) : info.needReply = true :=
  (started_eq h.started).1

theorem Life.Up.kept (h : life.Up doubles path info content) : life.Kept path info.nodeId where
  node info' hinfo := by
    obtain rfl := Option.some.inj (h.node.symm.trans hinfo)
    rfl
  config := ⟨content, h.config, h.nodeId.symm⟩
  needReply info' hinfo := by
    obtain rfl := Option.some.inj (h.node.symm.trans hinfo)
    exact h.needReply

/-- **Which runs leave a node its identity**: those in which no crash strikes while its file is gone
or does not say who it is.  In all others the node has lost it by then. -/
theorem identity_iff (h : life.Up doubles path info content) (es : List (Met cwd path)) :
    Run.Follows (fun life (e : Met cwd path) => step doubles path life e.1)
        (fun _ _ life' => life'.Whole path info.nodeId) life es ↔
      Run.Meets (fun life (e : Met cwd path) => step doubles path life e.1)
        (fun life e => life.Spared path e.1) life es := by
  refine Run.follows_iff_meets (I := Life.Kept path info.nodeId) ?_ ?_ es life h.kept
  · rintro life ⟨e, he⟩ hkept
    obtain ⟨life', hstep, hiff, -⟩ := kept_step_iff doubles h.names hkept he
    rw [← hiff]
    constructor
    · rintro ⟨life'', hstep', hwhole⟩
      obtain rfl := Option.some.inj (hstep.symm.trans hstep')
      exact hwhole
    · exact fun hwhole => ⟨life', hstep, hwhole⟩
  · rintro life ⟨e, he⟩ life' hkept hstep hwhole
    obtain ⟨life'', hstep', -, hneed⟩ := kept_step_iff doubles h.names hkept he
    obtain rfl := Option.some.inj (hstep.symm.trans hstep')
    exact ⟨hwhole, hneed⟩

/-! ## After some messages -/

variable (doubles) in
/-- **The file after some messages**, and the other ones. -/
theorem run_messages (hpath : path ≠ "") (hneed : info.needReply = true) : ∀ (ms : List Arrival)
    {fs : FileSystem} {content : Bytes}, (∀ m ∈ ms, m.Fits cwd path) →
      fs.files (ofString path) = some content →
      ∃ fs', Run.run (step doubles path) ⟨fs, some info⟩ (ms.map .message) = some ⟨fs', some info⟩ ∧
        fs'.files (ofString path) =
          some (lastAccepted nodeIdIn info content (ms.filter (·.For path))) ∧
        ∀ name, name ≠ "" → (∀ m ∈ ms, m.KeepsOff cwd name) →
          fs'.files (ofString name) = fs.files (ofString name)
  | [], fs, content, _, hfile => ⟨fs, rfl, hfile, fun _ _ _ => rfl⟩
  | m :: ms, fs, content, hms, hfile => by
      obtain ⟨hm, hms⟩ := List.forall_mem_cons.mp hms
      have hstep : step doubles path ⟨fs, some info⟩ (.message m) =
          some ⟨touched info m fs 9 0, some info⟩ :=
        congrArg (Option.map _) (handleNode_state hm.names hneed)
      have hfiles := files_touched hpath hm hneed hfile 9 0
      have hlast : (touched info m fs 9 0).files (ofString path) =
          some (if m.For path then if m.Carries nodeIdIn info then m.node.config else content
            else content) := by
        rw [hfiles]
        split
        · rfl
        · rfl
      obtain ⟨fs', hrun, hfile', hothers⟩ := run_messages hpath hneed ms hms hlast
      refine ⟨fs', (Run.run_cons_of_step hstep _).trans hrun, ?_, fun name hname hoff => ?_⟩
      · rw [hfile']
        by_cases hfor : m.For path
        · have hcons : (m :: ms).filter (·.For path) = m :: ms.filter (·.For path) := by simp [hfor]
          rw [if_pos hfor, hcons, lastAccepted_cons]
        · have hcons : (m :: ms).filter (·.For path) = ms.filter (·.For path) := by simp [hfor]
          rw [if_neg hfor, hcons]
      · obtain ⟨hoffm, hoff⟩ := List.forall_mem_cons.mp hoff
        rw [hothers name hname hoff, hoffm.files hname hm.names]

theorem nodeIdIn_lastAccepted : ∀ (ms : List Arrival) {content : Bytes},
    nodeIdIn content = info.nodeId → nodeIdIn (lastAccepted nodeIdIn info content ms) = info.nodeId
  | [], _, h => h
  | m :: ms, content, h => by
      rw [lastAccepted_cons]
      split_ifs with hc
      · exact nodeIdIn_lastAccepted ms hc
      · exact nodeIdIn_lastAccepted ms h

/-- **A node comes up again** after any messages exactly if the configuration that it accepted last
names a group file and lists of groups to go with it, which nothing has asked for; and it is the
node that it was. -/
theorem comes_up_iff (h : life.Up doubles path info content) (ms : List Arrival)
    (hms : ∀ m ∈ ms, m.Fits cwd path) :
    let last := ofFile (some (lastAccepted nodeIdIn info content (ms.filter (·.For path))))
    (∀ m ∈ ms, m.KeepsOff cwd (str (NodeInfo.groupPath last))) →
    ∃ life', Run.run (step doubles path) life (ms.map .message ++ [.restart]) = some life' ∧
      (life'.node.isSome ↔ NodeInfo.ComesUp doubles (named life.fs) last) ∧
      ∀ info', life'.node = some info' → info'.nodeId = info.nodeId := by
  intro last hoff
  obtain ⟨fs', hrun, hfile, hothers⟩ := run_messages doubles h.names h.needReply ms hms h.config
  refine ⟨⟨fs', started doubles fs' path⟩, ?_, ?_, fun info' hinfo' => ?_⟩
  · rcases life with ⟨fs, node⟩
    obtain rfl := h.node
    rw [Run.run_append, hrun]
    rfl
  · refine (isSome_started_iff hfile).trans ?_
    by_cases hgroup : NodeInfo.groupPath last = []
    · exact iff_of_false (fun hup => hup.named hgroup) fun hup => hup.named hgroup
    · exact NodeInfo.comesUp_congr (hothers _ (str_ne_empty hgroup) hoff)
  · obtain ⟨-, content', hfile', hid⟩ := started_eq hinfo'
    obtain rfl := Option.some.inj (hfile.symm.trans hfile')
    exact hid.trans (nodeIdIn_lastAccepted _ h.nodeId.symm)

end Steps

/-! ## A node with a group of its own -/

/-- The configuration of a node with this id. -/
def configOf (nodeId : String) : Bytes :=
  ascii "[base]\nnode_id=" ++ ascii nodeId ++ ascii ("\n[group]\ngroup_path=groups.json\n[route]\n" ++
    "node_cmd_group=g\nnode_ping_group=g\nnode_mstate_group=g\nmon_group=g\n")

def noDoubles : Doubles Empty := ⟨fun _ => none, Empty.elim⟩

/-- The group `g`, of the node `n1`. -/
def groupsOfN1 : Json.Value Empty :=
  .object [(ascii "groups", .array [.object [(ascii "group_name", .string (ascii "g")),
    (ascii "group_member", .array [.string (ascii "n1")])]])]

/-- The configuration of the node `n2`, on its way to the file of another. -/
def forOther : Arrival := ⟨⟨"v", "n2", "m", "g", "config/node.ini", configOf "n2"⟩, "s", 1⟩

/-- A configuration of the node that names no group file. -/
def withoutGroups : Arrival :=
  ⟨⟨"u", "n1", "m", "g", "config/node.ini", ascii "[base]\nnode_id=n1\n"⟩, "r", 0⟩

/-- The node `n1`, as it has come up. -/
def edgeLife : Life where
  fs := ⟨fun p => if p = ["groups.json"] then some (Json.write noDoubles groupsOfN1)
    else if p = ["config", "node.ini"] then some (configOf "n1") else none, fun _ => false⟩
  node := some ⟨"n1", "", true⟩

theorem fits_of_path {m : Arrival} (h : m.node.toConfigPath = "config/node.ini") :
    m.Fits [] "config/node.ini" := ⟨by rw [h]; decide, fun hne => absurd h hne⟩

theorem exact_groupsOfN1 : Json.Exact groupsOfN1 := by
  have hmembers : Json.Exact (.array [.string (ascii "n1")] : Json.Value Empty) :=
    .array (List.forall_mem_singleton.mpr (.string _))
  have hgroup : Json.Exact (.object [(ascii "group_name", .string (ascii "g")),
      (ascii "group_member", .array [.string (ascii "n1")])] : Json.Value Empty) :=
    .object (List.forall_mem_cons.mpr ⟨.string _, List.forall_mem_singleton.mpr hmembers⟩)
  exact .object (List.forall_mem_singleton.mpr (.array (List.forall_mem_singleton.mpr hgroup)))

theorem groupPath_configOf :
    NodeInfo.groupPath (ofFile (some (configOf "n1"))) = ascii "groups.json" := by
  decide +kernel

theorem comesUp_edgeLife :
    NodeInfo.ComesUp noDoubles (named edgeLife.fs) (ofFile (some (configOf "n1"))) := by
  have htaken : NodeInfo.taken (ofFile (some (configOf "n1"))) =
      [ascii "g", ascii "g", ascii "g", ascii "g"] := by decide +kernel
  refine ⟨by rw [groupPath_configOf]; decide, _, groupsOfN1, [(ascii "g", [ascii "n1"])], ?_,
    Json.parse_write exact_groupsOfN1, rfl, ?_⟩
  · rw [groupPath_configOf]
    rfl
  · rw [htaken]
    have hsplit : Split.split ','.toUInt8 (ascii "g") = [ascii "g"] :=
      Split.split_last (by decide) (by decide)
    simp [hsplit]

theorem nodeIdIn_configOf : nodeIdIn (configOf "n1") = "n1" ∧ nodeIdIn (configOf "n2") = "n2" := by
  decide +kernel

theorem up_edgeLife :
    edgeLife.Up noDoubles "config/node.ini" ⟨"n1", "", true⟩ (configOf "n1") where
  names := by decide
  config := rfl
  node := rfl
  started := by
    have hname :
        str ((ofFile (some (configOf "n1"))).getString (ascii "base") (ascii "name") []) = "" :=
      by decide +kernel
    refine (started_eq_some_iff rfl).mpr ⟨comesUp_edgeLife, ?_⟩
    rw [nodeIdIn_configOf.1, hname]

/-- Another node's configuration is turned down, and one of its own breaks off with the id in the
file already; that of another breaks off with the backup made.  The same a little earlier or later:
before the id is in the file, with the file gone, or with the other's configuration in it. -/
theorem identity_edgeLife :
    let follows := Run.Follows
      (fun life (e : Met [] "config/node.ini") => step noDoubles "config/node.ini" life e.1)
      (fun _ _ life' => life'.Whole "config/node.ini" "n1") edgeLife
    let crash (m : Arrival) (h : m.node.toConfigPath = "config/node.ini") (done bytes : ℕ) :
      Met [] "config/node.ini" := ⟨.crash m done bytes, fits_of_path h⟩
    follows [⟨.message forOther, fits_of_path rfl⟩, crash withoutGroups rfl 5 17,
      ⟨.restart, trivial⟩] ∧
      follows [crash forOther rfl 3 0, ⟨.restart, trivial⟩] ∧
      ¬ follows [crash withoutGroups rfl 5 16] ∧ ¬ follows [crash forOther rfl 4 0] ∧
      ¬ follows [crash forOther rfl 6 0] := by
  intro follows crash
  have hlost : ∀ m h done bytes, follows [crash m h done bytes] →
      edgeLife.Spared "config/node.ini" (.crash m done bytes) := fun _ _ _ _ hfollows =>
    ((identity_iff up_edgeLife _).mp hfollows).1
  refine ⟨(identity_iff up_edgeLife _).mpr ⟨trivial, fun life hlife => ⟨?_, fun _ _ =>
    ⟨trivial, fun _ _ => trivial⟩⟩⟩, (identity_iff up_edgeLife _).mpr ⟨?_, fun _ _ =>
      ⟨trivial, fun _ _ => trivial⟩⟩, fun h => ?_, fun h => ?_, fun h => ?_⟩
  · obtain ⟨fs, -, rfl⟩ := Option.map_eq_some_iff.mp hlife
    rintro info ⟨⟩ -
    have hid : nodeIdIn (withoutGroups.node.config.take 17) = "n1" := by decide +kernel
    exact ⟨by decide, fun _ => hid, fun h => absurd h (by decide), fun h => absurd h (by decide)⟩
  · exact fun _ _ _ => ⟨by decide, fun h => absurd h (by decide), fun h => absurd h (by decide),
      fun h => absurd h (by decide)⟩
  · have hid := (hlost withoutGroups rfl 5 16 h _ rfl ⟨rfl, by decide⟩).2.1 rfl
    exact absurd hid (by decide +kernel)
  · exact (hlost forOther rfl 4 0 h _ rfl ⟨rfl, by decide⟩).1 rfl
  · have hcarries := (hlost forOther rfl 6 0 h _ rfl ⟨rfl, by decide⟩).2.2.1 rfl
    exact absurd (nodeIdIn_configOf.2.symm.trans hcarries) (by decide)

/-- After the other's configuration it comes up again; after one of its own without groups, not. -/
theorem comes_up_edgeLife :
    (∃ life', Run.run (step noDoubles "config/node.ini") edgeLife [.message forOther, .restart] =
        some life' ∧ life'.node.isSome) ∧
      ∃ life', Run.run (step noDoubles "config/node.ini") edgeLife
        [.message forOther, .message withoutGroups, .restart] = some life' ∧ life'.node = none := by
  have hlast : lastAccepted nodeIdIn ⟨"n1", "", true⟩ (configOf "n1")
      ([forOther].filter (·.For "config/node.ini")) = configOf "n1" := by
    decide +kernel
  have hlast' : lastAccepted nodeIdIn ⟨"n1", "", true⟩ (configOf "n1")
      ([forOther, withoutGroups].filter (·.For "config/node.ini")) = withoutGroups.node.config := by
    decide +kernel
  have hnone : NodeInfo.groupPath (ofFile (some withoutGroups.node.config)) = [] := by
    decide +kernel
  have hcopy : components (copyFilename forOther.node.toConfigPath) =
      ["config", "node.ini_tmp", "node.ini"] := by decide +kernel
  have hoff : forOther.KeepsOff [] "groups.json" :=
    ⟨FileSystem.apart_of_components_ne (by decide) (by decide) (by decide) (by decide) (by decide),
      FileSystem.apart_of_components_ne (by decide) (by decide +kernel) (by decide)
        (by rw [hcopy]; decide)
        (by rw [hcopy]; decide)⟩
  constructor
  · obtain ⟨life', hrun, hup, -⟩ := comes_up_iff up_edgeLife [forOther]
      (List.forall_mem_singleton.mpr (fits_of_path rfl))
      (by rw [hlast, groupPath_configOf]; exact List.forall_mem_singleton.mpr hoff)
    refine ⟨life', hrun, hup.mpr ?_⟩
    rw [hlast]
    exact comesUp_edgeLife
  · obtain ⟨life', hrun, hup, -⟩ := comes_up_iff up_edgeLife [forOther, withoutGroups]
      (List.forall_mem_cons.mpr ⟨fits_of_path rfl,
        List.forall_mem_singleton.mpr (fits_of_path rfl)⟩)
      (by rw [hlast', hnone]; exact fun m _ => ⟨by rintro fs p ⟨⟩, by rintro fs p ⟨⟩⟩)
    refine ⟨life', hrun, Option.not_isSome_iff_eq_none.mp fun hsome => ?_⟩
    have hnamed := (hup.mp hsome).named
    rw [hlast'] at hnamed
    exact hnamed hnone

end NodeTopic

end Sadip

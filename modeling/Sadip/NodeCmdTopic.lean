import Mathlib.Data.List.Perm.Subperm
import Sadip.Database
import Sadip.Machinery.Records
import Sadip.Machinery.Run

/-!
# NodeCmdTopic — commands from the manager's table to a node's queues, `node/src/NodeCmdTopic.cpp`

The writer polls `node_cmd` for rows with status 1, puts each as a message and sets its status to 2;
the reader of the target node takes every message that is for it into one of two queues, by its
type.  Putting a message and recording that it was put are two steps which fail apart from each
other, and the reader remembers nothing of what it has taken, so a command is taken up once as long
as no put goes unrecorded (`atMostOnce_of_recorded`).
-/

namespace Sadip

namespace NodeCmdTopic

open Database Records

/-! ## Messages -/

/-- `CmdType`; an open enumeration, so a message may carry any other number. -/
inductive CmdType
  | CMDTYPE_UNKNOWN | REBOOT | RESTART | LS | MKDIR | DEL | DELDIR | SENDFILE
  | ADDAPP | REMOVEAPP | STARTAPP | STOPAPP | RESTARTAPP | LSAPP
  | ADDPLUGIN | REMOVEPLUGIN | STARTPLUGIN | STOPPLUGIN | RESTARTPLUGIN | LSPLUGIN
  | GETS3FILE | PUTS3FILE | LSS3DIR | LSS3BUCKETS | COPYS3FILE | DELS3FILE | ZIP | DZIP
  | ADDS3WATCH | RMS3WATCH | LSS3WATCH | STARTTRACELOG | STOPTRACELOG | LSTRACELOG
  | STARTEXEC | STOPEXEC | LSEXEC | RMEXEC | GETEXECRESULT | MKFILE | CPFILE | PODMANCMD
  | other (number : Int)
  deriving DecidableEq

/-- `static_cast<CmdType>` -/
def CmdType.ofInt (n : Int) : CmdType :=
  if 0 ≤ n then
    ([.CMDTYPE_UNKNOWN, .REBOOT, .RESTART, .LS, .MKDIR, .DEL, .DELDIR, .SENDFILE, .ADDAPP,
      .REMOVEAPP, .STARTAPP, .STOPAPP, .RESTARTAPP, .LSAPP, .ADDPLUGIN, .REMOVEPLUGIN, .STARTPLUGIN,
      .STOPPLUGIN, .RESTARTPLUGIN, .LSPLUGIN, .GETS3FILE, .PUTS3FILE, .LSS3DIR, .LSS3BUCKETS,
      .COPYS3FILE, .DELS3FILE, .ZIP, .DZIP, .ADDS3WATCH, .RMS3WATCH, .LSS3WATCH, .STARTTRACELOG,
      .STOPTRACELOG, .LSTRACELOG, .STARTEXEC, .STOPEXEC, .LSEXEC, .RMEXEC, .GETEXECRESULT, .MKFILE,
      .CPFILE, .PODMANCMD] : List CmdType).getD n.toNat (.other n)
  else .other n

/-- `CommStatus`. -/
inductive CommStatus
  | STATUS_UNKNOWN | DOING | SUCCESS | INVALID | OTHER
  deriving DecidableEq

structure NodeCmd where
  uuid : String
  srcNodeId : String
  srcNodeName : String
  toNodeId : String
  toGroup : String
  cmdType : CmdType
  podmanCmd : Int
  cmd : String
  paras : String
  paras1 : String
  paras2 : String
  deriving DecidableEq

/-- A row of `node_cmd`, with the columns the writer selects and reads; all but `id` may be null. -/
structure Row where
  id : Int
  uuid : Option String
  toNodeId : Option String
  srcNodeId : Option String
  srcNodeName : Option String
  toGroup : Option String
  cmd : Option String
  paras : Option String
  paras1 : Option String
  paras2 : Option String
  cmdTypeId : Option Int
  podmanCmdId : Option Int
  commStatusId : Int
  deriving DecidableEq

/-- `fill_cmd_message`. -/
def Row.fillCmdMessage (r : Row) : NodeCmd where
  uuid := r.uuid.getD ""
  toNodeId := r.toNodeId.getD ""
  srcNodeId := r.srcNodeId.getD ""
  srcNodeName := r.srcNodeName.getD ""
  toGroup := r.toGroup.getD ""
  cmd := r.cmd.getD ""
  paras := r.paras.getD ""
  paras1 := r.paras1.getD ""
  paras2 := r.paras2.getD ""
  cmdType := CmdType.ofInt (r.cmdTypeId.getD 0)
  podmanCmd := r.podmanCmdId.getD 0

/-! ## The reader -/

/-- The queues of `utility::msg` that commands go to. -/
inductive Queue
  | mainCmdQueueIn
  | fileDataQueueIn
  deriving DecidableEq

/-- The types `handle_cmd` takes for the file worker. -/
def fileCmdTypes : List CmdType :=
  [.LS, .MKDIR, .DELDIR, .DEL, .SENDFILE, .ZIP, .DZIP, .GETS3FILE, .PUTS3FILE, .LSS3BUCKETS,
    .DELS3FILE, .ADDS3WATCH, .RMS3WATCH, .LSS3WATCH, .MKFILE, .CPFILE]

def route (t : CmdType) : Queue := if t ∈ fileCmdTypes then .fileDataQueueIn else .mainCmdQueueIn

/-- What the reader's `topic_info_` says. -/
structure Reader where
  nodeId : String
  needReply : Bool

/-- `handle_cmd`: the queue a message goes to, if any.  The statistics, which come first, may throw.
-/
def handleCmd (reader : Reader) (statOk : Bool) (m : NodeCmd) : Option Queue :=
  if reader.needReply ∧ reader.nodeId = m.toNodeId then
    if statOk then some (route m.cmdType) else none
  else none

/-! ## The writer -/

/-- How the turn of a row goes. -/
inductive Turn
  /-- `fill_cmd_message` throws, which ends the round -/
  | fillThrows
  /-- `send_cmd` returns `false`: something in it threw, before the put or after -/
  | sendFails (put : Bool)
  /-- the put, and what becomes of `update_cmd_status`; a negative result of it is only logged -/
  | sent (update : Answer)
  deriving DecidableEq

structure State where
  /-- the table `node_cmd` -/
  rows : List Row
  /-- rows that the round has still to go through -/
  fetched : List Row
  /-- all messages put, the last one first -/
  sent : List NodeCmd
  /-- messages put and not delivered -/
  inFlight : List NodeCmd
  mainCmdQueueIn : List NodeCmd
  fileDataQueueIn : List NodeCmd
  deriving DecidableEq

/-- A step of the writer or of the target's reader. -/
inductive Event
  /-- `select`, with the rows it gives in the server's order, or an exception -/
  | poll (rows : Option (List Row))
  | turn (t : Turn)
  /-- the delivery of a message in flight -/
  | deliver (i : ℕ) (statOk : Bool)
  deriving DecidableEq

namespace State

/-- `select .. from node_cmd where comm_status_id=1` -/
def selected (s : State) : List Row := s.rows.filter (·.commStatusId = 1)

/-- `cmd_publisher_->put` -/
def put (s : State) (m : NodeCmd) : State :=
  { s with sent := m :: s.sent, inFlight := s.inFlight ++ [m] }

/-- `update node_cmd set comm_status_id=2 where id=..` -/
def setSent (s : State) (id : Int) : State :=
  { s with rows := amend (·.id = id) (fun r => { r with commStatusId := 2 }) s.rows }

def enqueue (s : State) (m : NodeCmd) : Option Queue → State
  | some .mainCmdQueueIn => { s with mainCmdQueueIn := s.mainCmdQueueIn ++ [m] }
  | some .fileDataQueueIn => { s with fileDataQueueIn := s.fileDataQueueIn ++ [m] }
  | none => s

/-- The loop body of `writer_worker` for one row; an exception that leaves it ends the round. -/
def takeTurn (s : State) (r : Row) (rest : List Row) : Turn → State
  | .fillThrows => { s with fetched := [] }
  | .sendFails false => { s with fetched := rest }
  | .sendFails true => { s with fetched := rest }.put r.fillCmdMessage
  | .sent update =>
      let s := s.put r.fillCmdMessage
      let s := if update.applies then s.setSent r.id else s
      match update with
      | .threw _ => { s with fetched := [] }
      | _ => { s with fetched := rest }

end State

/-- The system's steps: a poll comes when a round is over, a turn while it is not. -/
def step (reader : Reader) (s : State) : Event → Option State
  | .poll none => if s.fetched = [] then some s else none
  | .poll (some rows) =>
      if s.fetched = [] ∧ rows.Perm s.selected then some { s with fetched := rows } else none
  | .turn t =>
      match s.fetched with
      | [] => none
      | r :: rest => some (s.takeTurn r rest t)
  | .deliver i statOk =>
      match s.inFlight[i]? with
      | none => none
      | some m => some ({ s with inFlight := s.inFlight.eraseIdx i }.enqueue m
        (handleCmd reader statOk m))

/-- Nothing has been sent. -/
def initial (rows : List Row) : State := ⟨rows, [], [], [], [], []⟩

/-! ## What is promised -/

/-- The uuids of commands. -/
def uuids (ms : List NodeCmd) : List String := ms.map (·.uuid)

/-- The target has taken up no command twice. -/
def AtMostOnce (s : State) : Prop := (uuids (s.mainCmdQueueIn ++ s.fileDataQueueIn)).Nodup

instance (s : State) : Decidable (AtMostOnce s) := by
  unfold AtMostOnce
  infer_instance

/-- A row with status 2 has had it from the start, or its command has been put. -/
def SentWhenRecorded (rows : List Row) (s : State) : Prop :=
  ∀ r ∈ s.rows, r.commStatusId = 2 → r ∈ rows ∨ r.fillCmdMessage.uuid ∈ uuids s.sent

/-- Every put is recorded: `send_cmd` does not fail after it, and the server carries the update out,
on the one row that it is meant for. -/
def Recorded (s : State) : Event → Prop
  | .turn (.sendFails put) => put = false
  | .turn (.sent update) => update.applies = true ∧
      ∀ r ∈ s.fetched.head?, ∀ r' ∈ s.rows, r'.id = r.id → r' = r
  | _ => True

instance : ∀ (s : State) (e : Event), Decidable (Recorded s e)
  | _, .turn (.sendFails put) => inferInstanceAs (Decidable (put = false))
  | s, .turn (.sent update) => inferInstanceAs (Decidable (update.applies = true ∧
      ∀ r ∈ s.fetched.head?, ∀ r' ∈ s.rows, r'.id = r.id → r' = r))
  | _, .turn .fillThrows => isTrue trivial
  | _, .poll _ => isTrue trivial
  | _, .deliver _ _ => isTrue trivial

/-! ## The invariant -/

/-- While every put is recorded, a row that could be selected again has not been put. -/
structure Inv (rows : List Row) (s : State) : Prop where
  distinct : (s.rows.map (·.fillCmdMessage.uuid)).Nodup
  recorded : SentWhenRecorded rows s
  unsent : ∀ r ∈ s.rows, r.commStatusId = 1 → r.fillCmdMessage.uuid ∉ uuids s.sent
  fetched : ∀ r ∈ s.fetched, r ∈ s.rows ∧ r.commStatusId = 1
  fetched_nodup : s.fetched.Nodup
  sent_nodup : (uuids s.sent).Nodup
  queued : (s.mainCmdQueueIn ++ s.fileDataQueueIn ++ s.inFlight).Subperm s.sent

variable {rows : List Row} {s s' : State} {reader : Reader} {e : Event} {r r' : Row}
  {rest : List Row}

theorem inv_initial (h : (rows.map (·.fillCmdMessage.uuid)).Nodup) : Inv rows (initial rows) where
  distinct := h
  recorded _ hr _ := .inl hr
  unsent _ _ _ := List.not_mem_nil
  fetched _ hr := absurd hr List.not_mem_nil
  fetched_nodup := List.nodup_nil
  sent_nodup := List.nodup_nil
  queued := List.nil_subperm

/-- **What has been taken up has been put, and nothing has been put twice.** -/
theorem Inv.atMostOnce (h : Inv rows s) : AtMostOnce s := by
  obtain ⟨ms, hperm, hsub⟩ := (List.sublist_append_left _ _).subperm.trans h.queued
  exact (hperm.map _).nodup_iff.mp (h.sent_nodup.sublist (hsub.map _))

/-- A round may be cut short. -/
theorem Inv.drop (h : Inv rows s) {fetched : List Row} (hsub : fetched.Sublist s.fetched) :
    Inv rows { s with fetched } :=
  { h with
    fetched := fun r hr => h.fetched r (hsub.subset hr)
    fetched_nodup := h.fetched_nodup.sublist hsub }

theorem Inv.poll (h : Inv rows s) {fetched : List Row} (hperm : fetched.Perm s.selected) :
    Inv rows { s with fetched } :=
  { h with
    fetched := fun r hr => by
      obtain ⟨hmem, hst⟩ := List.mem_filter.mp (hperm.mem_iff.mp hr)
      exact ⟨hmem, by simpa using hst⟩
    fetched_nodup := hperm.nodup_iff.mpr (h.distinct.of_map.filter _) }

/-- A delivery moves a message from the network to a queue, or drops it. -/
theorem Inv.deliver (h : Inv rows s) {i : ℕ} {m : NodeCmd} (hm : s.inFlight[i]? = some m)
    (q : Option Queue) :
    Inv rows ({ s with inFlight := s.inFlight.eraseIdx i }.enqueue m q) := by
  obtain ⟨hi, rfl⟩ := List.getElem?_eq_some_iff.mp hm
  have hperm := List.getElem_cons_eraseIdx_perm hi
  rcases q with - | - | -
  · exact { h with queued :=
      ((s.inFlight.eraseIdx_sublist i).append_left _).subperm.trans h.queued }
  · refine { h with queued := List.Subperm.trans (List.Perm.subperm ?_) h.queued }
    show (s.mainCmdQueueIn ++ [_] ++ s.fileDataQueueIn ++ s.inFlight.eraseIdx i).Perm _
    rw [List.append_assoc, List.append_assoc, List.append_assoc]
    have hmid : (s.inFlight[i] :: (s.fileDataQueueIn ++ s.inFlight.eraseIdx i)).Perm
        (s.fileDataQueueIn ++ s.inFlight[i] :: s.inFlight.eraseIdx i) := List.perm_middle.symm
    exact .append_left _ (hmid.trans (hperm.append_left _))
  · refine { h with queued := List.Subperm.trans (List.Perm.subperm ?_) h.queued }
    show (s.mainCmdQueueIn ++ (s.fileDataQueueIn ++ [_]) ++ s.inFlight.eraseIdx i).Perm _
    rw [List.append_assoc, List.append_assoc, List.append_assoc]
    exact .append_left _ (hperm.append_left _)

/-- The put of a fetched row and its record. -/
theorem Inv.sent (h : Inv rows s) (hf : s.fetched = r :: rest)
    (honly : ∀ r' ∈ s.rows, r'.id = r.id → r' = r) {fetched : List Row}
    (hsub : fetched.Sublist rest) :
    Inv rows { (s.put r.fillCmdMessage).setSent r.id with fetched } := by
  obtain ⟨hr, hst⟩ := h.fetched r (hf ▸ List.mem_cons_self)
  obtain ⟨hnot, hrest⟩ := List.nodup_cons.mp (hf ▸ h.fetched_nodup)
  -- a row of the new table is the row sent, or another one as it was
  have hrow : ∀ x ∈ ((s.put r.fillCmdMessage).setSent r.id).rows,
      x = { r with commStatusId := 2 } ∨ x ∈ s.rows ∧ x ≠ r := by
    intro x hx
    rcases mem_amend hx with ⟨y, hy, hid, rfl⟩ | ⟨hx, hid⟩
    · exact .inl (by rw [honly y hy hid])
    · exact .inr ⟨hx, fun he => hid (he ▸ rfl)⟩
  refine ⟨?_, fun x hx h2 => ?_, fun x hx h1 => ?_, fun x hx => ?_, hrest.sublist hsub, ?_, ?_⟩
  · have huuids : ((s.put r.fillCmdMessage).setSent r.id).rows.map (·.fillCmdMessage.uuid)
        = s.rows.map (·.fillCmdMessage.uuid) :=
      map_amend (f := fun r : Row => { r with commStatusId := 2 }) _ (fun _ _ => rfl) s.rows
    exact (congrArg List.Nodup huuids).mpr h.distinct
  · rcases hrow x hx with rfl | ⟨hx, -⟩
    · exact .inr List.mem_cons_self
    · exact (h.recorded x hx h2).imp_right (List.mem_cons_of_mem _)
  · rcases hrow x hx with rfl | ⟨hx, hne⟩
    · exact absurd (show (2 : Int) = 1 from h1) (by decide)
    · intro hmem
      rcases List.mem_cons.mp hmem with he | hmem
      · exact hne (eq_of_key h.distinct hx hr he)
      · exact h.unsent x hx h1 hmem
  · have hx' := hsub.subset hx
    obtain ⟨hmem, h1⟩ := h.fetched x (hf ▸ List.mem_cons_of_mem _ hx')
    exact ⟨mem_amend_of_not hmem fun hid => hnot (honly x hmem hid ▸ hx'), h1⟩
  · exact List.nodup_cons.mpr ⟨h.unsent r hr hst, h.sent_nodup⟩
  · show (s.mainCmdQueueIn ++ s.fileDataQueueIn ++ (s.inFlight ++ [_])).Subperm (_ :: s.sent)
    rw [← List.append_assoc]
    exact (List.perm_append_singleton _ _).subperm.trans ((List.subperm_cons _).mpr h.queued)

/-- **A step that records what it puts keeps the invariant.** -/
theorem inv_step (h : Inv rows s) (hrec : Recorded s e) (hstep : step reader s e = some s') :
    Inv rows s' := by
  rcases e with fetched? | t | ⟨i, statOk⟩
  · rcases fetched? with - | fetched
    · obtain ⟨-, ⟨⟩⟩ := Option.ite_none_right_eq_some.mp hstep
      exact h
    · obtain ⟨⟨-, hperm⟩, ⟨⟩⟩ := Option.ite_none_right_eq_some.mp hstep
      exact h.poll hperm
  · rw [step] at hstep
    split at hstep
    · cases hstep
    · rename_i r rest hf
      obtain rfl := Option.some.inj hstep
      rcases t with - | put | update
      · exact h.drop (List.nil_sublist _)
      · obtain rfl : put = false := hrec
        exact h.drop (hf ▸ List.sublist_cons_self r rest)
      · obtain ⟨happ, honly⟩ := hrec
        rw [hf] at honly
        have hsent : ∀ {fetched : List Row}, fetched.Sublist rest → Inv rows
            { (s.put r.fillCmdMessage).setSent r.id with fetched } := h.sent hf (honly r rfl)
        rcases update with - | - | - | applied
        · exact hsent (List.Sublist.refl _)
        · exact hsent (List.Sublist.refl _)
        · cases happ
        · obtain rfl : applied = true := happ
          exact hsent (List.nil_sublist _)
  · rw [step] at hstep
    split at hstep
    · cases hstep
    · rename_i m hm
      obtain rfl := Option.some.inj hstep
      exact h.deliver hm _

/-! ## Runs -/

/-- **A command is taken up at most once**, and marked as sent only once it has been put, in every
run that records what it puts. -/
theorem atMostOnce_of_recorded (reader : Reader) (rows : List Row)
    (hdistinct : (rows.map (·.fillCmdMessage.uuid)).Nodup) (events : List Event)
    (hrec : Run.Meets (step reader) Recorded (initial rows) events)
    (hrun : Run.run (step reader) (initial rows) events = some s) :
    AtMostOnce s ∧ SentWhenRecorded rows s := by
  have h := Run.Meets.invariant (fun _ _ _ h hG hs => inv_step h hG hs) events _
    (inv_initial hdistinct) hrec s hrun
  exact ⟨h.atMostOnce, h.recorded⟩

/-- A row with a command for the node `n`. -/
def row (id : Int) (uuid : String) (cmdTypeId : Int) : Row where
  id
  uuid := some uuid
  toNodeId := some "n"
  srcNodeId := some "m"
  srcNodeName := none
  toGroup := none
  cmd := some "d"
  paras := none
  paras1 := none
  paras2 := none
  cmdTypeId := some cmdTypeId
  podmanCmdId := none
  commStatusId := 1

def nodeN : Reader := ⟨"n", true⟩

/-- The first command fails to be put, the second is put and recorded without an answer; then the
first one gets through. -/
def retried : List Event :=
  [.poll (some [row 1 "a" 6, row 2 "b" 10]), .turn (.sendFails false), .turn (.sent .lost),
    .poll (some [row 1 "a" 6]), .deliver 0 true, .turn (.sent .executed), .deliver 0 true]

/-- Both are taken up once there. -/
theorem atMostOnce_retried : ∃ s, Run.run (step nodeN) (initial [row 1 "a" 6, row 2 "b" 10]) retried
    = some s ∧ uuids (s.mainCmdQueueIn ++ s.fileDataQueueIn) = ["b", "a"] ∧
      AtMostOnce s ∧ SentWhenRecorded [row 1 "a" 6, row 2 "b" 10] s := by
  exact ⟨_, rfl, rfl, atMostOnce_of_recorded nodeN [row 1 "a" 6, row 2 "b" 10] (by decide) retried
    (by decide) rfl⟩

/-- The update after a put fails, so the row is selected and put again. -/
def unrecorded : List Event :=
  [.poll (some [row 1 "a" 6]), .turn (.sent .failed), .poll (some [row 1 "a" 6]),
    .turn (.sent .executed), .deliver 0 true, .deliver 0 true]

/-- **A command whose put was not recorded is taken up twice.** -/
theorem not_atMostOnce : ∃ s, Run.run (step nodeN) (initial [row 1 "a" 6]) unrecorded = some s ∧
    ¬ AtMostOnce s :=
  ⟨_, rfl, by decide⟩

end NodeCmdTopic

end Sadip

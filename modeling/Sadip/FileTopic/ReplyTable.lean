import Sadip.Database
import Sadip.FileTopic.Receive
import Sadip.Machinery.Imperative
import Sadip.Machinery.Records
import Sadip.Machinery.Run

/-!
# FileTopic/ReplyTable — the table of replies, `FileTopic::file_data_reply_in`

The manager writes every reply it gets into `file_data_reply`: the first block of a file inserts a
row, later ones update the rows of their `(reply_uuid, src_node_id)`.  Nothing is looked up before
a statement is sent, and no order of the replies is assumed.

A statement is printed into a buffer of 1024 bytes, and read back by the server.  `Statement.effect`
is what a statement does when its strings come back as they went in; what the server makes of a text
that has a quote or a backslash in a string is anybody's guess, so it is a parameter (`misread`),
and a property of the table is asked for whatever that is.
-/

namespace Sadip

namespace FileTopic

namespace ReplyTable

open Database Imperative Imperative.Prog Records

/-! ## Rows and statements -/

structure Row where
  replyUuid : String
  fileName : String
  toNodeId : String
  srcNodeId : String
  subDir : String
  currentBlockNum : ℕ
  totalBlockNum : ℕ
  statusDescription : String
  fileDataStatusId : ℕ
  progress : String := ""
  commStatusId : ℕ := 0
  deriving DecidableEq

def Row.key (r : Row) : String × String := (r.replyUuid, r.srcNodeId)

/-- The statements of `file_data_reply_in`, with the values printed into them. -/
inductive Statement
  | insert (replyUuid fileName toNodeId srcNodeId subDir : String) (curBlockSeq totalBlockNum : ℕ)
      (statusDescription : String) (commStatusId : ℕ)
  | updateBlock (curBlockSeq commStatusId : ℕ) (replyUuid srcNodeId : String)
  | updateProgress (curBlockSeq : ℕ) (replyUuid srcNodeId : String)
  | complete (curBlockSeq : ℕ) (statusDescription replyUuid srcNodeId : String)
  deriving DecidableEq

namespace Statement

/-- A string between quotes; `%s` stops at a NUL. -/
def quoted (s : String) : String := "'" ++ cStr s ++ "'"

/-- The end of every update. -/
def whereKey (replyUuid srcNodeId : String) : String :=
  "  where reply_uuid=" ++ quoted replyUuid ++ " and src_node_id=" ++ quoted srcNodeId

/-- What `sprintf` prints. -/
def text : Statement → String
  | .insert replyUuid fileName toNodeId srcNodeId subDir curBlockSeq totalBlockNum statusDescription
      commStatusId =>
      "insert into file_data_reply (`reply_uuid`,`file_name`,`to_node_id`,`src_node_id`,`sub_dir`," ++
        "`current_block_num`,`total_block_num`,`status_description`,`file_data_status_id`) values(" ++
        String.intercalate "," [quoted replyUuid, quoted fileName, quoted toNodeId, quoted srcNodeId,
          quoted subDir, toString curBlockSeq, toString totalBlockNum, quoted statusDescription,
          toString commStatusId] ++ ")"
  | .updateBlock curBlockSeq commStatusId replyUuid srcNodeId =>
      "update file_data_reply set current_block_num=" ++ toString curBlockSeq ++
        ",file_data_status_id=" ++ toString commStatusId ++ whereKey replyUuid srcNodeId
  | .updateProgress curBlockSeq replyUuid srcNodeId =>
      "update file_data_reply set progress=" ++ quoted (toString curBlockSeq) ++
        ",comm_status_id=4" ++ whereKey replyUuid srcNodeId
  | .complete curBlockSeq statusDescription replyUuid srcNodeId =>
      "update file_data_reply set current_block_num=" ++ toString curBlockSeq ++
        ", status_description=" ++ quoted statusDescription ++ ",file_data_status_id=5" ++
        whereKey replyUuid srcNodeId

/-- The strings it has between quotes. -/
def strings : Statement → List String
  | .insert replyUuid fileName toNodeId srcNodeId subDir _ _ statusDescription _ =>
      [replyUuid, fileName, toNodeId, srcNodeId, subDir, statusDescription]
  | .updateBlock _ _ replyUuid srcNodeId => [replyUuid, srcNodeId]
  | .updateProgress _ replyUuid srcNodeId => [replyUuid, srcNodeId]
  | .complete _ statusDescription replyUuid srcNodeId => [statusDescription, replyUuid, srcNodeId]

/-- No string ends before its closing quote, or is read otherwise than it is printed. -/
def Plain (st : Statement) : Prop := ∀ s ∈ st.strings, Database.Plain (cStr s)

instance (st : Statement) : Decidable st.Plain := by
  unfold Plain
  infer_instance

/-- The buffers are `char[1024]`. -/
def Fits (st : Statement) : Prop := st.text.utf8ByteSize < 1024

instance (st : Statement) : Decidable st.Fits := by
  unfold Fits
  infer_instance

/-- An update of the rows with a key. -/
def updateRows (replyUuid srcNodeId : String) (set : Row → Row) (table : List Row) : List Row :=
  amend (·.key = (cStr replyUuid, cStr srcNodeId)) set table

/-- What the statement does to the table. -/
def effect : Statement → List Row → List Row
  | .insert replyUuid fileName toNodeId srcNodeId subDir curBlockSeq totalBlockNum statusDescription
      commStatusId, table =>
      table ++ [{ replyUuid := cStr replyUuid, fileName := cStr fileName, toNodeId := cStr toNodeId
                  srcNodeId := cStr srcNodeId, subDir := cStr subDir
                  currentBlockNum := curBlockSeq, totalBlockNum
                  statusDescription := cStr statusDescription, fileDataStatusId := commStatusId }]
  | .updateBlock curBlockSeq commStatusId replyUuid srcNodeId, table =>
      updateRows replyUuid srcNodeId
        (fun r => { r with currentBlockNum := curBlockSeq, fileDataStatusId := commStatusId }) table
  | .updateProgress curBlockSeq replyUuid srcNodeId, table =>
      updateRows replyUuid srcNodeId
        (fun r => { r with progress := toString curBlockSeq, commStatusId := 4 }) table
  | .complete curBlockSeq statusDescription replyUuid srcNodeId, table =>
      updateRows replyUuid srcNodeId (fun r => { r with
        currentBlockNum := curBlockSeq, statusDescription := cStr statusDescription
        fileDataStatusId := 5 }) table

/-- The count of rows it is about, which the server gives back. -/
def affected : Statement → List Row → ℕ
  | .insert .., _ => 1
  | .updateBlock _ _ replyUuid srcNodeId, table
  | .updateProgress _ replyUuid srcNodeId, table
  | .complete _ _ replyUuid srcNodeId, table =>
      table.countP (·.key = (cStr replyUuid, cStr srcNodeId))

end Statement

/-! ## The database -/

/-- What the server makes of a text that is not the statement meant: the result of `excuteSql`, and
the table, if there still is one. -/
abbrev Misread := String → List Row → Option (Int × List Row)

/-- `sprintf` into one of the buffers. -/
def sprintf (st : Statement) : Prog (List Row) Unit := if st.Fits then pure () else abort

/-- `Rd::excuteSql`, which answers an exception with `-1`. -/
def excuteSql (misread : Misread) (st : Statement) (a : Answer) : Prog (List Row) Int :=
    fun table =>
  if st.Plain then
    .done (if a = .executed ∧ 0 < st.affected table then 1 else -1)
      (if a.applies then st.effect table else table)
  else
    match misread st.text table with
    | some (ret, table) => .done ret table
    | none => .undefined

/-- The steps that each branch goes through for a statement; `connected` is `db != NULL`. -/
def perform (misread : Misread) (connected : Bool) (st : Statement) (a : Answer) :
    Prog (List Row) Bool := do
  sprintf st
  if connected then
    let ret ← excuteSql misread st a
    pure !(decide (ret < 0))
  else pure true

/-! ## `file_data_reply_in` -/

/-- A reply that reaches `file_data_reply_in`, and how the statements sent for it fare. -/
structure Arrival where
  reply : FileDataReply
  connected : Bool := true
  first : Answer := .executed
  second : Answer := .executed

namespace Arrival

variable (arr : Arrival)

/-- `block_seq() + 1` in 64 bits -/
def curBlockSeq : ℕ := (arr.reply.blockSeq + 1) % 2 ^ 64

/-- `state()` as it is stored in a `uint64_t` -/
def commStatusId : ℕ := (arr.reply.state % 2 ^ 64).toNat

def insertion (statusDescription : String) : Statement :=
  .insert arr.reply.replyUuid arr.reply.fileName arr.reply.toNodeId arr.reply.srcNodeId
    arr.reply.subDir arr.curBlockSeq arr.reply.totalBlockNum statusDescription arr.commStatusId

def blockUpdate : Statement :=
  .updateBlock arr.curBlockSeq arr.commStatusId arr.reply.replyUuid arr.reply.srcNodeId

/-- The statement of a reply with state 1. -/
def sending : Statement :=
  if arr.curBlockSeq = 1 then
    arr.insertion (arr.reply.fileName ++ " " ++ toString arr.curBlockSeq ++ " Send ...")
  else arr.blockUpdate

def confirmed : String := arr.reply.fileName ++ " Send sucess!"

def completion : Statement :=
  .complete arr.curBlockSeq arr.confirmed arr.reply.replyUuid arr.reply.srcNodeId

end Arrival

/-- `file_data_reply_in`. -/
def fileDataReplyIn (misread : Misread) (arr : Arrival) : Prog (List Row) Bool :=
  if arr.commStatusId = 1 then perform misread arr.connected arr.sending arr.first
  else if arr.commStatusId = 3 then perform misread arr.connected arr.blockUpdate arr.first
  else if arr.commStatusId = 4 then
    perform misread arr.connected
      (.updateProgress arr.curBlockSeq arr.reply.replyUuid arr.reply.srcNodeId) arr.first
  else if arr.commStatusId = 5 then
    if arr.curBlockSeq = 1 then do
      if !(← perform misread arr.connected (arr.insertion arr.confirmed) arr.first) then pure false
      else perform misread arr.connected arr.completion arr.second
    else perform misread arr.connected arr.completion arr.second
  else pure true

/-- The table after a reply. -/
def step (misread : Misread) (table : List Row) (arr : Arrival) : Option (List Row) :=
  (fileDataReplyIn misread arr table).state

/-! ## What a reply writes -/

variable {misread : Misread} {connected : Bool} {st : Statement} {a : Answer}
  {table table' : List Row}
  {arr : Arrival}

/-- A server that only takes what it was meant to take. -/
def strict : Misread := fun _ _ => none

/-- The text fits its buffer, and says what was meant. -/
def Reads (connected : Bool) (st : Statement) : Prop :=
  st.Fits ∧ (connected = true → st.Plain)

instance (connected : Bool) (st : Statement) : Decidable (Reads connected st) := by
  unfold Reads
  infer_instance

/-- What is left of a statement once its answer is known. -/
def after (connected : Bool) (table : List Row) (p : Statement × Answer) : List Row :=
  if connected && p.2.applies then p.1.effect table else table

theorem perform_of_reads (h : Reads connected st) (misread : Misread) (a : Answer)
    (table : List Row) : perform misread connected st a table
      = .done (!connected || decide (a = .executed ∧ 0 < st.affected table))
          (after connected table (st, a)) := by
  rw [perform, sprintf, if_pos h.1, pure_bind]
  rcases connected with - | -
  · rfl
  · have hrun : excuteSql misread st a table = .done
        (if a = .executed ∧ 0 < st.affected table then 1 else -1) (after true table (st, a)) :=
      if_pos (h.2 rfl)
    rw [if_pos rfl, bind_done hrun]
    by_cases hok : a = .executed ∧ 0 < st.affected table
    · simp [hok]
    · simp [hok]

theorem perform_of_not_reads (h : ¬ Reads connected st) (a : Answer) (table : List Row) :
    perform strict connected st a table = .undefined := by
  by_cases hfits : st.Fits
  · have hbad : connected = true ∧ ¬ st.Plain := by
      by_contra hno
      exact h ⟨hfits, fun hc => by_contra fun hp => hno ⟨hc, hp⟩⟩
    rw [perform, sprintf, if_pos hfits, pure_bind, if_pos hbad.1]
    exact bind_undefined (if_neg hbad.2)
  · rw [perform, sprintf, if_neg hfits]
    rfl

/-- The statements the code comes to, with their answers: a completion after an insertion only if
that one has been answered. -/
def Arrival.reached (arr : Arrival) : List (Statement × Answer) :=
  if arr.commStatusId = 1 then [(arr.sending, arr.first)]
  else if arr.commStatusId = 3 then [(arr.blockUpdate, arr.first)]
  else if arr.commStatusId = 4 then
    [(.updateProgress arr.curBlockSeq arr.reply.replyUuid arr.reply.srcNodeId, arr.first)]
  else if arr.commStatusId = 5 then
    if arr.curBlockSeq = 1 then
      if !arr.connected ∨ arr.first = .executed then
        [(arr.insertion arr.confirmed, arr.first), (arr.completion, arr.second)]
      else [(arr.insertion arr.confirmed, arr.first)]
    else [(arr.completion, arr.second)]
  else []

/-- Every statement the code comes to is read as it was meant. -/
def Arrival.Readable (arr : Arrival) : Prop := ∀ p ∈ arr.reached, Reads arr.connected p.1

theorem perform_state (h : Reads connected st) (misread : Misread) (a : Answer) (table : List Row) :
    (perform misread connected st a table).state = some (after connected table (st, a)) := by
  rw [perform_of_reads h]
  rfl

theorem perform_stuck (h : ¬ Reads connected st) (a : Answer) (table : List Row) :
    (perform strict connected st a table).state = none := by
  rw [perform_of_not_reads h]
  rfl

/-- An insertion concerns one row, so that its answer decides how the code goes on. -/
theorem insertion_run (h : Reads arr.connected (arr.insertion arr.confirmed)) (misread : Misread)
    (table : List Row) : perform misread arr.connected (arr.insertion arr.confirmed) arr.first table
      = .done (decide (!arr.connected ∨ arr.first = .executed))
          (after arr.connected table (arr.insertion arr.confirmed, arr.first)) := by
  rw [perform_of_reads h]
  cases arr.connected <;> simp [Arrival.insertion, Statement.affected]

instance (arr : Arrival) : Decidable arr.Readable := by
  unfold Arrival.Readable
  infer_instance

/-- **What a reply writes** is what its statements do, one after the other… -/
theorem step_of_readable (h : arr.Readable) (misread : Misread) (table : List Row) :
    step misread table arr = some (arr.reached.foldl (after arr.connected) table) := by
  rw [Arrival.Readable, Arrival.reached] at h
  rw [step, fileDataReplyIn, Arrival.reached]
  by_cases h1 : arr.commStatusId = 1
  · simp only [if_pos h1] at h ⊢
    exact perform_state (h _ List.mem_cons_self) ..
  by_cases h3 : arr.commStatusId = 3
  · simp only [if_neg h1, if_pos h3] at h ⊢
    exact perform_state (h _ List.mem_cons_self) ..
  by_cases h4 : arr.commStatusId = 4
  · simp only [if_neg h1, if_neg h3, if_pos h4] at h ⊢
    exact perform_state (h _ List.mem_cons_self) ..
  by_cases h5 : arr.commStatusId = 5
  · simp only [if_neg h1, if_neg h3, if_neg h4, if_pos h5] at h ⊢
    by_cases hcur : arr.curBlockSeq = 1
    · simp only [if_pos hcur] at h ⊢
      by_cases hgo : !arr.connected ∨ arr.first = .executed
      · simp only [if_pos hgo] at h ⊢
        rw [bind_done (insertion_run (h _ List.mem_cons_self) misread table), decide_eq_true hgo,
          Bool.not_true, if_neg Bool.false_ne_true,
          perform_state (h _ (List.mem_cons_of_mem _ List.mem_cons_self))]
        rfl
      · simp only [if_neg hgo] at h ⊢
        rw [bind_done (insertion_run (h _ List.mem_cons_self) misread table), decide_eq_false hgo]
        rfl
    · simp only [if_neg hcur] at h ⊢
      exact perform_state (h _ List.mem_cons_self) ..
  · simp only [if_neg h1, if_neg h3, if_neg h4, if_neg h5]
    rfl

/-- …**and there is no saying what it writes** when one of them is not read as it was meant. -/
theorem step_of_not_readable (h : ¬ arr.Readable) (table : List Row) :
    step strict table arr = none := by
  rw [Arrival.Readable, Arrival.reached] at h
  rw [step, fileDataReplyIn]
  by_cases h1 : arr.commStatusId = 1
  · simp only [if_pos h1, List.forall_mem_singleton] at h ⊢
    exact perform_stuck h ..
  by_cases h3 : arr.commStatusId = 3
  · simp only [if_neg h1, if_pos h3, List.forall_mem_singleton] at h ⊢
    exact perform_stuck h ..
  by_cases h4 : arr.commStatusId = 4
  · simp only [if_neg h1, if_neg h3, if_pos h4, List.forall_mem_singleton] at h ⊢
    exact perform_stuck h ..
  by_cases h5 : arr.commStatusId = 5
  · simp only [if_neg h1, if_neg h3, if_neg h4, if_pos h5] at h ⊢
    by_cases hcur : arr.curBlockSeq = 1
    · simp only [if_pos hcur] at h ⊢
      by_cases hins : Reads arr.connected (arr.insertion arr.confirmed)
      · rw [bind_done (insertion_run hins strict table)]
        by_cases hgo : !arr.connected ∨ arr.first = .executed
        · simp only [if_pos hgo, List.forall_mem_cons] at h
          rw [decide_eq_true hgo, Bool.not_true, if_neg Bool.false_ne_true]
          exact perform_stuck (fun hcomp => h ⟨hins, hcomp, fun _ hp =>
            absurd hp List.not_mem_nil⟩) ..
        · simp only [if_neg hgo, List.forall_mem_singleton] at h
          exact absurd hins h
      · rw [bind_undefined (perform_of_not_reads hins _ _)]
        rfl
    · simp only [if_neg hcur, List.forall_mem_singleton] at h ⊢
      exact perform_stuck h ..
  · simp only [if_neg h1, if_neg h3, if_neg h4, if_neg h5] at h
    exact absurd (fun p hp => absurd hp List.not_mem_nil) h

/-! ## Rows before and after -/

namespace Arrival

variable (arr : Arrival)

/-- The rows a reply is about. -/
def key : String × String := (cStr arr.reply.replyUuid, cStr arr.reply.srcNodeId)

/-- The reply adds a row. -/
def Inserts : Prop :=
  arr.connected = true ∧ arr.first.applies = true ∧ arr.curBlockSeq = 1 ∧
    (arr.commStatusId = 1 ∨ arr.commStatusId = 5)

instance : Decidable arr.Inserts := by
  unfold Inserts
  infer_instance

/-- The reply writes a block number and a status. -/
def Records : Prop :=
  arr.connected = true ∧ ((arr.commStatusId = 1 ∨ arr.commStatusId = 3) ∧ arr.first.applies = true ∨
    arr.commStatusId = 5 ∧ (if arr.curBlockSeq = 1 then arr.first else arr.second).applies = true)

end Arrival

/-- What progress is measured by. -/
def Row.recorded (r : Row) : ℕ × ℕ := (r.currentBlockNum, r.fileDataStatusId)

/-- How a reply changes the rows of its key, and the rows it adds. -/
structure Writes (arr : Arrival) (f : Row → Row) (new : List Row) : Prop where
  keeps : ∀ r, (f r).key = r.key
  keys : new.map Row.key = if arr.Inserts then [arr.key] else []
  old : ∀ r, (f r).recorded = r.recorded ∨ (f r).recorded = (arr.curBlockSeq, arr.commStatusId)
  added : ∀ r ∈ new, r.recorded = (arr.curBlockSeq, arr.commStatusId)
  records : arr.Records → new ≠ [] ∨ ∀ r, (f r).recorded = (arr.curBlockSeq, arr.commStatusId)
  silent : ¬ arr.Records → new = [] ∧ ∀ r, (f r).recorded = r.recorded

/-- One table is another one after a reply. -/
def WritesTo (arr : Arrival) (table table' : List Row) : Prop :=
  ∃ f new, Writes arr f new ∧ table' = amend (·.key = arr.key) f table ++ new

theorem records_of_inserts (h : arr.Inserts) : arr.Records := by
  obtain ⟨hconn, happ, hcur, h1 | h5⟩ := h
  · exact ⟨hconn, .inl ⟨.inl h1, happ⟩⟩
  · exact ⟨hconn, .inr ⟨h5, by rw [if_pos hcur]; exact happ⟩⟩

variable {f : Row → Row} {row : Row}

/-- An update of the block number and the status. -/
theorem writesTo_update (hi : ¬ arr.Inserts) (hr : arr.Records) (hkeep : ∀ r, (f r).key = r.key)
    (hrec : ∀ r, (f r).recorded = (arr.curBlockSeq, arr.commStatusId)) :
    WritesTo arr table (amend (·.key = arr.key) f table) :=
  ⟨f, [], {
    keeps := hkeep
    keys := (if_neg hi).symm
    old := fun r => .inr (hrec r)
    added := fun _ hr => absurd hr List.not_mem_nil
    records := fun _ => .inr hrec
    silent := fun h => absurd hr h }, (List.append_nil _).symm⟩

/-- An update of other columns. -/
theorem writesTo_silent (hr : ¬ arr.Records) (hkeep : ∀ r, (f r).key = r.key)
    (hsame : ∀ r, (f r).recorded = r.recorded) :
    WritesTo arr table (amend (·.key = arr.key) f table) :=
  ⟨f, [], {
    keeps := hkeep
    keys := (if_neg fun hi => hr (records_of_inserts hi)).symm
    old := fun r => .inl (hsame r)
    added := fun _ hr => absurd hr List.not_mem_nil
    records := fun h => absurd h hr
    silent := fun _ => ⟨rfl, hsame⟩ }, (List.append_nil _).symm⟩

/-- An insertion, and what an update after it does. -/
theorem writesTo_insert (hi : arr.Inserts) (hkey : row.key = arr.key)
    (hrow : row.recorded = (arr.curBlockSeq, arr.commStatusId)) (hkeep : ∀ r, (f r).key = r.key)
    (hold : ∀ r, (f r).recorded = r.recorded ∨
      (f r).recorded = (arr.curBlockSeq, arr.commStatusId)) :
    WritesTo arr table (amend (·.key = arr.key) f table ++ [row]) :=
  ⟨f, [row], {
    keeps := hkeep
    keys := by rw [if_pos hi, List.map_cons, hkey, List.map_nil]
    old := hold
    added := fun r hr => by rw [List.mem_singleton.mp hr, hrow]
    records := fun _ => .inl (List.cons_ne_nil _ _)
    silent := fun h => absurd (records_of_inserts hi) h }, rfl⟩

theorem writesTo_self (hr : ¬ arr.Records) : WritesTo arr table table := by
  have h : WritesTo arr table (amend (·.key = arr.key) id table) :=
    writesTo_silent hr (fun _ => rfl) fun _ => rfl
  rwa [amend_id] at h

theorem after_applied (hconn : arr.connected = true) (ha : a.applies = true) (st : Statement)
    (table : List Row) : after arr.connected table (st, a) = st.effect table := by
  rw [after, hconn, ha]
  rfl

theorem after_failed (h : ¬ (connected = true ∧ a.applies = true)) (st : Statement)
    (table : List Row) : after connected table (st, a) = table :=
  if_neg (by simpa using h)

/-- The row an insertion adds. -/
def Arrival.newRow (arr : Arrival) (statusDescription : String) : Row where
  replyUuid := cStr arr.reply.replyUuid
  fileName := cStr arr.reply.fileName
  toNodeId := cStr arr.reply.toNodeId
  srcNodeId := cStr arr.reply.srcNodeId
  subDir := cStr arr.reply.subDir
  currentBlockNum := arr.curBlockSeq
  totalBlockNum := arr.reply.totalBlockNum
  statusDescription := cStr statusDescription
  fileDataStatusId := arr.commStatusId

theorem insertion_effect (statusDescription : String) (table : List Row) :
    (arr.insertion statusDescription).effect table = table ++ [arr.newRow statusDescription] := rfl

theorem insertion_writesTo (hi : arr.Inserts) (statusDescription : String) (table : List Row) :
    WritesTo arr table ((arr.insertion statusDescription).effect table) := by
  have h : WritesTo arr table (amend (·.key = arr.key) id table ++
    [arr.newRow statusDescription]) :=
    writesTo_insert hi rfl rfl (fun _ => rfl) fun _ => .inl rfl
  rwa [amend_id] at h

/-- What a completion sets. -/
def Arrival.complete (arr : Arrival) (r : Row) : Row :=
  { r with
    currentBlockNum := arr.curBlockSeq
    statusDescription := cStr arr.confirmed
    fileDataStatusId := 5 }

theorem blockUpdate_writesTo (hi : ¬ arr.Inserts) (hr : arr.Records) (table : List Row) :
    WritesTo arr table (arr.blockUpdate.effect table) :=
  writesTo_update hi hr (fun _ => rfl) fun _ => rfl

theorem completion_effect (table : List Row) :
    arr.completion.effect table = amend (·.key = arr.key) arr.complete table := rfl

theorem complete_recorded (h5 : arr.commStatusId = 5) (r : Row) :
    (arr.complete r).recorded = (arr.curBlockSeq, arr.commStatusId) := by
  rw [h5]
  rfl

theorem completion_writesTo (h5 : arr.commStatusId = 5) (hi : ¬ arr.Inserts) (hr : arr.Records)
    (table : List Row) : WritesTo arr table (arr.completion.effect table) :=
  writesTo_update hi hr (fun _ => rfl) (complete_recorded h5)

/-- An insertion and the completion after it. -/
theorem insertion_completion_writesTo (h5 : arr.commStatusId = 5) (hi : arr.Inserts)
    (table : List Row) :
    WritesTo arr table (arr.completion.effect ((arr.insertion arr.confirmed).effect table)) := by
  have hrow : amend (·.key = arr.key) arr.complete [arr.newRow arr.confirmed]
      = [arr.complete (arr.newRow arr.confirmed)] := congrArg (fun r => [r]) (if_pos rfl)
  rw [completion_effect, insertion_effect, amend_append, hrow]
  exact writesTo_insert hi rfl (complete_recorded h5 _) (fun _ => rfl)
    fun r => .inr (complete_recorded h5 r)

/-- **Every reply changes the rows of its key in one way, and adds at most one row.** -/
theorem reached_writesTo (arr : Arrival) (table : List Row) :
    WritesTo arr table (arr.reached.foldl (after arr.connected) table) := by
  by_cases h1 : arr.commStatusId = 1
  · rw [Arrival.reached, if_pos h1, List.foldl_cons, List.foldl_nil]
    by_cases happ : arr.connected = true ∧ arr.first.applies = true
    · have hr : arr.Records := ⟨happ.1, .inl ⟨.inl h1, happ.2⟩⟩
      rw [after_applied happ.1 happ.2, Arrival.sending]
      by_cases hcur : arr.curBlockSeq = 1
      · rw [if_pos hcur]
        exact insertion_writesTo ⟨happ.1, happ.2, hcur, .inl h1⟩ _ _
      · rw [if_neg hcur]
        exact blockUpdate_writesTo (fun hi => hcur hi.2.2.1) hr _
    · rw [after_failed happ]
      refine writesTo_self fun hr => happ ⟨hr.1, ?_⟩
      rcases hr.2 with h | h
      · exact h.2
      · exact absurd (h1.symm.trans h.1) (by decide)
  by_cases h3 : arr.commStatusId = 3
  · have hi : ¬ arr.Inserts := fun hi => by
      rcases hi.2.2.2 with h | h <;> exact absurd (h3.symm.trans h) (by decide)
    rw [Arrival.reached, if_neg h1, if_pos h3, List.foldl_cons, List.foldl_nil]
    by_cases happ : arr.connected = true ∧ arr.first.applies = true
    · rw [after_applied happ.1 happ.2]
      exact blockUpdate_writesTo hi ⟨happ.1, .inl ⟨.inr h3, happ.2⟩⟩ _
    · rw [after_failed happ]
      refine writesTo_self fun hr => happ ⟨hr.1, ?_⟩
      rcases hr.2 with h | h
      · exact h.2
      · exact absurd (h3.symm.trans h.1) (by decide)
  by_cases h4 : arr.commStatusId = 4
  · have hr : ¬ arr.Records := fun hr => by
      rcases hr.2 with ⟨h | h, -⟩ | ⟨h, -⟩ <;> exact absurd (h4.symm.trans h) (by decide)
    rw [Arrival.reached, if_neg h1, if_neg h3, if_pos h4, List.foldl_cons, List.foldl_nil]
    by_cases happ : arr.connected = true ∧ arr.first.applies = true
    · rw [after_applied happ.1 happ.2]
      exact writesTo_silent hr (fun _ => rfl) fun _ => rfl
    · rw [after_failed happ]
      exact writesTo_self hr
  by_cases h5 : arr.commStatusId = 5
  · rw [Arrival.reached, if_neg h1, if_neg h3, if_neg h4, if_pos h5]
    by_cases hcur : arr.curBlockSeq = 1
    · rw [if_pos hcur]
      by_cases happ : arr.connected = true ∧ arr.first.applies = true
      · have hi : arr.Inserts := ⟨happ.1, happ.2, hcur, .inr h5⟩
        by_cases hgo : !arr.connected ∨ arr.first = .executed
        · rw [if_pos hgo, List.foldl_cons, List.foldl_cons, List.foldl_nil,
            after_applied happ.1 happ.2]
          by_cases hsnd : arr.connected = true ∧ arr.second.applies = true
          · rw [after_applied hsnd.1 hsnd.2]
            exact insertion_completion_writesTo h5 hi _
          · rw [after_failed hsnd]
            exact insertion_writesTo hi _ _
        · rw [if_neg hgo, List.foldl_cons, List.foldl_nil, after_applied happ.1 happ.2]
          exact insertion_writesTo hi _ _
      · have hr : ¬ arr.Records := fun hr => by
          rcases hr.2 with ⟨h, -⟩ | ⟨-, h⟩
          · exact absurd h (by simp [h5])
          · exact happ ⟨hr.1, by rwa [if_pos hcur] at h⟩
        have hsnd : !arr.connected ∨ arr.first = .executed →
            ¬ (arr.connected = true ∧ arr.second.applies = true) := by
          rintro (h | h) ⟨hconn, -⟩
          · simp [hconn] at h
          · exact happ ⟨hconn, by rw [h]; rfl⟩
        by_cases hgo : !arr.connected ∨ arr.first = .executed
        · rw [if_pos hgo, List.foldl_cons, List.foldl_cons, List.foldl_nil, after_failed happ,
            after_failed (hsnd hgo)]
          exact writesTo_self hr
        · rw [if_neg hgo, List.foldl_cons, List.foldl_nil, after_failed happ]
          exact writesTo_self hr
    · have hi : ¬ arr.Inserts := fun hi => hcur hi.2.2.1
      rw [if_neg hcur, List.foldl_cons, List.foldl_nil]
      by_cases happ : arr.connected = true ∧ arr.second.applies = true
      · rw [after_applied happ.1 happ.2]
        exact completion_writesTo h5 hi ⟨happ.1, .inr ⟨h5, by rw [if_neg hcur]; exact happ.2⟩⟩ _
      · rw [after_failed happ]
        refine writesTo_self fun hr => happ ⟨hr.1, ?_⟩
        rcases hr.2 with ⟨h, -⟩ | ⟨-, h⟩
        · exact absurd h (by simp [h5])
        · rwa [if_neg hcur] at h
  · rw [Arrival.reached, if_neg h1, if_neg h3, if_neg h4, if_neg h5]
    exact writesTo_self fun hr => by rcases hr.2 with ⟨h | h, -⟩ | ⟨h, -⟩ <;> contradiction

/-! ## Runs -/

/-- **A law of the table holds of a run, whatever the server makes of texts it misreads**, exactly
when every reply is read as it was meant and meets the condition under which it obeys the law. -/
theorem follows_iff {L : List Row → List Row → Prop} {G : List Row → Arrival → Prop}
    {I : List Row → Prop}
    (hiff : ∀ arr table table', I table → WritesTo arr table table' →
      (L table table' ↔ G table arr))
    (hkeep : ∀ table table', I table → L table table' → I table') (arrivals : List Arrival)
    (table : List Row) (hinv : I table) :
    (∀ misread, Run.Follows (step misread) (fun t _ t' => L t t') table arrivals) ↔
      Run.Meets (step strict) (fun t arr => arr.Readable ∧ G t arr) table arrivals := by
  have hstrict : Run.Follows (step strict) (fun t _ t' => L t t') table arrivals ↔
      Run.Meets (step strict) (fun t arr => arr.Readable ∧ G t arr) table arrivals := by
    refine Run.follows_iff_meets (I := I) ?_ (fun t _ t' ht _ hlaw => hkeep t t' ht hlaw) arrivals
      table hinv
    intro t arr ht
    by_cases hread : arr.Readable
    · rw [step_of_readable hread]
      have hG := hiff arr t _ ht (reached_writesTo arr t)
      exact ⟨fun ⟨t', he, hlaw⟩ => ⟨hread, hG.mp (Option.some.inj he ▸ hlaw)⟩,
        fun h => ⟨_, rfl, hG.mpr h.2⟩⟩
    · rw [step_of_not_readable hread]
      exact iff_of_false (fun ⟨_, he, _⟩ => by cases he) fun h => hread h.1
  refine ⟨fun h => hstrict.mp (h strict), fun h misread => ?_⟩
  refine (hstrict.mpr h).mono (fun t arr t' ht => ?_) arrivals table
  by_cases hread : arr.Readable
  · rw [step_of_readable hread] at ht ⊢
    exact ht
  · rw [step_of_not_readable hread] at ht
    cases ht

/-! ## One row for a key -/

/-- **What is promised of a table**: a row for a key at most. -/
def OneRow (table : List Row) : Prop := (table.map Row.key).Nodup

/-- A reply that inserts a row comes when there is none of its key. -/
def InsertsOnce (table : List Row) (arr : Arrival) : Prop :=
  arr.Inserts → arr.key ∉ table.map Row.key

theorem WritesTo.keys (h : WritesTo arr table table') : table'.map Row.key
    = table.map Row.key ++ if arr.Inserts then [arr.key] else [] := by
  obtain ⟨f, new, hw, rfl⟩ := h
  rw [List.map_append, map_amend Row.key fun r _ => hw.keeps r, hw.keys]

theorem WritesTo.oneRow_iff_insertsOnce (h : WritesTo arr table table') (hone : OneRow table) :
    OneRow table' ↔ InsertsOnce table arr := by
  rw [OneRow, InsertsOnce, h.keys]
  by_cases hi : arr.Inserts
  · rw [if_pos hi, forall_prop_of_true hi]
    exact ⟨fun h hmem => (List.nodup_append.mp h).2.2 _ hmem _ (List.mem_singleton_self _) rfl,
      fun h => hone.append (List.nodup_singleton _) fun k hk hk' =>
        h (List.mem_singleton.mp hk' ▸ hk)⟩
  · rw [if_neg hi, List.append_nil]
    exact iff_of_true hone fun h => absurd h hi

/-- **When the table has one row for a key at most**, at the start and after every reply. -/
theorem oneRow_iff (table : List Row) (arrivals : List Arrival) :
    (OneRow table ∧ ∀ misread,
      Run.Follows (step misread) (fun _ _ table' => OneRow table') table arrivals) ↔
    OneRow table ∧ Run.Meets (step strict)
      (fun table arr => arr.Readable ∧ InsertsOnce table arr) table arrivals :=
  and_congr_right fun hone => follows_iff (L := fun _ table' => OneRow table')
    (fun _ _ _ hone h => h.oneRow_iff_insertsOnce hone) (fun _ _ _ h => h) arrivals table hone

/-- The reply to block `blockSeq` of the file `f` of three blocks. -/
def replyTo (blockSeq : ℕ) (state : Int) : Arrival where
  reply := {
    uuid := "t"
    srcNodeId := "n"
    toNodeId := "m"
    fileName := "f"
    replyUuid := "t"
    subDir := ""
    isEnd := false
    blockSeq
    totalBlockNum := 3
    fileTotalSize := 3
    blockLosts := []
    state }

theorem replyTo_readable : (replyTo 0 1).Readable := by
  decide +kernel

/-- **A first block that is acknowledged twice has two rows.** -/
theorem not_oneRow : ¬ ∀ misread, Run.Follows (step misread) (fun _ _ table' => OneRow table') []
    [replyTo 0 1, replyTo 0 1] := by
  intro h
  obtain ⟨t₁, h₁, -, t₂, h₂, htwo, -⟩ := h strict
  rw [step_of_readable replyTo_readable, Option.some.injEq] at h₁ h₂
  have hkeys₁ := (h₁ ▸ reached_writesTo (replyTo 0 1) []).keys
  have hkeys₂ := (h₂ ▸ reached_writesTo (replyTo 0 1) t₁).keys
  rw [OneRow, hkeys₂, hkeys₁] at htwo
  exact absurd htwo (by decide)

/-! ## Progress -/

/-- What is recorded does not go back: the number does not fall, and a final status stays. -/
def Row.Before (r r' : Row) : Prop :=
  r.currentBlockNum ≤ r'.currentBlockNum ∧ (r.fileDataStatusId = 5 → r'.fileDataStatusId = 5)

/-- **What is promised of a step**: the rows there are stay and go on, and rows that come after rows
of the same key go on from those. -/
def Advances (table table' : List Row) : Prop :=
  List.Forall₂ (fun r r' => r.key = r'.key ∧ r.Before r') table (table'.take table.length) ∧
    ∀ r ∈ table, ∀ r' ∈ table'.drop table.length, r.key = r'.key → r.Before r'

/-- A reply that writes a number and a status comes when they are not behind what is recorded. -/
def Forward (table : List Row) (arr : Arrival) : Prop :=
  arr.Records → ∀ r ∈ table, r.key = arr.key →
    r.currentBlockNum ≤ arr.curBlockSeq ∧ (r.fileDataStatusId = 5 → arr.commStatusId = 5)

theorem Row.Before.refl (r : Row) : r.Before r := ⟨Nat.le_refl _, id⟩

theorem before_iff {r r' : Row} (h : r'.recorded = (arr.curBlockSeq, arr.commStatusId)) :
    r.Before r' ↔
      r.currentBlockNum ≤ arr.curBlockSeq ∧ (r.fileDataStatusId = 5 → arr.commStatusId = 5) := by
  obtain ⟨hnum, hstatus⟩ := Prod.mk.inj h
  rw [Row.Before, hnum, hstatus]

theorem before_of_same {r r' : Row} (h : r'.recorded = r.recorded) : r.Before r' := by
  obtain ⟨hnum, hstatus⟩ := Prod.mk.inj h
  exact ⟨Nat.le_of_eq hnum.symm, fun h5 => hstatus.trans h5⟩

theorem advances_iff {g : Row → Row} {new : List Row} (hg : ∀ r, r.key = (g r).key) :
    Advances table (table.map g ++ new) ↔
      (∀ r ∈ table, r.Before (g r)) ∧ ∀ r ∈ table, ∀ r' ∈ new, r.key = r'.key → r.Before r' := by
  have hlen : (table.map g).length = table.length := List.length_map _
  rw [Advances, List.take_left' hlen, List.drop_left' hlen, List.forall₂_map_right_iff,
    List.forall₂_same]
  exact and_congr_left' (forall₂_congr fun r _ => and_iff_right (hg r))

theorem Writes.key_of_mem {new : List Row} (h : Writes arr f new) {r : Row} (hr : r ∈ new) :
    r.key = arr.key := by
  have hmem := List.mem_map_of_mem (f := Row.key) hr
  rw [h.keys] at hmem
  split at hmem
  · exact List.mem_singleton.mp hmem
  · exact absurd hmem List.not_mem_nil

/-- **A reply takes the table forward exactly when it is not behind what is recorded.** -/
theorem WritesTo.advances_iff (h : WritesTo arr table table') :
    Advances table table' ↔ Forward table arr := by
  obtain ⟨f, new, hw, rfl⟩ := h
  have hkey : ∀ r, r.key = (if r.key = arr.key then f r else r).key := fun r => by
    split
    · exact (hw.keeps r).symm
    · rfl
  rw [amend, ReplyTable.advances_iff hkey]
  constructor
  · rintro ⟨hold, hnew⟩ hrec r hr hk
    rcases hw.records hrec with hne | hall
    · obtain ⟨r', hr'⟩ := List.exists_mem_of_ne_nil new hne
      refine (before_iff (hw.added r' hr')).mp (hnew r hr r' hr' ?_)
      exact hk.trans (hw.key_of_mem hr').symm
    · have := hold r hr
      rw [if_pos hk] at this
      exact (before_iff (hall r)).mp this
  · intro hfor
    by_cases hrec : arr.Records
    · refine ⟨fun r hr => ?_, fun r hr r' hr' hk => (before_iff (hw.added r' hr')).mpr
        (hfor hrec r hr (hk.trans (hw.key_of_mem hr')))⟩
      split
      · rename_i hk
        rcases hw.old r with hsame | hset
        · exact before_of_same hsame
        · exact (before_iff hset).mpr (hfor hrec r hr hk)
      · exact Row.Before.refl r
    · obtain ⟨rfl, hsame⟩ := hw.silent hrec
      refine ⟨fun r _ => ?_, fun _ _ _ hr' => absurd hr' List.not_mem_nil⟩
      split
      · exact before_of_same (hsame r)
      · exact Row.Before.refl r

/-- **When progress is monotone**: the recorded numbers never fall and a final status stays, over a
whole run of replies, exactly when each reply is read as it was meant and is not behind what it
finds recorded. -/
theorem advances_run_iff (table : List Row) (arrivals : List Arrival) :
    (∀ misread, Run.Follows (step misread) (fun table _ table' => Advances table table') table
      arrivals) ↔
    Run.Meets (step strict) (fun table arr => arr.Readable ∧ Forward table arr) table arrivals :=
  follows_iff (I := fun _ => True) (fun _ _ _ _ h => h.advances_iff) (fun _ _ _ _ => trivial)
    arrivals table trivial

/-- **A late reply to a block takes back the number and the final status.** -/
theorem not_advances : ¬ ∀ misread,
    Run.Follows (step misread) (fun table _ table' => Advances table table') []
      [replyTo 0 1, replyTo 2 5, replyTo 1 1] := by
  intro h
  obtain ⟨t₁, h₁, -, t₂, h₂, -, t₃, h₃, hlaw, -⟩ := h strict
  have hread : ∀ arr ∈ [replyTo 0 1, replyTo 2 5, replyTo 1 1], arr.Readable := by decide +kernel
  simp only [List.forall_mem_cons] at hread
  rw [step_of_readable hread.1, Option.some.injEq] at h₁
  rw [step_of_readable hread.2.1, Option.some.injEq] at h₂
  rw [step_of_readable hread.2.2.1, Option.some.injEq] at h₃
  have hfor := (h₃ ▸ reached_writesTo (replyTo 1 1) t₂).advances_iff.mp hlaw
  subst h₁ h₂
  obtain ⟨r, hr, hkey, h5⟩ : ∃ r ∈ (replyTo 2 5).reached.foldl (after true)
      ((replyTo 0 1).reached.foldl (after true) []), r.key = (replyTo 1 1).key ∧
        r.fileDataStatusId = 5 := by decide +kernel
  exact absurd ((hfor ⟨rfl, .inl ⟨.inl rfl, rfl⟩⟩ r hr hkey).2 h5) (by decide)

end ReplyTable

end FileTopic

end Sadip

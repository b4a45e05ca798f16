import Mathlib.Data.List.Perm.Subperm
import Sadip.FileTopic.ReplyTable

/-!
# FileTopic/Writer — the file tasks of the manager, the loop of `FileTopic::writer_worker`

A writer polls `file_data` for the tasks of its node with status 0.  Each is set to 1, sent, and set
to 2 or 6 by what `send_file` returns; one `try` stands around the whole round.  Only the update
that follows `send_file` takes a task off status 1, and nothing takes it back to 0, so a task rests
where it should exactly as long as that update is reached and carried out (`settled_of_good`).
-/

namespace Sadip

namespace FileTopic

namespace Writer

open Database Imperative Imperative.Prog Records

/-! ## Tasks -/

/-- A row of `file_data`; the columns that may be null are those a read of may throw. -/
structure Task where
  uuid : String
  fileName : Option String
  srcNodeId : Option String
  toNodeId : String
  subDirs : Option String
  fileDataStatusId : Int
  deriving DecidableEq

/-- How `send_file` ends. -/
inductive Send
  | returned (success : Bool)
  | threw
  deriving DecidableEq

structure State where
  /-- the table `file_data` -/
  tasks : List Task
  /-- rows that the round has still to go through -/
  fetched : List Task
  /-- the tasks that were set to status 1, and how sending them ended -/
  taken : List (String × Send)
  /-- the rows added to `file_data_reply` -/
  replies : List ReplyTable.Row
  deriving DecidableEq

namespace State

/-- `update file_data set file_data_status_id=.. where uuid=..` -/
def setStatus (s : State) (uuid : String) (status : Int) : State :=
  { s with tasks := amend (·.uuid = uuid) (fun t => { t with fileDataStatusId := status }) s.tasks }

def take (s : State) (uuid : String) (send : Send) : State :=
  { s.setStatus uuid 1 with taken := (uuid, send) :: s.taken }

/-- The reply that a failed task gets, with the two nodes in each other's columns. -/
def addReply (s : State) (fileName srcNodeId toNodeId uuid : String) : State :=
  { s with
    replies := s.replies ++ [{
      replyUuid := uuid
      fileName
      toNodeId := srcNodeId
      srcNodeId := toNodeId
      subDir := ""
      currentBlockNum := 0
      totalBlockNum := 0
      statusDescription := fileName ++ " Read Exception!"
      fileDataStatusId := 6 }] }

/-- `select .. from file_data where file_data_status_id=0 and to_node_id=..` -/
def selected (s : State) (partition : String) : List Task :=
  s.tasks.filter fun t => t.fileDataStatusId = 0 ∧ t.toNodeId = partition

end State

/-! ## The loop -/

/-- A statement whose result nobody looks at. -/
def execute (a : Answer) (f : State → State) : Prog State Unit := do
  modify fun s => if a.applies then f s else s
  match a with
  | .threw _ => throw
  | _ => pure ()

/-- The two updates, whose text is another statement when the uuid is not plain: there is no saying
what that one does. -/
def update (uuid : String) (a : Answer) (f : State → State) : Prog State Unit :=
  if Plain uuid then execute a f else abort

/-- `row.get<string>(..)`, which throws on a null. -/
def column (c : Option String) : Prog State String :=
  match c with
  | some v => pure v
  | none => throw

def sendFile (send : Send) : Prog State Bool :=
  match send with
  | .returned success => pure success
  | .threw => throw

/-- What the environment makes of the turn of a task. -/
structure Turn where
  first : Answer
  send : Send
  second : Answer
  insertion : Answer
  deriving DecidableEq

/-- The loop body for one row. -/
def takeTurn (t : Task) (turn : Turn) : Prog State Unit := do
  let fileName ← column t.fileName
  let srcNodeId ← column t.srcNodeId
  update t.uuid turn.first (State.take · t.uuid turn.send)
  let success ← sendFile turn.send
  update t.uuid turn.second (State.setStatus · t.uuid (if success then 2 else 6))
  if success then pure ()
  else execute turn.insertion (State.addReply · fileName srcNodeId t.toNodeId t.uuid)

/-- A step of the writer. -/
inductive Event
  /-- `select`, with the rows it gives in the server's order, or an exception -/
  | poll (tasks : Option (List Task))
  | turn (turn : Turn)
  deriving DecidableEq

/-- A poll comes when a round is over, a turn while it is not; an exception ends the round. -/
def step (partition : String) (s : State) : Event → Option State
  | .poll none => if s.fetched = [] then some s else none
  | .poll (some tasks) =>
      if s.fetched = [] ∧ tasks.Perm (s.selected partition) then some { s with fetched := tasks }
      else none
  | .turn turn =>
      match s.fetched with
      | [] => none
      | t :: rest =>
          match takeTurn t turn { s with fetched := rest } with
          | .done _ s' => some s'
          | .thrown s' => some { s' with fetched := [] }
          | .undefined => none

/-- The writer starts. -/
def initial (tasks : List Task) : State := ⟨tasks, [], [], []⟩

/-! ## What is promised -/

/-- A task is taken once, ends with the status that tells how sending it went, and none is left at
status 1. -/
structure Settled (s : State) : Prop where
  once : (s.taken.map Prod.fst).Nodup
  final : ∀ uuid send, (uuid, send) ∈ s.taken → ∃ success, send = .returned success ∧
    ∀ t ∈ s.tasks, t.uuid = uuid → t.fileDataStatusId = if success then 2 else 6
  free : ∀ t ∈ s.tasks, t.fileDataStatusId ≠ 1

/-- A turn that takes the task at all also reaches the update that ends it. -/
def Turn.Good (turn : Turn) : Prop :=
  turn.first.applies = true → (turn.first = .executed ∨ turn.first = .lost) ∧ turn.send ≠ .threw ∧
    turn.second.applies = true

def Good (s : State) : Event → Prop
  | .poll _ => True
  | .turn turn => turn.Good ∧ ∀ t ∈ s.fetched.head?, Plain t.uuid

instance : ∀ (s : State) (e : Event), Decidable (Good s e)
  | _, .poll _ => isTrue trivial
  | s, .turn turn => inferInstanceAs (Decidable ((turn.first.applies = true →
      (turn.first = .executed ∨ turn.first = .lost) ∧ turn.send ≠ .threw ∧
        turn.second.applies = true) ∧ ∀ t ∈ s.fetched.head?, Plain t.uuid))

/-! ## One turn -/

variable {s s' : State} {t : Task} {rest : List Task} {turn : Turn} {a : Answer} {f : State → State}
  {partition : String} {e : Event}

/-- The status a task ends with. -/
def final (success : Bool) : Int := if success then 2 else 6

theorem final_ne (success : Bool) : final success ≠ 0 ∧ final success ≠ 1 := by
  cases success <;> decide

/-- Where a turn may end: with the table as it was, or with the task's final status in it. -/
def Outcome (t : Task) (s s' : State) : Prop :=
  s'.fetched = s.fetched ∧ (s'.tasks = s.tasks ∧ s'.taken = s.taken ∨
    ∃ success, s'.tasks = (s.setStatus t.uuid (final success)).tasks ∧
      (s'.taken = s.taken ∨ s'.taken = (t.uuid, .returned success) :: s.taken))

theorem execute_run (a : Answer) (f : State → State) (s : State) :
    execute a f s = .done () (if a.applies then f s else s) ∨
      execute a f s = .thrown (if a.applies then f s else s) := by
  rcases a with - | - | - | applied
  · exact .inl rfl
  · exact .inl rfl
  · exact .inl rfl
  · exact .inr rfl

/-- Whatever a statement's answer, it leaves what it does or nothing. -/
theorem triple_execute {P Q : State → Prop}
    (h : ∀ x, P x → Q (if a.applies then f x else x)) :
    Triple P (execute a f) (fun _ => Q) Q := by
  intro x hx
  rcases execute_run a f x with hrun | hrun
  · exact .inl ⟨(), _, hrun, h x hx⟩
  · exact .inr ⟨_, hrun, h x hx⟩

theorem triple_column {P : State → Prop} (c : Option String) :
    Triple P (column c) (fun _ => P) P := by
  cases c
  · exact keeps_throw
  · exact keeps_pure _

theorem Outcome.refl (t : Task) (s : State) : Outcome t s s := ⟨rfl, .inl ⟨rfl, rfl⟩⟩

/-- A task that is set to 1 and then to its final status has that one. -/
theorem take_setStatus_tasks (s : State) (uuid : String) (send : Send) (status : Int) :
    ((s.take uuid send).setStatus uuid status).tasks = (s.setStatus uuid status).tasks :=
  amend_amend (f := fun t : Task => { t with fileDataStatusId := 1 }) (fun _ hr => hr) s.tasks

/-- The reply of a failed task is all that is left to do. -/
theorem triple_insertion (success : Bool) (a : Answer) (fileName srcNodeId toNodeId uuid : String) :
    Triple (Outcome t s) (if success then pure ()
      else execute a (State.addReply · fileName srcNodeId toNodeId uuid))
      (fun _ => Outcome t s) (Outcome t s) := by
  refine keeps_ite (fun _ => keeps_pure _) fun _ => triple_execute fun x hx => ?_
  split <;> exact hx

/-- **A good turn ends the task or does nothing.** -/
theorem takeTurn_outcome (hgood : turn.Good) (hplain : Plain t.uuid) (s : State) :
    Triple (· = s) (takeTurn t turn) (fun _ => Outcome t s) (Outcome t s) := by
  have hcolumn : ∀ c, Triple (· = s) (column c) (fun _ => (· = s)) (Outcome t s) := fun c =>
    triple_conseq (triple_column c) (fun _ h => h) (fun _ _ h => h)
      fun _ h => h ▸ Outcome.refl t s
  refine triple_bind (hcolumn _) fun fileName => triple_bind (hcolumn _) fun srcNodeId => ?_
  simp only [update, if_pos hplain]
  by_cases happ : turn.first.applies = true
  · obtain ⟨hfirst, hsend, hsecond⟩ := hgood happ
    have htake : Triple (· = s) (execute turn.first (State.take · t.uuid turn.send))
        (fun _ => (· = s.take t.uuid turn.send)) (Outcome t s) := by
      rintro x rfl
      rcases hfirst with h | h <;> exact .inl ⟨(), _, by rw [h]; rfl, rfl⟩
    refine triple_bind htake fun _ => ?_
    rcases hs : turn.send with success | -
    · refine triple_bind (Q := fun b x => b = success ∧ x = s.take t.uuid (.returned success))
        (triple_pure fun x hx => ⟨rfl, hs ▸ hx⟩) fun b => ?_
      rintro x ⟨rfl, rfl⟩
      refine triple_bind (triple_execute (P := (· = s.take t.uuid (.returned b))) ?_)
        (fun _ => triple_insertion b _ fileName srcNodeId t.toNodeId t.uuid) _ rfl
      rintro x rfl
      rw [if_pos hsecond]
      exact ⟨rfl, .inr ⟨b, take_setStatus_tasks .., .inr rfl⟩⟩
    · exact absurd hs hsend
  · refine triple_bind (Q := fun _ => (· = s)) (triple_conseq
      (triple_execute (P := (· = s)) (Q := (· = s)) fun x hx => ?_) (fun _ h => h) (fun _ _ h => h)
      fun _ h => h ▸ Outcome.refl t s) fun _ => ?_
    · rw [if_neg happ]
      exact hx
    rcases turn.send with success | -
    · refine triple_bind (Q := fun b x => b = success ∧ x = s) (triple_pure fun x hx => ⟨rfl, hx⟩)
        fun b => ?_
      rintro x ⟨rfl, rfl⟩
      refine triple_bind (triple_execute (P := (· = x)) ?_)
        (fun _ => triple_insertion b _ fileName srcNodeId t.toNodeId t.uuid) _ rfl
      rintro y rfl
      split
      · exact ⟨rfl, .inr ⟨b, rfl, .inl rfl⟩⟩
      · exact Outcome.refl t y
    · exact fun x hx => .inr ⟨x, bind_thrown rfl, hx ▸ Outcome.refl t s⟩

/-- …**and one that is not good leaves the task at status 1.** -/
theorem takeTurn_stuck (hbad : ¬ turn.Good) (hplain : Plain t.uuid) (hfile : t.fileName.isSome)
    (hnode : t.srcNodeId.isSome) (s : State) :
    Triple (· = s) (takeTurn t turn) (fun _ x => x.tasks = (s.setStatus t.uuid 1).tasks)
      (fun x => x.tasks = (s.setStatus t.uuid 1).tasks) := by
  obtain ⟨fileName, hfile⟩ := Option.isSome_iff_exists.mp hfile
  obtain ⟨srcNodeId, hnode⟩ := Option.isSome_iff_exists.mp hnode
  obtain ⟨happ, hbad⟩ := Classical.not_imp.mp hbad
  rw [takeTurn, hfile, hnode, column, column, pure_bind, pure_bind]
  simp only [update, if_pos hplain]
  have hkeep : ∀ a f, (a.applies = true → ∀ x : State, (f x).tasks = x.tasks) →
      Keeps (fun x : State => x.tasks = (s.setStatus t.uuid 1).tasks) (execute a f) :=
    fun a f hf => triple_execute fun x hx => by
      split
      · exact (hf ‹_› x).trans hx
      · exact hx
  rcases hfirst : turn.first with - | - | - | applied
  case threw =>
    obtain rfl : applied = true := by rwa [hfirst] at happ
    rintro x rfl
    exact .inr ⟨_, bind_thrown rfl, rfl⟩
  case failed =>
    rw [hfirst] at happ
    cases happ
  all_goals
    refine triple_bind (Q := fun _ x => x.tasks = (s.setStatus t.uuid 1).tasks)
      (triple_execute fun x hx => hx ▸ rfl) fun _ => ?_
    rcases hsend : turn.send with success | -
    · have hsecond : ¬ turn.second.applies = true :=
        fun h => hbad ⟨by simp [hfirst], by simp [hsend], h⟩
      refine triple_bind (keeps_pure success) fun b => triple_bind
        (hkeep _ _ fun h => absurd h hsecond) fun _ => keeps_ite (fun _ => keeps_pure _)
          fun _ => hkeep _ _ fun _ _ => rfl
    · exact fun x hx => .inr ⟨x, bind_thrown rfl, hx⟩

/-! ## The invariant -/

/-- While every turn is good, a task that could be selected has not been taken. -/
structure Inv (s : State) : Prop extends Settled s where
  distinct : (s.tasks.map (·.uuid)).Nodup
  fetched : ∀ t ∈ s.fetched, t ∈ s.tasks ∧ t.fileDataStatusId = 0
  fetched_nodup : s.fetched.Nodup

theorem inv_initial {tasks : List Task} (hdistinct : (tasks.map (·.uuid)).Nodup)
    (hfree : ∀ t ∈ tasks, t.fileDataStatusId ≠ 1) : Inv (initial tasks) where
  once := List.nodup_nil
  final _ _ h := absurd h List.not_mem_nil
  free := hfree
  distinct := hdistinct
  fetched _ h := absurd h List.not_mem_nil
  fetched_nodup := List.nodup_nil

/-- A round may be cut short, or left to the rows that remain. -/
theorem Inv.drop (h : Inv s) {fetched : List Task} (hsub : fetched.Sublist s.fetched) :
    Inv { s with fetched } :=
  { h with
    fetched := fun t ht => h.fetched t (hsub.subset ht)
    fetched_nodup := h.fetched_nodup.sublist hsub }

theorem Inv.poll (h : Inv s) {fetched : List Task} (hperm : fetched.Perm (s.selected partition)) :
    Inv { s with fetched } :=
  { h with
    fetched := fun t ht => by
      obtain ⟨hmem, hst⟩ := List.mem_filter.mp (hperm.mem_iff.mp ht)
      exact ⟨hmem, (of_decide_eq_true hst).1⟩
    fetched_nodup := hperm.nodup_iff.mpr (h.distinct.of_map.filter _) }

/-- **What a good turn leaves keeps the invariant.** -/
theorem Inv.outcome (h : Inv s) (hf : s.fetched = t :: rest)
    (hout : Outcome t { s with fetched := rest } s') : Inv s' := by
  obtain ⟨ht, hst⟩ := h.fetched t (hf ▸ List.mem_cons_self)
  obtain ⟨hnot, hrest⟩ := List.nodup_cons.mp (hf ▸ h.fetched_nodup)
  -- a task at status 0 has not been taken
  have hfresh : ∀ send, (t.uuid, send) ∉ s.taken := fun send hmem => by
    obtain ⟨success, -, hfinal⟩ := h.final _ _ hmem
    exact (final_ne success).1 ((hfinal t ht rfl).symm.trans hst)
  obtain ⟨tasks, fetched, taken, replies⟩ := s'
  obtain ⟨rfl : fetched = rest, ⟨rfl : tasks = s.tasks, rfl : taken = s.taken⟩ |
    ⟨success, rfl, htaken⟩⟩ := hout
  · exact ⟨⟨h.once, h.final, h.free⟩, h.distinct,
      fun x hx => h.fetched x (hf ▸ List.mem_cons_of_mem _ hx), hrest⟩
  have holdFinal : ∀ uuid send, (uuid, send) ∈ s.taken → ∃ success', send = .returned success' ∧
      ∀ x ∈ (s.setStatus t.uuid (final success)).tasks, x.uuid = uuid →
        x.fileDataStatusId = final success' := by
    intro uuid send hmem
    obtain ⟨success', hsend, hfinal⟩ := h.final uuid send hmem
    refine ⟨success', hsend, fun x hx hu => ?_⟩
    rcases mem_amend hx with ⟨y, -, hy, rfl⟩ | ⟨hx, -⟩
    · obtain rfl : uuid = t.uuid := hu.symm.trans hy
      exact absurd hmem (hfresh send)
    · exact hfinal x hx hu
  have hnewFinal : ∀ x ∈ (s.setStatus t.uuid (final success)).tasks, x.uuid = t.uuid →
      x.fileDataStatusId = final success := by
    intro x hx hu
    rcases mem_amend hx with ⟨y, -, -, rfl⟩ | ⟨-, hne⟩
    · rfl
    · exact absurd hu hne
  refine ⟨⟨?_, ?_, fun x hx => ?_⟩, ?_, fun x hx => ?_, hrest⟩
  · rcases htaken with rfl | rfl
    · exact h.once
    · refine List.nodup_cons.mpr ⟨fun hmem => ?_, h.once⟩
      obtain ⟨⟨uuid, send⟩, hmem, rfl⟩ := List.mem_map.mp hmem
      exact hfresh send hmem
  · intro uuid send hmem
    rcases htaken with rfl | rfl
    · exact holdFinal uuid send hmem
    · rcases List.mem_cons.mp hmem with he | hmem
      · obtain ⟨rfl, rfl⟩ := Prod.mk.inj he
        exact ⟨success, rfl, hnewFinal⟩
      · exact holdFinal uuid send hmem
  · rcases mem_amend hx with ⟨y, -, -, rfl⟩ | ⟨hx, -⟩
    · exact (final_ne success).2
    · exact h.free x hx
  · have huuids : (s.setStatus t.uuid (final success)).tasks.map (·.uuid) = s.tasks.map (·.uuid) :=
      map_amend (f := fun t : Task => { t with fileDataStatusId := final success }) _
        (fun _ _ => rfl) s.tasks
    exact (congrArg List.Nodup huuids).mpr h.distinct
  · obtain ⟨hmem, h0⟩ := h.fetched x (hf ▸ List.mem_cons_of_mem _ hx)
    exact ⟨mem_amend_of_not hmem fun hu => hnot (eq_of_key h.distinct hmem ht hu ▸ hx), h0⟩

/-- **A step keeps the invariant** as long as its turn is good. -/
theorem inv_step (h : Inv s) (hgood : Good s e) (hstep : step partition s e = some s') :
    Inv s' := by
  rcases e with tasks? | turn
  · rcases tasks? with - | tasks
    · obtain ⟨-, ⟨⟩⟩ := Option.ite_none_right_eq_some.mp hstep
      exact h
    · obtain ⟨⟨-, hperm⟩, ⟨⟩⟩ := Option.ite_none_right_eq_some.mp hstep
      exact h.poll hperm
  · rw [step] at hstep
    split at hstep
    · cases hstep
    · rename_i t rest hf
      obtain ⟨hgood, hplain⟩ := hgood
      rw [hf] at hplain
      rcases takeTurn_outcome hgood (hplain t rfl) _ _ rfl with ⟨⟨⟩, s₁, hrun, hout⟩ |
        ⟨s₁, hrun, hout⟩
      · rw [hrun] at hstep
        obtain rfl := Option.some.inj hstep
        exact h.outcome hf hout
      · rw [hrun] at hstep
        obtain rfl := Option.some.inj hstep
        exact (h.outcome hf hout).drop (List.nil_sublist _)

/-! ## Runs -/

/-- **Tasks are settled** in every state of a run in which each turn that sets a task to status 1
reaches the update after `send_file` and has it carried out. -/
theorem settled_of_good (partition : String) (tasks : List Task)
    (hdistinct : (tasks.map (·.uuid)).Nodup) (hfree : ∀ t ∈ tasks, t.fileDataStatusId ≠ 1)
    (events : List Event) (hgood : Run.Meets (step partition) Good (initial tasks) events)
    (hrun : Run.run (step partition) (initial tasks) events = some s) : Settled s :=
  (Run.Meets.invariant (fun _ _ _ => inv_step) events _ (inv_initial hdistinct hfree) hgood s
    hrun).toSettled

/-- A task for the node `n`. -/
def task (uuid : String) : Task where
  uuid
  fileName := some "f"
  srcNodeId := some "m"
  toNodeId := "n"
  subDirs := none
  fileDataStatusId := 0

/-- One task is sent; the first update of the other one fails, and so does sending it; then the
second round ends it. -/
def twoRounds : List Event :=
  [.poll (some [task "a", task "b"]), .turn ⟨.executed, .returned true, .lost, .executed⟩,
    .turn ⟨.failed, .threw, .executed, .executed⟩, .poll none, .poll (some [task "b"]),
    .turn ⟨.executed, .returned false, .executed, .executed⟩]

/-- Both tasks are settled there. -/
theorem settled_twoRounds : ∃ s, Run.run (step "n") (initial [task "a", task "b"]) twoRounds = some s ∧
    s.tasks.map (·.fileDataStatusId) = [2, 6] ∧ Settled s := by
  exact ⟨_, rfl, rfl, settled_of_good "n" [task "a", task "b"] (by decide) (by decide) twoRounds
    (by decide) rfl⟩

/-- `send_file` throws after the task was set to status 1, and the next poll no longer finds it. -/
def interrupted : List Event :=
  [.poll (some [task "a"]), .turn ⟨.executed, .threw, .executed, .executed⟩, .poll (some [])]

/-- **A task whose transfer throws stays at status 1.** -/
theorem not_settled : ∃ s, Run.run (step "n") (initial [task "a"]) interrupted = some s ∧
    s.fetched = [] ∧ ¬ Settled s :=
  ⟨_, rfl, rfl, fun h => h.free { task "a" with fileDataStatusId := 1 } (by decide) rfl⟩

end Writer

end FileTopic

end Sadip

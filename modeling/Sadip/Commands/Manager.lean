import Sadip.Commands.Worker
import Sadip.Machinery.InOrder

/-!
# Commands/Manager — the process manager as the outside of a handler

A command of an application makes its calls on the process manager in an order known beforehand.
`managed` answers them from a state of the manager, each from the state the ones before it have
left, and `handle_managed` says that the worker then does what it does with the manager at hand.
-/

namespace Sadip

namespace Commands

open Calls Calls.Asking ProcessManager
open Imperative.Prog hiding bind_assoc bind_run
open Imperative (Prog)
open NodeCmdTopic (NodeCmd CmdType CommStatus)
open NodeCmdWorker (trim)

namespace Manager

/-! ## The answers of the process manager -/

/-- A call on the process manager. -/
def answer : Commands.Call → Prog State Commands.Result
  | .addProcess uuid runPath cmd => do
      let ok ← addProcess uuid runPath cmd true
      pure { ok }
  | .removeProcess uuid => do
      let ok ← removeProcess uuid
      pure { ok }
  | .startProcess uuid => do
      let ok ← startProcess uuid
      pure { ok }
  | .killProcess uuid => do
      let ok ← killProcess uuid
      pure { ok }
  | .killAllProcess => do
      let ok ← killAllProcess
      pure { ok }
  | .lsProcess => do
      let _ ← lsProcess
      let s ← get
      pure { instances := s.instances }
  | _ => pure {}

/-- `add_process` never says no. -/
theorem answer_addProcess (uuid runPath cmd : String) (s : State) {r : Commands.Result} {s' : State}
    (h : answer (.addProcess uuid runPath cmd) s = .done r s') : r.ok = true := by
  obtain ⟨s'', hrun, -⟩ := addProcess_run uuid runPath cmd true s
  rw [answer, bind_done hrun] at h
  cases h
  rfl

/-- Nor does `remove_process`. -/
theorem answer_removeProcess (uuid : String) (s : State) {r : Commands.Result} {s' : State}
    (h : answer (.removeProcess uuid) s = .done r s') : r.ok = true := by
  rw [answer, removeProcess, Imperative.Prog.bind_assoc] at h
  rcases hrun : killProcess uuid s with ⟨ok, s''⟩ | s'' | -
  · rw [bind_done hrun] at h
    cases h
    rfl
  · rw [bind_thrown hrun] at h
    cases h
  · rw [bind_undefined hrun] at h
    cases h

/-- The calls of a command on the process manager, in their order. -/
def calls (c : NodeCmd) : List Commands.Call :=
  match c.cmdType with
  | .RESTART => [.killAllProcess]
  | .ADDAPP =>
      [.addProcess (Worker.appUuid c) c.paras1 (trim c.cmd ++ " " ++ trim c.paras), .lsProcess]
  | .REMOVEAPP => [.removeProcess (Worker.appUuid c), .lsProcess]
  | .STARTAPP => [.startProcess (Worker.appUuid c), .lsProcess]
  | .STOPAPP => [.killProcess (Worker.appUuid c), .lsProcess]
  | .RESTARTAPP =>
      [.killProcess (Worker.appUuid c), .startProcess (Worker.appUuid c), .lsProcess]
  | .LSAPP => [.lsProcess]
  | _ => []

/-- How the question for the file of the application ends. -/
def fileEnding : Option Bool → Ending Commands.Result
  | none => .threw true
  | some ok => .done { ok }

/-- What is not asked of the process manager. -/
def elsewhere (exists? : Option Bool) : Env
  | .pathExists _ => fileEnding exists?
  | _ => .done {}

/-- The outside of a command when the process manager is in this state. -/
def managed (c : NodeCmd) (exists? : Option Bool) (s : State) : Env :=
  inOrder answer (calls c) s (elsewhere exists?)

/-! ## The two models of the worker -/

/-- The types of commands that reach the registry. -/
def appType? : CmdType → Option NodeCmdWorker.CmdType
  | .RESTART => some .RESTART
  | .ADDAPP => some .ADDAPP
  | .REMOVEAPP => some .REMOVEAPP
  | .STARTAPP => some .STARTAPP
  | .STOPAPP => some .STOPAPP
  | .RESTARTAPP => some .RESTARTAPP
  | .LSAPP => some .LSAPP
  | _ => none

/-- The command, as the model with the process manager has it. -/
def appCmd (c : NodeCmd) (cmdType : NodeCmdWorker.CmdType) : NodeCmdWorker.NodeCmd where
  uuid := c.uuid
  cmdType
  cmd := c.cmd
  paras := c.paras
  paras1 := c.paras1
  paras2 := c.paras2

def statusOf : NodeCmdWorker.CommStatus → CommStatus
  | .SUCCESS => .SUCCESS
  | .INVALID => .INVALID

/-- What a command makes of the reply it starts with. -/
def replyOf (reply : NodeCmdReply) (r : NodeCmdWorker.NodeCmdReply) : NodeCmdReply :=
  { reply with status := statusOf r.status, desc := r.desc }

/-- What is enqueued for it. -/
def repliesOf (reply : NodeCmdReply) (r? : Option NodeCmdWorker.NodeCmdReply) : Replies :=
  r?.toList.map fun r => (.mainCmdReplyQueueOut, replyOf reply r)

variable {c : NodeCmd} {reply : NodeCmdReply} {env : Env} {s : State} {t : NodeCmdWorker.CmdType}
  {exists? : Option Bool}

/-- The reply is as the worker starts with it. -/
structure Fresh (reply : NodeCmdReply) : Prop where
  status : reply.status = .INVALID
  desc : reply.desc = ""

theorem Fresh.replyOf (h : Fresh reply) (status : NodeCmdWorker.CommStatus) :
    Manager.replyOf reply { (appCmd c t).reply with status }
      = { reply with status := statusOf status } := by
  show { reply with status := statusOf status, desc := "" } = _
  rw [← h.desc]

theorem Fresh.eq_invalid (h : Fresh reply) : { reply with status := .INVALID } = reply := by
  rw [← h.status]

theorem lsReply_agrees (hls : env .lsProcess = seen id (answer .lsProcess s)) :
    Worker.lsReply reply env
      = seen (replyOf reply) (NodeCmdWorker.lsReply (appCmd c t).reply s) := by
  have hread : NodeCmdWorker.lsReply (appCmd c t).reply = answer .lsProcess >>= fun listed =>
      pure { (appCmd c t).reply with
        desc := NodeCmdWorker.setLsAppDesc listed.instances, status := .SUCCESS } := by
    rw [answer, Imperative.Prog.bind_assoc]
    rfl
  rw [hread]
  exact bind_seen hls fun _ _ _ => rfl

/-- A call with a yes or a no. -/
theorem ask_agrees {call : Commands.Call} {p : Prog State Bool}
    (hp : answer call = p >>= fun ok => pure { ok }) (hcall : env call = seen id (answer call s)) :
    ask call env = seen (fun ok => { ok : Commands.Result }) (p s) := by
  rw [ask_run, hcall, hp, seen_bind_pure]

theorem answer_of_done {call : Commands.Call} {p : Prog State Bool} {ok : Bool} {s' : State}
    (hp : answer call = p >>= fun ok => pure { ok }) (h : p s = .done ok s') :
    answer call s = .done { ok } s' := by
  rw [hp, bind_done h]
  rfl

theorem listIf_agrees (hfresh : Fresh reply) (ok : Bool)
    (hls : env .lsProcess = seen id (answer .lsProcess s)) :
    Worker.listIf reply { ok } env
      = seen (replyOf reply) (NodeCmdWorker.listIf (appCmd c t) ok s) := by
  cases ok
  · exact congrArg Ending.done (hfresh.replyOf .SUCCESS).symm
  · exact lsReply_agrees hls

/-- **The frame of the five commands**, around branches that agree. -/
theorem appCommand_agrees (hfresh : Fresh reply)
    (hfile : env (.pathExists (trim (c.paras1 ++ c.cmd))) = fileEnding exists?)
    {act : Handler NodeCmdReply} {act' : Prog State NodeCmdWorker.NodeCmdReply}
    (h : act env = seen (replyOf reply) (act' s)) :
    Worker.appCommand c reply act env
      = seen (replyOf reply) (NodeCmdWorker.appCommand (appCmd c t) exists? act' s) := by
  have hinvalid : Ending.done reply
      = seen (replyOf reply) (.done { (appCmd c t).reply with status := .INVALID } s) := by
    rw [seen, hfresh.replyOf, statusOf, hfresh.eq_invalid]
  rw [Worker.appCommand, NodeCmdWorker.appCommand.eq_def]
  by_cases hsize : c.cmd.utf8ByteSize > 1
  · rw [if_pos hsize, if_pos (show (appCmd c t).cmd.utf8ByteSize > 1 from hsize), bind_run, ask_run,
      hfile]
    rcases exists? with - | - | -
    · rfl
    · exact (congrArg Ending.done hfresh.eq_invalid).trans hinvalid
    · exact h
  · rw [if_neg hsize, if_neg (show ¬ (appCmd c t).cmd.utf8ByteSize > 1 from hsize)]
    exact hinvalid

/-- Success in any case, after branches that agree. -/
theorem succeed_agrees {act : Handler NodeCmdReply} {act' : Prog State NodeCmdWorker.NodeCmdReply}
    (h : act env = seen (replyOf reply) (act' s)) :
    (act >>= fun reply => pure { reply with status := .SUCCESS }) env
      = seen (replyOf reply) ((act' >>= fun r => pure { r with status := .SUCCESS }) s) :=
  bind_seen h fun _ _ _ => rfl

/-- A branch that agrees, and its reply enqueued. -/
theorem enqueue_agrees {act : Handler NodeCmdReply} {act' : Prog State NodeCmdWorker.NodeCmdReply}
    (h : act env = seen (replyOf reply) (act' s)) :
    enqueue .mainCmdReplyQueueOut act env = seen (repliesOf reply) ((some <$> act') s) :=
  bind_seen h fun _ _ _ => rfl

/-! ## The answers, in order -/

theorem managed_file (path : String) :
    managed c exists? s (.pathExists path) = fileEnding exists? := by
  refine inOrder_of_not_mem ?_
  unfold calls
  split <;> simp

/-- The first call is answered from the state. -/
theorem managed_first {call : Commands.Call} {rest : List Commands.Call}
    (h : calls c = call :: rest) :
    managed c exists? s call = seen id (answer call s) := by
  rw [managed, h]
  exact inOrder_head

/-- A later one is answered from the state the first has left. -/
theorem managed_later {call : Commands.Call} {rest : List Commands.Call} {r : Commands.Result}
    {s' : State} {d : Commands.Call} (h : calls c = call :: rest)
    (hcall : answer call s = .done r s')
    (hne : d ≠ call) :
    managed c exists? s d = inOrder answer rest s' (elsewhere exists?) d := by
  rw [managed, h]
  exact inOrder_tail hcall hne

/-- **A command of one call and the list.** -/
theorem oneCall_agrees (hfresh : Fresh reply) {call : Commands.Call} {p : Prog State Bool}
    (hcalls : calls c = [call, .lsProcess]) (hp : answer call = p >>= fun ok => pure { ok })
    (hne : call ≠ .lsProcess) :
    Worker.appCommand c reply (ask call >>= Worker.listIf reply) (managed c exists? s)
      = seen (replyOf reply) (NodeCmdWorker.appCommand (appCmd c t) exists?
          (p >>= NodeCmdWorker.listIf (appCmd c t)) s) := by
  refine appCommand_agrees hfresh (managed_file _) (bind_seen (ask_agrees hp (managed_first hcalls))
    fun ok s' ha => listIf_agrees hfresh ok ?_)
  rw [managed_later hcalls (answer_of_done hp ha) hne.symm]
  exact inOrder_head

theorem restart_agrees (hfresh : Fresh reply) (hcalls : calls c = [.killAllProcess]) :
    Worker.restart c reply (managed c exists? s)
      = seen (repliesOf reply) (NodeCmdWorker.restart (appCmd c t) s) := by
  rw [Worker.restart, NodeCmdWorker.restart]
  by_cases hword : NodeCmdWorker.finds c.cmd "RESTART" = true
  · rw [if_pos hword, if_pos (show NodeCmdWorker.finds (appCmd c t).cmd _ = true from hword),
      enqueue, bind_assoc]
    refine bind_seen (ask_agrees rfl (managed_first hcalls)) fun ok s' _ => ?_
    cases ok
    · exact congrArg (fun r => Ending.done [(ReplyQueue.mainCmdReplyQueueOut, r)])
        (hfresh.replyOf .INVALID).symm
    · exact congrArg (fun r => Ending.done [(ReplyQueue.mainCmdReplyQueueOut, r)])
        (hfresh.replyOf .SUCCESS).symm
  · rw [if_neg hword, if_neg (show ¬ NodeCmdWorker.finds (appCmd c t).cmd _ = true from hword)]
    rfl

/-- **With the process manager outside, the worker does what it does with it at hand.** -/
theorem handle_managed (node : Node) (hfresh : Fresh reply) (ht : appType? c.cmdType = some t)
    (exists? : Option Bool) (s : State) :
    Worker.handle node c reply (managed c exists? s)
      = seen (repliesOf reply) (NodeCmdWorker.handle (appCmd c t) exists? s) := by
  cases hc : c.cmdType <;> rw [hc] at ht <;> cases ht <;>
    simp only [Worker.handle, NodeCmdWorker.handle, hc]
  case RESTART =>
    exact restart_agrees hfresh (by simp only [calls, hc])
  case ADDAPP =>
    exact enqueue_agrees (oneCall_agrees hfresh (by simp only [calls, hc]) rfl (by simp))
  case REMOVEAPP =>
    exact enqueue_agrees (oneCall_agrees hfresh (by simp only [calls, hc]) rfl (by simp))
  case STARTAPP =>
    exact enqueue_agrees (oneCall_agrees hfresh (by simp only [calls, hc]) rfl (by simp))
  case STOPAPP =>
    exact enqueue_agrees (succeed_agrees
      (oneCall_agrees hfresh (by simp only [calls, hc]) rfl (by simp)))
  case RESTARTAPP =>
    have hcalls : calls c = [.killProcess (Worker.appUuid c), .startProcess (Worker.appUuid c),
      .lsProcess] := by simp only [calls, hc]
    refine enqueue_agrees (succeed_agrees (appCommand_agrees hfresh (managed_file _)
      (bind_seen (ask_agrees rfl (managed_first hcalls)) fun ok s' hp => ?_)))
    have ha : answer (.killProcess (Worker.appUuid c)) s = .done { ok } s' := answer_of_done rfl hp
    cases ok
    · exact congrArg Ending.done (hfresh.replyOf .SUCCESS).symm
    · show (perform _ >>= fun _ => Worker.lsReply reply) _ = _
      rw [perform_bind]
      refine bind_seen (ask_agrees rfl ?_) fun ok s'' hp' => lsReply_agrees ?_
      · rw [managed_later (d := .startProcess _) hcalls ha (by simp)]
        exact inOrder_head
      · have ha' : answer (.startProcess (Worker.appUuid c)) s' = .done { ok } s'' :=
          answer_of_done rfl hp'
        rw [managed_later (d := .lsProcess) hcalls ha (by simp),
          inOrder_tail (d := .lsProcess) ha' (by simp)]
        exact inOrder_head
  case LSAPP =>
    have hcalls : calls c = [.lsProcess] := by simp only [calls, hc]
    refine enqueue_agrees ?_
    rw [Worker.lsApp, NodeCmdWorker.lsApp]
    by_cases hword : NodeCmdWorker.finds c.cmd "LSAPP" = true
    · rw [if_pos hword, if_pos (show NodeCmdWorker.finds (appCmd c _).cmd _ = true from hword)]
      exact lsReply_agrees (managed_first hcalls)
    · rw [if_neg hword, if_neg (show ¬ NodeCmdWorker.finds (appCmd c _).cmd _ = true from hword)]
      exact congrArg Ending.done (hfresh.eq_invalid.symm.trans (hfresh.replyOf .INVALID).symm)

end Manager

end Commands

end Sadip

import Sadip.Commands.Manager
import Sadip.Commands.OneReply

/-!
# Commands/Status — what a reply says was done, `node/src/NodeCmdWorker.cpp`

A reply starts as a failure, and a branch sets its status to success.  For the operations on
applications and containers that is meant to say that what was asked has been carried out;
`truthful_iff` says when it does.
-/

namespace Sadip

namespace Commands

open Calls Calls.Asking NodeCmdTopic
open NodeCmdWorker (trim)

namespace Worker

/-! ## What is promised -/

/-- The types that ask for an operation on an application or a container. -/
def operations : List CmdType := [.ADDAPP, .REMOVEAPP, .STARTAPP, .STOPAPP, .RESTARTAPP, .PODMANCMD]

/-- The calls on the process manager that carry an operation out. -/
def requested (c : NodeCmd) : List Call :=
  match c.cmdType with
  | .ADDAPP => [.addProcess (appUuid c) c.paras1 (trim c.cmd ++ " " ++ trim c.paras)]
  | .REMOVEAPP => [.removeProcess (appUuid c)]
  | .STARTAPP => [.startProcess (appUuid c)]
  | .STOPAPP => [.killProcess (appUuid c)]
  | .RESTARTAPP => [.killProcess (appUuid c), .startProcess (appUuid c)]
  | _ => []

/-- The question for the file of an application. -/
def askFile (c : NodeCmd) : Call := .pathExists (trim (c.paras1 ++ c.cmd))

/-- The call comes back with a yes. -/
def Says (env : Env) (call : Call) : Prop := Comes env call fun r => r.ok = true

/-- The operation has been recognised, and carried out by what was called for it. -/
def CarriedOut (node : Node) (env : Env) (c : NodeCmd) : Prop :=
  if c.cmdType = .PODMANCMD then
    HasPodman node c ∧ ∃ p ∈ podmanCmd? c, Returns (runPodmanCmd c p) (Strict env) fun _ => True
  else c.cmd.utf8ByteSize > 1 ∧ Says env (askFile c) ∧ ∀ call ∈ requested c, Says env call

/-- The reply says success of what has been carried out, or stays the failure it started as. -/
def Honest (node : Node) (env : Env) (c : NodeCmd) (reply : NodeCmdReply) : Prop :=
  reply.status = .SUCCESS ∧ CarriedOut node env c ∨ reply.status = .INVALID

/-- **What is promised**: what is enqueued is honest. -/
def Truthful (node : Node) (env : Env) (c : NodeCmd) : Prop :=
  Yields (worker node c) env fun replies => ∀ r ∈ replies, Honest node env c r.2

/-! ## When it is kept -/

/-- The call does not come back with a no. -/
def NotDenied (env : Env) (call : Call) : Prop := Yields (ask call) env fun r => r.ok = true

/-- What the answers to a command have to keep to. -/
def Granted (node : Node) (env : Env) (c : NodeCmd) : Prop :=
  match c.cmdType with
  | .ADDAPP | .REMOVEAPP | .STARTAPP =>
      c.cmd.utf8ByteSize > 1 → Says env (askFile c) → ∀ call ∈ requested c, NotDenied env call
  -- success is set whatever the branch comes to
  | .STOPAPP => c.cmd.utf8ByteSize > 1 ∧ NotDenied env (askFile c) ∧
      (Says env (askFile c) → NotDenied env (.killProcess (appUuid c)))
  -- and the answer to the start is not looked at
  | .RESTARTAPP => c.cmd.utf8ByteSize > 1 ∧ NotDenied env (askFile c) ∧
      (Says env (askFile c) → NotDenied env (.killProcess (appUuid c)) ∧
        (Says env (.killProcess (appUuid c)) → Comes env .lsProcess →
          NotDenied env (.startProcess (appUuid c))))
  | .PODMANCMD => HasPodman node c → ∃ p ∈ podmanCmd? c,
      Returns (runPodmanCmd c p) env (fun _ => True) →
        Returns (runPodmanCmd c p) (Strict env) fun _ => True
  | _ => True

variable {node : Node} {env : Env} {c : NodeCmd} {reply : NodeCmdReply} {queue : ReplyQueue}
  {branch : Handler NodeCmdReply}

theorem yields_enqueue {P : NodeCmdReply → Prop} :
    Yields (enqueue queue branch) env (fun replies => ∀ r ∈ replies, P r.2) ↔
      Yields branch env P := by
  simp [enqueue]

/-- A call comes back with a yes or with a no, or not at all. -/
theorem call_cases (env : Env) (call : Call) :
    (∃ r, env call = .done r ∧ r.ok = true) ∨ (∃ r, env call = .done r ∧ r.ok = false) ∨
      ∀ r, env call ≠ .done r := by
  rcases env call with r | std | -
  · cases h : r.ok
    · exact .inr (.inl ⟨r, rfl, h⟩)
    · exact .inl ⟨r, rfl, h⟩
  · exact .inr (.inr nofun)
  · exact .inr (.inr nofun)

theorem says_iff {call : Call} : Says env call ↔ ∃ r, env call = .done r ∧ r.ok = true := Iff.rfl

theorem notDenied_iff {call : Call} : NotDenied env call ↔ ∀ r, env call = .done r → r.ok = true :=
  Iff.rfl

/-- The frame of a command on an application. -/
theorem yields_oneCall {call : Call} (h : reply.status = .INVALID) (hdone : CarriedOut node env c
      ↔ c.cmd.utf8ByteSize > 1 ∧ Says env (askFile c) ∧ Says env call) :
    Yields (appCommand c reply (ask call >>= listIf reply)) env (Honest node env c)
      ↔ (c.cmd.utf8ByteSize > 1 → Says env (askFile c) → NotDenied env call) := by
  simp only [Honest, hdone, appCommand, ← askFile.eq_def, listIf, lsReply, yields_ite, yields_bind,
    yields_ask, yields_pure, says_iff, notDenied_iff]
  by_cases hsize : c.cmd.utf8ByteSize > 1
  · rcases call_cases env (askFile c) with ⟨found, hf, hok⟩ | ⟨found, hf, hok⟩ | hf
    · rcases call_cases env call with ⟨done, hd, hdone⟩ | ⟨done, hd, hdone⟩ | hd
      · simp [hsize, hf, hok, hd, hdone]
      · simp [hsize, hf, hok, hd, hdone]
      · simp [hsize, hf, hok, hd]
    · simp [hsize, hf, hok]
    · simp [hsize, hf]
  · simp [hsize, h]

/-- `STOPAPP`, whose status is success in any case. -/
theorem yields_stopApp (hdone : CarriedOut node env c
      ↔ c.cmd.utf8ByteSize > 1 ∧ Says env (askFile c) ∧ Says env (.killProcess (appUuid c))) :
    Yields (stopApp c reply) env (Honest node env c)
      ↔ c.cmd.utf8ByteSize > 1 ∧ NotDenied env (askFile c) ∧
        (Says env (askFile c) → NotDenied env (.killProcess (appUuid c))) := by
  simp only [Honest, hdone, stopApp, appCommand, ← askFile.eq_def, listIf, lsReply, yields_ite,
    yields_bind, yields_ask, yields_pure, says_iff, notDenied_iff]
  by_cases hsize : c.cmd.utf8ByteSize > 1
  · rcases call_cases env (askFile c) with ⟨found, hf, hok⟩ | ⟨found, hf, hok⟩ | hf
    · rcases call_cases env (.killProcess (appUuid c)) with
        ⟨done, hd, hdone⟩ | ⟨done, hd, hdone⟩ | hd
      · simp [hsize, hf, hok, hd, hdone]
      · simp [hsize, hf, hok, hd, hdone]
      · simp [hsize, hf, hok, hd]
    · simp [hsize, hf, hok]
    · simp [hsize, hf]
  · simp [hsize]

/-- `RESTARTAPP`, where the start comes after a kill with a yes. -/
theorem yields_restartApp (hdone : CarriedOut node env c
      ↔ c.cmd.utf8ByteSize > 1 ∧ Says env (askFile c) ∧ Says env (.killProcess (appUuid c)) ∧
        Says env (.startProcess (appUuid c))) :
    Yields (restartApp c reply) env (Honest node env c)
      ↔ c.cmd.utf8ByteSize > 1 ∧ NotDenied env (askFile c) ∧
        (Says env (askFile c) → NotDenied env (.killProcess (appUuid c)) ∧
          (Says env (.killProcess (appUuid c)) → Comes env .lsProcess →
            NotDenied env (.startProcess (appUuid c)))) := by
  simp only [Honest, hdone, restartApp, appCommand, ← askFile.eq_def, perform, lsReply, yields_ite,
    yields_bind, yields_ask, yields_pure, says_iff, notDenied_iff, Comes, Returns, ask_run]
  by_cases hsize : c.cmd.utf8ByteSize > 1
  · rcases call_cases env (askFile c) with ⟨found, hf, hok⟩ | ⟨found, hf, hok⟩ | hf
    · rcases call_cases env (.killProcess (appUuid c)) with
        ⟨done, hd, hdone⟩ | ⟨done, hd, hdone⟩ | hd
      · rcases call_cases env (.startProcess (appUuid c)) with
          ⟨run, hr, hrun⟩ | ⟨run, hr, hrun⟩ | hr
        · simp [hsize, hf, hok, hd, hdone, hr, hrun]
        · simp [hsize, hf, hok, hd, hdone, hr, hrun]
        · simp [hsize, hf, hok, hd, hdone, hr]
      · simp [hsize, hf, hok, hd, hdone]
      · simp [hsize, hf, hok, hd]
    · simp [hsize, hf, hok]
    · simp [hsize, hf]
  · simp [hsize]

/-- `PODMANCMD`, whose status is success unless something throws. -/
theorem yields_podman {P : Prop} (h : reply.status = .INVALID) :
    Yields (podman node c reply) env (fun r => r.status = .SUCCESS ∧ P ∨ r.status = .INVALID)
      ↔ (HasPodman node c → match podmanCmd? c with
        | none => P
        | some p => Returns (runPodmanCmd c p) env (fun _ => True) → P) := by
  rw [podman, yields_ite]
  by_cases hpod : HasPodman node c
  · rcases hp : podmanCmd? c with - | p
    · simp [hpod, yields_catchStd]
    · simp only [if_pos hpod, yields_catchStd, yields_bind, yields_pure]
      simp [hpod, Yields, Returns]
  · simp [hpod, h]

theorem truthful_handle (hreply : reply.status = .INVALID) (h : c.cmdType ∈ operations) :
    Yields (handle node c reply) env (fun replies => ∀ r ∈ replies, Honest node env c r.2)
      ↔ Granted node env c := by
  cases ht : c.cmdType <;> rw [ht] at h
  case ADDAPP =>
    rw [handle, ht, yields_enqueue (P := Honest node env c), Granted, ht]
    simp only [requested, ht, List.mem_singleton, forall_eq]
    exact yields_oneCall hreply (by simp [CarriedOut, requested, ht])
  case REMOVEAPP =>
    rw [handle, ht, yields_enqueue (P := Honest node env c), Granted, ht]
    simp only [requested, ht, List.mem_singleton, forall_eq]
    exact yields_oneCall hreply (by simp [CarriedOut, requested, ht])
  case STARTAPP =>
    rw [handle, ht, yields_enqueue (P := Honest node env c), Granted, ht]
    simp only [requested, ht, List.mem_singleton, forall_eq]
    exact yields_oneCall hreply (by simp [CarriedOut, requested, ht])
  case STOPAPP =>
    rw [handle, ht, yields_enqueue (P := Honest node env c), Granted, ht]
    exact yields_stopApp (by simp [CarriedOut, requested, ht])
  case RESTARTAPP =>
    rw [handle, ht, yields_enqueue (P := Honest node env c), Granted, ht]
    exact yields_restartApp (by simp [CarriedOut, requested, ht])
  case PODMANCMD =>
    rw [handle, ht, yields_enqueue (P := Honest node env c), Granted, ht]
    refine (yields_podman hreply).trans (imp_congr_right fun hpod => ?_)
    rcases hp : podmanCmd? c with - | p
    · simp [CarriedOut, ht, hp]
    · simp [CarriedOut, ht, hp, hpod]
  all_goals simp [operations] at h

theorem yields_fillReply {Q : NodeCmdReply → Prop} {P : Prop}
    (hQ : ∀ reply, reply.status = .INVALID → (Q reply ↔ P)) :
    Yields (fillReply node c) env Q ↔ (Comes env .fill → P) := by
  simp only [fillReply, yields_bind, yields_pure, hQ, yields_const, Comes]

theorem yields_worker (h : c.cmdType ∈ operations) :
    Yields (worker node c) env (fun replies => ∀ r ∈ replies, Honest node env c r.2)
      ↔ (Comes env .fill → Comes env .texts → Granted node env c) := by
  rw [worker, yields_bind]
  refine yields_fillReply fun reply hreply => ?_
  rw [yields_catchAll, yields_bind, yields_perform]
  simp only [truthful_handle hreply h, yields_const, yields_pure, List.not_mem_nil]
  simp [Comes]

/-- **A reply is honest exactly when nothing that was asked for an operation has been denied**:
success is said after a no of the process manager, of a sub-command that there is not, and of a
request that was answered with an error. -/
theorem truthful_iff (node : Node) (env : Env) (c : NodeCmd) (h : c.cmdType ∈ operations) :
    Truthful node env c ↔ (Comes env .fill → Comes env .texts → Granted node env c) :=
  yields_worker h

/-- An application to be added. -/
def addCmd : NodeCmd := { plainCmd .ADDAPP with cmd := "app" }

/-- Where every call comes back with a yes, adding is answered honestly. -/
theorem truthful_quiet : Truthful plainNode quiet addCmd := by
  refine (truthful_iff plainNode quiet addCmd (by decide)).mpr fun _ _ => ?_
  rintro - - call - r hr
  cases hr
  rfl

/-- With containers, a known sub-command is answered honestly where no response has an error status.
-/
theorem granted_of_httpOk (hp : (podmanCmd? c).isSome) (ht : c.cmdType = .PODMANCMD)
    (h : ∀ endpoint method body response,
      env (.request endpoint method body) = .done response → HttpOk response.code) :
    Granted node env c := by
  obtain ⟨p, hp⟩ := Option.isSome_iff_exists.mp hp
  rw [Granted, ht]
  refine fun _ => ⟨p, hp, fun hrun => ?_⟩
  rw [strict_eq_self h]
  exact hrun

/-! ## With the process manager outside -/

theorem notDenied_managed {exists? : Option Bool} {s : ProcessManager.State} {call : Call}
    {rest : List Call} (hcalls : Manager.calls c = call :: rest)
    (hyes : ∀ r s', Manager.answer call s = .done r s' → r.ok = true) :
    NotDenied (Manager.managed c exists? s) call := by
  intro r hr
  rw [ask_run, Manager.managed_first hcalls, seen_id_eq_done] at hr
  obtain ⟨s', hr⟩ := hr
  exact hyes r s' hr

/-- **Adding and removing are answered honestly**, whatever state the manager is in. -/
theorem truthful_managed (node : Node) (exists? : Option Bool) (s : ProcessManager.State)
    (ht : c.cmdType = .ADDAPP ∨ c.cmdType = .REMOVEAPP) :
    Truthful node (Manager.managed c exists? s) c := by
  rcases ht with ht | ht
  · refine (yields_worker (by simp [operations, ht])).mpr fun _ _ => ?_
    rw [Granted, ht]
    intro _ _ call hcall
    rw [requested, ht, List.mem_singleton] at hcall
    subst hcall
    exact notDenied_managed (by rw [Manager.calls, ht]) fun _ _ => Manager.answer_addProcess _ _ _ _
  · refine (yields_worker (by simp [operations, ht])).mpr fun _ _ => ?_
    rw [Granted, ht]
    intro _ _ call hcall
    rw [requested, ht, List.mem_singleton] at hcall
    subst hcall
    exact notDenied_managed (by rw [Manager.calls, ht]) fun _ _ => Manager.answer_removeProcess _ _

/-- The start of an application, whose file is there. -/
def startCmd : NodeCmd := { plainCmd .STARTAPP with cmd := "app" }

/-- The outside of `startCmd` when no application is registered. -/
def unregistered : Env := Manager.managed startCmd (some true) ⟨[], [], [], []⟩

/-- **The start of an application that is not registered is answered with success.** -/
theorem not_truthful : ¬ Truthful plainNode unregistered startCmd := by
  have hrun : ∃ queue reply, worker plainNode startCmd unregistered = .done [(queue, reply)] ∧
      reply.status = .SUCCESS := ⟨_, _, rfl, rfl⟩
  obtain ⟨queue, reply, hrun, hstatus⟩ := hrun
  intro h
  rcases h _ hrun (queue, reply) List.mem_cons_self with ⟨-, -, -, hsays⟩ | hinvalid
  · obtain ⟨r, hr, hok⟩ := hsays (.startProcess (appUuid startCmd)) List.mem_cons_self
    have hno : unregistered (.startProcess (appUuid startCmd)) = .done { ok := false } := rfl
    rw [ask_run, hno] at hr
    cases hr
    cases hok
  · rw [hstatus] at hinvalid
    cases hinvalid

end Worker

end Commands

end Sadip

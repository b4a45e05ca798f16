import Mathlib.Data.List.Nodup
import Sadip.Machinery.Run
import Sadip.ProcessManager

/-!
# ProcessManager/Uniqueness — one entry for each uuid, `node/src/ProcessManager.cpp`

A run is any sequence of calls of the manager's operations, each with whatever the system answers,
begun with an empty table.  Only `add_process` makes an entry, and it looks for its uuid first; the
others leave the uuids as they are or take some away.  What breaks the law is the loop of
`kill_process`, which erases from the vector it walks over (`kill_all_process` and `remove_process`
go on from what `erase` returns): `uniqueness_iff`.
-/

namespace Sadip

namespace ProcessManager

open Imperative Imperative.Prog

/-! ## Runs of calls -/

/-- A call of an operation of the manager. -/
inductive Op
  | addProcess (uuid runPath runFile : String) (keepAlive : Bool)
  | startProcess (uuid : String)
  | killProcess (uuid : String)
  | removeProcess (uuid : String)
  | killAllProcess
  | rebootProcess (uuid : String)
  | rebootAllProcess
  | listener
  deriving DecidableEq

/-- What the call does. -/
def Op.body : Op → Prog State Bool
  | .addProcess uuid runPath runFile keepAlive =>
      ProcessManager.addProcess uuid runPath runFile keepAlive
  | .startProcess uuid => ProcessManager.startProcess uuid
  | .killProcess uuid => ProcessManager.killProcess uuid
  | .removeProcess uuid => ProcessManager.removeProcess uuid
  | .killAllProcess => ProcessManager.killAllProcess
  | .rebootProcess uuid => ProcessManager.rebootProcess uuid
  | .rebootAllProcess => ProcessManager.rebootAllProcess
  | .listener => ProcessManager.listener

/-- The state a call leaves, also one that an exception leaves. -/
def step (s : State) (op : Op) : Option State := (op.body s).state

/-- The manager of a process that has just begun; the answers are those of the system to come. -/
def fresh (environment : List (String × String)) (answers : List Answer) : State where
  instances := []
  environment
  answers
  calls := []

/-- The uuids in the table are distinct, and adding one that is there changes nothing in it. -/
structure Unique (s : State) (op : Op) (s' : State) : Prop where
  distinct : (registered s').Nodup
  readd : ∀ uuid runPath runFile keepAlive, op = .addProcess uuid runPath runFile keepAlive →
    uuid ∈ registered s → s'.instances = s.instances

/-- The call erases nothing under the loop of `kill_process`: the uuid is not registered, or the
calls on its child do not get through. -/
def KillsSafely (s : State) : Op → Prop
  | .killProcess uuid => Spared uuid s
  | .removeProcess uuid => Spared uuid s
  | _ => True

/-! ## One call -/

variable {uuid : String} {s s' : State} {op : Op}

theorem step_killProcess_spared (h : Spared uuid s) :
    ∃ s', step s (.killProcess uuid) = some s' ∧ s'.instances = s.instances := by
  obtain ⟨b, s', hrun, hs'⟩ := killProcess_spared h
  exact ⟨s', congrArg Result.state hrun, hs'⟩

theorem step_removeProcess (s : State) (uuid : String) :
    step s (.removeProcess uuid) = (step s (.killProcess uuid)).map fun s' =>
      { s' with instances := s'.instances.filter (·.uuid ≠ uuid) } := by
  show (removeProcess uuid s).state = ((killProcess uuid s).state).map _
  by_cases h : Spared uuid s
  · obtain ⟨b, s', hrun, -⟩ := killProcess_spared h
    rw [removeProcess, bind_done hrun, hrun]
    rfl
  · have hrun := killProcess_not_spared h
    rw [removeProcess, bind_undefined hrun, hrun]
    rfl

/-- **What one call does to the uuids**: it adds one that is not there, or takes some away. -/
theorem exists_step_of_safe (h : KillsSafely s op) : ∃ s', step s op = some s' ∧
    ((registered s').Sublist (registered s) ∨ ∃ uuid ∉ registered s,
      registered s' = registered s ++ [uuid]) := by
  have hkeeps : ∀ {p : Prog State Bool}, Keeps (Registers (registered s)) p →
      ∃ s', (p s).state = some s' ∧ (registered s').Sublist (registered s) := fun hp => by
    obtain ⟨s', hs', hreg⟩ := hp.state rfl
    exact ⟨s', hs', hreg ▸ .refl _⟩
  have hkill : ∀ uuid, Spared uuid s → ∃ s', step s (.killProcess uuid) = some s' ∧
      (registered s').Sublist (registered s) := fun uuid hspared => by
    obtain ⟨s', hs', hinstances⟩ := step_killProcess_spared hspared
    exact ⟨s', hs', by rw [registered, hinstances]; exact .refl _⟩
  cases op with
  | addProcess uuid runPath runFile keepAlive =>
    obtain ⟨s', hrun, hreg⟩ := addProcess_run uuid runPath runFile keepAlive s
    refine ⟨s', congrArg Result.state hrun, ?_⟩
    by_cases hmem : uuid ∈ registered s
    · rw [if_pos hmem] at hreg
      exact .inl (hreg ▸ .refl _)
    · rw [if_neg hmem] at hreg
      exact .inr ⟨uuid, hmem, hreg⟩
  | startProcess uuid => exact (hkeeps keeps_startProcess).imp fun _ => .imp_right .inl
  | killProcess uuid => exact (hkill uuid h).imp fun _ => .imp_right .inl
  | removeProcess uuid =>
    obtain ⟨s', hs', hsub⟩ := hkill uuid h
    refine ⟨_, by rw [step_removeProcess, hs', Option.map_some], .inl ?_⟩
    rw [registered_filter]
    exact List.filter_sublist.trans hsub
  | killAllProcess =>
    obtain ⟨b, s', hrun, hsuffix⟩ := killAllProcess_run s
    exact ⟨s', congrArg Result.state hrun, .inl hsuffix.sublist⟩
  | rebootProcess uuid =>
      exact (hkeeps (registers_withstands _).rebootProcess).imp fun _ => .imp_right .inl
  | rebootAllProcess =>
      exact (hkeeps (registers_withstands _).rebootAllProcess).imp fun _ => .imp_right .inl
  | listener => exact (hkeeps keeps_listener).imp fun _ => .imp_right .inl

theorem step_of_not_safe (h : ¬ KillsSafely s op) : step s op = none := by
  cases op with
  | killProcess uuid => exact congrArg Result.state (killProcess_not_spared h)
  | removeProcess uuid =>
    have hkill : step s (.killProcess uuid) = none :=
      congrArg Result.state (killProcess_not_spared h)
    rw [step_removeProcess, hkill, Option.map_none]
  | _ => exact absurd trivial h

/-- **Adding a uuid that is there** leaves the whole state as it was. -/
theorem step_addProcess_of_mem (h : uuid ∈ registered s) (runPath runFile : String)
    (keepAlive : Bool) : step s (.addProcess uuid runPath runFile keepAlive) = some s := by
  have hany : s.instances.any (·.uuid = uuid) = true := by simpa [registered] using h
  show (addProcess uuid runPath runFile keepAlive s).state = some s
  rw [addProcess, bind_done (show get s = .done s s from rfl), if_pos hany]
  rfl

theorem unique_iff (hs : (registered s).Nodup) :
    (∃ s', step s op = some s' ∧ Unique s op s') ↔ KillsSafely s op := by
  constructor
  · rintro ⟨s', hs', -⟩
    by_contra h
    rw [step_of_not_safe h] at hs'
    cases hs'
  · intro h
    obtain ⟨s', hs', hcase⟩ := exists_step_of_safe h
    refine ⟨s', hs', ?_, ?_⟩
    · rcases hcase with hsub | ⟨uuid, hnot, hreg⟩
      · exact hs.sublist hsub
      · rw [hreg]
        exact List.Nodup.append hs (List.nodup_singleton uuid) (by simpa using hnot)
    · rintro uuid runPath runFile keepAlive rfl hmem
      rw [step_addProcess_of_mem hmem] at hs'
      rw [Option.some.inj hs']

/-! ## Runs -/

/-- **When the uuids stay distinct.**  Begun with an empty table, a run of calls has a result with
distinct uuids after every call, and adds no uuid twice, exactly when every kill and removal in it
is of a uuid that is not registered, or that has a child whose end throws. -/
theorem uniqueness_iff (environment : List (String × String)) (answers : List Answer)
    (ops : List Op) :
    Run.Follows step Unique (fresh environment answers) ops ↔
      Run.Meets step KillsSafely (fresh environment answers) ops :=
  Run.follows_iff_meets (I := fun s => (registered s).Nodup) (fun _ _ hs => unique_iff hs)
    (fun _ _ _ _ _ h => h.distinct) ops _ List.nodup_nil

/-- A run that has a result has kept the uuids distinct. -/
theorem nodup_of_run {environment : List (String × String)} {answers : List Answer} {ops : List Op}
    (h : Run.run step (fresh environment answers) ops = some s) : (registered s).Nodup := by
  have hstep : ∀ s op s', (registered s).Nodup → step s op = some s' → (registered s').Nodup := by
    intro s op s' hs hs'
    by_cases hsafe : KillsSafely s op
    · obtain ⟨s'', hs'', hunique⟩ := (unique_iff hs).mpr hsafe
      obtain rfl := Option.some.inj (hs'.symm.trans hs'')
      exact hunique.distinct
    · rw [step_of_not_safe hsafe] at hs'
      cases hs'
  exact Run.invariant hstep (show (registered
    (fresh environment answers)).Nodup from List.nodup_nil) h

/-- **One application, and it is killed**: the loop goes on with what `erase` has invalidated. -/
theorem not_uniqueness : ¬ Run.Follows step Unique (fresh [] [])
    [.addProcess "./ a" "./" "a " true, .killProcess "./ a"] := by
  rw [uniqueness_iff]
  rintro ⟨-, h⟩
  obtain ⟨hspared, -⟩ := h _ rfl
  exact not_spared (by decide) (fun _ ha => absurd ha List.not_mem_nil) hspared

end ProcessManager

end Sadip

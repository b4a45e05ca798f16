import Sadip.Machinery.Imperative
import Mathlib.Data.List.Basic

/-!
# ProcessManager — the table of supervised applications, `node/src/ProcessManager.cpp`

An application is registered by an entry of `m_instances` that holds the child started for it last.
Every call on a child is answered by the system: the child goes on, ends, or the call throws.
Positions are those of the vector, and reading past its end has no defined result.  Neither has
`kill_process` where it erases an entry: its loop goes on with iterators that `erase` has
invalidated.

Left out of an entry are the times and the load, which nothing here reads.
-/

namespace Sadip

namespace ProcessManager

open Imperative Imperative.Prog

/-! ## The table -/

/-- A `bp::child`: none yet, or one with a process id. -/
inductive Child
  | none
  | alive (pid : Int)
  | exited (pid : Int)
  deriving DecidableEq

/-- `instance.id()`. -/
def Child.id : Child → Int
  | .none => -1
  | .alive pid => pid
  | .exited pid => pid

/-- `ProcessAttribute`. -/
structure ProcessAttribute where
  exceptRunnig : Bool := false
  exceptionFlag : Bool := false
  launchCmd : String
  uuid : String
  workPath : String
  rebootCount : UInt32 := 0
  env : List (String × String)
  child : Child := .none
  deriving DecidableEq

/-- What becomes of a child at a call. -/
inductive Event
  | quiet
  | exits
  | throws
  deriving DecidableEq

/-- An answer of the system; a start also gets the new process id. -/
structure Answer where
  event : Event := .quiet
  pid : Int := 0
  deriving DecidableEq

/-- What the system has been asked to do. -/
inductive Call
  | start (uuid launchCmd workPath : String) (env : Option (List (String × String)))
  | terminate (uuid : String)
  | kill (pid : Int)
  deriving DecidableEq

/-- `m_instances`, the environment of this process, the answers to come, and the calls made. -/
structure State where
  instances : List ProcessAttribute
  environment : List (String × String)
  answers : List Answer
  calls : List Call

/-- `m_instances[i]`. -/
def instanceAt (i : ℕ) : Prog State ProcessAttribute := fun s =>
  match s.instances[i]? with
  | some p => .done p s
  | none => .undefined

/-- Assignment to members of `m_instances[i]`. -/
def modifyAt (i : ℕ) (f : ProcessAttribute → ProcessAttribute) : Prog State Unit := do
  let _ ← instanceAt i
  modify fun s => { s with instances := s.instances.modify i f }

/-- The next answer; a system that has none left stays quiet. -/
def nextAnswer : Prog State Answer := fun s =>
  .done (s.answers.headD {}) { s with answers := s.answers.tail }

def logCall (c : Call) : Prog State Unit := modify fun s => { s with calls := s.calls ++ [c] }

/-! ## Calls on a child -/

/-- A call on the child at `i`, which only a live child has answered by the system: `onQuiet` is its
result for a child that goes on, `onExit` for one that has ended. -/
def askChild (i : ℕ) (onQuiet onExit : Bool) : Prog State Bool := do
  let p ← instanceAt i
  match p.child with
  | .alive pid =>
      let a ← nextAnswer
      match a.event with
      | .quiet => pure onQuiet
      | .exits => do
          modifyAt i fun p => { p with child := .exited pid }
          pure onExit
      | .throws => throw
  | _ => pure onExit

/-- `instance.running()`. -/
def running (i : ℕ) : Prog State Bool := askChild i true false

/-- `instance.wait_for(..)`: whether the child has ended. -/
def waitFor (i : ℕ) : Prog State Bool := askChild i false true

/-- `instance.terminate()`. -/
def terminate (i : ℕ) : Prog State Unit := do
  let p ← instanceAt i
  logCall (.terminate p.uuid)
  let _ ← askChild i false true

/-- `p.instance = bp::child(..)`, with the entry's environment if it has one. -/
def spawn (i : ℕ) : Prog State Unit := do
  let p ← instanceAt i
  logCall (.start p.uuid p.launchCmd p.workPath (if p.env.isEmpty then none else some p.env))
  let a ← nextAnswer
  if a.event = .throws then throw
  else modifyAt i fun p => { p with child := .alive a.pid }

/-! ## The operations -/

/-- The entry `add_process` makes. -/
def newProcess (s : State) (uuid runPath runFile : String) (keepAlive : Bool) :
    ProcessAttribute where
  env := s.environment
  uuid := uuid
  launchCmd := runFile
  workPath := runPath
  exceptRunnig := keepAlive

/-- `add_process`, less the `chmod` of the executable. -/
def addProcess (uuid runPath runFile : String) (keepAlive : Bool) : Prog State Bool := do
  let s ← get
  if s.instances.any (·.uuid = uuid) then pure true
  else do
    modify fun s =>
      { s with instances := s.instances ++ [newProcess s uuid runPath runFile keepAlive] }
    pure true

/-- The loop of `start_process` over the positions it has still to look at. -/
def startLoop (uuid : String) : List ℕ → Prog State Bool
  | [] => pure false
  | i :: is => do
      let p ← instanceAt i
      let _ ← running i -- for the log line
      if p.uuid = uuid then
        if !(← running i) then do
          spawn i
          let _ ← waitFor i
          modifyAt i fun p => { p with exceptRunnig := true }
          pure true
        else startLoop uuid is
      else startLoop uuid is

/-- `start_process`. -/
def startProcess (uuid : String) : Prog State Bool :=
  tryCatch (do
    let s ← get
    startLoop uuid (List.range s.instances.length)) (pure false)

/-- The part of `kill_process` and `kill_all_process` that ends one child. -/
def terminateChild (i : ℕ) : Prog State Unit := do
  let p ← instanceAt i
  terminate i
  if !(← waitFor i) then logCall (.kill p.child.id)
  let _ ← waitFor i

/-- An entry `kill_process` has done with. -/
def ProcessAttribute.cleared (p : ProcessAttribute) : ProcessAttribute :=
  { p with exceptRunnig := false, rebootCount := 0 }

/-- What `kill_process` does with the entry it has found at `i`. -/
def killAt (uuid : String) (i : ℕ) : Prog State Unit := do
  terminateChild i
  modifyAt i ProcessAttribute.cleared
  modify fun s => { s with instances := s.instances.filter (·.uuid ≠ uuid) }

/-- The loop of `kill_process`, a range-for over the table: `erase` invalidates the iterators it
goes on with, those of its end included. -/
def killLoop (uuid : String) : List ℕ → Prog State Unit
  | [] => pure ()
  | i :: is => do
      let p ← instanceAt i
      if p.uuid = uuid then do
        killAt uuid i
        abort -- `++__begin`, and `__begin != __end`
      else killLoop uuid is

/-- `kill_process`. -/
def killProcess (uuid : String) : Prog State Bool :=
  tryCatch (do
    let s ← get
    killLoop uuid (List.range s.instances.length)
    pure true) (pure false)

/-- `remove_process`. -/
def removeProcess (uuid : String) : Prog State Bool := do
  let _ ← killProcess uuid
  modify fun s => { s with instances := s.instances.filter (·.uuid ≠ uuid) }
  pure true

/-- The loop of `kill_all_process`, which erases the first entry as long as there is one. -/
def killAllLoop : ℕ → Prog State Unit
  | 0 => pure ()
  | n + 1 => do
      terminateChild 0
      modifyAt 0 fun p => { p with exceptRunnig := false }
      modify fun s => { s with instances := s.instances.eraseIdx 0 }
      killAllLoop n

/-- `kill_all_process`. -/
def killAllProcess : Prog State Bool :=
  tryCatch (do
    let s ← get
    killAllLoop s.instances.length
    pure true) (pure false)

/-- The loop of `listener`, with the value `exception` has. -/
def listenerLoop : List ℕ → Bool → Prog State Bool
  | [], exception => pure exception
  | i :: is, _ => do
      let p ← instanceAt i
      if !(← running i) && p.exceptRunnig then do
        modifyAt i fun p => { p with exceptionFlag := true }
        let _ ← startProcess p.uuid
        modifyAt i fun p => { p with rebootCount := p.rebootCount + 1 }
        listenerLoop is true
      else do
        modifyAt i fun p => { p with exceptionFlag := false }
        listenerLoop is false

/-- `listener`. -/
def listener : Prog State Bool := do
  let s ← get
  listenerLoop (List.range s.instances.length) false

/-- What both reboots do with the entry at `i`. -/
def rebootAt (i : ℕ) (f : ProcessAttribute → ProcessAttribute) : Prog State Unit := do
  spawn i
  let _ ← waitFor i
  modifyAt i f

/-- The loop of `reboot_all_process`; an exception ends it with `false`. -/
def rebootAllLoop : List ℕ → Prog State Bool
  | [] => pure true
  | i :: is => do
      let p ← instanceAt i
      let ok ← tryCatch (do
        if p.exceptionFlag then
          rebootAt i fun p => { p with exceptionFlag := false, rebootCount := p.rebootCount + 1 }
        pure true) (pure false)
      if ok then rebootAllLoop is else pure false

/-- `reboot_all_process`. -/
def rebootAllProcess : Prog State Bool := do
  let s ← get
  rebootAllLoop (List.range s.instances.length)

/-- The loop of `reboot_process`, which leaves the flag as it is. -/
def rebootLoop (uuid : String) : List ℕ → Prog State Bool
  | [] => pure true
  | i :: is => do
      let p ← instanceAt i
      if p.uuid = uuid ∧ p.exceptionFlag then
        rebootAt i fun p => { p with rebootCount := p.rebootCount + 1 }
      rebootLoop uuid is

/-- `reboot_process`. -/
def rebootProcess (uuid : String) : Prog State Bool :=
  tryCatch (do
    let s ← get
    rebootLoop uuid (List.range s.instances.length)) (pure false)

/-- `ls_process`. -/
def lsProcess : Prog State Bool := listener

/-! ## What is registered

`start_process`, `listener`, the reboots and every call on a child keep the registered uuids, and
read the table at positions it has, also when a call throws.  More generally they keep whatever
withstands mild changes of the entries (`Withstands`). -/

/-- The uuids in the table, in its order. -/
def registered (s : State) : List String := s.instances.map (·.uuid)

/-- The registered uuids are these. -/
def Registers (us : List String) (s : State) : Prop := registered s = us

variable {us : List String} {i n : ℕ} {uuid : String} {s s' : State}

theorem Registers.length (h : Registers us s) : s.instances.length = us.length := by
  rw [← h, registered, List.length_map]

theorem instanceAt_run (h : i < s.instances.length) : instanceAt i s = .done s.instances[i] s := by
  rw [instanceAt, List.getElem?_eq_getElem h]

/-- An invariant that no call on the child at `i` breaks: such a call leaves a child there, and uses
up answers. -/
structure Tolerates (I : State → Prop) (i : ℕ) : Prop where
  live : ∀ s, I s → i < s.instances.length
  child : ∀ s c, I s → c ≠ .none →
    I { s with instances := s.instances.modify i fun p => { p with child := c } }
  answers : ∀ s as, I s → I { s with answers := as }

variable {I : State → Prop}

theorem Tolerates.instanceAt (h : Tolerates I i) : Keeps I (instanceAt i) :=
  fun s hs => .inl ⟨_, _, instanceAt_run (h.live s hs), hs⟩

theorem modifyAt_run (h : i < s.instances.length) (f : ProcessAttribute → ProcessAttribute) :
    modifyAt i f s = .done () { s with instances := s.instances.modify i f } :=
  bind_done (instanceAt_run h)

theorem Tolerates.askChild (h : Tolerates I i) (onQuiet onExit : Bool) :
    Keeps I (askChild i onQuiet onExit) := by
  refine keeps_bind h.instanceAt fun p => ?_
  rcases p.child with - | pid | pid
  · exact keeps_pure _
  · refine keeps_bind (fun s hs => .inl ⟨_, _, rfl, h.answers s _ hs⟩) fun a => ?_
    rcases a.event
    · exact keeps_pure _
    · refine keeps_bind (fun s hs => .inl ⟨(), _, modifyAt_run (h.live s hs) _, ?_⟩) fun _ =>
        keeps_pure _
      exact h.child s _ hs (by simp)
    · exact keeps_throw
  · exact keeps_pure _

/-- A map over a changed list, when the change can be made after the map. -/
theorem map_modify {f : α → α} {g : α → β} {f' : β → β} (h : ∀ a, g (f a) = f' (g a)) (l : List α)
    (i : ℕ) : (l.modify i f).map g = (l.map g).modify i f' := by
  refine List.ext_getElem? fun j => ?_
  rw [List.getElem?_map, List.getElem?_modify, List.getElem?_modify, List.getElem?_map]
  rcases l[j]? with - | a
  · rfl
  · by_cases hj : i = j
    · simp [hj, h]
    · simp [hj]

theorem map_modify_of_eq {f : α → α} {g : α → β} (h : ∀ a, g (f a) = g a) (l : List α) (i : ℕ) :
    (l.modify i f).map g = l.map g :=
  (show _ = (l.map g).modify i id from map_modify h l i).trans (List.modify_id i _)

/-- A change of an entry that keeps its uuid, takes no child away, and ends no expectation. -/
structure Mild (f : ProcessAttribute → ProcessAttribute) : Prop where
  uuid : ∀ p, (f p).uuid = p.uuid
  child : ∀ p, p.child ≠ .none → (f p).child ≠ .none
  expected : ∀ p, p.exceptRunnig = true → (f p).exceptRunnig = true

theorem mild_child (c : Child) (hc : c ≠ .none) : Mild fun p => { p with child := c } :=
  ⟨fun _ => rfl, fun _ _ => hc, fun _ h => h⟩

/-- An invariant of tables with `n` entries that mild changes and calls do not break. -/
structure Withstands (I : State → Prop) (n : ℕ) : Prop where
  live : ∀ s, I s → s.instances.length = n
  modify : ∀ s i f, I s → Mild f → I { s with instances := s.instances.modify i f }
  answers : ∀ s as, I s → I { s with answers := as }
  calls : ∀ s cs, I s → I { s with calls := cs }

theorem registered_modify (f : ProcessAttribute → ProcessAttribute) (hf : ∀ p, (f p).uuid = p.uuid)
    (s : State) (i : ℕ) :
    registered { s with instances := s.instances.modify i f } = registered s :=
  map_modify_of_eq hf s.instances i

theorem registers_withstands (us : List String) : Withstands (Registers us) us.length where
  live _ hs := hs.length
  modify s i f hs hf := (registered_modify f hf.uuid s i).trans hs
  answers _ _ hs := hs
  calls _ _ hs := hs

namespace Withstands

theorem tolerates (h : Withstands I n) (hi : i < n) : Tolerates I i where
  live s hs := h.live s hs ▸ hi
  child s c hs hc := h.modify s i _ hs (mild_child c hc)
  answers := h.answers

theorem instanceAt (h : Withstands I n) (hi : i < n) : Keeps I (instanceAt i) :=
  (h.tolerates hi).instanceAt

theorem modifyAt (h : Withstands I n) (hi : i < n) {f : ProcessAttribute → ProcessAttribute}
    (hf : Mild f) : Keeps I (modifyAt i f) :=
  keeps_bind (h.instanceAt hi) fun _ => keeps_modify fun s hs => h.modify s i f hs hf

theorem nextAnswer (h : Withstands I n) : Keeps I nextAnswer :=
  fun s hs => .inl ⟨_, _, rfl, h.answers s _ hs⟩

theorem logCall (h : Withstands I n) (c : Call) : Keeps I (logCall c) :=
  keeps_modify fun s hs => h.calls s _ hs

theorem askChild (h : Withstands I n) (hi : i < n) (onQuiet onExit : Bool) :
    Keeps I (askChild i onQuiet onExit) := (h.tolerates hi).askChild onQuiet onExit

theorem spawn (h : Withstands I n) (hi : i < n) : Keeps I (spawn i) := by
  refine keeps_bind (h.instanceAt hi) fun p => keeps_bind (h.logCall _) fun _ =>
    keeps_bind h.nextAnswer fun a => keeps_ite (fun _ => keeps_throw) fun _ => ?_
  exact h.modifyAt hi (mild_child (.alive a.pid) (by simp))

theorem terminateChild (h : Withstands I n) (hi : i < n) : Keeps I (terminateChild i) := by
  have hterm : Keeps I (terminate i) :=
    keeps_bind (h.instanceAt hi) fun _ => keeps_bind (h.logCall _) fun _ =>
      keeps_bind (h.askChild hi _ _) fun _ => keeps_pure _
  have hlast : Keeps I (do let _ ← waitFor i; pure ()) :=
    keeps_bind (h.askChild hi _ _) fun _ => keeps_pure _
  refine keeps_bind (h.instanceAt hi) fun p => keeps_bind hterm fun _ =>
    keeps_bind (h.askChild hi _ _) fun b => ?_
  exact keeps_ite (fun _ => keeps_bind (h.logCall _) fun _ => hlast) fun _ => hlast

theorem startLoop (h : Withstands I n) : ∀ is : List ℕ, (∀ i ∈ is, i < n) →
    Keeps I (startLoop uuid is)
  | [], _ => keeps_pure _
  | i :: is, his => by
      have hi := his i List.mem_cons_self
      have ih := startLoop h is fun j hj => his j (List.mem_cons_of_mem i hj)
      refine keeps_bind (h.instanceAt hi) fun p => keeps_bind (h.askChild hi _ _) fun _ =>
        keeps_ite (fun _ => keeps_bind (h.askChild hi _ _) fun b => ?_) fun _ => ih
      refine keeps_ite (fun _ => keeps_bind (h.spawn hi) fun _ =>
        keeps_bind (h.askChild hi _ _) fun _ => keeps_bind ?_ fun _ => keeps_pure _) fun _ => ih
      exact h.modifyAt hi ⟨fun _ => rfl, fun _ hp => hp, fun _ _ => rfl⟩

/-- A loop over all positions. -/
theorem positions (h : Withstands I n) {body : List ℕ → Prog State α}
    (hbody : ∀ is, (∀ i ∈ is, i < n) → Keeps I (body is)) :
    Keeps I (get >>= fun s => body (List.range s.instances.length)) := by
  intro s hs
  exact hbody (List.range s.instances.length)
    (fun i hi => h.live s hs ▸ List.mem_range.mp hi) s hs

/-- **`start_process` keeps the table's uuids**, its children and what it expects, whatever the
system answers. -/
theorem startProcess (h : Withstands I n) : Keeps I (startProcess uuid) :=
  keeps_tryCatch (h.positions h.startLoop) (keeps_pure _)

theorem listenerLoop (h : Withstands I n) : ∀ (is : List ℕ) (exception : Bool), (∀ i ∈ is, i < n) →
    Keeps I (listenerLoop is exception)
  | [], _, _ => keeps_pure _
  | i :: is, _, his => by
      have hi := his i List.mem_cons_self
      have ih := fun e => listenerLoop h is e fun j hj => his j (List.mem_cons_of_mem i hj)
      have hflag : ∀ b, Mild fun p => { p with exceptionFlag := b } := fun _ =>
        ⟨fun _ => rfl, fun _ hp => hp, fun _ hp => hp⟩
      refine keeps_bind (h.instanceAt hi) fun p => keeps_bind (h.askChild hi _ _) fun b => ?_
      refine keeps_ite (fun _ => ?_) fun _ =>
        keeps_bind (h.modifyAt hi (hflag false)) fun _ => ih false
      refine keeps_bind (h.modifyAt hi (hflag true)) fun _ => keeps_bind h.startProcess fun _ =>
        keeps_bind (h.modifyAt hi ?_) fun _ => ih true
      exact ⟨fun _ => rfl, fun _ hp => hp, fun _ hp => hp⟩

/-- **So does a tick**, also one that a call on a child cuts short. -/
theorem listener (h : Withstands I n) : Keeps I listener :=
  h.positions fun is his => h.listenerLoop is false his

theorem rebootAt (h : Withstands I n) (hi : i < n) {f : ProcessAttribute → ProcessAttribute}
    (hf : Mild f) : Keeps I (rebootAt i f) :=
  keeps_bind (h.spawn hi) fun _ => keeps_bind (h.askChild hi _ _) fun _ => h.modifyAt hi hf

theorem rebootAllLoop (h : Withstands I n) : ∀ is : List ℕ, (∀ i ∈ is, i < n) →
    Keeps I (rebootAllLoop is)
  | [], _ => keeps_pure _
  | i :: is, his => by
      have hi := his i List.mem_cons_self
      have ih := rebootAllLoop h is fun j hj => his j (List.mem_cons_of_mem i hj)
      refine keeps_bind (h.instanceAt hi) fun p => keeps_bind (keeps_tryCatch ?_ (keeps_pure _))
        fun _ => keeps_ite (fun _ => ih) fun _ => keeps_pure _
      refine keeps_ite (fun _ => ?_) fun _ => keeps_pure _
      exact keeps_bind (h.rebootAt hi ⟨fun _ => rfl, fun _ hp => hp, fun _ hp => hp⟩)
        fun _ => keeps_pure _

/-- **And reboots.** -/
theorem rebootAllProcess (h : Withstands I n) : Keeps I rebootAllProcess :=
  h.positions h.rebootAllLoop

theorem rebootLoop (h : Withstands I n) : ∀ is : List ℕ, (∀ i ∈ is, i < n) →
    Keeps I (rebootLoop uuid is)
  | [], _ => keeps_pure _
  | i :: is, his => by
      have hi := his i List.mem_cons_self
      have ih : Keeps I (ProcessManager.rebootLoop uuid is) :=
        rebootLoop h is fun j hj => his j (List.mem_cons_of_mem i hj)
      refine keeps_bind (h.instanceAt hi) fun p => keeps_ite (fun _ => ?_) fun _ => ih
      exact keeps_bind (h.rebootAt hi ⟨fun _ => rfl, fun _ hp => hp, fun _ hp => hp⟩) fun _ => ih

theorem rebootProcess (h : Withstands I n) : Keeps I (rebootProcess uuid) :=
  keeps_tryCatch (h.positions h.rebootLoop) (keeps_pure _)

end Withstands

theorem keeps_startProcess : Keeps (Registers us) (startProcess uuid) :=
  (registers_withstands us).startProcess

theorem keeps_listener : Keeps (Registers us) listener := (registers_withstands us).listener

/-! ## `kill_process` -/

/-- One of the next `n` calls on a live child throws, and none before it ends the child. -/
def ThrowsWithin : ℕ → List Answer → Prop
  | 0, _ => False
  | n + 1, answers => (answers.headD {}).event = .throws ∨
      (answers.headD {}).event = .quiet ∧ ThrowsWithin n answers.tail

/-- The calls that end the entry's child do not get through. -/
def CutShort (p : ProcessAttribute) (answers : List Answer) : Prop :=
  (∃ pid, p.child = .alive pid) ∧ ThrowsWithin 3 answers

variable {p : ProcessAttribute} {onQuiet onExit : Bool}

theorem askChild_idle (h : s.instances[i]? = some p) (hp : ∀ pid, p.child ≠ .alive pid) :
    askChild i onQuiet onExit s = .done onExit s := by
  rw [askChild, bind_done (by rw [instanceAt, h])]
  rcases hc : p.child with - | pid | pid
  · rfl
  · exact absurd hc (hp pid)
  · rfl

theorem askChild_alive (onQuiet onExit : Bool) (h : s.instances[i]? = some p) {pid : Int}
    (hp : p.child = .alive pid) :
    askChild i onQuiet onExit s =
      match (s.answers.headD {}).event with
      | .quiet => .done onQuiet { s with answers := s.answers.tail }
      | .exits => .done onExit { s with
          answers := s.answers.tail
          instances := s.instances.modify i fun p => { p with child := .exited pid } }
      | .throws => .thrown { s with answers := s.answers.tail } := by
  rw [askChild, bind_done (by rw [instanceAt, h]), hp]
  simp only
  rw [bind_done (show nextAnswer s = _ from rfl)]
  rcases (s.answers.headD {}).event
  · rfl
  · refine bind_done (a := ()) ?_
    exact modifyAt_run (i := i) (s := { s with answers := s.answers.tail })
      (List.getElem?_eq_some_iff.mp h).1 _
  · rfl

/-- The computation throws here. -/
def Throws (p : Prog State α) (s : State) : Prop := ∃ s', p s = .thrown s'

theorem not_throws_of_done {p : Prog State α} {a : α} (h : p s = .done a s') : ¬ Throws p s := by
  rintro ⟨t, ht⟩
  rw [h] at ht
  cases ht

theorem throws_bind_done {p : Prog State α} {f : α → Prog State β} {a : α} (h : p s = .done a s') :
    Throws (p >>= f) s ↔ Throws (f a) s' := by
  rw [Throws, bind_done h, Throws]

/-- **A call and what follows it** throw when the call does, or the child goes on and the rest
throws; once the child has ended no call is answered any more. -/
theorem throws_askChild_bind {f : Bool → Prog State α} {n : ℕ}
    (h : s.instances[i]? = some p)
    (hquiet : ∀ t : State, t.instances = s.instances → t.answers = s.answers.tail →
      (∃ pid, p.child = .alive pid) → (Throws (f onQuiet) t ↔ ThrowsWithin n t.answers))
    (hexit : ∀ (t : State) (q : ProcessAttribute), t.instances[i]? = some q →
      (∀ pid, q.child ≠ .alive pid) → ¬ Throws (f onExit) t) :
    Throws (askChild i onQuiet onExit >>= f) s ↔
      (∃ pid, p.child = .alive pid) ∧ ThrowsWithin (n + 1) s.answers := by
  by_cases hp : ∃ pid, p.child = .alive pid
  · obtain ⟨pid, hpid⟩ := hp
    have hask := askChild_alive onQuiet onExit h hpid
    rw [ThrowsWithin]
    rcases he : (s.answers.headD {}).event
    · rw [he] at hask
      have hrest := hquiet { s with answers := s.answers.tail } rfl rfl ⟨pid, hpid⟩
      rw [throws_bind_done hask, hrest]
      simp [hpid]
    · rw [he] at hask
      rw [throws_bind_done hask]
      simp only [reduceCtorEq, false_and, or_self, and_false, iff_false]
      refine hexit _ { p with child := .exited pid } ?_ (by simp)
      simp [h]
    · rw [he] at hask
      simp only [true_or, and_true]
      exact ⟨fun _ => ⟨pid, hpid⟩, fun _ => ⟨_, bind_thrown hask⟩⟩
  · have hidle : ∀ pid, p.child ≠ .alive pid := fun pid hpid => hp ⟨pid, hpid⟩
    rw [throws_bind_done (askChild_idle h hidle)]
    exact iff_of_false (hexit s p h hidle) fun h => hp h.1

/-- The waiting of `terminateChild`, with the kill of a child that has not ended. -/
def awaitEnd (i : ℕ) (pid : Int) (ended : Bool) : Prog State Unit :=
  if !ended then logCall (.kill pid) >>= fun _ => waitFor i >>= fun _ => pure ()
  else waitFor i >>= fun _ => pure ()

theorem terminateChild_eq (i : ℕ) : terminateChild i = instanceAt i >>= fun p =>
    instanceAt i >>= fun q => logCall (.terminate q.uuid) >>= fun _ =>
      askChild i false true >>= fun _ => askChild i false true >>= awaitEnd i p.child.id := by
  rw [terminateChild]
  simp only [terminate, bind_assoc, pure_bind]
  rfl

theorem throws_waitFor (h : s.instances[i]? = some p) :
    Throws (waitFor i >>= fun _ => pure ()) s ↔
      (∃ pid, p.child = .alive pid) ∧ ThrowsWithin 1 s.answers :=
  throws_askChild_bind h
    (fun t _ _ _ => iff_of_false (not_throws_of_done (pure_run () t)) not_false)
    fun t _ _ _ => not_throws_of_done (pure_run () t)

theorem throws_waitFor_awaitEnd (h : s.instances[i]? = some p) (pid : Int) :
    Throws (waitFor i >>= awaitEnd i pid) s ↔
      (∃ pid, p.child = .alive pid) ∧ ThrowsWithin 2 s.answers := by
  refine throws_askChild_bind h (fun t ht _ halive => ?_) fun t q hq hidle => ?_
  · refine (throws_waitFor (p := p) (s := { t with calls := t.calls ++ [.kill pid] }) ?_).trans
      (and_iff_right halive)
    exact (congrArg (·[i]?) ht).trans h
  · exact fun ht => absurd ((throws_waitFor hq).mp ht).1 fun ⟨pid, hpid⟩ => hidle pid hpid

/-- **The child's end throws exactly when it is cut short.** -/
theorem throws_terminateChild (h : s.instances[i]? = some p) :
    Throws (terminateChild i) s ↔ CutShort p s.answers := by
  have hat : instanceAt i s = .done p s := by rw [instanceAt, h]
  rw [terminateChild_eq, throws_bind_done hat, throws_bind_done hat, throws_bind_done (by rfl)]
  refine throws_askChild_bind h (fun t ht _ halive => ?_) fun t q hq hidle => ?_
  · exact (throws_waitFor_awaitEnd ((congrArg (·[i]?) ht).trans h) _).trans (and_iff_right halive)
  · exact fun ht => absurd ((throws_waitFor_awaitEnd hq _).mp ht).1
      fun ⟨pid, hpid⟩ => hidle pid hpid

/-- A call that is cut short, with a rest that is: only a child that went on has been asked. -/
theorem thrown_askChild_bind {f : Bool → Prog State α} {pid : Int} (h : s.instances[i]? = some p)
    (hp : p.child = .alive pid) (hcut : ThrowsWithin (n + 1) s.answers)
    (hquiet : ∀ t : State, t.instances = s.instances → ThrowsWithin n t.answers →
      ∃ t', f onQuiet t = .thrown t' ∧ t'.instances = s.instances) :
    ∃ s', (askChild i onQuiet onExit >>= f) s = .thrown s' ∧ s'.instances = s.instances := by
  have hask := askChild_alive onQuiet onExit h hp
  rcases hcut with hthrows | ⟨he, hcut⟩
  · rw [hthrows] at hask
    exact ⟨_, bind_thrown hask, rfl⟩
  · rw [he] at hask
    rw [bind_done hask]
    exact hquiet _ rfl hcut

theorem thrown_waitFor {pid : Int} (h : s.instances[i]? = some p) (hp : p.child = .alive pid)
    (hcut : ThrowsWithin 1 s.answers) :
    ∃ s', (waitFor i >>= fun _ => pure ()) s = .thrown s' ∧ s'.instances = s.instances :=
  thrown_askChild_bind h hp hcut fun _ _ hnone => hnone.elim

theorem thrown_waitFor_awaitEnd {pid : Int} (h : s.instances[i]? = some p)
    (hp : p.child = .alive pid) (hcut : ThrowsWithin 2 s.answers) :
    ∃ s', (waitFor i >>= awaitEnd i pid) s = .thrown s' ∧ s'.instances = s.instances := by
  refine thrown_askChild_bind h hp hcut fun t ht htcut => ?_
  obtain ⟨t', hrun, ht'⟩ := thrown_waitFor (s := { t with calls := t.calls ++ [.kill pid] })
    ((congrArg (·[i]?) ht).trans h) hp htcut
  exact ⟨t', hrun, ht'.trans ht⟩

/-- **A cut leaves the entries as they are.** -/
theorem terminateChild_cutShort (h : s.instances[i]? = some p) (hcut : CutShort p s.answers) :
    ∃ s', terminateChild i s = .thrown s' ∧ s'.instances = s.instances := by
  obtain ⟨⟨pid, hpid⟩, hthrows⟩ := hcut
  have hat : instanceAt i s = .done p s := by rw [instanceAt, h]
  rw [terminateChild_eq, bind_done hat, bind_done hat, bind_done (by rfl), hpid]
  refine thrown_askChild_bind h hpid hthrows fun t ht htcut => ?_
  obtain ⟨t', hrun, ht'⟩ := thrown_waitFor_awaitEnd ((congrArg (·[i]?) ht).trans h) hpid htcut
  exact ⟨t', hrun, ht'.trans ht⟩

/-! The loop: entries of another uuid are passed over, and at the first entry of the uuid the child
is ended, the uuid erased, and the loop left without iterators. -/

theorem registered_filter (s : State) (uuid : String) :
    registered { s with instances := s.instances.filter (·.uuid ≠ uuid) }
      = (registered s).filter (· ≠ uuid) := by
  rw [registered, registered, List.filter_map]
  rfl

theorem find?_eq_none_iff : s.instances.find? (·.uuid = uuid) = none ↔ uuid ∉ registered s := by
  rw [List.find?_eq_none, registered, List.mem_map]
  simp

/-- Entries of other uuids are passed over. -/
theorem killLoop_others (js : List ℕ) : ∀ is : List ℕ,
    (∀ i ∈ is, ∃ p, s.instances[i]? = some p ∧ p.uuid ≠ uuid) →
    killLoop uuid (is ++ js) s = killLoop uuid js s
  | [], _ => rfl
  | i :: is, h => by
      obtain ⟨p, hp, hne⟩ := h i List.mem_cons_self
      rw [List.cons_append, killLoop, bind_done (by rw [instanceAt, hp]), if_neg hne]
      exact killLoop_others js is fun j hj => h j (List.mem_cons_of_mem i hj)

theorem killLoop_absent (h : uuid ∉ registered s) :
    killLoop uuid (List.range s.instances.length) s = .done () s := by
  have hothers : ∀ i ∈ List.range s.instances.length,
      ∃ p, s.instances[i]? = some p ∧ p.uuid ≠ uuid := fun i hi => by
    have hlt := List.mem_range.mp hi
    refine ⟨s.instances[i], List.getElem?_eq_getElem hlt, fun he => h ?_⟩
    exact List.mem_map.mpr ⟨_, List.getElem_mem hlt, he⟩
  rw [← List.append_nil (List.range _), killLoop_others [] _ hothers]
  rfl

theorem range_split (m n : ℕ) :
    List.range (m + (n + 1)) = List.range m ++ m :: List.range' (m + 1) n := by
  rw [List.range_eq_range', List.range_eq_range', ← List.range'_append_1, Nat.zero_add,
    List.range'_succ]

/-- The loop comes to the first entry of the uuid, and no further. -/
theorem killLoop_found (h : s.instances.find? (·.uuid = uuid) = some p) :
    ∃ i, s.instances[i]? = some p ∧ killLoop uuid (List.range s.instances.length) s
      = (killAt uuid i >>= fun _ => abort) s := by
  obtain ⟨hp, pre, post, hsplit, hpre⟩ := List.find?_eq_some_iff_append.mp h
  have hat : s.instances[pre.length]? = some p := by rw [hsplit]; simp
  have hlen : s.instances.length = pre.length + (post.length + 1) := by
    rw [hsplit, List.length_append, List.length_cons]
  refine ⟨pre.length, hat, ?_⟩
  rw [hlen, range_split, killLoop_others _ _ fun i hi => ?_]
  · rw [killLoop, bind_done (by rw [instanceAt, hat]), if_pos (by simpa using hp)]
  · have hlt := List.mem_range.mp hi
    refine ⟨pre[i], ?_, ?_⟩
    · rw [hsplit, List.getElem?_append_left hlt, List.getElem?_eq_getElem hlt]
    · simpa using hpre _ (List.getElem_mem hlt)

/-- **A kill of a uuid that is not registered does nothing**… -/
theorem killProcess_absent (h : uuid ∉ registered s) : killProcess uuid s = .done true s :=
  tryCatch_done (show (killLoop uuid (List.range s.instances.length) >>= fun _ => pure true) s
    = .done true s from bind_done (killLoop_absent h))

/-- …**one that an exception cuts short leaves the entries as they are**… -/
theorem killProcess_cutShort (h : s.instances.find? (·.uuid = uuid) = some p)
    (hcut : CutShort p s.answers) :
    ∃ s', killProcess uuid s = .done false s' ∧ s'.instances = s.instances := by
  obtain ⟨i, hi, hloop⟩ := killLoop_found h
  obtain ⟨s', hrun, hs'⟩ := terminateChild_cutShort hi hcut
  have hkill : killAt uuid i s = .thrown s' := bind_thrown hrun
  refine ⟨s', (tryCatch_thrown ?_ : _ = Result.done false s'), hs'⟩
  exact show (killLoop uuid (List.range s.instances.length) >>= fun _ => pure true) s = .thrown s'
    from bind_thrown (hloop.trans (bind_thrown hkill))

/-- …**and one that gets through goes on with iterators that `erase` has invalidated.** -/
theorem killProcess_through (h : s.instances.find? (·.uuid = uuid) = some p)
    (hcut : ¬ CutShort p s.answers) : killProcess uuid s = .undefined := by
  obtain ⟨i, hi, hloop⟩ := killLoop_found h
  have hlt : i < s.instances.length := (List.getElem?_eq_some_iff.mp hi).1
  have hregisters := registers_withstands (registered s)
  rw [← Registers.length (rfl : Registers (registered s) s)] at hregisters
  rcases hregisters.terminateChild hlt s rfl with ⟨⟨⟩, s₁, hrun, hs₁⟩ | ⟨s₁, hrun, -⟩
  · have hkill : (killAt uuid i >>= fun _ => (abort : Prog State Unit)) s = .undefined := by
      rw [killAt, bind_assoc, bind_done hrun, bind_assoc,
        bind_done (modifyAt_run (hregisters.live s₁ hs₁ ▸ hlt) _)]
      rfl
    refine tryCatch_undefined ?_
    exact show (killLoop uuid (List.range s.instances.length) >>= fun _ => pure true) s = .undefined
      from bind_undefined (hloop.trans hkill)
  · exact absurd ((throws_terminateChild hi).mp ⟨s₁, hrun⟩) hcut

/-! ## `add_process` and `kill_all_process` -/

/-- **`add_process` registers the uuid**, at the end unless it is there. -/
theorem addProcess_run (uuid runPath runFile : String) (keepAlive : Bool) (s : State) :
    ∃ s', addProcess uuid runPath runFile keepAlive s = .done true s' ∧
      registered s' = if uuid ∈ registered s then registered s else registered s ++ [uuid] := by
  have hmem : s.instances.any (·.uuid = uuid) = true ↔ uuid ∈ registered s := by
    simp [registered]
  by_cases h : uuid ∈ registered s
  · refine ⟨s, ?_, (if_pos h).symm⟩
    rw [addProcess, bind_done (show get s = .done s s from rfl), if_pos (hmem.mpr h)]
    rfl
  · refine ⟨{ s with instances := s.instances ++ [newProcess s uuid runPath runFile keepAlive] },
      ?_, ?_⟩
    · rw [addProcess, bind_done (show get s = .done s s from rfl), if_neg fun ha => h (hmem.mp ha)]
      rfl
    · rw [if_neg h, registered, List.map_append]
      rfl

theorem terminateChild_first (h : Registers (uuid :: us) s) :
    (∃ s', terminateChild 0 s = .done () s' ∧ Registers (uuid :: us) s') ∨
      ∃ s', terminateChild 0 s = .thrown s' ∧ Registers (uuid :: us) s' := by
  rcases (registers_withstands (uuid :: us)).terminateChild (Nat.zero_lt_succ us.length) s h with
    ⟨⟨⟩, s', hs'⟩ | h'
  · exact .inl ⟨s', hs'⟩
  · exact .inr h'

/-- The loop erases from the front; an exception leaves the rest. -/
theorem triple_killAllLoop : ∀ us : List String, Triple (Registers us) (killAllLoop us.length)
    (fun _ => Registers []) (fun s => ∃ vs, vs <:+ us ∧ Registers vs s)
  | [], s, hs => .inl ⟨(), s, rfl, hs⟩
  | uuid :: us, s, hs => by
      rw [List.length_cons, killAllLoop]
      rcases terminateChild_first hs with ⟨s₁, hrun, hs₁⟩ | ⟨s₁, hrun, hs₁⟩
      · obtain ⟨p, ps, hps, -, hus⟩ := List.map_eq_cons_iff.mp hs₁
        have hrest : ∀ f : ProcessAttribute → ProcessAttribute, Registers us
            { s₁ with instances := (s₁.instances.modify 0 f).eraseIdx 0 } := fun f => by
          rw [Registers, registered, hps]
          exact hus
        rw [bind_done hrun, bind_done (modifyAt_run (by rw [hs₁.length]; exact Nat.succ_pos _) _),
          bind_done (modify_run _ _)]
        rcases triple_killAllLoop us _ (hrest _) with h | ⟨s', hrun', vs, hvs, hreg⟩
        · exact .inl h
        · exact .inr ⟨s', hrun', vs, hvs.trans (List.suffix_cons uuid us), hreg⟩
      · exact .inr ⟨s₁, bind_thrown hrun, uuid :: us, List.suffix_rfl, hs₁⟩

/-- **`kill_all_process` leaves an end of the table**, nothing of it unless a call throws. -/
theorem killAllProcess_run (s : State) :
    ∃ b s', killAllProcess s = .done b s' ∧ registered s' <:+ registered s := by
  rcases triple_killAllLoop (registered s) s rfl with ⟨⟨⟩, s', hrun, hreg⟩ |
    ⟨s', hrun, vs, hvs, hreg⟩
  all_goals rw [registered, List.length_map] at hrun
  · refine ⟨true, s', tryCatch_done ?_, hreg ▸ List.nil_suffix⟩
    exact show (killAllLoop s.instances.length >>= fun _ => pure true) s = .done true s' from
      bind_done hrun
  · refine ⟨false, s', (tryCatch_thrown ?_ : _ = Result.done false s'), hreg ▸ hvs⟩
    exact show (killAllLoop s.instances.length >>= fun _ => pure true) s = .thrown s' from
      bind_thrown hrun

/-! ## What a kill costs

Whether `kill_process` harms the table can be seen before it runs. -/

/-- The entry a kill would find, if any, has calls that do not get through. -/
def Spared (uuid : String) (s : State) : Prop :=
  ∀ p, s.instances.find? (·.uuid = uuid) = some p → CutShort p s.answers

/-- **A kill that is cut short, or finds nothing, leaves the entries as they are**… -/
theorem killProcess_spared (h : Spared uuid s) :
    ∃ b s', killProcess uuid s = .done b s' ∧ s'.instances = s.instances := by
  rcases hfind : s.instances.find? (·.uuid = uuid) with - | p
  · exact ⟨true, s, killProcess_absent (find?_eq_none_iff.mp hfind), rfl⟩
  · exact ⟨false, killProcess_cutShort hfind (h p hfind)⟩

/-- …**and every other is undefined.** -/
theorem killProcess_not_spared (h : ¬ Spared uuid s) : killProcess uuid s = .undefined := by
  rw [Spared] at h
  push Not at h
  obtain ⟨p, hfind, hcut⟩ := h
  exact killProcess_through hfind hcut

/-- A cut is an exception among the answers. -/
theorem exists_throws : ∀ {n : ℕ} {answers : List Answer}, ThrowsWithin n answers →
    ∃ a ∈ answers, a.event = .throws
  | n + 1, [], h => by
      rcases h with h | ⟨-, h⟩
      · cases h
      · exact exists_throws h
  | n + 1, a :: answers, h => by
      rcases h with h | ⟨-, h⟩
      · exact ⟨a, List.mem_cons_self, h⟩
      · obtain ⟨b, hb, hthrows⟩ := exists_throws h
        exact ⟨b, List.mem_cons_of_mem a hb, hthrows⟩

/-- **With no exception in sight, every kill of a registered uuid gets through.** -/
theorem not_spared (hmem : uuid ∈ registered s) (hcalm : ∀ a ∈ s.answers, a.event ≠ .throws) :
    ¬ Spared uuid s := by
  intro h
  obtain ⟨p, hp, he⟩ := List.mem_map.mp hmem
  have hfind : (s.instances.find? (·.uuid = uuid)).isSome :=
    List.find?_isSome.mpr ⟨p, hp, by simpa using he⟩
  obtain ⟨q, hq⟩ := Option.isSome_iff_exists.mp hfind
  obtain ⟨a, ha, hthrows⟩ := exists_throws (h q hq).2
  exact hcalm a ha hthrows

end ProcessManager

end Sadip

import Sadip.NodeCmdWorker
import Sadip.NodeInfo
import Sadip.ProcessManager.Kill
import Sadip.ProcessManager.Tick
import Sadip.ProcessManager.Uniqueness

/-!
# NodeCmdWorker/SelfStart — the applications a node starts with, `node/src/NodeCmdWorker.cpp`

Before its first command, the worker registers the applications of the node's file and starts those
with state 2.  Whatever the system answers, the registered uuids are those of the file, each once
and in its order, and nothing is started that the file does not say (`selfStart_registers`).  If no
call throws and the uuids differ, the table is the list of the file, and an application that was
started is expected to run, be it to be kept alive or not (`selfStart_run`).
-/

namespace Sadip

namespace NodeCmdWorker

open Imperative Imperative.Prog ProcessManager INIReader

/-! ## The loop -/

/-- The uuid of an application of the file. -/
def uuidOf (p : NodeInfo.Process) : String :=
  combUuid (str p.addParas1) (str p.path) (str p.paras) (str p.addParas2)

/-- `cmd`. -/
def cmdOf (p : NodeInfo.Process) : String := trim (str p.path) ++ " " ++ trim (str p.paras)

/-- One turn of the loop over `processVec_`. -/
def selfStartOne (p : NodeInfo.Process) : Prog State Unit := do
  let _ ← addProcess (uuidOf p) (str p.addParas1) (cmdOf p) p.keepLive
  if p.state = 2 then do
    let _ ← startProcess (uuidOf p)
    pure ()
  else pure ()

def selfStartLoop : List NodeInfo.Process → Prog State Unit
  | [] => pure ()
  | p :: ps => do
      selfStartOne p
      selfStartLoop ps

/-- What `worker` does before its first command. -/
def selfStart (processVec : List NodeInfo.Process) : Prog State Unit :=
  tryCatch (selfStartLoop processVec) (pure ())

/-! ## Whatever the system answers -/

variable {us : List String} {uuid : String} {s s' : State} {i : ℕ}

/-- The uuids of a table after some more. -/
def enrolled (us : List String) (new : List String) : List String :=
  new.foldl (fun us u => if u ∈ us then us else us ++ [u]) us

/-- The table has these uuids, and the calls from here on are starts of marked applications. -/
structure Enlists (us : List String) (cs : List Call) (marked : List String)
    (s : State) : Prop where
  registers : Registers us s
  starts : ∃ new, s.calls = cs ++ new ∧
    ∀ c ∈ new, ∃ u ∈ marked, ∃ cmd path env, c = .start u cmd path env

variable {cs : List Call} {marked : List String}

theorem enlists_tolerates (h : i < us.length) : Tolerates (Enlists us cs marked) i where
  live s hs := ((registers_withstands us).tolerates h).live s hs.registers
  child s c hs hc := ⟨((registers_withstands us).tolerates h).child s c hs.registers hc, hs.starts⟩
  answers s as hs := ⟨((registers_withstands us).tolerates h).answers s as hs.registers, hs.starts⟩

theorem enlists_modifyAt (h : i < us.length) (f : ProcessAttribute → ProcessAttribute)
    (hf : ∀ p, (f p).uuid = p.uuid) : Keeps (Enlists us cs marked) (modifyAt i f) := fun s hs =>
  .inl ⟨(), _, modifyAt_run (hs.registers.length ▸ h) f,
    (registered_modify f hf s i).trans hs.registers, hs.starts⟩

/-- A new child changes what a call on a child may change. -/
theorem keeps_launch_of_tolerates {I : State → Prop} (h : Tolerates I i) : Keeps I (launch i) :=
  keeps_bind (fun s hs => .inl ⟨_, _, rfl, h.answers s _ hs⟩) fun _ =>
    keeps_ite (fun _ => keeps_throw) fun _ s hs =>
      .inl ⟨(), _, modifyAt_run (h.live s hs) _, h.child s _ hs (by simp)⟩

theorem Enlists.uuid_eq (hs : Enlists us cs marked s) (hi : i < s.instances.length) :
    us[i]? = some s.instances[i].uuid := by
  rw [← hs.registers, registered, List.getElem?_map, List.getElem?_eq_getElem hi, Option.map_some]

/-- The start of a marked application. -/
theorem enlists_spawn (hat : us[i]? = some uuid) (hmarked : uuid ∈ marked) :
    Keeps (Enlists us cs marked) (spawn i) := by
  intro s hs
  have hlt : i < us.length := (List.getElem?_eq_some_iff.mp hat).1
  have hlive : i < s.instances.length := hs.registers.length ▸ hlt
  have huuid : s.instances[i].uuid = uuid := Option.some.inj ((hs.uuid_eq hlive).symm.trans hat)
  obtain ⟨new, hcalls, hnew⟩ := hs.starts
  have hlogged : Enlists us cs marked
      { s with calls := s.calls ++ [s.instances[i].startCall] } := by
    refine ⟨hs.registers, new ++ [s.instances[i].startCall], ?_, ?_⟩
    · rw [hcalls, List.append_assoc]
    · refine List.forall_mem_append.mpr ⟨hnew, List.forall_mem_singleton.mpr ?_⟩
      exact ⟨uuid, hmarked, _, _, _, by rw [ProcessAttribute.startCall, huuid]⟩
  rw [spawn_eq, bind_done (instanceAt_run hlive)]
  exact keeps_launch_of_tolerates (enlists_tolerates hlt) _ hlogged

theorem enlists_startLoop (hmarked : uuid ∈ marked) : ∀ is : List ℕ, (∀ i ∈ is, i < us.length) →
    Keeps (Enlists us cs marked) (startLoop uuid is)
  | [], _ => keeps_pure _
  | i :: is, h => by
      have hi := h i List.mem_cons_self
      have ih := enlists_startLoop hmarked is fun j hj => h j (List.mem_cons_of_mem i hj)
      have htolerates : Tolerates (Enlists us cs marked) i := enlists_tolerates hi
      have hask := fun onQuiet onExit => htolerates.askChild onQuiet onExit
      intro s hs
      have hlive : i < s.instances.length := hs.registers.length ▸ hi
      rw [startLoop, bind_done (instanceAt_run hlive)]
      refine keeps_bind (hask _ _) (fun _ => ?_) s hs
      refine keeps_ite (fun huuid => keeps_bind (hask _ _) fun b => ?_) fun _ => ih
      refine keeps_ite (fun _ => ?_) fun _ => ih
      have hat : us[i]? = some uuid := huuid ▸ hs.uuid_eq hlive
      exact keeps_bind (enlists_spawn hat hmarked) fun _ => keeps_bind (hask _ _) fun _ =>
        keeps_bind (enlists_modifyAt hi _ fun _ => rfl) fun _ => keeps_pure _

/-- **A start of a marked application**, whatever the system answers. -/
theorem triple_startProcess (hmarked : uuid ∈ marked) : Triple (Enlists us cs marked)
    (startProcess uuid) (fun _ => Enlists us cs marked) (fun _ => False) := by
  have hkeeps : Keeps (Enlists us cs marked) (get >>= fun s =>
      startLoop uuid (List.range s.instances.length)) := by
    intro s hs
    rw [bind_done (show get s = .done s s from rfl), hs.registers.length]
    exact enlists_startLoop hmarked _ (fun i hi => List.mem_range.mp hi) s hs
  exact triple_tryCatch hkeeps (triple_pure fun _ hs => hs)

/-- What `add_process` comes to. -/
theorem addProcess_eq (uuid runPath runFile : String) (keepAlive : Bool) (s : State) :
    addProcess uuid runPath runFile keepAlive s = .done true (if uuid ∈ registered s then s else
      { s with instances := s.instances ++ [newProcess s uuid runPath runFile keepAlive] }) := by
  have hmem : s.instances.any (·.uuid = uuid) = true ↔ uuid ∈ registered s := by
    simp [registered]
  rw [addProcess, bind_done (show get s = .done s s from rfl)]
  by_cases h : uuid ∈ registered s
  · rw [if_pos (hmem.mpr h), if_pos h]
    rfl
  · rw [if_neg fun ha => h (hmem.mp ha), if_neg h]
    rfl

theorem triple_addProcess (p : NodeInfo.Process) : Triple (Enlists us cs marked)
    (addProcess (uuidOf p) (str p.addParas1) (cmdOf p) p.keepLive)
    (fun _ => Enlists (enrolled us [uuidOf p]) cs marked) (fun _ => False) := by
  intro s hs
  refine .inl ⟨true, _, addProcess_eq _ _ _ _ s, ?_⟩
  have hregistered : registered s = us := hs.registers
  rw [hregistered]
  by_cases h : uuidOf p ∈ us
  · rw [if_pos h, show enrolled us [uuidOf p] = us from if_pos h]
    exact hs
  · rw [if_neg h, show enrolled us [uuidOf p] = us ++ [uuidOf p] from if_neg h]
    refine ⟨?_, hs.starts⟩
    rw [Registers, registered, List.map_append, ← registered, hregistered]
    rfl

theorem triple_selfStartLoop : ∀ (ps : List NodeInfo.Process) (us : List String),
    (∀ p ∈ ps, p.state = 2 → uuidOf p ∈ marked) →
    Triple (Enlists us cs marked) (selfStartLoop ps)
      (fun _ => Enlists (enrolled us (ps.map uuidOf)) cs marked) (fun _ => False)
  | [], _, _ => triple_pure fun _ hs => hs
  | p :: ps, us, h => by
      obtain ⟨hp, hps⟩ := List.forall_mem_cons.mp h
      have hone : Triple (Enlists us cs marked) (selfStartOne p)
          (fun _ => Enlists (enrolled us [uuidOf p]) cs marked) (fun _ => False) := by
        refine triple_bind (triple_addProcess p) fun _ => ?_
        split
        · next hstate =>
          exact triple_bind (triple_startProcess (hp hstate)) fun _ => triple_pure fun _ hs => hs
        · exact triple_pure fun _ hs => hs
      exact triple_bind hone fun _ => triple_selfStartLoop ps _ hps

/-- **The applications of a node's file are registered**, each uuid once and in the order of the
file, and only those with state 2 are started: whatever is registered before, and whatever the
system answers. -/
theorem selfStart_registers (ps : List NodeInfo.Process) (s : State) :
    ∃ s', selfStart ps s = .done () s' ∧ registered s' = enrolled (registered s) (ps.map uuidOf) ∧
      ∃ new, s'.calls = s.calls ++ new ∧ ∀ c ∈ new, ∃ p ∈ ps, p.state = 2 ∧
        ∃ cmd path env, c = .start (uuidOf p) cmd path env := by
  have hmarked : ∀ p ∈ ps, p.state = 2 → uuidOf p ∈ (ps.filter (·.state = 2)).map uuidOf :=
    fun p hp hstate => List.mem_map_of_mem (List.mem_filter.mpr ⟨hp, decide_eq_true hstate⟩)
  have hs : Enlists (registered s) s.calls ((ps.filter (·.state = 2)).map uuidOf) s :=
    ⟨rfl, [], (List.append_nil _).symm, List.forall_mem_nil _⟩
  rcases triple_selfStartLoop ps (registered s) hmarked s hs with ⟨⟨⟩, s', hrun, hs'⟩ | ⟨-, -, h⟩
  · obtain ⟨new, hcalls, hnew⟩ := hs'.starts
    refine ⟨s', tryCatch_done hrun, hs'.registers, new, hcalls, fun c hc => ?_⟩
    obtain ⟨u, hu, hcall⟩ := hnew c hc
    obtain ⟨p, hp, rfl⟩ := List.mem_map.mp hu
    obtain ⟨hmem, hstate⟩ := List.mem_filter.mp hp
    exact ⟨p, hmem, of_decide_eq_true hstate, hcall⟩
  · exact h.elim

/-! ## If no call throws -/

section Calm

/-- No call on a child will throw. -/
def Calm (s : State) : Prop := ∀ a ∈ s.answers, a.event ≠ .throws

variable {α β : Type} {p : Prog State α} {f : α → Prog State β} {ps : List ProcessAttribute}
  {q : ProcessAttribute}

/-- Where no call will throw, this does not throw either, and leaves it at that. -/
def Soft (p : Prog State α) : Prop := ∀ s, Calm s → match p s with
  | .done _ s' => Calm s' ∧ s'.environment = s.environment
  | .thrown _ => False
  | .undefined => True

theorem soft_pure (a : α) : Soft (pure a : Prog State α) := fun _ hs => ⟨hs, rfl⟩

theorem soft_bind (hp : Soft p) (hf : ∀ a, Soft (f a)) : Soft (p >>= f) := by
  intro s hs
  have hrun := hp s hs
  rcases h : p s with ⟨a, s'⟩ | s' | -
  · rw [h] at hrun
    have hrest := hf a s' hrun.1
    rw [bind_done h]
    rcases h' : f a s' with ⟨b, s''⟩ | s'' | -
    · rw [h'] at hrest
      exact ⟨hrest.1, hrest.2.trans hrun.2⟩
    · rw [h'] at hrest
      exact hrest
    · trivial
  · rw [h] at hrun
    exact hrun.elim
  · rw [bind_undefined h]
    trivial

theorem soft_ite {c : Prop} [Decidable c] {p' : Prog State α} (hp : Soft p) (hp' : Soft p') :
    Soft (if c then p else p') := by
  split
  · exact hp
  · exact hp'

/-- A change to the table, or to the calls made. -/
theorem soft_modify {g : State → State}
    (h : ∀ s, (g s).answers = s.answers ∧ (g s).environment = s.environment) : Soft (modify g) :=
  fun s hs => ⟨fun a ha => hs a ((h s).1 ▸ ha), (h s).2⟩

theorem soft_instanceAt (i : ℕ) : Soft (instanceAt i) := by
  intro s hs
  rw [instanceAt]
  cases s.instances[i]? with
  | none => trivial
  | some p => exact ⟨hs, rfl⟩

theorem soft_modifyAt (i : ℕ) (g : ProcessAttribute → ProcessAttribute) : Soft (modifyAt i g) :=
  soft_bind (soft_instanceAt i) fun _ => soft_modify fun _ => ⟨rfl, rfl⟩

theorem Calm.head (h : Calm s) : (s.answers.headD {}).event ≠ .throws := by
  rcases hanswers : s.answers with - | ⟨a, as⟩
  · exact Event.noConfusion
  · exact h a (hanswers ▸ List.mem_cons_self)

theorem Calm.tail (h : Calm s) : Calm { s with answers := s.answers.tail } :=
  fun a ha => h a (List.mem_of_mem_tail ha)

/-- An answer does not throw. -/
theorem soft_nextAnswer {f : Answer → Prog State β} (h : ∀ a, a.event ≠ .throws → Soft (f a)) :
    Soft (nextAnswer >>= f) := fun _ hs => h _ hs.head _ hs.tail

theorem soft_askChild (i : ℕ) (onQuiet onExit : Bool) : Soft (askChild i onQuiet onExit) := by
  refine soft_bind (soft_instanceAt i) fun p => ?_
  rcases p.child with - | pid | pid
  · exact soft_pure _
  · refine soft_nextAnswer fun a ha => ?_
    rcases he : a.event
    · exact soft_pure _
    · exact soft_bind (soft_modifyAt i _) fun _ => soft_pure _
    · exact absurd he ha
  · exact soft_pure _

theorem soft_spawn (i : ℕ) : Soft (spawn i) := by
  refine soft_bind (soft_instanceAt i) fun p => soft_bind (soft_modify fun _ => ⟨rfl, rfl⟩) fun _ =>
    soft_nextAnswer fun a ha => ?_
  rw [if_neg ha]
  exact soft_modifyAt i _

theorem soft_startLoop (uuid : String) : ∀ is : List ℕ, Soft (startLoop uuid is)
  | [] => soft_pure _
  | i :: is => by
      refine soft_bind (soft_instanceAt i) fun _ => soft_bind (soft_askChild i _ _) fun _ =>
        soft_ite (soft_bind (soft_askChild i _ _) fun _ => soft_ite ?_ (soft_startLoop uuid is))
          (soft_startLoop uuid is)
      exact soft_bind (soft_spawn i) fun _ => soft_bind (soft_askChild i _ _) fun _ =>
        soft_bind (soft_modifyAt i _) fun _ => soft_pure _

/-- What a triple promises of a computation that does not throw. -/
theorem Soft.run {P : State → Prop} {Q : α → State → Prop} {E : State → Prop} (h : Soft p)
    (ht : Triple P p Q E) (hs : P s) (hcalm : Calm s) :
    ∃ a s', p s = .done a s' ∧ Q a s' ∧ Calm s' ∧ s'.environment = s.environment := by
  have hsoft := h s hcalm
  rcases ht s hs with ⟨a, s', hrun, hQ⟩ | ⟨s', hrun, -⟩
  · rw [hrun] at hsoft
    exact ⟨a, s', hrun, hQ, hsoft⟩
  · rw [hrun] at hsoft
    exact hsoft.elim

/-- An application that is expected to run. -/
def expected (p : ProcessAttribute) : ProcessAttribute := { p with exceptRunnig := true }

/-- At an entry without a running child, a start makes one call, and the entry is expected to run.
-/
theorem triple_startLoop_idle (hat : ps[i]? = some q) (is : List ℕ) :
    Triple (Idle i ps cs) (startLoop q.uuid (i :: is))
      (fun _ => Tables (ps.modify i expected) (cs ++ [q.startCall]))
      (Tables ps (cs ++ [q.startCall])) := by
  intro s hs
  obtain ⟨q', hq', hidle⟩ := hs.idle
  have hlt := (List.getElem?_eq_some_iff.mp hat).1
  have huuid : q'.uuid = q.uuid := by
    obtain ⟨q'', hq'', rfl⟩ := hs.entry hat
    obtain rfl := Option.some.inj (hq'.symm.trans hq'')
    rfl
  have hrun : running i s = .done false s := askChild_idle hq' hidle
  rw [startLoop, bind_done (by rw [instanceAt, hq']), bind_done hrun, if_pos huuid, bind_done hrun]
  refine triple_bind (triple_spawn hat) (fun _ => ?_) s hs.toTables
  refine triple_bind ((tables_tolerates hlt).askChild _ _) fun _ => triple_bind (Q := fun _ =>
    Tables (ps.modify i expected) (cs ++ [q.startCall])) (fun t ht => ?_) fun _ =>
      triple_pure fun _ ht => ht
  exact .inl ⟨(), _, modifyAt_run (ht.length ▸ hlt) _,
    ht.modify (f := expected) (g := expected) (fun _ => rfl) i⟩

/-- **An application that has just been registered is started**, and expected to run from then on.
-/
theorem startProcess_new (hs : Idle ps.length (ps ++ [q]) cs s) (hnew : q.uuid ∉ ps.map (·.uuid))
    (hcalm : Calm s) : ∃ b s', startProcess q.uuid s = .done b s' ∧
      Tables (ps ++ [expected q]) (cs ++ [q.startCall]) s' ∧ Calm s' ∧
        s'.environment = s.environment := by
  have hrange : List.range s.instances.length = List.range ps.length ++ [ps.length] := by
    rw [hs.length, List.length_append, List.length_singleton, List.range_succ]
  have hskip : Triple (Idle ps.length (ps ++ [q]) cs) (startLoop q.uuid (List.range ps.length))
      (fun b s => b = false ∧ Idle ps.length (ps ++ [q]) cs s) (Idle ps.length (ps ++ [q]) cs) := by
    refine triple_startLoop_others _ (fun j hj => ?_) fun j hj t ht p hp he => hnew ?_
    · have hlt := List.mem_range.mp hj
      exact idle_tolerates (by rw [List.length_append]; omega) (Nat.ne_of_lt hlt)
    · have hlt := List.mem_range.mp hj
      have hfixed : ps[j]? = some p.fixed := by
        rw [← List.getElem?_append_left hlt, ← ht.table, table, List.getElem?_map, hp,
          Option.map_some]
      exact List.mem_map.mpr ⟨p.fixed, List.mem_of_getElem? hfixed, he⟩
  obtain ⟨b, t, hrun, ⟨rfl, ht⟩, hcalm', henv⟩ := (soft_startLoop q.uuid _).run hskip hs hcalm
  have hat : (ps ++ [q])[ps.length]? = some q := List.getElem?_concat_length
  obtain ⟨b', s', hrun', hs', hcalm'', henv'⟩ :=
    (soft_startLoop q.uuid _).run (triple_startLoop_idle hat []) ht hcalm'
  have hmodify : (ps ++ [q]).modify ps.length expected = ps ++ [expected q] :=
    modify_entry expected q
  refine ⟨b', s', tryCatch_done ?_, hmodify ▸ hs', hcalm'', henv'.trans henv⟩
  rw [bind_done (show get s = .done s s from rfl), hrange, startLoop_append, bind_done hrun]
  exact hrun'

/-- The entry of an application of the file. -/
def entryOf (environment : List (String × String)) (p : NodeInfo.Process) : ProcessAttribute where
  exceptRunnig := p.keepLive || p.state = 2
  launchCmd := cmdOf p
  uuid := uuidOf p
  workPath := str p.addParas1
  env := environment

/-- The starts that the file asks for. -/
def startsOf (environment : List (String × String)) (ps : List NodeInfo.Process) : List Call :=
  (ps.filter (·.state = 2)).map fun p => (entryOf environment p).startCall

/-- The entry as it is registered. -/
def newEntry (s : State) (p : NodeInfo.Process) : ProcessAttribute :=
  newProcess s (uuidOf p) (str p.addParas1) (cmdOf p) p.keepLive

theorem entryOf_eq (s : State) (p : NodeInfo.Process) : entryOf s.environment p =
    if p.state = 2 then expected (newEntry s p) else newEntry s p := by
  rw [entryOf]
  split_ifs with hstate
  · rw [decide_eq_true hstate, Bool.or_true]
    rfl
  · rw [decide_eq_false hstate, Bool.or_false]
    rfl

theorem registered_of_tables (hs : Tables ps cs s) : registered s = ps.map (·.uuid) := by
  rw [← hs.table, table, List.map_map]
  rfl

/-- The state in which an application is registered. -/
theorem idle_newEntry (p : NodeInfo.Process) (hs : Tables ps cs s) :
    Idle ps.length (ps ++ [newEntry s p]) cs
      { s with instances := s.instances ++ [newEntry s p] } where
  table := by
    show (s.instances ++ [newEntry s p]).map ProcessAttribute.fixed = _
    rw [List.map_append, ← ProcessManager.table, hs.table]
    rfl
  calls := hs.calls
  idle := ⟨newEntry s p, hs.length ▸ List.getElem?_concat_length, fun _ => Child.noConfusion⟩

/-- **One application**, which is not registered. -/
theorem selfStartOne_run (p : NodeInfo.Process) (hs : Tables ps cs s) (hcalm : Calm s)
    (hnew : uuidOf p ∉ ps.map (·.uuid)) : ∃ s', selfStartOne p s = .done () s' ∧
      Tables (ps ++ [entryOf s.environment p]) (cs ++ startsOf s.environment [p]) s' ∧ Calm s' ∧
        s'.environment = s.environment := by
  have hadd : addProcess (uuidOf p) (str p.addParas1) (cmdOf p) p.keepLive s =
      .done true { s with instances := s.instances ++ [newEntry s p] } := by
    rw [addProcess_eq, if_neg (registered_of_tables hs ▸ hnew)]
    rfl
  have hidle := idle_newEntry p hs
  rw [selfStartOne, bind_done hadd, entryOf_eq]
  by_cases hstate : p.state = 2
  · obtain ⟨b, s', hrun, hs', hcalm', henv⟩ := startProcess_new hidle hnew hcalm
    have hstarts : startsOf s.environment [p] = [(newEntry s p).startCall] := by
      simp only [startsOf, hstate, decide_true, List.filter_cons_of_pos, List.filter_nil,
        List.map_singleton]
      rfl
    rw [if_pos hstate, if_pos hstate, hstarts]
    exact ⟨s', bind_done hrun, hs', hcalm', henv⟩
  · have hstarts : startsOf s.environment [p] = [] := by simp [startsOf, hstate]
    rw [if_neg hstate, if_neg hstate, hstarts, List.append_nil]
    exact ⟨_, rfl, hidle.toTables, hcalm, rfl⟩

theorem startsOf_cons (environment : List (String × String)) (p : NodeInfo.Process)
    (ps : List NodeInfo.Process) :
    startsOf environment (p :: ps) = startsOf environment [p] ++ startsOf environment ps := by
  rw [startsOf, startsOf, startsOf, ← List.map_append, ← List.filter_append, List.singleton_append]

theorem selfStartLoop_run : ∀ (new : List NodeInfo.Process) {ps : List ProcessAttribute}
    {cs : List Call} {s : State}, Tables ps cs s → Calm s →
    (ps.map (·.uuid) ++ new.map uuidOf).Nodup → ∃ s', selfStartLoop new s = .done () s' ∧
      Tables (ps ++ new.map (entryOf s.environment)) (cs ++ startsOf s.environment new) s'
  | [], ps, cs, s, hs, _, _ => by
      refine ⟨s, rfl, ?_⟩
      rw [List.map_nil, List.append_nil, startsOf, List.filter_nil, List.map_nil, List.append_nil]
      exact hs
  | p :: new, ps, cs, s, hs, hcalm, hnodup => by
      have hnew : uuidOf p ∉ ps.map (·.uuid) := fun hmem =>
        (List.disjoint_of_nodup_append hnodup) hmem List.mem_cons_self
      obtain ⟨s₁, hrun, hs₁, hcalm₁, henv⟩ := selfStartOne_run p hs hcalm hnew
      have huuids : (ps ++ [entryOf s.environment p]).map (·.uuid) ++ new.map uuidOf =
          ps.map (·.uuid) ++ (p :: new).map uuidOf := by
        rw [List.map_append, List.append_assoc]
        rfl
      obtain ⟨s', hrest, hs'⟩ := selfStartLoop_run new hs₁ hcalm₁ (huuids ▸ hnodup)
      refine ⟨s', (bind_done hrun).trans hrest, ?_⟩
      rw [henv, List.append_assoc, List.append_assoc, ← startsOf_cons] at hs'
      exact hs'

end Calm

/-! ## From the file to the table -/

/-- **A node's file as the table of its applications**: they stand there as the file lists them, and
those with state 2 have been started, one after another.  An application that was started is
expected to run; a `keep_alive` that says otherwise is lost. -/
theorem selfStart_text {d : Ini.Doc} {marked : Bool} (hfits : d.Fits marked)
    {ps : List NodeInfo.Process} (hps : ps.length < 2 ^ 31)
    (hprocess : (settingsOf (Ini.ascii "process") d.calls).Perm (NodeInfo.processSettings ps))
    (hnodup : ((ps.filter (·.path ≠ [])).map uuidOf).Nodup) (environment : List (String × String))
    {answers : List Answer} (hcalm : ∀ a ∈ answers, a.event ≠ .throws) :
    ∃ s', selfStart (NodeInfo.processVec (ofFile (some (d.text marked))))
        (fresh environment answers) = .done () s' ∧
      table s' = (ps.filter (·.path ≠ [])).map (entryOf environment) ∧
      s'.calls = startsOf environment (ps.filter (·.path ≠ [])) := by
  have hs : Tables [] [] (fresh environment answers) := ⟨rfl, rfl⟩
  obtain ⟨s', hrun, hs'⟩ := selfStartLoop_run (ps.filter (·.path ≠ [])) hs hcalm hnodup
  rw [NodeInfo.processVec_text hfits hps hprocess]
  exact ⟨s', tryCatch_done hrun, hs'.table, hs'.calls⟩

/-- Three applications with a path, of which two are started; a child ends, and others get their
process ids. -/
theorem selfStart_edgeNode :
    let answers : List Answer := [⟨.quiet, 71⟩, ⟨.exits, 0⟩, ⟨.quiet, 72⟩]
    let entry (uuid launchCmd : String) (exceptRunnig : Bool) : ProcessAttribute :=
      { exceptRunnig, launchCmd, uuid, workPath := "/opt", env := [("LANG", "C")] }
    ∃ s', selfStart (NodeInfo.processVec (ofFile (some (NodeInfo.edgeNode.text true))))
        (fresh [("LANG", "C")] answers) = .done () s' ∧
      table s' = [entry "/opt cam-app" "cam-app " true, entry "/opt log-app" "log-app " false,
        entry "/opt rd -p 9" "rd -p 9" true] ∧
      s'.calls = [.start "/opt cam-app" "cam-app " "/opt" (some [("LANG", "C")]),
        .start "/opt rd -p 9" "rd -p 9" "/opt" (some [("LANG", "C")])] := by
  intro answers entry
  obtain ⟨s', hrun, htable, hcalls⟩ := selfStart_text NodeInfo.fits_edgeNode (by decide)
    NodeInfo.process_edgeNode (by decide) [("LANG", "C")]
    (by decide : ∀ a ∈ answers, a.event ≠ .throws)
  exact ⟨s', hrun, htable.trans (by decide), hcalls.trans (by decide)⟩

end NodeCmdWorker

end Sadip

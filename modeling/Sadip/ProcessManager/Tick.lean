import Sadip.Machinery.Run
import Sadip.ProcessManager

/-!
# ProcessManager/Tick — one tick of `listener`, `node/src/ProcessManager.cpp`

A tick looks at every entry once.  What each look is told (`running()` or not) is the pattern of the
tick; an entry that is expected to run and is told not to is *wanted*, and is started once through
`start_process`, which looks at the entries before it on its way.  A start may fail; the looks
return.  Every entry fares as it should (`listenerLoop_run`), but the result of the tick is
overwritten at each entry, so that it speaks of the last one only: `ticks_iff`.
-/

namespace Sadip

namespace ProcessManager

open Imperative Imperative.Prog

/-- The entry, less its child. -/
def ProcessAttribute.fixed (p : ProcessAttribute) : ProcessAttribute := { p with child := .none }

/-- The table, less the children. -/
def table (s : State) : List ProcessAttribute := s.instances.map ProcessAttribute.fixed

/-- The start of an entry. -/
def ProcessAttribute.startCall (p : ProcessAttribute) : Call :=
  .start p.uuid p.launchCmd p.workPath (if p.env.isEmpty then none else some p.env)

/-- The flag `listener` sets in an entry. -/
def ProcessAttribute.flagged (b : Bool) (p : ProcessAttribute) : ProcessAttribute :=
  { p with exceptionFlag := b }

def ProcessAttribute.counted (p : ProcessAttribute) : ProcessAttribute :=
  { p with rebootCount := p.rebootCount + 1 }

/-- What a tick does with an entry, less its child. -/
def ProcessAttribute.ticked (p : ProcessAttribute) : Bool → ProcessAttribute
  | true => (p.flagged true).counted
  | false => p.flagged false

/-- The entry at `i` is expected to run, and is not running in the pattern `r`. -/
def wanted (ps : List ProcessAttribute) (r : ℕ → Bool) (i : ℕ) : Bool :=
  ps[i]?.any (·.exceptRunnig) && !r i

/-- The starts of the entries at these positions. -/
def starts (ps : List ProcessAttribute) (is : List ℕ) : List Call :=
  is.filterMap fun i => ps[i]?.map ProcessAttribute.startCall

/-- The body of the loop of `listener`. -/
def look (i : ℕ) : Prog State Bool := do
  let p ← instanceAt i
  if !(← running i) && p.exceptRunnig then do
    modifyAt i (.flagged true)
    let _ ← startProcess p.uuid
    modifyAt i .counted
    pure true
  else do
    modifyAt i (.flagged false)
    pure false

/-- The looks at the entries before `i` that a restart of the entry at `i` begins with. -/
def approach (uuid : String) (i : ℕ) : Prog State Bool := do
  let _ ← running i
  modifyAt i (.flagged true)
  startLoop uuid (List.range i)

/-- The look at `i` is told what the pattern says, and the looks of a restart return. -/
structure Reports (r : ℕ → Bool) (s : State) (i : ℕ) : Prop where
  told : ∃ s', running i s = .done (r i) s'
  passed : ∀ p, s.instances[i]? = some p → wanted s.instances r i → ¬ Throws (approach p.uuid i) s

/-- In the tick that begins here, the children run or have exited as the pattern says. -/
def Pattern (r : ℕ → Bool) (s : State) : Prop :=
  Run.Meets (fun s i => (look i s).state) (Reports r) s (List.range s.instances.length)

/-- What a tick is for: one start of each wanted entry and of no other, counted there and nowhere
else, and a result that tells whether there was one. -/
structure Ticks (r : ℕ → Bool) (s s' : State) (b : Bool) : Prop where
  returns : b = true ↔ ∃ i, wanted s.instances r i
  counted : table s' = (table s).mapIdx fun i p => p.ticked (wanted s.instances r i)
  started : s'.calls = s.calls ++
    starts s.instances ((List.range s.instances.length).filter (wanted s.instances r))

theorem listenerLoop_cons (i : ℕ) (is : List ℕ) (e : Bool) :
    listenerLoop (i :: is) e = look i >>= listenerLoop is := by
  rw [listenerLoop, look, bind_assoc]
  congr 1
  funext p
  rw [bind_assoc]
  congr 1
  funext b
  by_cases h : (!b && p.exceptRunnig) = true
  · simp only [if_pos h, bind_assoc, pure_bind]
    rfl
  · simp only [if_neg h, bind_assoc, pure_bind]
    rfl

variable {s s' : State} {i : ℕ} {uuid : String} {p : ProcessAttribute} {ps : List ProcessAttribute}
  {cs : List Call} {r : ℕ → Bool}

/-! ## What a look leaves alone -/

theorem modify_of_fixed {g : ProcessAttribute → ProcessAttribute} (hat : ps[i]? = some p)
    (hg : g p = p) : ps.modify i g = ps := by
  refine List.ext_getElem? fun j => ?_
  rw [List.getElem?_modify]
  by_cases hj : i = j
  · subst hj
    simp [hat, hg]
  · simp [hj]

/-- The table, less the children, and the calls made. -/
structure Tables (ps : List ProcessAttribute) (cs : List Call) (s : State) : Prop where
  table : table s = ps
  calls : s.calls = cs

theorem Tables.length (h : Tables ps cs s) : s.instances.length = ps.length := by
  rw [← h.table, ProcessManager.table, List.length_map]

theorem Tables.entry (h : Tables ps cs s) (hat : ps[i]? = some p) :
    ∃ q, s.instances[i]? = some q ∧ q.fixed = p := by
  rw [← h.table, ProcessManager.table, List.getElem?_map] at hat
  exact Option.map_eq_some_iff.mp hat

theorem Tables.modify {f g : ProcessAttribute → ProcessAttribute} (h : Tables ps cs s)
    (hfg : ∀ p, (f p).fixed = g p.fixed) (i : ℕ) :
    Tables (ps.modify i g) cs { s with instances := s.instances.modify i f } :=
  ⟨(map_modify hfg s.instances i).trans (congrArg (List.modify · i g) h.table), h.calls⟩

theorem Tables.child (h : Tables ps cs s) (i : ℕ) (c : Child) :
    Tables ps cs { s with instances := s.instances.modify i fun p => { p with child := c } } := by
  have := h.modify (f := fun p => { p with child := c }) (g := id) (fun _ => rfl) i
  rwa [List.modify_id] at this

theorem tables_tolerates (h : i < ps.length) : Tolerates (Tables ps cs) i where
  live _ hs := hs.length ▸ h
  child _ c hs _ := hs.child _ c
  answers _ _ hs := ⟨hs.table, hs.calls⟩

/-- Moreover, the child at `i` is not running. -/
structure Idle (i : ℕ) (ps : List ProcessAttribute) (cs : List Call) (s : State) : Prop
    extends Tables ps cs s where
  idle : ∃ q, s.instances[i]? = some q ∧ ∀ pid, q.child ≠ .alive pid

theorem idle_tolerates {j : ℕ} (h : j < ps.length) (hne : j ≠ i) : Tolerates (Idle i ps cs) j where
  live _ hs := hs.length ▸ h
  child s c hs _ := by
    obtain ⟨q, hq, hidle⟩ := hs.idle
    refine ⟨hs.child j c, q, ?_, hidle⟩
    exact (List.getElem?_modify_ne _ _ hne).trans hq
  answers _ _ hs := ⟨⟨hs.table, hs.calls⟩, hs.idle⟩

/-- A child that is told not to run is gone. -/
theorem exists_idle (hrun : running i s = .done false s') (hat : s.instances[i]? = some p) :
    ∃ q, s'.instances[i]? = some q ∧ ∀ pid, q.child ≠ .alive pid := by
  by_cases hp : ∃ pid, p.child = .alive pid
  · obtain ⟨pid, hpid⟩ := hp
    rw [running, askChild_alive true false hat hpid] at hrun
    rcases he : (s.answers.headD {}).event
    all_goals rw [he] at hrun; cases hrun
    exact ⟨{ p with child := .exited pid }, by simp [hat], by simp⟩
  · have hidle : ∀ pid, p.child ≠ .alive pid := fun pid hpid => hp ⟨pid, hpid⟩
    rw [running, askChild_idle hat hidle] at hrun
    cases hrun
    exact ⟨p, hat, hidle⟩

/-! ## A restart -/

theorem startLoop_append (uuid : String) : ∀ is js : List ℕ, startLoop uuid (is ++ js)
    = startLoop uuid is >>= fun b => if b then pure true else startLoop uuid js
  | [], js => rfl
  | i :: is, js => by
      rw [List.cons_append, startLoop, startLoop, bind_assoc]
      congr 1
      funext p
      rw [bind_assoc]
      congr 1
      funext _
      by_cases hp : p.uuid = uuid
      · simp only [if_pos hp, bind_assoc]
        congr 1
        funext b
        cases b
        · simp only [Bool.not_false, if_true, bind_assoc]
          rfl
        · exact startLoop_append uuid is js
      · simp only [if_neg hp]
        exact startLoop_append uuid is js

/-- Entries of other uuids are looked at and passed. -/
theorem triple_startLoop_others {I : State → Prop} : ∀ is : List ℕ, (∀ j ∈ is, Tolerates I j) →
    (∀ j ∈ is, ∀ s, I s → ∀ q, s.instances[j]? = some q → q.uuid ≠ uuid) →
    Triple I (startLoop uuid is) (fun b s => b = false ∧ I s) I
  | [], _, _ => triple_pure fun _ hs => ⟨rfl, hs⟩
  | j :: is, htol, hne => by
      have ih := triple_startLoop_others is (fun k hk => htol k (List.mem_cons_of_mem j hk))
        fun k hk => hne k (List.mem_cons_of_mem j hk)
      have hj := htol j List.mem_cons_self
      intro s hs
      have hat := List.getElem?_eq_getElem (hj.live s hs)
      have hno := hne j List.mem_cons_self s hs _ hat
      rw [startLoop, bind_done (instanceAt_run (hj.live s hs))]
      simp only [if_neg hno]
      exact triple_bind (hj.askChild _ _) (fun _ => ih) s hs

/-- What follows the call of a start. -/
def launch (i : ℕ) : Prog State Unit := do
  let a ← nextAnswer
  if a.event = .throws then throw
  else modifyAt i fun p => { p with child := .alive a.pid }

theorem spawn_eq (i : ℕ) :
    spawn i = instanceAt i >>= fun p => logCall p.startCall >>= fun _ => launch i := rfl

theorem keeps_launch (h : i < ps.length) : Keeps (Tables ps cs) (launch i) :=
  keeps_bind (fun _ ht => .inl ⟨_, _, rfl, ⟨ht.table, ht.calls⟩⟩) fun a =>
    keeps_ite (fun _ => keeps_throw) fun _ _ ht =>
      .inl ⟨(), _, modifyAt_run (ht.length ▸ h) _, ht.child i (.alive a.pid)⟩

theorem triple_spawn (hat : ps[i]? = some p) : Triple (Tables ps cs) (spawn i)
    (fun _ => Tables ps (cs ++ [p.startCall])) (Tables ps (cs ++ [p.startCall])) := by
  intro s hs
  obtain ⟨q, hq, rfl⟩ := hs.entry hat
  have hlt := (List.getElem?_eq_some_iff.mp hat).1
  have hlog : logCall q.startCall s = .done () { s with calls := s.calls ++ [q.startCall] } := rfl
  have hlogged : Tables ps (cs ++ [q.startCall]) { s with calls := s.calls ++ [q.startCall] } :=
    ⟨hs.table, by rw [hs.calls]⟩
  rw [spawn_eq, bind_done (by rw [instanceAt, hq]), bind_done hlog]
  exact keeps_launch hlt _ hlogged

/-- **At the entry it is for, a restart makes one start**, whether that succeeds or not. -/
theorem triple_startLoop_entry (hat : ps[i]? = some p) (hp : p.exceptRunnig = true) (is : List ℕ) :
    Triple (Idle i ps cs) (startLoop p.uuid (i :: is))
      (fun _ => Tables ps (cs ++ [p.startCall])) (Tables ps (cs ++ [p.startCall])) := by
  intro s hs
  obtain ⟨q, hq, hidle⟩ := hs.idle
  have hlt := (List.getElem?_eq_some_iff.mp hat).1
  have huuid : q.uuid = p.uuid := by
    obtain ⟨q', hq', rfl⟩ := hs.entry hat
    obtain rfl := Option.some.inj (hq.symm.trans hq')
    rfl
  have hrun : running i s = .done false s := askChild_idle hq hidle
  rw [startLoop, bind_done (by rw [instanceAt, hq]), bind_done hrun, if_pos huuid, bind_done hrun]
  have hexpected : ∀ t, Tables ps (cs ++ [p.startCall]) t → Tables ps (cs ++ [p.startCall])
      { t with instances := t.instances.modify i fun p => { p with exceptRunnig := true } } := by
    intro t ht
    have := ht.modify (f := fun p => { p with exceptRunnig := true })
      (g := fun p => { p with exceptRunnig := true }) (fun _ => rfl) i
    rwa [modify_of_fixed hat (by rw [← hp])] at this
  refine triple_bind (triple_spawn hat) (fun _ => ?_) s hs.toTables
  exact keeps_bind ((tables_tolerates hlt).askChild _ _) fun _ => keeps_bind
    (fun t ht => .inl ⟨(), _, modifyAt_run (ht.length ▸ hlt) _, hexpected t ht⟩)
    fun _ => keeps_pure _

/-- **The restart of an expected entry makes one start**, if the looks on its way return. -/
theorem startProcess_run (hs : Idle i ps cs s) (hat : ps[i]? = some p) (hp : p.exceptRunnig = true)
    (hnodup : (ps.map (·.uuid)).Nodup) (hpass : ¬ Throws (startLoop p.uuid (List.range i)) s) :
    ∃ b s', startProcess p.uuid s = .done b s' ∧ Tables ps (cs ++ [p.startCall]) s' := by
  obtain ⟨hlt, rfl⟩ := List.getElem?_eq_some_iff.mp hat
  obtain ⟨m, hm⟩ := Nat.exists_eq_add_of_lt hlt
  have hrange : List.range s.instances.length = List.range i ++ i :: List.range' (i + 1) m := by
    rw [hs.length, hm, Nat.add_assoc, range_split]
  have hskip : Triple (Idle i ps cs) (startLoop ps[i].uuid (List.range i))
      (fun b s => b = false ∧ Idle i ps cs s) (Idle i ps cs) :=
        triple_startLoop_others (List.range i)
    (fun j hj => idle_tolerates (Nat.lt_trans (List.mem_range.mp hj) hlt)
      (Nat.ne_of_lt (List.mem_range.mp hj)))
    fun j hj t ht q hq he => by
      have hq' : ps[j]? = some q.fixed := by
        rw [← ht.table, table, List.getElem?_map, hq, Option.map_some]
      have hjlt := (List.getElem?_eq_some_iff.mp hq').1
      have hsame : (ps.map (·.uuid))[j]? = (ps.map (·.uuid))[i]? := by
        rw [List.getElem?_map, List.getElem?_map, hq', List.getElem?_eq_getElem hlt]
        exact congrArg some he
      have hjlen : j < (ps.map (·.uuid)).length := by simpa using hjlt
      exact Nat.ne_of_lt (List.mem_range.mp hj) ((List.getElem?_inj hjlen hnodup).mp hsame)
  have hentry : Triple (Idle i ps cs) (startLoop ps[i].uuid (i :: List.range' (i + 1) m)) _ _ :=
    triple_startLoop_entry hat hp (List.range' (i + 1) m)
  rcases hskip s hs with ⟨b, t, hrun, rfl, ht⟩ | ⟨t, hrun, -⟩
  · have hloop : startLoop ps[i].uuid (List.range s.instances.length) s
        = startLoop ps[i].uuid (i :: List.range' (i + 1) m) t := by
      rw [hrange, startLoop_append, bind_done hrun]
      rfl
    rcases hentry t ht with ⟨b, s', hrun', hs'⟩ | ⟨s', hrun', hs'⟩
    · exact ⟨b, s', tryCatch_done (hloop.trans hrun'), hs'⟩
    · exact ⟨false, s', tryCatch_thrown (hloop.trans hrun'), hs'⟩
  · exact absurd ⟨t, hrun⟩ hpass

/-! ## A look -/

theorem wanted_table (s : State) (r : ℕ → Bool) (i : ℕ) :
    wanted (table s) r i = wanted s.instances r i := by
  rw [wanted, wanted, table, List.getElem?_map, Option.any_map]
  rfl

theorem running_run (hs : Tables ps cs s) (hi : i < ps.length) {b : Bool}
    (hrun : running i s = .done b s') : Tables ps cs s' := by
  rcases (tables_tolerates hi).askChild true false s hs with ⟨b', t, hrun', ht⟩ | ⟨t, hrun', -⟩
  · rw [running, hrun'] at hrun
    cases hrun
    exact ht
  · rw [running, hrun'] at hrun
    cases hrun

theorem Tables.modifyAt (hs : Tables ps cs s) (hi : i < ps.length)
    {f : ProcessAttribute → ProcessAttribute} (hf : ∀ p, (f p).fixed = f p.fixed) :
    ∃ s', modifyAt i f s = .done () s' ∧ Tables (ps.modify i f) cs s' :=
  ⟨_, modifyAt_run (hs.length ▸ hi) f, hs.modify hf i⟩

/-- An entry that is running, or need not, only has its flag taken away. -/
theorem look_unwanted (hs : Tables ps cs s) (hat : ps[i]? = some p) (h : Reports r s i)
    (hno : wanted ps r i = false) :
    ∃ s', look i s = .done false s' ∧ Tables (ps.modify i (·.ticked false)) cs s' := by
  obtain ⟨q, hq, rfl⟩ := hs.entry hat
  have hlt := (List.getElem?_eq_some_iff.mp hat).1
  obtain ⟨s₁, hrun⟩ := h.told
  obtain ⟨s', hrun', hs'⟩ := (running_run hs hlt hrun).modifyAt hlt
    (f := ProcessAttribute.flagged false) fun _ => rfl
  have hcond : ¬ (!r i && q.exceptRunnig) = true := by
    rw [wanted, hat, Option.any_some, Bool.and_comm] at hno
    exact ne_true_of_eq_false hno
  refine ⟨s', ?_, hs'⟩
  rw [look, bind_done (by rw [instanceAt, hq]), bind_done hrun, if_neg hcond, bind_done hrun']
  rfl

/-- A wanted entry is flagged, started once and counted. -/
theorem look_wanted (hs : Tables ps cs s) (hat : ps[i]? = some p) (hnodup : (ps.map (·.uuid)).Nodup)
    (h : Reports r s i) (hyes : wanted ps r i = true) :
    ∃ s', look i s = .done true s' ∧
      Tables (ps.modify i (·.ticked true)) (cs ++ [p.startCall]) s' := by
  obtain ⟨q, hq, rfl⟩ := hs.entry hat
  have hlt := (List.getElem?_eq_some_iff.mp hat).1
  have hcond : (!r i && q.exceptRunnig) = true := by
    rw [wanted, hat, Option.any_some, Bool.and_comm] at hyes
    exact hyes
  obtain ⟨hri, hp⟩ := Bool.and_eq_true_iff.mp hcond
  obtain ⟨s₁, hrun⟩ := h.told
  rw [show r i = false by simpa using hri] at hrun
  obtain ⟨q₁, hq₁, hidle⟩ := exists_idle hrun hq
  have hs₁ := running_run hs hlt hrun
  have hrun₂ := modifyAt_run (hs₁.length ▸ hlt) (ProcessAttribute.flagged true)
  have hready : Idle i (ps.modify i (.flagged true)) cs
      { s₁ with instances := s₁.instances.modify i (.flagged true) } :=
    ⟨hs₁.modify (g := .flagged true) (fun _ => rfl) i, q₁.flagged true, by simp [hq₁], hidle⟩
  have hat₂ : (ps.modify i (.flagged true))[i]? = some (q.fixed.flagged true) := by
    rw [List.getElem?_modify_eq, hat]
    rfl
  have hnodup₂ : ((ps.modify i (.flagged true)).map (·.uuid)).Nodup := by
    rwa [map_modify_of_eq (f := ProcessAttribute.flagged true) fun _ => rfl]
  have hpass : ¬ Throws (startLoop q.uuid (List.range i)) _ := fun ht => by
    refine h.passed q hq ?_ ((throws_bind_done hrun).mpr ((throws_bind_done hrun₂).mpr ht))
    rwa [← wanted_table, hs.table]
  obtain ⟨b, s₃, hrun₃, hs₃⟩ : ∃ b s₃, startProcess q.uuid _ = .done b s₃ ∧
      Tables (ps.modify i (.flagged true)) (cs ++ [q.fixed.startCall]) s₃ :=
    startProcess_run (p := q.fixed.flagged true) hready hat₂ hp hnodup₂ hpass
  obtain ⟨s', hrun₄, hs'⟩ := hs₃.modifyAt (by simpa using hlt)
    (f := ProcessAttribute.counted) fun _ => rfl
  refine ⟨s', ?_, ?_⟩
  · rw [look, bind_done (by rw [instanceAt, hq]), bind_done hrun]
    simp only [Bool.not_false, Bool.true_and, if_pos hp]
    rw [bind_done hrun₂, bind_done hrun₃, bind_done hrun₄]
    rfl
  · rw [List.modify_modify_eq] at hs'
    exact hs'

/-- **One look**: a start is made if the entry is wanted, and its end is told by the result. -/
theorem look_run (hs : Tables ps cs s) (hat : ps[i]? = some p) (hnodup : (ps.map (·.uuid)).Nodup)
    (h : Reports r s i) : ∃ s', look i s = .done (wanted ps r i) s' ∧
      Tables (ps.modify i (·.ticked (wanted ps r i)))
        (cs ++ if wanted ps r i then [p.startCall] else []) s' := by
  rcases hb : wanted ps r i
  · simpa using look_unwanted hs hat h hb
  · simpa using look_wanted hs hat hnodup h hb

/-! ## A tick -/

/-- What the looks at these entries make of the table. -/
def tick (w : ℕ → Bool) (ps : List ProcessAttribute) (is : List ℕ) : List ProcessAttribute :=
  is.foldl (fun qs i => qs.modify i (·.ticked (w i))) ps

theorem wanted_modify {f : ProcessAttribute → ProcessAttribute}
    (hf : ∀ p, (f p).exceptRunnig = p.exceptRunnig) (ps : List ProcessAttribute) (r : ℕ → Bool)
    (i : ℕ) : wanted (ps.modify i f) r = wanted ps r := by
  have hany : ∀ (qs : List ProcessAttribute) (j : ℕ),
      qs[j]?.any ProcessAttribute.exceptRunnig
        = (qs.map ProcessAttribute.exceptRunnig)[j]?.any id := fun qs j => by
    rw [List.getElem?_map, Option.any_map]
    rfl
  funext j
  rw [wanted, wanted, hany, hany, map_modify_of_eq hf]

theorem starts_modify {f : ProcessAttribute → ProcessAttribute}
    (hf : ∀ p, (f p).startCall = p.startCall) (ps : List ProcessAttribute) (i : ℕ) (is : List ℕ) :
    starts (ps.modify i f) is = starts ps is := by
  rw [starts, starts]
  congr 1
  funext j
  rw [← List.getElem?_map, ← List.getElem?_map, map_modify_of_eq hf]

theorem starts_cons (hat : ps[i]? = some p) (is : List ℕ) :
    starts ps (i :: is) = p.startCall :: starts ps is := by
  rw [starts, List.filterMap_cons, hat]
  rfl

/-- **The loop looks at each entry once**; its result is that of the last look. -/
theorem listenerLoop_run : ∀ (is : List ℕ) {s : State} {ps : List ProcessAttribute} {cs : List Call}
    (e : Bool), (∀ i ∈ is, i < ps.length) → (ps.map (·.uuid)).Nodup → Tables ps cs s →
    Run.Meets (fun s i => (look i s).state) (Reports r) s is →
    ∃ s', listenerLoop is e s = .done ((is.getLast?.map (wanted ps r)).getD e) s' ∧
      Tables (tick (wanted ps r) ps is) (cs ++ starts ps (is.filter (wanted ps r))) s'
  | [], s, ps, cs, e, _, _, hs, _ => ⟨s, rfl, hs.table, by simpa [starts] using hs.calls⟩
  | i :: is, s, ps, cs, e, hlt, hnodup, hs, ⟨hreports, hrest⟩ => by
      have hi := hlt i List.mem_cons_self
      have hat := List.getElem?_eq_getElem hi
      obtain ⟨s₁, hrun, hs₁⟩ := look_run hs hat hnodup hreports
      have hwanted : wanted (ps.modify i (·.ticked (wanted ps r i))) r = wanted ps r :=
        wanted_modify (fun p => by cases wanted ps r i <;> rfl) ps r i
      have hnodup₁ : ((ps.modify i (·.ticked (wanted ps r i))).map (·.uuid)).Nodup := by
        rwa [map_modify_of_eq fun p => by cases wanted ps r i <;> rfl]
      obtain ⟨s', hrun', hs'⟩ := listenerLoop_run is (wanted ps r i)
        (fun j hj => by simpa using hlt j (List.mem_cons_of_mem i hj)) hnodup₁ hs₁
        (hrest s₁ (congrArg Result.state hrun))
      rw [hwanted] at hrun' hs'
      refine ⟨s', ?_, hs'.table, ?_⟩
      · rw [listenerLoop_cons, bind_done hrun, hrun', List.getLast?_cons]
        rcases is.getLast? with - | j <;> rfl
      · rw [hs'.calls, starts_modify fun p => by cases wanted ps r i <;> rfl, List.append_assoc]
        congr 1
        rcases hb : wanted ps r i
        · rw [List.filter_cons_of_neg (by simp [hb])]
          rfl
        · rw [List.filter_cons_of_pos hb, starts_cons hat]
          rfl

/-- The looks at the first `n` entries change each of them once. -/
theorem tick_range (w : ℕ → Bool) (ps : List ProcessAttribute) : ∀ n : ℕ, tick w ps (List.range n)
    = ps.mapIdx fun i p => if i < n then p.ticked (w i) else p
  | 0 => List.ext_getElem? fun j => by simp [tick]
  | n + 1 => by
      have ih := tick_range w ps n
      rw [tick] at ih
      refine List.ext_getElem? fun j => ?_
      rw [List.range_succ, tick, List.foldl_append, ih, List.foldl_cons, List.foldl_nil,
        List.getElem?_modify, List.getElem?_mapIdx, List.getElem?_mapIdx]
      rcases ps[j]? with - | p
      · rfl
      · by_cases hj : n = j
        · subst hj
          simp
        · have hlt : j < n + 1 ↔ j < n := by omega
          simp [hj, hlt]

theorem getLast?_range_map (w : ℕ → Bool) (h : ∀ i, w i → i < n) :
    ((List.range n).getLast?.map w).getD false = w (n - 1) := by
  rcases n with - | n
  · exact (Bool.eq_false_iff.mpr fun h0 => absurd (h 0 h0) (Nat.not_lt_zero 0)).symm
  · rw [List.range_succ, List.getLast?_concat]
    rfl

theorem lt_of_wanted (h : wanted ps r i) : i < ps.length := by
  rw [wanted, Bool.and_eq_true] at h
  by_contra hi
  rw [List.getElem?_eq_none (Nat.le_of_not_lt hi)] at h
  exact absurd h.1 Bool.false_ne_true

/-- **What a tick does**: every entry fares as it should, and the result is that of the last. -/
theorem listener_run (hnodup : (registered s).Nodup) (h : Pattern r s) :
    ∃ s', listener s = .done (wanted s.instances r (s.instances.length - 1)) s' ∧
      table s' = (table s).mapIdx (fun i p => p.ticked (wanted s.instances r i)) ∧
      s'.calls = s.calls ++
        starts s.instances ((List.range s.instances.length).filter (wanted s.instances r)) := by
  have hnodup' : ((table s).map (·.uuid)).Nodup := by rwa [table, List.map_map]
  have hlength : (table s).length = s.instances.length := List.length_map _
  obtain ⟨s', hrun, hs'⟩ := listenerLoop_run (List.range s.instances.length) false
    (fun i hi => by rw [hlength]; exact List.mem_range.mp hi) hnodup' ⟨rfl, rfl⟩ h
  have hwanted : wanted (table s) r = wanted s.instances r := funext (wanted_table s r)
  have hstarts : ∀ is, starts (table s) is = starts s.instances is := fun is => by
    rw [starts, starts]
    congr 1
    funext i
    rw [table, List.getElem?_map, Option.map_map]
    rfl
  rw [hwanted, getLast?_range_map _ fun i => lt_of_wanted] at hrun
  refine ⟨s', hrun, ?_, ?_⟩
  · rw [hs'.table, hwanted, tick_range]
    refine List.ext_getElem (by simp) fun j hj _ => ?_
    rw [List.length_mapIdx, hlength] at hj
    rw [List.getElem_mapIdx, List.getElem_mapIdx, if_pos hj]
  · rw [hs'.calls, hwanted, hstarts]

/-- **When the result of a tick is right.**  Every tick starts and counts the wanted entries, and
says that there was one exactly when the last entry is wanted, so that all is as it should be when
no entry is wanted, or the last one is. -/
theorem ticks_iff (hnodup : (registered s).Nodup) (h : Pattern r s) :
    (∃ b s', listener s = .done b s' ∧ Ticks r s s' b) ↔
      ((∃ i, wanted s.instances r i) → wanted s.instances r (s.instances.length - 1)) := by
  obtain ⟨s', hrun, htable, hcalls⟩ := listener_run hnodup h
  constructor
  · rintro ⟨b, t, ht, hticks⟩ hex
    rw [hrun] at ht
    cases ht
    exact hticks.returns.mpr hex
  · intro hlast
    exact ⟨_, s', hrun, ⟨fun hb => ⟨_, hb⟩, hlast⟩, htable, hcalls⟩

/-- An application that has exited although it is expected to run, and one that is running. -/
def oneExited (exitedFirst : Bool) : State where
  instances :=
    let exited : ProcessAttribute :=
      { exceptRunnig := true, launchCmd := "a ", uuid := "./ a", workPath := "./", env := []
        child := .exited 101 }
    let live : ProcessAttribute :=
      { exceptRunnig := true, launchCmd := "b ", uuid := "./ b", workPath := "./", env := []
        child := .alive 102 }
    if exitedFirst then [exited, live] else [live, exited]
  environment := []
  answers := []
  calls := []

/-- The pattern of these tables. -/
def onlyRuns (i : ℕ) (j : ℕ) : Bool := i == j

theorem pattern_exitedLast : Pattern (onlyRuns 0) (oneExited false) := by
  refine ⟨⟨⟨_, rfl⟩, ?_⟩, fun s₁ hs₁ => ?_⟩
  · rintro p hp hwanted -
    exact absurd hwanted (by decide)
  · obtain rfl := Option.some.inj hs₁
    refine ⟨⟨⟨_, rfl⟩, ?_⟩, fun _ _ => trivial⟩
    rintro p hp - ⟨t, ht⟩
    cases hp
    cases ht

/-- An application that has exited and stands last is restarted and reported… -/
theorem ticks_exitedLast : ∃ b s', listener (oneExited false) = .done b s' ∧
    Ticks (onlyRuns 0) (oneExited false) s' b :=
  (ticks_iff (by decide) pattern_exitedLast).mpr fun _ => by decide

theorem pattern_exitedFirst : Pattern (onlyRuns 1) (oneExited true) := by
  refine ⟨⟨⟨_, rfl⟩, ?_⟩, fun s₁ hs₁ => ?_⟩
  · rintro p hp - ⟨t, ht⟩
    cases hp
    cases ht
  · obtain rfl := Option.some.inj hs₁
    refine ⟨⟨⟨_, rfl⟩, ?_⟩, fun _ _ => trivial⟩
    rintro p hp hwanted -
    exact absurd hwanted (by decide)

/-- …**and one that stands first is restarted, and not reported.** -/
theorem not_ticks_exitedFirst : ¬ ∀ (r : ℕ → Bool) (s : State), (registered s).Nodup → Pattern r s →
    ∃ b s', listener s = .done b s' ∧ Ticks r s s' b := by
  intro h
  obtain ⟨b, s', hrun, hticks⟩ := h _ _ (by decide) pattern_exitedFirst
  obtain ⟨t, ht⟩ : ∃ t, listener (oneExited true) = .done false t := ⟨_, rfl⟩
  rw [ht] at hrun
  cases hrun
  exact absurd (hticks.returns.mpr ⟨0, by decide⟩) Bool.false_ne_true

end ProcessManager

end Sadip

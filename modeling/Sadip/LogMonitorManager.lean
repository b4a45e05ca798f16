import Mathlib.Logic.Function.Basic
import Sadip.Machinery.Run

/-!
# LogMonitorManager — which logs are followed, `node/src/LogMonitorManager.cpp`

The manager keeps a `LogMonitor` for each path; `LogMonitor::startMonitoring` starts a detached
thread with a pointer to it, `LogMonitor::run`, which clears the stop flag when it begins and looks
at it in every round.  `stopMonitoring` sets the flag and destroys the monitor.  Nothing knows about
a thread once it is started.

An object that is gone is no longer in `object`, and whoever touches it has undefined behaviour; so
does a process in which an exception leaves `run`, as far as this module goes (`crashed`).
-/

namespace Sadip

namespace LogMonitorManager

/-! ## The manager and the threads -/

abbrev ObjId := ℕ

abbrev ThreadId := ℕ

inductive Phase
  /-- started, and not yet in `run` -/
  | spawned
  | running
  | ended
  deriving DecidableEq

/-- A thread on a path, with its pointer. -/
structure Thread where
  path : String
  obj : ObjId
  phase : Phase
  deriving DecidableEq

structure State where
  _monitors : String → Option ObjId
  /-- the `_stop` of each object that there is -/
  object : ObjId → Option Bool
  nextObject : ObjId
  thread : ThreadId → Option Thread
  nextThread : ThreadId
  crashed : Bool

def init : State where
  _monitors _ := none
  object _ := none
  nextObject := 0
  thread _ := none
  nextThread := 0
  crashed := false

namespace State

variable (s : State)

/-- `LogMonitor::startMonitoring` -/
def spawn (path : String) (o : ObjId) : State :=
  { s with
    thread := Function.update s.thread s.nextThread (some ⟨path, o, .spawned⟩)
    nextThread := s.nextThread + 1 }

/-- `LogMonitorManager::startMonitoring` -/
def startMonitoring (filePath : String) : State :=
  match s._monitors filePath with
  | some o => s.spawn filePath o
  | none =>
      { s with
        _monitors := Function.update s._monitors filePath (some s.nextObject)
        object := Function.update s.object s.nextObject (some false)
        nextObject := s.nextObject + 1 }.spawn filePath s.nextObject

/-- `LogMonitorManager::stopMonitoring`: `_stop` is set, and the object destroyed. -/
def stopMonitoring (filePath : String) : State :=
  match s._monitors filePath with
  | some o =>
      { s with
        _monitors := Function.update s._monitors filePath none
        object := Function.update s.object o none }
  | none => s

def setThread (i : ThreadId) (t : Thread) : State :=
  { s with thread := Function.update s.thread i (some t) }

/-- `run` up to its loop: `_stop` is cleared, and the file opened. -/
def enter (i : ThreadId) (t : Thread) (opened : Bool) : State :=
  match s.object t.obj, opened with
  | some _, true =>
      { s with object := Function.update s.object t.obj (some false) }.setThread i
        { t with phase := .running }
  | _, _ => { s with crashed := true }

/-- The condition of a loop of `run`. -/
def poll (i : ThreadId) (t : Thread) : State :=
  match s.object t.obj with
  | some true => s.setThread i { t with phase := .ended }
  | some false => s
  | none => { s with crashed := true }

end State

inductive Event
  | startMonitoring (filePath : String)
  | stopMonitoring (filePath : String)
  /-- a thread comes into `run`, and can open the file or not -/
  | enter (i : ThreadId) (opened : Bool)
  /-- a thread looks at `_stop` -/
  | poll (i : ThreadId)
  /-- an exception leaves `run` -/
  | raise (i : ThreadId)

def State.act (s : State) : Event → Option State
  | .startMonitoring filePath => some (s.startMonitoring filePath)
  | .stopMonitoring filePath => some (s.stopMonitoring filePath)
  | .enter i opened =>
      match s.thread i with
      | some t => if t.phase = .spawned then some (s.enter i t opened) else none
      | none => none
  | .poll i =>
      match s.thread i with
      | some t => if t.phase = .running then some (s.poll i t) else none
      | none => none
  | .raise i =>
      match s.thread i with
      | some t => if t.phase = .running then some { s with crashed := true } else none
      | none => none

def step (s : State) (e : Event) : Option State := if s.crashed then none else s.act e

/-! ## One thread for each path -/

/-- Thread `i` is one of the path, and has not ended. -/
def Live (s : State) (path : String) (i : ThreadId) : Prop :=
  ∃ t, s.thread i = some t ∧ t.path = path ∧ t.phase ≠ .ended

/-- **A path has at most one thread, one while it is monitored, and once it is not, each of its
threads finds `_stop` set.** -/
structure OneTail (s : State) : Prop where
  safe : s.crashed = false
  atMostOne : ∀ path i j, Live s path i → Live s path j → i = j
  one : ∀ path, s._monitors path ≠ none → ∃ i, Live s path i
  requested : ∀ path i t, s._monitors path = none → s.thread i = some t → t.path = path →
    t.phase ≠ .ended → s.object t.obj = some true

/-- A path is started once and not stopped, and `run` gets no exception. -/
def Once (s : State) : Event → Prop
  | .startMonitoring filePath => s._monitors filePath = none
  | .stopMonitoring filePath => s._monitors filePath = none
  | .enter i opened => ∀ t, s.thread i = some t → t.phase = .spawned → opened = true
  | .poll _ => True
  | .raise i => ∀ t, s.thread i = some t → t.phase ≠ .running

/-- Threads and monitored paths are the same, and no flag is set. -/
structure Inv (s : State) : Prop where
  safe : s.crashed = false
  monitored : ∀ i t, s.thread i = some t →
    s._monitors t.path = some t.obj ∧ s.object t.obj = some false ∧ t.phase ≠ .ended
  atMostOne : ∀ i j t u, s.thread i = some t → s.thread j = some u → t.path = u.path → i = j
  one : ∀ path o, s._monitors path = some o → ∃ i t, s.thread i = some t ∧ t.path = path
  fresh : ∀ i t, s.thread i = some t → i < s.nextThread

variable {s s' : State} {e : Event} {i : ThreadId} {t : Thread} {filePath : String}

theorem inv_init : Inv init where
  safe := rfl
  monitored _ _ h := by cases h
  atMostOne _ _ _ _ h := by cases h
  one _ _ h := by cases h
  fresh _ _ h := by cases h

theorem Inv.oneTail (h : Inv s) : OneTail s where
  safe := h.safe
  atMostOne := by
    rintro path i j ⟨t, hi, ht, -⟩ ⟨u, hj, hu, -⟩
    exact h.atMostOne i j t u hi hj (ht.trans hu.symm)
  one path hpath := by
    obtain ⟨o, ho⟩ := Option.ne_none_iff_exists'.mp hpath
    obtain ⟨i, t, hi, ht⟩ := h.one path o ho
    exact ⟨i, t, hi, ht, (h.monitored i t hi).2.2⟩
  requested path i t hpath hi ht _ := by
    have hmon := (h.monitored i t hi).1
    rw [ht, hpath] at hmon
    cases hmon

/-! ## One step -/

theorem Inv.start (h : Inv s) (hpath : s._monitors filePath = none) :
    Inv (s.startMonitoring filePath) := by
  have hs' : s.startMonitoring filePath = { s with
      _monitors := Function.update s._monitors filePath (some s.nextObject)
      object := Function.update s.object s.nextObject (some false)
      nextObject := s.nextObject + 1 }.spawn filePath s.nextObject := by
    rw [State.startMonitoring, hpath]
  have hold : ∀ i t, (s.startMonitoring filePath).thread i = some t → i ≠ s.nextThread →
      s.thread i = some t ∧ t.path ≠ filePath := by
    intro i t hi hne
    rw [hs', State.spawn] at hi
    have hi' : s.thread i = some t := (Function.update_of_ne hne ..).symm.trans hi
    refine ⟨hi', fun he => ?_⟩
    have hmon := (h.monitored i t hi').1
    rw [he, hpath] at hmon
    cases hmon
  have hnew : ∀ t, (s.startMonitoring filePath).thread s.nextThread = some t →
      t = ⟨filePath, s.nextObject, .spawned⟩ := by
    intro t ht
    rw [hs', State.spawn] at ht
    exact Option.some.inj (ht.symm.trans (Function.update_self ..))
  have hobject : ∀ o, s.object o = some false →
      (s.startMonitoring filePath).object o = some false := by
    intro o ho
    rw [hs']
    show Function.update s.object s.nextObject (some false) o = some false
    by_cases he : o = s.nextObject
    · rw [he, Function.update_self]
    · rw [Function.update_of_ne he, ho]
  have hmonitors : (s.startMonitoring filePath)._monitors =
      Function.update s._monitors filePath (some s.nextObject) := by
    rw [hs']
    rfl
  refine ⟨?_, fun i t hi => ?_, fun i j t u hi hj hpaths => ?_, fun path o ho => ?_,
    fun i t hi => ?_⟩
  · rw [hs']
    exact h.safe
  · by_cases hne : i = s.nextThread
    · subst hne
      obtain rfl := hnew t hi
      refine ⟨?_, ?_, by simp⟩
      · rw [hmonitors, Function.update_self]
      · rw [hs']
        exact Function.update_self ..
    · obtain ⟨hi', hp⟩ := hold i t hi hne
      obtain ⟨hmon, hobj, hphase⟩ := h.monitored i t hi'
      exact ⟨by rw [hmonitors, Function.update_of_ne hp, hmon], hobject _ hobj, hphase⟩
  · by_cases hni : i = s.nextThread <;> by_cases hnj : j = s.nextThread
    · rw [hni, hnj]
    · subst hni
      obtain rfl := hnew t hi
      exact absurd hpaths.symm (hold j u hj hnj).2
    · subst hnj
      obtain rfl := hnew u hj
      exact absurd hpaths (hold i t hi hni).2
    · exact h.atMostOne i j t u (hold i t hi hni).1 (hold j u hj hnj).1 hpaths
  · by_cases hp : path = filePath
    · subst hp
      refine ⟨s.nextThread, ⟨path, s.nextObject, .spawned⟩, ?_, rfl⟩
      rw [hs']
      exact Function.update_self ..
    · rw [hmonitors, Function.update_of_ne hp] at ho
      obtain ⟨i, t, hi, ht⟩ := h.one path o ho
      refine ⟨i, t, ?_, ht⟩
      rw [hs']
      exact (Function.update_of_ne (Nat.ne_of_lt (h.fresh i t hi)) ..).trans hi
  · have hnext : (s.startMonitoring filePath).nextThread = s.nextThread + 1 := by
      rw [hs']
      rfl
    rw [hnext]
    by_cases hne : i = s.nextThread
    · rw [hne]
      exact Nat.lt_succ_self _
    · exact Nat.lt_succ_of_lt (h.fresh i t (hold i t hi hne).1)

/-- A thread that comes into `run` changes only its phase. -/
theorem Inv.enter (h : Inv s) (hi : s.thread i = some t) : Inv (s.enter i t true) := by
  obtain ⟨hmon, hobj, -⟩ := h.monitored i t hi
  have hsame : Function.update s.object t.obj (some false) = s.object := by
    rw [← hobj, Function.update_eq_self]
  have hs' : s.enter i t true = s.setThread i { t with phase := .running } := by
    simp only [State.enter, hobj, hsame]
  have hthread : ∀ j u, (s.enter i t true).thread j = some u → ∃ v, s.thread j = some v ∧
      v.path = u.path ∧ v.obj = u.obj ∧ u.phase ≠ .ended := by
    intro j u hj
    rw [hs', State.setThread] at hj
    by_cases hne : j = i
    · subst hne
      have hu : u = { t with phase := .running } := by simpa using hj.symm
      exact ⟨t, hi, by rw [hu], by rw [hu], by simp [hu]⟩
    · have hj' : s.thread j = some u := (Function.update_of_ne hne ..).symm.trans hj
      exact ⟨u, hj', rfl, rfl, (h.monitored j u hj').2.2⟩
  refine ⟨by rw [hs']; exact h.safe, fun j u hj => ?_, fun j k u v hj hk hpaths => ?_,
    fun path o ho => ?_, fun j u hj => ?_⟩
  · obtain ⟨v, hv, hp, ho, hphase⟩ := hthread j u hj
    obtain ⟨hm, hb, -⟩ := h.monitored j v hv
    rw [hs', ← hp, ← ho]
    exact ⟨hm, hb, hphase⟩
  · obtain ⟨u', hu', hpu, -⟩ := hthread j u hj
    obtain ⟨v', hv', hpv, -⟩ := hthread k v hk
    exact h.atMostOne j k u' v' hu' hv' (by rw [hpu, hpv, hpaths])
  · rw [hs'] at ho ⊢
    obtain ⟨j, u, hj, hu⟩ := h.one path o ho
    by_cases hne : j = i
    · subst hne
      obtain rfl := Option.some.inj (hi.symm.trans hj)
      exact ⟨j, { t with phase := .running }, Function.update_self .., hu⟩
    · exact ⟨j, u, (Function.update_of_ne hne ..).trans hj, hu⟩
  · obtain ⟨v, hv, -⟩ := hthread j u hj
    rw [hs']
    exact h.fresh j v hv

theorem step_of_safe (hsafe : s.crashed = false) : step s e = s.act e :=
  if_neg (by simp [hsafe])

/-- **A step that the condition allows keeps the invariant.** -/
theorem inv_step (h : Inv s) (honce : Once s e) (hstep : step s e = some s') : Inv s' := by
  rw [step_of_safe h.safe] at hstep
  rcases e with filePath | filePath | ⟨i, opened⟩ | i | i
  case startMonitoring =>
    obtain rfl := Option.some.inj hstep
    exact h.start honce
  case stopMonitoring =>
    have hs' : s.stopMonitoring filePath = s := by
      rw [State.stopMonitoring, show s._monitors filePath = none from honce]
    obtain rfl := Option.some.inj hstep
    rw [hs']
    exact h
  all_goals
    rcases hi : s.thread i with - | t <;> simp only [State.act, hi] at hstep
    · cases hstep
  case enter =>
    obtain ⟨hp, hs'⟩ := Option.ite_none_right_eq_some.mp hstep
    obtain rfl := Option.some.inj hs'
    rw [honce t hi hp]
    exact h.enter hi
  case poll =>
    obtain ⟨hp, hs'⟩ := Option.ite_none_right_eq_some.mp hstep
    obtain rfl := Option.some.inj hs'
    rw [State.poll, (h.monitored i t hi).2.1]
    exact h
  case raise =>
    obtain ⟨hp, -⟩ := Option.ite_none_right_eq_some.mp hstep
    exact absurd hp (honce t hi)

/-- **A step that it does not allow breaks the law.** -/
theorem once_of_oneTail (h : Inv s) (hlaw : ∀ s', step s e = some s' → OneTail s') : Once s e := by
  rw [step_of_safe h.safe] at hlaw
  rcases e with filePath | filePath | ⟨i, opened⟩ | i | i
  case startMonitoring =>
    refine Option.eq_none_iff_forall_not_mem.mpr fun o ho => ?_
    obtain ⟨i, t, hi, ht⟩ := h.one filePath o ho
    have hone := hlaw _ rfl
    have hs' : s.startMonitoring filePath = s.spawn filePath o := by
      rw [State.startMonitoring, show s._monitors filePath = some o from ho]
    rw [hs'] at hone
    have hne : i ≠ s.nextThread := Nat.ne_of_lt (h.fresh i t hi)
    refine hne (hone.atMostOne filePath i s.nextThread ⟨t, ?_, ht, (h.monitored i t hi).2.2⟩
      ⟨⟨filePath, o, .spawned⟩, Function.update_self .., rfl, by simp⟩)
    exact (Function.update_of_ne hne ..).trans hi
  case stopMonitoring =>
    refine Option.eq_none_iff_forall_not_mem.mpr fun o ho => ?_
    obtain ⟨i, t, hi, ht⟩ := h.one filePath o ho
    obtain ⟨hmon, -, hphase⟩ := h.monitored i t hi
    have hone := hlaw _ rfl
    have hs' : s.stopMonitoring filePath = { s with
        _monitors := Function.update s._monitors filePath none
        object := Function.update s.object o none } := by
      rw [State.stopMonitoring, show s._monitors filePath = some o from ho]
    rw [hs'] at hone
    have hset := hone.requested filePath i t (Function.update_self ..) hi ht hphase
    obtain rfl : t.obj = o := Option.some.inj (hmon.symm.trans (ht ▸ ho))
    have hgone : Function.update s.object t.obj none t.obj = none := Function.update_self ..
    exact absurd (hgone.symm.trans hset) (by simp)
  case poll => trivial
  case enter =>
    intro t hi hp
    simp only [State.act, hi, if_pos hp] at hlaw
    have hsafe := (hlaw _ rfl).safe
    cases opened
    · simp [State.enter] at hsafe
    · rfl
  case raise =>
    intro t hi hp
    simp only [State.act, hi, if_pos hp] at hlaw
    exact absurd (hlaw _ rfl).safe (by simp)

/-! ## Runs -/

/-- **Each path has its one thread exactly as long as no path is started a second time, or
stopped,** and no exception leaves `run`. -/
theorem oneTail_iff (events : List Event) :
    Run.Obeys step (fun _ _ s' => OneTail s') init events ↔ Run.Meets step Once init events := by
  refine Run.obeys_iff_meets (fun s e h => ?_) (fun s e s' h hstep hlaw => ?_) events init inv_init
  · exact ⟨once_of_oneTail h, fun honce s' hstep => (inv_step h honce hstep).oneTail⟩
  · exact inv_step h (once_of_oneTail h fun s'' hs'' =>
      Option.some.inj (hstep.symm.trans hs'') ▸ hlaw) hstep

/-- A log is started twice. -/
def startedTwice : List Event := [.startMonitoring "a", .startMonitoring "a"]

/-- A log is started, and stopped once its thread is there. -/
def stopped : List Event := [.startMonitoring "a", .enter 0 true, .stopMonitoring "a"]

/-- **Two threads follow one file; and a thread whose log is stopped goes on with a flag that is
gone.** -/
theorem not_oneTail :
    (∃ s, Run.run step init startedTwice = some s ∧ Live s "a" 0 ∧ Live s "a" 1) ∧
    ∃ s, Run.run step init stopped = some s ∧ s.thread 0 = some ⟨"a", 0, .running⟩ ∧
      s.object 0 = none ∧ ∃ s', step s (.poll 0) = some s' ∧ s'.crashed = true :=
  ⟨⟨_, rfl, ⟨_, rfl, rfl, by decide⟩, ⟨_, rfl, rfl, by decide⟩⟩, _, rfl, rfl, rfl, _, rfl, rfl⟩

end LogMonitorManager

end Sadip

import Mathlib.Data.List.Basic
import Sadip.Rd

/-!
# Rd/Reconnect — the handler of a lost connection, `db/rd/rd.cpp`

The handler calls `checkConnections`, whose loop asks every session of the pool whether it is
connected and reconnects those that are not.  Before the loop it waits for `isUsing_`, which its own
operation has set and clears only after the handler.  It is reached when the operation of another
thread ends in time and clears the flag for both (`reconnects_iff`); while no operation ends, no
session is asked (`unreached_of_no_end`), and the handler gives up.
-/

namespace Sadip

namespace Rd

/-! ## The loop of a check -/

/-- What the loop of a call of `checkConnections` has done: the answers of the sessions so far, and
the positions of those it has tried to reconnect. -/
structure Check where
  is_connected : List Bool
  reconnect : List ℕ

/-- One round.  Both callers leave `needReconnect` at `true`. -/
def Check.round (c : Check) (connected : Bool) : Check where
  is_connected := c.is_connected ++ [connected]
  reconnect := if connected then c.reconnect else c.reconnect ++ [c.is_connected.length]

structure Pool (Tid : Type*) extends State Tid where
  /-- of the last call of `checkConnections` -/
  check : Tid → Check

def initPool {Tid : Type*} : Pool Tid where
  toState := init
  check _ := ⟨[], []⟩

inductive PoolEvent (Tid : Type*)
  | flags (e : Event Tid)
  /-- a round of the loop, under `mutex_` -/
  | session (t : Tid) (connected : Bool)

variable {Tid : Type*} [DecidableEq Tid]

/-- The calls of `checkConnections`. -/
def called (check : Tid → Check) : Event Tid → Tid → Check
  | .checkConnections t => Function.update check t ⟨[], []⟩
  | .lost t => Function.update check t ⟨[], []⟩
  | _ => check

section

variable (dbType_ : ℤ) (maxConn_ : ℕ)

/-- The loop is for MySQL only. -/
def Looping (p : Phase) (c : Check) : Prop :=
  p.checks = true ∧ dbType_ = 1 ∧ c.is_connected.length < maxConn_

instance (p : Phase) (c : Check) : Decidable (Looping dbType_ maxConn_ p c) :=
  inferInstanceAs (Decidable (_ ∧ _ ∧ _))

def poolStep (s : Pool Tid) : PoolEvent Tid → Option (Pool Tid)
  | .flags (.finish t) =>
      if Looping dbType_ maxConn_ (s.phase t) (s.check t) then none
      else (step s.toState (.finish t)).map fun s' => { s with toState := s' }
  | .flags e => (step s.toState e).map fun s' => ⟨s', called s.check e⟩
  | .session t connected =>
      if Looping dbType_ maxConn_ (s.phase t) (s.check t) then
        some { s with check := Function.update s.check t ((s.check t).round connected) }
      else none

/-! ## What the handler is for -/

/-- Every session has been asked, and the reconnect step reached for each that is not connected. -/
structure Reconnected (c : Check) : Prop where
  asked : c.is_connected.length = maxConn_
  reached : ∀ i, c.is_connected[i]? = some false ↔ i ∈ c.reconnect

/-- So it is whenever a handler has returned, and the call that failed has not. -/
def Reconnects (s : Pool Tid) : Prop := ∀ t, s.phase t = .handled → Reconnected maxConn_ (s.check t)

/-- No handler finds `isUsing_` set once too often, and the pool is one of MySQL sessions. -/
def InTime (s : Pool Tid) : PoolEvent Tid → Prop
  | .flags (.wait t) => ∀ n, s.phase t = .checkWait true n → s.isUsing_ = true →
      n + 1 ≤ MAX_WAIT_ATTEMPTS ∨ maxConn_ = 0
  | .flags (.finish t) => s.phase t = .checking true → dbType_ = 1 ∨ maxConn_ = 0
  | _ => True

/-- What a thread in this phase has done in its last check. -/
def Sound (c : Check) : Phase → Prop
  | .checkWait true _ => c = ⟨[], []⟩
  | .checkPassed true => c = ⟨[], []⟩
  | .checking true => Reconnected c.is_connected.length c ∧ c.is_connected.length ≤ maxConn_ ∧
      (dbType_ ≠ 1 → c.is_connected = [])
  | .handled => Reconnected maxConn_ c
  | _ => True

end

def Event.thread : Event Tid → Tid
  | .excuteSql t => t
  | .checkConnections t => t
  | .wait t => t
  | .set t => t
  | .lost t => t
  | .finish t => t

def PoolEvent.thread : PoolEvent Tid → Tid
  | .flags e => e.thread
  | .session t _ => t

variable {dbType_ : ℤ} {maxConn_ n : ℕ} {c : Check} {p : Phase} {t u : Tid} {s s' : Pool Tid}
  {e : PoolEvent Tid}

/-! ## The loop -/

theorem reconnected_nil : Reconnected 0 ⟨[], []⟩ := ⟨rfl, fun i => by simp⟩

theorem Reconnected.round (h : Reconnected n c) (b : Bool) : Reconnected (n + 1) (c.round b) where
  asked := by rw [Check.round, List.length_append, h.asked, List.length_singleton]
  reached i := by
    have hlt : i ∈ c.reconnect → i < c.is_connected.length := fun hi =>
      (List.getElem?_eq_some_iff.mp ((h.reached i).mpr hi)).1
    rcases Nat.lt_trichotomy i c.is_connected.length with hi | hi | hi
    · rw [Check.round, List.getElem?_append_left hi, h.reached]
      cases b
      · simp [Nat.ne_of_lt hi]
      · rfl
    · subst hi
      have hnot : c.is_connected.length ∉ c.reconnect := fun hmem => lt_irrefl _ (hlt hmem)
      cases b <;> simp [Check.round, hnot]
    · have hnot : i ∉ c.reconnect := fun hmem => lt_asymm hi (hlt hmem)
      have hnone : (c.is_connected ++ [b])[i]? = none :=
        List.getElem?_eq_none (by rw [List.length_append, List.length_singleton]; exact hi)
      rw [Check.round, hnone]
      cases b
      · simp [hnot, Nat.ne_of_gt hi]
      · simp [hnot]

/-- The other threads stay where they are. -/
theorem phase_of_step {r r' : State Tid} {e : Event Tid} (hstep : step r e = some r')
    (hu : u ≠ e.thread) : r'.phase u = r.phase u := by
  rcases e with t | t | t | t | t | t
  case excuteSql | checkConnections | lost =>
    obtain ⟨-, hs'⟩ := Option.ite_none_right_eq_some.mp hstep
    obtain rfl := Option.some.inj hs'
    exact goto_phase_of_ne hu
  case wait | set | finish =>
    rw [step] at hstep
    rcases hp : r.phase t with - | n | - | - | - | ⟨nested, n⟩ | nested | nested <;>
      simp only [hp] at hstep
    all_goals cases hstep <;> exact goto_phase_of_ne hu

theorem called_of_ne {check : Tid → Check} {e : Event Tid} (hu : u ≠ e.thread) :
    called check e u = check u := by
  rcases e with t | t | t | t | t | t
  case checkConnections | lost => exact Function.update_of_ne hu ..
  case excuteSql | wait | set | finish => rfl

/-! ## One step of the pool -/

theorem poolStep_flags {e : Event Tid} (he : ∀ t, e ≠ .finish t) :
    poolStep dbType_ maxConn_ s (.flags e) =
      (step s.toState e).map fun s' => ⟨s', called s.check e⟩ := by
  rcases e with t | t | t | t | t | t
  case finish => exact absurd rfl (he t)
  all_goals rfl

theorem poolStep_finish (hstep : poolStep dbType_ maxConn_ s (.flags (.finish t)) = some s') :
    ¬ Looping dbType_ maxConn_ (s.phase t) (s.check t) ∧
      step s.toState (.finish t) = some s'.toState ∧ s'.check = s.check := by
  rw [poolStep] at hstep
  obtain ⟨hloop, hs'⟩ := Option.ite_none_left_eq_some.mp hstep
  obtain ⟨r, hr, rfl⟩ := Option.map_eq_some_iff.mp hs'
  exact ⟨hloop, hr, rfl⟩

theorem step_of_poolStep {e : Event Tid}
    (hstep : poolStep dbType_ maxConn_ s (.flags e) = some s') :
    step s.toState e = some s'.toState := by
  by_cases he : ∃ t, e = .finish t
  · obtain ⟨t, rfl⟩ := he
    exact (poolStep_finish hstep).2.1
  · rw [poolStep_flags fun t ht => he ⟨t, ht⟩] at hstep
    obtain ⟨r, hr, rfl⟩ := Option.map_eq_some_iff.mp hstep
    exact hr

theorem poolStep_session {b : Bool}
    (hstep : poolStep dbType_ maxConn_ s (.session t b) = some s') :
    Looping dbType_ maxConn_ (s.phase t) (s.check t) ∧ s'.toState = s.toState ∧
      s'.check = Function.update s.check t ((s.check t).round b) := by
  rw [poolStep] at hstep
  obtain ⟨hloop, hs'⟩ := Option.ite_none_right_eq_some.mp hstep
  obtain rfl := Option.some.inj hs'
  exact ⟨hloop, rfl, rfl⟩

theorem frame (hstep : poolStep dbType_ maxConn_ s e = some s') (hu : u ≠ e.thread) :
    s'.phase u = s.phase u ∧ s'.check u = s.check u := by
  rcases e with e | ⟨t, b⟩
  · by_cases he : ∃ t, e = .finish t
    · obtain ⟨t, rfl⟩ := he
      obtain ⟨-, hr, hc⟩ := poolStep_finish hstep
      exact ⟨phase_of_step hr hu, congrFun hc u⟩
    · rw [poolStep_flags fun t ht => he ⟨t, ht⟩] at hstep
      obtain ⟨r, hr, rfl⟩ := Option.map_eq_some_iff.mp hstep
      exact ⟨phase_of_step hr hu, called_of_ne hu⟩
  · obtain ⟨-, hs, hc⟩ := poolStep_session hstep
    rw [hs, hc]
    exact ⟨rfl, Function.update_of_ne hu ..⟩

/-- Where a step leaves its thread: it is as it should be, or a handler has returned, and has
reached what it is for if the step was in time. -/
def Arrives (dbType_ : ℤ) (maxConn_ : ℕ) (c : Check) (p : Phase) (inTime : Prop) : Prop :=
  p = .handled ∧ (Reconnected maxConn_ c ↔ inTime) ∨ Sound dbType_ maxConn_ c p ∧ inTime

theorem reconnected_nil_iff : Reconnected maxConn_ ⟨[], []⟩ ↔ maxConn_ = 0 :=
  ⟨fun h => h.asked.symm, fun h => h ▸ reconnected_nil⟩

/-- The handler gives up when it has found the flag set once too often. -/
theorem arrives_checkWait (hs : Sound dbType_ maxConn_ c (.checkWait true n)) (isUsing : Bool) :
    Arrives dbType_ maxConn_ c
      (waitForOperation isUsing n (.checkWait true) .handled (.checkPassed true))
      (isUsing = true → n + 1 ≤ MAX_WAIT_ATTEMPTS ∨ maxConn_ = 0) := by
  cases isUsing
  · exact .inr ⟨hs, fun h => by cases h⟩
  · by_cases hn : n + 1 > MAX_WAIT_ATTEMPTS
    · rw [waitForOperation, if_pos rfl, if_pos hn, show c = ⟨[], []⟩ from hs]
      refine .inl ⟨rfl, reconnected_nil_iff.trans ⟨fun h _ => .inr h, fun h => ?_⟩⟩
      exact (h rfl).resolve_left (Nat.not_le.mpr hn)
    · rw [waitForOperation, if_pos rfl, if_neg hn]
      exact .inr ⟨hs, fun _ => .inl (Nat.not_lt.mp hn)⟩

theorem arrives_wait (hs : Sound dbType_ maxConn_ (s.check t) (s.phase t))
    (hstep : step s.toState (.wait t) = some s'.toState) (hc : s'.check = s.check) :
    Arrives dbType_ maxConn_ (s'.check t) (s'.phase t)
      (InTime dbType_ maxConn_ s (.flags (.wait t))) := by
  rw [step] at hstep
  rcases hp : s.phase t with - | n | - | - | - | ⟨nested, n⟩ | nested | nested <;>
    simp only [hp] at hstep hs
  case usingWait =>
    rw [← Option.some.inj hstep, goto_phase_self]
    refine .inr ⟨?_, fun m hm => ?_⟩
    · rw [waitForOperation]
      split
      · split <;> trivial
      · trivial
    · rw [hp] at hm
      cases hm
  case checkWait =>
    rw [hc, ← Option.some.inj hstep, goto_phase_self]
    cases nested
    · refine .inr ⟨?_, fun m hm => ?_⟩
      · rw [waitForOperation]
        split
        · split <;> trivial
        · trivial
      · rw [hp] at hm
        cases hm
    · have hiff : InTime dbType_ maxConn_ s (.flags (.wait t)) ↔
          (s.isUsing_ = true → n + 1 ≤ MAX_WAIT_ATTEMPTS ∨ maxConn_ = 0) := by
        constructor
        · exact fun h => h n hp
        · intro h m hm
          obtain rfl : n = m := by
            rw [hp] at hm
            cases hm
            rfl
          exact h
      rw [hiff]
      exact arrives_checkWait hs s.isUsing_
  all_goals cases hstep

theorem sound_set (hs : Sound dbType_ maxConn_ (s.check t) (s.phase t))
    (hstep : step s.toState (.set t) = some s'.toState) (hc : s'.check = s.check) :
    Sound dbType_ maxConn_ (s'.check t) (s'.phase t) := by
  rw [step] at hstep
  rcases hp : s.phase t with - | n | - | - | - | ⟨nested, n⟩ | nested | nested <;>
    simp only [hp] at hstep hs
  case usingPassed =>
    rw [← Option.some.inj hstep, goto_phase_self]
    trivial
  case checkPassed =>
    rw [hc, ← Option.some.inj hstep, goto_phase_self]
    cases nested
    · trivial
    · rw [show s.check t = ⟨[], []⟩ from hs]
      exact ⟨reconnected_nil, Nat.zero_le _, fun _ => rfl⟩
  all_goals cases hstep

theorem arrives_finish (hs : Sound dbType_ maxConn_ (s.check t) (s.phase t))
    (hloop : ¬ Looping dbType_ maxConn_ (s.phase t) (s.check t))
    (hstep : step s.toState (.finish t) = some s'.toState) (hc : s'.check = s.check) :
    Arrives dbType_ maxConn_ (s'.check t) (s'.phase t)
      (InTime dbType_ maxConn_ s (.flags (.finish t))) := by
  rw [step] at hstep
  rw [InTime]
  rcases hp : s.phase t with - | n | - | - | - | ⟨nested, n⟩ | nested | nested <;>
    simp only [hp] at hstep hs hloop
  case working | handled =>
    rw [← Option.some.inj hstep, goto_phase_self]
    exact .inr ⟨trivial, fun h => by cases h⟩
  case checking =>
    rw [hc, ← Option.some.inj hstep, goto_phase_self]
    cases nested
    · exact .inr ⟨trivial, fun h => by cases h⟩
    · obtain ⟨hrec, hle, hother⟩ := hs
      refine .inl ⟨rfl, fun h _ => ?_, fun h => ?_⟩
      · by_contra hnot
        obtain ⟨hdb, hmax⟩ := not_or.mp hnot
        exact hmax (h.asked.symm.trans (by rw [hother hdb]; rfl))
      · suffices hlen : maxConn_ ≤ (s.check t).is_connected.length by
          rwa [Nat.le_antisymm hle hlen] at hrec
        rcases h rfl with hdb | hmax
        · exact Nat.not_lt.mp fun hlt => hloop ⟨rfl, hdb, hlt⟩
        · exact hmax ▸ Nat.zero_le _
  all_goals cases hstep

theorem sound_round {b : Bool} (hs : Sound dbType_ maxConn_ c p)
    (hloop : Looping dbType_ maxConn_ p c) : Sound dbType_ maxConn_ (c.round b) p := by
  obtain ⟨hp, hdb, hlt⟩ := hloop
  rcases p with - | n | - | - | - | ⟨nested, n⟩ | nested | nested
  case checking =>
    cases nested
    · trivial
    · have hrec := hs.1.round b
      refine ⟨?_, ?_, fun hne => absurd hdb hne⟩
      · rwa [hrec.asked]
      · rw [hrec.asked]
        exact hlt
  all_goals cases hp

theorem arrives_of_step (hs : Sound dbType_ maxConn_ (s.check e.thread) (s.phase e.thread))
    (hstep : poolStep dbType_ maxConn_ s e = some s') :
    Arrives dbType_ maxConn_ (s'.check e.thread) (s'.phase e.thread)
      (InTime dbType_ maxConn_ s e) := by
  rcases e with e | ⟨t, b⟩
  · rcases e with t | t | t | t | t | t
    case finish =>
      obtain ⟨hloop, hr, hc⟩ := poolStep_finish hstep
      exact arrives_finish hs hloop hr hc
    all_goals
      rw [poolStep_flags (by rintro _ ⟨⟩)] at hstep
      obtain ⟨r, hr, rfl⟩ := Option.map_eq_some_iff.mp hstep
    case wait => exact arrives_wait hs hr rfl
    case set => exact .inr ⟨sound_set hs hr rfl, trivial⟩
    case excuteSql | checkConnections | lost =>
      obtain ⟨-, hs'⟩ := Option.ite_none_right_eq_some.mp hr
      refine .inr ⟨?_, trivial⟩
      obtain rfl := Option.some.inj hs'
      simp [goto_phase_self, PoolEvent.thread, Event.thread, called, Sound]
  · obtain ⟨hloop, hst, hc⟩ := poolStep_session hstep
    refine .inr ⟨?_, trivial⟩
    rw [hst, hc]
    show Sound _ _ (Function.update s.check t _ t) (s.phase t)
    rw [Function.update_self]
    exact sound_round hs hloop

/-- A step that is not taken is in time. -/
theorem inTime_of_none (hstep : poolStep dbType_ maxConn_ s e = none) :
    InTime dbType_ maxConn_ s e := by
  rcases e with e | ⟨t, b⟩
  · rcases e with t | t | t | t | t | t
    case wait =>
      intro n hn
      rw [poolStep_flags (by rintro _ ⟨⟩), step, hn] at hstep
      cases hstep
    case finish =>
      intro hp
      by_cases hloop : Looping dbType_ maxConn_ (s.phase t) (s.check t)
      · exact .inl hloop.2.1
      · rw [poolStep, if_neg hloop, step, hp] at hstep
        cases hstep
    all_goals trivial
  · trivial

def PoolInv (dbType_ : ℤ) (maxConn_ : ℕ) (s : Pool Tid) : Prop :=
  ∀ t, Sound dbType_ maxConn_ (s.check t) (s.phase t)

omit [DecidableEq Tid] in
theorem PoolInv.reconnects (h : PoolInv dbType_ maxConn_ s) : Reconnects maxConn_ s := by
  intro t ht
  have := h t
  rwa [ht] at this

omit [DecidableEq Tid] in
theorem poolInv_initPool : PoolInv dbType_ maxConn_ (initPool : Pool Tid) := fun _ => trivial

/-- **A step that is in time keeps every thread as it should be**, and one that is not does not. -/
theorem reconnects_step_iff (hs : PoolInv dbType_ maxConn_ s)
    (hstep : poolStep dbType_ maxConn_ s e = some s') :
    Reconnects maxConn_ s' ↔ InTime dbType_ maxConn_ s e := by
  constructor
  · intro hrec
    rcases arrives_of_step (hs _) hstep with ⟨hp, hiff⟩ | ⟨-, hin⟩
    · exact hiff.mp (hrec _ hp)
    · exact hin
  · intro hin u hu
    by_cases hne : u = e.thread
    · subst hne
      rcases arrives_of_step (hs _) hstep with ⟨-, hiff⟩ | ⟨hsound, -⟩
      · exact hiff.mpr hin
      · rwa [hu] at hsound
    · obtain ⟨hp, hc⟩ := frame hstep hne
      rw [hp] at hu
      rw [hc]
      exact hs.reconnects u hu

theorem poolInv_step (hs : PoolInv dbType_ maxConn_ s)
    (hstep : poolStep dbType_ maxConn_ s e = some s') (hrec : Reconnects maxConn_ s') :
    PoolInv dbType_ maxConn_ s' := by
  intro u
  by_cases hne : u = e.thread
  · subst hne
    rcases arrives_of_step (hs _) hstep with ⟨hp, -⟩ | ⟨hsound, -⟩
    · rw [hp]
      exact hrec _ hp
    · exact hsound
  · obtain ⟨hp, hc⟩ := frame hstep hne
    rw [hp, hc]
    exact hs u

/-! ## Runs -/

/-- **In every state a run reaches, the handlers that have returned have reached every session**, if
and only if each is in time. -/
theorem reconnects_iff (dbType_ : ℤ) (maxConn_ : ℕ) (events : List (PoolEvent Tid)) :
    Run.Obeys (poolStep dbType_ maxConn_) (fun _ _ s' => Reconnects maxConn_ s') initPool events ↔
      Run.Meets (poolStep dbType_ maxConn_) (InTime dbType_ maxConn_) initPool events := by
  refine Run.obeys_iff_meets (fun s e hs => ⟨fun h => ?_, fun hin s' hstep => ?_⟩)
    (fun s e s' hs hstep hrec => poolInv_step hs hstep hrec) events initPool poolInv_initPool
  · rcases hstep : poolStep dbType_ maxConn_ s e with - | s'
    · exact inTime_of_none hstep
    · exact (reconnects_step_iff hs hstep).mp (h s' hstep)
  · exact (reconnects_step_iff hs hstep).mpr hin

/-- The operation of thread 1 ends while the handler of thread 0 waits. -/
example : (Run.run (poolStep 1 1) (initPool : Pool (Fin 2)) [.flags (.excuteSql 0),
      .flags (.excuteSql 1), .flags (.wait 0), .flags (.wait 1), .flags (.set 0), .flags (.set 1),
      .flags (.lost 0), .flags (.wait 0), .flags (.finish 1), .flags (.wait 0), .flags (.set 0),
      .session 0 false, .flags (.finish 0)]).map (fun s => (s.phase 0, (s.check 0).reconnect)) =
    some (.handled, [0]) := by
  decide

/-! ### A handler on its own -/

/-- A step that ends no operation. -/
def EndsNone (s : Pool Tid) : PoolEvent Tid → Prop
  | .flags (.finish t) => (s.phase t).checks = true
  | _ => True

/-- The handler of `t` has not got past its wait. -/
structure Waits (t : Tid) (s : Pool Tid) : Prop where
  isUsing : s.isUsing_ = true
  unasked : s.check t = ⟨[], []⟩
  phase : (∃ n, s.phase t = .checkWait true n) ∨ s.phase t = .handled

theorem isUsing_of_step {r r' : State Tid} {e : Event Tid} (hstep : step r e = some r')
    (hends : ∀ u, e = .finish u → (r.phase u).checks = true) (hr : r.isUsing_ = true) :
    r'.isUsing_ = true := by
  rcases e with u | u | u | u | u | u
  case excuteSql | checkConnections | lost =>
    obtain ⟨-, hs'⟩ := Option.ite_none_right_eq_some.mp hstep
    obtain rfl := Option.some.inj hs'
    exact hr
  case wait | set =>
    rw [step] at hstep
    rcases hp : r.phase u with - | n | - | - | - | ⟨nested, n⟩ | nested | nested <;>
      simp only [hp] at hstep
    all_goals cases hstep <;> first | exact hr | rfl
  case finish =>
    have hchecks := hends u rfl
    rw [step] at hstep
    rcases hp : r.phase u with - | n | - | - | - | ⟨nested, n⟩ | nested | nested <;>
      simp only [hp] at hstep hchecks
    case checking =>
      obtain rfl := Option.some.inj hstep
      exact hr
    all_goals cases hchecks

/-- A look at the set flag is all the thread can do before its call ends. -/
theorem Waits.look {e : Event Tid} (h : Waits t s) (he : e.thread = t)
    (hends : EndsNone s (.flags e)) {r : State Tid} (hstep : step s.toState e = some r) :
    e = .wait t ∧ ((∃ n, r.phase t = .checkWait true n) ∨ r.phase t = .handled) := by
  subst he
  rcases h.phase with ⟨n, hp⟩ | hp <;> rcases e with t | t | t | t | t | t <;>
    simp only [Event.thread] at hp <;> simp only [step, hp, reduceCtorEq, if_false] at hstep
  case wait =>
    simp only [h.isUsing, waitForOperation, if_true] at hstep
    rw [← Option.some.inj hstep, Event.thread, goto_phase_self]
    refine ⟨rfl, ?_⟩
    split
    · exact .inr rfl
    · exact .inl ⟨n + 1, rfl⟩
  case finish =>
    rw [EndsNone, hp] at hends
    cases hends

/-- Another thread does not move it, as long as the flag is not cleared. -/
theorem Waits.of_step (h : Waits t s) (hends : EndsNone s e)
    (hstep : poolStep dbType_ maxConn_ s e = some s') : Waits t s' := by
  rcases e with e | ⟨u, b⟩
  · have hflags := step_of_poolStep hstep
    have husing : s'.isUsing_ = true :=
      isUsing_of_step hflags (fun u hu => by subst hu; exact hends) h.isUsing
    by_cases hne : t = e.thread
    · obtain ⟨rfl, hphase⟩ := h.look hne.symm hends hflags
      rw [poolStep_flags (by rintro _ ⟨⟩)] at hstep
      obtain ⟨r, -, rfl⟩ := Option.map_eq_some_iff.mp hstep
      exact ⟨husing, h.unasked, hphase⟩
    · obtain ⟨hp, hc⟩ := frame hstep hne
      exact ⟨husing, hc.trans h.unasked, hp ▸ h.phase⟩
  · obtain ⟨hloop, hst, hc⟩ := poolStep_session hstep
    have hne : t ≠ u := by
      rintro rfl
      rcases h.phase with ⟨n, hp⟩ | hp <;> rw [hp] at hloop <;> cases hloop.1
    refine ⟨hst ▸ h.isUsing, ?_, hst ▸ h.phase⟩
    rw [hc, Function.update_of_ne hne]
    exact h.unasked

/-- **While no operation ends, a handler does not get to the sessions**: it waits or has given up.
Its own operation ends after it. -/
theorem unreached_of_no_end (h : Waits t s) (events : List (PoolEvent Tid))
    (hends : Run.Meets (poolStep dbType_ maxConn_) EndsNone s events)
    (hrun : Run.run (poolStep dbType_ maxConn_) s events = some s') : Waits t s' :=
  Run.Meets.invariant (fun _ _ _ h hends hstep => Waits.of_step h hends hstep) events s h hends s'
    hrun

/-- It gives up after one look too many. -/
theorem exists_run_handled : ∀ (k : ℕ) (s : Pool Tid), s.isUsing_ = true →
    ∀ n, s.phase t = .checkWait true n → n + k = MAX_WAIT_ATTEMPTS →
    ∃ s', Run.run (poolStep dbType_ maxConn_) s (.replicate (k + 1) (.flags (.wait t))) = some s' ∧
      s'.phase t = .handled ∧ s'.check = s.check
  | k, s, hs, n, hp, hn => by
      have hstep : poolStep dbType_ maxConn_ s (.flags (.wait t)) = some ⟨s.toState.goto t
          (waitForOperation true n (.checkWait true) .handled (.checkPassed true)), s.check⟩ := by
        rw [poolStep_flags (by rintro _ ⟨⟩), step, hp]
        simp only [hs]
        rfl
      rw [List.replicate_succ, Run.run_cons_of_step hstep]
      cases k with
      | zero =>
          refine ⟨_, rfl, ?_, rfl⟩
          rw [goto_phase_self, waitForOperation, if_pos rfl, if_pos (by omega)]
      | succ k =>
          refine exists_run_handled k _ hs (n + 1) ?_ (by omega)
          rw [goto_phase_self, waitForOperation, if_pos rfl, if_neg (by omega)]

/-- The only thread of the process loses its connection: none of the sessions is asked. -/
theorem not_reconnects : ¬ ∀ (events : List (PoolEvent Unit)) (s : Pool Unit),
    Run.run (poolStep 1 50) initPool events = some s → Reconnects 50 s := by
  intro h
  let begin : List (PoolEvent Unit) :=
    [.flags (.excuteSql ()), .flags (.wait ()), .flags (.set ()), .flags (.lost ())]
  obtain ⟨s, hs, husing, hp, hc⟩ : ∃ s, Run.run (poolStep 1 50) initPool begin = some s ∧
      s.isUsing_ = true ∧ s.phase () = .checkWait true 0 ∧ s.check () = ⟨[], []⟩ :=
    ⟨_, rfl, rfl, rfl, rfl⟩
  obtain ⟨s', hrun, hp', hc'⟩ : ∃ s', Run.run (poolStep 1 50) s
      (.replicate (MAX_WAIT_ATTEMPTS + 1) (.flags (.wait ()))) = some s' ∧
        s'.phase () = .handled ∧ s'.check = s.check :=
    exists_run_handled MAX_WAIT_ATTEMPTS s husing 0 hp (Nat.zero_add _)
  have hfull : Run.run (poolStep 1 50) initPool
      (begin ++ .replicate (MAX_WAIT_ATTEMPTS + 1) (.flags (.wait ()))) = some s' := by
    rw [Run.run_append, hs, Option.bind_some, hrun]
  have hasked := (h _ _ hfull () hp').asked
  rw [hc', hc] at hasked
  cases hasked

end Rd

end Sadip

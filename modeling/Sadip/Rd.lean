import Mathlib.Data.Fintype.Basic
import Mathlib.Logic.Function.Basic
import Sadip.Machinery.Run

/-!
# Rd — connection checks and SQL operations, `db/rd/rd.cpp`

A thread that runs a statement waits for `isCheck_` to be clear and then sets `isUsing_`; one that
checks the connections waits for `isUsing_` and then sets `isCheck_`.  Each clears its own flag when
its `ConnectionGuard` goes.  A statement that fails with a lost connection calls `checkConnections`
while it still has its guard.

A wait and the flag that follows it are two steps, and a flag is cleared by the first of several
users to finish.  As long as neither lets a thread in (`Undisturbed`), checks and operations exclude
each other; a step where one does can be followed by both at once (`exists_overlap`).
-/

namespace Sadip

namespace Rd

/-! ## The flags and the threads -/

/-- Where a thread is.  A check is nested when the handler of a lost connection makes it. -/
inductive Phase
  | idle
  /-- in `waitForOperation(isCheck_)` -/
  | usingWait (attempts : ℕ)
  /-- that has returned `true` -/
  | usingPassed
  /-- has its guard of `isUsing_`, and runs the statement -/
  | working
  /-- the handler of the error has returned -/
  | handled
  /-- in `waitForOperation(isUsing_)` -/
  | checkWait (nested : Bool) (attempts : ℕ)
  | checkPassed (nested : Bool)
  /-- has its guard of `isCheck_`, and checks or reconnects -/
  | checking (nested : Bool)
  deriving DecidableEq

namespace Phase

/-- An SQL operation is in progress: the thread has its guard of `isUsing_`. -/
def operates : Phase → Bool
  | .working => true
  | .handled => true
  | .checkWait nested _ => nested
  | .checkPassed nested => nested
  | .checking nested => nested
  | _ => false

/-- A connection check is in progress. -/
def checks : Phase → Bool
  | .checking _ => true
  | _ => false

/-- The thread is between its wait and its guard. -/
def mayOperate : Phase → Bool
  | .usingPassed => true
  | _ => false

def mayCheck : Phase → Bool
  | .checkPassed _ => true
  | _ => false

end Phase

variable {Tid : Type*} [DecidableEq Tid]

structure State (Tid : Type*) where
  isCheck_ : Bool
  isUsing_ : Bool
  phase : Tid → Phase

def init : State Tid where
  isCheck_ := false
  isUsing_ := false
  phase _ := .idle

def MAX_WAIT_ATTEMPTS : ℕ := 1000

inductive Event (Tid : Type*)
  /-- a thread calls `excuteSql` or `select` -/
  | excuteSql (t : Tid)
  | checkConnections (t : Tid)
  /-- one look at the flag in `waitForOperation` -/
  | wait (t : Tid)
  /-- the constructor of the guard -/
  | set (t : Tid)
  /-- the statement fails with a lost connection -/
  | lost (t : Tid)
  /-- the destructor of the guard -/
  | finish (t : Tid)

def State.goto (s : State Tid) (t : Tid) (p : Phase) : State Tid :=
  { s with phase := Function.update s.phase t p }

/-- One look at a flag: a wait goes on, gives up, or has passed. -/
def waitForOperation (flag : Bool) (attempts : ℕ) (again : ℕ → Phase) (timeout passed : Phase) :
    Phase :=
  if flag then if attempts + 1 > MAX_WAIT_ATTEMPTS then timeout else again (attempts + 1)
    else passed

/-- Where a check leaves its thread. -/
def checked (nested : Bool) : Phase := if nested then .handled else .idle

def step (s : State Tid) : Event Tid → Option (State Tid)
  | .excuteSql t => if s.phase t = .idle then some (s.goto t (.usingWait 0)) else none
  | .checkConnections t => if s.phase t = .idle then some (s.goto t (.checkWait false 0)) else none
  | .wait t =>
      match s.phase t with
      | .usingWait attempts =>
          some (s.goto t (waitForOperation s.isCheck_ attempts .usingWait .idle .usingPassed))
      | .checkWait nested attempts =>
          some (s.goto t (waitForOperation s.isUsing_ attempts (.checkWait nested) (checked nested)
            (.checkPassed nested)))
      | _ => none
  | .set t =>
      match s.phase t with
      | .usingPassed => some ({ s with isUsing_ := true }.goto t .working)
      | .checkPassed nested => some ({ s with isCheck_ := true }.goto t (.checking nested))
      | _ => none
  | .lost t => if s.phase t = .working then some (s.goto t (.checkWait true 0)) else none
  | .finish t =>
      match s.phase t with
      | .working => some ({ s with isUsing_ := false }.goto t .idle)
      | .handled => some ({ s with isUsing_ := false }.goto t .idle)
      | .checking nested => some ({ s with isCheck_ := false }.goto t (checked nested))
      | _ => none

/-! ## Mutual exclusion -/

/-- **No check is in progress while an operation is.** -/
def Exclusive (s : State Tid) : Prop :=
  ∀ t u, ¬ ((s.phase t).operates = true ∧ (s.phase u).checks = true)

/-- No wait is over while something of the other kind is in progress, and nothing of the other kind
is about to begin when a flag is set. -/
def Undisturbed (s : State Tid) : Event Tid → Prop
  | .wait t =>
      match s.phase t with
      | .usingWait _ => s.isCheck_ = false → ∀ u, (s.phase u).checks = false
      | .checkWait _ _ => s.isUsing_ = false → ∀ u, (s.phase u).operates = false
      | _ => True
  | .set t =>
      match s.phase t with
      | .usingPassed => ∀ u, (s.phase u).mayCheck = false
      | .checkPassed _ => ∀ u, (s.phase u).mayOperate = false
      | _ => True
  | _ => True

instance [Fintype Tid] (s : State Tid) (e : Event Tid) : Decidable (Undisturbed s e) := by
  unfold Undisturbed
  split
  · split <;> infer_instance
  · split <;> infer_instance
  · infer_instance

/-- What one thread does, or is about to do, allows what another one does. -/
structure Compatible (p q : Phase) : Prop where
  exclusive : p.operates = true → q.checks = false
  mayOperate : p.mayOperate = true → q.checks = false
  mayCheck : p.mayCheck = true → q.operates = false

/-- A phase that does no more than another one. -/
structure Below (p q : Phase) : Prop where
  operates : p.operates = true → q.operates = true
  checks : p.checks = true → q.checks = true
  mayOperate : p.mayOperate = true → q.mayOperate = true
  mayCheck : p.mayCheck = true → q.mayCheck = true

def Inv (s : State Tid) : Prop := ∀ t u, Compatible (s.phase t) (s.phase u)

variable {s s' : State Tid} {e : Event Tid} {t u : Tid} {p q r : Phase}

theorem Compatible.left (h : Compatible p q) (hr : Below r p) : Compatible r q where
  exclusive hop := h.exclusive (hr.operates hop)
  mayOperate hop := h.mayOperate (hr.mayOperate hop)
  mayCheck hop := h.mayCheck (hr.mayCheck hop)

theorem Compatible.right (h : Compatible p q) (hr : Below r q) : Compatible p r where
  exclusive hop := Bool.eq_false_iff.mpr fun hc => by
    have := h.exclusive hop
    rw [hr.checks hc] at this
    cases this
  mayOperate hop := Bool.eq_false_iff.mpr fun hc => by
    have := h.mayOperate hop
    rw [hr.checks hc] at this
    cases this
  mayCheck hop := Bool.eq_false_iff.mpr fun hc => by
    have := h.mayCheck hop
    rw [hr.operates hc] at this
    cases this

omit [DecidableEq Tid] in
theorem Inv.exclusive (h : Inv s) : Exclusive s := fun t u ⟨hop, hc⟩ => by
  rw [(h t u).exclusive hop] at hc
  cases hc

/-- **A thread may go where it is compatible with itself and the others.** -/
theorem Inv.goto (h : Inv s) (hself : Compatible p p)
    (hothers : ∀ u, u ≠ t → Compatible p (s.phase u) ∧ Compatible (s.phase u) p) :
    Inv (s.goto t p) := by
  intro u v
  show Compatible (Function.update s.phase t p u) (Function.update s.phase t p v)
  by_cases hu : u = t <;> by_cases hv : v = t
  · rw [hu, hv, Function.update_self]
    exact hself
  · rw [hu, Function.update_self, Function.update_of_ne hv]
    exact (hothers v hv).1
  · rw [hv, Function.update_self, Function.update_of_ne hu]
    exact (hothers u hu).2
  · rw [Function.update_of_ne hu, Function.update_of_ne hv]
    exact h u v

theorem goto_phase_self : (s.goto t p).phase t = p := Function.update_self ..

theorem goto_phase_of_ne (h : u ≠ t) : (s.goto t p).phase u = s.phase u :=
  Function.update_of_ne h ..

/-- A thread may do less. -/
theorem Inv.goto_below (h : Inv s) (hp : Below p (s.phase t)) : Inv (s.goto t p) :=
  h.goto (((h t t).left hp).right hp) fun u _ => ⟨(h t u).left hp, (h u t).right hp⟩

/-! ## One step -/

/-- A phase in which nothing is done, nor about to be. -/
theorem below_of_outside (ho : r.operates = false) (hc : r.checks = false)
    (hu : r.mayOperate = false) (hk : r.mayCheck = false) : Below r p where
  operates h := by rw [ho] at h; cases h
  checks h := by rw [hc] at h; cases h
  mayOperate h := by rw [hu] at h; cases h
  mayCheck h := by rw [hk] at h; cases h

theorem below_checked {nested : Bool} (hp : p.operates = nested) : Below (checked nested) p := by
  cases nested
  · exact below_of_outside rfl rfl rfl rfl
  · exact ⟨fun _ => hp, fun h => (nomatch h), fun h => (nomatch h), fun h => (nomatch h)⟩

theorem waitForOperation_false (attempts : ℕ) (again : ℕ → Phase) (timeout passed : Phase) :
    waitForOperation false attempts again timeout passed = passed := rfl

/-- A wait that is not over leaves its thread where it was, or gives up. -/
theorem below_wait {attempts : ℕ} {again : ℕ → Phase} {timeout passed : Phase}
    (hagain : Below (again (attempts + 1)) p) (htimeout : Below timeout p) :
    Below (waitForOperation true attempts again timeout passed) p := by
  rw [waitForOperation, if_pos rfl]
  split
  · exact htimeout
  · exact hagain

theorem inv_wait (h : Inv s) (hstep : step s (.wait t) = some s') (hund : Undisturbed s (.wait t)) :
    Inv s' := by
  rw [step] at hstep
  rw [Undisturbed] at hund
  rcases hp : s.phase t with - | n | - | - | - | ⟨nested, n⟩ | nested | nested <;>
    simp only [hp] at hstep hund
  case usingWait =>
    obtain rfl := Option.some.inj hstep
    rcases hflag : s.isCheck_ with - | -
    · -- the wait is over: nothing is being checked
      rw [waitForOperation_false]
      refine h.goto ⟨fun _ => rfl, fun _ => rfl, fun _ => rfl⟩ fun u _ => ⟨?_, ?_⟩
      · exact ⟨fun ho => (nomatch ho), fun _ => hund hflag u, fun hk => (nomatch hk)⟩
      · exact ⟨fun _ => rfl, fun _ => rfl, fun _ => rfl⟩
    · exact h.goto_below (below_wait (below_of_outside rfl rfl rfl rfl)
        (below_of_outside rfl rfl rfl rfl))
  case checkWait =>
    obtain rfl := Option.some.inj hstep
    rcases hflag : s.isUsing_ with - | -
    · -- the wait is over: nothing operates, so the check is not nested
      have hidle := hund hflag
      obtain rfl : nested = false := by
        have := hidle t
        rwa [hp] at this
      rw [waitForOperation_false]
      refine h.goto ⟨fun _ => rfl, fun _ => rfl, fun _ => rfl⟩ fun u _ => ⟨?_, ?_⟩
      · exact ⟨fun ho => (nomatch ho), fun hu => (nomatch hu), fun _ => hidle u⟩
      · exact ⟨fun _ => rfl, fun _ => rfl, fun _ => rfl⟩
    · refine h.goto_below (below_wait ?_ ?_) <;> rw [hp]
      · exact ⟨id, id, id, id⟩
      · exact below_checked rfl
  all_goals cases hstep

theorem inv_set (h : Inv s) (hstep : step s (.set t) = some s') (hund : Undisturbed s (.set t)) :
    Inv s' := by
  rw [step] at hstep
  rw [Undisturbed] at hund
  rcases hp : s.phase t with - | n | - | - | - | ⟨nested, n⟩ | nested | nested <;>
    simp only [hp] at hstep hund
  case usingPassed =>
    obtain rfl := Option.some.inj hstep
    refine Inv.goto (s := { s with isUsing_ := true }) h
      ⟨fun _ => rfl, fun _ => rfl, fun hk => (nomatch hk)⟩
      fun u _ => ⟨⟨?_, ?_, ?_⟩, ⟨fun _ => rfl, fun _ => rfl, ?_⟩⟩
    · exact fun _ => (h t u).mayOperate (by rw [hp]; rfl)
    · exact fun hu => by cases hu
    · exact fun hk => by cases hk
    · exact fun hk => by rw [hund u] at hk; cases hk
  case checkPassed =>
    obtain rfl := Option.some.inj hstep
    have hidle : ∀ u, (s.phase u).operates = false := fun u => (h t u).mayCheck (by rw [hp]; rfl)
    obtain rfl : nested = false := by
      have := hidle t
      rwa [hp] at this
    refine Inv.goto (s := { s with isCheck_ := true }) h
      ⟨fun ho => (nomatch ho), fun hu => (nomatch hu), fun hk => (nomatch hk)⟩
      fun u _ => ⟨⟨fun ho => (nomatch ho), fun hu => (nomatch hu), fun hk => (nomatch hk)⟩, ?_, ?_,
        ?_⟩
    · exact fun ho => by rw [hidle u] at ho; cases ho
    · exact fun hu => by rw [hund u] at hu; cases hu
    · exact fun _ => rfl
  all_goals cases hstep

/-- **An undisturbed step keeps threads compatible.** -/
theorem inv_step (h : Inv s) (hund : Undisturbed s e) (hstep : step s e = some s') : Inv s' := by
  rcases e with t | t | t | t | t | t
  case excuteSql | checkConnections =>
    obtain ⟨-, hs'⟩ := Option.ite_none_right_eq_some.mp hstep
    obtain rfl := Option.some.inj hs'
    exact h.goto_below (below_of_outside rfl rfl rfl rfl)
  case wait => exact inv_wait h hstep hund
  case set => exact inv_set h hstep hund
  case lost =>
    obtain ⟨hp, hs'⟩ := Option.ite_none_right_eq_some.mp hstep
    obtain rfl := Option.some.inj hs'
    refine h.goto_below ?_
    rw [hp]
    exact ⟨fun _ => rfl, fun h => (nomatch h), fun h => (nomatch h), fun h => (nomatch h)⟩
  case finish =>
    rw [step] at hstep
    rcases hp : s.phase t with - | n | - | - | - | ⟨nested, n⟩ | nested | nested <;>
      simp only [hp] at hstep
    case working | handled =>
      obtain rfl := Option.some.inj hstep
      exact Inv.goto_below (s := { s with isUsing_ := false }) h
        (below_of_outside rfl rfl rfl rfl)
    case checking =>
      obtain rfl := Option.some.inj hstep
      refine Inv.goto_below (s := { s with isCheck_ := false }) h (below_checked ?_)
      show (s.phase t).operates = nested
      rw [hp]
      rfl
    all_goals cases hstep

/-! ## Runs -/

omit [DecidableEq Tid] in
theorem inv_init : Inv (init : State Tid) := fun _ _ => ⟨fun _ => rfl, fun _ => rfl, fun _ => rfl⟩

/-- **Checks and operations exclude each other** in a run that nothing disturbs. -/
theorem exclusive_of_undisturbed (events : List (Event Tid))
    (hmeets : Run.Meets step Undisturbed init events) (hrun : Run.run step init events = some s) :
    Exclusive s :=
  (Run.Meets.invariant (fun _ _ _ => inv_step) events _ inv_init hmeets s hrun).exclusive

theorem exclusive_excuteSql_then_check : Exclusive
    ((Run.run step (init : State (Fin 2)) [.excuteSql 0, .wait 0, .set 0, .checkConnections 1,
      .wait 1, .finish 0, .wait 1, .set 1]).get (by decide)) :=
  exclusive_of_undisturbed [.excuteSql 0, .wait 0, .set 0, .checkConnections 1, .wait 1, .finish 0,
    .wait 1, .set 1] (by decide) (Option.some_get _).symm

/-! ### Overlaps -/

/-- A thread that has passed begins its operation, whatever the others do. -/
theorem overlap_of_usingPassed (ht : s.phase t = .usingPassed) (hu : (s.phase u).checks = true) :
    ∃ s₂, step s (.set t) = some s₂ ∧ ¬ Exclusive s₂ := by
  have hne : u ≠ t := by
    rintro rfl
    rw [ht] at hu
    cases hu
  refine ⟨_, by rw [step, ht], fun hex => hex t u ⟨?_, ?_⟩⟩
  · rw [goto_phase_self]
    rfl
  · rw [goto_phase_of_ne hne]
    exact hu

/-- And so does one that is about to check; it may be the one that operates. -/
theorem overlap_of_checkPassed {nested : Bool} (ht : s.phase t = .checkPassed nested)
    (hu : (s.phase u).operates = true) : ∃ s₂, step s (.set t) = some s₂ ∧ ¬ Exclusive s₂ := by
  refine ⟨_, by rw [step, ht], fun hex => hex u t ⟨?_, ?_⟩⟩
  · by_cases hne : u = t
    · rw [hne, ht] at hu
      rw [hne, goto_phase_self]
      exact hu
    · rw [goto_phase_of_ne hne]
      exact hu
  · rw [goto_phase_self]
    rfl

/-- **After a disturbed step a check can begin during an operation**, or the other way round. -/
theorem exists_overlap (hund : ¬ Undisturbed s e) (hstep : step s e = some s') :
    ∃ t s₂, step s' (.set t) = some s₂ ∧ ¬ Exclusive s₂ := by
  rcases e with t | t | t | t | t | t
  case excuteSql | checkConnections | lost | finish => exact absurd trivial hund
  case wait =>
    rw [step] at hstep
    rw [Undisturbed] at hund
    rcases hp : s.phase t with - | n | - | - | - | ⟨nested, n⟩ | nested | nested <;>
      simp only [hp] at hstep hund
    case usingWait =>
      -- the flag is clear, but `u` still checks
      simp only [not_forall, Bool.not_eq_false] at hund
      obtain ⟨hflag, u, hu⟩ := hund
      rw [hflag, waitForOperation_false] at hstep
      obtain rfl := Option.some.inj hstep
      have hne : u ≠ t := by
        rintro rfl
        rw [hp] at hu
        cases hu
      exact ⟨t, overlap_of_usingPassed goto_phase_self (by rwa [goto_phase_of_ne hne])⟩
    case checkWait =>
      simp only [not_forall, Bool.not_eq_false] at hund
      obtain ⟨hflag, u, hu⟩ := hund
      rw [hflag, waitForOperation_false] at hstep
      obtain rfl := Option.some.inj hstep
      refine ⟨t, overlap_of_checkPassed goto_phase_self (u := u) ?_⟩
      by_cases hne : u = t
      · rw [hne, hp] at hu
        rw [hne, goto_phase_self]
        exact hu
      · rwa [goto_phase_of_ne hne]
    all_goals exact absurd trivial hund
  case set =>
    rw [step] at hstep
    rw [Undisturbed] at hund
    rcases hp : s.phase t with - | n | - | - | - | ⟨nested, n⟩ | nested | nested <;>
      simp only [hp] at hstep hund
    case usingPassed =>
      simp only [not_forall, Bool.not_eq_false] at hund
      obtain ⟨u, hu⟩ := hund
      obtain rfl := Option.some.inj hstep
      -- `u` has passed too: its check begins while `t` works
      rcases hpu : s.phase u with - | n | - | - | - | ⟨nested, n⟩ | nested | nested <;>
        simp only [hpu, Phase.mayCheck, Bool.false_eq_true] at hu
      have hne : u ≠ t := by
        rintro rfl
        rw [hp] at hpu
        cases hpu
      refine ⟨u, overlap_of_checkPassed (u := t) ((goto_phase_of_ne hne).trans hpu) ?_⟩
      rw [goto_phase_self]
      rfl
    case checkPassed =>
      simp only [not_forall, Bool.not_eq_false] at hund
      obtain ⟨u, hu⟩ := hund
      obtain rfl := Option.some.inj hstep
      rcases hpu : s.phase u with - | n | - | - | - | ⟨nested, n⟩ | nested | nested <;>
        simp only [hpu, Phase.mayOperate, Bool.false_eq_true] at hu
      have hne : u ≠ t := by
        rintro rfl
        rw [hp] at hpu
        cases hpu
      refine ⟨u, overlap_of_usingPassed (u := t) ?_ ?_⟩
      · rw [goto_phase_of_ne hne]
        exact hpu
      · rw [goto_phase_self]
        rfl
    all_goals exact absurd trivial hund

/-- Two threads look at clear flags before either sets its own. -/
theorem not_exclusive : ¬ ∀ (events : List (Event (Fin 2))) (s : State (Fin 2)),
    Run.run step init events = some s → Exclusive s := fun h =>
  h [.excuteSql 0, .checkConnections 1, .wait 0, .wait 1, .set 0, .set 1] _ (Option.some_get
    (by decide)).symm 0 1 (by decide)

end Rd

end Sadip

import Mathlib.Algebra.Ring.Nat
import Mathlib.Data.Finset.Card
import Mathlib.Data.List.Infix
import Mathlib.Logic.Function.Basic
import Sadip.Machinery.Run

/-!
# CamQueues — the queues of cam-app, `utils/ThreadSafeQueue.h`

The threads that receive (`ConvertCam` for the TCP server, `callback::message_arrived` for MQTT) put
what they get into four queues.  Before a push they look at the size, and call `Empty` on a queue of
more than `MAX_MSG` messages.  `Empty` says whether the queue is empty and takes nothing out of it,
so a queue is what was pushed and not popped yet (`Inv.flow`), however long that gets.

One event is one call on a queue, so that runs are all interleavings of the threads.
-/

namespace Sadip

namespace CamQueues

/-! ## `ThreadSafeQueue` -/

namespace ThreadSafeQueue

variable {α : Type}

def push (q : List α) (v : α) : List α := q ++ [v]

/-- The answer, and the queue afterwards. -/
def empty (q : List α) : Bool × List α := (q.isEmpty, q)

/-- A `uint32_t`. -/
def size (q : List α) : ℕ := q.length % 2 ^ 32

def tryPop : List α → Option α × List α
  | [] => (none, [])
  | v :: q => (some v, q)

theorem tryPop_append (q : List α) : (tryPop q).1.toList ++ (tryPop q).2 = q := by
  cases q <;> rfl

end ThreadSafeQueue

open ThreadSafeQueue

/-! ## The receiving threads -/

inductive QueueName
  | camSendQueue_
  | simplifiedCamQueue_
  | cameraQueue_
  | radarQueue_
  deriving DecidableEq

variable {Cam Paths : Type} {Tid : Type*} [DecidableEq Tid]

/-- What a queue holds: `CamData` or `MultiPathDatas`. -/
abbrev Msg (Cam Paths : Type) : QueueName → Type
  | .camSendQueue_ => Cam
  | .simplifiedCamQueue_ => Cam
  | .cameraQueue_ => Paths
  | .radarQueue_ => Paths

/-- `const int MAX_MSG` -/
def MAX_MSG : ℕ := 20000

/-- A call on a queue that a thread is about to make, for a message that it has. -/
inductive Call (Cam Paths : Type)
  | size (q : QueueName) (m : Msg Cam Paths q)
  | empty (q : QueueName) (m : Msg Cam Paths q)
  | push (q : QueueName) (m : Msg Cam Paths q)

def Call.queue : Call Cam Paths → QueueName
  | .size q _ => q
  | .empty q _ => q
  | .push q _ => q

/-- `ConvertCam`, once it has made `cam`. -/
def convertCam (cam : Cam) : List (Call Cam Paths) :=
  [.size .camSendQueue_ cam, .size .simplifiedCamQueue_ cam]

/-- The payload of an MQTT message, as it parses to either type; a `CamData` has the time of its
arrival set. -/
structure Payload (Cam Paths : Type) where
  paths : Paths
  cam : Cam

/-- `topic.find(word) != string::npos` -/
def mentions (topic word : String) : Bool := decide (word.toList <:+: topic.toList)

/-- `callback::message_arrived` -/
def messageArrived (topic : String) (payload : Payload Cam Paths) : List (Call Cam Paths) :=
  if mentions topic "camera" then [.size .cameraQueue_ payload.paths]
  else if mentions topic "cam" then
    [.size .camSendQueue_ payload.cam, .size .simplifiedCamQueue_ payload.cam]
  else if mentions topic "radar" then [.size .radarQueue_ payload.paths]
  else []

structure State (Cam Paths : Type) (Tid : Type*) where
  queue : ∀ q, List (Msg Cam Paths q)
  /-- the calls that a thread has before it -/
  calls : Tid → List (Call Cam Paths)
  /-- everything that was pushed, and everything that was popped -/
  pushed : ∀ q, List (Msg Cam Paths q)
  popped : ∀ q, List (Msg Cam Paths q)

def init : State Cam Paths Tid where
  queue _ := []
  calls _ := []
  pushed _ := []
  popped _ := []

inductive Event (Cam Paths : Type) (Tid : Type*)
  /-- a thread begins to put in what it has received -/
  | convertCam (t : Tid) (cam : Cam)
  | messageArrived (t : Tid) (topic : String) (payload : Payload Cam Paths)
  /-- a thread makes the next of its calls -/
  | call (t : Tid)
  /-- a consumer pops -/
  | pop (q : QueueName)

namespace State

/-- A thread that has nothing to do gets calls to make, on queues that are its own to push to. -/
def begin (s : State Cam Paths Tid) (pushers : QueueName → Finset Tid) (t : Tid)
    (calls : List (Call Cam Paths)) : Option (State Cam Paths Tid) :=
  if (s.calls t).isEmpty ∧ ∀ c ∈ calls, t ∈ pushers c.queue then
    some { s with calls := Function.update s.calls t calls }
  else none

def perform (s : State Cam Paths Tid) (t : Tid) (rest : List (Call Cam Paths)) :
    Call Cam Paths → State Cam Paths Tid
  | .size q m => { s with
      calls := Function.update s.calls t
        ((if size (s.queue q) > MAX_MSG then .empty q m else .push q m) :: rest) }
  | .empty q m => { s with
      queue := Function.update s.queue q (empty (s.queue q)).2
      calls := Function.update s.calls t (.push q m :: rest) }
  | .push q m => { s with
      queue := Function.update s.queue q (push (s.queue q) m)
      calls := Function.update s.calls t rest
      pushed := Function.update s.pushed q (s.pushed q ++ [m]) }

def pop (s : State Cam Paths Tid) (q : QueueName) : State Cam Paths Tid :=
  { s with
    queue := Function.update s.queue q (tryPop (s.queue q)).2
    popped := Function.update s.popped q (s.popped q ++ (tryPop (s.queue q)).1.toList) }

end State

/-- `pushers q` are the threads that push to `q`. -/
def step (pushers : QueueName → Finset Tid) (s : State Cam Paths Tid) :
    Event Cam Paths Tid → Option (State Cam Paths Tid)
  | .convertCam t cam => s.begin pushers t (convertCam cam)
  | .messageArrived t topic payload => s.begin pushers t (messageArrived topic payload)
  | .call t =>
      match s.calls t with
      | [] => none
      | c :: rest => some (s.perform t rest c)
  | .pop q => some (s.pop q)

/-- The message that an event pushes, and where to. -/
def State.pushing (s : State Cam Paths Tid) :
    Event Cam Paths Tid → Option (Σ q, Msg Cam Paths q)
  | .call t =>
      match s.calls t with
      | .push q m :: _ => some ⟨q, m⟩
      | _ => none
  | _ => none

/-! ## What an event does to the queues -/

variable {pushers : QueueName → Finset Tid} {s s' : State Cam Paths Tid} {e : Event Cam Paths Tid}
  {q : QueueName} {m : Msg Cam Paths q}

theorem begin_queues {t : Tid} {calls : List (Call Cam Paths)}
    (h : s.begin pushers t calls = some s') :
    s'.queue = s.queue ∧ s'.pushed = s.pushed ∧ s'.popped = s.popped := by
  obtain ⟨-, ⟨⟩⟩ := Option.ite_none_right_eq_some.mp h
  exact ⟨rfl, rfl, rfl⟩

omit [DecidableEq Tid] in
theorem pushing_eq_some : s.pushing e = some ⟨q, m⟩ ↔
    ∃ t rest, e = .call t ∧ s.calls t = .push q m :: rest := by
  constructor
  · intro h
    rcases e with ⟨t, cam⟩ | ⟨t, topic, payload⟩ | t | q
    · cases h
    · cases h
    · rcases hc : s.calls t with - | ⟨⟨q', m'⟩ | ⟨q', m'⟩ | ⟨q', m'⟩, rest⟩
      all_goals simp [State.pushing, hc] at h
      obtain ⟨rfl, h⟩ := h
      obtain rfl := eq_of_heq h
      exact ⟨t, rest, rfl, hc⟩
    · cases h
  · rintro ⟨t, rest, rfl, hc⟩
    simp [State.pushing, hc]

/-- A push puts its message at the end, and takes nothing out. -/
theorem step_of_pushing (h : s.pushing e = some ⟨q, m⟩) : ∃ s', step pushers s e = some s' ∧
    s'.queue = Function.update s.queue q (s.queue q ++ [m]) ∧
    s'.pushed = Function.update s.pushed q (s.pushed q ++ [m]) ∧ s'.popped = s.popped := by
  obtain ⟨t, rest, rfl, hc⟩ := pushing_eq_some.mp h
  rw [step, hc]
  exact ⟨_, rfl, rfl, rfl, rfl⟩

/-- Only a pop does anything else to a queue; in particular `empty` does not. -/
theorem step_of_not_pushing (hstep : step pushers s e = some s') (h : s.pushing e = none) :
    (s'.queue = s.queue ∧ s'.pushed = s.pushed ∧ s'.popped = s.popped) ∨
      ∃ q, e = .pop q ∧ s' = s.pop q := by
  rcases e with ⟨t, cam⟩ | ⟨t, topic, payload⟩ | t | q
  · exact .inl (begin_queues hstep)
  · exact .inl (begin_queues hstep)
  · rw [step] at hstep
    rcases hc : s.calls t with - | ⟨⟨q, m⟩ | ⟨q, m⟩ | ⟨q, m⟩, rest⟩ <;> rw [hc] at hstep
    · cases hstep
    · obtain rfl := Option.some.inj hstep
      exact .inl ⟨rfl, rfl, rfl⟩
    · obtain rfl := Option.some.inj hstep
      exact .inl ⟨Function.update_eq_self q s.queue, rfl, rfl⟩
    · simp [State.pushing, hc] at h
  · exact .inr ⟨q, rfl, (Option.some.inj hstep).symm⟩

theorem queue_of_pushing (h : s.pushing e = some ⟨q, m⟩) (hstep : step pushers s e = some s') :
    s'.queue = Function.update s.queue q (s.queue q ++ [m]) := by
  obtain ⟨s'', hstep', hqueue, -⟩ := (step_of_pushing h : ∃ s', step pushers s e = some s' ∧ _)
  obtain rfl := Option.some.inj (hstep.symm.trans hstep')
  exact hqueue

/-! ## A thread that makes its calls -/

/-- A thread with these calls before it, and nobody else on the move, pushes `added` and no more. -/
def Pushes (calls : List (Call Cam Paths)) (added : ∀ q, List (Msg Cam Paths q)) : Prop :=
  ∀ (Tid : Type) [DecidableEq Tid] (pushers : QueueName → Finset Tid) (t : Tid)
    (s : State Cam Paths Tid), s.calls t = calls →
    ∃ n s', Run.run (step pushers) s (List.replicate n (.call t)) = some s' ∧ s'.calls t = [] ∧
      ∀ q, s'.pushed q = s.pushed q ++ added q

theorem pushes_nil : Pushes ([] : List (Call Cam Paths)) fun _ => [] :=
  fun _ _ _ _ s hcalls => ⟨0, s, rfl, hcalls, fun _ => (List.append_nil _).symm⟩

/-- A thread that looks at the size of a queue puts its message there, whatever the size is. -/
theorem run_size (pushers : QueueName → Finset Tid) {t : Tid} {rest : List (Call Cam Paths)}
    (hcalls : s.calls t = .size q m :: rest) :
    ∃ n s', Run.run (step pushers) s (List.replicate n (.call t)) = some s' ∧ s'.calls t = rest ∧
      s'.pushed = Function.update s.pushed q (s.pushed q ++ [m]) := by
  by_cases hlong : size (s.queue q) > MAX_MSG
  · refine ⟨3, ?_⟩
    simp only [List.replicate, Run.run, step, hcalls, State.perform, if_pos hlong,
      Function.update_self, Option.bind_some]
    exact ⟨_, rfl, Function.update_self .., rfl⟩
  · refine ⟨2, ?_⟩
    simp only [List.replicate, Run.run, step, hcalls, State.perform, if_neg hlong,
      Function.update_self, Option.bind_some]
    exact ⟨_, rfl, Function.update_self .., rfl⟩

theorem Pushes.size {rest : List (Call Cam Paths)} {added : ∀ q, List (Msg Cam Paths q)}
    (h : Pushes rest added) (hq : added q = []) :
    Pushes (.size q m :: rest) (Function.update added q [m]) := by
  intro Tid _ pushers t s hcalls
  obtain ⟨n, s₁, hrun, hrest, hpushed⟩ := run_size pushers hcalls
  obtain ⟨k, s₂, hrun₂, hdone, hpushed₂⟩ := h Tid pushers t s₁ hrest
  refine ⟨n + k, s₂, ?_, hdone, fun q' => ?_⟩
  · rw [List.replicate_add, Run.run_append, hrun, Option.bind_some, hrun₂]
  · rw [hpushed₂, hpushed]
    by_cases hqq : q' = q
    · subst hqq
      rw [Function.update_self, Function.update_self, hq, List.append_nil]
    · rw [Function.update_of_ne hqq, Function.update_of_ne hqq]

/-- A thread that has made all of its calls makes no other. -/
theorem run_call_of_done (pushers : QueueName → Finset Tid) {t : Tid} {n : ℕ}
    (hcalls : s.calls t = []) (hrun : Run.run (step pushers) s (List.replicate n (.call t)) =
      some s') :
    s' = s := by
  rcases n with - | n
  · exact (Option.some.inj hrun).symm
  · rw [List.replicate_succ, Run.run, step, hcalls] at hrun
    cases hrun

theorem Pushes.unique {calls : List (Call Cam Paths)} {added added' : ∀ q, List (Msg Cam Paths q)}
    (h : Pushes calls added) (h' : Pushes calls added') : added = added' := by
  let s : State Cam Paths Unit := { (init : State Cam Paths Unit) with calls := fun _ => calls }
  obtain ⟨n, s₁, hrun, hdone, hpushed⟩ := h Unit (fun _ => ∅) () s rfl
  obtain ⟨k, s₂, hrun', hdone', hpushed'⟩ := h' Unit (fun _ => ∅) () s rfl
  have hsame : s₁ = s₂ := by
    rcases Nat.le_total n k with hle | hle
    · obtain ⟨d, rfl⟩ := Nat.exists_eq_add_of_le hle
      rw [List.replicate_add, Run.run_append, hrun, Option.bind_some] at hrun'
      exact (run_call_of_done _ hdone hrun').symm
    · obtain ⟨d, rfl⟩ := Nat.exists_eq_add_of_le hle
      rw [List.replicate_add, Run.run_append, hrun', Option.bind_some] at hrun
      exact run_call_of_done _ hdone' hrun
  funext q
  exact List.append_cancel_left ((hpushed q).symm.trans ((congrArg (·.pushed q) hsame).trans
    (hpushed' q)))

/-- One message on `camSendQueue_`, one on `simplifiedCamQueue_`. -/
def camOnce (cam : Cam) : ∀ q, List (Msg Cam Paths q)
  | .camSendQueue_ => [cam]
  | .simplifiedCamQueue_ => [cam]
  | .cameraQueue_ => []
  | .radarQueue_ => []

theorem pushes_convertCam (cam : Cam) :
    Pushes (convertCam cam : List (Call Cam Paths)) (camOnce cam) := by
  have honce : (camOnce cam : ∀ q, List (Msg Cam Paths q)) =
      Function.update (Function.update (fun _ => [] : ∀ q, List (Msg Cam Paths q))
        .simplifiedCamQueue_ [cam]) .camSendQueue_ [cam] := by
    funext q
    cases q <;> rfl
  rw [honce]
  exact (pushes_nil.size rfl).size rfl

/-! ## Nothing is discarded -/

/-- **A queue is what was pushed and has not been popped.** -/
def Flow (s : State Cam Paths Tid) : Prop := ∀ q, s.pushed q = s.popped q ++ s.queue q

omit [DecidableEq Tid] in
theorem flow_init : Flow (init : State Cam Paths Tid) := fun _ => rfl

theorem flow_step (hs : Flow s) (hstep : step pushers s e = some s') : Flow s' := by
  intro q
  rcases h : s.pushing e with - | ⟨q', m⟩
  · rcases step_of_not_pushing hstep h with ⟨hq, hpush, hpop⟩ | ⟨q', -, rfl⟩
    · rw [hq, hpush, hpop]
      exact hs q
    · by_cases hqq : q = q'
      · subst hqq
        simp only [State.pop, Function.update_self]
        rw [List.append_assoc, tryPop_append]
        exact hs q
      · simp only [State.pop, Function.update_of_ne hqq]
        exact hs q
  · obtain ⟨s'', hstep', hq, hpush, hpop⟩ :=
      (step_of_pushing h : ∃ s', step pushers s e = some s' ∧ _)
    obtain rfl := Option.some.inj (hstep.symm.trans hstep')
    rw [hq, hpush, hpop]
    by_cases hqq : q = q'
    · subst hqq
      rw [Function.update_self, Function.update_self, hs q, List.append_assoc]
    · rw [Function.update_of_ne hqq, Function.update_of_ne hqq]
      exact hs q

/-! ## The bound -/

/-- No queue is longer than `MAX_MSG` and the number of threads that push to it. -/
def Bounded (pushers : QueueName → Finset Tid) (s : State Cam Paths Tid) : Prop :=
  ∀ q, (s.queue q).length ≤ MAX_MSG + (pushers q).card

/-- The queues stay bounded, and a message that is pushed is in its queue afterwards. -/
def Lawful (pushers : QueueName → Finset Tid) (s : State Cam Paths Tid)
    (e : Event Cam Paths Tid) (s' : State Cam Paths Tid) : Prop :=
  Bounded pushers s' ∧ ∀ q m, s.pushing e = some ⟨q, m⟩ → m ∈ s'.queue q

/-- The consumers keep up: a push comes when they have popped all but fewer than the bound of the
messages pushed before. -/
def KeepsUp (pushers : QueueName → Finset Tid) (s : State Cam Paths Tid)
    (e : Event Cam Paths Tid) : Prop :=
  ∀ q m, s.pushing e = some ⟨q, m⟩ →
    (s.pushed q).length < (s.popped q).length + (MAX_MSG + (pushers q).card)

theorem bounded_of_not_pushing (hs : Bounded pushers s) (hstep : step pushers s e = some s')
    (h : s.pushing e = none) : Bounded pushers s' := by
  intro q
  rcases step_of_not_pushing hstep h with ⟨hq, -, -⟩ | ⟨q', -, rfl⟩
  · rw [hq]
    exact hs q
  · by_cases hqq : q = q'
    · subst hqq
      have hle : (tryPop (s.queue q)).2.length ≤ (s.queue q).length := by
        rcases s.queue q with - | ⟨m, ms⟩
        · exact Nat.le_refl _
        · exact Nat.le_succ _
      simp only [State.pop, Function.update_self]
      exact hle.trans (hs q)
    · simp only [State.pop, Function.update_of_ne hqq]
      exact hs q

theorem lawful_iff_keepsUp (hs : Flow s ∧ Bounded pushers s) :
    (∀ s', step pushers s e = some s' → Lawful pushers s e s') ↔ KeepsUp pushers s e := by
  obtain ⟨hflow, hbound⟩ := hs
  constructor
  · intro hlaw q m h
    obtain ⟨s', hstep, hq, -⟩ := (step_of_pushing h : ∃ s', step pushers s e = some s' ∧ _)
    have hle := (hlaw s' hstep).1 q
    rw [hq, Function.update_self, List.length_append, List.length_singleton] at hle
    rw [hflow q, List.length_append]
    omega
  · intro hup s' hstep
    refine ⟨?_, fun q m h => ?_⟩
    · rcases h : s.pushing e with - | ⟨q', m⟩
      · exact bounded_of_not_pushing hbound hstep h
      · intro q
        have hlt := hup q' m h
        rw [hflow q', List.length_append] at hlt
        rw [queue_of_pushing h hstep]
        by_cases hqq : q = q'
        · subst hqq
          rw [Function.update_self, List.length_append, List.length_singleton]
          omega
        · rw [Function.update_of_ne hqq]
          exact hbound q
    · rw [queue_of_pushing h hstep, Function.update_self]
      simp

omit [DecidableEq Tid] in
theorem flow_bounded_init :
    Flow (init : State Cam Paths Tid) ∧ Bounded pushers (init : State Cam Paths Tid) :=
  ⟨flow_init, fun _ => Nat.zero_le _⟩

/-- **The queues stay bounded exactly as long as the consumers keep up.** -/
theorem bounded_iff (pushers : QueueName → Finset Tid) (events : List (Event Cam Paths Tid)) :
    Run.Obeys (step pushers) (Lawful pushers) init events ↔
      Run.Meets (step pushers) (KeepsUp pushers) init events :=
  Run.obeys_iff_meets (fun _ _ => lawful_iff_keepsUp)
    (fun _ _ _ hs hstep hlaw => ⟨flow_step hs.1 hstep, hlaw.1⟩) events init flow_bounded_init

/-- One thread receives and nobody pops; from the message on that finds the queue too long, the
thread also calls `empty`. -/
def flood : ℕ → List (Event Unit Unit Unit)
  | 0 => []
  | n + 1 => flood n ++ (.messageArrived () "camera" ⟨(), ()⟩ :: .call () ::
      if n > MAX_MSG then [.call (), .call ()] else [.call ()])

theorem run_flood : ∀ n < 2 ^ 32, ∃ s, Run.run (step fun _ => {()}) init (flood n) = some s ∧
    (s.queue .cameraQueue_).length = n ∧ s.calls () = []
  | 0, _ => ⟨init, rfl, rfl, rfl⟩
  | n + 1, hn => by
      obtain ⟨s, hrun, hlen, hcalls⟩ := run_flood n (Nat.lt_of_succ_lt hn)
      have hsize : size (s.queue .cameraQueue_) = n := by
        rw [size, hlen, Nat.mod_eq_of_lt (Nat.lt_of_succ_lt hn)]
      rw [flood, Run.run_append, hrun, Option.bind_some]
      have hbegin : step (fun _ => {()}) s (.messageArrived () "camera" ⟨(), ()⟩) =
          some { s with calls := Function.update s.calls () [.size .cameraQueue_ ()] } := by
        have hcam : mentions "camera" "camera" = true := by decide
        rw [step, messageArrived, if_pos hcam, State.begin, if_pos (by simp [hcalls])]
      rw [Run.run_cons_of_step hbegin]
      by_cases hlong : n > MAX_MSG
      · rw [if_pos hlong]
        simp only [Run.run, step, State.perform, Function.update_self, hsize, if_pos hlong,
          Option.bind_some]
        exact ⟨_, rfl, by simp [push, empty, hlen], by simp⟩
      · rw [if_neg hlong]
        simp only [Run.run, step, State.perform, Function.update_self, hsize, if_neg hlong,
          Option.bind_some]
        exact ⟨_, rfl, by simp [push, hlen], by simp⟩

/-- **A queue that nobody pops outgrows the bound.** -/
theorem not_bounded : ∃ s, Run.run (step fun _ => {()}) init (flood (MAX_MSG + 2)) = some s ∧
    ¬ Bounded (fun _ => {()}) s := by
  obtain ⟨s, hrun, hlen, -⟩ := run_flood (MAX_MSG + 2) (by decide)
  refine ⟨s, hrun, fun hbound => ?_⟩
  have hle := hbound .cameraQueue_
  rw [hlen, Finset.card_singleton] at hle
  omega

end CamQueues

end Sadip

import Sadip.Machinery.Run

/-!
# CommandExecutor — the output of a command, `node/src/CommandExecutor.h`

`execute_command` launches a command with a pipe on its output.  A detached thread reads the pipe to
its end and appends what it has read to `recentLinesDeque`, all of it at once; meanwhile the caller
asks over and over whether the command has exited, and when it has, or after five seconds, records
what the deque holds at that moment.  Nothing orders the two: the record is complete when the reader
has come to the end of the pipe by then, or there was nothing to read (`complete_iff`).

Each access to the deque is one step here.  That a full pipe holds the command up only rules out
some of the runs.
-/

namespace Sadip

namespace CommandExecutor

def MAX_OUTPUT_LINES : ℕ := 1000

/-- Where the reading thread is. -/
inductive Reader
  /-- at the head of its loop, with `istr.good()` -/
  | head (good : Bool)
  /-- in `copyToString`, with what it has copied -/
  | copying (result : List UInt8)
  /-- out of its loop -/
  | gone
  deriving DecidableEq

/-- The reader has come to the end of the pipe. -/
def Reader.atEnd : Reader → Bool
  | .head good => !good
  | .copying _ => false
  | .gone => true

/-- Where `execute_command` is. -/
inductive Main
  /-- in its loop around `tryWait` -/
  | polling
  /-- it has seen the exit of the command -/
  | returned
  | timedOut
  deriving DecidableEq

structure State where
  /-- everything the command has written, and what of it is still in the pipe -/
  written : List UInt8
  pipe : List UInt8
  exited : Bool
  reader : Reader
  main : Main
  recentLinesDeque : List (List UInt8)
  /-- `recentOutputs[command]` -/
  recentOutputs : List (List UInt8)
  deriving DecidableEq

/-- The command has been launched. -/
def start : State where
  written := []
  pipe := []
  exited := false
  reader := .head true
  main := .polling
  recentLinesDeque := []
  recentOutputs := []

namespace State

variable (s : State)

/-- The end of a round of the reader, once it has come to the end of the pipe. -/
def nextRound (late : Bool) : State := { s with reader := if late then .gone else .head false }

/-- A round of the reader; `peek` waits until there is something to read or the end of the pipe. -/
def round (late : Bool) : Option State :=
  match s.reader with
  | .head true =>
      if s.pipe ≠ [] then some { s with reader := .copying [] }
      else if s.exited then some (s.nextRound late) else none
  | .head false => some (s.nextRound late)
  | _ => none

/-- `recentLinesDeque.push_back(result)`; a deque that has got too long loses its oldest element,
and the reader ends. -/
def push (result : List UInt8) (late : Bool) : State :=
  let lines := s.recentLinesDeque ++ [result]
  if lines.length > MAX_OUTPUT_LINES then { s with recentLinesDeque := lines.tail, reader := .gone }
  else { s with recentLinesDeque := lines }.nextRound late

/-- A read of `copyToString`, which gets up to `n` bytes, or comes to the end of the pipe. -/
def read (n : ℕ) (late : Bool) : Option State :=
  match s.reader with
  | .copying result =>
      if s.pipe ≠ [] then
        some { s with pipe := s.pipe.drop n, reader := .copying (result ++ s.pipe.take n) }
      else if s.exited then some (s.push result late) else none
  | _ => none

/-- A round of the loop around `tryWait`. -/
def poll (late : Bool) : State :=
  if s.exited then { s with recentOutputs := s.recentLinesDeque, main := .returned }
  else if late then { s with recentOutputs := s.recentLinesDeque, main := .timedOut }
  else s

end State

inductive Event
  /-- the command writes -/
  | write (bytes : List UInt8)
  /-- the command exits, which closes the pipe -/
  | exit
  /-- a round of the reader begins: whether it finds at its end that the time is up -/
  | round (late : Bool)
  | read (n : ℕ) (late : Bool)
  /-- `tryWait`, and whether the time is up -/
  | poll (late : Bool)
  deriving DecidableEq

def step (s : State) : Event → Option State
  | .write bytes =>
      if s.exited then none
      else some { s with written := s.written ++ bytes, pipe := s.pipe ++ bytes }
  | .exit => if s.exited then none else some { s with exited := true }
  | .round late => s.round late
  | .read n late => s.read n late
  | .poll late => if s.main = .polling then some (s.poll late) else none

/-- When `execute_command` returns after the exit of the command, it has recorded everything the
command wrote. -/
def Records (s : State) (_ : Event) (s' : State) : Prop :=
  s.main = .polling → s'.main = .returned → s'.recentOutputs.flatten = s'.written

/-- The exit is not seen before the reader has come to the end of the pipe, unless the command wrote
nothing. -/
def Drained (s : State) : Event → Prop
  | .poll _ => s.main = .polling → s.exited = true → s.reader.atEnd = true ∨ s.written = []
  | _ => True

instance (s : State) (e : Event) : Decidable (Drained s e) := by
  unfold Drained
  split <;> infer_instance

/-! ## What the reader has -/

/-- What the command wrote is in the pipe, in the reader's hands, or in the deque. -/
def Accounted (s : State) : Prop :=
  match s.reader with
  | .head true => s.recentLinesDeque = [] ∧ s.written = s.pipe
  | .copying result => s.recentLinesDeque = [] ∧ s.written = result ++ s.pipe
  | _ => s.exited = true ∧ s.pipe = [] ∧ s.recentLinesDeque.flatten = s.written

theorem accounted_start : Accounted start := ⟨rfl, rfl⟩

variable {s s' : State} {e : Event}

theorem accounted_nextRound (hexited : s.exited = true) (hpipe : s.pipe = [])
    (hlines : s.recentLinesDeque.flatten = s.written) (late : Bool) :
    Accounted (s.nextRound late) := by
  rw [Accounted, State.nextRound]
  cases late <;> exact ⟨hexited, hpipe, hlines⟩

theorem accounted_round (hs : Accounted s) (late : Bool) (h : s.round late = some s') :
    Accounted s' := by
  rw [Accounted] at hs
  rw [State.round] at h
  rcases hr : s.reader with (- | -) | result | -
  all_goals simp only [hr] at h hs
  · obtain rfl := Option.some.inj h
    exact accounted_nextRound hs.1 hs.2.1 hs.2.2 late
  · split at h
    · obtain rfl := Option.some.inj h
      exact hs
    · rename_i hpipe
      rw [not_not] at hpipe
      obtain ⟨hexited, hs'⟩ := Option.ite_none_right_eq_some.mp h
      obtain rfl := Option.some.inj hs'
      refine accounted_nextRound hexited hpipe ?_ late
      rw [hs.1, hs.2, hpipe]
      rfl
  · cases h
  · cases h

/-- A single result is not too many. -/
theorem push_eq (h : s.recentLinesDeque = []) (result : List UInt8) (late : Bool) :
    s.push result late = { s with recentLinesDeque := [result] }.nextRound late := by
  rw [State.push, h]
  exact if_neg (Nat.not_lt_of_le (Nat.succ_le_of_lt (by decide : 0 < MAX_OUTPUT_LINES)))

theorem accounted_read (hs : Accounted s) (n : ℕ) (late : Bool) (h : s.read n late = some s') :
    Accounted s' := by
  rw [Accounted] at hs
  rw [State.read] at h
  rcases hr : s.reader with good | result | -
  · simp only [hr] at h
    cases h
  · simp only [hr] at h hs
    split at h
    · obtain rfl := Option.some.inj h
      refine ⟨hs.1, ?_⟩
      rw [hs.2, List.append_assoc, List.take_append_drop]
    · rename_i hpipe
      rw [not_not] at hpipe
      obtain ⟨hexited, hs'⟩ := Option.ite_none_right_eq_some.mp h
      obtain rfl := Option.some.inj hs'
      have hall : [result].flatten = s.written := by
        rw [hs.2, hpipe, List.flatten_singleton, List.append_nil]
      rw [push_eq hs.1]
      exact accounted_nextRound (s := { s with recentLinesDeque := [result] }) hexited hpipe hall
        late
  · simp only [hr] at h
    cases h

theorem accounted_write (hs : Accounted s) (hexited : ¬ s.exited = true) (bytes : List UInt8) :
    Accounted { s with written := s.written ++ bytes, pipe := s.pipe ++ bytes } := by
  rw [Accounted] at hs ⊢
  rcases hr : s.reader with (- | -) | result | -
  all_goals simp only [hr] at hs ⊢
  · exact absurd hs.1 hexited
  · exact ⟨hs.1, by rw [hs.2]⟩
  · exact ⟨hs.1, by rw [hs.2, List.append_assoc]⟩
  · exact absurd hs.1 hexited

theorem accounted_exit (hs : Accounted s) : Accounted { s with exited := true } := by
  rw [Accounted] at hs ⊢
  rcases hr : s.reader with (- | -) | result | -
  all_goals simp only [hr] at hs ⊢
  · exact ⟨trivial, hs.2⟩
  · exact hs
  · exact hs
  · exact ⟨trivial, hs.2⟩

/-- **Nothing the command wrote gets lost on its way.** -/
theorem accounted_step (hs : Accounted s) (h : step s e = some s') : Accounted s' := by
  cases e with
  | write bytes =>
    obtain ⟨hexited, h⟩ := Option.ite_none_left_eq_some.mp h
    obtain rfl := Option.some.inj h
    exact accounted_write hs hexited bytes
  | exit =>
    obtain ⟨-, h⟩ := Option.ite_none_left_eq_some.mp h
    obtain rfl := Option.some.inj h
    exact accounted_exit hs
  | round late => exact accounted_round hs late h
  | read n late => exact accounted_read hs n late h
  | poll late =>
    obtain ⟨-, h⟩ := Option.ite_none_right_eq_some.mp h
    obtain rfl := Option.some.inj h
    rw [State.poll]
    split
    · exact hs
    · split <;> exact hs

/-! ## What is recorded -/

/-- The deque holds all the output exactly when the reader has come to its end, or there is none. -/
theorem complete_deque_iff (hs : Accounted s) :
    s.recentLinesDeque.flatten = s.written ↔ s.reader.atEnd = true ∨ s.written = [] := by
  rw [Accounted] at hs
  rcases hr : s.reader with (- | -) | result | -
  all_goals simp only [hr] at hs
  · exact iff_of_true hs.2.2 (.inl rfl)
  · rw [hs.1, List.flatten_nil]
    simp [Reader.atEnd, eq_comm]
  · rw [hs.1, List.flatten_nil]
    simp [Reader.atEnd, eq_comm]
  · exact iff_of_true hs.2.2 (.inl rfl)

theorem main_round {late : Bool} (h : s.round late = some s') : s'.main = s.main := by
  rw [State.round] at h
  split at h
  · split at h
    · obtain rfl := Option.some.inj h
      rfl
    · obtain ⟨-, h⟩ := Option.ite_none_right_eq_some.mp h
      obtain rfl := Option.some.inj h
      rfl
  · obtain rfl := Option.some.inj h
    rfl
  · cases h

theorem main_push (result : List UInt8) (late : Bool) : (s.push result late).main = s.main := by
  rw [State.push]
  split <;> rfl

theorem main_read {n : ℕ} {late : Bool} (h : s.read n late = some s') : s'.main = s.main := by
  rw [State.read] at h
  split at h
  · split at h
    · obtain rfl := Option.some.inj h
      rfl
    · obtain ⟨-, h⟩ := Option.ite_none_right_eq_some.mp h
      obtain rfl := Option.some.inj h
      exact main_push _ late
  · cases h

/-- Only `execute_command` itself moves on. -/
theorem main_eq (h : step s e = some s') (he : ∀ late, e ≠ .poll late) : s'.main = s.main := by
  cases e with
  | write bytes =>
    obtain ⟨-, h⟩ := Option.ite_none_left_eq_some.mp h
    obtain rfl := Option.some.inj h
    rfl
  | exit =>
    obtain ⟨-, h⟩ := Option.ite_none_left_eq_some.mp h
    obtain rfl := Option.some.inj h
    rfl
  | round late => exact main_round h
  | read n late => exact main_read h
  | poll late => exact absurd rfl (he late)

/-- A poll that does not see the exit records nothing in its name. -/
theorem main_poll_of_running (hmain : s.main = .polling) (hexited : ¬ s.exited = true)
    (late : Bool) : (s.poll late).main ≠ .returned := by
  rw [State.poll, if_neg hexited]
  split
  · exact Main.noConfusion
  · rw [hmain]
    exact Main.noConfusion

theorem records_poll_iff (hs : Accounted s) (late : Bool) :
    (∀ s', step s (.poll late) = some s' → Records s (.poll late) s') ↔ Drained s (.poll late) := by
  by_cases hmain : s.main = .polling
  · have hstep : step s (.poll late) = some (s.poll late) := if_pos hmain
    by_cases hexited : s.exited = true
    · have hpoll : s.poll late
          = { s with recentOutputs := s.recentLinesDeque, main := .returned } := if_pos hexited
      rw [Drained, imp_iff_right hmain, imp_iff_right hexited, ← complete_deque_iff hs]
      constructor
      · intro h
        rw [hpoll] at hstep
        exact h _ hstep hmain rfl
      · rintro h s' hs' - -
        obtain rfl := Option.some.inj (hstep.symm.trans hs')
        rw [hpoll]
        exact h
    · refine iff_of_true (fun s' hs' _ hreturned => ?_) fun _ h => absurd h hexited
      obtain rfl := Option.some.inj (hstep.symm.trans hs')
      exact absurd hreturned (main_poll_of_running hmain hexited late)
  · exact iff_of_true (fun _ _ h => absurd h hmain) fun h => absurd h hmain

theorem records_iff (hs : Accounted s) :
    (∀ s', step s e = some s' → Records s e s') ↔ Drained s e := by
  cases e with
  | poll late => exact records_poll_iff hs late
  | _ =>
    refine iff_of_true (fun s' h hpolling hreturned => ?_) trivial
    rw [main_eq h (by simp), hpolling] at hreturned
    cases hreturned

/-- **When the record is complete.**  In a run of the command, the reader and `execute_command`,
what is recorded at the exit of the command is all its output exactly when the exit is not seen
before the reader has come to the end of the pipe, or the command wrote nothing. -/
theorem complete_iff (events : List Event) :
    Run.Obeys step Records start events ↔ Run.Meets step Drained start events :=
  Run.obeys_iff_meets (I := Accounted) (fun _ _ hs => records_iff hs)
    (fun _ _ _ hs h _ => accounted_step hs h) events _ accounted_start

/-- **A command that prints a byte and exits**: the exit is seen while the byte is in the pipe. -/
theorem not_complete : ¬ ∀ events : List Event, Run.Obeys step Records start events := by
  intro h
  have := (complete_iff [.write [97], .exit, .poll false]).mp (h _)
  exact absurd this (by decide)

end CommandExecutor

end Sadip

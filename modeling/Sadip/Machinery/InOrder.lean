import Sadip.Machinery.Calls
import Sadip.Machinery.Imperative

/-!
# Machinery/InOrder — a component as the outside of a computation

A component with a state answers calls, and changes with each.  A computation that makes its calls
in an order known beforehand needs no more of it than the answers it gives in that order.
-/

namespace Calls

open Asking Imperative

variable {σ ι β α α' γ γ' : Type}

/-- How a computation of a component ends for who sees its results through `g`; what it throws is a
standard exception. -/
def seen (g : α → γ) : Result σ α → Ending γ
  | .done a _ => .done (g a)
  | .thrown _ => .threw true
  | .undefined => .stuck

theorem seen_id_eq_done {r : Result σ α} {a : α} : seen id r = .done a ↔ ∃ s, r = .done a s := by
  rcases r with ⟨b, s⟩ | s | - <;> simp [seen]

theorem seen_bind_pure {q : Prog σ α} {g : α → γ} {s : σ} :
    seen id ((q >>= fun a => pure (g a)) s) = seen g (q s) := by
  rcases h : q s with ⟨a, s'⟩ | s' | -
  · rw [Prog.bind_done h]
    rfl
  · rw [Prog.bind_thrown h]
    rfl
  · rw [Prog.bind_undefined h]
    rfl

/-- **Two computations agree on a step and on what follows it.** -/
theorem bind_seen {env : ι → Ending β} {p : Asking ι β γ} {q : Prog σ α} {f : γ → Asking ι β γ'}
    {k : α → Prog σ α'} {g : α → γ} {g' : α' → γ'} {s : σ} (h : p env = seen g (q s))
    (hf : ∀ a s', q s = .done a s' → f (g a) env = seen g' (k a s')) :
    (p >>= f) env = seen g' ((q >>= k) s) := by
  rw [bind_run, h]
  rcases hq : q s with ⟨a, s'⟩ | s' | -
  · rw [Prog.bind_done hq]
    exact hf a s' hq
  · rw [Prog.bind_thrown hq]
    rfl
  · rw [Prog.bind_undefined hq]
    rfl

variable [DecidableEq ι]

/-- The component answers these calls one after another from `s`, as long as it goes on; what else
is asked is answered by `env`. -/
def inOrder (answer : ι → Prog σ β) : List ι → σ → (ι → Ending β) → ι → Ending β
  | [], _, env, d => env d
  | c :: calls, s, env, d =>
      if d = c then seen id (answer c s)
      else match answer c s with
        | .done _ s' => inOrder answer calls s' env d
        | _ => env d

variable {answer : ι → Prog σ β} {calls : List ι} {c d : ι} {s s' : σ} {env : ι → Ending β} {b : β}

theorem inOrder_head : inOrder answer (c :: calls) s env c = seen id (answer c s) := if_pos rfl

theorem inOrder_tail (h : answer c s = .done b s') (hne : d ≠ c) :
    inOrder answer (c :: calls) s env d = inOrder answer calls s' env d := by
  rw [inOrder, if_neg hne, h]

/-- What is not among the calls is asked elsewhere. -/
theorem inOrder_of_not_mem (h : d ∉ calls) : inOrder answer calls s env d = env d := by
  induction calls generalizing s with
  | nil => rfl
  | cons c calls ih =>
    rw [List.mem_cons, not_or] at h
    rw [inOrder, if_neg h.1]
    split
    · exact ih h.2
    · rfl

end Calls

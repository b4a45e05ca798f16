import Mathlib.Logic.Basic

/-!
# Machinery/Imperative — computations that change a state, throw, or have no defined result

An exception keeps the changes made before it, and a handler sees them; undefined behaviour has no
state to go on from and no handler.  `Triple P p Q E` says of a computation started where `P` holds
that it is defined and ends in `Q`, or in `E` by an exception; `Keeps I p` is the case where the
three are one invariant.
-/

namespace Imperative

variable {σ α β γ : Type}

/-- How a computation ends. -/
inductive Result (σ α : Type)
  | done (a : α) (s : σ)
  | thrown (s : σ)
  | undefined

/-- The state to go on from. -/
def Result.state : Result σ α → Option σ
  | .done _ s => some s
  | .thrown s => some s
  | .undefined => none

/-- A computation on states `σ`. -/
def Prog (σ α : Type) := σ → Result σ α

namespace Prog

instance : Monad (Prog σ) where
  pure a := fun s => .done a s
  bind p f := fun s =>
    match p s with
    | .done a s' => f a s'
    | .thrown s' => .thrown s'
    | .undefined => .undefined

/-- The state. -/
def get : Prog σ σ := fun s => .done s s

/-- A change of the state. -/
def modify (f : σ → σ) : Prog σ Unit := fun s => .done () (f s)

/-- Leave with an exception; what has been done stays done. -/
def throw : Prog σ α := fun s => .thrown s

/-- End with no state to go on from. -/
def abort : Prog σ α := fun _ => .undefined

/-- Go on with `handler` after an exception. -/
def tryCatch (p handler : Prog σ α) : Prog σ α := fun s =>
  match p s with
  | .thrown s' => handler s'
  | r => r

/-! ## Running a computation -/

variable {p handler : Prog σ α} {f : α → Prog σ β} {s s' : σ} {a : α}

@[simp] theorem pure_run (a : α) (s : σ) : (pure a : Prog σ α) s = .done a s := rfl

@[simp] theorem modify_run (f : σ → σ) (s : σ) : modify f s = .done () (f s) := rfl

theorem bind_run : (p >>= f) s = match p s with
    | .done a s' => f a s'
    | .thrown s' => .thrown s'
    | .undefined => .undefined := rfl

theorem bind_done (h : p s = .done a s') : (p >>= f) s = f a s' := by
  rw [bind_run, h]

theorem bind_thrown (h : p s = .thrown s') : (p >>= f) s = .thrown s' := by
  rw [bind_run, h]

theorem bind_undefined (h : p s = .undefined) : (p >>= f) s = .undefined := by
  rw [bind_run, h]

/-- Three parts one after another. -/
theorem bind_assoc (p : Prog σ α) (f : α → Prog σ β) (g : β → Prog σ γ) :
    p >>= f >>= g = p >>= fun a => f a >>= g := by
  funext s
  rcases h : p s with ⟨a, s'⟩ | s' | -
  · rw [bind_done h]
    rcases h' : f a s' with ⟨b, s''⟩ | s'' | -
    · rw [bind_done ((bind_done h).trans h'), bind_done h']
    · rw [bind_thrown ((bind_done h).trans h'), bind_thrown h']
    · rw [bind_undefined ((bind_done h).trans h'), bind_undefined h']
  · rw [bind_thrown (bind_thrown h), bind_thrown h]
  · rw [bind_undefined (bind_undefined h), bind_undefined h]

theorem pure_bind (a : α) (f : α → Prog σ β) : (pure a : Prog σ α) >>= f = f a := rfl

/-- Working on a result afterwards changes no state. -/
theorem state_bind_pure (p : Prog σ α) (g : α → β) (s : σ) :
    ((p >>= fun a => pure (g a)) s).state = (p s).state := by
  rcases h : p s with ⟨a, s'⟩ | s' | -
  · rw [bind_done h]
    rfl
  · rw [bind_thrown h]
    rfl
  · rw [bind_undefined h]
    rfl

/-- The handler is not needed. -/
theorem tryCatch_done (h : p s = .done a s') : tryCatch p handler s = .done a s' := by
  rw [tryCatch, h]

/-- The handler begins where the exception was thrown. -/
theorem tryCatch_thrown (h : p s = .thrown s') : tryCatch p handler s = handler s' := by
  rw [tryCatch, h]

theorem tryCatch_undefined (h : p s = .undefined) : tryCatch p handler s = .undefined := by
  rw [tryCatch, h]

end Prog

open Prog

/-! ## Triples -/

variable {P P' : σ → Prop} {Q Q' : α → σ → Prop} {R : β → σ → Prop} {E E' I : σ → Prop}
  {p handler : Prog σ α} {f : α → Prog σ β}

/-- Started in `P`, the computation is defined; it ends in `Q`, or by an exception in `E`. -/
def Triple (P : σ → Prop) (p : Prog σ α) (Q : α → σ → Prop) (E : σ → Prop) : Prop :=
  ∀ s, P s → (∃ a s', p s = .done a s' ∧ Q a s') ∨ ∃ s', p s = .thrown s' ∧ E s'

theorem triple_pure {a : α} (h : ∀ s, P s → Q a s) : Triple P (pure a) Q E :=
  fun s hs => .inl ⟨a, s, rfl, h s hs⟩

theorem triple_modify {g : σ → σ} {Q : Unit → σ → Prop} (h : ∀ s, P s → Q () (g s)) :
    Triple P (modify g) Q E :=
  fun s hs => .inl ⟨(), g s, rfl, h s hs⟩

theorem triple_throw (h : ∀ s, P s → E s) : Triple P (throw : Prog σ α) Q E :=
  fun s hs => .inr ⟨s, rfl, h s hs⟩

/-- The rule of composition: the exception may come from either part. -/
theorem triple_bind (hp : Triple P p Q E) (hf : ∀ a, Triple (Q a) (f a) R E) :
    Triple P (p >>= f) R E := by
  intro s hs
  rcases hp s hs with ⟨a, s', hrun, hQ⟩ | ⟨s', hrun, hE⟩
  · rw [bind_done hrun]
    exact hf a s' hQ
  · exact .inr ⟨s', bind_thrown hrun, hE⟩

/-- The rule of handlers: what holds at an exception is what the handler begins with. -/
theorem triple_tryCatch (hp : Triple P p Q E') (hh : Triple E' handler Q E) :
    Triple P (tryCatch p handler) Q E := by
  intro s hs
  rcases hp s hs with ⟨a, s', hrun, hQ⟩ | ⟨s', hrun, hE⟩
  · exact .inl ⟨a, s', tryCatch_done hrun, hQ⟩
  · rw [tryCatch_thrown hrun]
    exact hh s' hE

/-- The rule of consequence. -/
theorem triple_conseq (h : Triple P p Q E) (hP : ∀ s, P' s → P s) (hQ : ∀ a s, Q a s → Q' a s)
    (hE : ∀ s, E s → E' s) : Triple P' p Q' E' := by
  intro s hs
  rcases h s (hP s hs) with ⟨a, s', hrun, hq⟩ | ⟨s', hrun, he⟩
  · exact .inl ⟨a, s', hrun, hQ a s' hq⟩
  · exact .inr ⟨s', hrun, hE s' he⟩

/-- However a computation with a triple ends, there is a state to go on from. -/
theorem Triple.state {I : σ → Prop} (h : Triple P p (fun _ => I) I) {s : σ} (hs : P s) :
    ∃ s', (p s).state = some s' ∧ I s' := by
  rcases h s hs with ⟨a, s', hrun, hI⟩ | ⟨s', hrun, hI⟩ <;> exact ⟨s', by rw [hrun]; rfl, hI⟩

/-! ## Invariants -/

/-- The computation is defined where `I` holds, and `I` holds however it ends. -/
def Keeps (I : σ → Prop) (p : Prog σ α) : Prop := Triple I p (fun _ => I) I

theorem keeps_pure (a : α) : Keeps I (pure a : Prog σ α) := triple_pure fun _ hs => hs

theorem keeps_get : Keeps I (get : Prog σ σ) := fun s hs => .inl ⟨s, s, rfl, hs⟩

theorem keeps_modify {g : σ → σ} (h : ∀ s, I s → I (g s)) : Keeps I (modify g) := triple_modify h

theorem keeps_throw : Keeps I (throw : Prog σ α) := triple_throw fun _ hs => hs

/-- An invariant is kept by both parts. -/
theorem keeps_bind (hp : Keeps I p) (hf : ∀ a, Keeps I (f a)) : Keeps I (p >>= f) :=
  triple_bind hp hf

theorem keeps_tryCatch (hp : Keeps I p) (hh : Keeps I handler) : Keeps I (tryCatch p handler) :=
  triple_tryCatch hp hh

/-- In each branch the condition may be used. -/
theorem keeps_ite {c : Prop} [Decidable c] {q : Prog σ α} (hp : c → Keeps I p)
    (hq : ¬ c → Keeps I q) :
    Keeps I (if c then p else q) := by
  split
  · exact hp ‹_›
  · exact hq ‹_›

/-- However it ends, there is a state to go on from, and the invariant holds there. -/
theorem Keeps.state (h : Keeps I p) {s : σ} (hs : I s) : ∃ s', (p s).state = some s' ∧ I s' :=
  Triple.state h hs

end Imperative

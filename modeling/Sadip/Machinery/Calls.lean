import Mathlib.Logic.Basic

/-!
# Machinery/Calls — computations that make calls to the outside

A computation asks for calls `ι` by name, and the environment says how each of them ends: it gives a
result, throws, or never comes back.  An exception is a standard one or not, which handlers tell
apart.  `Returns p env Q` says that the computation ends properly, with a result in `Q`; its rules
follow the shape of the computation and turn it into a condition on the environment.
-/

namespace Calls

variable {ι β α γ : Type}

/-- How a call, or a computation, ends. -/
inductive Ending (α : Type)
  | done (a : α)
  /-- an exception, which is derived from `std::exception` or not -/
  | threw (std : Bool)
  /-- it waits for ever, or has no defined result -/
  | stuck
  deriving DecidableEq

/-- A computation that makes calls. -/
def Asking (ι β α : Type) := (ι → Ending β) → Ending α

namespace Asking

instance : Monad (Asking ι β) where
  pure a := fun _ => .done a
  bind p f := fun env =>
    match p env with
    | .done a => f a env
    | .threw std => .threw std
    | .stuck => .stuck

/-- A call: the environment answers it, or it throws. -/
def ask (c : ι) : Asking ι β β := fun env => env c

/-- A call whose result is not used. -/
def perform (c : ι) : Asking ι β Unit := ask c >>= fun _ => pure ()

/-- Throw a standard exception. -/
def throwStd : Asking ι β α := fun _ => .threw true

/-- Go nowhere. -/
def abort : Asking ι β α := fun _ => .stuck

/-- `try .. catch (const std::exception&)`. -/
def catchStd (p handler : Asking ι β α) : Asking ι β α := fun env =>
  match p env with
  | .threw true => handler env
  | e => e

/-- `try .. catch (...)`. -/
def catchAll (p handler : Asking ι β α) : Asking ι β α := fun env =>
  match p env with
  | .threw _ => handler env
  | e => e

end Asking

open Asking

/-! ## Running a computation -/

section

variable {env : ι → Ending β} {p : Asking ι β α} {f : α → Asking ι β γ} {c : ι}

theorem bind_run : (p >>= f) env = match p env with
    | .done a => f a env
    | .threw std => .threw std
    | .stuck => .stuck := rfl

theorem ask_run : (ask c : Asking ι β β) env = env c := rfl

/-- Three parts one after another. -/
theorem bind_assoc {δ : Type} {g : γ → Asking ι β δ} :
    (p >>= f) >>= g = p >>= fun a => f a >>= g := by
  funext env
  rw [bind_run, bind_run, bind_run]
  cases p env <;> rfl

theorem perform_bind {g : Unit → Asking ι β γ} :
    perform c >>= g = (ask c : Asking ι β β) >>= fun _ => g () := by
  funext env
  rw [bind_run, perform, bind_run, bind_run, ask_run]
  cases env c <;> rfl

end

/-! ## Ending properly -/

/-- The computation ends properly, with a result in `Q`. -/
def Returns (p : Asking ι β α) (env : ι → Ending β) (Q : α → Prop) : Prop :=
  ∃ a, p env = .done a ∧ Q a

variable {env : ι → Ending β} {p q handler : Asking ι β α} {f : α → Asking ι β γ} {Q Q' : α → Prop}
  {R : γ → Prop} {a : α}

@[simp] theorem returns_pure : Returns (pure a) env Q ↔ Q a :=
  ⟨fun ⟨_, hrun, h⟩ => by cases hrun; exact h, fun h => ⟨a, rfl, h⟩⟩

@[simp] theorem returns_bind :
    Returns (p >>= f) env R ↔ Returns p env fun a => Returns (f a) env R := by
  rw [Returns, bind_run]
  rcases h : p env with a | std | -
  · exact ⟨fun hr => ⟨a, h, hr⟩, fun ⟨a', ha, hr⟩ => by rw [h] at ha; cases ha; exact hr⟩
  · constructor
    · rintro ⟨_, hb, -⟩
      cases hb
    · rintro ⟨_, ha, -⟩
      rw [h] at ha
      cases ha
  · constructor
    · rintro ⟨_, hb, -⟩
      cases hb
    · rintro ⟨_, ha, -⟩
      rw [h] at ha
      cases ha

@[simp] theorem returns_perform {c : ι} {R : Unit → Prop} :
    Returns (perform c) env R ↔ Returns (ask c : Asking ι β β) env fun _ => R () := by
  rw [perform, returns_bind]
  simp only [returns_pure]

@[simp] theorem returns_ite {c : Prop} [Decidable c] :
    Returns (if c then p else q) env Q ↔ if c then Returns p env Q else Returns q env Q := by
  split <;> rfl

@[simp] theorem not_returns_throwStd : ¬ Returns (throwStd : Asking ι β α) env Q :=
  fun ⟨_, h, _⟩ => nomatch h

@[simp] theorem not_returns_abort : ¬ Returns (abort : Asking ι β α) env Q :=
  fun ⟨_, h, _⟩ => nomatch h

@[simp] theorem not_returns_false : ¬ Returns p env fun _ => False := fun ⟨_, _, h⟩ => h

/-- A handler for standard exceptions runs after one. -/
theorem returns_catchStd : Returns (catchStd p handler) env Q
    ↔ Returns p env Q ∨ p env = .threw true ∧ Returns handler env Q := by
  unfold Returns catchStd
  rcases h : p env with a | std | -
  · simp
  · cases std <;> simp
  · simp

/-- With a handler for everything the block returns, or it throws and the handler returns. -/
theorem returns_catchAll : Returns (catchAll p handler) env Q
    ↔ Returns p env Q ∨ (∃ std, p env = .threw std) ∧ Returns handler env Q := by
  unfold Returns catchAll
  rcases h : p env with a | std | - <;> simp

/-- A handler that gives no result in `Q` makes no difference. -/
theorem returns_catchStd_of_not (h : ¬ Returns handler env Q) :
    Returns (catchStd p handler) env Q ↔ Returns p env Q := by
  rw [returns_catchStd, or_iff_left fun hh => h hh.2]

theorem returns_catchAll_of_not (h : ¬ Returns handler env Q) :
    Returns (catchAll p handler) env Q ↔ Returns p env Q := by
  rw [returns_catchAll, or_iff_left fun hh => h hh.2]

/-! ## Ending properly, or with a standard exception -/

/-- The computation ends, so that a handler of standard exceptions goes on after it. -/
def Settles (p : Asking ι β α) (env : ι → Ending β) : Prop :=
  Returns p env (fun _ => True) ∨ p env = .threw true

theorem settles_pure : Settles (pure a : Asking ι β α) env := .inl (returns_pure.mpr trivial)

theorem bind_eq_threw {std : Bool} : (p >>= f) env = .threw std
    ↔ p env = .threw std ∨ Returns p env fun a => f a env = .threw std := by
  rw [bind_run]
  unfold Returns
  rcases p env with a | std | - <;> simp

@[simp] theorem pure_ne_threw {std : Bool} : (pure a : Asking ι β α) env ≠ .threw std := nofun

/-- It settles where it throws, or where the rest does. -/
theorem settles_bind : Settles (p >>= f) env
    ↔ p env = .threw true ∨ Returns p env fun a => Settles (f a) env := by
  unfold Settles
  rw [returns_bind, bind_eq_threw]
  unfold Returns
  rcases p env with a | std | - <;> simp

@[simp] theorem perform_eq_threw {c : ι} {std : Bool} :
    (perform c : Asking ι β Unit) env = .threw std ↔ env c = .threw std := by
  rw [perform, bind_eq_threw, or_iff_left]
  · rfl
  · rintro ⟨_, -, h⟩
    cases h

theorem settles_ite {c : Prop} [Decidable c] :
    Settles (if c then p else q) env ↔ if c then Settles p env else Settles q env := by
  split <;> rfl

/-- After a handler that gives a result, what follows depends on the computation only by that it
settles, if it does not use the result. -/
theorem returns_catchStd_pure {P : Prop} :
    Returns (catchStd p (pure a)) env (fun _ => P) ↔ Settles p env ∧ P := by
  rw [returns_catchStd, returns_pure]
  unfold Settles Returns
  rcases p env with b | std | - <;> simp

/-! ## Ending in a result, if at all -/

/-- If the computation ends properly, its result is in `Q`. -/
def Yields (p : Asking ι β α) (env : ι → Ending β) (Q : α → Prop) : Prop :=
  ∀ a, p env = .done a → Q a

/-- The two readings of a run are dual. -/
theorem yields_iff : Yields p env Q ↔ ¬ Returns p env fun a => ¬ Q a := by
  unfold Yields Returns
  simp

@[simp] theorem yields_pure : Yields (pure a : Asking ι β α) env Q ↔ Q a := by
  simp [yields_iff]

@[simp] theorem yields_bind :
    Yields (p >>= f) env R ↔ Yields p env fun a => Yields (f a) env R := by
  simp [yields_iff]

@[simp] theorem yields_ite {c : Prop} [Decidable c] :
    Yields (if c then p else q) env Q ↔ if c then Yields p env Q else Yields q env Q := by
  split <;> rfl

@[simp] theorem yields_perform {c : ι} {R : Unit → Prop} :
    Yields (perform c) env R ↔ Yields (ask c : Asking ι β β) env fun _ => R () := by
  rw [perform, yields_bind]
  simp only [yields_pure]

/-- A result in any case. -/
theorem yields_const {P : Prop} :
    Yields p env (fun _ => P) ↔ (Returns p env (fun _ => True) → P) := by
  simp [Yields, Returns]

theorem yields_ask {c : ι} {Q : β → Prop} :
    Yields (ask c) env Q ↔ ∀ b, env c = .done b → Q b := Iff.rfl

/-- Only a standard exception comes to the handler. -/
theorem yields_catchStd : Yields (catchStd p handler) env Q
    ↔ Yields p env Q ∧ (p env = .threw true → Yields handler env Q) := by
  rw [yields_iff, yields_iff, yields_iff, returns_catchStd, not_or, not_and]

theorem yields_catchAll : Yields (catchAll p handler) env Q
    ↔ Yields p env Q ∧ ((∃ std, p env = .threw std) → Yields handler env Q) := by
  rw [yields_iff, yields_iff, yields_iff, returns_catchAll, not_or, not_and]

end Calls

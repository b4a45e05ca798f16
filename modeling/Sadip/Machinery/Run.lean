import Mathlib.Data.List.Basic

/-!
# Machinery/Run — runs of a partial step function

A system is a function that takes a state and an input to the next state, or to nothing.  A run is
a list of inputs; it has a result when every step of it does.  Two rules carry facts from one step
to a whole run: `Simulates.run` against an abstract system that always moves, and
`Meets.invariant` for an invariant that only steps of a certain kind keep.
-/

namespace Run

variable {σ τ α : Type*} {step : σ → α → Option σ}

/-- The state a run ends in. -/
def run (step : σ → α → Option σ) : σ → List α → Option σ
  | s, [] => some s
  | s, a :: as => (step s a).bind fun s' => run step s' as

theorem run_cons_of_step {s s' : σ} {a : α} (h : step s a = some s') (as : List α) :
    run step s (a :: as) = run step s' as := by
  rw [run, h, Option.bind_some]

theorem run_append (s : σ) : ∀ as bs : List α,
    run step s (as ++ bs) = (run step s as).bind fun s' => run step s' bs
  | [], _ => rfl
  | a :: as, bs => by
      rw [List.cons_append, run, run, Option.bind_assoc]
      exact congrArg _ (funext fun s' => run_append s' as bs)

/-! ## Simulation -/

/-- A relation that every step of the partial system keeps, on inputs `ok`, when the abstract
system moves along; in particular, related states do not get stuck. -/
def Simulates (step : σ → α → Option σ) (move : τ → α → τ) (R : σ → τ → Prop) (ok : α → Prop) :
    Prop :=
  ∀ s t a, R s t → ok a → ∃ s', step s a = some s' ∧ R s' (move t a)

/-- **A simulation carries over to runs.** -/
theorem Simulates.run {move : τ → α → τ} {R : σ → τ → Prop} {ok : α → Prop}
    (h : Simulates step move R ok) : ∀ (as : List α) (s : σ) (t : τ), R s t → (∀ a ∈ as, ok a) →
      ∃ s', Run.run step s as = some s' ∧ R s' (as.foldl move t)
  | [], s, t, hR, _ => ⟨s, rfl, hR⟩
  | a :: as, s, t, hR, hok => by
      obtain ⟨s', hstep, hR'⟩ := h s t a hR (hok a List.mem_cons_self)
      obtain ⟨s'', hrun, hR''⟩ := h.run as s' (move t a) hR' fun b hb =>
        hok b (List.mem_cons_of_mem a hb)
      exact ⟨s'', by rw [run_cons_of_step hstep, hrun], hR''⟩

/-! ## Guarded invariants -/

/-- Every step a run takes is one that `G` allows in the state it starts from. -/
def Meets (step : σ → α → Option σ) (G : σ → α → Prop) : σ → List α → Prop
  | _, [] => True
  | s, a :: as => G s a ∧ ∀ s', step s a = some s' → Meets step G s' as

instance Meets.decidable {G : σ → α → Prop} [∀ s a, Decidable (G s a)] :
    ∀ (as : List α) (s : σ), Decidable (Meets step G s as)
  | [], _ => isTrue trivial
  | a :: as, s =>
      match h : step s a with
      | none => decidable_of_iff (G s a) ⟨fun hG => ⟨hG, fun _ hs => by simp [h] at hs⟩, And.left⟩
      | some s' =>
          have : Decidable (Meets step G s' as) := Meets.decidable as s'
          decidable_of_iff (G s a ∧ Meets step G s' as)
            ⟨fun ⟨hG, hm⟩ => ⟨hG, fun _ hs => Option.some.inj (h.symm.trans hs) ▸ hm⟩,
              fun ⟨hG, hm⟩ => ⟨hG, hm s' h⟩⟩

theorem Meets.and_run_cons {G : σ → α → Prop} {s s₁ s' : σ} {a : α} {as : List α} (hG : G s a)
    (hs : step s a = some s₁) (h : Meets step G s₁ as ∧ run step s₁ as = some s') :
    Meets step G s (a :: as) ∧ run step s (a :: as) = some s' := by
  refine ⟨⟨hG, fun s₂ hs₂ => ?_⟩, (run_cons_of_step hs as).trans h.2⟩
  obtain rfl := Option.some.inj (hs.symm.trans hs₂)
  exact h.1

/-- **An invariant that allowed steps keep holds at the end of an allowed run.** -/
theorem Meets.invariant {G : σ → α → Prop} {Inv : σ → Prop}
    (hstep : ∀ s a s', Inv s → G s a → step s a = some s' → Inv s') :
    ∀ (as : List α) (s : σ), Inv s → Meets step G s as → ∀ s', run step s as = some s' → Inv s'
  | [], s, hs, _, s', h => by
      obtain rfl : s = s' := Option.some.inj h
      exact hs
  | a :: as, s, hs, ⟨hG, hrest⟩, s', h => by
      obtain ⟨s₁, hs₁, hrun⟩ := Option.bind_eq_some_iff.mp h
      exact invariant hstep as s₁ (hstep s a s₁ hs hG hs₁) (hrest s₁ hs₁) s' hrun

theorem meets_true : ∀ (as : List α) (s : σ), Meets step (fun _ _ => True) s as
  | [], _ => trivial
  | _ :: as, _ => ⟨trivial, fun s' _ => meets_true as s'⟩

/-- An invariant of every step is one of every run. -/
theorem invariant {Inv : σ → Prop} (hstep : ∀ s a s', Inv s → step s a = some s' → Inv s')
    {as : List α} {s s' : σ} (hs : Inv s) (h : run step s as = some s') : Inv s' :=
  Meets.invariant (fun s a s' hs _ => hstep s a s' hs) as s hs (meets_true as s) s' h

/-! ## Lawful runs -/

/-- Every step of the run succeeds, and the states before and after it obey `law`. -/
def Follows (step : σ → α → Option σ) (law : σ → α → σ → Prop) : σ → List α → Prop
  | _, [] => True
  | s, a :: as => ∃ s', step s a = some s' ∧ law s a s' ∧ Follows step law s' as

/-- A system that takes at least the same steps follows the law on the same runs. -/
theorem Follows.mono {step' : σ → α → Option σ} {law : σ → α → σ → Prop}
    (h : ∀ s a s', step s a = some s' → step' s a = some s') :
    ∀ (as : List α) (s : σ), Follows step law s as → Follows step' law s as
  | [], _, _ => trivial
  | a :: as, s, ⟨s', hstep, hlaw, hrest⟩ => ⟨s', h s a s' hstep, hlaw, Follows.mono h as s' hrest⟩

/-- **Lawful runs are those whose steps all meet the condition**, when this is so of single steps
from states with an invariant, and lawful steps keep the invariant. -/
theorem follows_iff_meets {L : σ → α → σ → Prop} {G : σ → α → Prop} {I : σ → Prop}
    (hiff : ∀ s a, I s → ((∃ s', step s a = some s' ∧ L s a s') ↔ G s a))
    (hkeep : ∀ s a s', I s → step s a = some s' → L s a s' → I s') :
    ∀ (as : List α) (s : σ), I s → (Follows step L s as ↔ Meets step G s as)
  | [], _, _ => Iff.rfl
  | a :: as, s, hs => by
      constructor
      · rintro ⟨s', hstep, hlaw, hrest⟩
        refine ⟨(hiff s a hs).mp ⟨s', hstep, hlaw⟩, fun s'' hs'' => ?_⟩
        obtain rfl : s' = s'' := Option.some.inj (hstep.symm.trans hs'')
        exact (follows_iff_meets hiff hkeep as s' (hkeep s a s' hs hstep hlaw)).mp hrest
      · rintro ⟨hG, hrest⟩
        obtain ⟨s', hstep, hlaw⟩ := (hiff s a hs).mpr hG
        exact ⟨s', hstep, hlaw, (follows_iff_meets hiff hkeep as s'
          (hkeep s a s' hs hstep hlaw)).mpr (hrest s' hstep)⟩

/-- Every step that a run takes obeys `law`. -/
def Obeys (step : σ → α → Option σ) (law : σ → α → σ → Prop) : σ → List α → Prop :=
  Meets step fun s a => ∀ s', step s a = some s' → law s a s'

/-- **The law of a run is the condition of its steps**, when this is so of single steps from states
with an invariant, and lawful steps keep the invariant. -/
theorem obeys_iff_meets {L : σ → α → σ → Prop} {G : σ → α → Prop} {I : σ → Prop}
    (hiff : ∀ s a, I s → ((∀ s', step s a = some s' → L s a s') ↔ G s a))
    (hkeep : ∀ s a s', I s → step s a = some s' → L s a s' → I s') :
    ∀ (as : List α) (s : σ), I s → (Obeys step L s as ↔ Meets step G s as)
  | [], _, _ => Iff.rfl
  | a :: as, s, hs => by
      constructor
      · rintro ⟨hlaw, hrest⟩
        exact ⟨(hiff s a hs).mp hlaw, fun s' hs' => (obeys_iff_meets hiff hkeep as s'
          (hkeep s a s' hs hs' (hlaw s' hs'))).mp (hrest s' hs')⟩
      · rintro ⟨hG, hrest⟩
        have hlaw := (hiff s a hs).mpr hG
        exact ⟨hlaw, fun s' hs' => (obeys_iff_meets hiff hkeep as s'
          (hkeep s a s' hs hs' (hlaw s' hs'))).mpr (hrest s' hs')⟩

end Run

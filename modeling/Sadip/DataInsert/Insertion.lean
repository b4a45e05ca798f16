import Mathlib.Data.List.Nodup
import Sadip.Machinery.Sql.Insert

/-!
# DataInsert/Insertion — what `camInsert` does to the world

`camInsert` takes identifiers from `nextId`, prints texts into buffers and has statements executed.
What it does is a tree of such steps, which branches on the identifiers only: it does not look at
its strings, nor at what the database answers.  `run` carries it out for a sequence of identifiers
and for what the strings are.

Two predicates follow the tree.  `Yields` is about the runs that use no buffer beyond its end: which
identifiers were taken and which statements executed when the result is returned, or when the
behaviour becomes undefined.  `Always` is about every statement that is executed.
-/

namespace Sadip

namespace DataInsert

open Printf Sql

abbrev Text (σ : Type) := List (Chunk σ)

/-! ## Steps -/

inductive Insertion (σ α : Type)
  | done (a : α)
  | draw (k : Int64 → Insertion σ α)
  /-- a text is printed into a buffer -/
  | print (size : ℕ) (text : Text σ) (k : Insertion σ α)
  | execute (text : Text σ) (k : Insertion σ α)
  /-- the end of a loop: a text of more than ten bytes gets a semicolon and is executed -/
  | flush (sqls : Text σ) (k : Insertion σ α)
  /-- an element is read that a list does not have, or a conversion finds no argument of its type -/
  | undefined

variable {σ α β : Type}

namespace Insertion

def bind : Insertion σ α → (α → Insertion σ β) → Insertion σ β
  | done a, f => f a
  | draw k, f => draw fun id => bind (k id) f
  | print size text k, f => print size text (bind k f)
  | execute text k, f => execute text (bind k f)
  | flush sqls k, f => flush sqls (bind k f)
  | undefined, _ => undefined

instance : Monad (Insertion σ) where
  pure := done
  bind := bind

theorem bind_done : ∀ p : Insertion σ α, bind p done = p
  | done _ => rfl
  | draw k => congrArg draw (funext fun id => bind_done (k id))
  | print size text k => congrArg (print size text) (bind_done k)
  | execute text k => congrArg (execute text) (bind_done k)
  | flush sqls k => congrArg (flush sqls) (bind_done k)
  | undefined => rfl

theorem bind_assoc {γ : Type} (f : α → Insertion σ β) (g : β → Insertion σ γ) :
    ∀ p : Insertion σ α, bind (bind p f) g = bind p fun a => bind (f a) g
  | done _ => rfl
  | draw k => congrArg draw (funext fun id => bind_assoc f g (k id))
  | print size text k => congrArg (print size text) (bind_assoc f g k)
  | execute text k => congrArg (execute text) (bind_assoc f g k)
  | flush sqls k => congrArg (flush sqls) (bind_assoc f g k)
  | undefined => rfl

instance : LawfulMonad (Insertion σ) :=
  .mk' _ bind_done (fun _ _ => rfl) fun p f g => bind_assoc f g p

/-- How a run ends. -/
inductive Ending (α : Type)
  | done (a : α)
  /-- a text did not fit its buffer -/
  | overflow
  | undefined

structure Outcome (σ α : Type) where
  /-- the identifiers taken -/
  drawn : List Int64
  /-- the statements executed, in order -/
  statements : List (Text σ)
  ending : Ending α

/-- Unless a text did not fit, what happened is in `R` or, when the behaviour became undefined, in
`U`. -/
def Outcome.Meets (o : Outcome σ α) (R : List Int64 → List (Text σ) → α → Prop)
    (U : List Int64 → List (Text σ) → Prop) : Prop :=
  match o.ending with
  | .done a => R o.drawn o.statements a
  | .overflow => True
  | .undefined => U o.drawn o.statements

/-- The result is returned, and what happened is in `R`. -/
def Outcome.Delivers (o : Outcome σ α) (R : List Int64 → List (Text σ) → α → Prop) : Prop :=
  ∃ a, o.ending = .done a ∧ R o.drawn o.statements a

/-- The run with these identifiers, from the `n`th on. -/
def run (print : σ → List Char) (ids : ℕ → Int64) : Insertion σ α → ℕ → Outcome σ α
  | done a, _ => ⟨[], [], .done a⟩
  | draw k, n =>
    let o := run print ids (k (ids n)) (n + 1)
    { o with drawn := ids n :: o.drawn }
  | .print size text k, n =>
    -- the buffer has to hold a NUL too
    if Printf.size print text < size then run print ids k n else ⟨[], [], .overflow⟩
  | execute text k, n =>
    let o := run print ids k n
    { o with statements := text :: o.statements }
  | flush sqls k, n =>
    let o := run print ids k n
    if 10 < Printf.size print sqls then { o with statements := terminated sqls :: o.statements }
    else o
  | undefined, _ => ⟨[], [], .undefined⟩

/-- One run, and the next if it returns. -/
def Outcome.andThen (o : Outcome σ α) (next : α → Outcome σ β) : Outcome σ β :=
  match o.ending with
  | .done a => ⟨o.drawn ++ (next a).drawn, o.statements ++ (next a).statements, (next a).ending⟩
  | .overflow => ⟨o.drawn, o.statements, .overflow⟩
  | .undefined => ⟨o.drawn, o.statements, .undefined⟩

theorem Outcome.andThen_draw (id : Int64) (o : Outcome σ α) (next : α → Outcome σ β) :
    Outcome.andThen { o with drawn := id :: o.drawn } next
      = { o.andThen next with drawn := id :: (o.andThen next).drawn } := by
  rcases o with ⟨ds, ss, a | _ | _⟩ <;> rfl

theorem Outcome.andThen_execute (text : Text σ) (o : Outcome σ α) (next : α → Outcome σ β) :
    Outcome.andThen { o with statements := text :: o.statements } next
      = { o.andThen next with statements := text :: (o.andThen next).statements } := by
  rcases o with ⟨ds, ss, a | _ | _⟩ <;> rfl

/-- **A part is run by itself**, with the identifiers that the part before it left. -/
theorem run_bind (print : σ → List Char) (ids : ℕ → Int64) (f : α → Insertion σ β) :
    ∀ (p : Insertion σ α) (n : ℕ), (p >>= f).run print ids n = (p.run print ids n).andThen fun a =>
      (f a).run print ids (n + (p.run print ids n).drawn.length)
  | done _, _ => rfl
  | draw k, n => by
      show (let o := run print ids (k (ids n) >>= f) (n + 1); { o with drawn := ids n :: o.drawn })
        = _
      rw [run_bind print ids f (k (ids n)) (n + 1), run, Outcome.andThen_draw, List.length_cons,
        Nat.add_right_comm n 1]
      rfl
  | .print size text k, n => by
      show (if _ then run print ids (k >>= f) n else _) = _
      rw [run]
      split
      · exact run_bind print ids f k n
      · rfl
  | execute text k, n => by
      show (let o := run print ids (k >>= f) n; { o with statements := text :: o.statements }) = _
      rw [run_bind print ids f k n, run, Outcome.andThen_execute]
  | flush sqls k, n => by
      show (if _ then (let o := run print ids (k >>= f) n;
        { o with statements := terminated sqls :: o.statements })
        else run print ids (k >>= f) n) = _
      rw [run_bind print ids f k n, run]
      split
      · rw [Outcome.andThen_execute]
      · rfl
  | undefined, _ => rfl

/-- A run depends on the lengths of the strings only. -/
theorem run_congr {print print' : σ → List Char}
    (h : ∀ s, ((print s).map Char.utf8Size).sum = ((print' s).map Char.utf8Size).sum)
    (ids : ℕ → Int64) : ∀ (p : Insertion σ α) (n : ℕ), p.run print ids n = p.run print' ids n
  | done _, _ => rfl
  | draw k, n => by rw [run, run, run_congr h ids (k (ids n)) (n + 1)]
  | .print size text k, n => by rw [run, run, size_congr h text, run_congr h ids k n]
  | execute text k, n => by rw [run, run, run_congr h ids k n]
  | flush sqls k, n => by rw [run, run, size_congr h sqls, run_congr h ids k n]
  | undefined, _ => rfl

/-! ### Runs within the buffers -/

/-- With identifiers in `I`: `R` holds of those taken, the statements executed and the result when
it is returned; `U` holds of those taken and the statements executed when the behaviour becomes
undefined. -/
def Yields (print : σ → List Char) (I : Int64 → Prop) : Insertion σ α →
    (List Int64 → List (Text σ) → α → Prop) → (List Int64 → List (Text σ) → Prop) → Prop
  | done a, R, _ => R [] [] a
  | draw k, R, U =>
    ∀ id, I id → Yields print I (k id) (fun ds => R (id :: ds)) fun ds => U (id :: ds)
  | .print _ _ k, R, U => Yields print I k R U
  | execute text k, R, U =>
    Yields print I k (fun ds ss => R ds (text :: ss)) fun ds ss => U ds (text :: ss)
  | flush sqls k, R, U =>
    if 10 < Printf.size print sqls then
      Yields print I k (fun ds ss => R ds (terminated sqls :: ss))
        fun ds ss => U ds (terminated sqls :: ss)
    else Yields print I k R U
  | undefined, _, U => U [] []

/-- Every statement is in `W`, whatever the run, and the result is in `Q`. -/
def Always (W : Text σ → Prop) : Insertion σ α → (α → Prop) → Prop
  | done a, Q => Q a
  | draw k, Q => ∀ id, Always W (k id) Q
  | .print _ _ k, Q => Always W k Q
  | execute text k, Q => W text ∧ Always W k Q
  | flush sqls k, Q => (sqls ≠ [] → W (terminated sqls)) ∧ Always W k Q
  | undefined, _ => True

variable {print : σ → List Char} {I : Int64 → Prop} {f : α → Insertion σ β} {W : Text σ → Prop}

@[simp] theorem yields_pure {a : α} {R : List Int64 → List (Text σ) → α → Prop}
    {U : List Int64 → List (Text σ) → Prop} : Yields print I (pure a) R U ↔ R [] [] a := Iff.rfl

@[simp] theorem always_pure {a : α} {Q : α → Prop} : Always W (pure a) Q ↔ Q a := Iff.rfl

theorem Yields.mono : ∀ {p : Insertion σ α} {R R' : List Int64 → List (Text σ) → α → Prop}
    {U U' : List Int64 → List (Text σ) → Prop}, Yields print I p R U →
    (∀ ds ss a, R ds ss a → R' ds ss a) → (∀ ds ss, U ds ss → U' ds ss) → Yields print I p R' U'
  | done _, _, _, _, _, h, hR, _ => hR _ _ _ h
  | draw k, _, _, _, _, h, hR, hU =>
      fun id hid => Yields.mono (p := k id) (h id hid) (fun _ => hR _) fun _ => hU _
  | .print _ _ k, _, _, _, _, h, hR, hU => Yields.mono (p := k) h hR hU
  | execute _ k, _, _, _, _, h, hR, hU =>
      Yields.mono (p := k) h (fun _ _ => hR _ _) fun _ _ => hU _ _
  | flush sqls k, R, R', U, U', h, hR, hU => by
      rw [Yields] at h ⊢
      split
      · next hsize =>
          rw [if_pos hsize] at h
          exact Yields.mono (p := k) h (fun _ _ => hR _ _) fun _ _ => hU _ _
      · next hsize =>
          rw [if_neg hsize] at h
          exact Yields.mono (p := k) h hR hU
  | undefined, _, _, _, _, h, _, hU => hU _ _ h

/-- There may be fewer identifiers. -/
theorem Yields.restrict {J : Int64 → Prop} (hI : ∀ id, I id → J id) :
    ∀ {p : Insertion σ α} {R : List Int64 → List (Text σ) → α → Prop}
      {U : List Int64 → List (Text σ) → Prop}, Yields print J p R U → Yields print I p R U
  | done _, _, _, h => h
  | draw k, _, _, h => fun id hid => Yields.restrict hI (p := k id) (h id (hI id hid))
  | .print _ _ k, _, _, h => Yields.restrict hI (p := k) h
  | execute _ k, _, _, h => Yields.restrict hI (p := k) h
  | flush sqls k, R, U, h => by
      rw [Yields] at h ⊢
      split
      · next hsize =>
          rw [if_pos hsize] at h
          exact Yields.restrict hI (p := k) h
      · next hsize =>
          rw [if_neg hsize] at h
          exact Yields.restrict hI (p := k) h
  | undefined, _, _, h => h

theorem yields_bind : ∀ {p : Insertion σ α} {R : List Int64 → List (Text σ) → β → Prop}
    {U : List Int64 → List (Text σ) → Prop}, Yields print I (p >>= f) R U ↔
      Yields print I p (fun ds ss a => Yields print I (f a)
        (fun ds' ss' => R (ds ++ ds') (ss ++ ss')) fun ds' ss' => U (ds ++ ds') (ss ++ ss')) U
  | done _, _, _ => Iff.rfl
  | draw k, R, U => forall₂_congr fun id _ => yields_bind (p := k id)
  | .print _ _ k, R, U => yields_bind (p := k)
  | execute _ k, R, U => yields_bind (p := k)
  | flush sqls k, R, U => by
      show (if _ then Yields print I (k >>= f) _ _ else Yields print I (k >>= f) _ _) ↔ _
      rw [Yields]
      split
      · exact yields_bind (p := k)
      · exact yields_bind (p := k)
  | undefined, _, _ => Iff.rfl

theorem Yields.and : ∀ {p : Insertion σ α} {R R' : List Int64 → List (Text σ) → α → Prop}
    {U U' : List Int64 → List (Text σ) → Prop}, Yields print I p R U → Yields print I p R' U' →
    Yields print I p (fun ds ss a => R ds ss a ∧ R' ds ss a) fun ds ss => U ds ss ∧ U' ds ss
  | done _, _, _, _, _, h, h' => ⟨h, h'⟩
  | draw k, _, _, _, _, h, h' => fun id hid => Yields.and (p := k id) (h id hid) (h' id hid)
  | .print _ _ k, _, _, _, _, h, h' => Yields.and (p := k) h h'
  | execute _ k, _, _, _, _, h, h' => Yields.and (p := k) h h'
  | flush sqls k, _, _, _, _, h, h' => by
      rw [Yields] at h h' ⊢
      split
      · next hsize =>
          rw [if_pos hsize] at h h'
          exact Yields.and (p := k) h h'
      · next hsize =>
          rw [if_neg hsize] at h h'
          exact Yields.and (p := k) h h'
  | undefined, _, _, _, _, h, h' => ⟨h, h'⟩

theorem Always.yields : ∀ {p : Insertion σ α} {Q : α → Prop}, Always W p Q →
    Yields print I p (fun _ ss a => Q a ∧ ∀ t ∈ ss, W t) fun _ ss => ∀ t ∈ ss, W t
  | done _, _, h => ⟨h, nofun⟩
  | draw k, _, h => fun id _ => Always.yields (p := k id) (h id)
  | .print _ _ k, _, h => Always.yields (p := k) h
  | execute text k, _, h => by
      rw [Yields]
      refine Yields.mono (Always.yields (p := k) h.2) (fun _ ss a hss => ⟨hss.1, ?_⟩)
        fun _ ss hss => ?_
      · exact List.forall_mem_cons.mpr ⟨h.1, hss.2⟩
      · exact List.forall_mem_cons.mpr ⟨h.1, hss⟩
  | flush sqls k, _, h => by
      rw [Yields]
      split
      · next hsize =>
          have hne : sqls ≠ [] := fun hnil =>
            absurd hsize (by rw [hnil]; exact Nat.not_lt_zero 10)
          refine Yields.mono (Always.yields (p := k) h.2) (fun _ ss a hss => ⟨hss.1, ?_⟩)
            fun _ ss hss => ?_
          · exact List.forall_mem_cons.mpr ⟨h.1 hne, hss.2⟩
          · exact List.forall_mem_cons.mpr ⟨h.1 hne, hss⟩
      · exact Always.yields (p := k) h.2
  | undefined, _, _ => nofun

/-- **Runs within the buffers do what `Yields` says.** -/
theorem Yields.run {ids : ℕ → Int64} (hids : ∀ n, I (ids n)) : ∀ {p : Insertion σ α}
    {R : List Int64 → List (Text σ) → α → Prop} {U : List Int64 → List (Text σ) → Prop},
    Yields print I p R U → ∀ n : ℕ, (p.run print ids n).Meets R U
  | done _, _, _, h, _ => h
  | draw k, _, _, h, n => Yields.run hids (p := k (ids n)) (h (ids n) (hids n)) (n + 1)
  | .print size text k, _, _, h, n => by
      rw [Insertion.run]
      split
      · exact Yields.run hids (p := k) h n
      · trivial
  | execute text k, _, _, h, n => Yields.run hids (p := k) h n
  | flush sqls k, R, U, h, n => by
      rw [Yields] at h
      rw [Insertion.run]
      split
      · next hsize =>
          rw [if_pos hsize] at h
          exact Yields.run hids (p := k) h n
      · next hsize =>
          rw [if_neg hsize] at h
          exact Yields.run hids (p := k) h n
  | undefined, _, _, h, _ => h

/-- With these identifiers, from the `n`th on, every text fits its buffer, and if the result is
returned it is in `Q`. -/
def Within (print : σ → List Char) (ids : ℕ → Int64) : Insertion σ α → ℕ → (α → ℕ → Prop) → Prop
  | done a, n, Q => Q a n
  | draw k, n, Q => Within print ids (k (ids n)) (n + 1) Q
  | .print size text k, n, Q => Printf.size print text < size ∧ Within print ids k n Q
  | execute _ k, n, Q => Within print ids k n Q
  | flush _ k, n, Q => Within print ids k n Q
  | undefined, _, _ => True

/-- Every text fits its buffer. -/
def Fits (print : σ → List Char) (ids : ℕ → Int64) (p : Insertion σ α) (n : ℕ) : Prop :=
  Within print ids p n fun _ _ => True

/-- **Texts that fit** do not overflow. -/
theorem Within.run {ids : ℕ → Int64} : ∀ {p : Insertion σ α} {n : ℕ},
    Within print ids p n (fun _ _ => True) ↔ (p.run print ids n).ending ≠ .overflow
  | done _, _ => iff_of_true trivial nofun
  | draw k, n => Within.run (p := k (ids n))
  | .print size text k, n => by
      rw [Within, Insertion.run]
      split
      · next hfit => exact (and_iff_right hfit).trans (Within.run (p := k))
      · next hover => exact iff_of_false (fun h => hover h.1) fun h => h rfl
  | execute _ k, _ => Within.run (p := k)
  | flush sqls k, n => by
      rw [Insertion.run]
      split
      · exact Within.run (p := k)
      · exact Within.run (p := k)
  | undefined, _ => iff_of_true trivial nofun

/-- **When a run delivers**: its texts have to fit their buffers, and what decides the rest is `P`.
-/
theorem Yields.delivered_iff {ids : ℕ → Int64} (hids : ∀ n, I (ids n)) {p : Insertion σ α}
    {P : Prop}
    {R : List Int64 → List (Text σ) → α → Prop}
    (h : Yields print I p (fun ds ss a => R ds ss a ↔ P) fun _ _ => ¬P) (n : ℕ) :
    (p.run print ids n).Delivers R ↔ Fits print ids p n ∧ P := by
  have hmeets := Yields.run hids h n
  rw [Fits, Within.run, Outcome.Delivers]
  rw [Outcome.Meets] at hmeets
  cases hending : (p.run print ids n).ending with
  | done a =>
      rw [hending] at hmeets
      constructor
      · rintro ⟨b, heq, hR⟩
        obtain rfl := Ending.done.inj heq
        exact ⟨nofun, hmeets.mp hR⟩
      · exact fun hP => ⟨a, rfl, hmeets.mpr hP.2⟩
  | overflow => exact iff_of_false (fun h => nomatch h.choose_spec.1) fun h => h.1 rfl
  | undefined =>
      rw [hending] at hmeets
      exact iff_of_false (fun h => nomatch h.choose_spec.1) fun h => hmeets h.2

/-- The end is reached if `P`, and if not the behaviour becomes undefined. -/
def Completes (print : σ → List Char) (p : Insertion σ α) (P : Prop) : Prop :=
  Yields print (fun _ => True) p (fun _ _ _ => P) fun _ _ => ¬P

/-- Without its condition nothing is delivered. -/
theorem Completes.undelivered {p : Insertion σ α} {P : Prop} (hp : Completes print p P) (hP : ¬P)
    (ids : ℕ → Int64) (n : ℕ) (R : List Int64 → List (Text σ) → α → Prop) :
    ¬(p.run print ids n).Delivers R := by
  rintro ⟨a, hending, -⟩
  have hmeets : (p.run print ids n).Meets _ _ := Yields.run (fun _ => trivial) hp n
  rw [Outcome.Meets, hending] at hmeets
  exact hP hmeets

/-- With what the statements are, whichever way it ends. -/
theorem Completes.yields {p : Insertion σ α} {P : Prop} {Q : α → Prop} (hp : Completes print p P)
    (hW : Always W p Q) :
    Yields print I p (fun _ ss _ => P ∧ ∀ t ∈ ss, W t) fun _ ss => ¬P ∧ ∀ t ∈ ss, W t :=
  ((Yields.restrict (fun _ _ => trivial) hp).and hW.yields).mono (fun _ _ _ h => ⟨h.1, h.2.2⟩)
    fun _ _ h => h

theorem Completes.congr {p : Insertion σ α} {P Q : Prop} (h : Completes print p P) (hPQ : P ↔ Q) :
    Completes print p Q :=
  Yields.mono h (fun _ _ _ => hPQ.mp) fun _ _ hP hQ => hP (hPQ.mpr hQ)

theorem Completes.bind {p : Insertion σ α} {P Q : Prop} (hp : Completes print p P)
    (hf : ∀ a, Completes print (f a) Q) : Completes print (p >>= f) (P ∧ Q) := by
  refine yields_bind.mpr (Yields.mono hp (fun _ _ a hP => ?_) fun _ _ hP h => hP h.1)
  exact Yields.mono (hf a) (fun _ _ _ hQ => ⟨hP, hQ⟩) fun _ _ hQ h => hQ h.2

/-- A part that always reaches its end. -/
theorem Completes.then {p : Insertion σ α} {Q : Prop} (hp : Completes print p True)
    (hf : ∀ a, Completes print (f a) Q) : Completes print (p >>= f) Q :=
  (hp.bind hf).congr (and_iff_right trivial)

theorem completes_pure (a : α) : Completes print (pure a : Insertion σ α) True := trivial

theorem Always.mono : ∀ {p : Insertion σ α} {Q Q' : α → Prop},
    Always W p Q → (∀ a, Q a → Q' a) → Always W p Q'
  | done _, _, _, h, hQ => hQ _ h
  | draw k, _, _, h, hQ => fun id => Always.mono (p := k id) (h id) hQ
  | .print _ _ k, _, _, h, hQ => Always.mono (p := k) h hQ
  | execute _ k, _, _, h, hQ => ⟨h.1, Always.mono (p := k) h.2 hQ⟩
  | flush _ k, _, _, h, hQ => ⟨h.1, Always.mono (p := k) h.2 hQ⟩
  | undefined, _, _, _, _ => trivial

theorem always_true : ∀ p : Insertion σ α, Always (fun _ => True) p fun _ => True
  | done _ => trivial
  | draw k => fun id => always_true (k id)
  | .print _ _ k => always_true k
  | execute _ k => ⟨trivial, always_true k⟩
  | flush _ k => ⟨fun _ => trivial, always_true k⟩
  | undefined => trivial

theorem Always.weaken {W' : Text σ → Prop} (hW : ∀ t, W t → W' t) :
    ∀ {p : Insertion σ α} {Q : α → Prop}, Always W p Q → Always W' p Q
  | done _, _, h => h
  | draw k, _, h => fun id => Always.weaken hW (p := k id) (h id)
  | .print _ _ k, _, h => Always.weaken hW (p := k) h
  | execute _ k, _, h => ⟨hW _ h.1, Always.weaken hW (p := k) h.2⟩
  | flush _ k, _, h => ⟨fun hne => hW _ (h.1 hne), Always.weaken hW (p := k) h.2⟩
  | undefined, _, _ => trivial

theorem always_bind : ∀ {p : Insertion σ α} {Q : β → Prop},
    Always W (p >>= f) Q ↔ Always W p fun a => Always W (f a) Q
  | done _, _ => Iff.rfl
  | draw k, _ => forall_congr' fun id => always_bind (p := k id)
  | .print _ _ k, _ => always_bind (p := k)
  | execute _ k, _ => and_congr_right fun _ => always_bind (p := k)
  | flush _ k, _ => and_congr_right fun _ => always_bind (p := k)
  | undefined, _ => Iff.rfl

theorem Always.bind {p : Insertion σ α} {Q : α → Prop} {Q' : β → Prop} (hp : Always W p Q)
    (hf : ∀ a, Q a → Always W (f a) Q') : Always W (p >>= f) Q' :=
  always_bind.mpr (hp.mono hf)

/-- **Every statement of a run is as `Always` says.** -/
theorem Always.run (ids : ℕ → Int64) : ∀ {p : Insertion σ α} {Q : α → Prop}, Always W p Q →
    ∀ n : ℕ, ∀ t ∈ (p.run print ids n).statements, W t
  | done _, _, _, _, _, ht => by cases ht
  | draw k, _, h, n, t, ht => Always.run ids (p := k (ids n)) (h (ids n)) (n + 1) t ht
  | .print size text k, _, h, n, t, ht => by
      rw [Insertion.run] at ht
      split at ht
      · exact Always.run ids (p := k) h n t ht
      · cases ht
  | execute text k, _, h, n, t, ht => by
      rcases List.mem_cons.mp ht with rfl | ht
      · exact h.1
      · exact Always.run ids (p := k) h.2 n t ht
  | flush sqls k, _, h, n, t, ht => by
      rw [Insertion.run] at ht
      split at ht
      · next hsize =>
          rcases List.mem_cons.mp ht with rfl | ht
          · exact h.1 fun hnil => absurd hsize (by rw [hnil]; exact Nat.not_lt_zero 10)
          · exact Always.run ids (p := k) h.2 n t ht
      · exact Always.run ids (p := k) h.2 n t ht
  | undefined, _, _, _, _, ht => by cases ht

end Insertion

end DataInsert

end Sadip

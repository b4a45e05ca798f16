import Sadip.LogMonitor.Delivery

/-!
# LogMonitor/Publishing — what becomes of a batch, `node/src/LogMonitor.cpp`,
`node/src/LogTopic.cpp`

A batch is taken out of the queue before `write_log_data` is called with it, and `lastPos` is moved
behind its lines in any case.  `write_log_data` says no when the publisher is not there yet or its
`put` throws, and the answer is only logged: the lines of the batch are in no later batch
(`survives_iff`).
-/

namespace Sadip

namespace LogMonitor

open Lines

/-- The lines taken out of the queue for a batch, in order. -/
def taken (s : State) : List (List UInt8) := s.batches.flatMap Prod.fst

/-- The lines of the batches that `write_log_data` sent, in order. -/
def published (s : State) : List (List UInt8) := (s.batches.filter Prod.snd).flatMap Prod.fst

/-- **Every line taken for a batch is published, once and in order**, here or in some continuation
of the run. -/
def Survives (s : State) : Prop :=
  ∃ later t, Run.run step s later = some t ∧ published t = taken t

/-- A round of the inner loop that makes a batch. -/
def MakesBatch (s : State) (late : Bool) : Prop :=
  s.phase = .reading ∧ s._stop = false ∧ s.failed = false ∧
    (getline 10 s.content s.pos).isSome = true ∧ late = true

instance (s : State) (late : Bool) : Decidable (MakesBatch s late) := by
  unfold MakesBatch
  infer_instance

/-- The batch that is made, if any, is sent. -/
def Sends (s : State) : Event → Prop
  | .read late sent => MakesBatch s late → sent = true
  | _ => True

instance (s : State) : (e : Event) → Decidable (Sends s e)
  | .read late sent => inferInstanceAs (Decidable (MakesBatch s late → sent = true))
  | .append _ => .isTrue trivial
  | .stop => .isTrue trivial
  | .loop => .isTrue trivial
  | .wake => .isTrue trivial

variable {s s' : State} {e : Event}

/-! ## The batches -/

/-- No batch is empty. -/
def Filled (s : State) : Prop := ∀ b ∈ s.batches, b.1 ≠ []

/-- All batches have been sent. -/
def AllSent (s : State) : Prop := ∀ b ∈ s.batches, b.2 = true

theorem enqueue_ne_nil (line : List UInt8) : (s.enqueue line).logQueue_ ≠ [] := by
  rw [State.enqueue]
  dsimp only
  split
  · rename_i hlong
    intro hnil
    have hlen := congrArg List.length hnil
    rw [List.length_tail, List.length_nil] at hlen
    rw [_maxQueueSize] at hlong
    omega
  · simp

/-- **What a round of the inner loop does to the batches.** -/
theorem batches_read (hp : s.phase = .reading) (late sent : Bool) :
    ¬ MakesBatch s late ∧ (s.read late sent).batches = s.batches ∨
      MakesBatch s late ∧ ∃ lines, lines ≠ [] ∧
        (s.read late sent).batches = s.batches ++ [(lines, sent)] := by
  rw [State.read]
  split
  · rename_i hstop
    refine .inl ⟨fun h => ?_, rfl⟩
    rcases hstop with hstop | hfailed
    · exact absurd (hstop.symm.trans h.2.1) (by simp)
    · exact absurd (hfailed.symm.trans h.2.2.1) (by simp)
  · rename_i hgo
    rw [not_or, Bool.not_eq_true, Bool.not_eq_true] at hgo
    rcases hline : getline 10 s.content s.pos with - | ⟨line, pos⟩
    · refine .inl ⟨fun h => ?_, rfl⟩
      rw [MakesBatch, hline] at h
      exact absurd h.2.2.2.1 (by simp)
    · cases late
      · exact .inl ⟨fun h => absurd h.2.2.2.2 (by simp), rfl⟩
      · have hqueue := enqueue_ne_nil (s := { s with pos }) line
        refine .inr ⟨⟨hp, hgo.1, hgo.2, by rw [hline]; rfl, rfl⟩, _, hqueue, ?_⟩
        exact if_pos (List.length_pos_iff.mpr hqueue)

/-- **A step makes a batch, which is sent or not, or leaves the batches alone.** -/
theorem batches_step (h : step s e = some s') :
    s'.batches = s.batches ∧ Sends s e ∨
      ∃ lines sent, lines ≠ [] ∧ s'.batches = s.batches ++ [(lines, sent)] ∧
        (Sends s e ↔ sent = true) := by
  rcases e with lines | - | - | ⟨late, sent⟩ | -
  case append | stop =>
    obtain rfl := Option.some.inj h
    exact .inl ⟨rfl, trivial⟩
  case loop =>
    obtain ⟨-, h⟩ := Option.ite_none_right_eq_some.mp h
    obtain rfl := Option.some.inj h
    refine .inl ⟨?_, trivial⟩
    rw [State.seek]
    split
    · rfl
    · split <;> rfl
  case read =>
    obtain ⟨hp, h⟩ := Option.ite_none_right_eq_some.mp h
    obtain rfl := Option.some.inj h
    rcases batches_read hp late sent with ⟨hno, hb⟩ | ⟨hmakes, lines, hlines, hb⟩
    · exact .inl ⟨hb, fun hmakes => absurd hmakes hno⟩
    · exact .inr ⟨lines, sent, hlines, hb, imp_iff_right hmakes⟩
  case wake =>
    obtain ⟨-, h⟩ := Option.ite_none_right_eq_some.mp h
    obtain rfl := Option.some.inj h
    refine .inl ⟨?_, trivial⟩
    rw [State.reopen]
    split <;> rfl

theorem filled_step (hs : Filled s) (h : step s e = some s') : Filled s' := by
  rcases batches_step h with ⟨hb, -⟩ | ⟨lines, sent, hlines, hb, -⟩
  · rwa [Filled, hb]
  · rw [Filled, hb]
    intro b hmem
    rcases List.mem_append.mp hmem with hmem | hmem
    · exact hs b hmem
    · rw [List.mem_singleton.mp hmem]
      exact hlines

theorem allSent_step (h : step s e = some s') : AllSent s' ↔ Sends s e ∧ AllSent s := by
  rcases batches_step h with ⟨hb, hsends⟩ | ⟨lines, sent, -, hb, hsends⟩
  · rw [AllSent, hb, and_iff_right hsends]
    rfl
  · rw [AllSent, hb, hsends, AllSent]
    simp [or_imp, forall_and, and_comm]

/-! ## Runs -/

theorem filled_run (events : List Event) (hs : Filled s)
    (h : Run.run step s events = some s') : Filled s' :=
  Run.invariant (fun _ _ _ hs => filled_step hs) hs h

theorem allSent_run : ∀ (events : List Event) {s s' : State}, Run.run step s events = some s' →
    (AllSent s' ↔ Run.Meets step Sends s events ∧ AllSent s)
  | [], s, s', h => by
      obtain rfl := Option.some.inj h
      exact (and_iff_right trivial).symm
  | e :: events, s, s', h => by
      obtain ⟨s₁, hs₁, hrun⟩ := Option.bind_eq_some_iff.mp h
      rw [allSent_run events hrun, allSent_step hs₁, Run.Meets]
      constructor
      · rintro ⟨hmeets, hsends, hsent⟩
        refine ⟨⟨hsends, fun s₂ hs₂ => ?_⟩, hsent⟩
        obtain rfl := Option.some.inj (hs₁.symm.trans hs₂)
        exact hmeets
      · rintro ⟨⟨hsends, hmeets⟩, hsent⟩
        exact ⟨hmeets s₁ hs₁, hsends, hsent⟩

/-- Each batch that was not sent is missing. -/
theorem length_published_le : ∀ bs : List (List (List UInt8) × Bool), (∀ b ∈ bs, b.1 ≠ []) →
    ((bs.filter Prod.snd).flatMap Prod.fst).length + (bs.filter fun b => !b.2).length
      ≤ (bs.flatMap Prod.fst).length
  | [], _ => Nat.le_refl 0
  | (lines, sent) :: bs, h => by
      have ih := length_published_le bs fun b hb => h b (List.mem_cons_of_mem _ hb)
      have hlines := List.length_pos_iff.mpr (h _ List.mem_cons_self)
      rw [List.flatMap_cons, List.length_append]
      cases sent
      · rw [List.filter_cons_of_neg (by simp), List.filter_cons_of_pos (by simp), List.length_cons]
        omega
      · rw [List.filter_cons_of_pos rfl, List.filter_cons_of_neg (by simp), List.flatMap_cons,
          List.length_append]
        omega

/-- **Everything is published when every batch was sent**, and not otherwise. -/
theorem published_eq_taken_iff (hs : Filled s) : published s = taken s ↔ AllSent s := by
  constructor
  · intro heq
    have hle := length_published_le s.batches hs
    rw [show (s.batches.filter Prod.snd).flatMap Prod.fst =
      s.batches.flatMap Prod.fst from heq] at hle
    have hnone : s.batches.filter (fun b => !b.2) = [] := List.eq_nil_of_length_eq_zero (by omega)
    intro b hb
    simpa using List.filter_eq_nil_iff.mp hnone b hb
  · intro hall
    rw [published, taken, List.filter_eq_self.mpr hall]

/-- **When batches survive.**  The lines that a run has taken for its batches can still all be
published exactly when every call of `write_log_data` so far sent its batch. -/
theorem survives_iff {file : List FileLine} {events : List Event}
    (h : Run.run step (start file) events = some s) :
    Survives s ↔ Run.Meets step Sends (start file) events := by
  have hfilled : Filled (start file) := fun b hb => absurd hb List.not_mem_nil
  have hsent : AllSent (start file) := fun b hb => absurd hb List.not_mem_nil
  have hs := filled_run events hfilled h
  rw [← and_iff_left hsent (a := Run.Meets step Sends (start file) events), ← allSent_run events h]
  constructor
  · rintro ⟨later, t, hrun, heq⟩
    have ht := (published_eq_taken_iff (filled_run later hs hrun)).mp heq
    exact ((allSent_run later hrun).mp ht).2
  · exact fun hall => ⟨[], s, rfl, (published_eq_taken_iff hs).mpr hall⟩

/-- A line of one byte is read, and becomes a batch. -/
def oneBatch (sent : Bool) : List Event := [.loop, .read true sent]

theorem survives_sent : ∃ s, Run.run step (start [lineA]) (oneBatch true) = some s ∧ Survives s :=
  ⟨_, rfl, (survives_iff (show Run.run step (start [lineA]) (oneBatch true) = some _ from rfl)).mpr
    (by decide)⟩

/-- **The publisher is not there yet**: the line is in no batch that is sent, now or later. -/
theorem not_survives : ¬ ∀ (file : List FileLine) (events : List Event) (s : State),
    Run.run step (start file) events = some s → Survives s := by
  intro h
  have hrun : Run.run step (start [lineA]) (oneBatch false) = some _ := rfl
  have hsends := (survives_iff hrun).mp (h _ _ _ hrun)
  exact absurd hsends (by decide)

end LogMonitor

end Sadip

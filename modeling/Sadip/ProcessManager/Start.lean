import Sadip.ProcessManager

/-!
# ProcessManager/Start — what `start_process` starts, `node/src/ProcessManager.cpp`

`start_process` looks at every entry on its way, starts the first of its uuid whose child has ended,
and expects it to run from then on.  Whether it comes to that can be read off the children in the
table and the answers of the system (`GetsGoing`); where it does not, no entry is expected to run
that was not expected before: `startProcess_cases`.
-/

namespace Sadip

namespace ProcessManager

open Imperative Imperative.Prog

/-! ## Looking at a child -/

/-- What a call on the entry's child finds: whether it runs, the entry and the answers after it;
nothing if the call throws. -/
def asked (p : ProcessAttribute) (answers : List Answer) :
    Option (Bool × ProcessAttribute × List Answer) :=
  match p.child with
  | .alive pid =>
      match (answers.headD {}).event with
      | .quiet => some (true, p, answers.tail)
      | .exits => some (false, { p with child := .exited pid }, answers.tail)
      | .throws => none
  | _ => some (false, p, answers)

/-- The state a look leaves. -/
def State.seen (s : State) (instances : List ProcessAttribute) (answers : List Answer) : State :=
  { s with instances, answers }

@[simp] theorem State.seen_instances (s : State) (ps : List ProcessAttribute) (as : List Answer) :
    (s.seen ps as).instances = ps := rfl

@[simp] theorem State.seen_answers (s : State) (ps : List ProcessAttribute) (as : List Answer) :
    (s.seen ps as).answers = as := rfl

variable {us : List String} {uuid : String} {s s' : State} {p q : ProcessAttribute} {b : Bool}
  {pre post : List ProcessAttribute} {answers answers' : List Answer}

/-- A look keeps the uuid and what is expected, and takes no child away. -/
theorem asked_keeps (h : asked p answers = some (b, q, answers')) :
    q.uuid = p.uuid ∧ q.exceptRunnig = p.exceptRunnig ∧ (p.child ≠ .none → q.child ≠ .none) := by
  rw [asked] at h
  split at h
  · split at h <;> cases h
    · exact ⟨rfl, rfl, id⟩
    · exact ⟨rfl, rfl, fun _ => by simp⟩
  · cases h
    exact ⟨rfl, rfl, id⟩

theorem asked_eq_none_iff :
    asked p answers = none ↔
      (∃ pid, p.child = .alive pid) ∧ (answers.headD {}).event = .throws := by
  rw [asked]
  split
  · rename_i pid hpid
    split <;> simp_all
  · rename_i hidle
    simpa using fun pid hpid => absurd hpid (hidle pid)

theorem modify_entry (f : ProcessAttribute → ProcessAttribute) (p : ProcessAttribute) :
    (pre ++ p :: post).modify pre.length f = pre ++ f p :: post := by
  rw [List.modify_eq_take_cons_drop (by simp)]
  simp

theorem askChild_asked (h : s.instances = pre ++ p :: post) (onQuiet onExit : Bool) :
    askChild pre.length onQuiet onExit s = match asked p s.answers with
      | none => .thrown (s.seen s.instances s.answers.tail)
      | some (b, q, answers) =>
          .done (if b then onQuiet else onExit) (s.seen (pre ++ q :: post) answers) := by
  have hat : s.instances[pre.length]? = some p := by rw [h]; simp
  rcases hc : p.child with - | pid | pid
  · rw [askChild_idle hat (by simp [hc]), asked, hc]
    simp [← h, State.seen]
  · rw [askChild_alive onQuiet onExit hat hc, asked, hc]
    rcases (s.answers.headD {}).event
    · simp only [← h, if_true]
      rfl
    · simp only [h, modify_entry]
      rfl
    · rfl
  · rw [askChild_idle hat (by simp [hc]), asked, hc]
    simp [← h, State.seen]

/-! ## What is started -/

/-- An application with this uuid has been started and is expected to run. -/
def Going (uuid : String) (s : State) : Prop :=
  ∃ p ∈ s.instances, p.uuid = uuid ∧ p.child ≠ .none ∧ p.exceptRunnig = true

/-- A child starts, and the wait for it does not throw. -/
def StartsUp (answers : List Answer) : Prop :=
  (answers.headD {}).event ≠ .throws ∧ (answers.tail.headD {}).event ≠ .throws

/-- A start of the uuid comes to an entry of it whose child has ended, at the second look, and
starts it. -/
def GetsGoing (uuid : String) : List ProcessAttribute → List Answer → Prop
  | [], _ => False
  | p :: ps, answers =>
      match asked p answers with
      | none => False
      | some (_, q, answers) =>
          if p.uuid = uuid then
            match asked q answers with
            | none => False
            | some (true, _, answers) => GetsGoing uuid ps answers
            | some (false, _, answers) => StartsUp answers
          else GetsGoing uuid ps answers

/-- The uuids in the table, with what is expected of each. -/
def expectations (s : State) : List (String × Bool) :=
  s.instances.map fun p => (p.uuid, p.exceptRunnig)

theorem going_withstands (us : List String) (uuid : String) :
    Withstands (fun s => Registers us s ∧ Going uuid s) us.length where
  live s hs := hs.1.length
  modify s i f hs hf := by
    refine ⟨(registers_withstands us).modify s i f hs.1 hf, ?_⟩
    obtain ⟨p, hp, huuid, hchild, hexpected⟩ := hs.2
    obtain ⟨j, hj, rfl⟩ := List.getElem_of_mem hp
    have hj' : j < (s.instances.modify i f).length := by rwa [List.length_modify]
    refine ⟨(s.instances.modify i f)[j], List.getElem_mem hj', ?_⟩
    rw [List.getElem_modify]
    split
    · exact ⟨(hf.uuid _).trans huuid, hf.child _ hchild, hf.expected _ hexpected⟩
    · exact ⟨huuid, hchild, hexpected⟩
  answers _ _ hs := hs
  calls _ _ hs := hs

/-- A look at an entry leaves the expectations. -/
theorem expectations_asked (h : s.instances = pre ++ p :: post)
    (hasked : asked p s.answers = some (b, q, answers)) :
    expectations (s.seen (pre ++ q :: post) answers) = expectations s := by
  obtain ⟨huuid, hexpected, -⟩ := asked_keeps hasked
  simp only [expectations, State.seen, h, List.map_append, List.map_cons, huuid, hexpected]

/-! ## At an entry whose child has ended -/

/-- What `start_process` does there. -/
def startAt (i : ℕ) : Prog State Bool := do
  spawn i
  let _ ← waitFor i
  modifyAt i fun p => { p with exceptRunnig := true }
  pure true

theorem spawn_run (h : s.instances = pre ++ p :: post) : ∃ cs, spawn pre.length s =
    if (s.answers.headD {}).event = .throws then
      .thrown { s with answers := s.answers.tail, calls := cs }
    else .done () { s with
      answers := s.answers.tail
      calls := cs
      instances := pre ++ { p with child := .alive (s.answers.headD {}).pid } :: post } := by
  have hat : s.instances[pre.length]? = some p := by rw [h]; simp
  refine ⟨s.calls ++
      [.start p.uuid p.launchCmd p.workPath (if p.env.isEmpty then none else some p.env)],
    ?_⟩
  rw [spawn, bind_done (by rw [instanceAt, hat]), logCall, bind_done (modify_run _ _),
    bind_done (show nextAnswer _ = _ from rfl)]
  dsimp only
  split
  · rfl
  · rw [modifyAt_run (by simp [h])]
    simp only [h, modify_entry]

/-- **The start of an entry's child** succeeds when the child starts up, and expects it to run. -/
theorem startAt_cases (h : s.instances = pre ++ p :: post) (huuid : p.uuid = uuid) :
    (StartsUp s.answers ∧ ∃ s', startAt pre.length s = .done true s' ∧ Going uuid s') ∨
      (¬ StartsUp s.answers ∧ ∃ s', startAt pre.length s = .thrown s' ∧
        expectations s' = expectations s) := by
  obtain ⟨cs, hspawn⟩ := spawn_run h
  by_cases hthrows : (s.answers.headD {}).event = .throws
  · rw [if_pos hthrows] at hspawn
    exact .inr ⟨fun hup => hup.1 hthrows, _, bind_thrown hspawn, rfl⟩
  rw [if_neg hthrows] at hspawn
  have hwait := askChild_asked (s := { s with
      answers := s.answers.tail
      calls := cs
      instances := pre ++ { p with child := .alive (s.answers.headD {}).pid } :: post })
      rfl false true
  rcases hasked : asked { p with child := .alive (s.answers.headD {}).pid } s.answers.tail with
    - | ⟨b, q, answers⟩
  · simp only [hasked] at hwait
    have hrun : startAt pre.length s = .thrown _ := (bind_done hspawn).trans (bind_thrown hwait)
    exact .inr ⟨fun hup => hup.2 (asked_eq_none_iff.mp hasked).2, _, hrun,
      by simp [expectations, h]⟩
  · simp only [hasked] at hwait
    obtain ⟨hq, -, hchild⟩ := asked_keeps hasked
    have hup : (s.answers.tail.headD {}).event ≠ .throws := fun ht => by
      rw [asked_eq_none_iff.mpr ⟨⟨_, rfl⟩, ht⟩] at hasked
      cases hasked
    have hrun : startAt pre.length s = .done true _ := (bind_done hspawn).trans
      ((bind_done hwait).trans (bind_done (modifyAt_run (by simp) _)))
    refine .inl ⟨⟨hthrows, hup⟩, _, hrun, { q with exceptRunnig := true }, ?_, hq.trans huuid,
      hchild (by simp), rfl⟩
    simp [modify_entry]

/-! ## On the way -/

/-- **The loop of `start_process`**, over the entries it has still to look at. -/
theorem startLoop_cases (uuid : String) : ∀ (post pre : List ProcessAttribute) (s : State),
    s.instances = pre ++ post →
    (GetsGoing uuid post s.answers ∧ ∃ s', startLoop uuid (List.range' pre.length post.length) s
        = .done true s' ∧ Going uuid s') ∨
      (¬ GetsGoing uuid post s.answers ∧ ∃ s', expectations s' = expectations s ∧
        (startLoop uuid (List.range' pre.length post.length) s = .done false s' ∨
          startLoop uuid (List.range' pre.length post.length) s = .thrown s'))
  | [], pre, s, _ => .inr ⟨id, s, rfl, .inl rfl⟩
  | p :: post, pre, s, hs => by
      have hat : s.instances[pre.length]? = some p := by rw [hs]; simp
      have hloop : startLoop uuid (List.range' pre.length (p :: post).length) s
          = (running pre.length >>= fun _ => if p.uuid = uuid then running pre.length >>= fun b =>
              if !b then startAt pre.length
              else startLoop uuid (List.range' (pre.length + 1) post.length)
            else startLoop uuid (List.range' (pre.length + 1) post.length)) s := by
        rw [List.length_cons, List.range'_succ, startLoop, bind_done (by rw [instanceAt, hat])]
        rfl
      have hrest : ∀ (q : ProcessAttribute) (t : State), t.instances = pre ++ q :: post →
          expectations t = expectations s → _ := fun q t ht hexp => by
        have ih := startLoop_cases uuid post (pre ++ [q]) t (by rw [ht]; simp)
        rw [List.length_append, List.length_singleton, hexp] at ih
        exact ih
      have hfirst := askChild_asked hs true false
      rw [hloop, GetsGoing]
      rcases hasked : asked p s.answers with - | ⟨b, q, answers⟩
      · simp only [hasked] at hfirst
        exact .inr ⟨id, s.seen s.instances s.answers.tail, rfl, .inr (bind_thrown hfirst)⟩
      simp only [hasked] at hfirst
      rw [running, bind_done hfirst]
      have hsame := expectations_asked hs hasked
      by_cases huuid : p.uuid = uuid
      · simp only [if_pos huuid]
        have hsecond : askChild pre.length true false (s.seen (pre ++ q :: post) answers) = _ :=
          askChild_asked rfl true false
        rcases hasked' : asked q answers with - | ⟨runs, r, answers'⟩
        · simp only [State.seen_answers, hasked'] at hsecond
          exact .inr ⟨id, (s.seen (pre ++ q :: post) answers.tail), hsame,
            .inr (bind_thrown hsecond)⟩
        have hsame' : expectations (s.seen (pre ++ r :: post) answers') = expectations s :=
          (expectations_asked (s := s.seen (pre ++ q :: post) answers) rfl hasked').trans hsame
        have hr : r.uuid = uuid :=
          (asked_keeps hasked').1.trans ((asked_keeps hasked).1.trans huuid)
        have hstart : (s.seen (pre ++ r :: post) answers').instances = pre ++ r :: post := rfl
        simp only [State.seen_answers, hasked'] at hsecond
        rw [bind_done hsecond]
        cases runs with
        | false =>
          refine (startAt_cases hstart hr).imp_right ?_
          rintro ⟨hup, s', hrun, hs'⟩
          exact ⟨hup, s', hs'.trans hsame', .inr hrun⟩
        | true => exact hrest r _ hstart hsame'
      · simp only [if_neg huuid]
        exact hrest q _ rfl hsame

/-- **`start_process`** gets an application of the uuid going, or lets none run that was not
expected to run before. -/
theorem startProcess_cases (uuid : String) (s : State) :
    (GetsGoing uuid s.instances s.answers ∧
      ∃ s', startProcess uuid s = .done true s' ∧ Going uuid s') ∨
      (¬ GetsGoing uuid s.instances s.answers ∧ ∃ s', startProcess uuid s = .done false s' ∧
        expectations s' = expectations s) := by
  have hloop := startLoop_cases uuid s.instances [] s rfl
  rw [List.length_nil, ← List.range_eq_range'] at hloop
  rcases hloop with ⟨hgoing, s', hrun, hs'⟩ | ⟨hgoing, s', hs', hrun | hrun⟩
  · exact .inl ⟨hgoing, s', tryCatch_done hrun, hs'⟩
  · exact .inr ⟨hgoing, s', tryCatch_done hrun, hs'⟩
  · exact .inr ⟨hgoing, s', tryCatch_thrown hrun, hs'⟩

end ProcessManager

end Sadip

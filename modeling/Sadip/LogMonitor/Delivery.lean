import Sadip.LogMonitor

/-!
# LogMonitor/Delivery — each line once

While every end of the file is met with all lines saved (`lastPos` is the position) and the file has
grown by the end of the sleep, what has been enqueued is where the reader is (`Follows`): each round
goes on there.  A step that does not keep to this can be followed by a line that comes twice, or by
one that never comes (`exists_not_delivers`).
-/

namespace Sadip

namespace LogMonitor

open Lines

/-! ## What is asked for -/

/-- The lines, in the bytes that `getline` gives. -/
def bytes (ls : List FileLine) : List (List UInt8) := ls.map Subtype.val

/-- **The lines enqueued are the first lines of the file**, and if it is not stopped, the monitor
can go on by itself to enqueue the rest. -/
def Delivers (s : State) : Prop :=
  s.enqueued <+: bytes s.file ∧
    (s._stop = false → ∃ events s', (∀ e ∈ events, e.own = true) ∧ Run.run step s events = some s' ∧
      s'.enqueued = bytes s.file)

/-- At the end of the file everything enqueued has been saved, and at the end of the sleep there is
more. -/
def CaughtUp (s : State) : Event → Prop
  | .read _ _ => s.phase = .reading → s._stop = false → s.failed = false →
      getline 10 s.content s.pos = none → s.lastPos = s.pos
  | .wake => s.phase = .ended → s.lastPos < s.content.length
  | _ => True

instance (s : State) (e : Event) : Decidable (CaughtUp s e) := by
  unfold CaughtUp
  split <;> infer_instance

/-- The offset after some lines. -/
def offset (ls : List FileLine) : ℕ := (text ls).length

/-- Where the monitor is when it has read the lines `a` and not the lines `b`. -/
structure Follows (s : State) (a b : List FileLine) : Prop where
  file : s.file = a ++ b
  enqueued : s.enqueued = bytes a
  loop : s.phase = .loop → s._stop = false → s.isOpen = true ∧ s.lastPos = offset a
  reading : s.phase = .reading → s.isOpen = true ∧ s.failed = false ∧ s.pos = offset a ∧
    ∃ c, c <+: a ∧ s.lastPos = offset c
  ended : s.phase = .ended → s.lastPos = offset a
  done : s.phase = .done → s._stop = true

variable {s s' : State} {e : Event} {a b : List FileLine}

theorem bytes_append (ls ms : List FileLine) : bytes (ls ++ ms) = bytes ls ++ bytes ms :=
  List.map_append

theorem getline_offset_cons (hfile : s.file = a ++ b) {l : FileLine} {ms : List FileLine}
    (hb : b = l :: ms) : getline 10 s.content (offset a) = some (l.1, offset (a ++ [l])) := by
  rw [State.content, hfile, hb]
  exact getline_text a l ms

theorem getline_offset_nil (hfile : s.file = a) : getline 10 s.content (offset a) = none := by
  rw [State.content, hfile]
  exact getline_length _

/-! ## One step -/

theorem follows_read (h : Follows s a b) (hp : s.phase = .reading) (late sent : Bool)
    (hcaught : CaughtUp s (.read late sent)) : ∃ a' b', Follows (s.read late sent) a' b' := by
  obtain ⟨hopen, hgood, hpos, c, hc, hlast⟩ := h.reading hp
  rw [State.read]
  split
  · rename_i hstop
    have hstop : s._stop = true := hstop.resolve_right (by simp [hgood])
    exact ⟨a, b, h.file, h.enqueued, fun _ hs => by simp [hstop] at hs, by simp, by simp, by simp⟩
  · rename_i hstop
    rcases b with - | ⟨l, ms⟩
    · have hend := getline_offset_nil (h.file.trans (List.append_nil a))
      rw [hpos, hend]
      refine ⟨a, [], h.file, h.enqueued, by simp, by simp, fun _ => ?_, by simp⟩
      exact (hcaught hp (by simpa [hgood] using hstop) hgood (hpos ▸ hend)).trans hpos
    · rw [hpos, getline_offset_cons h.file rfl]
      have hfile : s.file = (a ++ [l]) ++ ms := by
        rw [h.file, List.append_assoc, List.singleton_append]
      have henq : s.enqueued ++ [l.1] = bytes (a ++ [l]) := by
        rw [h.enqueued, bytes_append]
        rfl
      cases late
      · exact ⟨a ++ [l], ms, hfile, henq, by simp [State.enqueue, hp], fun _ =>
          ⟨hopen, hgood, rfl, c, hc.trans (List.prefix_append _ _), hlast⟩,
          by simp [State.enqueue, hp], by simp [State.enqueue, hp]⟩
      · exact ⟨a ++ [l], ms, hfile, henq, by simp [State.enqueue, State.flush, hp], fun _ =>
          ⟨hopen, hgood, rfl, a ++ [l], List.prefix_rfl, rfl⟩,
          by simp [State.enqueue, State.flush, hp], by simp [State.enqueue, State.flush, hp]⟩

/-- **A step that is met caught up goes on where the monitor is.** -/
theorem follows_step (h : Follows s a b) (hcaught : CaughtUp s e) (hstep : step s e = some s') :
    ∃ a' b', Follows s' a' b' := by
  rcases e with lines | - | - | ⟨late, sent⟩ | -
  case append =>
    obtain rfl := Option.some.inj hstep
    exact ⟨a, b ++ lines, by rw [h.file, List.append_assoc], h.enqueued, h.loop, h.reading, h.ended,
      h.done⟩
  case stop =>
    obtain rfl := Option.some.inj hstep
    exact ⟨a, b, h.file, h.enqueued, fun _ hs => by simp at hs, h.reading, h.ended, fun _ => rfl⟩
  case loop =>
    obtain ⟨hp, hs'⟩ := Option.ite_none_right_eq_some.mp hstep
    obtain rfl := Option.some.inj hs'
    split
    · rename_i hstop
      exact ⟨a, b, h.file, h.enqueued, by simp, by simp, by simp, fun _ => hstop⟩
    · rename_i hstop
      obtain ⟨hopen, hlast⟩ := h.loop hp (by simpa using hstop)
      rw [State.seek, if_pos hopen]
      exact ⟨a, b, h.file, h.enqueued, by simp, fun _ =>
        ⟨hopen, rfl, hlast, a, List.prefix_rfl, hlast⟩, by simp, by simp⟩
  case read =>
    obtain ⟨hp, hs'⟩ := Option.ite_none_right_eq_some.mp hstep
    obtain rfl := Option.some.inj hs'
    exact follows_read h hp late sent hcaught
  case wake =>
    obtain ⟨hp, hs'⟩ := Option.ite_none_right_eq_some.mp hstep
    obtain rfl := Option.some.inj hs'
    rw [State.reopen, if_pos (hcaught hp)]
    exact ⟨a, b, h.file, h.enqueued, fun _ _ => ⟨rfl, h.ended hp⟩, by simp, by simp, by simp⟩

/-! ## Going on alone -/

/-- A reader that is left alone comes to the end of the file. -/
theorem reads_on : ∀ (b a : List FileLine) (s : State), Follows s a b → s.phase = .reading →
    s._stop = false → ∃ events s', (∀ e ∈ events, e.own = true) ∧ Run.run step s events = some s' ∧
      s'.enqueued = bytes s.file
  | [], a, s, h, _, _ =>
      ⟨[], s, by simp, rfl, by rw [h.enqueued, h.file, List.append_nil]⟩
  | l :: ms, a, s, h, hp, hstop => by
      obtain ⟨hopen, hgood, hpos, c, hc, hlast⟩ := h.reading hp
      have hread : s.read false false = { s with pos := offset (a ++ [l]) }.enqueue l.1 := by
        rw [State.read, if_neg (by simp [hstop, hgood]), hpos, getline_offset_cons h.file rfl]
        rfl
      have hnext : Follows (s.read false false) (a ++ [l]) ms := by
        rw [hread]
        refine ⟨?_, ?_, by simp [State.enqueue, hp], fun _ => ⟨hopen, hgood, rfl, c,
          hc.trans (List.prefix_append _ _), hlast⟩, by simp [State.enqueue, hp],
          by simp [State.enqueue, hp]⟩
        · rw [List.append_assoc, List.singleton_append]
          exact h.file
        · rw [bytes_append, ← h.enqueued]
          rfl
      obtain ⟨events, s', hown, hrun, henq⟩ := reads_on ms (a ++ [l]) _ hnext
        (by rw [hread]; exact hp) (by rw [hread]; exact hstop)
      refine ⟨.read false false :: events, s', ?_, ?_, ?_⟩
      · simpa [Event.own] using hown
      · rw [Run.run_cons_of_step (if_pos hp)]
        exact hrun
      · rw [henq, hread]
        rfl

/-- So does a round that begins. -/
theorem reads_on_from_loop (h : Follows s a b) (hp : s.phase = .loop) (hstop : s._stop = false) :
    ∃ events s', (∀ e ∈ events, e.own = true) ∧ Run.run step s events = some s' ∧
      s'.enqueued = bytes s.file := by
  obtain ⟨hopen, hlast⟩ := h.loop hp hstop
  have hseek : step s .loop = some s.seek := by
    rw [step, if_pos hp, if_neg (by simp [hstop])]
  obtain ⟨a', b', hnext⟩ := follows_step h (show CaughtUp s .loop from trivial) hseek
  have hs' : s.seek = { s with failed := false, pos := s.lastPos, phase := .reading } :=
    if_pos hopen
  obtain ⟨events, s', hown, hrun, henq⟩ := reads_on b' a' _ hnext (by rw [hs'])
    (by rw [hs']; exact hstop)
  refine ⟨.loop :: events, s', by simpa [Event.own] using hown, ?_, ?_⟩
  · rw [Run.run_cons_of_step hseek]
    exact hrun
  · rw [henq, hs']

/-- **A monitor that follows the file delivers it.** -/
theorem Follows.delivers (h : Follows s a b) : Delivers s := by
  refine ⟨?_, fun hstop => ?_⟩
  · rw [h.enqueued, h.file, bytes_append]
    exact List.prefix_append _ _
  · rcases hp : s.phase with - | - | - | -
    · exact reads_on_from_loop h hp hstop
    · exact reads_on b a s h hp hstop
    · rcases b with - | ⟨l, ms⟩
      · exact ⟨[], s, by simp, rfl, by rw [h.enqueued, h.file, List.append_nil]⟩
      · have hlong : s.lastPos < s.content.length := by
          rw [h.ended hp, State.content, h.file]
          exact length_text_lt a (by simp)
        have hwake : step s .wake = some s.reopen := if_pos hp
        obtain ⟨a', b', hnext⟩ := follows_step h (show CaughtUp s .wake from fun _ => hlong) hwake
        have hs' : s.reopen =
            { s with isOpen := true, failed := false, pos := 0, phase := .loop } :=
          if_pos hlong
        obtain ⟨events, s', hown, hrun, henq⟩ := reads_on_from_loop hnext (by rw [hs'])
          (by rw [hs']; exact hstop)
        refine ⟨.wake :: events, s', by simpa [Event.own] using hown, ?_, ?_⟩
        · rw [Run.run_cons_of_step hwake]
          exact hrun
        · rw [henq, hs']
    · rw [h.done hp] at hstop
      cases hstop

/-! ## Runs -/

theorem follows_start (file : List FileLine) : Follows (start file) [] file where
  file := rfl
  enqueued := rfl
  loop _ _ := ⟨rfl, rfl⟩
  reading h := by cases h
  ended h := by cases h
  done h := by cases h

/-- **Each line comes once, in order,** in a run that meets every end of the file with all lines
saved, and the end of every sleep with more. -/
theorem delivers_of_caughtUp (file : List FileLine) (events : List Event)
    (hmeets : Run.Meets step CaughtUp (start file) events)
    (hrun : Run.run step (start file) events = some s) : Delivers s := by
  have hkeep : ∀ s e s', (∃ a b, Follows s a b) → CaughtUp s e → step s e = some s' →
      ∃ a b, Follows s' a b := fun _ _ _ ⟨_, _, h⟩ => follows_step h
  obtain ⟨a, b, h⟩ := Run.Meets.invariant hkeep events (start file)
    ⟨[], file, follows_start file⟩ hmeets s hrun
  exact h.delivers

/-! ## Steps that are not met caught up -/

/-- The bytes of `a` and of `b`, as lines. -/
def lineA : FileLine := ⟨[97], by decide⟩

def lineB : FileLine := ⟨[98], by decide⟩

/-- A monitor whose file is closed. -/
def Dead (s : State) : Prop :=
  s.isOpen = false ∧ (s.phase = .loop ∨ s.phase = .reading ∧ s.failed = true ∨ s.phase = .done)

theorem dead_step (h : Dead s) (hown : e.own = true) (hstep : step s e = some s') :
    Dead s' ∧ s'.enqueued = s.enqueued := by
  obtain ⟨hclosed, hphase⟩ := h
  rcases e with lines | - | - | ⟨late, sent⟩ | -
  case append | stop => cases hown
  case loop =>
    obtain ⟨-, hs'⟩ := Option.ite_none_right_eq_some.mp hstep
    obtain rfl := Option.some.inj hs'
    split
    · exact ⟨⟨rfl, .inr (.inr rfl)⟩, rfl⟩
    · rw [State.seek, if_neg (by simp [hclosed])]
      exact ⟨⟨hclosed, .inr (.inl ⟨rfl, rfl⟩)⟩, rfl⟩
  case read =>
    obtain ⟨hp, hs'⟩ := Option.ite_none_right_eq_some.mp hstep
    obtain rfl := Option.some.inj hs'
    have hfailed : s.failed = true := by simpa [hp] using hphase
    rw [State.read, if_pos (.inr hfailed)]
    exact ⟨⟨hclosed, .inl rfl⟩, rfl⟩
  case wake =>
    obtain ⟨hp, -⟩ := Option.ite_none_right_eq_some.mp hstep
    simp [hp] at hphase

theorem dead_run : ∀ (events : List Event) (s : State), Dead s → (∀ e ∈ events, e.own = true) →
    ∀ s', Run.run step s events = some s' → s'.enqueued = s.enqueued
  | [], s, _, _, s', hrun => by rw [Option.some.inj hrun]
  | e :: events, s, h, hown, s', hrun => by
      obtain ⟨s₁, hs₁, hrun'⟩ := Option.bind_eq_some_iff.mp hrun
      obtain ⟨h₁, henq⟩ := dead_step h (hown e List.mem_cons_self) hs₁
      rw [← henq]
      exact dead_run events s₁ h₁ (fun e' he' => hown e' (List.mem_cons_of_mem e he')) s' hrun'

/-- Lines that were read and not saved come again. -/
theorem exists_doubled (h : Follows s a []) (hp : s.phase = .reading) (hstop : s._stop = false)
    (hlast : s.lastPos ≠ s.pos) (late sent : Bool) :
    ∃ events s', Run.run step s (.read late sent :: events) = some s' ∧ ¬ Delivers s' := by
  obtain ⟨hopen, hgood, hpos, c, ⟨d, hd⟩, hc⟩ := h.reading hp
  have hfile : s.file = a := h.file.trans (List.append_nil a)
  rcases d with - | ⟨l, ms⟩
  · rw [List.append_nil] at hd
    exact absurd (hc.trans (hd ▸ hpos.symm)) hlast
  · have hend : s.read late sent = { s with phase := .ended } := by
      rw [State.read, if_neg (by simp [hstop, hgood]), hpos, getline_offset_nil hfile]
    have hlong : s.content.length > s.lastPos := by
      rw [hc, State.content, hfile, ← hd]
      exact length_text_lt c (by simp)
    have hline : getline 10 s.content (offset c) = some (l.1, offset (c ++ [l])) :=
      getline_offset_cons (hfile.trans hd.symm) rfl
    refine ⟨[.wake, .loop, .read false false], { s with
      isOpen := true, failed := false, pos := offset (c ++ [l]), phase := .reading
      logQueue_ := (s.enqueue l.1).logQueue_, enqueued := s.enqueued ++ [l.1] }, ?_, fun hdel => ?_⟩
    · have hwake : step { s with phase := .ended } .wake =
          some { s with isOpen := true, failed := false, pos := 0, phase := .loop } := by
        rw [step, if_pos rfl, State.reopen]
        exact congrArg some (if_pos hlong)
      have hloop : step { s with isOpen := true, failed := false, pos := 0, phase := .loop } .loop =
          some { s with isOpen := true, failed := false, pos := s.lastPos, phase := .reading } := by
        rw [step, if_pos rfl, if_neg (by simp [hstop]), State.seek, if_pos rfl]
      have hread : step
          { s with isOpen := true, failed := false, pos := s.lastPos, phase := .reading }
          (.read false false) = some { s with
            isOpen := true, failed := false, pos := offset (c ++ [l]), phase := .reading
            logQueue_ := (s.enqueue l.1).logQueue_, enqueued := s.enqueued ++ [l.1] } := by
        have hnext : getline 10 s.content s.lastPos = some (l.1, offset (c ++ [l])) :=
          by rw [hc, hline]
        rw [step, if_pos rfl, State.read, if_neg (by simp [hstop])]
        simp only [State.content] at hnext ⊢
        rw [hnext]
        rfl
      rw [Run.run_cons_of_step (if_pos hp), hend, Run.run_cons_of_step hwake,
        Run.run_cons_of_step hloop, Run.run_cons_of_step hread]
      rfl
    · have hle := hdel.1.length_le
      rw [List.length_append, h.enqueued, hfile, List.length_singleton] at hle
      omega

/-- A line that comes after the file was closed is never read. -/
theorem exists_lost (h : Follows s a b) (hp : s.phase = .ended) (hstop : s._stop = false)
    (hshort : ¬ s.lastPos < s.content.length) :
    ∃ events s', Run.run step s (.wake :: events) = some s' ∧ ¬ Delivers s' := by
  have hclosed : s.reopen = { s with isOpen := false, failed := false, phase := .loop } :=
    if_neg hshort
  have hb : b = [] := by
    by_contra hne
    rw [h.ended hp, State.content, h.file] at hshort
    exact hshort (length_text_lt a hne)
  refine ⟨[.append [lineA]], { s.reopen with file := s.reopen.file ++ [lineA] }, ?_, fun hdel => ?_⟩
  · rw [Run.run_cons_of_step (if_pos hp)]
    rfl
  · obtain ⟨events, s', hown, hrun, henq⟩ := hdel.2 (by rw [hclosed]; exact hstop)
    have hdead : Dead { s.reopen with file := s.reopen.file ++ [lineA] } := by
      rw [hclosed]
      exact ⟨rfl, .inl rfl⟩
    rw [dead_run events _ hdead hown s' hrun, hclosed] at henq
    have hlen := congrArg List.length henq
    rw [h.enqueued, h.file, hb, List.append_nil, bytes_append, List.length_append] at hlen
    exact absurd hlen (by simp [bytes])

/-- **A step that does not meet the condition can be followed by a line that comes twice, or by one
that never comes.** -/
theorem exists_not_delivers (h : Follows s a b) (hstop : s._stop = false) (hbad : ¬ CaughtUp s e) :
    ∃ events s', Run.run step s (e :: events) = some s' ∧ ¬ Delivers s' := by
  rcases e with lines | - | - | ⟨late, sent⟩ | -
  case append | stop | loop => exact absurd trivial hbad
  case read =>
    simp only [CaughtUp, not_forall] at hbad
    obtain ⟨hp, -, -, hend, hlast⟩ := hbad
    rcases b with - | ⟨l, ms⟩
    · exact exists_doubled h hp hstop hlast late sent
    · rw [(h.reading hp).2.2.1, getline_offset_cons h.file rfl] at hend
      cases hend
  case wake =>
    simp only [CaughtUp, not_forall] at hbad
    obtain ⟨hp, hshort⟩ := hbad
    exact exists_lost h hp hstop hshort

/-- A line is read late enough to be saved, and another one comes while the monitor sleeps. -/
def lateLine : List Event := [.loop, .read true true, .read false true, .append [lineB], .wake,
    .loop,
  .read true true]

theorem delivers_lateLine : ∃ s, Run.run step (start [lineA]) lateLine = some s ∧
    s.enqueued = [[97], [98]] ∧ Delivers s :=
  ⟨_, rfl, rfl, delivers_of_caughtUp [lineA] lateLine (by decide) rfl⟩

/-- A line is read in the first 200 ms, and nothing more comes. -/
def earlyLine : List Event := [.loop, .read false true, .read false true, .wake, .loop,
  .read false true]

/-- **The line is enqueued twice.** -/
theorem not_delivers : ∃ s, Run.run step (start [lineA]) earlyLine = some s ∧
    s.enqueued = [[97], [97]] ∧ ¬ Delivers s := by
  refine ⟨_, rfl, rfl, fun h => ?_⟩
  exact absurd h.1 (by decide)

end LogMonitor

end Sadip

import Mathlib.Algebra.Ring.Int.Defs
import Sadip.LogMonitor

/-!
# LogMonitor/Stream — the stream under the lines, `node/src/LogMonitor.cpp`

The others write to the file in whatever pieces they like, and `getline` may meet a last line whose
end is still to come: it takes what is there and sets `eofbit`.  A `tellg()` that follows fails and
gives `-1`, which the comparison with the size of the file takes for the largest unsigned value.

So the file stays closed for good when it has not outgrown `lastPos` by the end of the sleep, and
also when `lastPos` was saved behind an unfinished line, however much is appended: `alive_iff`.
-/

namespace Sadip

namespace LogMonitor

open Lines

/-! ## The monitor -/

/-- What `run` has; its `logTopic_` is set. -/
structure Stream where
  /-- the file, in bytes, appended by others -/
  file : List UInt8
  /-- the stream: whether it is open, its `failbit` and its `eofbit`, its position -/
  isOpen : Bool
  failed : Bool
  atEof : Bool
  pos : ℕ
  /-- a `std::streampos` -/
  lastPos : ℤ
  phase : Phase
  _stop : Bool
  logQueue_ : List (List UInt8)
  batches : List (List (List UInt8) × Bool)
  enqueued : List (List UInt8)

namespace Stream

/-- The value a signed position has among the unsigned ones, in 64 bits. -/
def unsigned (pos : ℤ) : ℕ := if pos < 0 then (pos + 2 ^ 64).toNat else pos.toNat

/-- `run` has opened the file and comes to its loop. -/
def start (file : List UInt8) : Stream where
  file := file
  isOpen := true
  failed := false
  atEof := false
  pos := 0
  lastPos := 0
  phase := .loop
  _stop := false
  logQueue_ := []
  batches := []
  enqueued := []

variable (t : Stream)

/-- `logQueue_.enqueue(line)`; a queue that has got too long loses its oldest line. -/
def enqueue (line : List UInt8) : Stream :=
  let queue := t.logQueue_ ++ [line]
  { t with
    logQueue_ := if queue.length > _maxQueueSize then queue.tail else queue
    enqueued := t.enqueued ++ [line] }

/-- `lastPos = fs.tellg()`, which fails on a stream that has met the end of the file. -/
def tellg : Stream :=
  if t.failed || t.atEof then { t with failed := true, lastPos := -1 }
  else { t with lastPos := t.pos }

/-- Once 200 ms have gone by, the queue becomes a batch and the position is saved. -/
def flush (sent : Bool) : Stream :=
  tellg { t with
    logQueue_ := []
    batches := if t.logQueue_.length > 0 then t.batches ++ [(t.logQueue_, sent)] else t.batches }

/-- `fs.clear()` and `fs.seekg(lastPos)`, which fails on a closed file, and where there is no such
position. -/
def seek : Stream :=
  if t.isOpen && 0 ≤ t.lastPos then
    { t with failed := false, atEof := false, pos := t.lastPos.toNat, phase := .reading }
  else { t with failed := true, atEof := false, phase := .reading }

/-- The end of the inner loop, and the test `fs.eof()` behind it. -/
def leave : Stream := { t with phase := if t.atEof then .ended else .loop }

/-- The inner loop: one `getline`, and what is done with its line. -/
def read (late sent : Bool) : Stream :=
  if t._stop then t.leave
  else if t.failed || t.atEof then { t with failed := true }.leave
  else
    match getline 10 t.file t.pos with
    | none => { t with failed := true, atEof := true }.leave
    | some (line, pos) =>
        -- a line without its end has met the end of the file
        let t := { t with pos, atEof := decide (10 ∉ t.file.drop t.pos) }.enqueue line
        if late then t.flush sent else t

/-- After the sleep at the end of the file: the file is closed, and opened again when
`file.getSize() > lastPos`, a comparison of unsigned values. -/
def reopen : Stream :=
  if t.file.length > unsigned t.lastPos then
    { t with isOpen := true, failed := false, atEof := false, pos := 0, phase := .loop }
  else { t with isOpen := false, failed := false, atEof := false, phase := .loop }

inductive Event
  /-- somebody appends to the file -/
  | append (bytes : List UInt8)
  /-- `stopMonitoring` -/
  | stop
  /-- a round of the outer loop begins -/
  | loop
  /-- a round of the inner loop: whether 200 ms have gone by, and whether a batch is sent -/
  | read (late sent : Bool)
  /-- the sleep at the end of the file is over -/
  | wake
  deriving DecidableEq

def step (t : Stream) : Event → Option Stream
  | .append bytes => some { t with file := t.file ++ bytes }
  | .stop => some { t with _stop := true }
  | .loop =>
      if t.phase = .loop then
        some (if t._stop then { t with isOpen := false, phase := .done } else t.seek)
      else none
  | .read late sent => if t.phase = .reading then some (t.read late sent) else none
  | .wake => if t.phase = .ended then some t.reopen else none

/-! ## Staying alive -/

/-- When a round is to begin, the file is open and has a place to go to; and when its `seekg` is
done, the stream is there. -/
def Alive (_ : Stream) (e : Event) (t' : Stream) : Prop :=
  (t'.phase = .loop → t'._stop = false → t'.isOpen = true ∧ 0 ≤ t'.lastPos) ∧
    (e = .loop → t'.phase = .reading →
      t'.isOpen = true ∧ t'.failed = false ∧ (t'.pos : ℤ) = t'.lastPos)

/-- At the end of the sleep of a monitor that is to go on, `lastPos` is a place in the file, and the
file is longer. -/
def Grown (t : Stream) : Event → Prop
  | .wake => t.phase = .ended → t._stop = false → 0 ≤ t.lastPos ∧ t.lastPos < t.file.length
  | _ => True

instance (t : Stream) (e : Event) : Decidable (Grown t e) := by
  unfold Grown
  split <;> infer_instance

/-- The file is open when a round is to begin and while it is read, and only the end of the file
makes a reader fail, or leaves it without a place to go back to. -/
structure Open (t : Stream) : Prop where
  loop : t.phase = .loop → t._stop = false → t.isOpen = true ∧ 0 ≤ t.lastPos
  reading : t.phase = .reading →
    t.isOpen = true ∧ (t.failed = true → t.atEof = true) ∧ (t.atEof = false → 0 ≤ t.lastPos)

variable {t} {t' : Stream} {e : Event}

theorem unsigned_of_nonneg {pos : ℤ} (h : 0 ≤ pos) : unsigned pos = pos.toNat := by
  rw [unsigned, if_neg (Int.not_lt.mpr h)]

theorem open_leave (h : Open t) (hp : t.phase = .reading)
    (hstop : t._stop = true ∨ t.atEof = true) :
    Open t.leave := by
  obtain ⟨hopen, -, -⟩ := h.reading hp
  rw [leave]
  rcases he : t.atEof
  · have hstop : t._stop = true := hstop.resolve_right (by simp [he])
    exact ⟨fun _ hgo => absurd (hstop.symm.trans hgo) (by simp), by simp⟩
  · exact ⟨by simp, by simp⟩

theorem open_tellg (h : Open t) (hp : t.phase = .reading) : Open t.tellg := by
  obtain ⟨hopen, hfail, -⟩ := h.reading hp
  rw [tellg]
  split
  · rename_i hbits
    rw [Bool.or_eq_true] at hbits
    have heof : t.atEof = true := hbits.elim hfail id
    exact ⟨by simp [hp], fun _ => ⟨hopen, fun _ => heof, fun he => by simp [heof] at he⟩⟩
  · exact ⟨by simp [hp], fun _ => ⟨hopen, hfail, fun _ => by simp⟩⟩

theorem open_read (h : Open t) (hp : t.phase = .reading) (late sent : Bool) :
    Open (t.read late sent) := by
  obtain ⟨hopen, hfail, hlast⟩ := h.reading hp
  rw [read]
  split
  · rename_i hstop
    exact open_leave h hp (.inl hstop)
  split
  · rename_i hbits
    rw [Bool.or_eq_true] at hbits
    have heof : t.atEof = true := hbits.elim hfail id
    refine open_leave (t := { t with failed := true }) ⟨by simp [hp], fun _ => ?_⟩ hp (.inr heof)
    exact ⟨hopen, fun _ => heof, hlast⟩
  · rename_i hbits
    rw [Bool.or_eq_true, not_or] at hbits
    have hlast := hlast (by simpa using hbits.2)
    split
    · refine open_leave (t := { t with failed := true, atEof := true })
        ⟨by simp [hp], fun _ => ?_⟩ hp
        (.inr rfl)
      exact ⟨hopen, fun _ => rfl, fun he => by simp at he⟩
    · rename_i line pos hline
      have hnext : ∀ queue batches, Open { t with
          pos := pos, atEof := decide (10 ∉ t.file.drop t.pos), logQueue_ := queue
          batches := batches, enqueued := t.enqueued ++ [line] } := fun _ _ =>
        ⟨by simp [hp], fun _ => ⟨hopen, fun hf => absurd hf hbits.1, fun _ => hlast⟩⟩
      cases late
      · exact hnext _ _
      · exact open_tellg (hnext _ _) hp

theorem alive_of_not_head
    (hp : t'.phase = .loop → t'._stop = false → t'.isOpen = true ∧ 0 ≤ t'.lastPos)
    (he : e ≠ .loop) : Alive t e t' :=
  ⟨hp, fun h => absurd h he⟩

theorem seek_run (hopen : t.isOpen = true) (hlast : 0 ≤ t.lastPos) : t.seek =
    { t with failed := false, atEof := false, pos := t.lastPos.toNat, phase := .reading } := by
  rw [seek, if_pos (by simp [hopen, hlast])]

/-- After the sleep the monitor goes on living exactly if `lastPos` is a place in a file that is
longer, or if it has been stopped. -/
theorem alive_reopen_iff : Alive t .wake t.reopen ↔
    (t._stop = false → 0 ≤ t.lastPos ∧ t.lastPos < t.file.length) := by
  constructor
  · rintro ⟨halive, -⟩ hgo
    rw [reopen] at halive
    split at halive
    · rename_i hlong
      have hlast : 0 ≤ t.lastPos := (halive rfl hgo).2
      rw [unsigned_of_nonneg hlast] at hlong
      exact ⟨hlast, by omega⟩
    · exact absurd (halive rfl hgo).1 (by simp)
  · intro hgrown
    refine ⟨fun _ hgo => ?_, by simp⟩
    have hgo : t._stop = false := by
      rw [reopen] at hgo
      split at hgo <;> exact hgo
    obtain ⟨hlast, hlong⟩ := hgrown hgo
    rw [reopen, if_pos (by rw [unsigned_of_nonneg hlast]; omega)]
    exact ⟨rfl, hlast⟩

/-- **One step stays alive exactly when the file has grown.** -/
theorem alive_iff_grown (ht : Open t) :
    (∀ t', step t e = some t' → Alive t e t') ↔ Grown t e := by
  rcases e with bytes | - | - | ⟨late, sent⟩ | -
  case append =>
    refine iff_of_true (fun t' hstep => ?_) trivial
    obtain rfl := Option.some.inj hstep
    exact alive_of_not_head ht.loop (by simp)
  case stop =>
    refine iff_of_true (fun t' hstep => ?_) trivial
    obtain rfl := Option.some.inj hstep
    exact alive_of_not_head (fun _ hgo => by simp at hgo) (by simp)
  case loop =>
    refine iff_of_true (fun t' hstep => ?_) trivial
    obtain ⟨hp, ht'⟩ := Option.ite_none_right_eq_some.mp hstep
    obtain rfl := Option.some.inj ht'
    split
    · exact ⟨by simp, by simp⟩
    · rename_i hgo
      obtain ⟨hopen, hlast⟩ := ht.loop hp (by simpa using hgo)
      rw [seek_run hopen hlast]
      exact ⟨by simp, fun _ _ => ⟨hopen, rfl, Int.toNat_of_nonneg hlast⟩⟩
  case read =>
    refine iff_of_true (fun t' hstep => ?_) trivial
    obtain ⟨hp, ht'⟩ := Option.ite_none_right_eq_some.mp hstep
    obtain rfl := Option.some.inj ht'
    exact alive_of_not_head (open_read ht hp late sent).loop (by simp)
  case wake =>
    rw [Grown, step]
    by_cases hp : t.phase = .ended
    · rw [if_pos hp]
      simp only [hp, true_implies, Option.some.injEq, forall_eq', alive_reopen_iff]
    · rw [if_neg hp]
      exact iff_of_true (fun t' h => by cases h) fun h => absurd h hp

theorem open_step (ht : Open t) (hstep : step t e = some t') (hlaw : Alive t e t') : Open t' := by
  rcases e with bytes | - | - | ⟨late, sent⟩ | -
  case append =>
    obtain rfl := Option.some.inj hstep
    exact ⟨ht.loop, ht.reading⟩
  case stop =>
    obtain rfl := Option.some.inj hstep
    exact ⟨fun _ hgo => by simp at hgo, ht.reading⟩
  case loop =>
    obtain ⟨hp, ht'⟩ := Option.ite_none_right_eq_some.mp hstep
    obtain rfl := Option.some.inj ht'
    split
    · exact ⟨by simp, by simp⟩
    · rename_i hgo
      obtain ⟨hopen, hlast⟩ := ht.loop hp (by simpa using hgo)
      rw [seek_run hopen hlast]
      exact ⟨by simp, fun _ => ⟨hopen, by simp, fun _ => hlast⟩⟩
  case read =>
    obtain ⟨hp, ht'⟩ := Option.ite_none_right_eq_some.mp hstep
    obtain rfl := Option.some.inj ht'
    exact open_read ht hp late sent
  case wake =>
    obtain ⟨-, ht'⟩ := Option.ite_none_right_eq_some.mp hstep
    obtain rfl := Option.some.inj ht'
    refine ⟨hlaw.1, fun hp => ?_⟩
    rw [reopen] at hp
    split at hp <;> cases hp

/-- **Each round starts on the open file, at `lastPos`, exactly as long as at the end of each sleep
`lastPos` is a place in the file and the file has outgrown it.** -/
theorem alive_iff (file : List UInt8) (events : List Event) :
    Run.Obeys step Alive (start file) events ↔ Run.Meets step Grown (start file) events :=
  Run.obeys_iff_meets (fun _ _ => alive_iff_grown) (fun _ _ _ => open_step) events _
    ⟨fun _ _ => ⟨rfl, Int.le_refl 0⟩, by simp [start]⟩

/-- An empty log is opened, and nothing comes for half a second. -/
def quiet : List Event := [.loop, .read false true, .wake]

/-- Half a line is read when a batch is due, and the other half comes during the sleep. -/
def halfLine : List Event := [.loop, .append [97], .read true true, .read false true,
  .append [98, 10], .wake]

/-- **A quiet file is closed, and so is one that was read in the middle of a line**; a line that is
appended later is not read. -/
theorem not_alive :
    (¬ Run.Obeys step Alive (start []) quiet ∧
      ∃ t, Run.run step (start [])
          (quiet ++ [.append [97, 10], .loop, .read false true, .loop, .read false true]) = some t ∧
        t.isOpen = false ∧ t.enqueued = []) ∧
    (¬ Run.Obeys step Alive (start []) halfLine ∧
      ∃ t, Run.run step (start [])
          (halfLine ++ [.append [97, 10], .loop, .read false true, .loop, .read false true])
            = some t ∧
        t.isOpen = false ∧ t.enqueued = [[97]]) := by
  refine ⟨⟨fun h => ?_, _, rfl, rfl, rfl⟩, fun h => ?_, _, rfl, rfl, rfl⟩
  · rw [alive_iff] at h
    exact absurd h (by decide)
  · rw [alive_iff] at h
    exact absurd h (by decide)

/-! ## Complete lines -/

/-- What is appended when it is complete lines. -/
def Event.ofLines : LogMonitor.Event → Event
  | .append lines => .append (text lines)
  | .stop => .stop
  | .loop => .loop
  | .read late sent => .read late sent
  | .wake => .wake

/-- The monitor of a file of complete lines, as the stream below it shows it. -/
structure Shows (t : Stream) (s : State) : Prop where
  file : t.file = s.content
  isOpen : t.isOpen = s.isOpen
  lastPos : t.lastPos = s.lastPos
  phase : t.phase = s.phase
  stop : t._stop = s._stop
  queue : t.logQueue_ = s.logQueue_
  batches : t.batches = s.batches
  enqueued : t.enqueued = s.enqueued
  reading : t.phase = .reading →
    t.failed = s.failed ∧ t.atEof = false ∧ (t.failed = false → t.pos = s.pos)

variable {s s' : State}

theorem shows_start (file : List FileLine) : Shows (start (text file)) (LogMonitor.start file) where
  file := rfl
  isOpen := rfl
  lastPos := rfl
  phase := rfl
  stop := rfl
  queue := rfl
  batches := rfl
  enqueued := rfl
  reading h := by cases h

theorem shows_enqueue (h : Shows t s) (line : List UInt8) :
    Shows (t.enqueue line) (s.enqueue line) where
  file := h.file
  isOpen := h.isOpen
  lastPos := h.lastPos
  phase := h.phase
  stop := h.stop
  queue := by rw [enqueue, State.enqueue, h.queue]
  batches := h.batches
  enqueued := by rw [enqueue, State.enqueue, h.enqueued]
  reading := h.reading

theorem shows_flush (h : Shows t s) (hp : t.phase = .reading) (hgood : t.failed = false)
    (sent : Bool) : Shows (t.flush sent) (s.flush sent) := by
  obtain ⟨-, heof, hpos⟩ := h.reading hp
  have hflush : t.flush sent = { t with
      logQueue_ := []
      batches := if t.logQueue_.length > 0 then t.batches ++ [(t.logQueue_, sent)] else t.batches
      lastPos := t.pos } := by
    rw [flush, tellg, if_neg (by simp [hgood, heof])]
  rw [hflush]
  exact ⟨h.file, h.isOpen, congrArg Nat.cast (hpos hgood), h.phase, h.stop, rfl,
    by rw [State.flush, h.queue, h.batches], h.enqueued, h.reading⟩

theorem shows_leave (h : Shows t s) (hp : t.phase = .reading) :
    Shows t.leave { s with phase := .loop } := by
  obtain ⟨-, heof, -⟩ := h.reading hp
  have hphase : t.leave.phase = .loop := by rw [leave, heof]; rfl
  exact ⟨h.file, h.isOpen, h.lastPos, hphase, h.stop, h.queue, h.batches, h.enqueued,
    fun hr => by simp [hphase] at hr⟩

theorem shows_read (h : Shows t s) (hp : t.phase = .reading) (late sent : Bool) :
    Shows (t.read late sent) (s.read late sent) := by
  obtain ⟨hfailed, heof, hpos⟩ := h.reading hp
  by_cases hstop : s._stop = true
  · rw [read, if_pos (h.stop.trans hstop), State.read, if_pos (.inl hstop)]
    exact shows_leave h hp
  by_cases hbad : s.failed = true
  · rw [read, if_neg (by rwa [h.stop]), if_pos (by rw [hfailed, hbad, Bool.true_or]), State.read,
      if_pos (.inr hbad)]
    refine shows_leave (t := { t with failed := true }) ?_ hp
    exact ⟨h.file, h.isOpen, h.lastPos, h.phase, h.stop, h.queue, h.batches, h.enqueued,
      fun _ => ⟨hbad.symm, heof, by simp⟩⟩
  have hgood : t.failed = false := by simpa [hfailed] using hbad
  have hpos := hpos hgood
  have hline : getline 10 t.file t.pos = getline 10 s.content s.pos := by rw [h.file, hpos]
  rw [read, if_neg (by rwa [h.stop]), if_neg (by simp [hgood, heof]), State.read,
    if_neg (by simp [hstop, hbad]), hline]
  rcases hget : getline 10 s.content s.pos with - | ⟨line, pos⟩
  · exact ⟨h.file, h.isOpen, h.lastPos, rfl, h.stop, h.queue, h.batches, h.enqueued,
      by simp [leave]⟩
  · have hmem : (10 : UInt8) ∈ s.content.drop s.pos := mem_drop_text fun hnil => by
      rw [← State.content] at hnil
      rw [getline_end hnil] at hget
      cases hget
    have hnext : Shows { t with pos := pos, atEof := decide (10 ∉ t.file.drop t.pos) }
        { s with pos } :=
      ⟨h.file, h.isOpen, h.lastPos, h.phase, h.stop, h.queue, h.batches, h.enqueued,
        fun _ => ⟨hfailed, by simp [h.file, hpos, hmem], fun _ => rfl⟩⟩
    cases late
    · exact shows_enqueue hnext line
    · exact shows_flush (shows_enqueue hnext line) hp hgood sent

/-- **On complete lines the stream does what the monitor of lines does.** -/
theorem shows_step (h : Shows t s) {e : LogMonitor.Event} (hstep : LogMonitor.step s e = some s') :
    ∃ t', step t (.ofLines e) = some t' ∧ Shows t' s' := by
  rcases e with lines | - | - | ⟨late, sent⟩ | -
  case append =>
    obtain rfl := Option.some.inj hstep
    refine ⟨_, rfl, ⟨?_, h.isOpen, h.lastPos, h.phase, h.stop, h.queue, h.batches, h.enqueued,
      h.reading⟩⟩
    rw [State.content, text_append, h.file, State.content]
  case stop =>
    obtain rfl := Option.some.inj hstep
    exact ⟨_, rfl, ⟨h.file, h.isOpen, h.lastPos, h.phase, rfl, h.queue, h.batches, h.enqueued,
      h.reading⟩⟩
  case loop =>
    obtain ⟨hp, hs'⟩ := Option.ite_none_right_eq_some.mp hstep
    obtain rfl := Option.some.inj hs'
    refine ⟨_, if_pos (h.phase.trans hp), ?_⟩
    by_cases hstop : s._stop = true
    · rw [if_pos (h.stop.trans hstop), if_pos hstop]
      exact ⟨h.file, rfl, h.lastPos, rfl, h.stop, h.queue, h.batches, h.enqueued, by simp⟩
    · rw [if_neg (by rwa [h.stop]), if_neg hstop]
      have hlast : 0 ≤ t.lastPos := h.lastPos ▸ Int.natCast_nonneg _
      rw [State.seek]
      by_cases hopen : s.isOpen = true
      · rw [seek_run (h.isOpen.trans hopen) hlast, if_pos hopen]
        exact ⟨h.file, h.isOpen, h.lastPos, rfl, h.stop, h.queue, h.batches, h.enqueued,
          fun _ => ⟨rfl, rfl, fun _ => by rw [h.lastPos, Int.toNat_natCast]⟩⟩
      · rw [seek, if_neg (by simp [h.isOpen, hopen]), if_neg hopen]
        exact ⟨h.file, h.isOpen, h.lastPos, rfl, h.stop, h.queue, h.batches, h.enqueued,
          fun _ => ⟨rfl, rfl, by simp⟩⟩
  case read =>
    obtain ⟨hp, hs'⟩ := Option.ite_none_right_eq_some.mp hstep
    obtain rfl := Option.some.inj hs'
    exact ⟨_, if_pos (h.phase.trans hp), shows_read h (h.phase.trans hp) late sent⟩
  case wake =>
    obtain ⟨hp, hs'⟩ := Option.ite_none_right_eq_some.mp hstep
    obtain rfl := Option.some.inj hs'
    refine ⟨_, if_pos (h.phase.trans hp), ?_⟩
    have hlast : unsigned t.lastPos = s.lastPos := by
      rw [h.lastPos, unsigned_of_nonneg (Int.natCast_nonneg _), Int.toNat_natCast]
    by_cases hlong : s.content.length > s.lastPos
    · rw [reopen, if_pos (by rwa [hlast, h.file]), State.reopen, if_pos hlong]
      exact ⟨h.file, rfl, h.lastPos, rfl, h.stop, h.queue, h.batches, h.enqueued, by simp⟩
    · rw [reopen, if_neg (by rwa [hlast, h.file]), State.reopen, if_neg hlong]
      exact ⟨h.file, rfl, h.lastPos, rfl, h.stop, h.queue, h.batches, h.enqueued, by simp⟩

/-- So do whole runs. -/
theorem shows_run : ∀ (events : List LogMonitor.Event) {t : Stream} {s : State}, Shows t s →
    Run.run LogMonitor.step s events = some s' →
    ∃ t', Run.run step t (events.map Event.ofLines) = some t' ∧ Shows t' s'
  | [], t, s, h, hrun => ⟨t, rfl, Option.some.inj hrun ▸ h⟩
  | e :: events, t, s, h, hrun => by
      obtain ⟨s₁, hs₁, hrun'⟩ := Option.bind_eq_some_iff.mp hrun
      obtain ⟨t₁, ht₁, h₁⟩ := shows_step h hs₁
      rw [List.map_cons, Run.run_cons_of_step ht₁]
      exact shows_run events h₁ hrun'

/-- **A log of complete lines**: whatever the monitor of lines does from its start on, the stream
does too. -/
theorem shows_of_run {file : List FileLine} {events : List LogMonitor.Event}
    (hrun : Run.run LogMonitor.step (LogMonitor.start file) events = some s') :
    ∃ t', Run.run step (start (text file)) (events.map Event.ofLines) = some t' ∧ Shows t' s' :=
  shows_run events (shows_start file) hrun

end Stream

end LogMonitor

end Sadip

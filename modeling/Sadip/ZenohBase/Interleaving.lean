import Sadip.ZenohBase

/-!
# ZenohBase/Interleaving — recording and publishing, step by step

A call that records reads a counter and writes it back, one counter after the other; the monitoring
thread looks at a counter, serialises the accumulator, puts it, and sets the counters to zero.  None
of this is under a lock.  One event is one of these steps, so that runs are all interleavings, and a
put may fail.

A write is lost when another one comes between it and its read, and so is a record that comes
between a serialisation and the reset: `conserved_iff` says that nothing else goes wrong.
-/

namespace Sadip

namespace ZenohBase

namespace Interleaving

/-! ## The steps -/

structure Counters where
  nCount : Int64 := 0
  nSize : Int64 := 0
  deriving DecidableEq

/-- Where a thread is in one of the four recording calls, which differ in their accumulator. -/
inductive Recorder
  | idle
  | called (a : Accumulator) (length : ℕ)
  | readSize (a : Accumulator) (length : ℕ) (nSize : Int64)
  | wroteSize (a : Accumulator) (length : ℕ)
  | readCount (a : Accumulator) (length : ℕ) (nCount : Int64)

/-- Where the monitoring thread is. -/
inductive Publisher
  | sleeping
  | checking (a : Accumulator)
  | serialising (a : Accumulator)
  | putting (a : Accumulator) (m : Counters)
  | resettingCount (a : Accumulator) (m : Counters)
  | resettingSize (a : Accumulator) (m : Counters)

/-- What comes after an accumulator in one round. -/
def Publisher.after : Accumulator → Publisher
  | .monPubInfo_ => .checking .monReplyPubInfo_
  | .monReplyPubInfo_ => .checking .monReaderInfo_
  | .monReaderInfo_ => .checking .monReplyReaderInfo_
  | .monReplyReaderInfo_ => .sleeping

variable {Tid : Type*} [DecidableEq Tid]

structure State (Tid : Type*) where
  counters : Accumulator → Counters
  recorder : Tid → Recorder
  publisher : Publisher
  /-- the messages that were put successfully -/
  put : List Counters
  /-- the records counted, and the bytes added, by the writes so far -/
  recordedCount : ℕ
  recordedSize : ℕ

def init : State Tid where
  counters _ := {}
  recorder _ := .idle
  publisher := .sleeping
  put := []
  recordedCount := 0
  recordedSize := 0

inductive Event (Tid : Type*)
  /-- a thread calls one of the `stat_*_mon_data` -/
  | stat (t : Tid) (a : Accumulator) (length : ℕ)
  /-- a thread takes the next step of its call -/
  | record (t : Tid)
  /-- the monitoring thread takes its next step; a put goes through, or throws -/
  | publish (ok : Bool)

namespace State

def goto (s : State Tid) (t : Tid) (r : Recorder) : State Tid :=
  { s with recorder := Function.update s.recorder t r }

def set (s : State Tid) (a : Accumulator) (c : Counters) : State Tid :=
  { s with counters := Function.update s.counters a c }

def record (s : State Tid) (t : Tid) : Recorder → Option (State Tid)
  | .idle => none
  | .called a length => some (s.goto t (.readSize a length (s.counters a).nSize))
  | .readSize a length nSize =>
      some { (s.goto t (.wroteSize a length)).set a
          { s.counters a with nSize := nSize + Int64.ofNat length } with
        recordedSize := s.recordedSize + length }
  | .wroteSize a length => some (s.goto t (.readCount a length (s.counters a).nCount))
  | .readCount a _ nCount =>
      some { (s.goto t .idle).set a { s.counters a with nCount := nCount + 1 } with
        recordedCount := s.recordedCount + 1 }

/-- A put that throws ends the round. -/
def publish (s : State Tid) (ok : Bool) : Publisher → State Tid
  | .sleeping => { s with publisher := .checking .monPubInfo_ }
  | .checking a =>
      { s with publisher := if (s.counters a).nCount > 0 then .serialising a else .after a }
  | .serialising a => { s with publisher := .putting a (s.counters a) }
  | .putting a m =>
      if ok then { s with publisher := .resettingCount a m, put := s.put ++ [m] }
      else { s with publisher := .sleeping }
  | .resettingCount a m =>
      { s.set a { s.counters a with nCount := 0 } with publisher := .resettingSize a m }
  | .resettingSize a _ => { s.set a { s.counters a with nSize := 0 } with publisher := .after a }

end State

/-- A thread makes one call at a time; a call for a message of no bytes has nothing to do. -/
def step (s : State Tid) : Event Tid → Option (State Tid)
  | .stat t a length =>
      match s.recorder t with
      | .idle => some (if length > 0 then s.goto t (.called a length) else s)
      | _ => none
  | .record t => s.record t (s.recorder t)
  | .publish ok => some (s.publish ok s.publisher)

/-! ## Conservation -/

/-- What has been put but is still in the counters. -/
def Publisher.putCount : Publisher → ℤ
  | .resettingCount _ m => m.nCount.toInt
  | _ => 0

def Publisher.putSize : Publisher → ℤ
  | .resettingCount _ m => m.nSize.toInt
  | .resettingSize _ m => m.nSize.toInt
  | _ => 0

namespace State

variable (s : State Tid)

def publishedOf (f : Counters → Int64) : ℤ := (s.put.map fun m => (f m).toInt).sum

def heldOf (f : Counters → Int64) : ℤ := ∑ a, (f (s.counters a)).toInt

/-- **What was recorded is in the messages put or pending**, where nothing is pending that has been
put. -/
def Conserved : Prop :=
  s.publishedOf (·.nCount) + (s.heldOf (·.nCount) - s.publisher.putCount) = s.recordedCount ∧
    s.publishedOf (·.nSize) + (s.heldOf (·.nSize) - s.publisher.putSize) = s.recordedSize

/-- A counter is written back when it is still what was read, and has room; it is reset when it is
still what was put. -/
def Undisturbed : Event Tid → Prop
  | .stat _ _ _ => True
  | .record t =>
      match s.recorder t with
      | .readSize a length nSize => nSize = (s.counters a).nSize ∧ nSize.toInt + length < 2 ^ 63
      | .readCount a _ nCount => nCount = (s.counters a).nCount ∧ nCount.toInt + 1 < 2 ^ 63
      | _ => True
  | .publish _ =>
      match s.publisher with
      | .resettingCount a m => (s.counters a).nCount = m.nCount
      | .resettingSize a m => (s.counters a).nSize = m.nSize
      | _ => True

end State

theorem Publisher.putCount_after (a : Accumulator) : (Publisher.after a).putCount = 0 := by
  cases a <;> rfl

theorem Publisher.putSize_after (a : Accumulator) : (Publisher.after a).putSize = 0 := by
  cases a <;> rfl

open Publisher

variable {s s' : State Tid} {a : Accumulator} {c : Counters}

omit [DecidableEq Tid] in
/-- **What a step must do to keep the balance**: the change of the accumulator it works on, what it
puts, and what it records. -/
theorem conserved_iff_of_change (hs : s.Conserved) (a : Accumulator) (c : Counters)
    (ms : List Counters) (n l : ℕ)
    (hcounters : s'.counters = Function.update s.counters a c) (hput : s'.put = s.put ++ ms)
    (hn : s'.recordedCount = s.recordedCount + n) (hl : s'.recordedSize = s.recordedSize + l) :
    s'.Conserved ↔
      (ms.map (·.nCount.toInt)).sum + c.nCount.toInt + s.publisher.putCount =
        (s.counters a).nCount.toInt + s'.publisher.putCount + n ∧
      (ms.map (·.nSize.toInt)).sum + c.nSize.toInt + s.publisher.putSize =
        (s.counters a).nSize.toInt + s'.publisher.putSize + l := by
  have hheld : ∀ f, s'.heldOf f = s.heldOf f - (f (s.counters a)).toInt + (f c).toInt := fun f => by
    rw [State.heldOf, hcounters]
    exact Tally.sum_comp_update (fun c => (f c).toInt) s.counters a c
  have hpub : ∀ f : Counters → Int64,
      s'.publishedOf f = s.publishedOf f + (ms.map fun m => (f m).toInt).sum := fun f => by
    rw [State.publishedOf, hput, List.map_append, List.sum_append]
    rfl
  obtain ⟨hcount, hsize⟩ := hs
  rw [State.Conserved, hheld, hheld, hpub, hpub, hn, hl]
  push_cast
  constructor <;> rintro ⟨h1, h2⟩ <;> constructor <;> linarith

omit [DecidableEq Tid] in
/-- A step that changes no counter and records nothing. -/
theorem conserved_of_same (hs : s.Conserved) (hcounters : s'.counters = s.counters)
    (hput : s'.put = s.put) (hpub : s'.publisher.putCount = s.publisher.putCount ∧
      s'.publisher.putSize = s.publisher.putSize)
    (hn : s'.recordedCount = s.recordedCount) (hl : s'.recordedSize = s.recordedSize) :
    s'.Conserved := by
  rw [State.Conserved, State.publishedOf, State.publishedOf, State.heldOf, State.heldOf, hcounters,
    hput, hpub.1, hpub.2, hn, hl]
  exact hs

/-! ## One step -/

omit [DecidableEq Tid] in
theorem forall_some {P : State Tid → Prop} : (∀ s', some s = some s' → P s') ↔ P s :=
  ⟨fun h => h s rfl, fun h _ hs => Option.some.inj hs ▸ h⟩

theorem conserved_stat (hs : s.Conserved) {t : Tid} {length : ℕ}
    (hstep : step s (.stat t a length) = some s') : s'.Conserved := by
  rw [step] at hstep
  rcases hr : s.recorder t with - | _ | _ | _ | _ <;> rw [hr] at hstep
  case idle =>
    obtain rfl := Option.some.inj hstep
    split
    · exact conserved_of_same hs rfl rfl ⟨rfl, rfl⟩ rfl rfl
    · exact hs
  all_goals cases hstep

theorem conserved_record_iff (hs : s.Conserved) (t : Tid) :
    (∀ s', step s (.record t) = some s' → s'.Conserved) ↔ s.Undisturbed (.record t) := by
  rw [step, State.Undisturbed]
  rcases s.recorder t with - | ⟨a, n⟩ | ⟨a, n, v⟩ | ⟨a, n⟩ | ⟨a, n, v⟩
  case idle => exact iff_of_true (fun s' h => by cases h) trivial
  case called | wroteSize =>
    refine iff_of_true (fun s' h => ?_) trivial
    obtain rfl := Option.some.inj h
    exact conserved_of_same hs rfl rfl ⟨rfl, rfl⟩ rfl rfl
  case readSize =>
    rw [State.record, forall_some]
    refine Iff.trans (conserved_iff_of_change hs a
      { s.counters a with nSize := v + Int64.ofNat n } [] 0 n rfl
        (List.append_nil _).symm rfl rfl) ?_
    simp only [List.map_nil, List.sum_nil, zero_add, Nat.cast_zero, add_zero]
    rw [← Tally.toInt_add_eq_iff]
    show _ + s.publisher.putCount = _ + s.publisher.putCount ∧
      _ + s.publisher.putSize = _ + s.publisher.putSize + _ ↔ _
    constructor
    · rintro ⟨-, h⟩
      linarith
    · intro h
      exact ⟨rfl, by rw [h]; ring⟩
  case readCount =>
    rw [State.record, forall_some]
    refine Iff.trans (conserved_iff_of_change hs a { s.counters a with nCount := v + 1 } [] 1 0 rfl
      (List.append_nil _).symm rfl rfl) ?_
    simp only [List.map_nil, List.sum_nil, zero_add, Nat.cast_zero, add_zero]
    have hwrite : (v + 1).toInt = (s.counters a).nCount.toInt + 1 ↔
        v = (s.counters a).nCount ∧ v.toInt + 1 < 2 ^ 63 := Tally.toInt_add_eq_iff _ _ 1
    rw [← hwrite]
    show _ + s.publisher.putCount = _ + s.publisher.putCount + _ ∧
      _ + s.publisher.putSize = _ + s.publisher.putSize ↔ _
    push_cast
    constructor
    · rintro ⟨h, -⟩
      linarith
    · intro h
      exact ⟨by rw [h]; ring, rfl⟩

theorem conserved_publish_iff (hs : s.Conserved) (ok : Bool) :
    (∀ s', step s (.publish ok) = some s' → s'.Conserved) ↔ s.Undisturbed (.publish ok) := by
  rw [step, State.Undisturbed, forall_some]
  rcases hp : s.publisher with - | a | a | ⟨a, m⟩ | ⟨a, m⟩ | ⟨a, m⟩
  case sleeping | serialising =>
    refine iff_of_true (conserved_of_same hs rfl rfl ?_ rfl rfl) trivial
    rw [hp]
    exact ⟨rfl, rfl⟩
  case checking =>
    refine iff_of_true (conserved_of_same hs rfl rfl ?_ rfl rfl) trivial
    rw [State.publish, hp]
    split
    · exact ⟨rfl, rfl⟩
    · exact ⟨putCount_after a, putSize_after a⟩
  case putting =>
    refine iff_of_true ?_ trivial
    rw [State.publish]
    split
    · refine Iff.mpr (conserved_iff_of_change hs a (s.counters a) [m] 0 0
        (Function.update_eq_self a _).symm rfl rfl rfl) ?_
      simp [hp, Publisher.putCount, Publisher.putSize, add_comm]
    · refine conserved_of_same hs rfl rfl ?_ rfl rfl
      rw [hp]
      exact ⟨rfl, rfl⟩
  case resettingCount =>
    refine Iff.trans (conserved_iff_of_change hs a { s.counters a with nCount := 0 } [] 0 0 rfl
      (List.append_nil _).symm rfl rfl) ?_
    rw [hp]
    show 0 + 0 + m.nCount.toInt = (s.counters a).nCount.toInt + 0 + 0 ∧
      0 + (s.counters a).nSize.toInt + m.nSize.toInt =
        (s.counters a).nSize.toInt + m.nSize.toInt + 0 ↔
      (s.counters a).nCount = m.nCount
    rw [← Int64.toInt_inj]
    constructor
    · rintro ⟨h, -⟩
      linarith
    · intro h
      exact ⟨by linarith, by ring⟩
  case resettingSize =>
    refine Iff.trans (conserved_iff_of_change hs a { s.counters a with nSize := 0 } [] 0 0 rfl
      (List.append_nil _).symm rfl rfl) ?_
    rw [hp, State.publish, putCount_after, putSize_after]
    show 0 + (s.counters a).nCount.toInt + 0 = (s.counters a).nCount.toInt + 0 + 0 ∧
      0 + 0 + m.nSize.toInt = (s.counters a).nSize.toInt + 0 + 0 ↔ (s.counters a).nSize = m.nSize
    rw [← Int64.toInt_inj]
    constructor
    · rintro ⟨-, h⟩
      linarith
    · intro h
      exact ⟨by ring, by linarith⟩

/-! ## Runs -/

/-- **Nothing is lost or doubled exactly as long as no step is disturbed**: each counter is written
back as it was read, and reset as it was put. -/
theorem conserved_iff (events : List (Event Tid)) :
    Run.Obeys step (fun _ _ s' => s'.Conserved) init events ↔
      Run.Meets step State.Undisturbed init events := by
  refine Run.obeys_iff_meets (I := State.Conserved) (fun s e hs => ?_)
    (fun s e s' _ _ h => h) events
    init ?_
  · rcases e with ⟨t, a, length⟩ | t | ok
    · exact iff_of_true (fun s' => conserved_stat hs) trivial
    · exact conserved_record_iff hs t
    · exact conserved_publish_iff hs ok
  · have hzero : ∀ f : Counters → Int64, f {} = 0 → (init : State Tid).heldOf f = 0 := fun f hf =>
      Finset.sum_eq_zero fun a _ => by rw [show f ((init : State Tid).counters a) = 0 from hf]; rfl
    rw [State.Conserved, hzero _ rfl, hzero _ rfl]
    exact ⟨rfl, rfl⟩

omit [DecidableEq Tid] in
/-- Between two rounds everything recorded has been put or is in the counters. -/
theorem State.Conserved.total (hs : s.Conserved) (hp : s.publisher = .sleeping) :
    s.publishedOf (·.nCount) + s.heldOf (·.nCount) = s.recordedCount ∧
      s.publishedOf (·.nSize) + s.heldOf (·.nSize) = s.recordedSize := by
  obtain ⟨hcount, hsize⟩ := hs
  rw [hp] at hcount hsize
  exact ⟨by simpa [putCount] using hcount, by simpa [putSize] using hsize⟩

/-- A record is made between the serialisation of an accumulator and its reset. -/
def lateRecord : List (Event Unit) :=
  [.stat () .monPubInfo_ 10, .record (), .record (), .record (), .record (), .publish true,
    .publish true, .publish true, .stat () .monPubInfo_ 20, .record (), .record (), .record (),
    .record (), .publish true, .publish true, .publish true, .publish true, .publish true,
    .publish true]

/-- **The late record is lost**: of two records, one is put and none is pending. -/
theorem not_conserved : ∃ s, Run.run step init lateRecord = some s ∧ ¬ s.Conserved ∧
    s.recorder () = .idle ∧ s.publisher = .sleeping ∧ s.recordedCount = 2 ∧
    s.publishedOf (·.nCount) + s.heldOf (·.nCount) = 1 := by
  refine ⟨_, rfl, fun h => ?_, rfl, rfl, rfl, by decide⟩
  exact absurd h.1 (by decide)

/-! ## Without interruption

A call that nothing comes between records what `Base.monMsg` records, and the part of a round for
one accumulator publishes what `Base.publish` publishes. -/

def Counters.of (m : TopicMonInfo) : Counters := ⟨m.nCount, m.nSize⟩

/-- The counters and the messages of `z`, without what they are about. -/
structure Shows (s : State Tid) (z : Base) : Prop where
  counters : ∀ a, s.counters a = Counters.of (z.info a)
  put : s.put = z.published.map Counters.of

variable {z : Base} {t : Tid} {data : TopicMonInfo} {length : ℕ}

theorem record_uninterrupted (h : Shows s z) (ht : s.recorder t = .idle) (hlen : length > 0)
    (hdata : data.nSize = Int64.ofNat length) (a : Accumulator) (now : Int64) :
    ∃ s', Run.run step s [.stat t a length, .record t, .record t, .record t, .record t] = some s' ∧
      Shows s' (z.monMsg a now data length) := by
  simp only [Run.run, step, ht, if_pos hlen, Option.bind_some, State.goto, State.set, State.record,
    Function.update_self]
  refine ⟨_, rfl, fun b => ?_, h.put⟩
  by_cases hb : b = a
  · subst hb
    rw [info_monMsg_self]
    show Function.update _ _ _ _ = _
    rw [Function.update_self, h.counters]
    exact congrArg (Counters.mk _) (congrArg _ hdata.symm)
  · rw [info_monMsg_of_ne z hb]
    show Function.update _ _ _ _ = _
    rw [Function.update_of_ne hb, Function.update_of_ne hb]
    exact h.counters b

theorem publish_uninterrupted (h : Shows s z) (hp : s.publisher = .checking a) :
    ∃ events s', Run.run step s events = some s' ∧ Shows s' (z.publish a) ∧
      s'.publisher = .after a := by
  have hcount : (s.counters a).nCount = (z.info a).nCount := by
    rw [h.counters]
    rfl
  rw [Base.publish]
  split
  · rename_i hpos
    refine ⟨List.replicate 5 (.publish true), ?_⟩
    have hcheck : (s.counters a).nCount > 0 := hcount ▸ hpos
    simp only [List.replicate, Run.run, step, hp, State.publish, if_pos hcheck, if_true,
      Option.bind_some, State.set]
    refine ⟨_, rfl, ⟨fun b => ?_, ?_⟩, rfl⟩
    · by_cases hb : b = a
      · subst hb
        simp only [Function.update_self]
        rfl
      · simp only [Function.update_of_ne hb]
        exact h.counters b
    · rw [List.map_append, ← h.put, h.counters]
      rfl
  · rename_i hzero
    refine ⟨[.publish true], ?_⟩
    have hcheck : ¬ (s.counters a).nCount > 0 := hcount ▸ hzero
    simp only [Run.run, step, hp, State.publish, if_neg hcheck, Option.bind_some]
    exact ⟨_, rfl, ⟨h.counters, h.put⟩, rfl⟩

end Interleaving

end ZenohBase

end Sadip

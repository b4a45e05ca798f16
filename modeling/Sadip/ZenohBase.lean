import Mathlib.Data.Fintype.Basic
import Mathlib.Tactic.Linarith
import Sadip.Machinery.Run
import Sadip.Machinery.Tally

/-!
# ZenohBase — traffic monitoring, `dds/ZenohBase.h`

Every message that a topic sends or receives is recorded in one of four accumulators, and a thread
publishes each of them from time to time and puts its counters back to zero.  An accumulator is one
`TopicMonInfo`: the record that comes last says which nodes it is about, the counters are about all
records since it was published.

Here records and publications happen one after the other; their steps are in
`ZenohBase/Interleaving`.
-/

namespace Sadip

namespace ZenohBase

/-! ## Messages and accumulators -/

structure TopicMonInfo where
  uuid : String := ""
  domain : Int32 := 0
  srcNodeId : String := ""
  toNodeId : String := ""
  topicName : String := ""
  cycle : Int64 := 0
  updateTime : Int64 := 0
  nCount : Int64 := 0
  nSize : Int64 := 0
  srcType : Int32 := 0
  progarmName : String := ""
  deriving DecidableEq

/-- The two nodes a message is about. -/
def TopicMonInfo.pair (m : TopicMonInfo) : String × String := (m.srcNodeId, m.toNodeId)

inductive Accumulator
  | monPubInfo_
  | monReplyPubInfo_
  | monReaderInfo_
  | monReplyReaderInfo_
  deriving DecidableEq

instance : Fintype Accumulator where
  elems := {.monPubInfo_, .monReplyPubInfo_, .monReaderInfo_, .monReplyReaderInfo_}
  complete a := by cases a <;> decide

/-- What `ZenohBase` reads of its topic. -/
structure TopicInfo where
  domain_ : Int32
  nodeId_ : String
  programName_ : String
  topic_ : String
  topicReply_ : String
  monSendSleep_ : UInt32

/-- An accumulator with a record added to it. -/
def TopicMonInfo.add (m : TopicMonInfo) (info : TopicInfo) (now : Int64) (data : TopicMonInfo) :
    TopicMonInfo where
  uuid := data.uuid
  domain := info.domain_
  topicName := data.topicName
  cycle := Int64.ofNat info.monSendSleep_.toNat
  toNodeId := data.toNodeId
  srcNodeId := data.srcNodeId
  updateTime := now
  nSize := m.nSize + data.nSize
  nCount := m.nCount + 1
  srcType := data.srcType
  progarmName := data.progarmName

/-- A record that was made: the nodes, and the number of bytes. -/
structure Record where
  pair : String × String
  size : ℕ
  deriving DecidableEq

structure Base where
  topic_info_ : TopicInfo
  /-- `write_mon_publisher_` has been created -/
  write_mon_publisher_ : Bool
  info : Accumulator → TopicMonInfo
  /-- what was put, and what was recorded -/
  published : List TopicMonInfo
  records : List Record

def start (info : TopicInfo) : Base where
  topic_info_ := info
  write_mon_publisher_ := false
  info _ := {}
  published := []
  records := []

namespace Base

variable (z : Base)

/-! ## Recording -/

/-- The body that `write_mon_msg`, `write_reply_mon_msg`, `reader_mon_msg` and
`reader_reply_mon_msg` share, each with its accumulator; `needMonitor_` is never cleared. -/
def monMsg (a : Accumulator) (now : Int64) (data : TopicMonInfo) (length : ℕ) : Base :=
  { z with
    info := Function.update z.info a ((z.info a).add z.topic_info_ now data)
    records := z.records ++ [⟨data.pair, length⟩] }

def writeMonMsg : Int64 → TopicMonInfo → ℕ → Base := z.monMsg .monPubInfo_

def writeReplyMonMsg : Int64 → TopicMonInfo → ℕ → Base := z.monMsg .monReplyPubInfo_

def readerMonMsg : Int64 → TopicMonInfo → ℕ → Base := z.monMsg .monReaderInfo_

def readerReplyMonMsg : Int64 → TopicMonInfo → ℕ → Base := z.monMsg .monReplyReaderInfo_

/-- The record of a message that was sent. -/
def sent (uuid topicName toNodeId : String) (length : ℕ) : TopicMonInfo :=
  { uuid, topicName, srcNodeId := z.topic_info_.nodeId_, toNodeId, nCount := 1, srcType := 1
    nSize := Int64.ofNat length, progarmName := z.topic_info_.programName_ }

/-- The record of a message that was received. -/
def received (uuid topicName srcNodeId : String) (length : ℕ) : TopicMonInfo :=
  { uuid, topicName, srcNodeId, toNodeId := z.topic_info_.nodeId_, nCount := 1, srcType := 2
    nSize := Int64.ofNat length, progarmName := z.topic_info_.programName_ }

def statWriterMonData (uuid : String) (now : Int64) (length : ℕ) (toNodeId : String) : Base :=
  if length > 0 then
    z.writeMonMsg now (z.sent uuid z.topic_info_.topic_ toNodeId length) length
  else z

def statReplyWriterMonData (uuid : String) (now : Int64) (length : ℕ) (toNodeId : String) : Base :=
  if length > 0 then
    z.writeReplyMonMsg now (z.sent uuid z.topic_info_.topicReply_ toNodeId length) length
  else z

def statReaderMonData (uuid : String) (now : Int64) (topicName srcNodeId : String) (length : ℕ) :
    Base :=
  if length > 0 then z.readerMonMsg now (z.received uuid topicName srcNodeId length) length else z

def statReplyReaderMonData (uuid : String) (now : Int64) (topicName srcNodeId : String)
    (length : ℕ) : Base :=
  if length > 0 then
    z.readerReplyMonMsg now (z.received uuid topicName srcNodeId length) length
  else z

/-! ## Publishing -/

/-- The part of the monitoring loop for one accumulator. -/
def publish (a : Accumulator) : Base :=
  if (z.info a).nCount > 0 then
    { z with
      published := z.published ++ [z.info a]
      info := Function.update z.info a { z.info a with nCount := 0, nSize := 0 } }
  else z

/-- One round of the monitoring thread. -/
def monitor : Base :=
  if z.write_mon_publisher_ then
    (((z.publish .monPubInfo_).publish .monReplyPubInfo_).publish .monReaderInfo_).publish
      .monReplyReaderInfo_
  else z

end Base

inductive Event
  | createWriterMonPub
  | statWriterMonData (uuid : String) (now : Int64) (length : ℕ) (toNodeId : String)
  | statReplyWriterMonData (uuid : String) (now : Int64) (length : ℕ) (toNodeId : String)
  | statReaderMonData (uuid : String) (now : Int64) (topicName srcNodeId : String) (length : ℕ)
  | statReplyReaderMonData (uuid : String) (now : Int64) (topicName srcNodeId : String)
      (length : ℕ)
  | monitor

def step (z : Base) : Event → Option Base
  | .createWriterMonPub => some { z with write_mon_publisher_ := true }
  | .statWriterMonData uuid now length toNodeId =>
      some (z.statWriterMonData uuid now length toNodeId)
  | .statReplyWriterMonData uuid now length toNodeId =>
      some (z.statReplyWriterMonData uuid now length toNodeId)
  | .statReaderMonData uuid now topicName srcNodeId length =>
      some (z.statReaderMonData uuid now topicName srcNodeId length)
  | .statReplyReaderMonData uuid now topicName srcNodeId length =>
      some (z.statReplyReaderMonData uuid now topicName srcNodeId length)
  | .monitor => some z.monitor

/-- The record that an event makes: where, what it says, and of how many bytes.  A message of no
bytes makes none. -/
def Base.made (z : Base) : Event → Option (Accumulator × TopicMonInfo × ℕ)
  | .statWriterMonData uuid _ length toNodeId =>
      if length > 0 then
        some (.monPubInfo_, z.sent uuid z.topic_info_.topic_ toNodeId length, length)
      else none
  | .statReplyWriterMonData uuid _ length toNodeId =>
      if length > 0 then
        some (.monReplyPubInfo_, z.sent uuid z.topic_info_.topicReply_ toNodeId length, length)
      else none
  | .statReaderMonData uuid _ topicName srcNodeId length =>
      if length > 0 then
        some (.monReaderInfo_, z.received uuid topicName srcNodeId length, length)
      else none
  | .statReplyReaderMonData uuid _ topicName srcNodeId length =>
      if length > 0 then
        some (.monReplyReaderInfo_, z.received uuid topicName srcNodeId length, length)
      else none
  | _ => none

/-! ## What is said about a pair of nodes -/

/-- What a message says about a pair. -/
def share (f : TopicMonInfo → Int64) (p : String × String) (m : TopicMonInfo) : ℤ :=
  if m.pair = p then (f m).toInt else 0

namespace Base

variable (z : Base) (p : String × String)

/-- What the messages put so far say about the pair. -/
def publishedOf (f : TopicMonInfo → Int64) : ℤ := (z.published.map (share f p)).sum

/-- What is pending for the pair. -/
def pendingOf (f : TopicMonInfo → Int64) : ℤ := ∑ a, share f p (z.info a)

/-- What was recorded for the pair. -/
def recordedOf (g : Record → ℕ) : ℤ :=
  (z.records.map fun r => if r.pair = p then (g r : ℤ) else 0).sum

/-- **Each pair gets what was recorded for it**: the records and their bytes. -/
def Attributed : Prop := ∀ p,
  z.publishedOf p (·.nCount) + z.pendingOf p (·.nCount) = z.recordedOf p (fun _ => 1) ∧
  z.publishedOf p (·.nSize) + z.pendingOf p (·.nSize) = z.recordedOf p Record.size

/-- A record comes to an accumulator that is empty or about the same nodes, and has room in its
counters. -/
def Attributable (e : Event) : Prop :=
  ∀ a data length, z.made e = some (a, data, length) →
    ((z.info a).nCount = 0 ∨ (z.info a).pair = data.pair) ∧
    (z.info a).nCount.toInt + 1 < 2 ^ 63 ∧ (z.info a).nSize.toInt + length < 2 ^ 63

end Base

/-! ## One step -/

variable {z z' : Base} {e : Event} {a : Accumulator} {data : TopicMonInfo} {length : ℕ}
  {now : Int64}

theorem step_of_made (h : z.made e = some (a, data, length)) :
    ∃ now, step z e = some (z.monMsg a now data length) ∧ data.nSize = Int64.ofNat length ∧
      0 < length := by
  rcases e with - | ⟨uuid, now, n, dst⟩ | ⟨uuid, now, n, dst⟩ | ⟨uuid, now, topic, src, n⟩ |
    ⟨uuid, now, topic, src, n⟩ | -
  case createWriterMonPub | monitor => cases h
  all_goals
    obtain ⟨hn, ⟨⟩⟩ := Option.ite_none_right_eq_some.mp h
    exact ⟨now, congrArg some (if_pos hn), rfl, hn⟩

/-- An event that makes no record leaves the accumulators alone, or publishes them. -/
theorem step_of_not_made (h : z.made e = none) :
    step z e = some z ∨ step z e = some { z with write_mon_publisher_ := true } ∨
      step z e = some z.monitor := by
  rcases e with - | ⟨uuid, now, n, dst⟩ | ⟨uuid, now, n, dst⟩ | ⟨uuid, now, topic, src, n⟩ |
    ⟨uuid, now, topic, src, n⟩ | -
  case createWriterMonPub => exact .inr (.inl rfl)
  case monitor => exact .inr (.inr rfl)
  all_goals
    have hn : ¬ n > 0 := fun hn => by
      rw [Base.made, if_pos hn] at h
      cases h
    exact .inl (congrArg some (if_neg hn))

theorem info_monMsg_self (z : Base) (a : Accumulator) :
    (z.monMsg a now data length).info a = (z.info a).add z.topic_info_ now data :=
  Function.update_self ..

theorem info_monMsg_of_ne (z : Base) {a b : Accumulator} (hb : b ≠ a) :
    (z.monMsg a now data length).info b = z.info b :=
  Function.update_of_ne hb ..

theorem share_reset {f : TopicMonInfo → Int64} (m : TopicMonInfo) (p : String × String)
    (hf : f { m with nCount := 0, nSize := 0 } = 0) :
    share f p { m with nCount := 0, nSize := 0 } = 0 := by
  rw [share, hf]
  split <;> rfl

/-- **Publishing moves what is pending into what is published.** -/
theorem published_add_pending_publish (z : Base) (a : Accumulator) (p : String × String)
    {f : TopicMonInfo → Int64} (hf : ∀ m : TopicMonInfo, f { m with nCount := 0, nSize := 0 } = 0) :
    (z.publish a).publishedOf p f + (z.publish a).pendingOf p f =
      z.publishedOf p f + z.pendingOf p f := by
  rw [Base.publish]
  split
  · simp only [Base.publishedOf, Base.pendingOf, List.map_append, List.sum_append,
      List.map_singleton, List.sum_singleton]
    rw [Tally.sum_comp_update (share f p), share_reset _ _ (hf _)]
    ring
  · rfl

theorem attributed_publish (hz : z.Attributed) (a : Accumulator) : (z.publish a).Attributed := by
  have hrec : ∀ g p, (z.publish a).recordedOf p g = z.recordedOf p g := fun g p => by
    rw [Base.publish]
    split <;> rfl
  intro p
  rw [published_add_pending_publish z a p fun _ => rfl, published_add_pending_publish z a p
    fun _ => rfl, hrec, hrec]
  exact hz p

theorem attributed_monitor (hz : z.Attributed) : z.monitor.Attributed := by
  rw [Base.monitor]
  split
  · exact attributed_publish (attributed_publish
      (attributed_publish (attributed_publish hz _) _) _) _
  · exact hz

/-! ## Accumulators that are empty or not -/

/-- No counter is negative, and one without records has no bytes. -/
def Sound (m : TopicMonInfo) : Prop := 0 ≤ m.nCount.toInt ∧ (m.nCount = 0 → m.nSize = 0)

theorem sound_publish (hz : ∀ b, Sound (z.info b)) (a b : Accumulator) :
    Sound ((z.publish a).info b) := by
  rw [Base.publish]
  split
  · by_cases hb : b = a
    · subst hb
      show Sound (Function.update z.info b _ b)
      rw [Function.update_self]
      exact ⟨le_rfl, fun _ => rfl⟩
    · show Sound (Function.update z.info a _ b)
      rw [Function.update_of_ne hb]
      exact hz b
  · exact hz b

theorem sound_monitor (hz : ∀ b, Sound (z.info b)) (b : Accumulator) :
    Sound (z.monitor.info b) := by
  rw [Base.monitor]
  split
  · exact sound_publish (sound_publish (sound_publish (sound_publish hz _) _) _) _ b
  · exact hz b

theorem sound_monMsg (hz : ∀ b, Sound (z.info b)) (hroom : (z.info a).nCount.toInt + 1 < 2 ^ 63)
    (b : Accumulator) : Sound ((z.monMsg a now data length).info b) := by
  by_cases hb : b = a
  · subst hb
    have hcount : ((z.info b).nCount + 1).toInt = (z.info b).nCount.toInt + 1 :=
      (Tally.toInt_add_eq_iff _ _ 1).mpr ⟨rfl, hroom⟩
    have hnonneg := (hz b).1
    rw [info_monMsg_self]
    refine ⟨?_, fun hzero => ?_⟩
    · show 0 ≤ ((z.info b).nCount + 1).toInt
      omega
    · have hint := congrArg Int64.toInt (show (z.info b).nCount + 1 = 0 from hzero)
      rw [hcount, Int64.toInt_zero] at hint
      omega
  · rw [info_monMsg_of_ne z hb]
    exact hz b

/-- What a record does to the shares of the accumulator it comes to. -/
def Gains (m : TopicMonInfo) (data : TopicMonInfo) (length : ℕ) : Prop := ∀ p,
  (if data.pair = p then (m.nCount + 1).toInt else 0) =
    share (·.nCount) p m + (if data.pair = p then 1 else 0) ∧
  (if data.pair = p then (m.nSize + data.nSize).toInt else 0) =
    share (·.nSize) p m + (if data.pair = p then (length : ℤ) else 0)

theorem attributed_monMsg_iff (hz : z.Attributed) :
    (z.monMsg a now data length).Attributed ↔ Gains (z.info a) data length := by
  have hpend : ∀ f p, (z.monMsg a now data length).pendingOf p f = z.pendingOf p f -
      share f p (z.info a) + share f p ((z.info a).add z.topic_info_ now data) := fun f p =>
    Tally.sum_comp_update (share f p) z.info a _
  have hrec : ∀ g p, (z.monMsg a now data length).recordedOf p g =
      z.recordedOf p g + if data.pair = p then (g ⟨data.pair, length⟩ : ℤ) else 0 := fun g p => by
    simp [Base.recordedOf, Base.monMsg]
  refine forall_congr' fun p => ?_
  obtain ⟨hcount, hsize⟩ := hz p
  rw [hpend, hpend, hrec, hrec]
  have hcount' : share (·.nCount) p ((z.info a).add z.topic_info_ now data) =
      if data.pair = p then ((z.info a).nCount + 1).toInt else 0 := rfl
  have hsize' : share (·.nSize) p ((z.info a).add z.topic_info_ now data) =
      if data.pair = p then ((z.info a).nSize + data.nSize).toInt else 0 := rfl
  rw [hcount', hsize']
  show z.publishedOf p (·.nCount) + _ = _ ∧ z.publishedOf p (·.nSize) + _ = _ ↔ _
  push_cast
  constructor <;> rintro ⟨h1, h2⟩ <;> constructor <;> linarith

/-- **An accumulator takes in a record** just when it has none, or is about the same nodes. -/
theorem gains_iff {m : TopicMonInfo} (hm : Sound m) (hsize : data.nSize = Int64.ofNat length) :
    Gains m data length ↔ (m.nCount = 0 ∨ m.pair = data.pair) ∧ m.nCount.toInt + 1 < 2 ^ 63 ∧
      m.nSize.toInt + length < 2 ^ 63 := by
  have hcount : (m.nCount + 1).toInt = m.nCount.toInt + 1 ↔ m.nCount.toInt + 1 < 2 ^ 63 :=
    (Tally.toInt_add_eq_iff _ _ 1).trans (and_iff_right rfl)
  have hbytes : (m.nSize + data.nSize).toInt = m.nSize.toInt + length ↔
      m.nSize.toInt + length < 2 ^ 63 := by
    rw [hsize]
    exact (Tally.toInt_add_eq_iff _ _ length).trans (and_iff_right rfl)
  by_cases hp : m.pair = data.pair
  · constructor
    · intro h
      obtain ⟨h1, h2⟩ := h data.pair
      rw [if_pos rfl, share, if_pos hp, if_pos rfl] at h1 h2
      exact ⟨.inr hp, hcount.mp h1, hbytes.mp h2⟩
    · rintro ⟨-, h1, h2⟩ p
      rw [share, share, hp]
      split
      · exact ⟨hcount.mpr h1, hbytes.mpr h2⟩
      · exact ⟨rfl, rfl⟩
  · constructor
    · intro h
      have hzero : m.nCount = 0 := by
        have h1 := (h m.pair).1
        rw [if_neg (Ne.symm hp), share, if_pos rfl, if_neg (Ne.symm hp), add_zero] at h1
        exact Int64.toInt_inj.mp h1.symm
      obtain ⟨-, h2⟩ := h data.pair
      rw [if_pos rfl, share, if_neg hp, if_pos rfl, zero_add] at h2
      refine ⟨.inl hzero, by rw [hzero]; decide, hbytes.mp ?_⟩
      rw [h2, hm.2 hzero, Int64.toInt_zero, zero_add]
    · rintro ⟨hzero, -, h2⟩ p
      obtain hzero : m.nCount = 0 := hzero.resolve_right hp
      have hnone : ∀ f : TopicMonInfo → Int64, f m = 0 → share f p m = 0 := fun f hf => by
        rw [share, hf]
        split <;> rfl
      rw [hnone _ hzero, hnone _ (hm.2 hzero), hbytes.mpr h2, hzero, hm.2 hzero]
      split
      · exact ⟨rfl, rfl⟩
      · exact ⟨rfl, rfl⟩

/-! ## Runs -/

theorem attributed_step_iff (hz : z.Attributed ∧ ∀ b, Sound (z.info b)) :
    (∀ z', step z e = some z' → z'.Attributed) ↔ z.Attributable e := by
  rcases h : z.made e with - | ⟨a, data, length⟩
  · have hfree : z.Attributable e := fun a data length h' => by
      rw [h] at h'
      cases h'
    refine iff_of_true (fun z' hstep => ?_) hfree
    rcases step_of_not_made h with h' | h' | h' <;>
      obtain rfl := Option.some.inj (hstep.symm.trans h')
    · exact hz.1
    · exact hz.1
    · exact attributed_monitor hz.1
  · obtain ⟨now, hstep, hsize, -⟩ := step_of_made h
    have hgains : (z.monMsg a now data length).Attributed ↔ _ :=
      (attributed_monMsg_iff hz.1).trans (gains_iff (hz.2 a) hsize)
    constructor
    · intro hlaw a' data' length' h'
      obtain ⟨rfl, rfl, rfl⟩ : a = a' ∧ data = data' ∧ length = length' := by
        simpa using h.symm.trans h'
      exact hgains.mp (hlaw _ hstep)
    · intro hok z' hstep'
      obtain rfl := Option.some.inj (hstep'.symm.trans hstep)
      exact hgains.mpr (hok a data length h)

theorem sound_step (hz : z.Attributed ∧ ∀ b, Sound (z.info b)) (hstep : step z e = some z')
    (hlaw : z'.Attributed) : ∀ b, Sound (z'.info b) := by
  rcases h : z.made e with - | ⟨a, data, length⟩
  · rcases step_of_not_made h with h' | h' | h' <;>
      obtain rfl := Option.some.inj (hstep.symm.trans h')
    · exact hz.2
    · exact hz.2
    · exact sound_monitor hz.2
  · obtain ⟨now, hstep', hsize, -⟩ := step_of_made h
    obtain rfl := Option.some.inj (hstep.symm.trans hstep')
    obtain ⟨-, hroom, -⟩ := (gains_iff (hz.2 a) hsize).mp ((attributed_monMsg_iff hz.1).mp hlaw)
    exact sound_monMsg hz.2 hroom

theorem attributed_start (info : TopicInfo) :
    (start info).Attributed ∧ ∀ b, Sound ((start info).info b) := by
  have hempty : ∀ f : TopicMonInfo → Int64, f {} = 0 → ∀ p,
      (start info).publishedOf p f + (start info).pendingOf p f = 0 := fun f hf p =>
    (zero_add _).trans (Finset.sum_eq_zero fun a _ => by
      rw [share, show f ((start info).info a) = 0 from hf]
      exact ite_self 0)
  exact ⟨fun p => ⟨hempty _ rfl p, hempty _ rfl p⟩, fun _ => ⟨le_rfl, fun _ => rfl⟩⟩

/-- **Each pair of nodes gets its own traffic exactly as long as each record comes to an accumulator
that is empty or about the same pair.** -/
theorem attributed_iff (info : TopicInfo) (events : List Event) :
    Run.Obeys step (fun _ _ z' => z'.Attributed) (start info) events ↔
      Run.Meets step Base.Attributable (start info) events :=
  Run.obeys_iff_meets (fun _ _ => attributed_step_iff)
    (fun _ _ _ hz hstep hlaw => ⟨hlaw, sound_step hz hstep hlaw⟩) events _ (attributed_start info)

/-- Two messages go out between two publications, to one node and to another. -/
def twoNodes : List Event :=
  [.createWriterMonPub, .statWriterMonData "u1" 1 10 "b", .statWriterMonData "u2" 2 20 "c", .monitor]

def node : TopicInfo where
  domain_ := 0
  nodeId_ := "a"
  programName_ := "node"
  topic_ := "topic"
  topicReply_ := "reply"
  monSendSleep_ := 60

/-- **The traffic to the first node is published as traffic to the second one.** -/
theorem not_attributed : ∃ z, Run.run step (start node) twoNodes = some z ∧ ¬ z.Attributed ∧
    z.publishedOf ("a", "b") (·.nCount) = 0 ∧ z.publishedOf ("a", "c") (·.nSize) = 30 := by
  refine ⟨_, rfl, fun h => ?_, by decide, by decide⟩
  exact absurd (h ("a", "b")).1 (by decide)

end ZenohBase

end Sadip

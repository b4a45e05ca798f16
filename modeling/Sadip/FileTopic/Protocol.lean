import Mathlib.Data.Finset.Filter
import Sadip.FileTopic.Assembly

/-!
# FileTopic/Protocol — `send_file` against `handle_file_data`, `node/src/FileTopic.cpp`

The sender works through the blocks of one transfer, one at a time, over a network that keeps
everything ever put on it: a message may be delivered late, again, out of order or not at all.
Messages of other transfers come in at any point.

The sender takes any reply that carries the block number it waits for, and an error while it reads
a block makes it go on.  `Sound` names the steps at which that does no harm, and `send_file_safe`
is the safety of every run of such steps.
-/

namespace Sadip

namespace FileTopic

open FileSplit FsPath

/-! ## The system -/

/-- How `sendOneBlock` gets on with the block file. -/
inductive BlockRead where
  | ok
  /-- `GetFileLength` gives `0` -/
  | empty
  | openFails
  | throws
  deriving DecidableEq

/-- Where `send_file` and `sendOneBlock` are. -/
inductive Sender where
  /-- at the head of the loop over the blocks -/
  | next (nCount : ℕ)
  /-- at the head of the retry loop -/
  | attempt (fileData : FileData) (retryCount : ℕ)
  /-- `reply_queue_` has been emptied -/
  | send (fileData : FileData) (retryCount : ℕ)
  /-- the message has been put, a reply is waited for -/
  | wait (fileData : FileData) (retryCount : ℕ)
  | done (result : Bool)

/-- The settings of the two nodes. -/
structure Config where
  fileMaxReTry : ℕ
  monNodeId : String
  needReply : Bool

/-- Both parties and the network; the last two fields record what the receiver has done. -/
structure State where
  sender : Sender
  /-- `reply_queue_` of the sender -/
  replyQueue : List FileDataReply
  /-- all that was ever put on the topic -/
  fileNet : List FileData
  /-- all that was ever put on the reply topic -/
  replyNet : List FileDataReply
  fs : FileSystem
  /-- `reply_queue_` of the receiver -/
  recvQueue : List FileDataReply
  handled : List FileData
  events : List RecvEvent

inductive Action where
  /-- `sendOneBlock` starts on the next block -/
  | read (now : Int) (result : BlockRead)
  /-- the loop over the blocks ends -/
  | finish
  | drain
  | giveUp
  | put
  | putFails
  | poll
  | timeout
  /-- `handle_reply` gets the `k`-th reply of the network -/
  | deliverReply (k : ℕ)
  /-- `handle_file_data` gets the `k`-th message of the network, and makes a uuid for its reply -/
  | deliverFile (k : ℕ) (replyUuid : String)
  /-- the receiver's `reader_worker` takes a reply from its queue -/
  | publish
  /-- another transfer puts a message -/
  | foreignFile (fileData : FileData)
  /-- another transfer gets a reply -/
  | foreignReply (reply : FileDataReply)

variable (T : Transfer) (cfg : Config)

/-- The sender's own steps. -/
def senderStep (s : State) : Action → Option State
  | .read now result =>
      match s.sender with
      | .next nCount =>
          if nCount < T.fileNum then
            match result with
            | .ok => some { s with sender := .attempt (T.message now nCount) 0 }
            | .empty => some { s with sender := .done true }
            | .openFails => some { s with sender := .next (nCount + 1) }
            | .throws => some { s with sender := .next (nCount + 1) }
          else none
      | _ => none
  | .finish =>
      match s.sender with
      | .next nCount => if nCount < T.fileNum then none else some { s with sender := .done false }
      | _ => none
  | .drain =>
      match s.sender with
      | .attempt d retry =>
          if retry ≤ cfg.fileMaxReTry then some { s with sender := .send d retry, replyQueue := [] }
          else none
      | _ => none
  | .giveUp =>
      match s.sender with
      | .attempt _ retry =>
          if retry ≤ cfg.fileMaxReTry then none else some { s with sender := .done false }
      | _ => none
  | .put =>
      match s.sender with
      | .send d retry => some { s with sender := .wait d retry, fileNet := s.fileNet ++ [d] }
      | _ => none
  | .putFails =>
      match s.sender with
      | .send d retry => some { s with sender := .attempt d (retry + 1) }
      | _ => none
  | .poll =>
      match s.sender, s.replyQueue with
      | .wait _ _, [] => some s
      | .wait d retry, reply :: rest =>
          if reply.blockSeq = d.blockSeq then
            if d.isEnd then some { s with sender := .done true, replyQueue := rest }
            else some { s with sender := .next (d.blockSeq + 1), replyQueue := rest }
          else some { s with sender := .wait d retry, replyQueue := rest }
      | _, _ => none
  | .timeout =>
      match s.sender with
      | .wait d retry => some { s with sender := .attempt d (retry + 1) }
      | _ => none
  | _ => none

/-- The steps of the receiver, the network and the other transfers. -/
def otherStep (s : State) : Action → Option State
  | .deliverReply k =>
      match s.replyNet[k]? with
      | none => none
      | some reply => some { s with replyQueue := s.replyQueue ++ [reply] }
  | .deliverFile k replyUuid =>
      match s.fileNet[k]? with
      | none => none
      | some d =>
          match handleFileData cfg.monNodeId replyUuid s.fs d with
          | none => none
          | some (fs', events) => some { s with
              fs := fs'
              recvQueue := s.recvQueue ++ queuedReplies events
              handled := s.handled ++ [d]
              events := s.events ++ events }
  | .publish =>
      match s.recvQueue with
      | [] => none
      | reply :: rest =>
          if cfg.needReply then
            if reply.uuid = "" then some { s with recvQueue := rest }
            else some { s with recvQueue := rest, replyNet := s.replyNet ++ [reply] }
          else none
  | .foreignFile d =>
      if d.uuid = T.uuid then none else some { s with fileNet := s.fileNet ++ [d] }
  | .foreignReply reply =>
      if reply.replyUuid = T.uuid then none
      else some { s with replyNet := s.replyNet ++ [reply] }
  | _ => none

/-- One step of the system. -/
def step (s : State) (a : Action) : Option State :=
  match senderStep T cfg s a with
  | some s' => some s'
  | none => otherStep T cfg s a

/-- `send_file` has had the file split; the receiver's file system may hold anything. -/
def init (fs : FileSystem) : State := ⟨.next 0, [], [], [], fs, [], [], []⟩

/-! ## Safety -/

/-- The receiver has handled this block of the transfer. -/
def Received (s : State) (i : ℕ) : Prop := ∃ d ∈ s.handled, d.uuid = T.uuid ∧ d.blockSeq = i

/-- What `send_file` reports when it returns `true`: all blocks were received, the merge gave the
sender's bytes, and the receiver said so. -/
structure Transferred (s : State) : Prop where
  received : ∀ i < T.fileNum, Received T s i
  merged : T.content ∈ movedBytes s.events
  confirmed : ∃ reply ∈ queuedReplies s.events, reply.Confirms T.uuid

/-- The safety of `send_file` in one state. -/
def Safe (s : State) : Prop := s.sender = .done true → Transferred T s

/-- The steps at which the sender's check of replies and its handling of errors do no harm. -/
def Sound (s : State) : Action → Prop
  | .read _ result => result = .ok
  | .poll => ∀ d retry reply rest, s.sender = .wait d retry → s.replyQueue = reply :: rest →
      reply.blockSeq = d.blockSeq →
      reply.replyUuid = T.uuid ∧ (d.isEnd = true → reply.state = 5)
  | .deliverFile k _ => ∀ d, s.fileNet[k]? = some d → d.uuid ≠ T.uuid → ¬ Interferes T d
  | _ => True

/-! ## The invariant -/

/-- A message of the transfer, sent when all blocks before it had been received. -/
def Own (s : State) (d : FileData) : Prop :=
  ∃ now i, d = T.message now i ∧ i < T.fileNum ∧ ∀ j < i, Received T s j

/-- What holds where the sender is. -/
def SenderOk (s : State) : Sender → Prop
  | .next nCount => ∀ j < nCount, Received T s j
  | .attempt d _ => Own T s d
  | .send d _ => Own T s d
  | .wait d _ => Own T s d
  | .done result => result = true → Transferred T s

structure Inv (s : State) : Prop where
  /-- replies to the transfer are on their way only if the receiver gave them -/
  replies : ∀ reply, reply ∈ s.replyQueue ∨ reply ∈ s.replyNet ∨ reply ∈ s.recvQueue →
    reply.replyUuid = T.uuid → reply ∈ queuedReplies s.events
  /-- and then for a block it received, with state `5` only after the merge -/
  genuine : ∀ reply ∈ queuedReplies s.events, reply.replyUuid = T.uuid →
    Received T s reply.blockSeq
      ∧ (reply.state = 5 → reply.isEnd = true ∧ T.content ∈ movedBytes s.events)
  /-- a block that was received has its own bytes, as long as it is there -/
  files : ∀ i < T.fileNum, Received T s i →
    s.fs.files (T.tmpBlock i) = none ∨ s.fs.files (T.tmpBlock i) = some (T.block i)
  net : ∀ d ∈ s.fileNet, d.uuid = T.uuid → Own T s d
  sender : SenderOk T s s.sender

variable {T cfg} {s s' : State} {a : Action}

theorem inv_init (fs : FileSystem) : Inv T (init fs) where
  replies _ h := by simp [init] at h
  genuine _ h := by simp [init, queuedReplies] at h
  files i _ h := by
    obtain ⟨d, hd, -⟩ := h
    simp [init] at hd
  net _ h := by simp [init] at h
  sender j hj := absurd hj (Nat.not_lt_zero j)

/-- The receiver's record only grows. -/
structure Grows (s s' : State) : Prop where
  handled : s.handled ⊆ s'.handled
  queued : queuedReplies s.events ⊆ queuedReplies s'.events
  moved : movedBytes s.events ⊆ movedBytes s'.events

theorem Grows.received (h : Grows s s') {i : ℕ} (hr : Received T s i) : Received T s' i := by
  obtain ⟨d, hd, hi⟩ := hr
  exact ⟨d, h.handled hd, hi⟩

theorem Grows.own (h : Grows s s') {d : FileData} (hd : Own T s d) : Own T s' d := by
  obtain ⟨now, i, rfl, hi, hbefore⟩ := hd
  exact ⟨now, i, rfl, hi, fun j hj => h.received (hbefore j hj)⟩

theorem Grows.senderOk (h : Grows s s') {c : Sender} (hc : SenderOk T s c) : SenderOk T s' c := by
  cases c with
  | next n => exact fun j hj => h.received (hc j hj)
  | attempt d r => exact h.own hc
  | send d r => exact h.own hc
  | wait d r => exact h.own hc
  | done result =>
    intro hr
    obtain ⟨hrec, hmer, reply, hmem, hconf⟩ := hc hr
    exact ⟨fun i hi => h.received (hrec i hi), h.moved hmer, reply, h.queued hmem, hconf⟩

/-! ## The sender's steps -/

/-- A step of the sender that takes replies off its queue, or puts its own message. -/
theorem Inv.of_sender (h : Inv T s) {sender : Sender} {replyQueue : List FileDataReply}
    {fileNet : List FileData} (hqueue : ∀ reply ∈ replyQueue, reply ∈ s.replyQueue)
    (hnet : ∀ d ∈ fileNet, d ∈ s.fileNet ∨ Own T s d) (hsender : SenderOk T s sender) :
    Inv T { s with sender := sender, replyQueue := replyQueue, fileNet := fileNet } where
  replies reply hr := h.replies reply (hr.imp_left (hqueue reply))
  genuine := h.genuine
  files := h.files
  net d hd hu := (hnet d hd).elim (fun hd => h.net d hd hu) id
  sender :=
    have hgrows : Grows s
        { s with sender := sender, replyQueue := replyQueue, fileNet := fileNet } :=
      ⟨fun _ h => h, fun _ h => h, fun _ h => h⟩
    hgrows.senderOk hsender

/-- **Taking a reply for the block**: sound, it is the receiver's word that it has the block. -/
theorem received_of_reply (h : Inv T s) {d : FileData} {reply : FileDataReply}
    (hd : Own T s d) (hmem : reply ∈ s.replyQueue) (hseq : reply.blockSeq = d.blockSeq)
    (huuid : reply.replyUuid = T.uuid) : ∀ j < d.blockSeq + 1, Received T s j := by
  obtain ⟨now, i, rfl, -, hbefore⟩ := hd
  intro j hj
  rcases Nat.lt_succ_iff_lt_or_eq.mp hj with hlt | rfl
  · exact hbefore j hlt
  · have hrec := (h.genuine reply (h.replies reply (.inl hmem) huuid) huuid).1
    rw [hseq] at hrec
    exact hrec

theorem transferred_of_reply (h : Inv T s) {d : FileData} {reply : FileDataReply}
    (hd : Own T s d) (hmem : reply ∈ s.replyQueue) (hseq : reply.blockSeq = d.blockSeq)
    (huuid : reply.replyUuid = T.uuid) (hend : d.isEnd = true) (hstate : reply.state = 5) :
    Transferred T s := by
  have hqueued := h.replies reply (.inl hmem) huuid
  obtain ⟨hisEnd, hmoved⟩ := (h.genuine reply hqueued huuid).2 hstate
  have hall := received_of_reply h hd hmem hseq huuid
  obtain ⟨now, i, rfl, hi, -⟩ := hd
  have hlast : i = T.fileNum - 1 := by simpa [Transfer.message] using hend
  refine ⟨fun j hj => hall j ?_, hmoved, reply, hqueued, huuid, hisEnd, hstate⟩
  change j < i + 1
  omega

theorem inv_senderStep (h : Inv T s) (hsound : Sound T s a)
    (hstep : senderStep T cfg s a = some s') : Inv T s' := by
  have hsender := h.sender
  have hkeep : ∀ d ∈ s.fileNet, d ∈ s.fileNet ∨ Own T s d := fun d hd => .inl hd
  cases a with
  | read now result =>
    obtain rfl : result = .ok := hsound
    simp only [senderStep] at hstep
    split at hstep
    · rename_i nCount hs
      rw [hs] at hsender
      split at hstep
      · rename_i hlt
        obtain rfl := Option.some.inj hstep
        exact h.of_sender (fun _ hr => hr) hkeep ⟨now, nCount, rfl, hlt, hsender⟩
      · exact absurd hstep (by simp)
    · exact absurd hstep (by simp)
  | finish =>
    simp only [senderStep] at hstep
    split at hstep
    · split at hstep
      · exact absurd hstep (by simp)
      · obtain rfl := Option.some.inj hstep
        exact h.of_sender (fun _ hr => hr) hkeep (fun hfalse => absurd hfalse (by simp))
    · exact absurd hstep (by simp)
  | drain =>
    simp only [senderStep] at hstep
    split at hstep
    · rename_i d retry hs
      rw [hs] at hsender
      split at hstep
      · obtain rfl := Option.some.inj hstep
        exact h.of_sender (fun _ hr => absurd hr List.not_mem_nil) hkeep hsender
      · exact absurd hstep (by simp)
    · exact absurd hstep (by simp)
  | giveUp =>
    simp only [senderStep] at hstep
    split at hstep
    · split at hstep
      · exact absurd hstep (by simp)
      · obtain rfl := Option.some.inj hstep
        exact h.of_sender (fun _ hr => hr) hkeep (fun hfalse => absurd hfalse (by simp))
    · exact absurd hstep (by simp)
  | put =>
    simp only [senderStep] at hstep
    split at hstep
    · rename_i d retry hs
      rw [hs] at hsender
      obtain rfl := Option.some.inj hstep
      refine h.of_sender (fun _ hr => hr) (fun e he => ?_) hsender
      rcases List.mem_append.mp he with he | he
      · exact .inl he
      · exact .inr (List.mem_singleton.mp he ▸ hsender)
    · exact absurd hstep (by simp)
  | putFails =>
    simp only [senderStep] at hstep
    split at hstep
    · rename_i d retry hs
      rw [hs] at hsender
      obtain rfl := Option.some.inj hstep
      exact h.of_sender (fun _ hr => hr) hkeep hsender
    · exact absurd hstep (by simp)
  | poll =>
    simp only [senderStep] at hstep
    split at hstep
    · obtain rfl := Option.some.inj hstep
      exact h
    · rename_i d retry reply rest hs hq
      rw [hs] at hsender
      have hmem : reply ∈ s.replyQueue := hq ▸ List.mem_cons_self
      have hrest : ∀ r ∈ rest, r ∈ s.replyQueue := fun r hr => hq ▸ List.mem_cons_of_mem _ hr
      split at hstep
      · rename_i hseq
        obtain ⟨huuid, hstate⟩ := hsound d retry reply rest hs hq hseq
        split at hstep
        · rename_i hend
          obtain rfl := Option.some.inj hstep
          exact h.of_sender hrest hkeep fun _ =>
            transferred_of_reply h hsender hmem hseq huuid hend (hstate hend)
        · obtain rfl := Option.some.inj hstep
          exact h.of_sender hrest hkeep (received_of_reply h hsender hmem hseq huuid)
      · obtain rfl := Option.some.inj hstep
        exact h.of_sender hrest hkeep hsender
    · exact absurd hstep (by simp)
  | timeout =>
    simp only [senderStep] at hstep
    split at hstep
    · rename_i d retry hs
      rw [hs] at hsender
      obtain rfl := Option.some.inj hstep
      exact h.of_sender (fun _ hr => hr) hkeep hsender
    · exact absurd hstep (by simp)
  | deliverReply k => exact absurd hstep (by simp [senderStep])
  | deliverFile k u => exact absurd hstep (by simp [senderStep])
  | publish => exact absurd hstep (by simp [senderStep])
  | foreignFile d => exact absurd hstep (by simp [senderStep])
  | foreignReply r => exact absurd hstep (by simp [senderStep])

/-! ## The other steps -/

/-- **A message of the transfer**: once it is handled its block counts, and a confirming reply
comes with the merged file. -/
theorem own_handled {d : FileData} {monNodeId uuid : String} {fs' : FileSystem}
    {events : List RecvEvent} (h : Inv T s) (hd : Own T s d)
    (hrun : handleFileData monNodeId uuid s.fs d = some (fs', events)) :
    (∀ i < T.fileNum, Received T s i ∨ i = d.blockSeq →
      fs'.files (T.tmpBlock i) = none ∨ fs'.files (T.tmpBlock i) = some (T.block i))
    ∧ ∀ reply ∈ queuedReplies events, reply.state = 5 → T.content ∈ movedBytes events := by
  obtain ⟨now, i, rfl, hi, hbefore⟩ := hd
  have hstored : ∀ j < T.fileNum, Received T s j ∨ j = i →
      (stored T s.fs i).files (T.tmpBlock j) = none
        ∨ (stored T s.fs i).files (T.tmpBlock j) = some (T.block j) := by
    intro j hj hrec
    by_cases hij : j = i
    · exact .inr (by rw [hij, stored, FileSystem.files_write_self])
    · rw [stored, FileSystem.files_write_of_ne _ _ fun e => hij (T.tmpBlock_injective e)]
      exact h.files j hj (hrec.resolve_right hij)
  by_cases hend : i + 1 = T.fileNum
  · -- all blocks have been received by now: what is there is the transfer's
    let A := (Finset.range T.fileNum).filter fun j =>
      (stored T s.fs i).files (T.tmpBlock j) ≠ none
    have hA : Holds T (stored T s.fs i) A := by
      intro j hj
      by_cases hnone : (stored T s.fs i).files (T.tmpBlock j) = none
      · rw [hnone, if_neg (by simp [A, hnone])]
      · have hrec : Received T s j ∨ j = i := by
          rcases Nat.lt_succ_iff_lt_or_eq.mp (show j < i + 1 by omega) with hlt | rfl
          · exact .inl (hbefore j hlt)
          · exact .inr rfl
        rw [(hstored j hj hrec).resolve_left hnone, if_pos (by simp [A, hj, hnone])]
    rcases handleFileData_end hA hend with ⟨hno, -⟩ | ⟨fs₁, events₁, hrun₁, hcases⟩
    · exact absurd (hno.symm.trans hrun) (by simp)
    obtain ⟨rfl, rfl⟩ := Prod.mk.inj (Option.some.inj (hrun₁.symm.trans hrun))
    rcases hcases with ⟨-, -, hc⟩ | ⟨-, hw⟩
    · refine ⟨fun j hj _ => .inl ?_, fun _ _ _ => by rw [hc.moved]; exact List.mem_singleton_self _⟩
      rw [hc.holds j hj, if_neg (Finset.notMem_empty j)]
    · refine ⟨fun j hj _ => ?_, fun reply hr h5 => absurd h5 (hw.reply reply hr)⟩
      rw [hw.holds j hj]
      split
      · exact .inr rfl
      · exact .inl rfl
  · obtain ⟨name, events₁, hrun₁, hqueued, -⟩ : ∃ name events₁,
        handleFileData monNodeId uuid s.fs (T.message now i) = some (stored T s.fs i, events₁)
          ∧ queuedReplies events₁ = [startReply uuid name (T.message now i)]
          ∧ movedBytes events₁ = [] := handleFileData_block (by omega)
    obtain ⟨rfl, rfl⟩ := Prod.mk.inj (Option.some.inj (hrun₁.symm.trans hrun))
    refine ⟨hstored, fun reply hr h5 => ?_⟩
    rw [hqueued] at hr
    obtain rfl := List.mem_singleton.mp hr
    simp [startReply] at h5

theorem inv_deliverFile {k : ℕ} {u : String} (h : Inv T s)
    (hsound : Sound T s (.deliverFile k u))
    (hstep : otherStep T cfg s (.deliverFile k u) = some s') : Inv T s' := by
  simp only [otherStep] at hstep
  split at hstep
  · exact absurd hstep (by simp)
  rename_i d hk
  split at hstep
  · exact absurd hstep (by simp)
  rename_i fs' events hrun
  obtain rfl := Option.some.inj hstep
  have hd : d ∈ s.fileNet := List.mem_of_getElem? hk
  have hgrows : Grows s { s with
      fs := fs', recvQueue := s.recvQueue ++ queuedReplies events,
      handled := s.handled ++ [d], events := s.events ++ events } :=
    ⟨List.subset_append_left _ _, by simp, by simp⟩
  have hreply := reply_of_handleFileData hrun
  -- the blocks received after the step
  have hrec : ∀ i, Received T { s with
      fs := fs', recvQueue := s.recvQueue ++ queuedReplies events,
      handled := s.handled ++ [d], events := s.events ++ events } i →
      Received T s i ∨ d.uuid = T.uuid ∧ i = d.blockSeq := by
    rintro i ⟨e, he, hu, rfl⟩
    rcases List.mem_append.mp he with he | he
    · exact .inl ⟨e, he, hu, rfl⟩
    · obtain rfl := List.mem_singleton.mp he
      exact .inr ⟨hu, rfl⟩
  refine ⟨fun reply hr hu => ?_, fun reply hr hu => ?_, fun i hi hri => ?_,
    fun e he hu => hgrows.own (h.net e he hu), hgrows.senderOk h.sender⟩
  · simp only [queuedReplies_append, List.mem_append]
    rcases hr with hr | hr | hr
    · exact .inl (h.replies reply (.inl hr) hu)
    · exact .inl (h.replies reply (.inr (.inl hr)) hu)
    · exact (List.mem_append.mp hr).imp_left fun hr => h.replies reply (.inr (.inr hr)) hu
  · simp only [queuedReplies_append, List.mem_append] at hr
    rcases hr with hr | hr
    · obtain ⟨h1, h2⟩ := h.genuine reply hr hu
      exact ⟨hgrows.received h1, fun h5 => ⟨(h2 h5).1, hgrows.moved (h2 h5).2⟩⟩
    · obtain ⟨-, hu', hseq, hend⟩ := hreply reply hr
      have hdu : d.uuid = T.uuid := hu'.symm.trans hu
      refine ⟨⟨d, by simp, hdu, hseq.symm⟩, fun h5 => ⟨hend h5, ?_⟩⟩
      simp only [movedBytes_append, List.mem_append]
      exact .inr ((own_handled h (h.net d hd hdu) hrun).2 reply hr h5)
  · by_cases hdu : d.uuid = T.uuid
    · exact (own_handled h (h.net d hd hdu) hrun).1 i hi ((hrec i hri).imp_right fun hr => hr.2)
    · have hold := (hrec i hri).resolve_right fun hr => hdu hr.1
      rcases files_of_handleFileData hrun (hsound d hk hdu) i with hf | hf
      · exact (h.files i hi hold).imp hf.trans hf.trans
      · exact .inl hf

theorem inv_otherStep (h : Inv T s) (hsound : Sound T s a)
    (hstep : otherStep T cfg s a = some s') : Inv T s' := by
  have hgrows : ∀ q r n m, Grows s ⟨s.sender, q, n, m, s.fs, r, s.handled, s.events⟩ :=
    fun _ _ _ _ => ⟨fun _ h => h, fun _ h => h, fun _ h => h⟩
  cases a with
  | deliverFile k u => exact inv_deliverFile h hsound hstep
  | deliverReply k =>
    simp only [otherStep] at hstep
    split at hstep
    · exact absurd hstep (by simp)
    rename_i reply hk
    obtain rfl := Option.some.inj hstep
    refine ⟨fun r hr hu => ?_, h.genuine, h.files, h.net, (hgrows ..).senderOk h.sender⟩
    rcases hr with hr | hr
    · rcases List.mem_append.mp hr with hr | hr
      · exact h.replies r (.inl hr) hu
      · obtain rfl := List.mem_singleton.mp hr
        exact h.replies r (.inr (.inl (List.mem_of_getElem? hk))) hu
    · exact h.replies r (.inr hr) hu
  | publish =>
    simp only [otherStep] at hstep
    split at hstep
    · exact absurd hstep (by simp)
    rename_i reply rest hq
    have hmem : ∀ r ∈ rest, r ∈ s.recvQueue := fun r hr => hq ▸ List.mem_cons_of_mem _ hr
    split at hstep
    · split at hstep
      · obtain rfl := Option.some.inj hstep
        exact ⟨fun r hr => h.replies r (hr.imp_right (Or.imp_right (hmem r))), h.genuine, h.files,
          h.net, (hgrows ..).senderOk h.sender⟩
      · obtain rfl := Option.some.inj hstep
        refine ⟨fun r hr hu => ?_, h.genuine, h.files, h.net, (hgrows ..).senderOk h.sender⟩
        rcases hr with hr | hr | hr
        · exact h.replies r (.inl hr) hu
        · rcases List.mem_append.mp hr with hr | hr
          · exact h.replies r (.inr (.inl hr)) hu
          · obtain rfl := List.mem_singleton.mp hr
            exact h.replies r (.inr (.inr (hq ▸ List.mem_cons_self))) hu
        · exact h.replies r (.inr (.inr (hmem r hr))) hu
    · exact absurd hstep (by simp)
  | foreignFile d =>
    simp only [otherStep] at hstep
    split at hstep
    · exact absurd hstep (by simp)
    rename_i hforeign
    obtain rfl := Option.some.inj hstep
    refine ⟨h.replies, h.genuine, h.files, fun e he hu => ?_, (hgrows ..).senderOk h.sender⟩
    rcases List.mem_append.mp he with he | he
    · exact h.net e he hu
    · exact absurd (List.mem_singleton.mp he ▸ hu) hforeign
  | foreignReply reply =>
    simp only [otherStep] at hstep
    split at hstep
    · exact absurd hstep (by simp)
    rename_i hforeign
    obtain rfl := Option.some.inj hstep
    refine ⟨fun r hr hu => ?_, h.genuine, h.files, h.net, (hgrows ..).senderOk h.sender⟩
    rcases hr with hr | hr | hr
    · exact h.replies r (.inl hr) hu
    · rcases List.mem_append.mp hr with hr | hr
      · exact h.replies r (.inr (.inl hr)) hu
      · exact absurd (List.mem_singleton.mp hr ▸ hu) hforeign
    · exact h.replies r (.inr (.inr hr)) hu
  | read now result => exact absurd hstep (by simp [otherStep])
  | finish => exact absurd hstep (by simp [otherStep])
  | drain => exact absurd hstep (by simp [otherStep])
  | giveUp => exact absurd hstep (by simp [otherStep])
  | put => exact absurd hstep (by simp [otherStep])
  | putFails => exact absurd hstep (by simp [otherStep])
  | poll => exact absurd hstep (by simp [otherStep])
  | timeout => exact absurd hstep (by simp [otherStep])

/-- **One sound step keeps the invariant.** -/
theorem inv_step (h : Inv T s) (hsound : Sound T s a) (hstep : step T cfg s a = some s') :
    Inv T s' := by
  rw [step] at hstep
  split at hstep
  · rename_i s₁ hs
    exact inv_senderStep h hsound (hs.trans hstep)
  · exact inv_otherStep h hsound hstep

/-- A block is sent, received and confirmed. -/
def round (k : ℕ) : List Action :=
  [.read 0 .ok, .drain, .put, .deliverFile k "r", .publish, .deliverReply k, .poll]

/-- **One block**, by sound steps. -/
theorem run_round {k : ℕ} {fs fs' : FileSystem} {new events : List RecvEvent}
    {reply : FileDataReply}
    {net handled : List FileData} {replies : List FileDataReply} {as : List Action}
    (hk : k < T.fileNum) (hnet : net.length = k) (hreplies : replies.length = k)
    (hrun : handleFileData "m" "r" fs (T.message 0 k) = some (fs', new))
    (hqueued : queuedReplies new = [reply])
    (h5 : (T.message 0 k).isEnd = true → reply.state = 5)
    (hrest :
      let after : State := ⟨if (T.message 0 k).isEnd then .done true else .next (k + 1), [],
        net ++ [T.message 0 k], replies ++ [reply], fs', [], handled ++ [T.message 0 k],
        events ++ new⟩
      Run.Meets (step T ⟨3, "m", true⟩) (Sound T) after as ∧
        Run.run (step T ⟨3, "m", true⟩) after as = some s) :
    Run.Meets (step T ⟨3, "m", true⟩) (Sound T)
        ⟨.next k, [], net, replies, fs, [], handled, events⟩ (round k ++ as) ∧
      Run.run (step T ⟨3, "m", true⟩) ⟨.next k, [], net, replies, fs, [], handled, events⟩
        (round k ++ as) = some s := by
  obtain ⟨hr, huuid, hseq, -⟩ := reply_of_handleFileData hrun reply (by simp [hqueued])
  let d := T.message 0 k
  have hread : step T ⟨3, "m", true⟩ ⟨.next k, [], net, replies, fs, [], handled, events⟩
      (.read 0 .ok) = some ⟨.attempt d 0, [], net, replies, fs, [], handled, events⟩ := by
    simp [step, senderStep, hk, d]
  have hfile : (net ++ [d])[k]? = some d := hnet ▸ List.getElem?_concat_length
  have hdeliver : step T ⟨3, "m", true⟩
      ⟨.wait d 0, [], net ++ [d], replies, fs, [], handled, events⟩
      (.deliverFile k "r") = some ⟨.wait d 0, [], net ++ [d], replies, fs', [reply], handled ++ [d],
        events ++ new⟩ := by
    simp only [step, senderStep, otherStep, hfile]
    simp [d, hrun, hqueued]
  have hpublish : step T ⟨3, "m", true⟩ ⟨.wait d 0, [], net ++ [d], replies, fs', [reply],
      handled ++ [d], events ++ new⟩ .publish = some ⟨.wait d 0, [], net ++ [d], replies ++ [reply],
        fs', [], handled ++ [d], events ++ new⟩ := by
    simp [step, senderStep, otherStep, hr]
  have hreply : (replies ++ [reply])[k]? = some reply := hreplies ▸ List.getElem?_concat_length
  have harrive : step T ⟨3, "m", true⟩ ⟨.wait d 0, [], net ++ [d], replies ++ [reply], fs', [],
      handled ++ [d], events ++ new⟩ (.deliverReply k) = some ⟨.wait d 0, [reply], net ++ [d],
        replies ++ [reply], fs', [], handled ++ [d], events ++ new⟩ := by
    simp only [step, senderStep, otherStep, hreply, List.nil_append]
  have hpoll : step T ⟨3, "m", true⟩ ⟨.wait d 0, [reply], net ++ [d], replies ++ [reply], fs', [],
      handled ++ [d], events ++ new⟩ .poll =
        some ⟨if d.isEnd then .done true else .next (k + 1), [],
        net ++ [d], replies ++ [reply], fs', [], handled ++ [d], events ++ new⟩ := by
    have hsame : reply.blockSeq = d.blockSeq := hseq
    simp only [step, senderStep, hsame, if_true]
    cases d.isEnd <;> rfl
  have hgenuine : Sound T ⟨.wait d 0, [], net ++ [d], replies, fs, [], handled, events⟩
      (.deliverFile k "r") := by
    intro e he hforeign
    obtain rfl := Option.some.inj (hfile.symm.trans he)
    exact absurd rfl hforeign
  have hconfirmed : Sound T ⟨.wait d 0, [reply], net ++ [d], replies ++ [reply], fs', [],
      handled ++ [d], events ++ new⟩ .poll := by
    rintro e retry r rest hsender hqueue -
    obtain ⟨rfl, -⟩ := Sender.wait.inj hsender
    obtain ⟨rfl, -⟩ := List.cons.inj hqueue
    exact ⟨huuid, h5⟩
  exact Run.Meets.and_run_cons rfl hread <| Run.Meets.and_run_cons trivial rfl <|
    Run.Meets.and_run_cons trivial rfl <| Run.Meets.and_run_cons hgenuine hdeliver <|
    Run.Meets.and_run_cons trivial hpublish <| Run.Meets.and_run_cons trivial harrive <|
    Run.Meets.and_run_cons hconfirmed hpoll hrest

/-- **A transfer of two blocks succeeds**, by sound steps. -/
theorem exists_sound_run : ∃ as s,
    (Run.Meets (step (onesTransfer 2) ⟨3, "m", true⟩) (Sound (onesTransfer 2))
        (init ⟨fun _ => none, fun _ => false⟩) as
      ∧ Run.run (step (onesTransfer 2) ⟨3, "m", true⟩) (init ⟨fun _ => none, fun _ => false⟩) as
        = some s)
      ∧ s.sender = .done true := by
  let fs : FileSystem := ⟨fun _ => none, fun _ => false⟩
  let fs₀ : FileSystem := stored (onesTransfer 2) fs 0
  have hnone : Holds (onesTransfer 2) fs ∅ := fun _ _ => rfl
  obtain ⟨name, events₀, hrun₀, hqueued₀, -⟩ : ∃ name events,
      handleFileData "m" "r" fs ((onesTransfer 2).message 0 0) = some (fs₀, events) ∧
        queuedReplies events = [startReply "r" name ((onesTransfer 2).message 0 0)] ∧
        movedBytes events = [] := handleFileData_block (by decide)
  obtain ⟨fs', events, hrun, hc⟩ : ∃ fs' events,
      handleFileData "m" "r" fs₀ ((onesTransfer 2).message 0 1) = some (fs', events)
        ∧ Completes (onesTransfer 2) fs' events := by
    rcases handleFileData_end ((hnone.stored 0).stored 1) (fileNum_onesTransfer 2).symm with
      ⟨-, hbig⟩ | ⟨fs', events, hrun, ⟨-, -, hc⟩ | ⟨hwhy | ⟨j, hj, hmiss⟩, -⟩⟩
    · exact absurd hbig (by decide)
    · exact ⟨fs', events, hrun, hc⟩
    · exact absurd hwhy (by decide)
    · rw [fileNum_onesTransfer] at hj
      exact absurd (by simp; omega) hmiss
  obtain ⟨reply, hqueued, -, -, h5⟩ := hc.reply
  refine ⟨round 0 ++ (round 1 ++ []), _, run_round (by decide) rfl rfl hrun₀ hqueued₀ ?_
    (run_round (by decide) rfl rfl hrun hqueued (fun _ => h5) ⟨trivial, rfl⟩), rfl⟩
  exact fun hend => absurd hend (by decide)

end FileTopic

end Sadip

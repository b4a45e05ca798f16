import Sadip.FileTopic.Receive
import Sadip.Machinery.Run

/-!
# FileTopic/Assembly — deliveries of one transfer in any order

A delivery is a block of the transfer handed to `handle_file_data`, at any time, any number of
times.  What the receiver is for is `arrive`: collect the blocks, start over when the end block
comes and all are there.  `deliver_simulates` says that the directory of block files does just
that; `assembles_iff` and `redelivery_harmless_iff` say where the code keeps what it is for, and
where it does not.
-/

namespace Sadip

namespace FileTopic

open FileSplit FsPath

/-- The arrival of one block, with the time it was sent at and the uuid its reply gets. -/
structure Delivery (T : Transfer) where
  seq : Fin T.fileNum
  now : Int
  replyUuid : String

variable {T : Transfer}

/-- The block is the end block. -/
def Delivery.IsEnd (d : Delivery T) : Prop := d.seq.val + 1 = T.fileNum

instance (d : Delivery T) : Decidable d.IsEnd := inferInstanceAs (Decidable (_ = _))

/-- One delivery: the file system and what the handler did. -/
def deliver (monNodeId : String) (fs : FileSystem) (d : Delivery T) :
    Option (FileSystem × List RecvEvent) :=
  handleFileData monNodeId d.replyUuid fs (T.message d.now d.seq)

/-- The file system after one delivery. -/
def deliverFs (monNodeId : String) (fs : FileSystem) (d : Delivery T) : Option FileSystem :=
  (deliver monNodeId fs d).map Prod.fst

/-- The file system after a sequence of deliveries. -/
def deliverAll (monNodeId : String) : FileSystem → List (Delivery T) → Option FileSystem :=
  Run.run (deliverFs monNodeId)

theorem deliverFs_eq {monNodeId : String} {fs fs' : FileSystem} {d : Delivery T}
    {events : List RecvEvent} (h : deliver monNodeId fs d = some (fs', events)) :
    deliverFs monNodeId fs d = some fs' := by
  rw [deliverFs, h, Option.map_some]

/-! ## What the receiver is for -/

/-- All the blocks of the transfer. -/
def allBlocks (T : Transfer) : Finset ℕ := Finset.range T.fileNum

/-- One more block; the end block takes a complete set away. -/
def arrive (A : Finset ℕ) (d : Delivery T) : Finset ℕ :=
  let A' := insert d.seq.val A
  if d.IsEnd ∧ allBlocks T ⊆ A' then ∅ else A'

/-- The blocks that have arrived since the last completion. -/
def arrived (ds : List (Delivery T)) : Finset ℕ := ds.foldl arrive ∅

/-- There is no directory for the transfer. -/
def NoTmpDir (T : Transfer) (fs : FileSystem) : Prop :=
  ∀ p, ofString T.tmpDir <+: p → fs.files p = none ∧ fs.isDir p = false

theorem NoTmpDir.holds {fs : FileSystem} (h : NoTmpDir T fs) : Holds T fs ∅ := fun i _ => by
  rw [(h _ (T.prefix_tmpBlock i)).1]
  simp

/-! ## Deliveries follow it -/

section Deliver

variable (monNodeId : String) {fs : FileSystem} {A : Finset ℕ} {d : Delivery T}

theorem allBlocks_subset_iff {A : Finset ℕ} : allBlocks T ⊆ A ↔ ∀ j < T.fileNum, j ∈ A := by
  simp [allBlocks, Finset.subset_iff]

/-- A block other than the end block. -/
theorem deliver_block (fs : FileSystem) (hd : ¬ d.IsEnd) :
    ∃ name events, deliver monNodeId fs d = some (stored T fs d.seq, events)
      ∧ queuedReplies events = [startReply d.replyUuid name (T.message d.now d.seq)]
      ∧ movedBytes events = [] := by
  refine handleFileData_block fun h => hd ?_
  have := d.seq.isLt
  rw [Delivery.IsEnd]
  omega

/-- The end block, when an `int` counts the blocks. -/
theorem deliver_end (h : Holds T fs A) (hd : d.IsEnd) (hcount : T.fileNum ≤ intMax) :
    ∃ fs' events, deliver monNodeId fs d = some (fs', events)
      ∧ (allBlocks T ⊆ insert d.seq.val A ∧ Completes T fs' events
        ∨ ¬ allBlocks T ⊆ insert d.seq.val A ∧ Waits T (insert d.seq.val A) fs' events) := by
  rcases handleFileData_end (h.stored d.seq) hd with ⟨-, hbig⟩ | ⟨fs', events, hrun, hcases⟩
  · omega
  refine ⟨fs', events, hrun, ?_⟩
  rw [allBlocks_subset_iff]
  rcases hcases with ⟨-, hall, hc⟩ | ⟨hwhy, hw⟩
  · exact .inl ⟨hall, hc⟩
  · refine .inr ⟨fun hall => ?_, hw⟩
    rcases hwhy with hbig | ⟨j, hj, hmiss⟩
    · omega
    · exact hmiss (hall j hj)

/-- **A confirming reply means a completion**, however many blocks there are. -/
theorem completes_of_confirms {fs' : FileSystem} {events : List RecvEvent} (h : Holds T fs A)
    (hd : d.IsEnd) (hrun : deliver monNodeId fs d = some (fs', events)) {reply : FileDataReply}
    (hmem : reply ∈ queuedReplies events) (hreply : reply.Confirms T.uuid) :
    T.fileNum ≤ intMax ∧ allBlocks T ⊆ insert d.seq.val A ∧ Completes T fs' events := by
  rcases handleFileData_end (h.stored d.seq) hd with ⟨hnone, -⟩ | ⟨fs₁, events₁, hrun₁, hcases⟩
  · exact absurd (hnone.symm.trans hrun) (by simp)
  obtain ⟨rfl, rfl⟩ := Prod.mk.inj (Option.some.inj (hrun₁.symm.trans hrun))
  rcases hcases with ⟨hcount, hall, hc⟩ | ⟨-, hw⟩
  · exact ⟨hcount, allBlocks_subset_iff.mpr hall, hc⟩
  · exact absurd hreply.2.2 (hw.reply reply hmem)

/-- **The directory of block files is the set of blocks that have arrived.** -/
theorem deliver_simulates (hcount : T.fileNum ≤ intMax) :
    Run.Simulates (deliverFs monNodeId) arrive (Holds T) (fun _ : Delivery T => True) := by
  intro fs A d h _
  by_cases hd : d.IsEnd
  · obtain ⟨fs', events, hrun, ⟨hall, hc⟩ | ⟨hmiss, hw⟩⟩ := deliver_end monNodeId h hd hcount
    · refine ⟨fs', deliverFs_eq hrun, ?_⟩
      rw [arrive, if_pos ⟨hd, hall⟩]
      exact hc.holds
    · refine ⟨fs', deliverFs_eq hrun, ?_⟩
      rw [arrive, if_neg fun h => hmiss h.2]
      exact hw.holds
  · obtain ⟨_, events, hrun, -, -⟩ := deliver_block monNodeId fs hd
    refine ⟨_, deliverFs_eq hrun, ?_⟩
    rw [arrive, if_neg fun h => hd h.1]
    exact h.stored d.seq

/-- Without end blocks it is so for any number of blocks. -/
theorem deliver_block_simulates :
    Run.Simulates (deliverFs monNodeId) arrive (Holds T) (fun d : Delivery T => ¬ d.IsEnd) := by
  intro fs A d h hd
  obtain ⟨_, events, hrun, -, -⟩ := deliver_block monNodeId fs hd
  refine ⟨_, deliverFs_eq hrun, ?_⟩
  rw [arrive, if_neg fun h => hd h.1]
  exact h.stored d.seq

/-- Whatever is delivered, only blocks of the transfer are in its directory. -/
theorem exists_holds_of_deliver {fs' : FileSystem} (h : ∃ A, Holds T fs A)
    (hrun : deliverFs monNodeId fs d = some fs') : ∃ A, Holds T fs' A := by
  obtain ⟨A, h⟩ := h
  obtain ⟨⟨fs₁, events⟩, hd₁, rfl⟩ := Option.map_eq_some_iff.mp hrun
  by_cases hd : d.IsEnd
  · rcases handleFileData_end (h.stored d.seq) hd with ⟨hnone, -⟩ | ⟨fs₂, events₂, hrun₂, hcases⟩
    · exact absurd (hnone.symm.trans hd₁) (by simp)
    obtain ⟨rfl, rfl⟩ := Prod.mk.inj (Option.some.inj (hrun₂.symm.trans hd₁))
    rcases hcases with ⟨-, -, hc⟩ | ⟨-, hw⟩
    · exact ⟨_, hc.holds⟩
    · exact ⟨_, hw.holds⟩
  · obtain ⟨_, events₂, hrun₂, -, -⟩ := deliver_block monNodeId fs hd
    obtain ⟨rfl, rfl⟩ := Prod.mk.inj (Option.some.inj (hrun₂.symm.trans hd₁))
    exact ⟨_, h.stored d.seq⟩

end Deliver

theorem mem_foldl_arrive {j : ℕ} : ∀ (ds : List (Delivery T)) (A : Finset ℕ),
    (∀ d ∈ ds, ¬ d.IsEnd) → (j ∈ ds.foldl arrive A ↔ j ∈ A ∨ ∃ d ∈ ds, d.seq.val = j)
  | [], A, _ => by simp
  | d :: ds, A, h => by
      rw [List.foldl_cons, mem_foldl_arrive ds _ fun e he => h e (List.mem_cons_of_mem d he),
        arrive, if_neg fun hd => h d List.mem_cons_self hd.1, Finset.mem_insert]
      simp only [List.mem_cons, exists_eq_or_imp]
      rw [or_assoc, or_left_comm, eq_comm]

/-! ## Assembly -/

/-- What a delivery has to do when the blocks `A` are there, itself counted. -/
structure DeliveryOk (d : Delivery T) (A : Finset ℕ) (fs' : FileSystem)
    (events : List RecvEvent) : Prop where
  block : ¬ d.IsEnd → ∃ reply, queuedReplies events = [reply] ∧ reply.state = 1
    ∧ reply.blockSeq = d.seq ∧ reply.replyUuid = T.uuid
  complete : d.IsEnd → allBlocks T ⊆ A → movedBytes events = [T.content]
    ∧ ∃ reply ∈ queuedReplies events, reply.Confirms T.uuid
  incomplete : d.IsEnd → ¬ allBlocks T ⊆ A → movedBytes events = []
    ∧ (∀ reply ∈ queuedReplies events, reply.state ≠ 5)
    ∧ ∀ i ∈ A, i < T.fileNum → fs'.files (T.tmpBlock i) = some (T.block i)

/-- The receiver assembles the transfer, in whatever order its blocks come. -/
def AssemblesUnderReordering (T : Transfer) : Prop :=
  ∀ (monNodeId : String) (fs : FileSystem), NoTmpDir T fs →
    ∀ (ds : List (Delivery T)) (d : Delivery T), ∃ fs₁ fs₂ events,
      deliverAll monNodeId fs ds = some fs₁ ∧ deliver monNodeId fs₁ d = some (fs₂, events)
      ∧ DeliveryOk d (insert d.seq.val (arrived ds)) fs₂ events

theorem assembles_of_le (hcount : T.fileNum ≤ intMax) : AssemblesUnderReordering T := by
  intro monNodeId fs hfs ds d
  obtain ⟨fs₁, hrun, hholds⟩ := (deliver_simulates monNodeId hcount).run ds fs ∅ hfs.holds
    fun _ _ => trivial
  by_cases hd : d.IsEnd
  · obtain ⟨fs₂, events, hdel, hcases⟩ := deliver_end monNodeId hholds hd hcount
    refine ⟨fs₁, fs₂, events, hrun, hdel, fun h => absurd hd h, fun _ hall => ?_,
      fun _ hmiss => ?_⟩
    · rcases hcases with ⟨-, hc⟩ | ⟨hmiss, -⟩
      · obtain ⟨reply, hqueued, hreply⟩ := hc.reply
        exact ⟨hc.moved, reply, by simp [hqueued], hreply⟩
      · exact absurd hall hmiss
    · rcases hcases with ⟨hall, -⟩ | ⟨-, hw⟩
      · exact absurd hall hmiss
      · refine ⟨hw.moved, hw.reply, fun i hi hlt => ?_⟩
        rw [hw.holds i hlt]
        exact if_pos hi
  · obtain ⟨name, events, hdel, hqueued, -⟩ := deliver_block monNodeId fs₁ hd
    exact ⟨fs₁, _, events, hrun, hdel, fun _ => ⟨_, hqueued, rfl, rfl, rfl⟩,
      fun h => absurd h hd, fun h => absurd h hd⟩

/-- The blocks before the last, in order. -/
def blocksBeforeLast (T : Transfer) : List (Delivery T) :=
  ((List.finRange T.fileNum).map fun seq => ⟨seq, 0, ""⟩).filter fun d => ¬ d.IsEnd

def lastBlock (T : Transfer) (hpos : 0 < T.fileNum) : Delivery T :=
  ⟨⟨T.fileNum - 1, by omega⟩, 0, ""⟩

theorem lastBlock_isEnd (hpos : 0 < T.fileNum) : (lastBlock T hpos).IsEnd :=
  Nat.sub_add_cancel hpos

theorem not_isEnd_of_mem : ∀ e ∈ blocksBeforeLast T, ¬ e.IsEnd := fun _ he => by
  simpa using (List.mem_filter.mp he).2

/-- **In order, all the blocks arrive.** -/
theorem allBlocks_subset_insert_last (hpos : 0 < T.fileNum) :
    allBlocks T ⊆ insert (lastBlock T hpos).seq.val (arrived (blocksBeforeLast T)) := by
  rw [allBlocks_subset_iff]
  intro j hj
  by_cases hlast : j + 1 = T.fileNum
  · exact Finset.mem_insert.mpr (.inl (show j = T.fileNum - 1 by omega))
  · refine Finset.mem_insert_of_mem ((mem_foldl_arrive _ ∅ not_isEnd_of_mem).mpr (.inr ?_))
    exact ⟨⟨⟨j, hj⟩, 0, ""⟩, by simp [blocksBeforeLast, Delivery.IsEnd, hlast], rfl⟩

theorem le_of_assembles (h : AssemblesUnderReordering T) : T.fileNum ≤ intMax := by
  by_contra hbig
  have hpos : 0 < T.fileNum := by omega
  have hfs : NoTmpDir T ⟨fun _ => none, fun _ => false⟩ := fun _ _ => ⟨rfl, rfl⟩
  obtain ⟨fs₁, fs₂, events, hrun, hdel, hok⟩ := h "" _ hfs (blocksBeforeLast T) (lastBlock T hpos)
  obtain ⟨fs₁', hrun', hholds⟩ :=
    (deliver_block_simulates "").run (blocksBeforeLast T) _ ∅ hfs.holds not_isEnd_of_mem
  obtain rfl : fs₁ = fs₁' := Option.some.inj (hrun.symm.trans hrun')
  obtain ⟨-, reply, hmem, hreply⟩ :=
    hok.complete (lastBlock_isEnd hpos) (allBlocks_subset_insert_last hpos)
  exact hbig (completes_of_confirms "" hholds (lastBlock_isEnd hpos) hdel hmem hreply).1

/-- **When the receiver assembles every delivery sequence**: exactly when an `int` counts the
blocks. -/
theorem assembles_iff (T : Transfer) : AssemblesUnderReordering T ↔ T.fileNum ≤ intMax :=
  ⟨le_of_assembles, assembles_of_le⟩

/-- A transfer of this many one-byte blocks. -/
def onesTransfer (n : ℕ) : Transfer where
  uuid := "u"
  nodeId := "n1"
  srcNodeId := "n1"
  toNodeId := "n2"
  sendfile := "f"
  subFileName := "d/f"
  subDirs := "./d/f"
  blocks := List.replicate n [1]
  blocks_ne_nil := fun _ h => by simp [List.eq_of_mem_replicate h]

theorem fileNum_onesTransfer (n : ℕ) : (onesTransfer n).fileNum = n := List.length_replicate

/-- **`2 ^ 32` blocks are not assembled**: the count that `merge` is given is `0`. -/
theorem not_assembles_many_blocks : ¬ AssemblesUnderReordering (onesTransfer 4294967296) := by
  intro h
  have hle := le_of_assembles h
  rw [fileNum_onesTransfer] at hle
  exact absurd hle (by decide)

/-! ## Redelivery of the end block -/

/-- The path a complete file is moved to. -/
def destination (T : Transfer) : FsPath := ofString (savePaths (T.message 0 0)).2

/-- A file system in which a transfer has just been completed, from no directory for it on. -/
structure Completed (monNodeId : String) (T : Transfer) (fs : FileSystem) where
  start : FileSystem
  deliveries : List (Delivery T)
  last : Delivery T
  before : FileSystem
  events : List RecvEvent
  reply : FileDataReply
  noTmpDir : NoTmpDir T start
  run_eq : deliverAll monNodeId start deliveries = some before
  isEnd : last.IsEnd
  deliver_eq : deliver monNodeId before last = some (fs, events)
  mem_queued : reply ∈ queuedReplies events
  confirms : reply.Confirms T.uuid

/-- Every further delivery of the end block is confirmed and leaves the destination as it is. -/
def RedeliveryHarmless (monNodeId : String) (T : Transfer) (fs : FileSystem) : Prop :=
  ∀ (ds : List (Delivery T)) (d : Delivery T), (∀ e ∈ ds, e.IsEnd) → d.IsEnd →
    ∃ fs₁ fs₂ events, deliverAll monNodeId fs ds = some fs₁
      ∧ deliver monNodeId fs₁ d = some (fs₂, events)
      ∧ (∃ reply ∈ queuedReplies events, reply.Confirms T.uuid)
      ∧ fs₂.files (destination T) = fs.files (destination T)

/-- The state after a completion: no block is there, and the file is in its place (or was, when
its place is in the directory that has gone). -/
def Delivered (T : Transfer) (fs : FileSystem) : Prop :=
  Holds T fs ∅ ∧ fs.files (destination T)
    = if ofString T.tmpDir <+: destination T then none else some T.content

variable {monNodeId : String} {fs : FileSystem}

theorem Completed.delivered (h : Completed monNodeId T fs) :
    T.fileNum ≤ intMax ∧ Delivered T fs := by
  have hstep : ∀ fs (d : Delivery T) fs', (∃ A, Holds T fs A) →
      deliverFs monNodeId fs d = some fs' → ∃ A, Holds T fs' A :=
    fun _ _ _ => exists_holds_of_deliver monNodeId
  obtain ⟨A, hA⟩ := Run.invariant hstep ⟨∅, h.noTmpDir.holds⟩ h.run_eq
  obtain ⟨hcount, -, hc⟩ :=
    completes_of_confirms monNodeId hA h.isEnd h.deliver_eq h.mem_queued h.confirms
  exact ⟨hcount, hc.holds, hc.dest⟩

/-- **Transfers are completed**: in order, for one. -/
theorem exists_completed (monNodeId : String) (hpos : 0 < T.fileNum)
    (hcount : T.fileNum ≤ intMax) : ∃ fs, Nonempty (Completed monNodeId T fs) := by
  have hfs : NoTmpDir T ⟨fun _ => none, fun _ => false⟩ := fun _ _ => ⟨rfl, rfl⟩
  obtain ⟨fs₁, fs₂, events, hrun, hdel, hok⟩ :=
    assembles_of_le hcount monNodeId _ hfs (blocksBeforeLast T) (lastBlock T hpos)
  obtain ⟨-, reply, hmem, hreply⟩ :=
    hok.complete (lastBlock_isEnd hpos) (allBlocks_subset_insert_last hpos)
  exact ⟨fs₂, ⟨_, _, _, fs₁, events, reply, hfs, hrun, lastBlock_isEnd hpos, hdel, hmem, hreply⟩⟩

/-- With one block, each redelivery is a transfer of its own. -/
theorem deliver_single (hone : T.fileNum = 1) (h : Delivered T fs) (d : Delivery T) :
    ∃ fs' events, deliver monNodeId fs d = some (fs', events)
      ∧ (∃ reply, queuedReplies events = [reply] ∧ reply.Confirms T.uuid) ∧ Delivered T fs' := by
  have hseq : d.seq.val = 0 := by have := d.seq.isLt; omega
  have hd : d.IsEnd := by rw [Delivery.IsEnd]; omega
  have hall : allBlocks T ⊆ insert d.seq.val ∅ := by
    rw [allBlocks_subset_iff]
    intro j hj
    rw [Finset.mem_insert]
    omega
  obtain ⟨fs', events, hrun, hcases⟩ :=
    deliver_end monNodeId h.1 hd (by rw [hone]; decide)
  rcases hcases with ⟨-, hc⟩ | ⟨hmiss, -⟩
  · exact ⟨fs', events, hrun, hc.reply, hc.holds, hc.dest⟩
  · exact absurd hall hmiss

theorem harmless_of_fileNum_eq_one (hone : T.fileNum = 1) (h : Delivered T fs) :
    RedeliveryHarmless monNodeId T fs := by
  intro ds d _ _
  have hsim : Run.Simulates (deliverFs monNodeId) (fun (_ : Unit) _ => ())
      (fun fs _ => Delivered T fs) (fun _ : Delivery T => True) := by
    intro fs _ d hfs _
    obtain ⟨fs', events, hrun, -, hfs'⟩ := deliver_single hone hfs d
    exact ⟨fs', deliverFs_eq hrun, hfs'⟩
  obtain ⟨fs₁, hrun, hfs₁⟩ := hsim.run ds fs () h fun _ _ => trivial
  obtain ⟨fs₂, events, hdel, ⟨reply, hqueued, hreply⟩, hfs₂⟩ := deliver_single hone hfs₁ d
  exact ⟨fs₁, fs₂, events, hrun, hdel, ⟨reply, by simp [hqueued], hreply⟩,
    hfs₂.2.trans h.2.symm⟩

/-- With more blocks, the end block finds none of the others, and is not confirmed. -/
theorem fileNum_eq_one_of_harmless (h : Completed monNodeId T fs)
    (hharmless : RedeliveryHarmless monNodeId T fs) : T.fileNum = 1 := by
  obtain ⟨fs₁, fs₂, events, hrun, hdel, ⟨reply, hmem, hreply⟩, -⟩ :=
    hharmless [] h.last (fun _ he => absurd he List.not_mem_nil) h.isEnd
  obtain rfl : fs = fs₁ := Option.some.inj hrun
  obtain ⟨-, hall, -⟩ := completes_of_confirms monNodeId h.delivered.2.1 h.isEnd hdel hmem hreply
  have hend : h.last.seq.val + 1 = T.fileNum := h.isEnd
  have h0 := allBlocks_subset_iff.mp hall 0 (by omega)
  rw [Finset.mem_insert] at h0
  simp only [Finset.notMem_empty, or_false] at h0
  omega

/-- **When redelivering the end block is harmless**: for transfers of one block only. -/
theorem redelivery_harmless_iff (h : Completed monNodeId T fs) :
    RedeliveryHarmless monNodeId T fs ↔ T.fileNum = 1 :=
  ⟨fileNum_eq_one_of_harmless h, fun hone => harmless_of_fileNum_eq_one hone h.delivered.2⟩

/-- One block: its redeliveries are harmless. -/
theorem redelivery_harmless_single : ∃ fs, Nonempty (Completed "m" (onesTransfer 1) fs)
    ∧ RedeliveryHarmless "m" (onesTransfer 1) fs := by
  obtain ⟨fs, ⟨h⟩⟩ := exists_completed (T := onesTransfer 1) "m" (by decide) (by decide)
  exact ⟨fs, ⟨h⟩, (redelivery_harmless_iff h).mpr (by decide)⟩

/-- **Two blocks**: the transfer is completed, and its end block, sent again, is not confirmed. -/
theorem redelivery_not_confirmed : ∃ fs, Nonempty (Completed "m" (onesTransfer 2) fs)
    ∧ ¬ RedeliveryHarmless "m" (onesTransfer 2) fs := by
  obtain ⟨fs, ⟨h⟩⟩ := exists_completed (T := onesTransfer 2) "m" (by decide) (by decide)
  exact ⟨fs, ⟨h⟩, fun hharmless => absurd (fileNum_eq_one_of_harmless h hharmless) (by decide)⟩

end FileTopic

end Sadip

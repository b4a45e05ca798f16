import Sadip.FileTopic.Receive

/-!
# FileTopic/MissingBlock — which block `merge` finds missing, `node/src/FileTopic.cpp`

`merge` answers with one `int`: `0` for success, `-1` for failure, else the first block that is not
there.  `handle_file_data` asks for that block again when the answer is positive.  A missing block
`0` is answered `0`, like a success; every other one is named (`detectable_iff`).  A count that the
`int` does not hold spoils more than that: `detects_iff`.
-/

namespace Sadip

namespace FileTopic

open FileSplit FsPath

/-- A directory with some of `n` blocks in it, none of them empty. -/
structure BlockDir (n : ℕ) where
  fs : FileSystem
  dir : String
  pos : 0 < n
  isDir : FileSplit.isDir fs dir = true
  ne_nil : ∀ i < n, fs.files (blockPath (dir ++ "/") i) ≠ some []

namespace BlockDir

variable {n : ℕ} (D : BlockDir n)

/-- The block is there. -/
def Present (i : ℕ) : Prop := (D.fs.files (blockPath (D.dir ++ "/") i)).isSome

/-- All of them are. -/
def Complete : Prop := ∀ i < n, D.Present i

/-- The smallest missing block. -/
structure FirstMissing (m : ℕ) : Prop where
  lt : m < n
  missing : ¬ D.Present m
  before : ∀ j < m, D.Present j

/-- The bytes of the blocks that are there. -/
def block (i : ℕ) : Bytes := (D.fs.files (blockPath (D.dir ++ "/") i)).getD []

variable {D}

theorem Present.files {i : ℕ} (h : D.Present i) :
    D.fs.files (blockPath (D.dir ++ "/") i) = some (D.block i) := by
  obtain ⟨content, hcontent⟩ := Option.isSome_iff_exists.mp h
  rw [block, hcontent, Option.getD_some]

theorem files_of_not_present {i : ℕ} (h : ¬ D.Present i) :
    D.fs.files (blockPath (D.dir ++ "/") i) = none := by
  rwa [Present, Bool.not_eq_true, Option.isSome_eq_false_iff, Option.isNone_iff_eq_none] at h

theorem exists_firstMissing (h : ¬ D.Complete) : ∃ m, D.FirstMissing m := by
  rw [Complete] at h
  push Not at h
  obtain ⟨m, ⟨hm, hmissing⟩, hfirst⟩ := exists_first h
  refine ⟨m, hm, hmissing, fun j hj => ?_⟩
  by_contra hj'
  exact hfirst j hj ⟨by omega, hj'⟩

theorem FirstMissing.incomplete {m : ℕ} (h : D.FirstMissing m) : ¬ D.Complete :=
  fun hall => h.missing (hall m h.lt)

theorem FirstMissing.unique {m m' : ℕ} (h : D.FirstMissing m) (h' : D.FirstMissing m') :
    m = m' := by
  rcases Nat.lt_trichotomy m m' with hlt | heq | hgt
  · exact absurd (h'.before m hlt) h.missing
  · exact heq
  · exact absurd (h.before m' hgt) h'.missing

theorem length_joined_pos {m : ℕ} (hm : 0 < m) (hn : 0 < n) (h : D.Present 0) :
    (joined D.block 0 m).length ≠ 0 := by
  have hne : D.block 0 ≠ [] := fun hnil => D.ne_nil 0 hn (hnil ▸ h.files)
  rw [joined_eq_append _ hm, List.length_append]
  have := List.length_pos_of_ne_nil hne
  omega

/-! ## What `merge` answers -/

/-- The blocks up to the number that `merge` takes are there. -/
theorem merge_of_reached {b : ℕ} (hb : toInt n = b) (h : ∀ j < b, D.Present j) :
    ∃ merged, merge D.fs D.dir (toInt n) = some (if b = 0 then -1 else 0, merged) := by
  have hle := toInt_le n
  have hempty : (joined D.block 0 b).length = 0 ↔ b = 0 := by
    refine ⟨fun hlen => ?_, fun hzero => by rw [hzero, joined_self]; rfl⟩
    by_contra hpos
    exact length_joined_pos (Nat.pos_of_ne_zero hpos) D.pos (h 0 (Nat.pos_of_ne_zero hpos)) hlen
  refine ⟨D.fs.write (mergeOut D.dir) (joined D.block 0 b), ?_⟩
  rw [hb, merge_eq_of_complete D.block D.isDir (by omega) fun j hj => (h j hj).files]
  simp only [hempty]

/-- A block below that number is missing. -/
theorem merge_of_firstMissing {m : ℕ} (h : D.FirstMissing m) (hm : m ≤ intMax)
    (hlt : 0 ≤ toInt n → (m : Int) < toInt n) :
    ∃ merged, merge D.fs D.dir (toInt n) = some ((m : Int), merged) := by
  refine ⟨_, merge_eq_of_gap D.block D.isDir hm (fun j hj => ⟨(h.before j hj).files, ?_⟩)
    (files_of_not_present h.missing) ?_⟩
  · rcases Int.lt_or_le (toInt n) 0 with hneg | hpos
    · omega
    · have := hlt hpos
      omega
  · rcases Int.lt_or_le (toInt n) 0 with hneg | hpos
    · omega
    · have := hlt hpos
      omega

/-- **What `merge` comes to**: it reaches its number, or finds a block missing, or counts too far.
-/
theorem merge_cases (D : BlockDir n) :
    (∃ b : ℕ, toInt n = b ∧ ∀ j < b, D.Present j) ∨
      (∃ m ≤ intMax, D.FirstMissing m ∧ (0 ≤ toInt n → (m : Int) < toInt n)) ∨
        merge D.fs D.dir (toInt n) = none := by
  obtain ⟨hle, hmax⟩ := toInt_le n
  rcases Int.lt_or_le (toInt n) 0 with hneg | hpos
  · have hbig : intMax < n := by
      by_contra hn
      rw [toInt_of_le (Nat.le_of_not_lt hn)] at hneg
      omega
    by_cases hall : ∀ j ≤ intMax, D.Present j
    · exact .inr (.inr (merge_eq_none D.block D.isDir fun j hj => ⟨(hall j hj).files, by omega⟩))
    · push Not at hall
      obtain ⟨m, ⟨hm, hmissing⟩, hfirst⟩ := exists_first hall
      refine .inr (.inl ⟨m, hm, ⟨by omega, hmissing, fun j hj => ?_⟩, fun h => by omega⟩)
      by_contra hj'
      exact hfirst j hj ⟨by omega, hj'⟩
  · obtain ⟨b, hb⟩ := Int.eq_ofNat_of_zero_le hpos
    by_cases hall : ∀ j < b, D.Present j
    · exact .inl ⟨b, hb, hall⟩
    · push Not at hall
      obtain ⟨m, ⟨hm, hmissing⟩, hfirst⟩ := exists_first hall
      refine .inr (.inl ⟨m, by omega, ⟨by omega, hmissing, fun j hj => ?_⟩, fun _ => by omega⟩)
      by_contra hj'
      exact hfirst j hj ⟨by omega, hj'⟩

end BlockDir

/-! ## The detection -/

variable {fileData : FileData} {reply : FileDataReply} {D : BlockDir fileData.totalBlockNum}

/-- Success is reported when all the blocks are there, and otherwise the reply that is recorded asks
for the first that is not. -/
def Detects (fileData : FileData) (reply : FileDataReply) (D : BlockDir fileData.totalBlockNum) :
    Prop :=
  ∃ result merged, merge D.fs D.dir (toInt fileData.totalBlockNum) = some (result, merged) ∧
    (result = 0 ↔ D.Complete) ∧
    ∀ m, D.FirstMissing m → ∃ fs' events reply',
      handleEnd D.fs fileData D.dir reply = some (fs', events, reply') ∧
        reply'.state = 3 ∧ reply'.blockSeq = m

/-- Block `0` is there, and the `int` that `merge` takes is positive with no block missing, or the
first one missing comes before it. -/
def Detectable {n : ℕ} (D : BlockDir n) : Prop :=
  D.Present 0 ∧ (0 < toInt n ∧ D.Complete ∨
    ∃ m ≤ intMax, D.FirstMissing m ∧ (0 ≤ toInt n → (m : Int) < toInt n))

/-- A block found missing is named, unless it is block `0`. -/
theorem detects_of_firstMissing {m : ℕ} (h : D.FirstMissing m) (hpos : 0 < m) (hm : m ≤ intMax)
    (hlt : 0 ≤ toInt fileData.totalBlockNum → (m : Int) < toInt fileData.totalBlockNum) :
    Detects fileData reply D := by
  obtain ⟨merged, hmerge⟩ := BlockDir.merge_of_firstMissing h hm hlt
  refine ⟨m, merged, hmerge, iff_of_false (by omega) h.incomplete, fun m' h' => ?_⟩
  obtain rfl := h.unique h'
  exact ⟨_, _, _, handleEnd_of_pos hpos hmerge, rfl, rfl⟩

/-- Where `merge` reaches its number, that has to be all the blocks there are. -/
theorem detects_of_reached {b : ℕ} (hb : toInt fileData.totalBlockNum = b)
    (h : ∀ j < b, D.Present j) :
    Detects fileData reply D ↔ 0 < b ∧ D.Complete := by
  obtain ⟨merged, hmerge⟩ := BlockDir.merge_of_reached hb h
  constructor
  · rintro ⟨result, merged', hmerge', hresult, hnamed⟩
    obtain ⟨rfl, rfl⟩ := Prod.mk.inj (Option.some.inj (hmerge.symm.trans hmerge'))
    by_cases hzero : b = 0
    · rw [if_pos hzero] at hmerge hresult
      obtain ⟨m, hm⟩ := BlockDir.exists_firstMissing (hresult.not.mp (by decide))
      obtain ⟨fs', events, reply', hend, hstate, -⟩ := hnamed m hm
      rw [handleEnd_of_neg hmerge] at hend
      obtain ⟨-, -, rfl⟩ := hend
      exact absurd hstate (by simp)
    · rw [if_neg hzero] at hresult
      exact ⟨Nat.pos_of_ne_zero hzero, hresult.mp rfl⟩
  · rintro ⟨hpos, hall⟩
    rw [if_neg hpos.ne'] at hmerge
    exact ⟨0, merged, hmerge, iff_of_true rfl hall, fun m hm => absurd hall hm.incomplete⟩

/-- **When a missing block is detected.** -/
theorem detects_iff (fileData : FileData) (reply : FileDataReply)
    (D : BlockDir fileData.totalBlockNum) : Detects fileData reply D ↔ Detectable D := by
  rcases D.merge_cases with ⟨b, hb, hreached⟩ | ⟨m, hm, hmissing, hlt⟩ | hnone
  · rw [detects_of_reached hb hreached, Detectable]
    constructor
    · rintro ⟨hpos, hall⟩
      exact ⟨hall 0 D.pos, .inl ⟨by omega, hall⟩⟩
    · rintro ⟨-, ⟨hpos, hall⟩ | ⟨m, -, hmissing, hlt⟩⟩
      · exact ⟨by omega, hall⟩
      · have := hlt (by omega)
        exact absurd (hreached m (by omega)) hmissing.missing
  · rcases Nat.eq_zero_or_pos m with rfl | hpos
    · refine iff_of_false ?_ fun h => hmissing.missing h.1
      rintro ⟨result, merged, hmerge, hresult, -⟩
      obtain ⟨merged', hmerge'⟩ := BlockDir.merge_of_firstMissing hmissing hm hlt
      obtain ⟨rfl, rfl⟩ := Prod.mk.inj (Option.some.inj (hmerge'.symm.trans hmerge))
      exact hmissing.incomplete (hresult.mp rfl)
    · exact iff_of_true (detects_of_firstMissing hmissing hpos hm hlt)
        ⟨hmissing.before 0 hpos, .inr ⟨m, hm, hmissing, hlt⟩⟩
  · refine iff_of_false ?_ ?_
    · rintro ⟨result, merged, hmerge, -⟩
      cases hnone.symm.trans hmerge
    · rintro ⟨-, ⟨hpos, hall⟩ | ⟨m, hm, hmissing, hlt⟩⟩
      · obtain ⟨b, hb⟩ := Int.eq_ofNat_of_zero_le hpos.le
        have hle := toInt_le fileData.totalBlockNum
        obtain ⟨merged, hmerge⟩ := BlockDir.merge_of_reached hb fun j hj => hall j (by omega)
        cases hnone.symm.trans hmerge
      · obtain ⟨merged, hmerge⟩ := BlockDir.merge_of_firstMissing hmissing hm hlt
        cases hnone.symm.trans hmerge

/-- With a count that an `int` holds, all that matters is block `0`. -/
theorem detectable_iff {n : ℕ} {D : BlockDir n} (hn : n ≤ intMax) : Detectable D ↔ D.Present 0 := by
  refine ⟨And.left, fun h => ⟨h, ?_⟩⟩
  have hpos := D.pos
  rw [toInt_of_le hn]
  by_cases hall : D.Complete
  · exact .inl ⟨by omega, hall⟩
  · obtain ⟨m, hm⟩ := BlockDir.exists_firstMissing hall
    have hlt := hm.lt
    exact .inr ⟨m, by omega, hm, fun _ => by omega⟩

/-- The end block of a file of one block. -/
def endBlock : FileData :=
  ⟨"u", "m", "n1", "recv/f", "m/f", "up", true, 1, 0, 0, 1, [1], 1, ".", "."⟩

/-- The directory of a file of one block, without it. -/
def bareDir : BlockDir endBlock.totalBlockNum where
  fs := ⟨fun _ => none, fun _ => true⟩
  dir := "recv/f_tmp"
  pos := Nat.one_pos
  isDir := rfl
  ne_nil _ _ := by simp

/-- **A missing block `0`** is answered like a success. -/
theorem not_detects : ¬ Detects endBlock (startReply "r" "f" endBlock) bareDir := by
  rw [detects_iff]
  exact fun h => absurd h.1 (by simp [BlockDir.Present, bareDir])

end FileTopic

end Sadip

import Sadip.FileSplit.Reads

/-!
# FileTopic/SendFile — what `send_file` cuts a file into, `node/src/FileTopic.cpp`

`send_file` has the file split into block files below `send/` and works out the number of blocks a
second time, from the file's size.  `split_merge_round_trip_iff` compares the two with what `merge`
makes of the blocks on the other side; `splitting_ends_iff` says for which configured block sizes
and reads there are blocks and a number of them at all.
-/

namespace Sadip

namespace FileTopic

open FileSplit FsPath Pieces

/-- `fileSplitSize_`, in KB: an `int`, and so is the number of bytes. -/
structure BlockSize where
  kb : ℕ
  kb_pos : 0 < kb
  bytes_le : kb * 1024 ≤ intMax

/-- `sendfile_tmp`, where `send_file` has the blocks written. -/
def sendfileTmp (nodeId sendfile : String) : String :=
  "send/" ++ nodeId ++ "/" ++ sendfile ++ "_tmp/"

/-- `fileNum`. -/
def fileNum (fileSize fileSplitSize : ℕ) : ℕ :=
  fileSize / (fileSplitSize * 1024) + if fileSize % (fileSplitSize * 1024) > 0 then 1 else 0

/-- The conversion of a 64-bit count to the `int` that `merge` takes. -/
def toInt (n : ℕ) : Int := (n : Int).bmod 4294967296

theorem fileNum_eq_pieceCount (fileSize fileSplitSize : ℕ) :
    fileNum fileSize fileSplitSize = pieceCount (fileSplitSize * 1024) fileSize := by
  rw [fileNum, pieceCount]

theorem toInt_of_le {n : ℕ} (h : n ≤ intMax) : toInt n = n := by
  rw [intMax] at h
  exact Int.bmod_eq_of_le (by omega) (by omega)

theorem toInt_le (n : ℕ) : toInt n ≤ n ∧ toInt n ≤ intMax := by
  have h : toInt n = if (n : Int) % 4294967296 < 2147483648 then (n : Int) % 4294967296
      else (n : Int) % 4294967296 - 4294967296 := Int.bmod_def _ _
  have hmax : (intMax : Int) = 2147483647 := rfl
  rw [h, hmax]
  split <;> omega

theorem toInt_eq_iff {n : ℕ} : toInt n = n ↔ n ≤ intMax :=
  ⟨fun h => by have := (toInt_le n).2; omega, toInt_of_le⟩

/-! ## The round trip -/

/-- The directory `send_file` has the blocks written to, without its last slash. -/
def sendfileDir (nodeId sendfile : String) : String :=
  "send/" ++ nodeId ++ "/" ++ (sendfile ++ "_tmp")

theorem sendfileTmp_eq (nodeId sendfile : String) :
    sendfileTmp nodeId sendfile = sendfileDir nodeId sendfile ++ "/" := by
  simp only [sendfileTmp, sendfileDir, String.append_assoc]
  rfl

theorem sendfileDir_ne_empty (nodeId sendfile : String) : sendfileDir nodeId sendfile ≠ "" := by
  simp [sendfileDir]

/-- **A block file is never the file itself**: its path is longer. -/
theorem ne_blockPath_sendfileTmp (nodeId sendfile : String) (i : ℕ) :
    ofString sendfile ≠ blockPath (sendfileTmp nodeId sendfile) i := by
  rw [sendfileTmp_eq, blockPath_slash (sendfileDir_ne_empty _ _)]
  have hdir : ofString (sendfileDir nodeId sendfile)
      = ofString "send" ++ components nodeId ++ components (sendfile ++ "_tmp") := by
    rw [sendfileDir, ofString_append_slash (by simp), show "send/" ++ nodeId = "send" ++ "/" ++ nodeId
      from rfl, ofString_append_slash (by decide)]
  have hlen := length_components_append_le (s := sendfile) (t := "_tmp") (by decide)
  have hsrc : (ofString sendfile).length ≤ (components sendfile).length + 1 := by
    rw [ofString]
    split <;> simp
  intro h
  have hlen' := congrArg List.length h
  rw [hdir, List.length_append, List.length_append, List.length_append,
    show (ofString "send").length = 1 by decide] at hlen'
  simp only [List.length_singleton] at hlen'
  omega

/-- What `split` has to leave for a file of these bytes: the blocks `0` to `k - 1`, each non-empty
and none too long, the last one alone perhaps short, and nothing else changed. -/
structure Blocks (tmppath : String) (b : BlockSize) (k : ℕ) (fs fs' : FileSystem) : Prop where
  block : ∀ i < k, ∃ block, fs'.files (blockPath tmppath i) = some block ∧ block ≠ []
    ∧ block.length ≤ b.kb * 1024 ∧ (i + 1 < k → block.length = b.kb * 1024)
  other : ∀ p, (∀ i < k, p ≠ blockPath tmppath i) → fs'.files p = fs.files p

/-- A directory holds exactly the block files that `split` wrote. -/
structure HoldsBlocks (fs : FileSystem) (dir : String) (written : FileSystem) (tmppath : String)
    (k : ℕ) : Prop where
  isDir : isDir fs dir = true
  block : ∀ i < k, fs.files (blockPath (dir ++ "/") i) = written.files (blockPath tmppath i)
  other : ∀ i, k ≤ i → fs.files (blockPath (dir ++ "/") i) = none

/-- **The round trip** of a file through `split` and `merge`, with `fileNum` blocks. -/
def SplitMergeRoundTrip (content : Bytes) (b : BlockSize) : Prop :=
  ∀ (nodeId sendfile : String) (fs : FileSystem), fs.files (ofString sendfile) = some content →
    ∃ written, split fs sendfile b.kb (sendfileTmp nodeId sendfile) = some written
      ∧ Blocks (sendfileTmp nodeId sendfile) b (fileNum content.length b.kb) fs written
      ∧ ∀ (fs' : FileSystem) (dir : String),
          HoldsBlocks fs' dir written (sendfileTmp nodeId sendfile)
            (fileNum content.length b.kb) →
          ∃ merged, merge fs' dir (toInt (fileNum content.length b.kb)) = some (0, merged)
            ∧ merged.files (mergeOut dir) = some content

theorem joined_piece (b : BlockSize) (content : Bytes) :
    joined (piece (b.kb * 1024) content) 0 (fileNum content.length b.kb) = content := by
  rw [joined, fileNum_eq_pieceCount, Nat.sub_zero, ← List.range_eq_range']
  exact flatten_pieces (Nat.mul_pos b.kb_pos (by decide)) content

theorem round_trip_of_le {content : Bytes} (hne : content ≠ []) {b : BlockSize}
    (hcount : fileNum content.length b.kb ≤ intMax) : SplitMergeRoundTrip content b := by
  intro nodeId sendfile fs hsrc
  have hB : 0 < b.kb * 1024 := Nat.mul_pos b.kb_pos (by decide)
  have hinj : Function.Injective (blockPath (sendfileTmp nodeId sendfile)) := by
    rw [sendfileTmp_eq]
    exact blockPath_injective (sendfileDir_ne_empty _ _)
  obtain ⟨written, hsplit, hfrom⟩ := exists_split b.kb_pos hsrc
    (ne_blockPath_sendfileTmp nodeId sendfile) hinj hcount
  have hblock : ∀ i < fileNum content.length b.kb,
      written.files (blockPath (sendfileTmp nodeId sendfile) i)
        = some (piece (b.kb * 1024) content i) := fun i hi =>
    hfrom.block i (Nat.zero_le i) hi
  refine ⟨written, hsplit, ⟨fun i hi => ⟨_, hblock i hi, ?_, ?_, fun h => ?_⟩, fun p hp => ?_⟩,
    fun fs' dir hdir => ?_⟩
  · exact piece_ne_nil hB hi
  · exact length_piece_le
  · exact length_piece_of_lt hB h
  · exact hfrom.other p fun j _ hj => hp j hj
  · have hmerge := merge_eq_of_complete (piece (b.kb * 1024) content) hdir.isDir hcount
      (fun j hj => by rw [hdir.block j hj, hblock j hj])
    rw [joined_piece, if_neg (by simpa using hne)] at hmerge
    exact ⟨_, by rw [toInt_of_le hcount]; exact hmerge, FileSystem.files_write_self _ _⟩

theorem le_of_round_trip {content : Bytes} {b : BlockSize} (h : SplitMergeRoundTrip content b) :
    fileNum content.length b.kb ≤ intMax := by
  by_contra hcount
  let fs : FileSystem := ⟨fun _ => some content, fun _ => false⟩
  obtain ⟨written, hsplit, -⟩ := h "n" "f" fs rfl
  rw [split_eq_none b.kb_pos rfl (ne_blockPath_sendfileTmp "n" "f") (Nat.lt_of_not_le hcount)]
    at hsplit
  exact absurd hsplit (by simp)

/-- **When the round trip works**: exactly when an `int` can count the blocks. -/
theorem split_merge_round_trip_iff (content : Bytes) (b : BlockSize) (hne : content ≠ []) :
    SplitMergeRoundTrip content b ↔ fileNum content.length b.kb ≤ intMax :=
  ⟨le_of_round_trip, round_trip_of_le hne⟩

/-- A file of three bytes. -/
theorem split_merge_round_trip_small :
    SplitMergeRoundTrip [1, 2, 3] ⟨1, by decide, by decide⟩ ↔ fileNum 3 1 ≤ intMax :=
  split_merge_round_trip_iff [1, 2, 3] ⟨1, by decide, by decide⟩ (by decide)

/-- **A file with too many blocks**: `2 ^ 41` bytes in blocks of 1 KB. -/
theorem split_merge_round_trip_overflow :
    ¬ SplitMergeRoundTrip (List.replicate 2199023255552 0) ⟨1, by decide, by decide⟩ := by
  intro h
  have hle := le_of_round_trip h
  rw [List.length_replicate] at hle
  exact absurd hle (by decide)

/-! ## Any configured block size

`main` takes `file_block_size` over as it is, and a file may be cut short by another process while
`split` reads it. -/

/-- `fileSplitSize_`, an `int`, as `main` makes it of the `long` in the configuration. -/
def fileSplitSize (configured : Int) : Int := configured.bmod 4294967296

/-- `fileNum` again, for any block size; the product is one of `int`s. -/
def blockCount (fileSize : ℕ) (fileSplitSize : Int) : Option ℕ :=
  let bytes := fileSplitSize * 1024
  if bytes < -intMax - 1 ∨ intMax < bytes ∨ bytes = 0 then none
  else some (((fileSize : Int).tdiv bytes + if (fileSize : Int).tmod bytes > 0 then 1 else 0)
    % 18446744073709551616).toNat

/-- The block sizes that `send_file` can compute with. -/
def Computes (fileSplitSize : Int) : Prop :=
  fileSplitSize ≠ 0 ∧ -intMax - 1 ≤ fileSplitSize * 1024 ∧ fileSplitSize * 1024 ≤ intMax

instance (fileSplitSize : Int) : Decidable (Computes fileSplitSize) :=
  inferInstanceAs (Decidable (_ ∧ _ ∧ _))

theorem blockCount_isSome_iff {fileSize : ℕ} {kb : Int} :
    (blockCount fileSize kb).isSome ↔ Computes kb := by
  rw [blockCount, Computes]
  split
  · exact iff_of_false (by simp) (by omega)
  · exact iff_of_true rfl (by omega)

/-- For a block size that makes sense the count is the one of `fileNum`. -/
theorem blockCount_eq_fileNum {fileSize kb : ℕ} (hkb : Computes kb)
    (hcount : FileTopic.fileNum fileSize kb ≤ intMax) :
    blockCount fileSize kb = some (FileTopic.fileNum fileSize kb) := by
  obtain ⟨hne, hlo, hhi⟩ := hkb
  have hdiv : (fileSize : Int).tdiv (kb * 1024) = (fileSize / (kb * 1024) : ℕ) := by
    exact_mod_cast (Int.ofNat_tdiv fileSize (kb * 1024)).symm
  have hmod : (fileSize : Int).tmod (kb * 1024) = (fileSize % (kb * 1024) : ℕ) := by
    exact_mod_cast (Int.ofNat_tmod fileSize (kb * 1024)).symm
  rw [blockCount, if_neg (by omega), hdiv, hmod]
  rw [fileNum] at hcount ⊢
  rw [intMax] at hcount
  generalize fileSize / (kb * 1024) = q at hcount ⊢
  generalize fileSize % (kb * 1024) = r at hcount ⊢
  congr 1
  split at hcount <;> split <;> omega

theorem blockCount_zero {kb : Int} (hkb : Computes kb) : blockCount 0 kb = some 0 := by
  obtain ⟨hne, hlo, hhi⟩ := hkb
  rw [blockCount, if_neg (by omega)]
  simp

/-- `split` returns, and the number of blocks has a value. -/
def SplittingEnds (configured : Int) (o : SplitReads) (fs : FileSystem) (tmppath : String) : Prop :=
  SplitEnds o fs (fileSplitSize configured) tmppath ∧
    (blockCount o.oriSize (fileSplitSize configured)).isSome

/-- **When splitting ends**: exactly when the block size is one to compute with, and the reads come
to the length of the file before the blocks are too many. -/
theorem splitting_ends_iff (configured : Int) (o : SplitReads) (fs : FileSystem)
    (tmppath : String) :
    SplittingEnds configured o fs tmppath ↔
      Computes (fileSplitSize configured) ∧ o.Ends (fileSplitSize configured * 1024) := by
  rw [SplittingEnds, splitEnds_iff, blockCount_isSome_iff, and_comm]

/-- **What does not end**: a file of one byte in blocks of 0 KB, and a file that is empty by the
time it is read, in blocks of any size. -/
theorem not_splitting_ends :
    ¬ SplittingEnds 0 (.ofFile [1]) ⟨fun _ => none, fun _ => true⟩ "send/n/f_tmp/" ∧
      ¬ SplittingEnds 62 ⟨1, fun _ => [], fun _ => true⟩ ⟨fun _ => none, fun _ => true⟩
        "send/n/f_tmp/" := by
  rw [splitting_ends_iff, splitting_ends_iff]
  refine ⟨fun h => absurd h.1 (by decide), fun h => ?_⟩
  have htotal : ∀ k, SplitReads.total ⟨1, fun _ => [], fun _ => true⟩ k = 0 := by
    intro k
    induction k with
    | zero => rfl
    | succ k ih => exact ih
  rcases h.2 with ⟨⟨k, hk⟩, -⟩ | ⟨j, -, -, hopen, -⟩
  · exact absurd (hk.trans_eq (htotal k)) (by decide)
  · exact absurd hopen (by simp)

end FileTopic

end Sadip

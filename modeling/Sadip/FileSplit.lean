import Sadip.Machinery.FileSystem
import Sadip.Machinery.Pieces

/-!
# FileSplit — cutting a file into blocks and putting it together, `utils/FileSplit.h`

The operations take the file system and give it back.  File operations succeed, so an open for
reading fails exactly on a file that is not there.  `none` is a call without a defined result: a
loop that makes no progress any more, or an `int` block counter past `INT_MAX`.

`exists_splitLoop` and `mergeLoop_eq` say once what the two nested loops of `split` and `merge` do.
-/

namespace Sadip

namespace FileSplit

open FsPath Pieces

/-- `INT_MAX`. -/
def intMax : ℕ := 2147483647

/-! ## The file operations -/

/-- `GetFileLength`: `-1` when the file does not open. -/
def getFileLength (fs : FileSystem) (filepath : String) : Int :=
  match fs.files (ofString filepath) with
  | none => -1
  | some content => content.length

def mkdir (fs : FileSystem) (path : String) : FileSystem := fs.mkdir (ofString path)

/-- `IsDir`; the empty path names nothing. -/
def isDir (fs : FileSystem) (path : String) : Bool := path ≠ "" && fs.isDir (ofString path)

/-- `write_file`. -/
def writeFile (fs : FileSystem) (filename : String) (buff : Bytes) : FileSystem :=
  fs.write (ofString filename) buff

/-- `move`: the destination is opened, and so emptied, before the source is looked at. -/
def move (fs : FileSystem) (src dst : String) : FileSystem :=
  let opened := fs.write (ofString dst) []
  match fs.files (ofString src) with
  | none => opened
  | some _ =>
      (opened.append (ofString dst) ((opened.files (ofString src)).getD [])).remove (ofString src)

/-- `remove_all_files`. -/
def removeAllFiles (fs : FileSystem) (dir : String) : FileSystem :=
  if fs.isDir (ofString dir) then fs.removeAll (ofString dir) else fs

/-! ## Splitting -/

/-- The `while` loop of `split` over one block: the file system and `read_count` when it ends. -/
def splitBlock (src div : FsPath) (blockSize oriSize : ℕ) (fs : FileSystem)
    (thisTimesRead readCount : ℕ) : Option (FileSystem × ℕ) :=
  if thisTimesRead < blockSize ∧ readCount < oriSize then
    let buff := fs.readAt src readCount 1024
    if 0 < buff.length then
      splitBlock src div blockSize oriSize (fs.append div buff) (thisTimesRead + buff.length)
        (readCount + buff.length)
    else none
  else some (fs, readCount)
termination_by oriSize - readCount
decreasing_by
  rename_i hmore hbuff
  have : 0 < (fs.readAt src readCount 1024).length := hbuff
  omega

/-- The `for` loop of `split`. -/
def splitLoop (src : FsPath) (tmppath : String) (blockSize oriSize : ℕ) (fs : FileSystem)
    (readCount i : ℕ) : Option FileSystem :=
  if readCount < oriSize then
    let divfile := ofString (tmppath ++ i.repr)
    match splitBlock src divfile blockSize oriSize (fs.write divfile []) 0 readCount with
    | none => none
    | some (fs', readCount') =>
        if i < intMax then splitLoop src tmppath blockSize oriSize fs' readCount' (i + 1)
        else none
  else some fs
termination_by intMax - i

/-- `split`, with the block size in KB. -/
def split (fs : FileSystem) (filepath : String) (blockSize : ℕ) (tmppath : String) :
    Option FileSystem :=
  let oriSize := getFileLength fs filepath
  if oriSize = -1 then some fs
  else splitLoop (ofString filepath) tmppath (blockSize * 1024) oriSize.toNat fs 0 0

variable {src div : FsPath} {fs : FileSystem} {content : Bytes}

/-- **One block.**  The loop moves what is left of the block, or of the file, to the block file. -/
theorem splitBlock_eq (hsrc : fs.files src = some content) (hne : src ≠ div) :
    ∀ (m t readCount : ℕ) (acc : Bytes),
      splitBlock src div (t + m * 1024) content.length (fs.write div acc) t readCount
        = some (fs.write div (acc ++ (content.drop readCount).take (m * 1024)),
            max readCount (min content.length (readCount + m * 1024)))
  | 0, t, readCount, acc => by
      rw [splitBlock, if_neg (by omega)]
      simp
  | m + 1, t, readCount, acc => by
      rw [splitBlock]
      by_cases hlt : readCount < content.length
      · have hread : (fs.write div acc).readAt src readCount 1024
            = (content.drop readCount).take 1024 := by
          refine FileSystem.readAt_of_files _ ?_ _ _
          rw [FileSystem.files_write_of_ne _ _ hne, hsrc]
        have hlen : ((content.drop readCount).take 1024).length
            = min 1024 (content.length - readCount) := by
          rw [List.length_take, List.length_drop]
        rw [if_pos ⟨by omega, hlt⟩]
        simp only [hread, FileSystem.append_write]
        rw [if_pos (by omega)]
        by_cases hfull : readCount + 1024 ≤ content.length
        · -- a full read: the loop goes on with `m` reads to go
          have h1024 : ((content.drop readCount).take 1024).length = 1024 := by omega
          rw [h1024, show t + (m + 1) * 1024 = t + 1024 + m * 1024 by ring,
            splitBlock_eq hsrc hne m]
          congr 2
          · rw [List.append_assoc, show (m + 1) * 1024 = 1024 + m * 1024 by ring, List.take_add,
              List.drop_drop]
          · omega
        · -- a short read ends the file, and with it the loop
          rw [splitBlock, if_neg (by omega)]
          congr 2
          · rw [List.take_of_length_le (by rw [List.length_drop]; omega),
              List.take_of_length_le (by rw [List.length_drop]; omega)]
          · omega
      · rw [if_neg (by omega)]
        rw [List.drop_of_length_le (by omega)]
        simp
        omega

/-- The path of a block file. -/
def blockPath (tmppath : String) (i : ℕ) : FsPath := ofString (tmppath ++ i.repr)

/-- What the `for` loop of `split` leaves when it starts at block `i`. -/
structure SplitFrom (tmppath : String) (B : ℕ) (content : Bytes) (i : ℕ)
    (fs fs' : FileSystem) : Prop where
  block : ∀ j, i ≤ j → j < pieceCount B content.length →
    fs'.files (blockPath tmppath j) = some (piece B content j)
  other : ∀ p, (∀ j, i ≤ j → j < pieceCount B content.length → p ≠ blockPath tmppath j) →
    fs'.files p = fs.files p
  isDir_eq : fs'.isDir = fs.isDir

variable {tmppath : String} {b : ℕ}

/-- One round of the `for` loop: block `i` is written, and the counter goes on unless it is at
`INT_MAX`. -/
theorem splitLoop_step (hb : 0 < b) (hsrc : fs.files src = some content)
    (hne : ∀ j, src ≠ blockPath tmppath j) {i : ℕ}
    (hi : i < pieceCount (b * 1024) content.length) :
    splitLoop src tmppath (b * 1024) content.length fs (i * (b * 1024)) i
      = if i < intMax then
          splitLoop src tmppath (b * 1024) content.length
            (fs.write (blockPath tmppath i) (piece (b * 1024) content i))
            (min content.length ((i + 1) * (b * 1024))) (i + 1)
        else none := by
  have hlt := (lt_pieceCount_iff (by omega)).mp hi
  have hblock := splitBlock_eq hsrc (hne i) b 0 (i * (b * 1024)) []
  have hcount : max (i * (b * 1024)) (min content.length (i * (b * 1024) + b * 1024))
      = min content.length ((i + 1) * (b * 1024)) := by
    rw [Nat.add_mul, Nat.one_mul]
    omega
  rw [Nat.zero_add, List.nil_append, hcount] at hblock
  rw [splitLoop, if_pos hlt]
  simp only [← blockPath.eq_def, hblock]
  rfl

/-- **The `for` loop writes the pieces** from block `i` on, as long as the counter holds them. -/
theorem exists_splitLoop (hb : 0 < b) (hne : ∀ j, src ≠ blockPath tmppath j)
    (hinj : Function.Injective (blockPath tmppath))
    (hcount : pieceCount (b * 1024) content.length ≤ intMax) :
    ∀ (m i : ℕ), i + m = pieceCount (b * 1024) content.length →
      ∀ fs : FileSystem, fs.files src = some content →
      ∃ fs', splitLoop src tmppath (b * 1024) content.length fs
          (min content.length (i * (b * 1024))) i = some fs'
        ∧ SplitFrom tmppath (b * 1024) content i fs fs'
  | 0, i, hi, fs, _ => by
      have hend : ¬ i * (b * 1024) < content.length := fun h =>
        absurd ((lt_pieceCount_iff (by omega)).mpr h) (by omega)
      refine ⟨fs, ?_, fun j hj hj' => absurd hj' (by omega), fun _ _ => rfl, rfl⟩
      rw [splitLoop, if_neg (by omega)]
  | m + 1, i, hi, fs, hsrc => by
      have hlt := (lt_pieceCount_iff (B := b * 1024) (n := content.length) (i := i)
        (by omega)).mp (by omega)
      obtain ⟨fs', hrun, hrest⟩ := exists_splitLoop hb hne hinj hcount m (i + 1) (by omega)
        (fs.write (blockPath tmppath i) (piece (b * 1024) content i))
        (by rw [FileSystem.files_write_of_ne _ _ (hne i), hsrc])
      refine ⟨fs', ?_, fun j hj hj' => ?_, fun p hp => ?_, hrest.isDir_eq⟩
      · rw [min_eq_right hlt.le, splitLoop_step hb hsrc hne (by omega), if_pos (by omega), hrun]
      · rcases Nat.lt_or_eq_of_le hj with hlt' | rfl
        · exact hrest.block j hlt' hj'
        · rw [hrest.other _ fun k hk _ h => absurd (hinj h) (by omega), FileSystem.files_write_self]
      · rw [hrest.other p fun k hk hk' => hp k (by omega) hk',
          FileSystem.files_write_of_ne _ _ (hp i (Nat.le_refl i) (by omega))]

/-- **Too many blocks for an `int`**: the counter runs past `INT_MAX`. -/
theorem splitLoop_eq_none (hb : 0 < b) (hne : ∀ j, src ≠ blockPath tmppath j)
    (hcount : intMax < pieceCount (b * 1024) content.length) :
    ∀ (m i : ℕ), i + m = intMax → ∀ fs : FileSystem, fs.files src = some content →
      splitLoop src tmppath (b * 1024) content.length fs (i * (b * 1024)) i = none
  | 0, i, hi, fs, hsrc => by
      rw [splitLoop_step hb hsrc hne (by omega), if_neg (by omega)]
  | m + 1, i, hi, fs, hsrc => by
      have hlt := (lt_pieceCount_iff (B := b * 1024) (n := content.length) (i := i + 1)
        (by omega)).mp (by omega)
      rw [splitLoop_step hb hsrc hne (by omega), if_pos (by omega), min_eq_right hlt.le]
      exact splitLoop_eq_none hb hne hcount m (i + 1) (by omega) _
        (by rw [FileSystem.files_write_of_ne _ _ (hne i), hsrc])

/-- **`split` writes the pieces of the file**, when an `int` can count them. -/
theorem exists_split {filepath : String} (hb : 0 < b)
    (hsrc : fs.files (ofString filepath) = some content)
    (hne : ∀ j, ofString filepath ≠ blockPath tmppath j)
    (hinj : Function.Injective (blockPath tmppath))
    (hcount : pieceCount (b * 1024) content.length ≤ intMax) :
    ∃ fs', split fs filepath b tmppath = some fs'
      ∧ SplitFrom tmppath (b * 1024) content 0 fs fs' := by
  obtain ⟨fs', hrun, hfrom⟩ := exists_splitLoop hb hne hinj hcount _ 0 (Nat.zero_add _) fs hsrc
  refine ⟨fs', ?_, hfrom⟩
  rw [Nat.zero_mul, Nat.min_zero] at hrun
  simp only [split, getFileLength, hsrc, Int.toNat_natCast, hrun]
  rw [if_neg (by omega)]

theorem split_eq_none {filepath : String} (hb : 0 < b)
    (hsrc : fs.files (ofString filepath) = some content)
    (hne : ∀ j, ofString filepath ≠ blockPath tmppath j)
    (hcount : intMax < pieceCount (b * 1024) content.length) :
    split fs filepath b tmppath = none := by
  have hrun := splitLoop_eq_none hb hne hcount _ 0 (Nat.zero_add _) fs hsrc
  rw [Nat.zero_mul] at hrun
  simp only [split, getFileLength, hsrc, Int.toNat_natCast, hrun]
  rw [if_neg (by omega)]

/-- An empty file has no blocks, whatever their size. -/
theorem split_of_nil {filepath : String} (hsrc : fs.files (ofString filepath) = some []) (b : ℕ) :
    split fs filepath b tmppath = some fs := by
  simp only [split, getFileLength, hsrc, List.length_nil]
  rw [if_neg (by decide), splitLoop, if_neg (by decide)]

/-- **Blocks of no bytes**: the counter runs past `INT_MAX` with nothing read. -/
theorem splitLoop_zero_eq_none {oriSize : ℕ} (hpos : 0 < oriSize) :
    ∀ (m i : ℕ), i + m = intMax → ∀ fs : FileSystem,
      splitLoop src tmppath 0 oriSize fs 0 i = none := by
  have hblock : ∀ (div : FsPath) (fs : FileSystem),
      splitBlock src div 0 oriSize fs 0 0 = some (fs, 0) := fun div fs => by
    rw [splitBlock, if_neg (by omega)]
  intro m
  induction m with
  | zero =>
    intro i hi fs
    rw [splitLoop, if_pos hpos]
    simp only [hblock]
    rw [if_neg (by omega)]
  | succ m ih =>
    intro i hi fs
    rw [splitLoop, if_pos hpos]
    simp only [hblock]
    rw [if_pos (by omega), ih (i + 1) (by omega)]

theorem split_zero_eq_none {filepath : String} (hsrc : fs.files (ofString filepath) = some content)
    (hne : content ≠ []) : split fs filepath 0 tmppath = none := by
  simp only [split, getFileLength, hsrc, Int.toNat_natCast]
  rw [if_neg (by omega)]
  exact splitLoop_zero_eq_none (List.length_pos_of_ne_nil hne) _ 0 (Nat.zero_add _) fs

/-! ## Merging -/

/-- The `while` loop of `merge` over one block file: the file system and `read_size` when it
ends. -/
def mergeBlock (block out : FsPath) (curlen : ℕ) (fs : FileSystem) (thisTimesRead readSize : ℕ) :
    Option (FileSystem × ℕ) :=
  if thisTimesRead < curlen then
    let buffer := fs.readAt block thisTimesRead 1024
    if 0 < buffer.length then
      mergeBlock block out curlen (fs.append out buffer) (thisTimesRead + buffer.length)
        (readSize + buffer.length)
    else none
  else some (fs, readSize)
termination_by curlen - thisTimesRead
decreasing_by
  rename_i hmore hbuff
  have : 0 < (fs.readAt block thisTimesRead 1024).length := hbuff
  omega

/-- The outer loop of `merge`, with the test of `read_size` behind it.  `dir` ends in a slash. -/
def mergeLoop (dir : String) (out : FsPath) (blockNum : Int) (fs : FileSystem) (readSize i : ℕ) :
    Option (Int × FileSystem) :=
  if (i : Int) = blockNum then some (if readSize = 0 then -1 else 0, fs)
  else
    let curlen := getFileLength fs (dir ++ i.repr)
    match fs.files (blockPath dir i) with
    | none => some (i, fs)
    | some _ =>
        match mergeBlock (blockPath dir i) out curlen.toNat fs 0 readSize with
        | none => none
        | some (fs', readSize') =>
            if i < intMax then mergeLoop dir out blockNum fs' readSize' (i + 1) else none
termination_by intMax - i

/-- `merge`: the value returned, and the file system. -/
def merge (fs : FileSystem) (dir : String) (blockNum : Int) : Option (Int × FileSystem) :=
  if !isDir fs dir then some (-1, fs)
  else
    let outFile := ofString (dir ++ "/merge.out")
    mergeLoop (dir ++ "/") outFile blockNum (fs.write outFile []) 0 0

variable {block out : FsPath} {dir : String} {blockNum : Int}

theorem mergeBlock_eq (hblock : fs.files block = some content) (hne : block ≠ out) :
    ∀ (m t readSize : ℕ) (acc : Bytes), content.length ≤ t + m * 1024 → t ≤ content.length →
      mergeBlock block out content.length (fs.write out acc) t readSize
        = some (fs.write out (acc ++ content.drop t), readSize + (content.length - t))
  | 0, t, readSize, acc, hm, ht => by
      rw [mergeBlock, if_neg (by omega), List.drop_of_length_le (by omega)]
      simp
      omega
  | m + 1, t, readSize, acc, hm, ht => by
      rw [mergeBlock]
      by_cases hlt : t < content.length
      · have hread : (fs.write out acc).readAt block t 1024 = (content.drop t).take 1024 := by
          refine FileSystem.readAt_of_files _ ?_ _ _
          rw [FileSystem.files_write_of_ne _ _ hne, hblock]
        have hlen : ((content.drop t).take 1024).length = min 1024 (content.length - t) := by
          rw [List.length_take, List.length_drop]
        rw [if_pos hlt]
        simp only [hread, FileSystem.append_write]
        rw [if_pos (by omega), mergeBlock_eq hblock hne m _ _ _ (by omega) (by omega), hlen]
        have hrest : content.drop (t + min 1024 (content.length - t))
            = (content.drop t).drop 1024 := by
          rw [List.drop_drop]
          rcases Nat.le_total 1024 (content.length - t) with h | h
          · rw [min_eq_left h]
          · rw [List.drop_eq_nil_of_le (show content.length ≤ t + 1024 by omega),
              List.drop_eq_nil_of_le (by omega)]
        rw [hrest, List.append_assoc, List.take_append_drop]
        congr 2
        omega
      · rw [if_neg hlt, List.drop_of_length_le (by omega)]
        simp
        omega

/-- The bytes of the block files from `i` up to, not including, `m`. -/
def joined (c : ℕ → Bytes) (i m : ℕ) : Bytes := ((List.range' i (m - i)).map c).flatten

theorem joined_self (c : ℕ → Bytes) (i : ℕ) : joined c i i = [] := by simp [joined]

theorem joined_eq_append (c : ℕ → Bytes) {i m : ℕ} (h : i < m) :
    joined c i m = c i ++ joined c (i + 1) m := by
  obtain ⟨k, rfl⟩ : ∃ k, m = i + 1 + k := ⟨m - (i + 1), by omega⟩
  rw [joined, joined, show i + 1 + k - i = k + 1 by omega, show i + 1 + k - (i + 1) = k by omega,
    List.range'_succ, List.map_cons, List.flatten_cons]

/-- One round of the outer loop over a block file that is there. -/
theorem mergeLoop_step {c : Bytes} {i : ℕ} (hi : (i : Int) ≠ blockNum)
    (hblock : fs.files (blockPath dir i) = some c) (hne : blockPath dir i ≠ out)
    (acc : Bytes) (readSize : ℕ) :
    mergeLoop dir out blockNum (fs.write out acc) readSize i
      = if i < intMax then
          mergeLoop dir out blockNum (fs.write out (acc ++ c)) (readSize + c.length) (i + 1)
        else none := by
  have hfile : (fs.write out acc).files (blockPath dir i) = some c := by
    rw [FileSystem.files_write_of_ne _ _ hne, hblock]
  have hlen : getFileLength (fs.write out acc) (dir ++ i.repr) = c.length := by
    rw [getFileLength, ← blockPath.eq_def, hfile]
  have hrun := mergeBlock_eq hblock hne c.length 0 readSize acc (by omega) (Nat.zero_le _)
  rw [List.drop_zero, Nat.sub_zero] at hrun
  rw [mergeLoop, if_neg hi]
  simp only [hfile, hlen, Int.toNat_natCast, hrun]

/-- **The outer loop runs over the block files that are there**, adding them to the output. -/
theorem mergeLoop_eq (c : ℕ → Bytes) (hne : ∀ j, blockPath dir j ≠ out) :
    ∀ (k i : ℕ), i + k ≤ intMax →
      (∀ j, i ≤ j → j < i + k → fs.files (blockPath dir j) = some (c j) ∧ (j : Int) ≠ blockNum) →
      ∀ (acc : Bytes) (readSize : ℕ),
        mergeLoop dir out blockNum (fs.write out acc) readSize i
          = mergeLoop dir out blockNum (fs.write out (acc ++ joined c i (i + k)))
              (readSize + (joined c i (i + k)).length) (i + k)
  | 0, i, _, _, acc, readSize => by simp [joined_self]
  | k + 1, i, hmax, hfiles, acc, readSize => by
      obtain ⟨hblock, hi⟩ := hfiles i (Nat.le_refl i) (by omega)
      rw [mergeLoop_step hi hblock (hne i), if_pos (by omega),
        mergeLoop_eq c hne k (i + 1) (by omega) (fun j hj hj' => hfiles j (by omega) (by omega)),
        show i + 1 + k = i + (k + 1) by omega, joined_eq_append c (show i < i + (k + 1) by omega),
        List.append_assoc, List.length_append, Nat.add_assoc]

/-- **Too many block files for an `int`**: the counter runs past `INT_MAX`. -/
theorem mergeLoop_eq_none (c : ℕ → Bytes) (hne : ∀ j, blockPath dir j ≠ out)
    (hfiles : ∀ j ≤ intMax, fs.files (blockPath dir j) = some (c j) ∧ (j : Int) ≠ blockNum)
    (acc : Bytes) (readSize : ℕ) :
    mergeLoop dir out blockNum (fs.write out acc) readSize 0 = none := by
  have hrun := mergeLoop_eq c hne intMax 0 (by omega)
    (fun j _ hj => hfiles j (by omega)) acc readSize
  rw [Nat.zero_add] at hrun
  rw [hrun, mergeLoop_step (hfiles intMax (Nat.le_refl _)).2 (hfiles intMax (Nat.le_refl _)).1
    (hne intMax), if_neg (Nat.lt_irrefl _)]

theorem ne_empty_of_isDir (hdir : isDir fs dir = true) : dir ≠ "" := by
  rw [isDir] at hdir
  simpa using (Bool.and_eq_true_iff.mp hdir).1

theorem blockPath_slash (hd : dir ≠ "") (i : ℕ) :
    blockPath (dir ++ "/") i = ofString dir ++ [i.repr] :=
  ofString_append_name hd (isName_repr i)

/-- The path `merge` writes to. -/
def mergeOut (dir : String) : FsPath := ofString (dir ++ "/merge.out")

theorem mergeOut_eq (hd : dir ≠ "") : mergeOut dir = ofString dir ++ ["merge.out"] := by
  have h : dir ++ "/merge.out" = dir ++ "/" ++ "merge.out" := by rw [String.append_assoc]; rfl
  rw [mergeOut, h]
  exact ofString_append_name hd ⟨by decide, by decide, by decide⟩

theorem blockPath_injective (hd : dir ≠ "") : Function.Injective (blockPath (dir ++ "/")) := by
  intro i j h
  rw [blockPath_slash hd, blockPath_slash hd] at h
  exact repr_injective (by simpa using h)

theorem blockPath_ne_mergeOut (hd : dir ≠ "") (i : ℕ) :
    blockPath (dir ++ "/") i ≠ mergeOut dir := by
  rw [blockPath_slash hd, mergeOut_eq hd]
  intro h
  have hrepr : i.repr = "merge.out" := by simpa using h
  have hdigit : 'm'.isDigit = true := by
    refine Nat.isDigit_of_mem_toDigits (b := 10) (n := i) (by decide) (by decide) ?_
    rw [← Nat.toList_repr, hrepr]
    decide
  exact absurd hdigit (by decide)

/-! ## What the loops leave alone -/

theorem files_of_mergeBlock {curlen : ℕ} {p : FsPath} (hp : p ≠ out) :
    ∀ (fs : FileSystem) (t readSize : ℕ) {fs' : FileSystem} {readSize' : ℕ},
      mergeBlock block out curlen fs t readSize = some (fs', readSize') →
      fs'.files p = fs.files p := by
  intro fs t readSize fs' readSize' h
  induction fs, t, readSize using mergeBlock.induct block out curlen with
  | case1 fs t readSize hlt buffer hbuffer ih =>
    rw [mergeBlock, if_pos hlt] at h
    simp only [buffer] at hbuffer
    rw [if_pos hbuffer] at h
    rw [ih h, FileSystem.append, FileSystem.files_write_of_ne _ _ hp]
  | case2 fs t readSize hlt buffer hbuffer =>
    rw [mergeBlock, if_pos hlt] at h
    simp only [buffer] at hbuffer
    rw [if_neg hbuffer] at h
    exact absurd h (by simp)
  | case3 fs t readSize hge =>
    rw [mergeBlock, if_neg hge] at h
    obtain ⟨rfl, -⟩ := Prod.mk.inj (Option.some.inj h)
    rfl

theorem files_of_mergeLoop {p : FsPath} (hp : p ≠ out) :
    ∀ (fs : FileSystem) (readSize i : ℕ) {result : Int} {fs' : FileSystem},
      mergeLoop dir out blockNum fs readSize i = some (result, fs') →
      fs'.files p = fs.files p := by
  intro fs readSize i result fs' h
  induction fs, readSize, i using mergeLoop.induct dir out blockNum with
  | case1 fs readSize i heq =>
    rw [mergeLoop, if_pos heq] at h
    obtain ⟨-, rfl⟩ := Prod.mk.inj (Option.some.inj h)
    rfl
  | case2 fs readSize i hne hnone =>
    rw [mergeLoop, if_neg hne] at h
    simp only [hnone] at h
    obtain ⟨-, rfl⟩ := Prod.mk.inj (Option.some.inj h)
    rfl
  | case3 fs readSize i hne curlen c hsome hblock =>
    rw [mergeLoop, if_neg hne] at h
    simp only [hsome] at h
    rw [hblock] at h
    exact absurd h (by simp)
  | case4 fs readSize i hne curlen c hsome fs₁ readSize₁ hblock hlt ih =>
    rw [mergeLoop, if_neg hne] at h
    simp only [hsome] at h
    rw [hblock] at h
    simp only [if_pos hlt] at h
    rw [ih h, files_of_mergeBlock hp _ _ _ hblock]
  | case5 fs readSize i hne curlen c hsome fs₁ readSize₁ hblock hge =>
    rw [mergeLoop, if_neg hne] at h
    simp only [hsome] at h
    rw [hblock] at h
    simp only [if_neg hge] at h
    exact absurd h (by simp)

/-- **`merge` changes nothing but its output.** -/
theorem files_of_merge {p : FsPath} (hp : p ≠ mergeOut dir) {result : Int} {fs' : FileSystem}
    (h : merge fs dir blockNum = some (result, fs')) : fs'.files p = fs.files p := by
  rw [merge] at h
  split at h
  · obtain ⟨-, rfl⟩ := Prod.mk.inj (Option.some.inj h)
    rfl
  · rw [files_of_mergeLoop hp _ _ _ h, ← mergeOut.eq_def, FileSystem.files_write_of_ne _ _ hp]

/-- **`move` changes nothing but its two files**, and of the source only that it is gone. -/
theorem files_move_of_ne (fs : FileSystem) (src : String) {dst : String} {p : FsPath}
    (hp : p ≠ ofString dst) :
    (move fs src dst).files p = fs.files p ∨ (move fs src dst).files p = none := by
  rw [move]
  split
  · exact .inl (FileSystem.files_write_of_ne _ _ hp)
  · by_cases hsrc : p = ofString src
    · exact .inr (by rw [hsrc, FileSystem.remove]; exact Function.update_self ..)
    · refine .inl ?_
      rw [FileSystem.files_remove_of_ne _ hsrc, FileSystem.append,
        FileSystem.files_write_of_ne _ _ hp, FileSystem.files_write_of_ne _ _ hp]

theorem files_removeAllFiles (fs : FileSystem) (dir : String) (p : FsPath) :
    (removeAllFiles fs dir).files p = fs.files p ∨ (removeAllFiles fs dir).files p = none := by
  rw [removeAllFiles]
  split
  · rw [FileSystem.files_removeAll]
    split
    · exact .inr rfl
    · exact .inl rfl
  · exact .inl rfl

/-! ## What `merge` gives -/

/-- **`merge` over a directory with more blocks than an `int` counts**, and no count it meets. -/
theorem merge_eq_none (c : ℕ → Bytes) (hdir : isDir fs dir = true)
    (hfiles : ∀ j ≤ intMax,
      fs.files (blockPath (dir ++ "/") j) = some (c j) ∧ (j : Int) ≠ blockNum) :
    merge fs dir blockNum = none := by
  have hd := ne_empty_of_isDir hdir
  rw [merge, if_neg (by simp [hdir]), ← mergeOut.eq_def]
  exact mergeLoop_eq_none c (blockPath_ne_mergeOut hd) hfiles [] 0

/-- **`merge` over a directory without gaps.** -/
theorem merge_eq_of_complete {n : ℕ} (c : ℕ → Bytes) (hdir : isDir fs dir = true)
    (hn : n ≤ intMax) (hfiles : ∀ j < n, fs.files (blockPath (dir ++ "/") j) = some (c j)) :
    merge fs dir n = some (if (joined c 0 n).length = 0 then -1 else 0,
      fs.write (mergeOut dir) (joined c 0 n)) := by
  have hd := ne_empty_of_isDir hdir
  have hblocks : ∀ j, 0 ≤ j → j < 0 + n →
      fs.files (blockPath (dir ++ "/") j) = some (c j) ∧ (j : Int) ≠ (n : Int) :=
    fun j _ hj => ⟨hfiles j (by omega), by omega⟩
  have hrun := mergeLoop_eq c (blockPath_ne_mergeOut hd) n 0 (by omega) hblocks [] 0
  rw [merge, if_neg (by simp [hdir]), ← mergeOut.eq_def]
  simp only [Nat.zero_add, List.nil_append] at hrun
  rw [hrun, mergeLoop, if_pos rfl]

/-- **`merge` stops at the first gap**, also at block `0`, where it gives `0`. -/
theorem merge_eq_of_gap {g : ℕ} (c : ℕ → Bytes) (hdir : isDir fs dir = true) (hg : g ≤ intMax)
    (hfiles : ∀ j < g, fs.files (blockPath (dir ++ "/") j) = some (c j) ∧ (j : Int) ≠ blockNum)
    (hgap : fs.files (blockPath (dir ++ "/") g) = none) (hend : (g : Int) ≠ blockNum) :
    merge fs dir blockNum = some ((g : Int), fs.write (mergeOut dir) (joined c 0 g)) := by
  have hd := ne_empty_of_isDir hdir
  have hrun := mergeLoop_eq c (blockPath_ne_mergeOut hd) g 0 (by omega)
    (fun j _ hj => hfiles j (by omega)) [] 0
  rw [merge, if_neg (by simp [hdir]), ← mergeOut.eq_def]
  simp only [Nat.zero_add, List.nil_append] at hrun
  rw [hrun, mergeLoop, if_neg hend]
  simp only [FileSystem.files_write_of_ne _ _ (blockPath_ne_mergeOut hd g), hgap]

end FileSplit

end Sadip

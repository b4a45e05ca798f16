import Sadip.FileSplit
import Sadip.Machinery.Halts

/-!
# FileSplit/Reads — `split` whatever its reads give, `utils/FileSplit.h`

`split` takes the length of the file once and then reads until it has as many bytes, or leaves when
a block file does not open.  Nothing tells it that a read gave nothing, and the block size comes
from the configuration as it is.  The machine `splitStep` makes one test, or one read, a step;
`Ends` says of the block size and the reads when it stops, and `splitEnds_iff` that it stops then
and only then.

On the reads of a file that stays as it is the machine does what `split` of `FileSplit` does
(`reaches_of_split`).
-/

namespace Sadip

namespace FileSplit

open FsPath Halts

/-- What one call of `split` gets from the system. -/
structure SplitReads where
  /-- the length that `GetFileLength` found -/
  oriSize : ℕ
  /-- what each read gives -/
  reads : ℕ → Bytes
  /-- whether the file of a block opens -/
  opens : ℕ → Bool

/-- Where `split` is: at the head of the `for` loop, in the `while` loop of a block, or out of it.
-/
inductive SplitPc where
  | loop
  | block
  | finished
  /-- the `int` counter of the blocks has overflowed -/
  | undefined
  deriving DecidableEq

structure SplitState where
  pc : SplitPc
  i : ℕ
  thisTimesRead : ℕ
  readCount : ℕ
  /-- the reads made so far -/
  made : ℕ
  fs : FileSystem

/-- One step of `split`; the block size is in bytes. -/
def splitStep (o : SplitReads) (tmppath : String) (blockSize : Int) (s : SplitState) : SplitState :=
  match s.pc with
  | .loop =>
      if s.readCount < o.oriSize then
        if o.opens s.i then
          { s with pc := .block, thisTimesRead := 0, fs := s.fs.write (blockPath tmppath s.i) [] }
        else { s with pc := .finished }
      else { s with pc := .finished }
  | .block =>
      if (s.thisTimesRead : Int) < blockSize ∧ s.readCount < o.oriSize then
        let buff := o.reads s.made
        { s with
          readCount := s.readCount + buff.length
          thisTimesRead := s.thisTimesRead + buff.length
          made := s.made + 1
          fs := s.fs.append (blockPath tmppath s.i) buff }
      else if s.i < intMax then { s with pc := .loop, i := s.i + 1 }
      else { s with pc := .undefined }
  | .finished => s
  | .undefined => s

def splitInit (fs : FileSystem) : SplitState := ⟨.loop, 0, 0, 0, 0, fs⟩

/-- `split` returns, with the block size in KB. -/
def SplitEnds (o : SplitReads) (fs : FileSystem) (blockSize : Int) (tmppath : String) : Prop :=
  ∃ s, Reaches (splitStep o tmppath (blockSize * 1024)) (splitInit fs) s ∧ s.pc = .finished

/-! ## What the reads come to -/

namespace SplitReads

variable (o : SplitReads) (B : Int)

/-- The bytes of the first `k` reads. -/
def total : ℕ → ℕ
  | 0 => 0
  | k + 1 => total k + (o.reads k).length

/-- The first `k` reads hold `m` stretches, one after the other, of at least `B` bytes each. -/
def Stretched : ℕ → ℕ → Prop
  | 0, _ => True
  | m + 1, k => ∃ k' ≤ k, Stretched m k' ∧ (o.total k' : Int) + B ≤ o.total k

/-- `m` blocks are full before the length is reached. -/
def Fills (m : ℕ) : Prop := ∃ k, o.Stretched B m k ∧ o.total k < o.oriSize

/-- **When `split` stops**: the reads come to the length before `INT_MAX` blocks are full, or a
block file that does not open is next when those before it are full. -/
def Ends : Prop :=
  ((∃ k, o.oriSize ≤ o.total k) ∧ ¬ o.Fills B intMax) ∨
    ∃ j ≤ intMax, (∀ i < j, o.opens i = true) ∧ o.opens j = false ∧ o.Fills B j

variable {o B}

theorem total_mono {k k' : ℕ} (h : k ≤ k') : o.total k ≤ o.total k' := by
  induction h with
  | refl => exact le_rfl
  | step _ ih => exact ih.trans (Nat.le_add_right _ _)

theorem lt_of_total_lt {k k' : ℕ} (h : o.total k < o.total k') : k < k' :=
  lt_of_not_ge fun hle => absurd (total_mono hle) (not_le_of_gt h)

theorem Stretched.mono {k k' : ℕ} (hk : k ≤ k') : ∀ {m : ℕ}, o.Stretched B m k → o.Stretched B m k'
  | 0, _ => trivial
  | _ + 1, ⟨l, hl, hm, hB⟩ => ⟨l, hl.trans hk, hm, hB.trans (by exact_mod_cast total_mono hk)⟩

theorem Stretched.of_le {k m m' : ℕ} (h : m' ≤ m) (hm : o.Stretched B m k) :
    o.Stretched B m' k := by
  induction h with
  | refl => exact hm
  | step _ ih =>
      obtain ⟨l, hl, hm, -⟩ := hm
      exact ih (hm.mono hl)

end SplitReads

/-! ## The invariant -/

variable {o : SplitReads} {B : Int} {tmppath : String} {s : SplitState}

/-- Block `s.i` is being read from read `k₀` on, the first one at which those before it are full. -/
structure InBlock (o : SplitReads) (B : Int) (s : SplitState) (k₀ : ℕ) : Prop where
  opens : o.opens s.i = true
  stretched : o.Stretched B s.i k₀
  least : ∀ k, o.Stretched B s.i k → k₀ ≤ k
  more : o.total k₀ < o.oriSize
  start : k₀ ≤ s.made
  read : o.total k₀ + s.thisTimesRead = o.total s.made
  /-- the block was not full before -/
  short : ∀ k < s.made, k₀ ≤ k → (o.total k : Int) < o.total k₀ + B

/-- What holds where `split` is. -/
def SplitOk (o : SplitReads) (B : Int) (s : SplitState) : SplitPc → Prop
  | .loop => (∀ k, o.Stretched B s.i k → s.made ≤ k) ∧
      (o.Stretched B s.i s.made ∨ o.oriSize ≤ s.readCount)
  | .block => ∃ k₀, InBlock o B s k₀
  | .finished => o.Ends B
  | .undefined => ¬ o.Ends B

structure SplitInv (o : SplitReads) (B : Int) (s : SplitState) : Prop where
  count : s.readCount = o.total s.made
  le : s.i ≤ intMax
  opens : ∀ j < s.i, o.opens j = true
  ok : SplitOk o B s s.pc

theorem splitInv_init (fs : FileSystem) : SplitInv o B (splitInit fs) where
  count := rfl
  le := Nat.zero_le _
  opens _ hj := absurd hj (Nat.not_lt_zero _)
  ok := ⟨fun _ _ => Nat.zero_le _, .inl trivial⟩

/-- A block that is full, or the end of the file, is where the next one starts. -/
theorem InBlock.next {k₀ : ℕ} (h : InBlock o B s k₀) (hcount : s.readCount = o.total s.made)
    (hend : ¬ ((s.thisTimesRead : Int) < B ∧ s.readCount < o.oriSize)) :
    (∀ k, o.Stretched B (s.i + 1) k → s.made ≤ k) ∧
      (o.Stretched B (s.i + 1) s.made ∨ o.oriSize ≤ s.readCount) := by
  constructor
  · rintro k ⟨l, hl, hstretched, hB⟩
    by_contra hlt
    have hk₀ := h.least l hstretched
    have hshort := h.short k (by omega) (hk₀.trans hl)
    have hmono : o.total k₀ ≤ o.total l := SplitReads.total_mono hk₀
    omega
  · rcases Nat.lt_or_ge s.readCount o.oriSize with hlt | hge
    · have hread := h.read
      exact .inl ⟨k₀, h.start, h.stretched, by omega⟩
    · exact .inr hge

/-- The length is reached with no block left over. -/
theorem ends_of_read (h : SplitInv o B s) (hpc : s.pc = .loop) (hend : o.oriSize ≤ s.readCount) :
    o.Ends B := by
  obtain ⟨hleast, -⟩ : SplitOk o B s .loop := hpc ▸ h.ok
  refine .inl ⟨⟨s.made, h.count ▸ hend⟩, fun ⟨k, hk, hlt⟩ => ?_⟩
  have hmono : o.total s.made ≤ o.total k := SplitReads.total_mono (hleast k (hk.of_le h.le))
  have hcount := h.count
  omega

/-- A block file does not open. -/
theorem ends_of_not_opens (h : SplitInv o B s) (hpc : s.pc = .loop)
    (hmore : s.readCount < o.oriSize)
    (hopen : o.opens s.i = false) : o.Ends B := by
  obtain ⟨-, hfull⟩ : SplitOk o B s .loop := hpc ▸ h.ok
  exact .inr ⟨s.i, h.le, h.opens, hopen, s.made, hfull.resolve_right (by omega), h.count ▸ hmore⟩

/-- The counter overflows behind the block that is one too many. -/
theorem InBlock.not_ends {k₀ : ℕ} (h : InBlock o B s k₀) (hi : s.i = intMax)
    (hopens : ∀ j < s.i, o.opens j = true) : ¬ o.Ends B := by
  rintro (⟨-, hfills⟩ | ⟨j, hj, -, hopen, -⟩)
  · exact hfills ⟨k₀, hi ▸ h.stretched, h.more⟩
  · rcases Nat.lt_or_eq_of_le hj with hlt | rfl
    · exact absurd (hopens j (hi ▸ hlt)) (by simp [hopen])
    · exact absurd (hi ▸ h.opens) (by simp [hopen])

/-- **Every step keeps the invariant.** -/
theorem splitInv_step (h : SplitInv o B s) : SplitInv o B (splitStep o tmppath B s) := by
  rcases hpc : s.pc
  · -- at the head of the `for` loop
    rw [splitStep, hpc]
    dsimp only
    split
    · split
      · obtain ⟨hleast, hfull⟩ : SplitOk o B s .loop := hpc ▸ h.ok
        refine ⟨h.count, h.le, h.opens, s.made, ‹_›, hfull.resolve_right (by omega), hleast,
          h.count ▸ ‹_›, le_rfl, rfl, fun k hk hk' => ?_⟩
        exact absurd hk (not_lt_of_ge hk')
      · exact ⟨h.count, h.le, h.opens, ends_of_not_opens h hpc ‹_›
          (Bool.eq_false_of_not_eq_true ‹¬ o.opens s.i = true›)⟩
    · exact ⟨h.count, h.le, h.opens, ends_of_read h hpc (by omega)⟩
  · -- in the `while` loop
    obtain ⟨k₀, hblock⟩ : SplitOk o B s .block := hpc ▸ h.ok
    have hread := hblock.read
    rw [splitStep, hpc]
    dsimp only
    split
    · have hmade : o.total (s.made + 1) = o.total s.made + (o.reads s.made).length := rfl
      refine ⟨by rw [hmade, h.count], h.le, h.opens, k₀, hblock.opens, hblock.stretched,
        hblock.least, hblock.more, hblock.start.trans (Nat.le_succ _), ?_, fun k hk hk' => ?_⟩
      · rw [hmade]
        dsimp only
        omega
      · rcases Nat.lt_succ_iff_lt_or_eq.mp hk with hlt | rfl
        · exact hblock.short k hlt hk'
        · omega
    · split
      · refine ⟨h.count, ‹_›, fun j hj => ?_, hblock.next h.count ‹_›⟩
        rcases Nat.lt_succ_iff_lt_or_eq.mp hj with hlt | rfl
        · exact h.opens j hlt
        · exact hblock.opens
      · exact ⟨h.count, h.le, h.opens, hblock.not_ends (by have := h.le; omega) h.opens⟩
  · rwa [splitStep, hpc]
  · rwa [splitStep, hpc]

/-! ## When it stops -/

/-- Where `split` stops there is a read that it does not get to. -/
theorem exists_bound (h : o.Ends B) : ∃ K, ∀ s, SplitInv o B s → s.pc = .block →
    (s.thisTimesRead : Int) < B → s.readCount < o.oriSize → s.made < K := by
  rcases h with ⟨⟨K, hK⟩, -⟩ | ⟨j, -, -, hopen, K, hK, -⟩
  · refine ⟨K, fun s hs _ _ hmore => SplitReads.lt_of_total_lt (o := o) ?_⟩
    have hcount := hs.count
    omega
  · refine ⟨K, fun s hs hpc hB _ => SplitReads.lt_of_total_lt (o := o) ?_⟩
    obtain ⟨k₀, hblock⟩ : SplitOk o B s .block := hpc ▸ hs.ok
    have hi : s.i < j := by
      rcases Nat.lt_trichotomy s.i j with hlt | rfl | hgt
      · exact hlt
      · exact absurd hblock.opens (by simp [hopen])
      · exact absurd (hs.opens j hgt) (by simp [hopen])
    obtain ⟨l, -, hl, hle⟩ := hK.of_le (Nat.succ_le_of_lt hi)
    have hmono : o.total k₀ ≤ o.total l := SplitReads.total_mono (hblock.least l hl)
    have hread := hblock.read
    omega

/-- The loops have been left. -/
def SplitHalted (s : SplitState) : Prop := s.pc = .finished ∨ s.pc = .undefined

/-- What every step in the loops moves. -/
def splitCount (s : SplitState) : ℕ := 2 * s.i + s.made + if s.pc = .block then 1 else 0

theorem splitCount_lt {K : ℕ} (hmade : s.made ≤ K) (hh : ¬ SplitHalted s)
    (hK : s.pc = .block → (s.thisTimesRead : Int) < B → s.readCount < o.oriSize → s.made < K) :
    (splitStep o tmppath B s).made ≤ K ∧
      (SplitHalted (splitStep o tmppath B s) ∨
        splitCount s < splitCount (splitStep o tmppath B s)) := by
  rcases hpc : s.pc
  · rw [splitStep, hpc]
    dsimp only
    split
    · split
      · exact ⟨hmade, .inr (by simp [splitCount, hpc])⟩
      · exact ⟨hmade, .inl (.inl rfl)⟩
    · exact ⟨hmade, .inl (.inl rfl)⟩
  · rw [splitStep, hpc]
    dsimp only
    split
    · obtain ⟨hB, hmore⟩ := ‹(s.thisTimesRead : Int) < B ∧ s.readCount < o.oriSize›
      exact ⟨hK hpc hB hmore, .inr (by simp [splitCount, hpc])⟩
    · split
      · exact ⟨hmade, .inr (by simp only [splitCount, hpc, if_pos]; simp; omega)⟩
      · exact ⟨hmade, .inl (.inr rfl)⟩
  · exact absurd (.inl hpc) hh
  · exact absurd (.inr hpc) hh

/-- **`split` stops exactly then.** -/
theorem splitEnds_iff (o : SplitReads) (fs : FileSystem) (blockSize : Int) (tmppath : String) :
    SplitEnds o fs blockSize tmppath ↔ o.Ends (blockSize * 1024) := by
  constructor
  · rintro ⟨s, hreach, hpc⟩
    exact (hpc ▸ (hreach.invariant (fun _ => splitInv_step) (splitInv_init fs)).ok :
      SplitOk o _ s .finished)
  intro h
  obtain ⟨K, hK⟩ := exists_bound h
  obtain ⟨s, hreach, hhalt⟩ : ∃ s, Reaches (splitStep o tmppath (blockSize * 1024))
    (splitInit fs) s ∧
      SplitHalted s := by
    refine exists_halted (fun s => SplitInv o (blockSize * 1024) s ∧ s.made ≤ K) _ splitCount
      (2 * intMax + K + 1) (fun s hs hh => ?_) (fun s hs => ?_) ⟨splitInv_init fs, Nat.zero_le K⟩
    · obtain ⟨hmade, hcount⟩ := splitCount_lt hs.2 hh (hK s hs.1)
      exact ⟨⟨splitInv_step hs.1, hmade⟩, hcount⟩
    · have hi := hs.1.le
      have hmade := hs.2
      rw [splitCount]
      split <;> omega
  refine ⟨s, hreach, hhalt.resolve_right fun hpc => ?_⟩
  exact (hpc ▸ (hreach.invariant (fun _ => splitInv_step) (splitInv_init fs)).ok :
    SplitOk o _ s .undefined) h

/-! ## The reads of a file -/

/-- What `split` gets of a file that stays as it is, with block files that open. -/
def SplitReads.ofFile (content : Bytes) : SplitReads where
  oriSize := content.length
  reads k := (content.drop (k * 1024)).take 1024
  opens _ := true

variable {src : FsPath} {content : Bytes} {fs fs' : FileSystem}

/-- **One block** of such a file. -/
theorem reaches_of_splitBlock {i b : ℕ} (hne : src ≠ blockPath tmppath i) :
    ∀ (fs : FileSystem) (t readCount made readCount' : ℕ), fs.files src = some content →
      readCount = min (made * 1024) content.length →
      splitBlock src (blockPath tmppath i) b content.length fs t readCount =
        some (fs', readCount') →
      ∃ t' made', Reaches (splitStep (.ofFile content) tmppath b)
          ⟨.block, i, t, readCount, made, fs⟩ ⟨.block, i, t', readCount', made', fs'⟩ ∧
        fs'.files src = some content ∧ readCount' = min (made' * 1024) content.length ∧
        ¬ ((t' : Int) < b ∧ readCount' < content.length) := by
  intro fs t readCount
  fun_induction splitBlock src (blockPath tmppath i) b content.length fs t readCount with
  | case1 fs t readCount hmore buff hbuff ih =>
    intro made readCount' hsrc hcount hrun
    have hread : buff = (content.drop (made * 1024)).take 1024 := by
      rw [show buff = fs.readAt src readCount 1024 from rfl, FileSystem.readAt_of_files _ hsrc]
      congr 2
      omega
    have hlen : buff.length = min 1024 (content.length - made * 1024) := by
      rw [hread, List.length_take, List.length_drop]
    obtain ⟨t', made', hreach, hend⟩ := ih (made + 1) readCount'
      (by rw [FileSystem.append, FileSystem.files_write_of_ne _ _ hne, hsrc]) (by omega) hrun
    refine ⟨t', made', .head ?_, hend⟩
    have hstep : splitStep (.ofFile content) tmppath b ⟨.block, i, t, readCount, made, fs⟩ =
        ⟨.block, i, t + buff.length, readCount + buff.length, made + 1,
          fs.append (blockPath tmppath i) buff⟩ := by
      rw [splitStep, hread]
      exact if_pos ⟨by exact_mod_cast hmore.1, hmore.2⟩
    rwa [hstep]
  | case2 fs t readCount hmore buff hbuff => exact fun _ _ _ _ hrun => absurd hrun (by simp)
  | case3 fs t readCount hmore =>
    intro made readCount' hsrc hcount hrun
    obtain ⟨rfl, rfl⟩ := Prod.mk.inj (Option.some.inj hrun)
    exact ⟨t, made, .refl _, hsrc, hcount, by omega⟩

/-- …and all of them. -/
theorem reaches_of_splitLoop {b : ℕ} (hne : ∀ i, src ≠ blockPath tmppath i) :
    ∀ (fs : FileSystem) (readCount i t made : ℕ), fs.files src = some content →
      readCount = min (made * 1024) content.length →
      splitLoop src tmppath b content.length fs readCount i = some fs' →
      ∃ s, Reaches (splitStep (.ofFile content) tmppath b)
          ⟨.loop, i, t, readCount, made, fs⟩ s ∧ s.pc = .finished ∧ s.fs = fs' := by
  intro fs readCount i
  fun_induction splitLoop src tmppath b content.length fs readCount i with
  | case1 fs readCount i hmore divfile hblock => exact fun _ _ _ _ hrun => absurd hrun (by simp)
  | case2 fs readCount i hmore divfile fs₁ readCount₁ hblock hi ih =>
    intro t made hsrc hcount hrun
    have hdiv : divfile = blockPath tmppath i := rfl
    rw [hdiv] at hblock
    have hsrc' : (fs.write (blockPath tmppath i) []).files src = some content := by
      rw [FileSystem.files_write_of_ne _ _ (hne i), hsrc]
    obtain ⟨t', made', hreach, hsrc₁, hcount₁, hend⟩ :=
      reaches_of_splitBlock (hne i) _ _ _ made _ hsrc' hcount hblock
    have hopen : splitStep (.ofFile content) tmppath b ⟨.loop, i, t, readCount, made, fs⟩ =
        ⟨.block, i, 0, readCount, made, fs.write (blockPath tmppath i) []⟩ := by
      rw [splitStep]
      exact if_pos hmore
    have hnext : splitStep (.ofFile content) tmppath b ⟨.block, i, t', readCount₁, made', fs₁⟩ =
        ⟨.loop, i + 1, t', readCount₁, made', fs₁⟩ := by
      rw [splitStep]
      exact (if_neg hend).trans (if_pos hi)
    obtain ⟨s, hrest, hs⟩ := ih t' made' hsrc₁ hcount₁ hrun
    exact ⟨s, .head (hopen ▸ hreach.trans (.head (hnext ▸ hrest))), hs⟩
  | case3 fs readCount i hmore divfile fs₁ readCount₁ hblock hi =>
    exact fun _ _ _ _ hrun => absurd hrun (by simp)
  | case4 fs readCount i hmore =>
    rintro t made - - hrun
    obtain rfl := Option.some.inj hrun
    refine ⟨_, .head (.refl _), ?_⟩
    have hstep : splitStep (.ofFile content) tmppath b ⟨.loop, i, t, readCount, made, fs⟩ =
        ⟨.finished, i, t, readCount, made, fs⟩ := if_neg hmore
    rw [hstep]
    exact ⟨rfl, rfl⟩

/-- **On such a file this is `split`.** -/
theorem reaches_of_split {filepath : String} {kb : ℕ}
    (hne : ∀ i, ofString filepath ≠ blockPath tmppath i)
    (hsrc : fs.files (ofString filepath) = some content)
    (hrun : split fs filepath kb tmppath = some fs') :
    ∃ s, Reaches (splitStep (.ofFile content) tmppath (kb * 1024)) (splitInit fs) s ∧
      s.pc = .finished ∧ s.fs = fs' := by
  rw [split, getFileLength, hsrc] at hrun
  dsimp only at hrun
  rw [if_neg (by omega), Int.toNat_natCast] at hrun
  exact_mod_cast reaches_of_splitLoop hne fs 0 0 0 0 hsrc (by simp) hrun

end FileSplit

end Sadip

import Sadip.Snowflake

/-!
# Snowflake/Clock — `getNewstmp` on its two platforms

An instant is a number of 100 ns ticks since the Unix epoch, the finer of the two system clocks.
`getNewstmp` reads it through `FILETIME` on Windows and through `timeval` elsewhere.  The second
branch counts milliseconds (`toNat_getNewstmp_posix`), the unit of `startStmp` and of the layout.
The first stops at microseconds (`toNat_getNewstmp_windows`), a thousand times too many: at every
instant of the period the shift of `nextId` pushes bits out of the word
(`noBitLost_iff`), and ids wrap around every fifty days.
-/

namespace Sadip

namespace SnowFlake

/-! ## The two system clocks -/

/-- The branches of the `#ifdef _WIN32`. -/
inductive Platform where
  | windows
  | posix
  deriving DecidableEq

/-- The Windows clock: ticks since 1601, in two halves. -/
structure FileTime where
  dwLowDateTime : UInt32
  dwHighDateTime : UInt32

structure Timeval where
  tv_sec : Int64
  tv_usec : Int64

/-- The ticks from 1601 to 1970. -/
def ticksTo1970 : ℕ := 116444736000000000

def getSystemTimeAsFileTime (instant : ℕ) : FileTime where
  dwLowDateTime := UInt32.ofNat (instant + ticksTo1970)
  dwHighDateTime := UInt32.ofNat ((instant + ticksTo1970) / 2 ^ 32)

def gettimeofday (instant : ℕ) : Timeval where
  tv_sec := Int64.ofNat (instant / 10 ^ 7)
  tv_usec := Int64.ofNat (instant % 10 ^ 7 / 10)

/-- `getNewstmp` at an instant. -/
def getNewstmp : Platform → ℕ → UInt64
  | .windows, instant =>
      let ft := getSystemTimeAsFileTime instant
      let quadPart := ft.dwHighDateTime.toUInt64 <<< 32 ||| ft.dwLowDateTime.toUInt64
      quadPart / 10 - 11644473600000000
  | .posix, instant =>
      let tv := gettimeofday instant
      tv.tv_usec.toUInt64 / 1000 + (tv.tv_sec * 1000).toUInt64

/-! ## What the branches count -/

/-- From `startStmp` to the end of 2080. -/
def InYears (instant : ℕ) : Prop :=
  startStmp.toNat * 10 ^ 4 ≤ instant ∧ instant < 3502915200 * 10 ^ 7
  deriving Decidable

theorem toNat_startStmp : startStmp.toNat = 1480166465631 := rfl

/-- The two halves of a `FILETIME` make up the tick count again. -/
theorem toNat_quadPart {instant : ℕ} (h : instant + ticksTo1970 < 2 ^ 64) :
    ((getSystemTimeAsFileTime instant).dwHighDateTime.toUInt64 <<< 32
        ||| (getSystemTimeAsFileTime instant).dwLowDateTime.toUInt64).toNat
      = instant + ticksTo1970 := by
  set q := instant + ticksTo1970 with hq
  have hlow : (getSystemTimeAsFileTime instant).dwLowDateTime.toUInt64.toNat = q % 2 ^ 32 := by
    rw [UInt32.toNat_toUInt64, getSystemTimeAsFileTime, UInt32.toNat_ofNat']
  have hhigh : (getSystemTimeAsFileTime instant).dwHighDateTime.toUInt64.toNat
      = q / 2 ^ 32 % 2 ^ 32 := by
    rw [UInt32.toNat_toUInt64, getSystemTimeAsFileTime, UInt32.toNat_ofNat']
  rw [UInt64.toNat_or, UInt64.toNat_shiftLeft, hlow, hhigh, show (32 : UInt64).toNat % 64 = 32
    from rfl, Nat.mod_eq_of_lt (b := 2 ^ 64) (by rw [Nat.shiftLeft_eq]; omega),
    ← Nat.shiftLeft_add_eq_or_of_lt (by omega), Nat.shiftLeft_eq]
  omega

/-- The Windows branch counts microseconds. -/
theorem toNat_getNewstmp_windows {instant : ℕ} (h : InYears instant) :
    (getNewstmp .windows instant).toNat = instant / 10 := by
  obtain ⟨-, hhi⟩ := h
  have hfits : instant + ticksTo1970 < 2 ^ 64 := by
    rw [ticksTo1970]
    omega
  have hquad := toNat_quadPart hfits
  have hdiv := congrArg (· / 10) hquad
  rw [ticksTo1970] at hdiv
  rw [getNewstmp, UInt64.toNat_sub_of_le, UInt64.toNat_div]
  · simp only [UInt64.reduceToNat] at hdiv ⊢
    omega
  · rw [UInt64.le_iff_toNat_le, UInt64.toNat_div]
    simp only [UInt64.reduceToNat] at hdiv ⊢
    omega

/-- The other branch counts milliseconds. -/
theorem toNat_getNewstmp_posix {instant : ℕ} (h : InYears instant) :
    (getNewstmp .posix instant).toNat = instant / 10 ^ 4 := by
  obtain ⟨-, hhi⟩ := h
  have husec : (gettimeofday instant).tv_usec.toUInt64.toNat = instant % 10 ^ 7 / 10 := by
    rw [gettimeofday, Int64.toUInt64_ofNat', UInt64.toNat_ofNat']
    omega
  have hsec : ((gettimeofday instant).tv_sec * 1000).toUInt64.toNat = instant / 10 ^ 7 * 1000 := by
    rw [gettimeofday, Int64.toUInt64_mul, Int64.toUInt64_ofNat', UInt64.toNat_mul,
      UInt64.toNat_ofNat', show (1000 : Int64).toUInt64.toNat = 1000 from rfl]
    omega
  rw [getNewstmp, UInt64.toNat_add, UInt64.toNat_div, husec, hsec,
    show (1000 : UInt64).toNat = 1000 from rfl]
  omega

/-! ## What the shift keeps -/

/-- The reading is not before `startStmp`, and the shift of `nextId` drops no bit of it. -/
def NoBitLost (currStmp : UInt64) : Prop :=
  startStmp ≤ currStmp ∧
    ((currStmp - startStmp) <<< timestmpLeft).toNat = (currStmp - startStmp).toNat * 2 ^ 22

theorem noBitLost_iff_inWindow (t : UInt64) : NoBitLost t ↔ InWindow t := by
  have hshift : ((t - startStmp) <<< timestmpLeft).toNat
      = (t - startStmp).toNat * 2 ^ 22 % 2 ^ 64 := by
    rw [UInt64.toNat_shiftLeft, show timestmpLeft.toNat % 64 = 22 from rfl, Nat.shiftLeft_eq]
  rw [NoBitLost, InWindow, hshift, UInt64.le_iff_toNat_le, and_congr_right_iff]
  intro hlo
  rw [toNat_sub_startStmp hlo]
  omega

theorem inWindow_posix {instant : ℕ} (h : InYears instant) :
    InWindow (getNewstmp .posix instant) := by
  have hlo := h.1
  have hhi := h.2
  rw [toNat_startStmp] at hlo
  rw [InWindow, toNat_getNewstmp_posix h, toNat_startStmp]
  omega

theorem not_inWindow_windows {instant : ℕ} (h : InYears instant) :
    ¬ InWindow (getNewstmp .windows instant) := by
  have hlo := h.1
  have hhi := h.2
  rw [toNat_startStmp] at hlo
  rw [InWindow, toNat_getNewstmp_windows h, toNat_startStmp]
  omega

/-- **At every instant of the period, bits are lost on Windows and only there.** -/
theorem noBitLost_iff {instant : ℕ} (h : InYears instant) (platform : Platform) :
    NoBitLost (getNewstmp platform instant) ↔ platform = .posix := by
  rw [noBitLost_iff_inWindow]
  cases platform with
  | windows => exact iff_of_false (not_inWindow_windows h) (by decide)
  | posix => exact iff_of_true (inWindow_posix h) rfl

/-- **Off Windows, the ids of a run increase with the instants** of the whole period. -/
theorem run_posix_pairwise_lt (g : SnowFlake) {instants : List ℕ}
    (hmono : instants.Pairwise (· ≤ ·)) (hyears : ∀ instant ∈ instants, InYears instant)
    (calls : ℕ) :
    (run calls g (instants.map (getNewstmp .posix))).Pairwise (· < ·) := by
  refine (run_pairwise_and_lt calls g _ ?_ ?_).1
  · rw [List.pairwise_map]
    apply hmono.imp_of_mem
    intro a b ha hb hab
    rw [UInt64.le_iff_toNat_le, toNat_getNewstmp_posix (hyears a ha),
      toNat_getNewstmp_posix (hyears b hb)]
    exact Nat.div_le_div_right hab
  · intro t ht
    obtain ⟨instant, hmem, rfl⟩ := List.mem_map.mp ht
    exact inWindow_posix (hyears instant hmem)

/-- On Windows they do not: here the microseconds since `startStmp` reach a multiple of `2 ^ 42`
between two instants a millisecond apart. -/
theorem not_run_windows_pairwise_lt :
    ¬ (run 2 ⟨1, 1, 0, 0, by decide, by decide, by decide⟩
      ([17606987709072300, 17606987709082300].map (getNewstmp .windows))).Pairwise (· < ·) := by
  decide

/-- **The clock fits the layout exactly off Windows**: at each instant of the period, no bit is lost
if and only if the generator was built for the other platform; and so do the ids of every run over
the period increase. -/
theorem clock_fits_iff_posix (platform : Platform) :
    (∀ instant, InYears instant →
      (NoBitLost (getNewstmp platform instant) ↔ platform = .posix)) ∧
    ((∀ (g : SnowFlake) (instants : List ℕ), instants.Pairwise (· ≤ ·) →
        (∀ instant ∈ instants, InYears instant) → ∀ calls,
          (run calls g (instants.map (getNewstmp platform))).Pairwise (· < ·)) ↔
      platform = .posix) := by
  refine ⟨fun instant h => noBitLost_iff h platform, fun h => ?_, ?_⟩
  · cases platform with
    | windows =>
      exact absurd (h _ _ (by decide) (by simp only [List.forall_mem_cons]; decide) 2)
        not_run_windows_pairwise_lt
    | posix => rfl
  · rintro rfl g instants hmono hyears calls
    exact run_posix_pairwise_lt g hmono hyears calls

/-- The first instant of the period: the clocks agree on it, and only one fits. -/
theorem clock_fits_iff_posix_start :
    NoBitLost (getNewstmp .posix 14801664656310000) ∧
      ¬ NoBitLost (getNewstmp .windows 14801664656310000) :=
  ⟨((clock_fits_iff_posix .posix).1 _ (by decide)).mpr rfl,
    fun h => absurd (((clock_fits_iff_posix .windows).1 _ (by decide)).mp h) (by decide)⟩

/-- A Windows clock in October 2025: the reading loses bits, and of two instants a millisecond apart
the later one has the smaller id. -/
theorem clock_loses_bits_on_windows :
    InYears 17606987709072300 ∧ InYears 17606987709082300 ∧
      ¬ NoBitLost (getNewstmp .windows 17606987709072300) ∧
      ∃ id id', run 2 ⟨1, 1, 0, 0, by decide, by decide, by decide⟩
        ([17606987709072300, 17606987709082300].map (getNewstmp .windows)) = [id, id'] ∧ id' < id :=
  ⟨by decide, by decide, by rw [noBitLost_iff (by decide)]; decide, _, _, rfl, by decide⟩

end SnowFlake

end Sadip

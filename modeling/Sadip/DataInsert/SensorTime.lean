import Mathlib.Data.Int.DivMod
import Sadip.Machinery.Calendar
import Sadip.Machinery.Printf.Padded

/-!
# DataInsert/SensorTime — the times of `cameraInsert` and `radarInsert`

Both functions print their times with one format, from the broken-down time that `gettm` makes of a
number of milliseconds.  On its way there the number is made one of nanoseconds, which has no
defined result some 292 years before and after 1970.  In between the text is that of the instant in
UTC+8 if the instant is not before 1970 or on a whole second (`denotes_formatTime_iff`): earlier,
the remainder is negative, and is printed with its sign.  A year of four digits makes 26 characters,
and the buffers have 25 (`overflows`).
-/

namespace Sadip

namespace DataInsert

/-! ## `gettm` -/

/-- `std::tm` -/
structure Tm where
  (tm_year tm_mon tm_mday tm_hour tm_min tm_sec : ℤ)

/-- The day number of 1970-01-01. -/
def epoch : ℤ := 719162

/-- `std::gmtime` of POSIX, for seconds before 1970 too. -/
def gmtime (tt : ℤ) : Tm :=
  let date := Calendar.ofOrdinal (tt / 86400 + epoch)
  { tm_year := date.year - 1900
    tm_mon := date.month
    tm_mday := date.day + 1
    tm_hour := tt % 86400 / 3600
    tm_min := tt % 3600 / 60
    tm_sec := tt % 60 }

/-- A result of signed 64-bit arithmetic; what overflows has none. -/
def int64? (n : ℤ) : Option ℤ := if -2 ^ 63 ≤ n ∧ n < 2 ^ 63 then some n else none

/-- The argument of `to_time_t` is a time of `system_clock`, in nanoseconds; the result is rounded
towards zero. -/
def gettm (timestamp : Int64) : Option Tm := do
  let milli ← int64? (timestamp.toInt + 8 * 60 * 60 * 1000)
  let tp ← int64? (milli * 10 ^ 6)
  pure (gmtime (tp.tdiv (10 ^ 9)))

/-! ## The texts -/

/-- `"%d-%02d-%02d %02d:%02d:%02d.%06d"` -/
def sprintfTime (tm : Tm) (ms : Int32) : List Char :=
  Printf.decimal (tm.tm_year + 1900) ++ '-' :: Printf.padded 2 (tm.tm_mon + 1) ++
    '-' :: Printf.padded 2 tm.tm_mday ++ ' ' :: Printf.padded 2 tm.tm_hour ++
    ':' :: Printf.padded 2 tm.tm_min ++ ':' :: Printf.padded 2 tm.tm_sec ++
    '.' :: Printf.padded 6 ms.toInt

/-- A time of the message, and what is printed for it, if that is defined, into a buffer of 25
characters. -/
structure TimeText where
  timestamp : Int64
  text : Option (List Char)

def formatTime (timestamp : Int64) : TimeText where
  timestamp := timestamp
  text := (gettm timestamp).map (sprintfTime · (timestamp % 1000 * 1000).toInt32)

/-- The times of a `CameraPathList` or a `RadarDevPathList`. -/
structure PathList where
  (dataTime processTime commRcvTime : Int64)

structure MultiPathDatas where
  sendTime : Int64
  (lidarPathList cameraPathList : List PathList)

/-- The times that `cameraInsert` prints. -/
def cameraInsert (cameraData : MultiPathDatas) : List TimeText :=
  formatTime cameraData.sendTime :: cameraData.cameraPathList.flatMap fun path =>
    [formatTime path.processTime, formatTime path.commRcvTime, formatTime path.dataTime]

/-- The times that `radarInsert` prints. -/
def radarInsert (radarData : MultiPathDatas) : List TimeText :=
  formatTime radarData.sendTime :: radarData.lidarPathList.flatMap fun path =>
    [formatTime path.dataTime, formatTime path.processTime, formatTime path.commRcvTime]

/-! ## Civil time in UTC+8 -/

structure Civil where
  date : Calendar.Date
  (hour minute second milli : ℕ)
  hour_lt : hour < 24
  minute_lt : minute < 60
  second_lt : second < 60
  milli_lt : milli < 1000

namespace Civil

/-- The instant, in milliseconds since 1970 in UTC. -/
def instant (c : Civil) : ℤ :=
  (((c.date.ordinal - epoch) * 24 + c.hour - 8) * 3600 + c.minute * 60 + c.second) * 1000 + c.milli

/-- The time that a clock in UTC+8 shows after so many milliseconds of the year 1970. -/
def ofLocal (l : ℤ) : Civil where
  date := Calendar.ofOrdinal (l / 1000 / 86400 + epoch)
  hour := (l / 1000 % 86400 / 3600).toNat
  minute := (l / 1000 % 3600 / 60).toNat
  second := (l / 1000 % 60).toNat
  milli := (l % 1000).toNat
  hour_lt := by omega
  minute_lt := by omega
  second_lt := by omega
  milli_lt := by omega

def ofInstant (t : ℤ) : Civil := ofLocal (t + 28800000)

/-- **The clock shows the instant.** -/
theorem instant_ofInstant (t : ℤ) : (ofInstant t).instant = t := by
  rw [instant]
  simp only [ofInstant, ofLocal, Calendar.ordinal_ofOrdinal, epoch]
  omega

/-- Year, month, day, hour, minute and second. -/
def dateTime (c : Civil) : List Char :=
  Printf.digits 4 c.date.year.toNat ++ '-' :: Printf.digits 2 (c.date.month + 1) ++
    '-' :: Printf.digits 2 (c.date.day + 1) ++ ' ' :: Printf.digits 2 c.hour ++
    ':' :: Printf.digits 2 c.minute ++ ':' :: Printf.digits 2 c.second

@[simp]
theorem length_dateTime (c : Civil) : c.dateTime.length = 19 := by
  simp only [dateTime, List.length_append, List.length_cons, Printf.length_digits]

/-- The milliseconds do not show. -/
theorem dateTime_ofLocal_congr {l l' : ℤ} (h : l / 1000 = l' / 1000) :
    (ofLocal l).dateTime = (ofLocal l').dateTime := by
  simp only [dateTime, ofLocal, h]

/-- With the milliseconds as microseconds. -/
def text (c : Civil) : List Char := c.dateTime ++ '.' :: Printf.digits 6 (c.milli * 1000)

end Civil

/-- The year in UTC+8 has four digits. -/
def FourDigitYear (timestamp : Int64) : Prop :=
  1000 ≤ (Civil.ofInstant timestamp.toInt).date.year ∧
    (Civil.ofInstant timestamp.toInt).date.year ≤ 9999

instance (timestamp : Int64) : Decidable (FourDigitYear timestamp) :=
  inferInstanceAs (Decidable (_ ∧ _))

/-- The clock of the system can count to the instant, in nanoseconds of UTC+8. -/
def Countable (timestamp : Int64) : Prop :=
  -2 ^ 63 ≤ (timestamp.toInt + 28800000) * 10 ^ 6 ∧ (timestamp.toInt + 28800000) * 10 ^ 6 < 2 ^ 63

namespace TimeText

/-- The text is that of the instant. -/
def Denotes (f : TimeText) : Prop :=
  ∃ c : Civil, c.instant = f.timestamp.toInt ∧ f.text = some c.text

/-- With its terminator. -/
def FitsBuffer (f : TimeText) : Prop := ∃ text ∈ f.text, text.length + 1 ≤ 25

end TimeText

/-! ## What is printed -/

theorem year_ofLocal_iff {l : ℤ} :
    1000 ≤ (Civil.ofLocal l).date.year ∧ (Civil.ofLocal l).date.year ≤ 9999 ↔
      -30610224000000 ≤ l ∧ l < 253402300800000 := by
  have hlow := Calendar.le_yearOf_iff (y := 1000) (n := l / 1000 / 86400 + epoch)
  have hhigh := Calendar.le_yearOf_iff (y := 10000) (n := l / 1000 / 86400 + epoch)
  rw [show Calendar.daysBefore 1000 = 364877 by decide] at hlow
  rw [show Calendar.daysBefore 10000 = 3652059 by decide] at hhigh
  simp only [Civil.ofLocal, Calendar.ofOrdinal, epoch] at hlow hhigh ⊢
  omega

variable {t : Int64}

/-- The seconds that `gettm` counts. -/
theorem gettm_eq (h : Countable t) :
    gettm t = some (gmtime ((t.toInt + 28800000).tdiv 1000)) := by
  obtain ⟨hlow, hhigh⟩ := h
  have hmilli : int64? (t.toInt + 8 * 60 * 60 * 1000) = some (t.toInt + 28800000) :=
    if_pos ⟨by omega, by omega⟩
  have htp : int64? ((t.toInt + 28800000) * 10 ^ 6) = some ((t.toInt + 28800000) * 10 ^ 6) :=
    if_pos ⟨hlow, hhigh⟩
  have hdiv : ((t.toInt + 28800000) * 10 ^ 6).tdiv (10 ^ 9) = (t.toInt + 28800000).tdiv 1000 :=
    Int.mul_tdiv_mul_of_pos_left (t.toInt + 28800000) (c := 1000) (by decide : (0 : ℤ) < 10 ^ 6)
  rw [gettm, hmilli, Option.bind_eq_bind, Option.bind_some, htp, Option.bind_some, hdiv]
  rfl

theorem countable_of_gettm {tm : Tm} (h : gettm t = some tm) : Countable t := by
  obtain ⟨milli, hmilli, h⟩ := Option.bind_eq_some_iff.mp h
  obtain ⟨tp, htp, -⟩ := Option.bind_eq_some_iff.mp h
  obtain rfl := Option.some.inj (Option.ite_none_right_eq_some.mp hmilli).2
  exact (Option.ite_none_right_eq_some.mp htp).1

/-- **The broken-down time is printed as the clock shows it.** -/
theorem sprintfTime_gmtime {l : ℤ} (ms : Int32)
    (hlow : 1000 ≤ (Civil.ofLocal l).date.year) (hhigh : (Civil.ofLocal l).date.year ≤ 9999) :
    sprintfTime (gmtime (l / 1000)) ms =
      (Civil.ofLocal l).dateTime ++ '.' :: Printf.padded 6 ms.toInt := by
  set s := l / 1000 with hs
  set date := Calendar.ofOrdinal (s / 86400 + epoch) with hdate
  have hmonth := date.month_lt
  have hday := date.day_lt
  have hyear : Printf.decimal (date.year - 1900 + 1900) = Printf.digits 4 date.year.toNat := by
    rw [Int.sub_add_cancel]
    exact Printf.decimal_eq_digits hlow (Int.lt_add_one_of_le hhigh)
  have htwo : ∀ v : ℤ, 0 ≤ v → v < 100 → Printf.padded 2 v = Printf.digits 2 v.toNat :=
    fun v h0 h100 => Printf.padded_eq_digits (by decide) h0 h100
  simp only [sprintfTime, gmtime, Civil.dateTime, Civil.ofLocal, ← hs, ← hdate, hyear]
  rw [htwo _ (by omega) (by omega), htwo _ (by omega) (by omega), htwo _ (by omega) (by omega),
    htwo _ (by omega) (by omega), htwo _ (by omega) (by omega)]
  rfl

theorem toInt_fraction (t : Int64) :
    (t % 1000 * 1000).toInt32.toInt = t.toInt.tmod 1000 * 1000 := by
  have hmod : (t % 1000).toInt = t.toInt.tmod 1000 := Int64.toInt_mod t 1000
  have hlow : -1000 < t.toInt.tmod 1000 := by
    rw [Int.tmod_eq_emod]
    split <;> omega
  have hhigh : t.toInt.tmod 1000 < 1000 := Int.tmod_lt_of_pos _ (by decide)
  rw [Int64.toInt_toInt32, Int64.toInt_mul, hmod, show (1000 : Int64).toInt = 1000 from rfl,
    Int.bmod_eq_of_le (m := 2 ^ 64) (by omega) (by omega), Int.bmod_eq_of_le (by omega) (by omega)]

/-- The seconds are those of an instant rounded towards 1970, the fraction has the sign of the
number. -/
theorem text_formatTime (h : FourDigitYear t) (hcount : Countable t) : (formatTime t).text = some
    ((Civil.ofLocal ((t.toInt + 28800000).tdiv 1000 * 1000)).dateTime ++
      '.' :: Printf.padded 6 (t.toInt.tmod 1000 * 1000)) := by
  obtain ⟨hlow, hhigh⟩ := year_ofLocal_iff.mp h
  obtain ⟨hlow', hhigh'⟩ := year_ofLocal_iff.mpr
    (show _ ∧ (t.toInt + 28800000).tdiv 1000 * 1000 < 253402300800000 by
      rw [Int.tdiv_eq_ediv]
      split
      · exact ⟨by omega, by omega⟩
      · rw [show Int.sign 1000 = 1 from rfl]
        exact ⟨by omega, by omega⟩)
  rw [formatTime, gettm_eq hcount, ← toInt_fraction, ← sprintfTime_gmtime _ hlow' hhigh',
    Int.mul_ediv_cancel _ (by decide)]
  rfl

theorem countable_of_text {text : List Char} (h : (formatTime t).text = some text) :
    Countable t := by
  obtain ⟨tm, htm, -⟩ := Option.map_eq_some_iff.mp h
  exact countable_of_gettm htm

theorem le_length_formatTime (h : FourDigitYear t) {text : List Char}
    (htext : (formatTime t).text = some text) : 26 ≤ text.length := by
  have hfraction := Printf.le_length_padded 6 (t.toInt.tmod 1000 * 1000)
  rw [text_formatTime h (countable_of_text htext)] at htext
  rw [← Option.some.inj htext, List.length_append, Civil.length_dateTime, List.length_cons]
  omega

/-- **The text is that of the instant**, if the clock can count to it, from 1970 on and on whole
seconds. -/
theorem denotes_formatTime_iff (h : FourDigitYear t) :
    (formatTime t).Denotes ↔ Countable t ∧ (0 ≤ t.toInt ∨ 1000 ∣ t.toInt) := by
  constructor
  · rintro ⟨c, -, htext⟩
    have hcount := countable_of_text htext
    refine ⟨hcount, Decidable.byContradiction fun hneg => ?_⟩
    have hfraction : t.toInt.tmod 1000 * 1000 < 0 := by
      rw [Int.tmod_eq_emod, if_neg hneg]
      omega
    rw [text_formatTime h hcount] at htext
    obtain ⟨-, htail⟩ := List.append_inj (Option.some.inj htext) (by simp)
    exact Printf.padded_ne_digits hfraction (List.cons.inj htail).2
  · rintro ⟨hcount, hnonneg⟩
    have hseconds : (t.toInt + 28800000).tdiv 1000 = (t.toInt + 28800000) / 1000 := by
      rw [Int.tdiv_eq_ediv, if_pos (by omega), Int.add_zero]
    have hfraction : t.toInt.tmod 1000 = (t.toInt + 28800000) % 1000 := by
      rw [Int.tmod_eq_emod, if_pos hnonneg]
      omega
    refine ⟨Civil.ofInstant t.toInt, Civil.instant_ofInstant _, ?_⟩
    rw [text_formatTime h hcount, hseconds, hfraction, Civil.text, Civil.ofInstant,
      Civil.dateTime_ofLocal_congr (Int.mul_ediv_cancel _ (by decide)),
      Printf.padded_eq_digits (by decide) (by omega) (by omega)]
    congr 4
    simp only [Civil.ofLocal]
    omega

/-! ## The buffers -/

theorem eq_formatTime_of_mem {data : MultiPathDatas} {f : TimeText}
    (hf : f ∈ cameraInsert data ++ radarInsert data) : f = formatTime f.timestamp := by
  rw [List.mem_append, cameraInsert, radarInsert] at hf
  simp only [List.mem_cons, List.mem_flatMap, List.not_mem_nil, or_false] at hf
  rcases hf with (rfl | ⟨path, -, rfl | rfl | rfl⟩) | (rfl | ⟨path, -, rfl | rfl | rfl⟩) <;> rfl

/-- **No time of a year of four digits fits its buffer**, whatever its text says. -/
theorem overflows (data : MultiPathDatas) (f : TimeText)
    (hf : f ∈ cameraInsert data ++ radarInsert data) (h : FourDigitYear f.timestamp) :
    ¬ (f.Denotes ∧ f.FitsBuffer) := by
  rintro ⟨-, text, htext, hfits⟩
  rw [eq_formatTime_of_mem hf] at htext
  have hlength := le_length_formatTime h htext
  omega

/-- One message with a time in 2023. -/
def in2023 : MultiPathDatas where
  sendTime := 1700000000123
  lidarPathList := []
  cameraPathList := []

theorem overflows_in2023 : ¬ ((formatTime 1700000000123).Denotes ∧
    (formatTime 1700000000123).FitsBuffer) :=
  overflows in2023 _ List.mem_cons_self (by decide)

/-- **The text of the instant has no room.** -/
theorem not_fits_in2023 : ¬ ∀ f ∈ cameraInsert in2023, FourDigitYear f.timestamp →
    f.Denotes ∧ f.FitsBuffer := by
  intro h
  obtain ⟨text, htext, hfits⟩ := (h _ List.mem_cons_self (by decide)).2
  have hlength := le_length_formatTime (t := 1700000000123) (by decide) htext
  omega

end DataInsert

end Sadip

import Mathlib.Tactic.IntervalCases
import Mathlib.Tactic.Linarith
import OpenLaps.Lib.Calendar
import OpenLaps.Firmware.Labelling

/- What the second of a ZDA sentence has to do with the calendar: the arithmetic is that of
every year from 1970 on, the range checks let more through than the calendar has. -/
namespace OpenLaps.Firmware
open Calendar

/-- A date with a time of day, in a minute of up to 61 seconds. -/
structure Instant where
  date : Date
  hour : Int
  minute : Int
  second : ℚ

namespace Instant

structure Real (instant : Instant) : Prop where
  date : instant.date.Real
  hour : 0 ≤ instant.hour ∧ instant.hour ≤ 23
  minute : 0 ≤ instant.minute ∧ instant.minute ≤ 59
  second : 0 ≤ instant.second ∧ instant.second < 61

/-- The seconds of the days since the start of 1970, counted on the calendar, and of the day. -/
def UnixSecond (instant : Instant) (value : Int) : Prop :=
  ∃ days : Nat, Date.After ⟨1970, 1, 1⟩ days instant.date ∧
    value = 86400 * days + 3600 * instant.hour + 60 * instant.minute + instant.second

end Instant

/-- What a time as `hhmmss` and a date denote: hours, minutes and the seconds that are left. -/
def zdaInstant (hhmmss : ℚ) (day month year : Int) : Instant where
  date := ⟨year, month, day⟩
  hour := ⌊hhmmss / 10000⌋
  minute := ⌊hhmmss / 100⌋ % 100
  second := hhmmss - 100 * ⌊hhmmss / 100⌋

/-- The range checks of `nmea_zda_utc_second`. -/
structure Checked (packed day month year : Int) : Prop where
  year : 1970 ≤ year
  month : 1 ≤ month ∧ month ≤ 12
  day : 1 ≤ day ∧ day ≤ 31
  hour : packed.tdiv 10000 ≤ 23
  minute : (packed.tdiv 100).tmod 100 ≤ 59
  second : packed.tmod 100 ≤ 60

theorem leapYear_iff (year : Int) : leapYear year = true ↔ Leap year := by
  simp [leapYear, Leap]

/-- A year is as much longer before the next one as the calendar says. -/
theorem daysBeforeYear_succ (year : Int) :
    daysBeforeYear (year + 1) = daysBeforeYear year + yearLength year := by
  unfold daysBeforeYear yearLength Leap
  dsimp only
  split_ifs <;> omega

theorem daysBeforeYear_add (first : Int) (years : Nat) :
    daysBeforeYear (first + years) = daysBeforeYear first + daysOfYears first years := by
  induction years with
  | zero => simp [daysOfYears]
  | succ years ih =>
    have step := daysBeforeYear_succ (first + years)
    rw [daysOfYears, Nat.cast_add, Nat.cast_one, ← Int.add_assoc, step, ih]
    omega

/-- The table with its leap day is the sum of the months before. -/
theorem cumulativeDays_eq (year month : Int) (from1 : 1 ≤ month) (to12 : month ≤ 12) :
    (cumulativeDays.getD month.toNat 0 + if 2 < month ∧ leapYear year = true then 1 else 0) =
      daysBeforeMonth year (month - 1).toNat := by
  interval_cases month <;> by_cases leap : Leap year <;>
    simp [cumulativeDays, daysBeforeMonth, monthLength, leapYear_iff, leap]

/-- On a real date from 1970 on the arithmetic is that of the calendar. -/
theorem unixSecond_exact {date : Date} (real : date.Real) (since1970 : 1970 ≤ date.year)
    (hour minute second : Int) : ∃ days : Nat, Date.After ⟨1970, 1, 1⟩ days date ∧
      unixSecond date.year date.month date.day hour minute second =
        86400 * days + 3600 * hour + 60 * minute + second := by
  have after := After.date 1970 real since1970
  refine ⟨_, after, ?_⟩
  have years := daysBeforeYear_add 1970 (date.year - 1970).toNat
  rw [show (1970 : Int) + ((date.year - 1970).toNat : Int) = date.year by omega] at years
  have months := cumulativeDays_eq date.year date.month real.month.1 real.month.2
  have nonneg := daysOfYears_nonneg 1970 (date.year - 1970).toNat
  have before := daysBeforeMonth_nonneg date.year (date.month - 1).toNat
  have day := real.day.1
  unfold unixSecond
  dsimp only
  split_ifs at months ⊢ <;> omega

/-- A whole time that is not negative falls apart into pairs of digits as in C. -/
theorem zdaInstant_int {packed : Int} (nonneg : 0 ≤ packed) (day month year : Int) :
    zdaInstant packed day month year =
      ⟨⟨year, month, day⟩, packed.tdiv 10000, (packed.tdiv 100).tmod 100,
        (packed.tmod 100 : Int)⟩ := by
  have hours : ⌊(packed : ℚ) / 10000⌋ = packed.tdiv 10000 := by
    rw [Int.tdiv_eq_ediv_of_nonneg nonneg]
    exact Rat.floor_intCast_div_natCast packed 10000
  have hundreds : ⌊(packed : ℚ) / 100⌋ = packed / 100 :=
    Rat.floor_intCast_div_natCast packed 100
  have minutes : (packed.tdiv 100).tmod 100 = packed / 100 % 100 := by
    rw [Int.tdiv_eq_ediv_of_nonneg nonneg, Int.tmod_eq_emod_of_nonneg]
    exact Int.ediv_nonneg nonneg (by decide)
  rw [zdaInstant, hours, hundreds, minutes, Int.tmod_eq_emod_of_nonneg nonneg, Int.emod_def packed]
  push_cast
  rfl

/-- A time that is no negative number and begins no day later than its own. -/
theorem zdaInstant_range {hhmmss : ℚ} {day month year : Int}
    (real : (zdaInstant hhmmss day month year).Real) : 0 ≤ hhmmss ∧ hhmmss < 240000 := by
  have low := Int.floor_le (hhmmss / 10000)
  have high := Int.lt_floor_add_one (hhmmss / 10000)
  obtain ⟨first, last⟩ := real.hour
  have first : (0 : ℚ) ≤ ⌊hhmmss / 10000⌋ := by exact_mod_cast first
  have last : (⌊hhmmss / 10000⌋ : ℚ) ≤ 23 := by exact_mod_cast last
  constructor <;> linarith

/-- What passes the checks is real exactly if the month has the day and the time no sign. -/
theorem checked_real_iff {packed day month year : Int} (nonneg : 0 ≤ packed)
    (checked : Checked packed day month year) :
    (zdaInstant packed day month year).Real ↔ day ≤ monthLength year month := by
  rw [zdaInstant_int nonneg]
  constructor
  · intro real
    exact real.date.day.2
  · intro length
    have seconds := Int.tmod_nonneg (100 : Int) nonneg
    have last := checked.second
    refine ⟨⟨checked.month, checked.day.1, length⟩,
      ⟨Int.tdiv_nonneg nonneg (by decide), checked.hour⟩,
      ⟨Int.tmod_nonneg _ (Int.tdiv_nonneg nonneg (by decide)), checked.minute⟩, ?_, ?_⟩
    · show (0 : ℚ) ≤ (packed.tmod 100 : Int)
      exact_mod_cast seconds
    · show ((packed.tmod 100 : Int) : ℚ) < 61
      exact_mod_cast Int.lt_of_le_of_lt last (by decide)

/-- A second is given exactly for the fields that pass the checks. -/
theorem nmeaZdaUtcSecond_eq (libc : Libc) {sentence : Bytes}
    (valid : checksumValid sentence = true) (kind : hasKind sentence "ZDA" = true) (value : Int) :
    nmeaZdaUtcSecond libc sentence = some value ↔
      ∃ hhmmss day month year, zdaFields libc sentence = some (hhmmss, day, month, year) ∧
        Checked (libc.toInt hhmmss) day month year ∧
        value = unixSecond year month day ((libc.toInt hhmmss).tdiv 10000)
          (((libc.toInt hhmmss).tdiv 100).tmod 100) ((libc.toInt hhmmss).tmod 100) := by
  simp only [nmeaZdaUtcSecond, valid, kind, Bool.and_self, if_true, Option.bind_eq_some_iff]
  constructor
  · rintro ⟨⟨hhmmss, day, month, year⟩, read, given⟩
    refine ⟨hhmmss, day, month, year, read, ?_⟩
    dsimp only at given
    split at given
    · cases given
    · rename_i within
      simp only [not_or, not_lt] at within
      obtain ⟨since1970, from1, to12, first, last, hour, minute, second⟩ := within
      cases given
      exact ⟨⟨since1970, ⟨from1, to12⟩, ⟨first, last⟩, hour, minute, second⟩, rfl⟩
  · rintro ⟨hhmmss, day, month, year, read, checked, rfl⟩
    refine ⟨(hhmmss, day, month, year), read, ?_⟩
    obtain ⟨year, month, day, hour, minute, second⟩ := checked
    dsimp only
    rw [if_neg (by omega)]

/-- The second of a real instant is exact only where the time has no fraction. -/
theorem whole_of_exact {libc : Libc} {hhmmss : ℚ} {day month year value : Int}
    (real : (zdaInstant hhmmss day month year).Real)
    (exact : (zdaInstant hhmmss day month year).UnixSecond value) :
    hhmmss = libc.toInt (.finite hhmmss) ∧ 0 ≤ libc.toInt (.finite hhmmss) := by
  obtain ⟨low, high⟩ := zdaInstant_range real
  have cast : libc.toInt (.finite hhmmss) = ⌊hhmmss⌋ := by
    rw [libc.truncates hhmmss (abs_lt.mpr ⟨by linarith, by linarith⟩), if_pos low]
  obtain ⟨days, -, sum⟩ := exact
  -- all but the fraction of the second is whole
  have whole : hhmmss = (value - 86400 * days - 3600 * ⌊hhmmss / 10000⌋ -
      60 * (⌊hhmmss / 100⌋ % 100) + 100 * ⌊hhmmss / 100⌋ : Int) := by
    dsimp only [zdaInstant] at sum
    push_cast
    linarith
  rw [cast]
  refine ⟨?_, Int.floor_nonneg.mpr low⟩
  rw [whole, Int.floor_intCast]

/-- On a checksum-valid ZDA sentence the second given is that of a real instant, exact on the
calendar, just where the fields that pass the checks have a whole time that is not negative and
name a day of their month. -/
theorem zda_exact (libc : Libc) (sentence : Bytes) (valid : checksumValid sentence = true)
    (kind : hasKind sentence "ZDA" = true) :
    (∀ value, nmeaZdaUtcSecond libc sentence = some value →
      ∃ hhmmss day month year,
        zdaFields libc sentence = some (.finite hhmmss, day, month, year) ∧
        (zdaInstant hhmmss day month year).Real ∧
        (zdaInstant hhmmss day month year).UnixSecond value) ↔
    ∀ hhmmss day month year, zdaFields libc sentence = some (hhmmss, day, month, year) →
      Checked (libc.toInt hhmmss) day month year →
        day ≤ monthLength year month ∧ hhmmss = .finite (libc.toInt hhmmss) ∧
          0 ≤ libc.toInt hhmmss := by
  constructor
  · intro exact hhmmss day month year read checked
    obtain ⟨time, day', month', year', same, real, second⟩ := exact _
      ((nmeaZdaUtcSecond_eq libc valid kind _).mpr
        ⟨hhmmss, day, month, year, read, checked, rfl⟩)
    rw [read] at same
    cases same
    obtain ⟨whole, nonneg⟩ := @whole_of_exact libc _ _ _ _ _ real second
    exact ⟨real.date.day.2, congrArg Double.finite whole, nonneg⟩
  · intro proper value given
    obtain ⟨hhmmss, day, month, year, read, checked, rfl⟩ :=
      (nmeaZdaUtcSecond_eq libc valid kind value).mp given
    obtain ⟨length, whole, nonneg⟩ := proper hhmmss day month year read checked
    have real := (checked_real_iff nonneg checked).mpr length
    refine ⟨libc.toInt hhmmss, day, month, year, whole ▸ read, real, ?_⟩
    obtain ⟨days, after, second⟩ := unixSecond_exact real.date checked.year
      ((libc.toInt hhmmss).tdiv 10000) (((libc.toInt hhmmss).tdiv 100).tmod 100)
      ((libc.toInt hhmmss).tmod 100)
    refine ⟨days, after, ?_⟩
    rw [zdaInstant_int nonneg] at second ⊢
    dsimp only at second ⊢
    exact_mod_cast second

def zdaSentence (body checksum : String) : Bytes :=
  ("$" ++ body ++ "*" ++ checksum).toList.map ascii

/-- The 30th of February passes. -/
theorem zda_gives_february30 :
    let sentence := zdaSentence "GPZDA,120000,30,02,2024,00,00" "4E"
    checksumValid sentence = true ∧ hasKind sentence "ZDA" = true ∧
      zdaFields digitsOnly sentence = some (.finite 120000, 30, 2, 2024) ∧
      nmeaZdaUtcSecond digitsOnly sentence = some 1709294400 ∧
      ¬(zdaInstant 120000 30 2 2024).Real :=
  ⟨by decide +kernel, by decide +kernel, by decide +kernel, by decide +kernel,
    fun real => absurd real.date.day.2 (by decide)⟩

/-- So does half a second before midnight, as if it were midnight. -/
example :
    let sentence := zdaSentence "GPZDA,-000000.5,01,06,2024,00,00" "7D"
    checksumValid sentence = true ∧
      zdaFields digitsOnly sentence = some (.finite (-1 / 2), 1, 6, 2024) ∧
      nmeaZdaUtcSecond digitsOnly sentence = some 1717200000 := by decide +kernel

/-- The leap second at the end of 2016 is the second before the next year's first. -/
theorem zda_exact_leap_second :
    (zdaInstant 235960 31 12 2016).Real ∧ (zdaInstant 235960 31 12 2016).UnixSecond 1483228800 := by
  have read : zdaFields digitsOnly (zdaSentence "GPZDA,235960,31,12,2016,00,00" "47") =
      some (.finite 235960, 31, 12, 2016) := by decide +kernel
  obtain ⟨hhmmss, day, month, year, same, real, exact⟩ :=
    (zda_exact digitsOnly (zdaSentence "GPZDA,235960,31,12,2016,00,00" "47") (by decide +kernel)
      (by decide +kernel)).mpr
      (fun hhmmss day month year same checked => by
        rw [read] at same
        cases same
        decide +kernel)
      1483228800 (by decide +kernel)
  rw [read] at same
  cases same
  exact ⟨real, exact⟩

end OpenLaps.Firmware

import Mathlib.Algebra.GroupWithZero.Nat
import Mathlib.Algebra.Ring.Int.Defs
import Mathlib.Logic.Function.Iterate

/- The proleptic Gregorian calendar: the length of its months, the day after a day, and the
number of days from one date to another. -/
namespace Calendar

structure Date where
  year : Int
  month : Int
  day : Int
  deriving DecidableEq, Repr

def Leap (year : Int) : Prop := year % 4 = 0 ∧ (year % 100 ≠ 0 ∨ year % 400 = 0)

instance (year : Int) : Decidable (Leap year) := by unfold Leap; infer_instance

def monthLength (year month : Int) : Int :=
  if month = 2 then if Leap year then 29 else 28
  else if month = 4 ∨ month = 6 ∨ month = 9 ∨ month = 11 then 30
  else 31

/-- A day that the calendar has. -/
structure Date.Real (date : Date) : Prop where
  month : 1 ≤ date.month ∧ date.month ≤ 12
  day : 1 ≤ date.day ∧ date.day ≤ monthLength date.year date.month

namespace Date

/-- The day after. -/
def next (date : Date) : Date :=
  if date.day < monthLength date.year date.month then { date with day := date.day + 1 }
  else if date.month < 12 then ⟨date.year, date.month + 1, 1⟩
  else ⟨date.year + 1, 1, 1⟩

/-- `later` is `days` days after `earlier`. -/
def After (earlier : Date) (days : Nat) (later : Date) : Prop := next^[days] earlier = later

theorem After.refl (date : Date) : date.After 0 date := rfl

theorem After.trans {first second third : Date} {days more : Nat}
    (earlier : first.After days second) (later : second.After more third) :
    first.After (days + more) third := by
  unfold After at *
  rw [Nat.add_comm, Function.iterate_add_apply, earlier, later]

end Date

open Date

theorem monthLength_bounds (year month : Int) :
    28 ≤ monthLength year month ∧ monthLength year month ≤ 31 := by
  unfold monthLength
  split_ifs <;> omega

/-- Within a month the days count on. -/
theorem After.day (year month day : Int) (days : Nat)
    (within : day + days ≤ monthLength year month) :
    After ⟨year, month, day⟩ days ⟨year, month, day + days⟩ := by
  induction days with
  | zero => simp [After]
  | succ days ih =>
    have before := ih (by omega)
    unfold After at *
    rw [Function.iterate_succ_apply', before, next]
    have more : day + days < monthLength year month := by omega
    simp only [more, if_true]
    congr 1
    push_cast
    omega

/-- The whole of a month before the last of the year. -/
theorem After.month (year month : Int) (within : month < 12) :
    After ⟨year, month, 1⟩ (monthLength year month).toNat ⟨year, month + 1, 1⟩ := by
  have bounds := monthLength_bounds year month
  obtain ⟨days, length⟩ : ∃ days : Nat, monthLength year month = days + 1 :=
    ⟨(monthLength year month - 1).toNat, by omega⟩
  have last := After.day year month 1 days (by omega)
  unfold After at *
  rw [length, show ((days : Int) + 1).toNat = days + 1 by omega, Function.iterate_succ_apply',
    last, next]
  have full : ¬(1 + (days : Int) < monthLength year month) := by omega
  simp only [full, if_false, within, if_true]

/-- The days of the year before a month. -/
def daysBeforeMonth (year : Int) : Nat → Int
  | 0 => 0
  | months + 1 => daysBeforeMonth year months + monthLength year (months + 1)

def yearLength (year : Int) : Int := if Leap year then 366 else 365

theorem daysBeforeMonth_nonneg (year : Int) (months : Nat) : 0 ≤ daysBeforeMonth year months := by
  induction months with
  | zero => exact Int.le_refl 0
  | succ months ih =>
    have bounds := monthLength_bounds year (months + 1)
    rw [daysBeforeMonth]
    omega

theorem After.months (year : Int) (months : Nat) (within : months < 12) :
    After ⟨year, 1, 1⟩ (daysBeforeMonth year months).toNat ⟨year, months + 1, 1⟩ := by
  induction months with
  | zero => exact After.refl _
  | succ months ih =>
    have step := (ih (by omega)).trans (After.month year (months + 1) (by omega))
    have nonneg := daysBeforeMonth_nonneg year months
    have bounds := monthLength_bounds year (months + 1)
    rw [daysBeforeMonth, Int.toNat_add nonneg (by omega)]
    push_cast
    exact step

theorem daysBeforeMonth_year (year : Int) :
    daysBeforeMonth year 11 + monthLength year 12 = yearLength year := by
  by_cases leap : Leap year <;> simp [daysBeforeMonth, monthLength, yearLength, leap]

/-- From one new year to the next. -/
theorem After.year (year : Int) :
    After ⟨year, 1, 1⟩ (yearLength year).toNat ⟨year + 1, 1, 1⟩ := by
  have months := After.months year 11 (by omega)
  have nonneg := daysBeforeMonth_nonneg year 11
  have sum := daysBeforeMonth_year year
  have december : monthLength year 12 = 30 + 1 := by simp [monthLength]
  have last := months.trans (After.day year 12 1 30 (by omega))
  have days : (yearLength year).toNat = (daysBeforeMonth year 11).toNat + 30 + 1 := by omega
  unfold After at *
  rw [days, Function.iterate_succ_apply', last, next]
  simp [december]

/-- The days of the `years` years from `first` on. -/
def daysOfYears (first : Int) : Nat → Int
  | 0 => 0
  | years + 1 => daysOfYears first years + yearLength (first + years)

theorem yearLength_pos (year : Int) : 0 < yearLength year := by
  unfold yearLength
  split_ifs <;> omega

theorem daysOfYears_nonneg (first : Int) (years : Nat) : 0 ≤ daysOfYears first years := by
  induction years with
  | zero => exact Int.le_refl 0
  | succ years ih =>
    have length := yearLength_pos (first + years)
    rw [daysOfYears]
    omega

theorem After.years (first : Int) (years : Nat) :
    After ⟨first, 1, 1⟩ (daysOfYears first years).toNat ⟨first + years, 1, 1⟩ := by
  induction years with
  | zero => simp [After, daysOfYears]
  | succ years ih =>
    have length := yearLength_pos (first + years)
    have step := ih.trans (After.year (first + years))
    rw [daysOfYears, Int.toNat_add (daysOfYears_nonneg first years) (by omega)]
    simpa only [Nat.cast_add, Nat.cast_one, Int.add_assoc] using step

/-- Every day that the calendar has from a new year on is as many days after it as the years,
months and days between them hold. -/
theorem After.date (first : Int) {date : Date} (real : date.Real) (later : first ≤ date.year) :
    After ⟨first, 1, 1⟩
      (daysOfYears first (date.year - first).toNat +
        daysBeforeMonth date.year (date.month - 1).toNat + (date.day - 1)).toNat date := by
  obtain ⟨month, day⟩ := real
  have bounds := monthLength_bounds date.year date.month
  have years := After.years first (date.year - first).toNat
  rw [show first + ((date.year - first).toNat : Int) = date.year by omega] at years
  have months := After.months date.year (date.month - 1).toNat (by omega)
  rw [show ((date.month - 1).toNat : Int) + 1 = date.month by omega] at months
  have days := After.day date.year date.month 1 (date.day - 1).toNat (by omega)
  rw [show (1 : Int) + ((date.day - 1).toNat : Int) = date.day by omega] at days
  have whole := (years.trans months).trans days
  have nonneg := daysOfYears_nonneg first (date.year - first).toNat
  have before := daysBeforeMonth_nonneg date.year (date.month - 1).toNat
  rw [Int.toNat_add (by omega) (by omega), Int.toNat_add nonneg before]
  exact whole

end Calendar

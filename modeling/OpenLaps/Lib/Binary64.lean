import Mathlib.Data.Int.Log
import OpenLaps.Lib.Rounding

/- Binary64 numbers as rationals: how far apart they lie, and the one a result is rounded
to. What is beyond the largest of them is left to the caller. -/
namespace Binary64

/-- The exponent of the last place around a value. -/
def exponent (value : ℚ) : Int := max (Int.log 2 |value| - 52) (-1074)

/-- The smallest number above zero. -/
def least : ℚ := 2 ^ (-1074 : Int)

/-- How far apart the numbers around a value lie. -/
def unit (value : ℚ) : ℚ := 2 ^ exponent value

/-- The number a value is rounded to. -/
def round (value : ℚ) : ℚ := Rounding.halfEven (value / unit value) * unit value

def IsDouble (value : ℚ) : Prop :=
  ∃ mantissa exponent : Int, |mantissa| < 2 ^ 53 ∧ -1074 ≤ exponent ∧
    value = mantissa * 2 ^ exponent

theorem least_pos : 0 < least := zpow_pos (by norm_num) _

theorem unit_pos (value : ℚ) : 0 < unit value := zpow_pos (by norm_num) _

theorem unit_neg (value : ℚ) : unit (-value) = unit value := by
  unfold unit exponent
  rw [abs_neg]

theorem exponent_ge (value : ℚ) : -1074 ≤ exponent value := le_max_right _ _

/-- A mantissa has 53 digits at most. -/
theorem abs_lt_unit (value : ℚ) : |value| < 2 ^ 53 * unit value := by
  have below : |value| < (2 : ℚ) ^ (Int.log 2 |value| + 1) := by
    exact_mod_cast Int.lt_zpow_succ_log_self (by norm_num : 1 < 2) |value|
  have place : Int.log 2 |value| + 1 ≤ 53 + exponent value := by
    have low := le_max_left (Int.log 2 |value| - 52) (-1074)
    unfold exponent
    omega
  calc |value| < (2 : ℚ) ^ (Int.log 2 |value| + 1) := below
    _ ≤ 2 ^ (53 + exponent value) := zpow_le_zpow_right₀ (by norm_num) place
    _ = 2 ^ 53 * unit value := by
        rw [zpow_add₀ (by norm_num)]
        rfl

theorem exponent_mono {first second : ℚ} (pos : 0 < first) (le : first ≤ second) :
    exponent first ≤ exponent second := by
  have logs := Int.log_mono_right (b := 2) pos le
  unfold exponent
  rw [abs_of_pos pos, abs_of_pos (pos.trans_le le)]
  exact max_le_max (by omega) le_rfl

theorem round_zero : round 0 = 0 := by
  have zero : Rounding.halfEven 0 = 0 := by exact_mod_cast Rounding.halfEven_intCast 0
  rw [round, zero_div, zero, Int.cast_zero, zero_mul]

theorem round_isDouble (value : ℚ) : IsDouble (round value) := by
  have small : |value / unit value| < 2 ^ 53 := by
    rw [abs_div, abs_of_pos (unit_pos value), div_lt_iff₀ (unit_pos value)]
    exact abs_lt_unit value
  obtain ⟨low, high⟩ := abs_lt.mp small
  have below : Rounding.halfEven (value / unit value) ≤ 2 ^ 53 := by
    rw [← Rounding.halfEven_intCast (2 ^ 53)]
    exact Rounding.halfEven_mono (by push_cast; exact high.le)
  have above : -2 ^ 53 ≤ Rounding.halfEven (value / unit value) := by
    rw [← Rounding.halfEven_intCast (-2 ^ 53)]
    exact Rounding.halfEven_mono (by push_cast; exact low.le)
  have carry : (2 : ℚ) ^ 53 * unit value = 2 ^ 52 * 2 ^ (exponent value + 1) := by
    rw [zpow_add₀ (by norm_num), unit]
    ring
  -- All digits of the mantissa may carry into the next place.
  rcases below.lt_or_eq with inside | full
  · rcases above.lt_or_eq with inside' | full
    · exact ⟨_, exponent value, abs_lt.mpr ⟨inside', inside⟩, exponent_ge value, rfl⟩
    · refine ⟨-2 ^ 52, exponent value + 1, by norm_num, by have := exponent_ge value; omega, ?_⟩
      rw [round, ← full]
      push_cast
      linarith
  · refine ⟨2 ^ 52, exponent value + 1, by norm_num, by have := exponent_ge value; omega, ?_⟩
    rw [round, full]
    push_cast
    exact carry

/-- A number fills whole units of its own. -/
theorem IsDouble.units {value : ℚ} (double : IsDouble value) :
    ∃ count : Int, value / unit value = count := by
  obtain ⟨mantissa, place, digits, least, made⟩ := double
  by_cases zero : value = 0
  · exact ⟨0, by rw [zero, zero_div, Int.cast_zero]⟩
  have fits : exponent value ≤ place := by
    apply max_le _ least
    have pos := abs_pos.mpr zero
    have bound : |value| < (2 : ℚ) ^ (53 + place) := by
      rw [made, abs_mul, abs_of_pos (zpow_pos (by norm_num : (0 : ℚ) < 2) place),
        zpow_add₀ (by norm_num)]
      apply mul_lt_mul_of_pos_right _ (zpow_pos (by norm_num) place)
      exact_mod_cast digits
    have log : Int.log 2 |value| < 53 + place :=
      (Int.lt_zpow_iff_log_lt (by norm_num) pos).mp (by exact_mod_cast bound)
    omega
  obtain ⟨spare, same⟩ := Int.le.dest fits
  refine ⟨mantissa * 2 ^ spare, ?_⟩
  have split : (2 : ℚ) ^ place = 2 ^ spare * unit value := by
    rw [← same, zpow_add₀ (by norm_num), unit, zpow_natCast]
    ring
  rw [div_eq_iff (unit_pos value).ne']
  push_cast
  rw [made] at split ⊢
  rw [mul_assoc, ← split]

/-- What a double holds is left as it is. -/
theorem IsDouble.round_eq {value : ℚ} (double : IsDouble value) : round value = value := by
  obtain ⟨count, units⟩ := double.units
  rw [round, units, Rounding.halfEven_intCast, ← units, div_mul_cancel₀ _ (unit_pos value).ne']

theorem isDouble_least : IsDouble least := ⟨1, -1074, by norm_num, le_rfl, by rw [Int.cast_one, one_mul]; rfl⟩

/-- All numbers are whole in units of the smallest one. -/
theorem IsDouble.whole {value : ℚ} (double : IsDouble value) : ∃ count : Int, value = count * least := by
  obtain ⟨mantissa, place, -, lowest, made⟩ := double
  obtain ⟨spare, same⟩ := Int.le.dest lowest
  refine ⟨mantissa * 2 ^ spare, ?_⟩
  have split : (2 : ℚ) ^ place = least * 2 ^ spare := by
    rw [← same, zpow_add₀ (by norm_num), zpow_natCast]
    rfl
  rw [made, split]
  push_cast
  ring

/-- Two numbers are apart by the smallest one at least. -/
theorem IsDouble.least_le_sub {first second : ℚ} (double : IsDouble first) (double' : IsDouble second)
    (less : first < second) : least ≤ second - first := by
  obtain ⟨count, made⟩ := double.whole
  obtain ⟨count', made'⟩ := double'.whole
  have apart : second - first = (count' - count : ℚ) * least := by rw [made, made', sub_mul]
  have positive : (0 : ℚ) < (count' - count : ℚ) * least := by
    rw [← apart]
    exact sub_pos.mpr less
  have more : (0 : ℚ) < ((count' - count : Int) : ℚ) := by
    push_cast
    exact pos_of_mul_pos_left positive least_pos.le
  have steps : (1 : ℚ) ≤ count' - count := by
    have whole : 0 < count' - count := by exact_mod_cast more
    exact_mod_cast (show 1 ≤ count' - count by omega)
  rw [apart]
  exact le_mul_of_one_le_left least_pos.le steps

theorem isDouble_intCast {value : Int} (small : |value| ≤ 2 ^ 53) : IsDouble (value : ℚ) := by
  rcases small.lt_or_eq with less | same
  · exact ⟨value, 0, less, by norm_num, by rw [zpow_zero, mul_one]⟩
  · rcases abs_eq (by norm_num : (0 : Int) ≤ 2 ^ 53) |>.mp same with rfl | rfl
    · exact ⟨2 ^ 52, 1, by norm_num, by norm_num, by norm_num⟩
    · exact ⟨-2 ^ 52, 1, by norm_num, by norm_num, by norm_num⟩

theorem round_intCast {value : Int} (small : |value| ≤ 2 ^ 53) : round (value : ℚ) = value :=
  (isDouble_intCast small).round_eq

theorem abs_round_sub (value : ℚ) : |round value - value| ≤ unit value / 2 := by
  have pos := unit_pos value
  have near := Rounding.abs_halfEven_sub (value / unit value)
  have scaled : round value - value =
      (Rounding.halfEven (value / unit value) - value / unit value) * unit value := by
    rw [sub_mul, div_mul_cancel₀ _ pos.ne', round]
  rw [scaled, abs_mul, abs_of_pos pos]
  calc _ ≤ 1 / 2 * unit value := mul_le_mul_of_nonneg_right near pos.le
    _ = unit value / 2 := by ring

theorem unit_of_log {value : ℚ} (nonzero : value ≠ 0) (large : -1074 ≤ Int.log 2 |value| - 52) :
    unit value ≤ |value| / 2 ^ 52 := by
  have power : (2 : ℚ) ^ Int.log 2 |value| ≤ |value| := by
    exact_mod_cast Int.zpow_log_le_self (by norm_num : 1 < 2) (abs_pos.mpr nonzero)
  have split : (2 : ℚ) ^ (Int.log 2 |value| - 52) = 2 ^ Int.log 2 |value| / 2 ^ 52 := by
    rw [zpow_sub₀ (by norm_num)]
    rfl
  unfold unit exponent
  rw [max_eq_left large, split]
  exact div_le_div_of_nonneg_right power (by norm_num)

/-- The numbers around a value lie close for its size, down to the smallest one. -/
theorem unit_le {value : ℚ} (nonzero : value ≠ 0) :
    unit value ≤ |value| / 2 ^ 52 + least := by
  rcases le_total (Int.log 2 |value| - 52) (-1074) with small | large
  · unfold unit exponent
    rw [max_eq_right small]
    exact le_add_of_nonneg_left (by positivity)
  · exact (unit_of_log nonzero large).trans (le_add_of_nonneg_right least_pos.le)

/-- Above the smallest results the error is relative to the value. -/
theorem abs_round_sub_normal {value : ℚ} (normal : value = 0 ∨ 2 ^ (-1022 : Int) ≤ |value|) :
    |round value - value| ≤ |value| / 2 ^ 53 := by
  rcases normal with rfl | normal
  · rw [round_zero, sub_zero, abs_zero, zero_div]
  · have positive : 0 < |value| := (zpow_pos (by norm_num) _).trans_le normal
    have log : -1022 ≤ Int.log 2 |value| :=
      (Int.zpow_le_iff_le_log (by norm_num) positive).mp (by exact_mod_cast normal)
    have close := unit_of_log (abs_pos.mp positive) (by omega)
    calc |round value - value| ≤ unit value / 2 := abs_round_sub value
      _ ≤ |value| / 2 ^ 52 / 2 := by linarith
      _ = |value| / 2 ^ 53 := by ring

/-- The relative error of a result, and the absolute one of the smallest results. -/
theorem abs_round_sub_le (value : ℚ) : |round value - value| ≤ |value| / 2 ^ 53 + least / 2 := by
  by_cases zero : value = 0
  · rw [zero, round_zero, sub_zero, abs_zero, zero_div, zero_add]
    exact (half_pos least_pos).le
  · calc |round value - value| ≤ unit value / 2 := abs_round_sub value
      _ ≤ (|value| / 2 ^ 52 + least) / 2 := by linarith [unit_le zero]
      _ = |value| / 2 ^ 53 + least / 2 := by ring

theorem halfEven_neg (value : ℚ) : Rounding.halfEven (-value) = -Rounding.halfEven value := by
  rw [Rounding.halfEven_eq_iff]
  have nearest := Rounding.halfEven_nearest value
  unfold Rounding.Nearest at nearest ⊢
  have size : |-value - ((-Rounding.halfEven value : Int) : ℚ)| =
      |value - Rounding.halfEven value| := by
    push_cast
    rw [← abs_neg]
    congr 1
    ring
  rw [size]
  rcases nearest with less | ⟨tie, even⟩
  · exact Or.inl less
  · exact Or.inr ⟨tie, by omega⟩

theorem round_neg (value : ℚ) : round (-value) = -round value := by
  rw [round, unit_neg, neg_div, halfEven_neg, round]
  push_cast
  ring

theorem round_nonneg {value : ℚ} (nonneg : 0 ≤ value) : 0 ≤ round value := by
  have whole := Rounding.halfEven_nonneg (div_nonneg nonneg (unit_pos value).le)
  exact mul_nonneg (by exact_mod_cast whole) (unit_pos value).le

/-- No value is rounded past a number that is whole in its units. -/
theorem round_le_of_units {value bound : ℚ} {count : Int} (le : value ≤ bound)
    (whole : bound = count * unit value) : round value ≤ bound := by
  have pos := unit_pos value
  have quotient : value / unit value ≤ count := by
    rw [div_le_iff₀ pos, ← whole]
    exact le
  have rounded := Rounding.halfEven_mono quotient
  rw [Rounding.halfEven_intCast] at rounded
  rw [round, whole]
  exact mul_le_mul_of_nonneg_right (by exact_mod_cast rounded) pos.le

theorem le_round_of_units {value bound : ℚ} {count : Int} (le : bound ≤ value)
    (whole : bound = count * unit value) : bound ≤ round value := by
  have whole' : -bound = ((-count : Int) : ℚ) * unit (-value) := by
    rw [unit_neg, whole]
    push_cast
    ring
  have turned := round_le_of_units (neg_le_neg le) whole'
  rw [round_neg] at turned
  exact neg_le_neg_iff.mp turned

theorem round_mono_of_pos {first second : ℚ} (pos : 0 < first) (le : first ≤ second) :
    round first ≤ round second := by
  rcases (exponent_mono pos le).lt_or_eq with less | same
  · -- A power of two lies between them, whole in the units of both.
    have reach : Int.log 2 second - 52 = exponent second := by
      have low := exponent_ge first
      unfold exponent at less low ⊢
      rw [abs_of_pos (pos.trans_le le)] at less ⊢
      omega
    have power : (2 : ℚ) ^ (52 + exponent second) ≤ second := by
      rw [← reach, add_sub_cancel]
      exact_mod_cast Int.zpow_log_le_self (by norm_num : 1 < 2) (pos.trans_le le)
    have under : first ≤ (2 : ℚ) ^ (52 + exponent second) := by
      have bound := (le_abs_self first).trans (abs_lt_unit first).le
      apply bound.trans
      have places : (2 : ℚ) ^ 53 * unit first = 2 ^ (53 + exponent first) := by
        rw [zpow_add₀ (by norm_num)]
        rfl
      rw [places]
      exact zpow_le_zpow_right₀ (by norm_num) (by omega)
    obtain ⟨spare, gap⟩ := Int.le.dest less.le
    have coarse : (2 : ℚ) ^ (52 + exponent second) = ((2 ^ 52 : Int) : ℚ) * unit second := by
      rw [zpow_add₀ (by norm_num)]
      push_cast
      rfl
    have fine : (2 : ℚ) ^ (52 + exponent second) = ((2 ^ (52 + spare) : Int) : ℚ) * unit first := by
      rw [← gap, unit, add_comm (exponent first), ← add_assoc, zpow_add₀ (by norm_num)]
      push_cast
      rw [← zpow_natCast]
      push_cast
      rfl
    exact (round_le_of_units under fine).trans (le_round_of_units power coarse)
  · have units : unit first = unit second := by rw [unit, unit, same]
    have rounded := Rounding.halfEven_mono (div_le_div_of_nonneg_right le (unit_pos second).le)
    rw [round, round, units]
    exact mul_le_mul_of_nonneg_right (by exact_mod_cast rounded) (unit_pos second).le

theorem round_mono {first second : ℚ} (le : first ≤ second) : round first ≤ round second := by
  rcases lt_or_ge 0 first with pos | nonpos
  · exact round_mono_of_pos pos le
  · rcases lt_or_ge second 0 with neg | nonneg
    · have turned := round_mono_of_pos (neg_pos.mpr neg) (neg_le_neg le)
      rw [round_neg, round_neg] at turned
      exact neg_le_neg_iff.mp turned
    · have low := round_nonneg (neg_nonneg.mpr nonpos)
      rw [round_neg] at low
      exact (neg_nonneg.mp low).trans (round_nonneg nonneg)

end Binary64

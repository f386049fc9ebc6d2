import Mathlib.Algebra.BigOperators.Group.List.Defs
import Mathlib.Data.List.Sort
import OpenLaps.Core.Config
import OpenLaps.Lib.Binary64

/- Python's numeric operators on the values the agent handles. Finite floats are
exact rationals. -/
namespace OpenLaps

namespace PyFloat

def sub : PyFloat → PyFloat → PyFloat
  | .finite first, .finite second => .finite (first - second)
  | .nan, _ => .nan
  | _, .nan => .nan
  | .posInf, .posInf => .nan
  | .negInf, .negInf => .nan
  | .posInf, _ => .posInf
  | .negInf, _ => .negInf
  | .finite _, .posInf => .negInf
  | .finite _, .negInf => .posInf

def add : PyFloat → PyFloat → PyFloat
  | .finite first, .finite second => .finite (first + second)
  | .nan, _ => .nan
  | _, .nan => .nan
  | .posInf, .negInf => .nan
  | .negInf, .posInf => .nan
  | .posInf, _ => .posInf
  | .negInf, _ => .negInf
  | .finite _, .posInf => .posInf
  | .finite _, .negInf => .negInf

def sign : PyFloat → Int
  | .finite value => if 0 < value then 1 else if value < 0 then -1 else 0
  | .posInf => 1
  | .negInf => -1
  | .nan => 0

/-- The product; an infinity times zero is NaN. -/
def mul : PyFloat → PyFloat → PyFloat
  | .finite first, .finite second => .finite (first * second)
  | .nan, _ => .nan
  | _, .nan => .nan
  | first, second =>
    if 0 < sign first * sign second then .posInf
    else if sign first * sign second < 0 then .negInf
    else .nan

def abs : PyFloat → PyFloat
  | .finite value => .finite |value|
  | .posInf => .posInf
  | .negInf => .posInf
  | .nan => .nan

/-- `first <= second`, false as soon as one of them is NaN. -/
def le : PyFloat → PyFloat → Bool
  | .nan, _ => false
  | _, .nan => false
  | .finite first, .finite second => first ≤ second
  | .negInf, _ => true
  | _, .posInf => true
  | _, _ => false

/-- `first < second`, false as soon as one of them is NaN. -/
def lt (first second : PyFloat) : Bool := first.le second && !second.le first

@[simp] theorem lt_finite (first second : ℚ) :
    lt (.finite first) (.finite second) = decide (first < second) := by
  by_cases less : first < second
  · simp [lt, le, less, less.le]
  · simp [lt, le, less, not_lt.mp less]

/-- Division by a finite non-zero number. -/
def div (value : PyFloat) (divisor : ℚ) : PyFloat :=
  match value with
  | .finite number => .finite (number / divisor)
  | .posInf => if 0 < divisor then .posInf else .negInf
  | .negInf => if 0 < divisor then .negInf else .posInf
  | .nan => .nan

/-- Finite floats end half a step above the largest one. -/
def limit : Int := 2 ^ 1024 - 2 ^ 970

/-- A result outside the range of finite floats is an infinity. -/
def bounded : PyFloat → PyFloat
  | .finite value =>
    if |value| < limit then .finite value else if 0 < value then .posInf else .negInf
  | value => value

/-- The float that a result becomes. -/
def rounded (value : PyFloat) : PyFloat :=
  match value.bounded with
  | .finite inside => .finite (Binary64.round inside)
  | beyond => beyond

theorem rounded_finite {value : PyFloat} {result : ℚ} (finite : value.rounded = .finite result) :
    ∃ exactly, value = .finite exactly ∧ |exactly| < limit ∧ result = Binary64.round exactly := by
  unfold rounded bounded at finite
  cases value with
  | finite exactly =>
    dsimp only at finite
    by_cases inside : |exactly| < limit
    · rw [if_pos inside] at finite
      cases finite
      exact ⟨exactly, rfl, inside, rfl⟩
    · rw [if_neg inside] at finite
      by_cases positive : 0 < exactly
      · rw [if_pos positive] at finite
        cases finite
      · rw [if_neg positive] at finite
        cases finite
  | posInf => cases finite
  | negInf => cases finite
  | nan => cases finite

theorem rounded_inside {exactly : ℚ} (inside : |exactly| < limit) :
    (finite exactly).rounded = .finite (Binary64.round exactly) := by
  rw [rounded, bounded, if_pos inside]

/-- `round(value)`. -/
def round : PyFloat → Except PyError Int
  | .finite value => .ok (Rounding.halfEven value)
  | .posInf => .error (.overflowError "cannot convert float infinity to integer")
  | .negInf => .error (.overflowError "cannot convert float infinity to integer")
  | .nan => .error (.valueError "cannot convert float NaN to integer")

end PyFloat

/-- The value as a number: `int` or `float`, and not `bool`. -/
def SampleValue.number? : SampleValue → Option PyFloat
  | .float value => some value
  | .int value => some (.finite value)
  | .bool _ => none
  | .str _ => none

/-- `float(value)` of an integer. -/
def floatOfInt (value : Int) : Except PyError PyFloat :=
  if |value| < PyFloat.limit then .ok (.finite (Binary64.round value))
  else .error (.overflowError "int too large to convert to float")

theorem floatOfInt_small {value : Int} (small : |value| < PyFloat.limit) :
    floatOfInt value = .ok (.finite (Binary64.round value)) := by
  rw [floatOfInt, if_pos small]

theorem floatOfInt_large {value : Int} (large : ¬|value| < PyFloat.limit) :
    floatOfInt value = .error (.overflowError "int too large to convert to float") := by
  rw [floatOfInt, if_neg large]

/-- `statistics.median` of at least one value. -/
def median (values : List ℚ) : ℚ :=
  let sorted := values.insertionSort (· ≤ ·)
  let half := sorted.length / 2
  if sorted.length % 2 = 1 then sorted.getD half 0
  else (sorted.getD (half - 1) 0 + sorted.getD half 0) / 2

/-- `statistics.fmean` of at least one value. -/
def fmean (values : List ℚ) : ℚ := values.sum / values.length

/-- `items[-count:]` for a positive count. -/
def lastOf {α : Type} (count : Nat) (items : List α) : List α := items.drop (items.length - count)

end OpenLaps

import Mathlib.Data.Rat.Floor
import Mathlib.Algebra.Order.Ring.Rat
import Mathlib.Algebra.Order.Field.Basic
import Mathlib.Tactic.Linarith
import Mathlib.Tactic.NormNum

/- Rounding a rational to the nearest integer, ties to even. -/
namespace Rounding

def halfEven (value : ℚ) : Int :=
  if value - ⌊value⌋ < 1 / 2 then ⌊value⌋
  else if 1 / 2 < value - ⌊value⌋ then ⌊value⌋ + 1
  else if ⌊value⌋ % 2 = 0 then ⌊value⌋
  else ⌊value⌋ + 1

theorem halfEven_near (value : ℚ) :
    value - 1 / 2 ≤ halfEven value ∧ (halfEven value : ℚ) ≤ value + 1 / 2 := by
  have below := Int.floor_le value
  have above := Int.lt_floor_add_one value
  unfold halfEven
  split
  · constructor <;> linarith
  · split
    · push_cast
      constructor <;> linarith
    · split
      · constructor <;> linarith
      · push_cast
        constructor <;> linarith

/-- The integer nearest to a value, the even one of two. -/
def Nearest (value : ℚ) (whole : Int) : Prop :=
  |value - whole| < 1 / 2 ∨ |value - whole| = 1 / 2 ∧ whole % 2 = 0

theorem halfEven_nearest (value : ℚ) : Nearest value (halfEven value) := by
  have below := Int.floor_le value
  have above := Int.lt_floor_add_one value
  unfold halfEven Nearest
  split
  · left
    rw [abs_of_nonneg (by linarith)]
    assumption
  · rename_i far
    split
    · left
      push_cast
      rw [abs_of_neg (by linarith)]
      linarith
    · rename_i near
      have half : value - ⌊value⌋ = 1 / 2 := le_antisymm (not_lt.mp near) (not_lt.mp far)
      right
      split
      · rename_i even
        exact ⟨by rw [half, abs_of_pos (by norm_num)], even⟩
      · rename_i odd
        push_cast
        refine ⟨?_, by omega⟩
        rw [abs_of_neg (by linarith)]
        linarith

theorem Nearest.within {value : ℚ} {whole : Int} (nearest : Nearest value whole) :
    |value - whole| ≤ 1 / 2 := by
  rcases nearest with close | ⟨half, -⟩
  · exact close.le
  · exact half.le

theorem Nearest.le {value : ℚ} {first second : Int} (nearest : Nearest value first)
    (nearest' : Nearest value second) : first ≤ second := by
  by_contra above
  have low := (abs_le.mp nearest.within).1
  have high := (abs_le.mp nearest'.within).2
  have close : (first : ℚ) - second ≤ 1 := by linarith
  have next : first = second + 1 := by
    have small : first - second ≤ 1 := by exact_mod_cast close
    omega
  have next' : (first : ℚ) = second + 1 := by exact_mod_cast next
  -- The value is half way between two neighbours, and one of them is odd.
  rcases nearest with strict | ⟨-, even⟩
  · have lower := (abs_lt.mp strict).1
    linarith
  · rcases nearest' with strict | ⟨-, even'⟩
    · have upper := (abs_lt.mp strict).2
      linarith
    · omega

theorem halfEven_eq_iff {value : ℚ} {whole : Int} : halfEven value = whole ↔ Nearest value whole := by
  constructor
  · rintro rfl
    exact halfEven_nearest value
  · exact fun nearest => Int.le_antisymm ((halfEven_nearest value).le nearest)
      (nearest.le (halfEven_nearest value))

theorem halfEven_intCast (value : Int) : halfEven (value : ℚ) = value := by
  have exact_half : (value : ℚ) - ⌊(value : ℚ)⌋ < 1 / 2 := by
    rw [Int.floor_intCast]
    norm_num
  rw [halfEven, if_pos exact_half, Int.floor_intCast]

theorem abs_halfEven_sub (value : ℚ) : |(halfEven value : ℚ) - value| ≤ 1 / 2 := by
  have near := halfEven_near value
  rw [abs_le]
  constructor <;> linarith

/-- Values more than one apart round apart. -/
theorem halfEven_lt {first second : ℚ} (apart : first + 1 < second) :
    halfEven first < halfEven second := by
  have low := (halfEven_near first).2
  have high := (halfEven_near second).1
  have strict : (halfEven first : ℚ) < halfEven second := by linarith
  exact_mod_cast strict

theorem halfEven_nonneg {value : ℚ} (nonneg : 0 ≤ value) : 0 ≤ halfEven value := by
  have floor := Int.floor_nonneg.mpr nonneg
  unfold halfEven
  split
  · exact floor
  · split
    · omega
    · split
      · exact floor
      · omega

theorem halfEven_lt_of_lt {value : ℚ} {bound : Int} (below : value < bound - 1 / 2) :
    halfEven value < bound := by
  have near := (halfEven_near value).2
  have strict : (halfEven value : ℚ) < bound := by linarith
  exact_mod_cast strict

/-- A tie below an even number goes up to it. -/
theorem halfEven_lt_iff {value : ℚ} {bound : Int} (even : bound % 2 = 0) :
    halfEven value < bound ↔ value < bound - 1 / 2 := by
  have near := halfEven_near value
  constructor
  · intro below
    by_contra reached
    have under : (halfEven value : ℚ) ≤ bound - 1 := by
      exact_mod_cast Int.le_sub_one_of_lt below
    have tie : value = bound - 1 / 2 := by linarith
    have floor : ⌊value⌋ = bound - 1 := by
      rw [Int.floor_eq_iff, tie]
      push_cast
      constructor <;> linarith
    have up : halfEven value = bound := by
      have remainder : value - ⌊value⌋ = 1 / 2 := by
        rw [floor, tie]
        push_cast
        ring
      have odd : ¬(bound - 1) % 2 = 0 := by omega
      rw [halfEven, if_neg (by rw [remainder]; exact lt_irrefl _),
        if_neg (by rw [remainder]; exact lt_irrefl _), floor, if_neg odd]
      omega
    omega
  · exact halfEven_lt_of_lt

/-- Values of one whole part are told apart by what is left of them. -/
theorem halfEven_mono {first second : ℚ} (le : first ≤ second) : halfEven first ≤ halfEven second := by
  rcases (Int.floor_mono le).lt_or_eq with less | same
  · have low : halfEven first ≤ ⌊first⌋ + 1 := by
      unfold halfEven
      split_ifs <;> omega
    have high : ⌊second⌋ ≤ halfEven second := by
      unfold halfEven
      split_ifs <;> omega
    omega
  · have left : first - ⌊first⌋ ≤ second - ⌊second⌋ := by
      rw [same]
      exact sub_le_sub_right le _
    unfold halfEven
    rw [same] at left ⊢
    split_ifs <;> first | omega | linarith

end Rounding

import Mathlib.Algebra.Order.Field.Basic
import Mathlib.Order.Monotone.Basic
import Mathlib.Tactic.Linarith

/- Linear interpolation through knots, constant before the first and after the last. -/
namespace Interpolation

universe u

variable {K : Type u} [Field K] [LinearOrder K]

/-- The value at `x` of the straight line from `(a, s)` to `(b, t)`. -/
def between (a s b t x : K) : K := s + (x - a) / (b - a) * (t - s)

/-- The curve through the knots. -/
def curve : List (K × K) → K → K
  | [], _ => 0
  | [knot], _ => knot.2
  | first :: second :: rest, x =>
    if x ≤ first.1 then first.2
    else if x < second.1 then between first.1 first.2 second.1 second.2 x
    else curve (second :: rest) x

/-- The arguments of the knots grow, and their values do not fall. -/
def Rising (knots : List (K × K)) : Prop :=
  knots.Pairwise fun earlier later => earlier.1 < later.1 ∧ earlier.2 ≤ later.2

omit [Field K] in
theorem Rising.tail {knot : K × K} {knots : List (K × K)} (rising : Rising (knot :: knots)) :
    Rising knots := (List.pairwise_cons.mp rising).2

theorem curve_before (knot : K × K) (rest : List (K × K)) {x : K} (before : x ≤ knot.1) :
    curve (knot :: rest) x = knot.2 := by
  cases rest with
  | nil => rfl
  | cons second rest => exact if_pos before

theorem curve_inside (first second : K × K) (rest : List (K × K)) {x : K} (after : first.1 < x)
    (before : x < second.1) :
    curve (first :: second :: rest) x = between first.1 first.2 second.1 second.2 x := by
  rw [curve, if_neg (not_le.mpr after), if_pos before]

/-- From the second knot on the first one no longer counts. -/
theorem curve_later {first second : K × K} (rest : List (K × K)) {x : K}
    (apart : first.1 < second.1) (after : second.1 ≤ x) :
    curve (first :: second :: rest) x = curve (second :: rest) x := by
  rw [curve, if_neg (not_le.mpr (lt_of_lt_of_le apart after)), if_neg (not_lt.mpr after)]

section Ordered

variable [IsStrictOrderedRing K]

theorem between_le_between {a s b t x y : K} (apart : a < b) (level : s ≤ t) (le : x ≤ y) :
    between a s b t x ≤ between a s b t y := by
  have span : 0 < b - a := sub_pos.mpr apart
  have rise : 0 ≤ t - s := sub_nonneg.mpr level
  have further := div_le_div_of_nonneg_right (sub_le_sub_right le a) (le_of_lt span)
  exact add_le_add_right (mul_le_mul_of_nonneg_right further rise) s

omit [LinearOrder K] [IsStrictOrderedRing K] in
theorem between_start (a s b t : K) : between a s b t a = s := by
  simp [between]

theorem between_end {a s b t : K} (apart : a < b) : between a s b t b = t := by
  have span : b - a ≠ 0 := ne_of_gt (sub_pos.mpr apart)
  rw [between, div_self span]
  linarith

/-- No value falls below that of the first knot. -/
theorem le_curve (knot : K × K) (rest : List (K × K)) (rising : Rising (knot :: rest)) (x : K) :
    knot.2 ≤ curve (knot :: rest) x := by
  induction rest generalizing knot with
  | nil => exact le_refl _
  | cons second rest ih =>
    obtain ⟨apart, level⟩ := (List.pairwise_cons.mp rising).1 second List.mem_cons_self
    rcases le_or_gt x knot.1 with before | after
    · rw [curve_before knot _ before]
    · rcases lt_or_ge x second.1 with inside | beyond
      · rw [curve_inside _ _ _ after inside]
        calc knot.2 = between knot.1 knot.2 second.1 second.2 knot.1 := (between_start ..).symm
          _ ≤ _ := between_le_between apart level (le_of_lt after)
      · rw [curve_later rest apart beyond]
        exact le_trans level (ih second rising.tail)

/-- No value exceeds that of the last knot. -/
theorem curve_le (knot : K × K) (rest : List (K × K)) (rising : Rising (knot :: rest)) (x : K) :
    curve (knot :: rest) x ≤ ((knot :: rest).getLast (List.cons_ne_nil _ _)).2 := by
  induction rest generalizing knot with
  | nil => exact le_refl _
  | cons second rest ih =>
    obtain ⟨apart, level⟩ := (List.pairwise_cons.mp rising).1 second List.mem_cons_self
    have later := ih second rising.tail
    have high : second.2 ≤ ((second :: rest).getLast (List.cons_ne_nil _ _)).2 :=
      le_trans (le_curve second rest rising.tail x) later
    rw [List.getLast_cons (List.cons_ne_nil second rest)]
    rcases le_or_gt x knot.1 with before | after
    · rw [curve_before knot _ before]
      exact le_trans level high
    · rcases lt_or_ge x second.1 with inside | beyond
      · rw [curve_inside _ _ _ after inside]
        refine le_trans ?_ high
        calc _ ≤ between knot.1 knot.2 second.1 second.2 second.1 :=
              between_le_between apart level (le_of_lt inside)
          _ = second.2 := between_end apart
      · rw [curve_later rest apart beyond]
        exact later

theorem curve_monotone (knots : List (K × K)) (rising : Rising knots) : Monotone (curve knots) := by
  induction knots with
  | nil => exact monotone_const
  | cons first rest ih =>
    cases rest with
    | nil => exact monotone_const
    | cons second rest =>
      intro x y le
      obtain ⟨apart, level⟩ := (List.pairwise_cons.mp rising).1 second List.mem_cons_self
      rcases le_or_gt x first.1 with before | after
      · rw [curve_before first _ before]
        exact le_curve first _ rising y
      · rcases lt_or_ge x second.1 with inside | beyond
        · rw [curve_inside _ _ _ after inside]
          rcases lt_or_ge y second.1 with also | past
          · rw [curve_inside _ _ _ (lt_of_lt_of_le after le) also]
            exact between_le_between apart level le
          · rw [curve_later rest apart past]
            refine le_trans ?_ (le_curve second rest rising.tail y)
            calc _ ≤ between first.1 first.2 second.1 second.2 second.1 :=
                  between_le_between apart level (le_of_lt inside)
              _ = second.2 := between_end apart
        · rw [curve_later rest apart beyond, curve_later rest apart (le_trans beyond le)]
          exact ih rising.tail le

omit [IsStrictOrderedRing K] in
/-- The curve passes through its knots. -/
theorem curve_knot (knots : List (K × K)) (rising : Rising knots) {knot : K × K}
    (member : knot ∈ knots) : curve knots knot.1 = knot.2 := by
  induction knots with
  | nil => exact absurd member List.not_mem_nil
  | cons first rest ih =>
    rcases List.mem_cons.mp member with rfl | later
    · exact curve_before _ rest (le_refl _)
    · cases rest with
      | nil => exact absurd later List.not_mem_nil
      | cons second rest =>
        have apart := ((List.pairwise_cons.mp rising).1 second List.mem_cons_self).1
        have beyond : second.1 ≤ knot.1 := by
          rcases List.mem_cons.mp later with rfl | after
          · exact le_refl _
          · exact le_of_lt ((List.pairwise_cons.mp rising.tail).1 knot after).1
        rw [curve_later rest apart beyond]
        exact ih rising.tail later

end Ordered

end Interpolation

import Mathlib.Analysis.Convex.Segment
import Mathlib.Tactic.FieldSimp
import Mathlib.Tactic.LinearCombination

/- Where two segments of the plane meet, over any ordered field. The two fractions at
which the lines cross come from Cramer's rule; the segments meet just when both lie in
the unit interval, and then in one point only. -/
namespace PlaneSegments

universe u

variable {K : Type u} [Field K]

/-- The wedge product of two vectors, zero just when they are parallel. -/
def wedge (v w : K × K) : K := v.1 * w.2 - v.2 * w.1

/-- The fraction along `a` to `b` at which its line meets the line of `c` and `d`. -/
def firstFraction (a b c d : K × K) : K := wedge (c - a) (d - c) / wedge (b - a) (d - c)

/-- The fraction along `c` to `d` at which its line meets the line of `a` and `b`. -/
def secondFraction (a b c d : K × K) : K := wedge (c - a) (b - a) / wedge (b - a) (d - c)

/-- The point at a fraction of the way from `a` to `b`. -/
def pointAt (a b : K × K) (t : K) : K × K := a + t • (b - a)

theorem wedge_back (a b w : K × K) : wedge (a - b) w = -wedge (b - a) w := by
  simp only [wedge, Prod.fst_sub, Prod.snd_sub]
  ring

/-- The two lines share a point at the two fractions and at no others. -/
theorem pointAt_eq_iff {a b c d : K × K} (apart : wedge (b - a) (d - c) ≠ 0) (t s : K) :
    pointAt a b t = pointAt c d s ↔ t = firstFraction a b c d ∧ s = secondFraction a b c d := by
  unfold firstFraction secondFraction
  rw [eq_div_iff apart, eq_div_iff apart]
  unfold wedge at apart ⊢
  simp only [pointAt, Prod.ext_iff, Prod.fst_add, Prod.snd_add, Prod.smul_fst, Prod.smul_snd,
    smul_eq_mul, Prod.fst_sub, Prod.snd_sub] at apart ⊢
  constructor
  · rintro ⟨first, second⟩
    constructor
    · linear_combination (d.2 - c.2) * first - (d.1 - c.1) * second
    · linear_combination (b.2 - a.2) * first - (b.1 - a.1) * second
  · rintro ⟨first, second⟩
    constructor
    · apply mul_right_cancel₀ apart
      linear_combination (b.1 - a.1) * first - (d.1 - c.1) * second
    · apply mul_right_cancel₀ apart
      linear_combination (b.2 - a.2) * first - (d.2 - c.2) * second

/-- Driving the first segment the other way turns its fraction round. -/
theorem firstFraction_back {a b c d : K × K} (apart : wedge (b - a) (d - c) ≠ 0) :
    firstFraction b a c d = 1 - firstFraction a b c d := by
  unfold firstFraction
  rw [wedge_back a b, div_neg, eq_sub_iff_add_eq, neg_add_eq_sub, ← sub_div, div_eq_one_iff_eq apart]
  simp only [wedge, Prod.fst_sub, Prod.snd_sub]
  ring

section Ordered

variable [LinearOrder K] [IsStrictOrderedRing K]

/-- Both fractions lie in the unit interval. -/
def Inside (a b c d : K × K) : Prop :=
  0 ≤ firstFraction a b c d ∧ firstFraction a b c d ≤ 1 ∧
    0 ≤ secondFraction a b c d ∧ secondFraction a b c d ≤ 1

instance (a b c d : K × K) : Decidable (Inside a b c d) := inferInstanceAs (Decidable (_ ∧ _))

theorem mem_segment_iff {a b p : K × K} :
    p ∈ segment K a b ↔ ∃ t, (0 ≤ t ∧ t ≤ 1) ∧ pointAt a b t = p := by
  rw [segment_eq_image']
  rfl

/-- A point of both segments is the crossing of their lines, and lies inside both. -/
theorem common_point {a b c d p : K × K} (apart : wedge (b - a) (d - c) ≠ 0)
    (first : p ∈ segment K a b) (second : p ∈ segment K c d) :
    Inside a b c d ∧ p = pointAt a b (firstFraction a b c d) := by
  obtain ⟨t, ⟨low, high⟩, here⟩ := mem_segment_iff.mp first
  obtain ⟨s, ⟨least, most⟩, there⟩ := mem_segment_iff.mp second
  obtain ⟨rfl, rfl⟩ := (pointAt_eq_iff apart t s).mp (here.trans there.symm)
  exact ⟨⟨low, high, least, most⟩, here.symm⟩

/-- Segments that are not parallel meet in the crossing of their lines, or nowhere. -/
theorem segment_inter {a b c d : K × K} (apart : wedge (b - a) (d - c) ≠ 0)
    (inside : Inside a b c d) :
    segment K a b ∩ segment K c d = {pointAt a b (firstFraction a b c d)} := by
  obtain ⟨low, high, least, most⟩ := inside
  apply Set.eq_singleton_iff_unique_mem.mpr
  refine ⟨⟨mem_segment_iff.mpr ⟨_, ⟨low, high⟩, rfl⟩, ?_⟩, ?_⟩
  · apply mem_segment_iff.mpr
    refine ⟨secondFraction a b c d, ⟨least, most⟩, ?_⟩
    exact ((pointAt_eq_iff apart _ _).mpr ⟨rfl, rfl⟩).symm
  · rintro p ⟨first, second⟩
    exact (common_point apart first second).2

theorem segments_meet_iff {a b c d : K × K} (apart : wedge (b - a) (d - c) ≠ 0) :
    (segment K a b ∩ segment K c d).Nonempty ↔ Inside a b c d := by
  constructor
  · rintro ⟨p, first, second⟩
    exact (common_point apart first second).1
  · intro inside
    rw [segment_inter apart inside]
    exact Set.singleton_nonempty _

end Ordered

end PlaneSegments

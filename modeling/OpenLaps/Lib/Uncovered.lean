import Mathlib.MeasureTheory.Measure.Lebesgue.Basic

/- What a list of sets leaves of another set, and its measure when no two sets of the
list share more than a null set. -/
namespace Uncovered

open MeasureTheory

universe u v

variable {α : Type u} {ι : Type v}

/-- The part of the whole that no set of the list covers. -/
def left (whole : Set α) (cover : ι → Set α) (items : List ι) : Set α :=
  whole \ ⋃ item ∈ items, cover item

theorem left_nil (whole : Set α) (cover : ι → Set α) : left whole cover [] = whole := by
  simp [left]

theorem left_cons (whole : Set α) (cover : ι → Set α) (item : ι) (items : List ι) :
    left whole cover (item :: items) = left whole cover items \ cover item := by
  ext point
  simp only [left, List.mem_cons, Set.iUnion_iUnion_eq_or_left, Set.mem_sdiff, Set.mem_union]
  tauto

theorem left_congr (whole : Set α) (cover : ι → Set α) {items others : List ι}
    (same : ∀ item, item ∈ items ↔ item ∈ others) :
    left whole cover items = left whole cover others := by
  simp only [left, same]

theorem left_inter (whole other : Set α) (cover : ι → Set α) (items : List ι) :
    left whole cover items ∩ other = (whole ∩ other) \ ⋃ item ∈ items, cover item := by
  ext point
  simp only [left, Set.mem_inter_iff, Set.mem_sdiff]
  tauto

/-- A list leaves of two sets together what it leaves of each. -/
theorem left_union (first second : Set α) (cover : ι → Set α) (items : List ι) :
    left (first ∪ second) cover items = left first cover items ∪ left second cover items :=
  Set.union_sdiff_distrib

section Measure

variable [MeasurableSpace α]

theorem aedisjoint_cover {μ : Measure α} {cover : ι → Set α} {item : ι} {items : List ι}
    (apart : ∀ other ∈ items, AEDisjoint μ (cover item) (cover other)) :
    AEDisjoint μ (cover item) (⋃ other ∈ items, cover other) := by
  unfold AEDisjoint
  rw [Set.inter_iUnion₂]
  exact (measure_biUnion_null_iff (List.finite_toSet items).countable).mpr apart

/-- The part of a set that a list leaves and the parts its sets cover make up the whole. -/
theorem measure_left_add (μ : Measure α) (whole : Set α) (cover : ι → Set α) (items : List ι)
    (measurable : ∀ item, MeasurableSet (cover item))
    (separate : items.Pairwise fun first second => AEDisjoint μ (cover first) (cover second)) :
    μ (left whole cover items) + (items.map fun item => μ (whole ∩ cover item)).sum = μ whole := by
  induction items with
  | nil => simp [left_nil]
  | cons item items ih =>
    obtain ⟨apart, rest⟩ := List.pairwise_cons.mp separate
    have missed : μ (left whole cover items ∩ cover item) = μ (whole ∩ cover item) := by
      rw [left_inter]
      exact ((aedisjoint_cover apart).mono Set.inter_subset_right subset_rfl).measure_sdiff_left
    rw [left_cons, List.map_cons, List.sum_cons, ← ih rest, ← missed, ← add_assoc,
      measure_sdiff_add_inter _ (measurable item)]

theorem measurableSet_left {whole : Set α} {cover : ι → Set α} (items : List ι)
    (inside : MeasurableSet whole) (measurable : ∀ item, MeasurableSet (cover item)) :
    MeasurableSet (left whole cover items) :=
  inside.diff (MeasurableSet.biUnion (List.finite_toSet items).countable fun item _ => measurable item)

end Measure

end Uncovered

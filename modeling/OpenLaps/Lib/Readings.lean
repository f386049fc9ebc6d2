import Mathlib.Algebra.Order.BigOperators.Group.List
import Mathlib.Data.List.Pairwise
import Mathlib.Order.Basic

/- A cumulative counter read at irregular times, and what its readings say about
consecutive windows of time. -/
namespace Readings

universe u v

structure Reading (T : Type u) (V : Type v) where
  time : T
  value : V
  deriving DecidableEq, Repr

section Sampling

variable {T : Type u} {V : Type v} [LinearOrder T]

/-- The readings are in order of time. -/
def Sorted (readings : List (Reading T V)) : Prop :=
  readings.Pairwise fun first second => first.time ≤ second.time

/-- The readings of a closed window. -/
def within (readings : List (Reading T V)) (start finish : T) : List (Reading T V) :=
  readings.filter fun reading => start ≤ reading.time ∧ reading.time ≤ finish

/-- The last reading up to a time. -/
def latest (readings : List (Reading T V)) (time : T) : Option (Reading T V) :=
  (readings.filter fun reading => reading.time ≤ time).getLast?

/-- The first reading from a time on. -/
def earliest (readings : List (Reading T V)) (time : T) : Option (Reading T V) :=
  (readings.filter fun reading => time ≤ reading.time).head?

theorem Sorted.within {readings : List (Reading T V)} (sorted : Sorted readings)
    (start finish : T) : Sorted (Readings.within readings start finish) :=
  List.Pairwise.filter _ sorted

/-- A window that has a reading begins with the first one from its start on. -/
theorem head?_within {readings : List (Reading T V)} (sorted : Sorted readings) {start finish : T}
    (some_inside : within readings start finish ≠ []) :
    (within readings start finish).head? = earliest readings start := by
  unfold within earliest at *
  induction readings with
  | nil => rfl
  | cons reading rest ih =>
    obtain ⟨below, later⟩ := List.pairwise_cons.mp sorted
    by_cases early : start ≤ reading.time
    · by_cases inside : reading.time ≤ finish
      · rw [List.filter_cons_of_pos (by simp [early, inside]),
          List.filter_cons_of_pos (by simp [early])]
        rfl
      · -- Everything from here on is past the window.
        exfalso
        apply some_inside
        apply List.filter_eq_nil_iff.mpr
        intro other member within_both
        have bounds := of_decide_eq_true within_both
        rcases List.mem_cons.mp member with same | after
        · rw [same] at bounds
          exact inside bounds.2
        · exact inside ((below other after).trans bounds.2)
    · rw [List.filter_cons_of_neg (by simp [early])] at some_inside ⊢
      rw [List.filter_cons_of_neg (by simp [early])]
      exact ih later some_inside

/-- It ends with the last one up to its finish. -/
theorem getLast?_within {readings : List (Reading T V)} (sorted : Sorted readings)
    {start finish : T} (some_inside : within readings start finish ≠ []) :
    (within readings start finish).getLast? = latest readings finish := by
  unfold within latest at *
  induction readings with
  | nil => rfl
  | cons reading rest ih =>
    obtain ⟨below, later⟩ := List.pairwise_cons.mp sorted
    by_cases more : rest.filter (fun other => start ≤ other.time ∧ other.time ≤ finish) = []
    · have inside : start ≤ reading.time ∧ reading.time ≤ finish := by
        by_contra outside
        rw [List.filter_cons_of_neg (by simpa using outside)] at some_inside
        exact some_inside more
      have past : rest.filter (fun other => other.time ≤ finish) = [] := by
        apply List.filter_eq_nil_iff.mpr
        intro other member before
        have first := inside.1.trans (below other member)
        have last := of_decide_eq_true before
        exact List.filter_eq_nil_iff.mp more other member (decide_eq_true ⟨first, last⟩)
      rw [List.filter_cons_of_pos (by simpa using inside),
        List.filter_cons_of_pos (by simpa using inside.2), more, past]
    · have rest_last := ih later more
      have some_before : rest.filter (fun other => other.time ≤ finish) ≠ [] := by
        intro none_before
        apply more
        apply List.filter_eq_nil_iff.mpr
        intro other member inside
        have bounds := of_decide_eq_true inside
        exact List.filter_eq_nil_iff.mp none_before other member (decide_eq_true bounds.2)
      have drop : ∀ keep : Reading T V → Bool, rest.filter keep ≠ [] →
          ((reading :: rest).filter keep).getLast? = (rest.filter keep).getLast? := by
        intro keep nonempty
        rw [List.filter_cons]
        split
        · rw [List.getLast?_cons_of_ne_nil nonempty]
        · rfl
      rw [drop _ more, drop _ some_before]
      exact rest_last

end Sampling

/-- A sum of terms that are not negative is zero only if they all are. -/
theorem sum_eq_zero_iff {V : Type v} [AddCommGroup V] [PartialOrder V] [IsOrderedAddMonoid V]
    {values : List V} (nonneg : ∀ value ∈ values, 0 ≤ value) :
    values.sum = 0 ↔ ∀ value ∈ values, value = 0 := by
  constructor
  · intro zero
    exact fun value member => List.all_zero_of_le_zero_le_of_sum_eq_zero nonneg zero member
  · exact List.sum_eq_zero

end Readings

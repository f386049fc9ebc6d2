import Mathlib.Algebra.BigOperators.Group.List.Basic
import Mathlib.Algebra.Ring.Nat

/- A byte budget on a queue: items are popped while the total exceeds the
budget and more than one item is left. The queue is listed in pop order, so
the same loop serves a deque popped at either end. -/
namespace Shedding

universe u

variable {α : Type u}

/-- Total size of a queue. -/
def total (size : α → Nat) (queue : List α) : Nat := (queue.map size).sum

@[simp] theorem total_nil (size : α → Nat) : total size [] = 0 := rfl

@[simp] theorem total_cons (size : α → Nat) (item : α) (queue : List α) :
    total size (item :: queue) = size item + total size queue := by
  simp only [total, List.map_cons, List.sum_cons]

@[simp] theorem total_append (size : α → Nat) (first second : List α) :
    total size (first ++ second) = total size first + total size second := by
  simp only [total, List.map_append, List.sum_append]

@[simp] theorem total_reverse (size : α → Nat) (queue : List α) :
    total size queue.reverse = total size queue := by
  simp only [total, List.map_reverse, List.sum_reverse]

/-- What the loop leaves: the kept queue, the running total, and each popped
item together with the queue that remained behind it. -/
structure Outcome (α : Type u) where
  kept : List α
  bytes : Int
  popped : List (α × List α)

def shed (size : α → Nat) (budget : Nat) : List α → Int → Outcome α
  | [], bytes => ⟨[], bytes, []⟩
  | [last], bytes => ⟨[last], bytes, []⟩
  | item :: next :: rest, bytes =>
    if bytes > budget then
      let after := shed size budget (next :: rest) (bytes - size item)
      { after with popped := (item, next :: rest) :: after.popped }
    else
      ⟨item :: next :: rest, bytes, []⟩

theorem shed_split (size : α → Nat) (budget : Nat) (queue : List α) (bytes : Int) :
    queue = (shed size budget queue bytes).popped.map Prod.fst ++
      (shed size budget queue bytes).kept := by
  fun_induction shed size budget queue bytes with
  | case1 => rfl
  | case2 => rfl
  | case3 item next rest bytes excess after ih => simpa only [List.map_cons, List.cons_append,
      List.cons.injEq, true_and] using ih
  | case4 => rfl

theorem shed_bytes (size : α → Nat) (budget : Nat) (queue : List α) (bytes : Int)
    (exact_total : bytes = total size queue) :
    (shed size budget queue bytes).bytes = total size (shed size budget queue bytes).kept := by
  fun_induction shed size budget queue bytes with
  | case1 => exact exact_total
  | case2 => exact exact_total
  | case3 item next rest bytes excess after ih =>
    apply ih
    rw [exact_total, total_cons]
    omega
  | case4 => exact exact_total

/-- The loop stops within budget, or with a single item. -/
theorem shed_bounded (size : α → Nat) (budget : Nat) (queue : List α) (bytes : Int)
    (nonempty : queue ≠ []) :
    (shed size budget queue bytes).bytes ≤ budget ∨
      (shed size budget queue bytes).kept.length = 1 := by
  fun_induction shed size budget queue bytes with
  | case1 => exact absurd rfl nonempty
  | case2 => exact Or.inr rfl
  | case3 item next rest bytes excess after ih => exact ih (List.cons_ne_nil next rest)
  | case4 item next rest bytes within => exact Or.inl (Int.not_lt.mp within)

/-- Each popped item stood directly in front of what remained. -/
theorem shed_popped (size : α → Nat) (budget : Nat) (queue : List α) (bytes : Int)
    (item : α) (remaining : List α)
    (member : (item, remaining) ∈ (shed size budget queue bytes).popped) :
    remaining ≠ [] ∧ (item :: remaining).IsSuffix queue := by
  fun_induction shed size budget queue bytes with
  | case1 => cases member
  | case2 => cases member
  | case3 first next rest bytes excess after ih =>
    rcases List.mem_cons.mp member with same | later
    · obtain ⟨rfl, rfl⟩ := Prod.mk.inj same
      exact ⟨List.cons_ne_nil next rest, List.suffix_refl _⟩
    · obtain ⟨left, suffix⟩ := ih later
      exact ⟨left, suffix.trans (List.suffix_cons first (next :: rest))⟩
  | case4 => cases member

theorem shed_within (size : α → Nat) (budget : Nat) (queue : List α) (bytes : Int)
    (within : bytes ≤ budget ∨ queue.length ≤ 1) :
    shed size budget queue bytes = ⟨queue, bytes, []⟩ := by
  fun_cases shed size budget queue bytes with
  | case1 => rfl
  | case2 => rfl
  | case3 =>
    rename_i excess after
    rcases within with low | short
    · exact absurd low (Int.not_le.mpr excess)
    · simp only [List.length_cons] at short
      omega
  | case4 => rfl

/-- Nothing is popped exactly when the loop is not entered. -/
theorem shed_popped_eq_nil (size : α → Nat) (budget : Nat) (queue : List α) (bytes : Int) :
    (shed size budget queue bytes).popped = [] ↔ bytes ≤ budget ∨ queue.length ≤ 1 := by
  constructor
  · intro quiet
    fun_cases shed size budget queue bytes with
    | case1 => exact Or.inr (Nat.zero_le 1)
    | case2 => exact Or.inr (Nat.le_refl 1)
    | case3 =>
      rename_i excess after
      rw [shed, if_pos excess] at quiet
      cases quiet
    | case4 =>
      rename_i within
      exact Or.inl (Int.not_lt.mp within)
  · intro within
    rw [shed_within size budget queue bytes within]

end Shedding

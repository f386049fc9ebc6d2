import Mathlib.Data.List.Basic
import Mathlib.Data.Quot

universe u v w

/- Folds over steps that commute: which reorderings of the steps end in the same state. -/
namespace Commuting

variable {σ : Type u} {α : Type v} (step : σ → α → σ)

/-- The order of two steps does not matter. -/
def Commutes (first second : α) : Prop :=
  ∀ state, step (step state first) second = step (step state second) first

variable {step}

/-- A step passes a list of steps that it commutes with. -/
theorem foldl_comm {item : α} {items : List α} (commute : ∀ other ∈ items, Commutes step item other)
    (state : σ) : items.foldl step (step state item) = step (items.foldl step state) item := by
  induction items generalizing state with
  | nil => rfl
  | cons other rest ih =>
    rw [List.foldl_cons, List.foldl_cons, commute other (by simp) state]
    exact ih (fun next member => commute next (by simp [member])) _

/-- The early steps may run before all others, if each commutes with the others before it. -/
theorem foldl_early (early : α → Bool) {items : List α}
    (swap : items.Pairwise fun first second =>
      early first = false → early second = true → Commutes step first second) (state : σ) :
    items.foldl step state =
      (items.filter fun item => !early item).foldl step ((items.filter early).foldl step state) := by
  induction items generalizing state with
  | nil => rfl
  | cons item rest ih =>
    rw [List.pairwise_cons] at swap
    rw [List.foldl_cons, ih swap.2]
    cases kind : early item with
    | true => simp [kind]
    | false =>
      have pass : (rest.filter early).foldl step (step state item) =
          step ((rest.filter early).foldl step state) item := by
        refine foldl_comm (fun other member => ?_) state
        rw [List.mem_filter] at member
        exact swap.1 other member.1 kind member.2
      simp [kind, pass]

/-- Steps on different keys commute: two lists with the same steps on every key, each in
the same order, end in the same state. -/
theorem foldl_eq_of_keys {κ : Type w} [DecidableEq κ] (key : α → κ)
    (commute : ∀ first second, key first ≠ key second → Commutes step first second)
    {items items' : List α}
    (same : ∀ wanted, items.filter (fun item => key item = wanted) =
      items'.filter fun item => key item = wanted) (state : σ) :
    items.foldl step state = items'.foldl step state := by
  induction items generalizing items' state with
  | nil =>
    have empty : items' = [] := by
      cases items' with
      | nil => rfl
      | cons item rest => simpa using same (key item)
    rw [empty]
  | cons item rest ih =>
    have first := same (key item)
    rw [List.filter_cons_of_pos (by simp)] at first
    obtain ⟨before, after, split, before', after'⟩ := List.filter_eq_cons_iff.1 first.symm
    have others : ∀ other ∈ before, key other ≠ key item := by simpa using before'
    have moved : items'.foldl step state = (before ++ after).foldl step (step state item) := by
      rw [split, List.foldl_append, List.foldl_append, List.foldl_cons,
        foldl_comm fun other member => commute _ _ (Ne.symm (others other member))]
    rw [List.foldl_cons, moved]
    refine ih (fun wanted => ?_) _
    have rest' := same wanted
    rw [split] at rest'
    by_cases here : key item = wanted
    · have empty : before.filter (fun item => decide (key item = wanted)) = [] := by
        simpa [List.filter_eq_nil_iff, ← here] using others
      simpa [here, empty] using rest'
    · simpa [here] using rest'

section Related

variable (related : Setoid σ)

/-- A step on the classes of a relation that it keeps. -/
def onClasses (step : σ → α → σ)
    (kept : ∀ state state' item, related state state' → related (step state item) (step state' item))
    (state : Quotient related) (item : α) : Quotient related :=
  Quotient.map (fun state => step state item) (fun _ _ near => kept _ _ item near) state

theorem foldl_onClasses
    (kept : ∀ state state' item, related state state' → related (step state item) (step state' item))
    (items : List α) (state : σ) :
    items.foldl (onClasses related step kept) (Quotient.mk related state) =
      Quotient.mk related (items.foldl step state) := by
  induction items generalizing state with
  | nil => rfl
  | cons item rest ih => exact ih (step state item)

/-- `foldl_eq_of_keys` for steps that commute only up to a relation that they keep. -/
theorem foldl_related_of_keys {κ : Type w} [DecidableEq κ] (key : α → κ)
    (kept : ∀ state state' item, related state state' → related (step state item) (step state' item))
    (commute : ∀ first second, key first ≠ key second → ∀ state,
      related (step (step state first) second) (step (step state second) first))
    {items items' : List α}
    (same : ∀ wanted, items.filter (fun item => key item = wanted) =
      items'.filter fun item => key item = wanted) {state state' : σ} (start : related state state') :
    related (items.foldl step state) (items'.foldl step state') := by
  have commutes : ∀ first second, key first ≠ key second →
      Commutes (onClasses related step kept) first second := by
    intro first second apart state
    induction state using Quotient.ind with
    | _ state => exact Quotient.sound (commute first second apart state)
  apply Quotient.exact
  rw [← foldl_onClasses related kept, ← foldl_onClasses related kept, Quotient.sound start]
  exact foldl_eq_of_keys key commutes same _

end Related

end Commuting

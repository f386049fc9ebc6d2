import Mathlib.Algebra.Order.Group.Unbundled.Basic
import Mathlib.Tactic.Linarith

/- A budget that is spent on the way and filled at some of the stops. If every leg stays
within what is left, the way between two fills stays within the fill. A way that is no
longer than so many fills can be cut into as many stages. -/
namespace Budget

variable {α σ : Type*} [Field α]

/-- How far it is from one chosen stop to the next, the first counted from `since`. -/
def gaps (place : σ → α) (chosen : σ → Bool) : α → List σ → List α
  | _, [] => []
  | since, stop :: rest =>
    if chosen stop then (place stop - since) :: gaps place chosen (place stop) rest
    else gaps place chosen since rest

theorem gaps_map {τ : Type*} (place : σ → α) (chosen : σ → Bool) (relabel : τ → σ) (since : α)
    (stops : List τ) :
    gaps place chosen since (stops.map relabel) =
      gaps (place ∘ relabel) (chosen ∘ relabel) since stops := by
  induction stops generalizing since with
  | nil => rfl
  | cons stop rest ih =>
    rw [List.map_cons, gaps, gaps, ih, ih]
    rfl

variable [LinearOrder α]

/-- Every leg stays within what is left; a chosen stop fills it. A budget that is
overdrawn lets nothing be spent. -/
def Kept (place : σ → α) (chosen : σ → Bool) (fill : α) : α → α → List σ → Prop
  | _, _, [] => True
  | here, left, stop :: rest =>
    place stop - here ≤ max left 0 ∧
      Kept place chosen fill (place stop)
        (if chosen stop then fill else left - (place stop - here)) rest

variable [IsStrictOrderedRing α]

variable {place : σ → α} {chosen : σ → Bool} {fill here left since bound : α} {stops : List σ}

/-- What is left after a leg within it covers no more than before. -/
theorem left_le {spent : α} (within : spent ≤ max left 0) :
    spent + max (left - spent) 0 ≤ max left 0 := by
  rcases le_total (left - spent) 0 with less | more
  · rw [max_eq_right less]
    linarith
  · rw [max_eq_left more]
    have most : left ≤ max left 0 := le_max_left left 0
    linarith

/-- The way to the first fill stays within what was left, and the way between two fills
within the fill. -/
theorem Kept.gaps_le (kept : Kept place chosen fill here left stops)
    (room : here - since + max left 0 ≤ bound) :
    (∀ gap ∈ (gaps place chosen since stops).head?, gap ≤ bound) ∧
      ∀ gap ∈ (gaps place chosen since stops).tail, gap ≤ max fill 0 := by
  induction stops generalizing here left since bound with
  | nil =>
    constructor
    · intro gap member
      cases member
    · intro gap member
      cases member
  | cons stop rest ih =>
    obtain ⟨within, later⟩ := kept
    rw [gaps]
    split
    · rename_i filled
      rw [if_pos filled] at later
      have room' : place stop - place stop + max fill 0 ≤ max fill 0 := by linarith
      have next := ih later room'
      constructor
      · intro gap first
        cases first
        linarith
      · intro gap member
        change gap ∈ gaps place chosen (place stop) rest at member
        cases parts : gaps place chosen (place stop) rest with
        | nil =>
          rw [parts] at member
          cases member
        | cons first others =>
          rw [parts] at member next
          rcases List.mem_cons.mp member with same | inside
          · exact next.1 gap (by rw [same]; rfl)
          · exact next.2 gap inside
    · rename_i passed
      rw [if_neg passed] at later
      have less := left_le within
      exact ih later (by linarith)

/-- A way can be cut into so many stages exactly when it is no longer than all of them. -/
theorem stages_iff {step : Int} (nonneg : 0 ≤ step) (count : Nat) (here finish : Int) :
    (∃ stops : List Int, stops.length = count ∧ (here :: (stops ++ [finish])).IsChain
      fun first second => first ≤ second ∧ second - first ≤ step) ↔
      here ≤ finish ∧ finish - here ≤ (count + 1) * step := by
  induction count generalizing here with
  | zero =>
    constructor
    · rintro ⟨stops, none, chain⟩
      rw [List.length_eq_zero_iff.mp none] at chain
      simpa using chain
    · intro within
      exact ⟨[], rfl, by simpa using within⟩
  | succ count ih =>
    constructor
    · rintro ⟨stops, length, chain⟩
      cases stops with
      | nil => cases length
      | cons next rest =>
        rw [List.cons_append, List.isChain_cons_cons] at chain
        obtain ⟨ahead, within⟩ := (ih next).mp ⟨rest, Nat.succ.inj length, chain.2⟩
        push_cast
        constructor
        · omega
        · linarith
    · rintro ⟨ahead, within⟩
      push_cast at within
      have enough : 0 ≤ ((count : Int) + 1) * step := mul_nonneg (by omega) nonneg
      have rest : finish - min (here + step) finish ≤ (count + 1) * step := by
        rcases le_total (here + step) finish with far | near
        · rw [min_eq_left far]
          linarith
        · rw [min_eq_right near]
          linarith
      obtain ⟨stops, length, chain⟩ := (ih (min (here + step) finish)).mpr
        ⟨min_le_right _ _, rest⟩
      refine ⟨min (here + step) finish :: stops, by rw [List.length_cons, length], ?_⟩
      rw [List.cons_append, List.isChain_cons_cons]
      refine ⟨⟨?_, ?_⟩, chain⟩
      · omega
      · omega

end Budget

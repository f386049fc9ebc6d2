import Mathlib.Algebra.Order.Floor.Ring
import OpenLaps.Core.Numbers
import OpenLaps.Lib.Budget
import OpenLaps.Pit.Strategy.StopCount

/- The pit window. Where it opens counts fractions of a lap for every fill, and a car stops
only at the end of a lap. -/
namespace OpenLaps.Strategy

/-- The refuels that the operator still plans. -/
def plannedRefuels (plan : PlanFacts) (lapCount : Int) (now : ℚ) : Nat :=
  (remainingPlanned plan lapCount now).countP fun stop => stop.type = .refuel

/-- From a full tank at `lap` to the finish on so many refuels in all, the one at `lap`
counted: whole laps, and no leg longer than a full tank. -/
def MakesEnd (full : ℚ) (finish count lap : Int) : Prop :=
  ∃ later : List Int, (later.length : Int) + 1 = count ∧
    (lap :: (later ++ [finish])).IsChain fun (here next : Int) =>
      here ≤ next ∧ (next - here : ℚ) ≤ full

/-- Every lap of the window can be reached, and the end from it. -/
def SafeWindow (lapCount finish count windowOpen windowClose : Int) (lapsLo full : ℚ) : Prop :=
  ∀ lap, windowOpen ≤ lap → lap ≤ windowClose →
    lapCount ≤ lap ∧ (lap - lapCount : ℚ) ≤ lapsLo ∧ MakesEnd full finish count lap

/-- The lap from which so many full tanks reach the end, as `evaluate` subtracts doubles. -/
def firstLapFor (finish fills : Int) (full : ℚ) : ℚ :=
  Binary64.round (finish - Binary64.round (fills * full))

/-- `window_open_lap` and `window_close_lap`, unless the full tanks overflow. -/
def pitWindow (lapCount laps total : Int) (lapsLo full : ℚ) : Except PyError (Int × Int) :=
  if (PyFloat.limit : ℚ) ≤ total * full then
    .error (.overflowError "cannot convert float infinity to integer")
  else .ok (max lapCount ⌈firstLapFor (lapCount + laps) total full⌉, lapCount + ⌊lapsLo⌋)

/-- For the fewest refuels that are enough in fractions of a lap: either whole laps make it on
as many full tanks, or the fractions that they lose do not add up to a lap. -/
def LosesNoLap (finish laps : Int) (lapsLo full : ℚ) (planned : Nat) : Prop :=
  ∀ fills : Nat, IsLeast {fills : Nat | planned ≤ fills ∧ fillsAsked laps lapsLo full ≤ fills} fills →
    laps ≤ fills * ⌊full⌋ ∨
      ((finish - fills * ⌊full⌋ - 1 : Int) : ℚ) < firstLapFor finish fills full

/-- Whole laps on full tanks. -/
theorem makesEnd_iff {full : ℚ} (filled : 0 ≤ full) {finish count lap : Int} (some : 0 < count) :
    MakesEnd full finish count lap ↔ lap ≤ finish ∧ finish - lap ≤ count * ⌊full⌋ := by
  have legs : ∀ here next : Int, (here ≤ next ∧ (next - here : ℚ) ≤ full) ↔
      (here ≤ next ∧ next - here ≤ ⌊full⌋) := by
    intro here next
    rw [Int.le_floor]
    push_cast
    rfl
  have total : ((count - 1).toNat : Int) + 1 = count := by omega
  have whole := Budget.stages_iff (Int.floor_nonneg.mpr filled) (count - 1).toNat lap finish
  rw [total] at whole
  rw [← whole, MakesEnd]
  simp only [legs]
  constructor
  · rintro ⟨later, length, chain⟩
    exact ⟨later, by omega, chain⟩
  · rintro ⟨later, length, chain⟩
    exact ⟨later, by omega, chain⟩

/-- The end is in reach of whole laps from the opening exactly when it is from the lap at hand,
or the formula opens late enough. -/
theorem opening_iff (lapCount finish range : Int) (first : ℚ) :
    finish - max lapCount ⌈first⌉ ≤ range ↔
      finish - lapCount ≤ range ∨ ((finish - range - 1 : Int) : ℚ) < first := by
  rw [← Int.lt_ceil]
  omega

/-- The first number that is also no fewer than planned. -/
theorem planned_isLeast {reach : Nat → Prop} {count : Nat} (planned : Nat)
    (upward : ∀ number more, number ≤ more → reach number → reach more)
    (least : IsLeast {number | reach number} count) :
    IsLeast {number | planned ≤ number ∧ reach number} (max count planned) := by
  constructor
  · exact ⟨le_max_right _ _, upward count _ (le_max_left _ _) least.1⟩
  · intro number met
    exact max_le (least.2 met.2) met.1

/-- The refuels in all are the fewest that are planned and enough in fractions of a lap. -/
theorem total_isLeast {laps needed : Int} {lapsLo full : ℚ} (whole : 1 ≤ full)
    (needs : stopsNeeded laps lapsLo full = some needed) (planned : Nat) :
    ∃ total : Nat, max needed (planned : Int) = total ∧
      IsLeast {fills : Nat | planned ≤ fills ∧ fillsAsked laps lapsLo full ≤ fills} total := by
  obtain ⟨count, found, formula⟩ := stopsNeeded_isLeast laps lapsLo whole
  cases found.symm.trans needs
  refine ⟨max count planned, by omega, planned_isLeast planned ?_ formula⟩
  intro few many more asked
  exact asked.trans (by exact_mod_cast more)

theorem losesNoLap_iff {finish laps : Int} {lapsLo full : ℚ} {planned total : Nat}
    (least : IsLeast {fills : Nat | planned ≤ fills ∧ fillsAsked laps lapsLo full ≤ fills} total) :
    LosesNoLap finish laps lapsLo full planned ↔ laps ≤ total * ⌊full⌋ ∨
      ((finish - total * ⌊full⌋ - 1 : Int) : ℚ) < firstLapFor finish total full := by
  constructor
  · intro every
    exact every total least
  · intro holds fills fewest
    rw [fewest.unique least]
    exact holds

theorem pitWindow_ok {lapCount laps total windowOpen windowClose : Int} {lapsLo full : ℚ}
    (window : pitWindow lapCount laps total lapsLo full = .ok (windowOpen, windowClose)) :
    max lapCount ⌈firstLapFor (lapCount + laps) total full⌉ = windowOpen ∧
      lapCount + ⌊lapsLo⌋ = windowClose := by
  unfold pitWindow at window
  split at window
  · cases window
  · exact Prod.mk.inj (Except.ok.inj window)

theorem firstLapFor_zero {finish : Int} (fits : |finish| ≤ 2 ^ 53) (full : ℚ) :
    firstLapFor finish 0 full = finish := by
  rw [firstLapFor, Int.cast_zero, zero_mul, Binary64.round_zero, sub_zero,
    Binary64.round_intCast fits]

/-- With a race of so many laps and a window that is open, whatever the range now and on a full
tank, every lap of the window is safe to stop at exactly when whole laps lose none against full
tanks. -/
theorem window_iff (plan : PlanFacts) (lapCount : Nat) (lapTimeS : Option ℚ) (now lapsLo full : ℚ)
    (finish laps needed windowOpen windowClose : Int) (authority : plan.endAuthority = .laps)
    (ends : plan.raceEndLaps = some finish) (column : finish ≤ 2147483647)
    (left : lapsRemaining (some plan) lapCount lapTimeS now = some laps)
    (enough : 0 ≤ lapsLo) (whole : 1 ≤ full) (short : lapsLo < laps)
    (needs : stopsNeeded laps lapsLo full = some needed)
    (window : pitWindow lapCount laps (max needed (plannedRefuels plan lapCount now)) lapsLo full =
      .ok (windowOpen, windowClose))
    (ordered : windowOpen ≤ windowClose) :
    SafeWindow lapCount finish (max needed (plannedRefuels plan lapCount now)) windowOpen windowClose
        lapsLo full ↔
      LosesNoLap finish laps lapsLo full (plannedRefuels plan lapCount now) := by
  have floors : 0 ≤ ⌊lapsLo⌋ ∧ ⌊lapsLo⌋ < laps :=
    ⟨Int.floor_nonneg.mpr enough, Int.floor_lt.mpr short⟩
  have remaining : (lapCount : Int) + laps = finish := by
    have known : max (finish - (lapCount : Int)) 0 = laps := by
      simpa only [lapsRemaining, authority, ends, if_true, Option.some_inj] using left
    omega
  obtain ⟨total, same, least⟩ := total_isLeast whole needs (plannedRefuels plan lapCount now)
  rw [same] at window ⊢
  obtain ⟨opened, closed⟩ := pitWindow_ok window
  rw [remaining] at opened
  have some : 0 < total := by
    by_contra none
    have zero : total = 0 := by omega
    have fits : |finish| ≤ 2 ^ 53 := by
      rw [abs_of_nonneg] <;> omega
    rw [zero, Nat.cast_zero, firstLapFor_zero fits, Int.ceil_intCast] at opened
    omega
  have reaches : ∀ lap : Int, MakesEnd full finish total lap ↔
      lap ≤ finish ∧ finish - lap ≤ total * ⌊full⌋ := fun lap =>
    makesEnd_iff (by linarith) (by omega)
  have opening := opening_iff lapCount finish (total * ⌊full⌋) (firstLapFor finish total full)
  have started : finish - lapCount = laps := by omega
  rw [opened, started] at opening
  rw [losesNoLap_iff least, ← opening]
  constructor
  · intro safe
    exact ((reaches windowOpen).mp (safe windowOpen le_rfl ordered).2.2).2
  · intro reached lap after before
    have within : lap - lapCount ≤ ⌊lapsLo⌋ := by omega
    refine ⟨by omega, ?_, (reaches lap).mpr ⟨by omega, by omega⟩⟩
    have range := Int.le_floor.mp within
    push_cast at range
    exact range

theorem window_sprint : SafeWindow 1 4 2 1 1 0 2 := by
  have planned : plannedRefuels (sprintPlan 4 (by decide)) (1 : Nat) 110 = 0 := by decide +kernel
  have needs : stopsNeeded 3 0 2 = some 2 := by decide +kernel
  have window : pitWindow (1 : Nat) 3
      (max 2 (plannedRefuels (sprintPlan 4 (by decide)) (1 : Nat) 110 : Nat)) 0 2 = .ok (1, 1) := by
    decide +kernel
  have safe := (window_iff (sprintPlan 4 (by decide)) 1 none 110 0 2 4 3 2 1 1 rfl rfl (by decide)
    (by decide) le_rfl (by decide) (by decide) needs window le_rfl).mpr
  rw [planned] at safe
  apply safe
  intro fills fewest
  have some : fillsAsked 3 0 2 = 3 / 2 ∧ ⌊(2 : ℚ)⌋ = 2 := by decide +kernel
  have two : 1 < fills := by
    have asked : fillsAsked 3 0 2 ≤ fills := fewest.1.2
    have more : (1 : ℚ) < fills := by linarith
    exact_mod_cast more
  left
  rw [some.2]
  omega

/-- On a lap and a half a fill, two refuels from lap one reach lap three, and the race ends
at lap four. -/
theorem window_closed :
    ((projectionOf plainRuntime (sprint (sprintPlan 3 (by decide))) defaultPolicy).toOption.map
        fun projection => (projection.lapsRemaining, projection.lapsLo, projection.fullRangeLo)) =
      some (some 3, some 0, some (3 / 2)) ∧
    stopsNeeded 3 0 (3 / 2) = some 2 ∧ plannedRefuels (sprintPlan 3 (by decide)) 1 110 = 0 ∧
    pitWindow 1 3 (max 2 0) 0 (3 / 2) = .ok (1, 1) ∧ ¬ SafeWindow 1 4 (max 2 0) 1 1 0 (3 / 2) := by
  refine ⟨by decide +kernel, by decide +kernel, by decide +kernel, by decide +kernel, ?_⟩
  intro safe
  have ends := (safe 1 le_rfl le_rfl).2.2
  rw [makesEnd_iff (by norm_num) (by omega)] at ends
  have fill : ⌊(3 / 2 : ℚ)⌋ = 1 := by decide +kernel
  rw [fill] at ends
  omega

end OpenLaps.Strategy

import Mathlib.Order.Bounds.Basic
import OpenLaps.Lib.Attempt
import OpenLaps.Lib.Binary64
import OpenLaps.Pit.Strategy.CleanLaps

/- The stops needed against the stops of the plan: one is a formula over fractions of a
lap, the other a walk in whole laps. Both are a first number of fills. -/
namespace OpenLaps.Strategy

/-- How many fills the laps that are left ask for, as `evaluate` divides doubles. -/
def fillsAsked (laps : Int) (lapsLo full : ℚ) : ℚ :=
  Binary64.round (Binary64.round (laps - lapsLo) / full)

/-- `stops_needed`. -/
def stopsNeeded (laps : Int) (lapsLo full : ℚ) : Option Int :=
  if (laps : ℚ) ≤ lapsLo then some 0
  else if full < 1 then none
  else some ⌈fillsAsked laps lapsLo full⌉

/-- Where some number of fills is enough in fractions of a lap, it is in whole laps. -/
def WholeLaps (laps : Int) (lapsLo full : ℚ) : Prop :=
  ∀ fills : Nat, fillsAsked laps lapsLo full ≤ fills → laps ≤ ⌊lapsLo⌋ + fills * ⌊full⌋

/-- The refuelling stops of a plan. -/
def refuels (stops : List PlanEntry) : Nat := stops.countP fun stop => stop.type = .refuel

/-- Of two conditions on a number, one inside the other, the first numbers that meet them
are equal exactly when the conditions are. -/
theorem least_eq_iff {inner outer : Nat → Prop} {first second : Nat}
    (inside : ∀ number, inner number → outer number)
    (upward : ∀ number more, number ≤ more → inner number → inner more)
    (one : IsLeast {number | outer number} first) (two : IsLeast {number | inner number} second) :
    first = second ↔ ∀ number, outer number → inner number := by
  constructor
  · intro same number met
    have least : first ≤ number := one.2 met
    exact upward second number (same ▸ least) two.1
  · intro agree
    have below : first ≤ second := one.2 (inside second two.1)
    have above : second ≤ first := two.2 (agree first one.1)
    omega

/-- The stops needed, in either branch. -/
theorem stopsNeeded_isLeast (laps : Int) (lapsLo : ℚ) {full : ℚ} (whole : 1 ≤ full) :
    ∃ count : Nat, stopsNeeded laps lapsLo full = some (count : Int) ∧
      IsLeast {fills : Nat | fillsAsked laps lapsLo full ≤ fills} count := by
  have positive : 0 < full := by linarith
  have least : IsLeast {fills : Nat | fillsAsked laps lapsLo full ≤ fills}
      ⌈fillsAsked laps lapsLo full⌉₊ :=
    ⟨Nat.le_ceil (fillsAsked laps lapsLo full), fun fills enough => Nat.ceil_le.mpr enough⟩
  refine ⟨_, ?_, least⟩
  unfold stopsNeeded
  split
  · rename_i reach
    have none : fillsAsked laps lapsLo full ≤ 0 := by
      have short : Binary64.round (laps - lapsLo) ≤ 0 := by
        rw [← Binary64.round_zero]
        exact Binary64.round_mono (sub_nonpos.mpr reach)
      rw [fillsAsked, ← Binary64.round_zero]
      exact Binary64.round_mono (div_nonpos_of_nonpos_of_nonneg short positive.le)
    rw [Nat.ceil_eq_zero.mpr none, Nat.cast_zero]
  · rename_i short
    have some : 0 ≤ fillsAsked laps lapsLo full := by
      apply Binary64.round_nonneg
      apply div_nonneg _ positive.le
      exact Binary64.round_nonneg (sub_nonneg.mpr (not_le.mp short).le)
    rw [if_neg (not_lt.mpr whole), Int.natCast_ceil_eq_ceil some]

/-- Whole laps never reach further than fractions do, in doubles either. -/
theorem fillsAsked_le {laps : Int} {lapsLo full : ℚ} (enough : 0 ≤ lapsLo) (whole : 1 ≤ full)
    (column : laps ≤ 2147483647) {fills : Nat} (reached : laps ≤ ⌊lapsLo⌋ + fills * ⌊full⌋) :
    fillsAsked laps lapsLo full ≤ fills := by
  have floors : 0 ≤ ⌊lapsLo⌋ ∧ 1 ≤ ⌊full⌋ :=
    ⟨Int.floor_nonneg.mpr enough, Int.le_floor.mpr (by rwa [Int.cast_one])⟩
  have positive : 0 < full := by linarith
  obtain ⟨way, known⟩ : ∃ way : Nat, way = (laps - ⌊lapsLo⌋).toNat := ⟨_, rfl⟩
  have exactly : ∀ count : Nat, count ≤ 2147483647 → Binary64.round (count : ℚ) = count := by
    intro count small
    have fits : |(count : Int)| ≤ 2 ^ 53 := by rw [abs_of_nonneg] <;> omega
    exact_mod_cast Binary64.round_intCast fits
  have left : Binary64.round (laps - lapsLo) ≤ way := by
    rw [← exactly way (by omega)]
    apply Binary64.round_mono
    have short : ((laps - ⌊lapsLo⌋ : Int) : ℚ) ≤ way := by
      exact_mod_cast (by omega : laps - ⌊lapsLo⌋ ≤ way)
    have below := Int.floor_le lapsLo
    push_cast at short
    linarith
  -- The smaller of the two counts is a double.
  rcases le_total fills way with few | many
  · rw [← exactly fills (by omega)]
    apply Binary64.round_mono
    rw [div_le_iff₀ positive]
    have covered : (way : ℚ) ≤ fills * ⌊full⌋ := by
      have ways : (0 : Int) ≤ fills * ⌊full⌋ := mul_nonneg (Nat.cast_nonneg fills) (by omega)
      exact_mod_cast (by omega : (way : Int) ≤ fills * ⌊full⌋)
    have filled : (fills : ℚ) * ⌊full⌋ ≤ fills * full :=
      mul_le_mul_of_nonneg_left (Int.floor_le full) (Nat.cast_nonneg fills)
    linarith
  · have most : fillsAsked laps lapsLo full ≤ way := by
      rw [← exactly way (by omega)]
      apply Binary64.round_mono
      rw [div_le_iff₀ positive]
      exact left.trans (le_mul_of_one_le_right (Nat.cast_nonneg way) whole)
    exact most.trans (by exact_mod_cast many)

/-- The formula and the walk count alike exactly when fractions of a lap save no fill. -/
theorem wholeLaps_iff {laps : Int} {lapsLo full : ℚ} (enough : 0 ≤ lapsLo) (whole : 1 ≤ full)
    (column : laps ≤ 2147483647) {needed planned : Nat}
    (formula : IsLeast {fills : Nat | fillsAsked laps lapsLo full ≤ fills} needed)
    (walk : IsLeast {fills : Nat | laps ≤ ⌊lapsLo⌋ + fills * ⌊full⌋} planned) :
    needed = planned ↔ WholeLaps laps lapsLo full := by
  apply least_eq_iff _ _ formula walk
  · intro fills reached
    exact fillsAsked_le enough whole column reached
  · intro fills more below reached
    have range : 0 ≤ ⌊full⌋ := Int.floor_nonneg.mpr (by linarith)
    have further : (fills : Int) * ⌊full⌋ ≤ more * ⌊full⌋ :=
      mul_le_mul_of_nonneg_right (by exact_mod_cast below) range
    linarith

/-- A range that does not reach the end leaves one fill more than the way after it. -/
theorem isLeast_succ {laps range full : Int} {fills : Nat} (short : range < laps)
    (rest : IsLeast {fills : Nat | laps - range ≤ full + fills * full} fills) :
    IsLeast {fills : Nat | laps ≤ range + fills * full} (fills + 1) := by
  constructor
  · have reached : laps - range ≤ full + fills * full := rest.1
    change laps ≤ range + ((fills + 1 : Nat) : Int) * full
    push_cast
    linarith
  · intro other met
    have reached : laps ≤ range + (other : Int) * full := met
    cases other with
    | zero =>
      rw [Nat.cast_zero, zero_mul, add_zero] at reached
      omega
    | succ before =>
      push_cast at reached
      have enough : fills ≤ before := rest.2 (show laps - range ≤ full + before * full by linarith)
      omega

section Walks

variable {rt : Runtime} {course : Course}

/-- A walk on fuel alone: laps are what counts, and there is no driver limit. -/
structure OnFuel (course : Course) (walk : Walk) : Prop where
  laps : course.plan.endAuthority = .laps
  free : walk.driveLeft = none

theorem OnFuel.can {walk : Walk} (onFuel : OnFuel course walk) :
    walk.can course.lapTimeS = walk.lapsFuel := by
  simp [Walk.can, Walk.lapsDriver, onFuel.free]

theorem OnFuel.refuels {walk : Walk} (onFuel : OnFuel course walk) :
    walk.refuels course.lapTimeS = true := by
  simp [Walk.refuels, Walk.reason, Walk.lapsDriver, onFuel.free]

theorem OnFuel.after {walk : Walk} (onFuel : OnFuel course walk) (clock : ℚ) :
    OnFuel course (walk.after course clock) ∧
      (walk.after course clock).fuelLaps = course.fullRangeLo ∧
      (walk.after course clock).remaining = walk.remaining - walk.lapsFuel ∧
      ∃ stop, (walk.after course clock).stops = walk.stops ++ [stop] ∧ stop.type = .refuel := by
  refine ⟨⟨onFuel.laps, ?_⟩, ?_, ?_, walk.stop course clock, rfl, ?_⟩
  · simp [Walk.after, onFuel.free]
  · simp [Walk.after, onFuel.refuels]
  · simp [Walk.after, onFuel.laps, onFuel.can]
  · simp [Walk.stop, onFuel.refuels]

/-- A walk that is not cut short adds the first number of refuels that reaches the end
in whole laps. -/
theorem walkOn_isLeast (full : 1 ≤ course.fullRangeLo) (more : Nat) (walk : Walk)
    (onFuel : OnFuel course walk) {stops : List PlanEntry}
    (walked : walkOn rt course more walk = .ok stops)
    (short : stops.length < walk.stops.length + more) :
    IsLeast {fills : Nat | walk.remaining ≤ walk.lapsFuel + fills * ⌊course.fullRangeLo⌋}
        (stops.length - walk.stops.length) ∧
      ∃ added, stops = walk.stops ++ added ∧ ∀ stop ∈ added, stop.type = .refuel := by
  induction more generalizing walk with
  | zero =>
    cases walked
    omega
  | succ more ih =>
    have whole : 1 ≤ ⌊course.fullRangeLo⌋ := Int.le_floor.mpr (by simpa using full)
    have filled : 0 ≤ walk.lapsFuel := le_max_right _ _
    rw [walkOn] at walked
    split at walked
    · rename_i done
      cases walked
      rw [onFuel.can] at done
      refine ⟨⟨?_, ?_⟩, [], by simp, by simp⟩
      · change walk.remaining ≤ _
        rw [Nat.sub_self]
        push_cast
        omega
      · intro fills met
        omega
    · rename_i goes
      rw [onFuel.can] at goes
      obtain ⟨clock, moved, later⟩ := Attempt.bind_ok.mp walked
      obtain ⟨still, range, remaining, stop, added, refuel⟩ := onFuel.after clock
      have grown : (walk.after course clock).stops.length = walk.stops.length + 1 := by
        rw [added, List.length_append]
        rfl
      obtain ⟨least, rest, all, kinds⟩ := ih (walk.after course clock) still later (by omega)
      have fuel : (walk.after course clock).lapsFuel = ⌊course.fullRangeLo⌋ := by
        rw [Walk.lapsFuel, range]
        exact max_eq_left (by omega)
      rw [fuel, remaining, grown] at least
      have longer : walk.stops.length + 1 ≤ stops.length := by
        rw [all, added]
        simp
      have total : stops.length - walk.stops.length =
          stops.length - (walk.stops.length + 1) + 1 := by omega
      refine ⟨?_, stop :: rest, ?_, ?_⟩
      · rw [total]
        exact isLeast_succ (by omega) least
      · rw [all, added, List.append_assoc]
        rfl
      · intro other member
        rcases List.mem_cons.mp member with here | inside
        · rw [here]
          exact refuel
        · exact kinds other inside

end Walks

/-- The stop plan on fuel alone, unless it is cut short. -/
theorem stopPlan_isLeast {rt : Runtime} {course : Course} {laps : Int} {lapsLo : ℚ}
    {driverRemainingS : Option ℚ} {policy : StrategyPolicy} {stops : List PlanEntry}
    (authority : course.plan.endAuthority = .laps) (free : limitS course.plan = none)
    (full : 1 ≤ course.fullRangeLo) (enough : 0 ≤ lapsLo)
    (made : stopPlan rt course (some laps) lapsLo driverRemainingS policy = .ok stops)
    (short : (stops.length : Int) < policy.maxSimulatedStops) :
    IsLeast {fills : Nat | laps ≤ ⌊lapsLo⌋ + fills * ⌊course.fullRangeLo⌋} (refuels stops) := by
  rw [stopPlan] at made
  rw [if_neg (not_lt.mpr full), free] at made
  obtain ⟨walked, walk, result⟩ := Attempt.bind_ok.mp made
  cases result
  rw [List.length_map] at short
  obtain ⟨least, added, all, kinds⟩ := walkOn_isLeast full _ _ ⟨authority, rfl⟩ walk (by
    change walked.length < 0 + _
    omega)
  have range : max ⌊lapsLo⌋ 0 = ⌊lapsLo⌋ := max_eq_left (Int.floor_nonneg.mpr enough)
  have count : refuels (walked.map fun stop =>
      { stop with deltaLaps := stop.plannedLap.map fun planned => stop.lap - planned }) =
        walked.length := by
    rw [refuels, List.countP_map, List.countP_eq_length]
    intro stop member
    rw [all, List.nil_append] at member
    simpa using kinds stop member
  rw [count]
  simpa only [Walk.lapsFuel, range, List.length_nil, Nat.sub_zero] using least

/-- With a race of so many laps and no continuous driver limit, whatever the range now and on
a full tank, the stops needed are the refuels of the stop plan exactly when fractions of a lap
save no fill. -/
theorem stopsNeeded_eq_iff (rt : Runtime) (course : Course) (laps : Int) (lapsLo : ℚ)
    (driverRemainingS : Option ℚ) (policy : StrategyPolicy) (stops : List PlanEntry)
    (authority : course.plan.endAuthority = .laps) (free : limitS course.plan = none)
    (column : laps ≤ 2147483647) (enough : 0 ≤ lapsLo) (whole : 1 ≤ course.fullRangeLo)
    (made : stopPlan rt course (some laps) lapsLo driverRemainingS policy = .ok stops)
    (short : (stops.length : Int) < policy.maxSimulatedStops) :
    stopsNeeded laps lapsLo course.fullRangeLo = some (refuels stops : Int) ↔
      WholeLaps laps lapsLo course.fullRangeLo := by
  have walk := stopPlan_isLeast authority free whole enough made short
  obtain ⟨count, found, formula⟩ := stopsNeeded_isLeast laps lapsLo whole
  rw [found, Option.some_inj, Int.ofNat_inj]
  exact wholeLaps_iff enough whole column formula walk

/-- The first lap of `sprint` is done, and its tank lasts for so many laps. -/
def sprintCourse (usable : ℚ) (positive : 0 < usable) (full : ℚ) : Course :=
  ⟨sprintPlan usable positive, 1, full, 100, 110⟩

theorem stopsNeeded_sprint : ∃ stops,
    stopPlan plainRuntime (sprintCourse 4 (by decide) 2) (some 3) 0 none defaultPolicy = .ok stops ∧
      stopsNeeded 3 0 2 = some (refuels stops : Int) := by
  have lengths : ((stopPlan plainRuntime (sprintCourse 4 (by decide) 2) (some 3) 0 none
      defaultPolicy).toOption.map List.length) = some 2 := by decide +kernel
  obtain ⟨stops, made, length⟩ := Option.map_eq_some_iff.mp lengths
  have walked := Attempt.ok_of_toOption made
  refine ⟨stops, walked, ?_⟩
  apply (stopsNeeded_eq_iff plainRuntime (sprintCourse 4 (by decide) 2) 3 0 none defaultPolicy stops
    rfl rfl (by decide) le_rfl (by decide) walked (by rw [length]; decide)).mpr
  intro fills asked
  have some : fillsAsked 3 0 2 = 3 / 2 := by decide +kernel
  have floors : ⌊(0 : ℚ)⌋ = 0 ∧ ⌊(2 : ℚ)⌋ = 2 := by decide +kernel
  have two : 1 < fills := by
    have more : (1 : ℚ) < fills := by
      change fillsAsked 3 0 2 ≤ fills at asked
      linarith
    exact_mod_cast more
  change (3 : Int) ≤ ⌊(0 : ℚ)⌋ + fills * ⌊(2 : ℚ)⌋
  rw [floors.1, floors.2]
  omega

/-- On a lap and a half a fill the formula counts two stops and the walk makes three. -/
theorem stopsNeeded_fewer :
    ((projectionOf plainRuntime (sprint (sprintPlan 3 (by decide))) defaultPolicy).toOption.map
        fun projection => (projection.lapsRemaining, projection.lapsLo, projection.fullRangeLo)) =
      some (some 3, some 0, some (3 / 2)) ∧
    stopsNeeded 3 0 (3 / 2) = some 2 ∧
    ∃ stops, stopPlan plainRuntime (sprintCourse 3 (by decide) (3 / 2)) (some 3) 0 none
        defaultPolicy = .ok stops ∧
      (stops.length : Int) < defaultPolicy.maxSimulatedStops ∧ refuels stops = 3 := by
  have counts : ((stopPlan plainRuntime (sprintCourse 3 (by decide) (3 / 2)) (some 3) 0 none
      defaultPolicy).toOption.map fun stops => (stops.length, refuels stops)) = some (3, 3) := by
    decide +kernel
  obtain ⟨stops, made, both⟩ := Option.map_eq_some_iff.mp counts
  obtain ⟨length, count⟩ := Prod.mk.inj both
  refine ⟨by decide +kernel, by decide +kernel, stops, Attempt.ok_of_toOption made, ?_, count⟩
  rw [length]
  decide

end OpenLaps.Strategy

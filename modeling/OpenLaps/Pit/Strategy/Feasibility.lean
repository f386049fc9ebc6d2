import OpenLaps.Lib.Budget
import OpenLaps.Pit.Strategy.CleanLaps

/- What the stop plan can be driven on. Fuel and driver time are two budgets of one walk:
both limit each leg, and each is filled at stops of its own. -/
namespace OpenLaps.Strategy

def PlanEntry.fills (stop : PlanEntry) : Bool := stop.type = .refuel

/-- A stop at which the next driver takes over. -/
def PlanEntry.relieves (stop : PlanEntry) : Bool :=
  (stop.driverIn.any fun name => !name.isEmpty) || stop.reason = .driver

/-- Where the walk of `_stop_plan` begins. -/
def Course.setOut (course : Course) (remaining : Int) (lapsLo : ℚ) (driverRemainingS : Option ℚ) :
    Walk :=
  { fuelLaps := lapsLo,
    driveLeft := if (limitS course.plan).isSome then driverRemainingS else none,
    lap := course.lapCount, clock := course.now, remaining := remaining, stops := [] }

/-- The walk once it has made some stops. -/
def Walk.replay (course : Course) (walk : Walk) (stops : List PlanEntry) : Walk :=
  stops.foldl (fun walk stop => walk.after course stop.at_) walk

/-- The laps that are left fit the fuel and the driver time that are left. -/
structure Walk.Arrives (course : Course) (walk : Walk) : Prop where
  fuel : (walk.remaining : ℚ) ≤ max walk.fuelLaps 0
  drive : ∀ left, walk.driveLeft = some left → walk.remaining * course.lapTimeS ≤ max left 0

/-- The laps driven before the first refuel and between refuels. -/
def Course.lapsOnFuel (course : Course) (stops : List PlanEntry) : List ℚ :=
  Budget.gaps (fun stop => (stop.lap : ℚ)) PlanEntry.fills course.lapCount stops

/-- The time driven before the first change of driver and between changes. -/
def Course.timeAtWheel (course : Course) (stops : List PlanEntry) : List ℚ :=
  Budget.gaps (fun stop => stop.lap * course.lapTimeS) PlanEntry.relieves
    (course.lapCount * course.lapTimeS) stops

/-- A stop plan that can be driven. An overdrawn budget counts as an empty one. -/
structure Feasible (course : Course) (remaining : Option Int) (lapsLo : ℚ)
    (driverRemainingS : Option ℚ) (policy : StrategyPolicy) (stops : List PlanEntry) : Prop where
  count : (stops.length : Int) ≤ max policy.maxSimulatedStops 0
  ordered : (course.lapCount :: stops.map PlanEntry.lap).Pairwise (· ≤ ·)
  firstFuel : ∀ laps ∈ (course.lapsOnFuel stops).head?, laps ≤ max lapsLo 0
  laterFuel : ∀ laps ∈ (course.lapsOnFuel stops).tail, laps ≤ course.fullRangeLo
  firstDriver : ∀ limit left, limitS course.plan = some limit → driverRemainingS = some left →
    ∀ time ∈ (course.timeAtWheel stops).head?, time ≤ max left 0
  laterDriver : ∀ limit left, limitS course.plan = some limit → driverRemainingS = some left →
    ∀ time ∈ (course.timeAtWheel stops).tail, time ≤ max limit 0
  arrives : ∀ laps, remaining = some laps → 1 ≤ course.fullRangeLo →
    (stops.length : Int) < policy.maxSimulatedStops →
    ((course.setOut laps lapsLo driverRemainingS).replay course stops).Arrives course

section Legs

variable {walk : Walk} {course : Course} {lapTimeS : ℚ}

theorem floor_le_max (number : ℚ) : ((max ⌊number⌋ 0 : Int) : ℚ) ≤ max number 0 := by
  rw [Int.cast_max, Int.cast_zero]
  exact max_le_max (Int.floor_le number) le_rfl

theorem can_nonneg (walk : Walk) (lapTimeS : ℚ) : 0 ≤ walk.can lapTimeS := by
  unfold Walk.can Walk.lapsDriver Walk.lapsFuel
  cases walk.driveLeft with
  | none => exact le_max_right _ _
  | some left => exact le_min (le_max_right _ _) (le_max_right _ _)

theorem can_le_fuel (walk : Walk) (lapTimeS : ℚ) : (walk.can lapTimeS : ℚ) ≤ max walk.fuelLaps 0 := by
  have least : walk.can lapTimeS ≤ walk.lapsFuel := by
    unfold Walk.can
    split
    · exact le_rfl
    · exact min_le_left _ _
  have cast : (walk.can lapTimeS : ℚ) ≤ (walk.lapsFuel : ℚ) := by exact_mod_cast least
  exact cast.trans (floor_le_max walk.fuelLaps)

/-- The time of a leg stays within the driver's. -/
theorem can_le_drive (positive : 0 < lapTimeS) {left : ℚ} (known : walk.driveLeft = some left) :
    walk.can lapTimeS * lapTimeS ≤ max left 0 := by
  have least : walk.can lapTimeS ≤ max ⌊left / lapTimeS⌋ 0 := by
    simp only [Walk.can, Walk.lapsDriver, known, Option.map_some]
    exact min_le_right _ _
  have laps : (walk.can lapTimeS : ℚ) ≤ max (left / lapTimeS) 0 := by
    have cast : (walk.can lapTimeS : ℚ) ≤ ((max ⌊left / lapTimeS⌋ 0 : Int) : ℚ) := by
      exact_mod_cast least
    exact cast.trans (floor_le_max _)
  have time := mul_le_mul_of_nonneg_right laps positive.le
  rw [max_mul_of_nonneg _ _ positive.le, zero_mul, div_mul_cancel₀ left positive.ne'] at time
  exact time

/-- A walk that stops short of nothing arrives. -/
theorem arrives_of_can (positive : 0 < course.lapTimeS)
    (done : walk.remaining ≤ 0 ∨ walk.remaining ≤ walk.can course.lapTimeS) : walk.Arrives course := by
  have within : walk.remaining ≤ walk.can course.lapTimeS := by
    have enough := can_nonneg walk course.lapTimeS
    omega
  have laps : (walk.remaining : ℚ) ≤ walk.can course.lapTimeS := by exact_mod_cast within
  constructor
  · exact laps.trans (can_le_fuel walk course.lapTimeS)
  · intro left known
    have time := mul_le_mul_of_nonneg_right laps positive.le
    exact time.trans (can_le_drive positive known)

/-- What the walk keeps from here on, for at most so many more stops. -/
structure Walked (course : Course) (more : Nat) (walk : Walk) (added : List PlanEntry) : Prop where
  count : added.length ≤ more
  ordered : (walk.lap :: added.map PlanEntry.lap).Pairwise (· ≤ ·)
  fuel : Budget.Kept (fun stop : PlanEntry => (stop.lap : ℚ)) PlanEntry.fills course.fullRangeLo
    walk.lap walk.fuelLaps added
  drive : ∀ limit left, limitS course.plan = some limit → walk.driveLeft = some left →
    Budget.Kept (fun stop : PlanEntry => stop.lap * course.lapTimeS) PlanEntry.relieves limit
      (walk.lap * course.lapTimeS) left added
  arrives : added.length < more → (walk.replay course added).Arrives course

theorem Walked.stay (positive : 0 < course.lapTimeS) (more : Nat)
    (done : 0 < more → walk.remaining ≤ 0 ∨ walk.remaining ≤ walk.can course.lapTimeS) :
    Walked course more walk [] where
  count := Nat.zero_le more
  ordered := List.pairwise_singleton _ _
  fuel := trivial
  drive := fun _ _ _ _ => trivial
  arrives := fun short => arrives_of_can positive (done short)

/-- One more stop: each budget pays for the leg, and is filled where the stop fills it. -/
theorem Walked.goOn (positive : 0 < course.lapTimeS) {more : Nat} {clock : ℚ}
    {added : List PlanEntry} (later : Walked course more (walk.after course clock) added) :
    Walked course (more + 1) walk (walk.stop course clock :: added) where
  count := Nat.succ_le_succ later.count
  ordered := by
    have ahead : walk.lap ≤ (walk.stop course clock).lap := by
      have forward := can_nonneg walk course.lapTimeS
      change walk.lap ≤ walk.lap + walk.can course.lapTimeS
      omega
    rw [List.map_cons, List.pairwise_cons]
    refine ⟨?_, later.ordered⟩
    intro lap member
    rcases List.mem_cons.mp member with here | inside
    · rw [here]
      exact ahead
    · exact ahead.trans ((List.pairwise_cons.mp later.ordered).1 lap inside)
  fuel := by
    have leg : ((walk.stop course clock).lap : ℚ) - walk.lap = walk.can course.lapTimeS := by
      change ((walk.lap + walk.can course.lapTimeS : Int) : ℚ) - walk.lap = _
      push_cast
      ring
    refine ⟨?_, ?_⟩
    · rw [leg]
      exact can_le_fuel walk course.lapTimeS
    · rw [leg]
      have same : (walk.after course clock).fuelLaps =
          if (walk.stop course clock).fills then course.fullRangeLo
          else walk.fuelLaps - walk.can course.lapTimeS := by
        cases refuels : walk.refuels course.lapTimeS <;>
          simp [Walk.after, Walk.stop, PlanEntry.fills, refuels]
      rw [← same]
      exact later.fuel
  drive := by
    intro limit left limited known
    have leg : (walk.stop course clock).lap * course.lapTimeS - walk.lap * course.lapTimeS =
        walk.can course.lapTimeS * course.lapTimeS := by
      change ((walk.lap + walk.can course.lapTimeS : Int) : ℚ) * course.lapTimeS - _ = _
      push_cast
      ring
    refine ⟨?_, ?_⟩
    · rw [leg]
      exact can_le_drive positive known
    · rw [leg]
      apply later.drive limit _ limited
      simp only [Walk.after, known, limited]
      rfl
  arrives := fun short => later.arrives (Nat.lt_of_succ_lt_succ short)

end Legs

/-- The loop keeps both budgets. -/
theorem walkOn_walked {rt : Runtime} {course : Course} (positive : 0 < course.lapTimeS)
    (more : Nat) (walk : Walk) {stops : List PlanEntry}
    (walked : walkOn rt course more walk = .ok stops) :
    ∃ added, stops = walk.stops ++ added ∧ Walked course more walk added := by
  induction more generalizing walk with
  | zero =>
    cases walked
    exact ⟨[], by simp, Walked.stay positive 0 fun none => absurd none (lt_irrefl 0)⟩
  | succ more ih =>
    rw [walkOn] at walked
    split at walked
    · rename_i done
      cases walked
      exact ⟨[], by simp, Walked.stay positive (more + 1) fun _ => done⟩
    · obtain ⟨clock, -, later⟩ := Attempt.bind_ok.mp walked
      obtain ⟨added, all, kept⟩ := ih (walk.after course clock) later
      refine ⟨walk.stop course clock :: added, ?_, kept.goOn positive⟩
      rw [all]
      simp [Walk.after]

/-- Labels on the stops change nothing that is counted. -/
theorem replay_label (course : Course) (walk : Walk) (label : PlanEntry → Option Int)
    (stops : List PlanEntry) :
    walk.replay course (stops.map fun stop => { stop with deltaLaps := label stop }) =
      walk.replay course stops := by
  rw [Walk.replay, List.foldl_map]
  rfl

theorem lapsOnFuel_label (course : Course) (label : PlanEntry → Option Int)
    (stops : List PlanEntry) :
    course.lapsOnFuel (stops.map fun stop => { stop with deltaLaps := label stop }) =
      course.lapsOnFuel stops :=
  Budget.gaps_map _ _ _ _ _

theorem timeAtWheel_label (course : Course) (label : PlanEntry → Option Int)
    (stops : List PlanEntry) :
    course.timeAtWheel (stops.map fun stop => { stop with deltaLaps := label stop }) =
      course.timeAtWheel stops :=
  Budget.gaps_map _ _ _ _ _

/-- The empty plan of a race that is not walked. -/
theorem feasible_nil {course : Course} {remaining : Option Int} {lapsLo : ℚ}
    {driverRemainingS : Option ℚ} {policy : StrategyPolicy}
    (unwalked : ∀ laps, remaining = some laps → course.fullRangeLo < 1) :
    Feasible course remaining lapsLo driverRemainingS policy [] where
  count := le_max_right _ _
  ordered := List.pairwise_singleton _ _
  firstFuel := fun _ member => nomatch member
  laterFuel := fun _ member => nomatch member
  firstDriver := fun _ _ _ _ _ member => nomatch member
  laterDriver := fun _ _ _ _ _ member => nomatch member
  arrives := fun laps known whole _ => absurd whole (not_le.mpr (unwalked laps known))

section Plans

variable {course : Course} {laps : Int} {lapsLo : ℚ} {driverRemainingS : Option ℚ} {more : Nat}
  {walked : List PlanEntry}

theorem Walked.onFuel (kept : Walked course more (course.setOut laps lapsLo driverRemainingS) walked) :
    (∀ laps ∈ (course.lapsOnFuel walked).head?, laps ≤ max lapsLo 0) ∧
      ∀ laps ∈ (course.lapsOnFuel walked).tail, laps ≤ max course.fullRangeLo 0 := by
  apply kept.fuel.gaps_le
  change (course.lapCount : ℚ) - course.lapCount + max lapsLo 0 ≤ max lapsLo 0
  linarith

theorem Walked.atWheel (kept : Walked course more (course.setOut laps lapsLo driverRemainingS) walked)
    {limit left : ℚ} (limited : limitS course.plan = some limit)
    (known : driverRemainingS = some left) :
    (∀ time ∈ (course.timeAtWheel walked).head?, time ≤ max left 0) ∧
      ∀ time ∈ (course.timeAtWheel walked).tail, time ≤ max limit 0 := by
  have budget : (course.setOut laps lapsLo driverRemainingS).driveLeft = some left := by
    simp [Course.setOut, limited, known]
  apply (kept.drive limit left limited budget).gaps_le
  change course.lapCount * course.lapTimeS - course.lapCount * course.lapTimeS + max left 0 ≤
    max left 0
  linarith

/-- What the walk keeps is kept by the plan, which only adds a label to each stop. -/
theorem Walked.feasible {policy : StrategyPolicy} (whole : 1 ≤ course.fullRangeLo)
    (kept : Walked course policy.maxSimulatedStops.toNat
      (course.setOut laps lapsLo driverRemainingS) walked) (label : PlanEntry → Option Int) :
    Feasible course (some laps) lapsLo driverRemainingS policy
      (walked.map fun stop => { stop with deltaLaps := label stop }) := by
  have length := kept.count
  have fuel := kept.onFuel
  rw [max_eq_left (by linarith : (0 : ℚ) ≤ course.fullRangeLo)] at fuel
  constructor
  · rw [List.length_map]
    omega
  · rw [List.map_map]
    exact kept.ordered
  · rw [lapsOnFuel_label]
    exact fuel.1
  · rw [lapsOnFuel_label]
    exact fuel.2
  · intro limit left limited known
    rw [timeAtWheel_label]
    exact (kept.atWheel limited known).1
  · intro limit left limited known
    rw [timeAtWheel_label]
    exact (kept.atWheel limited known).2
  · intro other known _ short
    cases known
    rw [List.length_map] at short
    rw [replay_label]
    apply kept.arrives
    omega

end Plans

/-- Every stop plan can be driven on the fuel and the driver time it was worked out from. -/
theorem stopPlan_feasible (rt : Runtime) (course : Course) (remaining : Option Int) (lapsLo : ℚ)
    (driverRemainingS : Option ℚ) (policy : StrategyPolicy) (stops : List PlanEntry)
    (positive : 0 < course.lapTimeS)
    (made : stopPlan rt course remaining lapsLo driverRemainingS policy = .ok stops) :
    Feasible course remaining lapsLo driverRemainingS policy stops := by
  cases remaining with
  | none =>
    cases made
    exact feasible_nil fun laps known => nomatch known
  | some laps =>
    rw [stopPlan] at made
    split at made
    · rename_i small
      cases made
      exact feasible_nil fun _ _ => small
    · rename_i whole
      obtain ⟨walked, walk, result⟩ := Attempt.bind_ok.mp made
      obtain ⟨added, all, kept⟩ := walkOn_walked positive policy.maxSimulatedStops.toNat
        (course.setOut laps lapsLo driverRemainingS) walk
      have same : walked = added := all
      subst same
      cases result
      exact kept.feasible (not_lt.mp whole) _

theorem relay_tank : (0 : ℚ) < 4 := by decide

/-- Laps of a hundred seconds, with a limit for each driver and two changes planned. -/
def relay (minutes : Int) (full : ℚ) : Course :=
  ⟨{ sprintPlan 4 relay_tank with
      driverLimits := Dict.empty.set "max_continuous_min" minutes,
      plannedStops :=
        [⟨.refuel, some 5, none, some "second"⟩, ⟨.refuel, some 15, none, some "third"⟩] },
    0, full, 100, 0⟩

theorem stopPlan_feasible_relay : ∃ stops,
    stopPlan plainRuntime (relay 10 10) (some 30) 5 (some 500) defaultPolicy = .ok stops ∧
      (relay 10 10).timeAtWheel stops = [500, 600, 600, 600, 600] ∧
      Feasible (relay 10 10) (some 30) 5 (some 500) defaultPolicy stops := by
  have times : ((stopPlan plainRuntime (relay 10 10) (some 30) 5 (some 500)
      defaultPolicy).toOption.map (relay 10 10).timeAtWheel) =
        some [500, 600, 600, 600, 600] := by decide +kernel
  obtain ⟨stops, made, time⟩ := Option.map_eq_some_iff.mp times
  refine ⟨stops, Attempt.ok_of_toOption made, time, ?_⟩
  apply stopPlan_feasible plainRuntime (relay 10 10) (some 30) 5 (some 500) defaultPolicy stops
  · decide +kernel
  · exact Attempt.ok_of_toOption made

/-- No walk where a full tank does not last a lap, no limit where the driver's time is not
known, and no budget below zero. -/
theorem stopPlan_unlimited :
    (∃ stops, stopPlan plainRuntime (relay 10 (1 / 2)) (some 30) 5 (some 500) defaultPolicy =
        .ok stops ∧ (stops.length : Int) < defaultPolicy.maxSimulatedStops ∧
      ¬ (((relay 10 (1 / 2)).setOut 30 5 (some 500)).replay (relay 10 (1 / 2)) stops).Arrives
        (relay 10 (1 / 2))) ∧
    (∃ stops, stopPlan plainRuntime (relay 10 10) (some 30) 5 none defaultPolicy = .ok stops ∧
      limitS (relay 10 10).plan = some 600 ∧
      ¬ ∀ time ∈ ((relay 10 10).timeAtWheel stops).tail, time ≤ 600) ∧
    (∃ stops, stopPlan plainRuntime (relay 10 10) (some 30) (-1) none defaultPolicy = .ok stops ∧
      ¬ ∀ laps ∈ ((relay 10 10).lapsOnFuel stops).head?, laps ≤ -1) ∧
    (∃ stops, stopPlan plainRuntime (relay (-10) 10) (some 30) 5 (some 500)
        { defaultPolicy with maxSimulatedStops := 2 } = .ok stops ∧
      limitS (relay (-10) 10).plan = some (-600) ∧
      ¬ ∀ time ∈ ((relay (-10) 10).timeAtWheel stops).tail, time ≤ -600) ∧
    ∃ stops, stopPlan plainRuntime (relay 10 10) (some 30) 5 (some 500)
        { defaultPolicy with maxSimulatedStops := -1 } = .ok stops ∧
      ¬ (stops.length : Int) ≤ -1 := by
  have times : ((stopPlan plainRuntime (relay 10 10) (some 30) 5 none
      defaultPolicy).toOption.map (relay 10 10).timeAtWheel) = some [500, 1000] := by
    decide +kernel
  have laps : ((stopPlan plainRuntime (relay 10 10) (some 30) (-1) none
      defaultPolicy).toOption.map (relay 10 10).lapsOnFuel) = some [0, 10, 10] := by
    decide +kernel
  have forbidden : ((stopPlan plainRuntime (relay (-10) 10) (some 30) 5 (some 500)
      { defaultPolicy with maxSimulatedStops := 2 }).toOption.map (relay (-10) 10).timeAtWheel) =
        some [500, 0] := by decide +kernel
  have short : (stopPlan plainRuntime (relay 10 (1 / 2)) (some 30) 5 (some 500)
      defaultPolicy).toOption = some [] := by decide +kernel
  have none : (stopPlan plainRuntime (relay 10 10) (some 30) 5 (some 500)
      { defaultPolicy with maxSimulatedStops := -1 }).toOption = some [] := by decide +kernel
  obtain ⟨free, made, timed⟩ := Option.map_eq_some_iff.mp times
  obtain ⟨dry, walked, driven⟩ := Option.map_eq_some_iff.mp laps
  obtain ⟨barred, stood, waited⟩ := Option.map_eq_some_iff.mp forbidden
  refine ⟨⟨[], Attempt.ok_of_toOption short, by decide, ?_⟩,
    ⟨free, Attempt.ok_of_toOption made, by decide +kernel, ?_⟩,
    ⟨dry, Attempt.ok_of_toOption walked, ?_⟩,
    ⟨barred, Attempt.ok_of_toOption stood, by decide +kernel, ?_⟩,
    ⟨[], Attempt.ok_of_toOption none, by decide⟩⟩
  · intro arrives
    have reach : (30 : ℚ) ≤ max 5 0 := arrives.fuel
    norm_num at reach
  · rw [timed]
    decide +kernel
  · rw [driven]
    decide +kernel
  · rw [waited]
    decide +kernel

end OpenLaps.Strategy

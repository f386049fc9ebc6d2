import OpenLaps.Pit.Strategy.Fuel

/- The state of the race: laps to dry, and the walk that gives the stop plan. -/
namespace OpenLaps.Strategy

/-- `_laps_remaining`. -/
def lapsRemaining (plan : Option PlanFacts) (lapCount : Int) (lapTimeS : Option ℚ) (now : ℚ) :
    Option Int :=
  match plan with
  | none => none
  | some plan =>
    match (if plan.endAuthority = .laps then plan.raceEndLaps else none) with
    | some laps => some (max (laps - lapCount) 0)
    | none =>
      match plan.raceEndAt, lapTimeS with
      | some finish, some lapTime =>
        if lapTime = 0 then none else some (max ⌈(finish - now) / lapTime⌉ 0)
      | _, _ => none

/-- `_planned_lap`. -/
def plannedLap (stop : PlannedStop) (lapCount : Int) (lapTimeS now : ℚ) : Option Int :=
  match stop.atLap, stop.atMs with
  | some lap, _ => some lap
  | none, some ms =>
    if lapTimeS = 0 then none else some (lapCount + max ⌊((ms : ℚ) / 1000 - now) / lapTimeS⌋ 0)
  | none, none => none

/-- `_remaining_planned`. -/
def remainingPlanned (plan : PlanFacts) (lapCount : Int) (now : ℚ) : List PlannedStop :=
  plan.plannedStops.filter fun stop =>
    match stop.atLap, stop.atMs with
    | some lap, _ => lapCount < lap
    | none, some ms => now < (ms : ℚ) / 1000
    | none, none => false

inductive Reason where
  | fuel
  | driver
deriving DecidableEq, Repr

/-- One stop of the stop plan. -/
structure PlanEntry where
  lap : Int
  type : StopType
  driverIn : Option String
  reason : Reason
  at_ : ℚ
  plannedLap : Option Int
  deltaLaps : Option Int
deriving DecidableEq

/-- The walk of `_stop_plan` so far. -/
structure Walk where
  fuelLaps : ℚ
  driveLeft : Option ℚ
  lap : Int
  clock : ℚ
  remaining : Int
  stops : List PlanEntry

/-- What the walk does not change: the plan and where it starts. -/
structure Course where
  plan : PlanFacts
  lapCount : Int
  fullRangeLo : ℚ
  lapTimeS : ℚ
  now : ℚ

def Course.planned (course : Course) : List PlannedStop :=
  remainingPlanned course.plan course.lapCount course.now

/-- A limit of the plan in seconds, unless it is missing or zero. -/
def limitOf (plan : PlanFacts) (name : String) : Option ℚ :=
  ((plan.driverLimits.get? name).filter (· ≠ 0)).map fun minutes => (minutes : ℚ) * 60

def limitS (plan : PlanFacts) : Option ℚ := limitOf plan "max_continuous_min"

/-- Whole laps before the fuel runs out. -/
def Walk.lapsFuel (walk : Walk) : Int := max ⌊walk.fuelLaps⌋ 0

def Walk.lapsDriver (walk : Walk) (lapTimeS : ℚ) : Option Int :=
  walk.driveLeft.map fun left => max ⌊left / lapTimeS⌋ 0

/-- Whole laps to the next stop. -/
def Walk.can (walk : Walk) (lapTimeS : ℚ) : Int :=
  match walk.lapsDriver lapTimeS with
  | none => walk.lapsFuel
  | some laps => min walk.lapsFuel laps

def Walk.reason (walk : Walk) (lapTimeS : ℚ) : Reason :=
  match walk.lapsDriver lapTimeS with
  | none => .fuel
  | some laps => if walk.lapsFuel ≤ laps then .fuel else .driver

/-- A stop for the driver becomes a refuel when the fuel left would not reach the end. -/
def Walk.refuels (walk : Walk) (lapTimeS : ℚ) : Bool :=
  walk.reason lapTimeS = .fuel ||
    walk.fuelLaps - walk.can lapTimeS < (walk.remaining - walk.can lapTimeS : ℚ)

/-- The next stop of the walk, made at `clock`. -/
def Walk.stop (course : Course) (walk : Walk) (clock : ℚ) : PlanEntry :=
  let planned := course.planned[walk.stops.length]?
  { lap := walk.lap + walk.can course.lapTimeS,
    type := if walk.refuels course.lapTimeS then .refuel else .service,
    driverIn := planned.bind PlannedStop.driverIn,
    reason := walk.reason course.lapTimeS,
    at_ := clock,
    plannedLap := planned.bind fun stop =>
      plannedLap stop course.lapCount course.lapTimeS course.now,
    deltaLaps := none }

/-- The walk after a stop made at `clock`. -/
def Walk.after (course : Course) (walk : Walk) (clock : ℚ) : Walk :=
  let can := walk.can course.lapTimeS
  let stop := walk.stop course clock
  let relieved := (stop.driverIn.any fun name => !name.isEmpty) || stop.reason = .driver
  { fuelLaps := if walk.refuels course.lapTimeS then course.fullRangeLo else walk.fuelLaps - can,
    driveLeft := match walk.driveLeft, limitS course.plan with
      | some left, some limit => some (if relieved then limit else left - can * course.lapTimeS)
      | left, _ => left,
    lap := walk.lap + can,
    clock := clock,
    remaining := match (if course.plan.endAuthority = .time then course.plan.raceEndAt else none) with
      | some finish => max ⌈(finish - clock) / course.lapTimeS⌉ 0
      | none => walk.remaining - can,
    stops := walk.stops ++ [stop] }

/-- The loop of `_stop_plan`, for at most so many more stops. -/
def walkOn (rt : Runtime) (course : Course) : Nat → Walk → Except PyError (List PlanEntry)
  | 0, walk => .ok walk.stops
  | more + 1, walk =>
    if walk.remaining ≤ 0 ∨ walk.remaining ≤ walk.can course.lapTimeS then .ok walk.stops
    else do
      let duration := if walk.refuels course.lapTimeS then course.plan.refuelMinS
        else course.plan.serviceTypicalS
      let clock ← rt.plus walk.clock (walk.can course.lapTimeS * course.lapTimeS + duration)
      walkOn rt course more (walk.after course clock)

/-- `_stop_plan`. -/
def stopPlan (rt : Runtime) (course : Course) (remaining : Option Int) (lapsLo : ℚ)
    (driverRemainingS : Option ℚ) (policy : StrategyPolicy) : Except PyError (List PlanEntry) :=
  match remaining with
  | none => .ok []
  | some remaining =>
    if course.fullRangeLo < 1 then .ok []
    else do
      let stops ← walkOn rt course policy.maxSimulatedStops.toNat
        { fuelLaps := lapsLo,
          driveLeft := if (limitS course.plan).isSome then driverRemainingS else none,
          lap := course.lapCount, clock := course.now, remaining := remaining, stops := [] }
      pure (stops.map fun stop =>
        { stop with deltaLaps := stop.plannedLap.map fun planned => stop.lap - planned })

/-- `_refuel_clock`. -/
def refuelClock (rt : Runtime) (stops : List StopFact) (plan : Option PlanFacts) (now : ℚ) :
    Except PyError (Option (ℚ × ℚ × ℚ)) :=
  match (stops.filter fun stop => stop.isOpen && stop.stopType = "refuel").getLast?, plan with
  | some stop, some plan =>
    let elapsed := now - stop.entryAt
    (rt.plus stop.entryAt plan.refuelMinS).map fun release =>
      some (elapsed, max (plan.refuelMinS - elapsed) 0, release)
  | _, _ => .ok none

/-- The laps to dry, the laps that are left and those on a full tank. -/
structure Projection where
  lapsLo : Option ℚ
  lapsHi : Option ℚ
  lapsRemaining : Option Int
  fullRangeLo : Option ℚ

/-- A number that is there and not zero. -/
def truthy (value : Option ℚ) : Option ℚ := value.filter (· ≠ 0)

/-- Laps to dry on the bounds of the fuel and of the burn. -/
def lapsToDry (plan : Option PlanFacts) (fuel : Option (ℚ × ℚ × ℚ)) (burn : Burn) :
    Option ℚ × Option ℚ :=
  match plan, fuel, truthy burn.mean with
  | some plan, some (level, lo, hi), some _ =>
    let unusable := plan.tankL - plan.usableFuelL
    let usableLo := max (orElse (some lo) level - unusable) 0
    let usableHi := max (orElse (some hi) level - unusable) 0
    ((truthy burn.hi).map fun rate => usableLo / rate,
      (truthy burn.lo).map fun rate => usableHi / rate)
  | _, _, _ => (none, none)

/-- The ranges of one evaluation. -/
def project (plan : Option PlanFacts) (lapCount : Int) (fuel : Option (ℚ × ℚ × ℚ)) (burn : Burn)
    (now : ℚ) : Projection :=
  let dry := lapsToDry plan fuel burn
  let remaining := lapsRemaining plan lapCount burn.lapTimeS now
  match plan, truthy burn.hi, dry.1, remaining with
  | some plan, some rate, some _, some _ =>
    ⟨dry.1, dry.2, remaining, some (plan.usableFuelL / rate)⟩
  | _, _, _, _ => ⟨dry.1, dry.2, remaining, none⟩

/-- The burn, the re-base and the fuel of one evaluation. -/
structure Tank where
  burn : Burn
  rebase : Rebase
  fuel : Option (ℚ × ℚ × ℚ)

def tankOf (rt : Runtime) (inputs : RaceInputs) (policy : StrategyPolicy) : Except PyError Tank := do
  let laps := inputs.laps.insertionSort fun first second => first.crossedAt ≤ second.crossedAt
  let stints := inputs.stints.insertionSort fun first second =>
    first.stintNumber ≤ second.stintNumber
  let stops := inputs.stops.insertionSort fun first second => first.entryAt ≤ second.entryAt
  let clean ← cleanLaps rt laps stops policy
  let burn := burnOf rt clean policy
  let rebase := rebaseOf stints stops inputs.plan inputs.sessionStarted inputs.now
  let fuel ← fuelRemaining rt rebase laps stops burn
  pure ⟨burn, rebase, fuel⟩

/-- The projection of one evaluation. -/
def projectionOf (rt : Runtime) (inputs : RaceInputs) (policy : StrategyPolicy) :
    Except PyError Projection :=
  (tankOf rt inputs policy).map fun tank =>
    project inputs.plan inputs.laps.length tank.fuel tank.burn inputs.now

end OpenLaps.Strategy

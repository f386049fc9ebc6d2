import Mathlib.Algebra.BigOperators.Group.List.Basic
import OpenLaps.Core.Numbers

/- What one evaluation of the strategy reads, the burn of the clean laps, and the fuel
left since the last level reading. Times are seconds; arithmetic is exact but for the
driven time, which is in doubles. -/
namespace OpenLaps.Strategy

inductive Authority where
  | time
  | laps
deriving DecidableEq, Repr

inductive StopType where
  | refuel
  | service
deriving DecidableEq, Repr

/-- A stop of the operator's plan: at a lap, or at a time in milliseconds. -/
structure PlannedStop where
  type : StopType
  atLap : Option Int
  atMs : Option Int
  driverIn : Option String
deriving DecidableEq, Repr

/-- The latest revision of the race plan. The usable fuel is positive by the table's own
check. -/
structure PlanFacts where
  revision : Int
  raceEndAt : Option ℚ
  raceEndLaps : Option Int
  endAuthority : Authority
  tankL : ℚ
  usableFuelL : ℚ
  refuelMinS : Int
  serviceTypicalS : Int
  driverLimits : Dict String Int
  plannedStops : List PlannedStop
  usablePositive : 0 < usableFuelL

structure LapFact where
  lapNumber : Int
  crossedAt : ℚ
  lapTimeS : Option ℚ
  valid : Bool
  pitStatus : Option String
  stintNumber : Option Int
  fuelUsedL : Option ℚ
  measurementStatus : String
deriving DecidableEq

structure StintFact where
  stintNumber : Int
  driver : String
  started : ℚ
  ended : Option ℚ
  levelStartL : Option ℚ
  levelEndL : Option ℚ
deriving DecidableEq

structure StopFact where
  entryAt : ℚ
  exitAt : Option ℚ
  isOpen : Bool
  stopType : String
deriving DecidableEq

structure RaceInputs where
  now : ℚ
  vehicleId : String
  sessionId : String
  sessionStarted : ℚ
  plan : Option PlanFacts
  laps : List LapFact
  stints : List StintFact
  stops : List StopFact

structure StrategyPolicy where
  burnWindowLaps : Int
  burnSigma : ℚ
  outlierFraction : ℚ
  maxSimulatedStops : Int

def defaultPolicy : StrategyPolicy :=
  { burnWindowLaps := 5, burnSigma := 2, outlierFraction := 1 / 5, maxSimulatedStops := 50 }

/-- What the model takes from the Python runtime: a time moved by some seconds, which
raises outside the calendar, and `statistics.stdev`. -/
structure Runtime where
  plus : ℚ → ℚ → Except PyError ℚ
  stdev : List ℚ → ℚ

/-- `value if value else other` of a number. -/
def orElse (value : Option ℚ) (other : ℚ) : ℚ :=
  match value with
  | some number => if number = 0 then other else number
  | none => other

/-- `_lap_window`. -/
def lapWindow (rt : Runtime) (lap : LapFact) : Except PyError (Option (ℚ × ℚ)) :=
  match lap.lapTimeS with
  | none => .ok none
  | some lapTime =>
    if lapTime ≤ 0 then .ok none
    else (rt.plus lap.crossedAt (-lapTime)).map fun start => some (start, lap.crossedAt)

/-- A stop that a lap from `start` to `finish` touches. -/
def touches (start finish : ℚ) (stop : StopFact) : Bool :=
  (start < stop.entryAt && stop.entryAt ≤ finish) ||
    (match stop.exitAt with
      | some exitAt => start < exitAt && exitAt ≤ finish
      | none => false) ||
    (stop.entryAt ≤ start &&
      match stop.exitAt with
      | some exitAt => finish ≤ exitAt
      | none => true)

/-- `_touches_pits`. -/
def touchesPits (rt : Runtime) (lap : LapFact) (stops : List StopFact) : Except PyError Bool := do
  match ← lapWindow rt lap with
  | none => pure true
  | some (start, finish) => pure (stops.any (touches start finish))

/-- The tests on a lap itself: valid, timed, cleanly measured, not in the pit lane. -/
def measured (lap : LapFact) : Bool :=
  lap.valid && lap.lapTimeS.any (0 < ·) && lap.measurementStatus = "clean" &&
    lap.fuelUsedL.any (0 < ·) && lap.pitStatus ≠ some "pit"

def candidates (rt : Runtime) (stops : List StopFact) : List LapFact → Except PyError (List LapFact)
  | [] => .ok []
  | lap :: rest =>
    if measured lap then do
      let inPits ← touchesPits rt lap stops
      let later ← candidates rt stops rest
      pure (if inPits then later else lap :: later)
    else candidates rt stops rest

/-- `clean_laps`: a lap slower than the recent median by the outlier fraction is out. -/
def cleanLaps (rt : Runtime) (laps : List LapFact) (stops : List StopFact)
    (policy : StrategyPolicy) : Except PyError (List LapFact) := do
  let found ← candidates rt stops laps
  if found.isEmpty then pure []
  else
    let recent := lastOf (max (policy.burnWindowLaps * 2) 1).toNat found
    let reference := median (recent.filterMap LapFact.lapTimeS)
    let ceiling := reference * (1 + policy.outlierFraction)
    pure (found.filter fun lap => lap.lapTimeS.any (· ≤ ceiling))

structure Burn where
  mean : Option ℚ
  sd : Option ℚ
  laps : Nat
  lapTimeS : Option ℚ
  lo : Option ℚ
  hi : Option ℚ
deriving DecidableEq

/-- `_burn`. -/
def burnOf (rt : Runtime) (clean : List LapFact) (policy : StrategyPolicy) : Burn :=
  let window := lastOf (max policy.burnWindowLaps 1).toNat clean
  if window.isEmpty then ⟨none, none, 0, none, none, none⟩
  else
    let burns := window.filterMap LapFact.fuelUsedL
    let mean := fmean burns
    let sd := if 2 ≤ burns.length then some (rt.stdev burns) else none
    let spread := (sd.map (policy.burnSigma * ·)).getD 0
    let lapTime := fmean (window.filterMap LapFact.lapTimeS)
    ⟨some mean, sd, window.length, some lapTime, some (max (mean - spread) (mean / 4)),
      some (mean + spread)⟩

inductive Confidence where
  | keyOn
  | sessionStart
  | moving
  | plan
  | none
deriving DecidableEq, Repr

/-- `_REBASE_UNCERTAINTY_L`. -/
def Confidence.uncertaintyL : Confidence → ℚ
  | .keyOn => 3 / 10
  | .sessionStart => 1 / 2
  | .moving => 2
  | .plan => 3
  | .none => 0

structure Rebase where
  levelL : Option ℚ
  at_ : Option ℚ
  confidence : Confidence
  fuelAddedL : Option ℚ
deriving DecidableEq

def stintContaining (stints : List StintFact) (at_ now : ℚ) : Option StintFact :=
  stints.find? fun stint => stint.started ≤ at_ && at_ ≤ stint.ended.getD now

/-- The level at the end of the latest stint before `stint` that has one. -/
def levelBefore (stints : List StintFact) (stint : StintFact) : Option ℚ :=
  (stints.reverse.filter fun other => other.stintNumber < stint.stintNumber).findSome?
    StintFact.levelEndL

/-- The re-base once a refuelling stop has ended: a reading from a stint that began in
the stop, else the latest reading, else the plan's tank. -/
def rebaseAfter (stints : List StintFact) (plan : Option PlanFacts) (now entryAt exitAt : ℚ) :
    Rebase :=
  let latest := match stints.getLast?.bind StintFact.levelEndL, plan with
    | some level, _ => ⟨some level, some now, .moving, none⟩
    | none, some plan => ⟨some plan.tankL, some exitAt, .plan, none⟩
    | none, none => ⟨none, none, .none, none⟩
  match stintContaining stints exitAt now with
  | none => latest
  | some stint =>
    match stint.levelStartL with
    | none => latest
    | some level =>
      if entryAt ≤ stint.started then
        ⟨some level, some stint.started, .keyOn,
          (levelBefore stints stint).map fun before => level - before⟩
      else latest

/-- `_rebase`. -/
def rebaseOf (stints : List StintFact) (stops : List StopFact) (plan : Option PlanFacts)
    (sessionStarted now : ℚ) : Rebase :=
  let refuels := stops.filterMap fun stop =>
    if stop.stopType = "refuel" && !stop.isOpen then
      stop.exitAt.map fun exitAt => (stop.entryAt, exitAt) else none
  match refuels.getLast? with
  | some (entryAt, exitAt) => rebaseAfter stints plan now entryAt exitAt
  | none =>
    match stints.head?.bind fun stint => stint.levelStartL.map fun level => (level, stint.started)
      with
    | some (level, started) => ⟨some level, some started, .sessionStart, none⟩
    | none =>
      match stints.getLast?.bind StintFact.levelEndL, plan with
      | some level, _ => ⟨some level, some now, .moving, none⟩
      | none, some plan => ⟨some plan.tankL, some sessionStarted, .plan, none⟩
      | none, none => ⟨none, none, .none, none⟩

/-- One stop in the loop of `_driven_seconds`; `total_seconds` gives the nearest double. -/
def outOfPits (start finish driven : ℚ) (stop : StopFact) : ℚ :=
  let overlap :=
    Binary64.round (min finish (stop.exitAt.getD finish) - max start stop.entryAt)
  if 0 < overlap then Binary64.round (driven - overlap) else driven

/-- `_driven_seconds`: the time not spent inside a pit stop, in doubles. -/
def drivenSeconds (start finish : ℚ) (stops : List StopFact) : ℚ :=
  if finish ≤ start then 0
  else max (stops.foldl (outOfPits start finish) (Binary64.round (finish - start))) 0

/-- The fraction of a lap that was driven after the re-base. -/
def drivenFraction (rt : Runtime) (lap : LapFact) (stops : List StopFact) (rebasedAt : ℚ)
    (lapTimeS : Option ℚ) : Except PyError ℚ := do
  match ← lapWindow rt lap with
  | none => pure 1
  | some (start, finish) =>
    let driven := drivenSeconds (max start rebasedAt) finish stops
    let reference := orElse lapTimeS (Binary64.round (finish - start))
    pure (if 0 < reference then min (max (Binary64.round (driven / reference)) 0) 1 else 1)

/-- The loop of `_fuel_remaining`: litres burned since the re-base, and laps substituted. -/
def burnedSince (rt : Runtime) (stops : List StopFact) (burn : Burn) (rebasedAt : ℚ) :
    List LapFact → ℚ × Nat → Except PyError (ℚ × Nat)
  | [], so => .ok so
  | lap :: rest, so =>
    if lap.crossedAt ≤ rebasedAt then burnedSince rt stops burn rebasedAt rest so
    else
      match (if lap.measurementStatus = "clean" then lap.fuelUsedL else none), burn.mean with
      | some used, _ => burnedSince rt stops burn rebasedAt rest (so.1 + used, so.2)
      | none, none => burnedSince rt stops burn rebasedAt rest so
      | none, some mean => do
        let fraction ← drivenFraction rt lap stops rebasedAt burn.lapTimeS
        burnedSince rt stops burn rebasedAt rest (so.1 + mean * fraction, so.2 + 1)

/-- `_fuel_remaining`: the level, and its bounds. -/
def fuelRemaining (rt : Runtime) (rebase : Rebase) (laps : List LapFact) (stops : List StopFact)
    (burn : Burn) : Except PyError (Option (ℚ × ℚ × ℚ)) :=
  match rebase.levelL, rebase.at_ with
  | some level, some at_ =>
    let uncertainty := rebase.confidence.uncertaintyL
    if rebase.confidence = .moving then .ok (some (level, level - uncertainty, level + uncertainty))
    else do
      let (used, substituted) ← burnedSince rt stops burn at_ laps (0, 0)
      let remaining := level - used
      let spread := uncertainty + substituted * orElse burn.sd (burn.mean.getD 0 / 4)
      pure (some (remaining, remaining - spread, remaining + spread))
  | _, _ => .ok none

end OpenLaps.Strategy

import OpenLaps.Pit.Watch.Rows

/- The drift monitor: the mean of a lap, accumulated against the laps of the baseline. -/
namespace OpenLaps.Watch

/-- A lap event, as the object that `json.loads` gives. -/
abbrev LapEvent := List (String × Ingest.Json)

def maxLapSeries : Nat := 200

structure BaselineLap where
  lapNumber : Option Ingest.Json
  time : ℚ
  mean : ℚ
  n : Nat

structure Drift where
  config : DriftConfig
  frozen : Bool := false
  learned : Nat := 0
  units : Units := []
  sourceSession : Option String := none
  baselineLaps : List BaselineLap := []
  mean : Option ℚ := none
  scale : Option ℚ := none
  laps : List JudgedLap := []
  cusumUp : ℚ := 0
  cusumDown : ℚ := 0
  score : ℚ := 0
  calm : Nat := 0
  lapSum : ℚ := 0
  lapN : Nat := 0
  lapDirty : Bool := false
  pending : Option Finding := none

def Drift.freeze (numerics : Numerics) (monitor : Drift) : Drift :=
  let means := monitor.baselineLaps.map BaselineLap.mean
  { monitor with
    mean := some (fmean means)
    scale := some (max monitor.config.minScale (numerics.pstdev means))
    frozen := true }

/-- The current lap is an in-lap or an out-lap. -/
def Drift.onPit (monitor : Drift) : Drift := { monitor with lapDirty := true }

/-- A clean lap of the baseline. -/
def Drift.learn (numerics : Numerics) (monitor : Drift) (lap : BaselineLap) : Drift :=
  let laps := monitor.baselineLaps ++ [lap]
  let banked := { monitor with baselineLaps := laps, learned := laps.length }
  if monitor.config.baselineLaps ≤ banked.learned then banked.freeze numerics else banked

/-- A clean lap judged against the baseline. `found` says that a finding is open. -/
def Drift.judge (monitor : Drift) (found : Bool) (lap : BaselineLap) (mean scale : ℚ) :
    Drift × Judgement :=
  let config := monitor.config
  let residual := (lap.mean - mean) / scale
  let up := if config.direction = .both ∨ config.direction = .up then
    max 0 (monitor.cusumUp + residual - config.cusumK) else monitor.cusumUp
  let down := if config.direction = .both ∨ config.direction = .down then
    max 0 (monitor.cusumDown - residual - config.cusumK) else monitor.cusumDown
  let calm := if |residual| ≤ 1 then monitor.calm + 1 else 0
  -- Three laps back inside a sigma start the accumulation again.
  let settled := found ∧ 3 ≤ calm
  let up := if settled then 0 else up
  let down := if settled then 0 else down
  let statistic := max up down
  let score := min 1 (statistic / config.cusumH)
  let laps := lastOf maxLapSeries
    (monitor.laps ++ [⟨lap.lapNumber, lap.time, lap.mean, lap.n, residual, statistic⟩])
  let summary : DriftSummary :=
    { target := config.target
      expected := mean
      observed := lap.mean
      unit := unitOf monitor.units config.target
      baseline := config.baseline
      baselineSession := monitor.sourceSession
      baselineLaps := monitor.baselineLaps.length
      baselineScale := scale
      residual := residual
      cusum := statistic
      cusumH := config.cusumH
      direction := if down ≤ up then .up else .down
      lapNumber := lap.lapNumber
      gates := config.gates
      series := lastOf 30 laps }
  ({ monitor with cusumUp := up, cusumDown := down, calm := calm, score := score, laps := laps },
    ⟨config.cusumH ≤ statistic, score, .drift summary, config.severity⟩)

/-- What a lap comes to, before the transition of the finding. The source's assertion holds: a
frozen monitor has its mean and its scale. -/
def Drift.onLap (numerics : Numerics) (monitor : Drift) (found : Bool) (event : LapEvent)
    (time : ℚ) : Drift × Option Judgement :=
  let next := { monitor with lapSum := 0, lapN := 0, lapDirty := false }
  let clean := (event.lookup "valid").all Ingest.truthy && !monitor.lapDirty &&
    monitor.config.minLapSamples ≤ monitor.lapN
  if !clean then (next, none)
  else
    let lap : BaselineLap :=
      ⟨event.lookup "lap_number", time, monitor.lapSum / monitor.lapN, monitor.lapN⟩
    if !monitor.frozen then (next.learn numerics lap, none)
    else
      match monitor.mean, monitor.scale with
      | some mean, some scale => (next.judge found lap mean scale).map id some
      | _, _ => (next, none)

/-- A pending report is in the next row, gated or not. -/
def Drift.evaluate (monitor : Drift) (time : ℚ) (readings : Readings) (valid : Bool) :
    Outcome Drift :=
  let row : Row := { time := time, finding := monitor.pending }
  let monitor := { monitor with pending := none }
  if !valid then { row := row, state := monitor }
  else
    let units := readings.units monitor.config.channels
    if monitor.units ≠ [] ∧ units ≠ monitor.units then
      { row := { row with baselineStatus := .unitMismatch }, state := monitor }
    else
      let observed := readings.value monitor.config.target
      let counted := if holds monitor.config.gates readings then
        { monitor with units := units, lapSum := monitor.lapSum + observed,
                       lapN := monitor.lapN + 1 }
        else { monitor with units := units }
      if !monitor.frozen then
        { row := { row with observed := some observed, baselineStatus := .learning }
          state := counted }
      else
        { row :=
            { row with
              observed := some observed
              score := some monitor.score
              residual := monitor.laps.getLast?.map JudgedLap.residual
              expected := monitor.mean
              baselineStatus := .ready }
          state := counted }

/-- What is kept of a drift monitor: not its pending report, and the last laps only. -/
structure DriftModel where
  learned : Nat
  frozen : Bool
  units : Units
  sourceSession : Option String
  baselineLaps : List BaselineLap
  mean : Option ℚ
  scale : Option ℚ
  laps : List JudgedLap
  cusumUp : ℚ
  cusumDown : ℚ
  score : ℚ
  calm : Nat
  lapSum : ℚ
  lapN : Nat
  lapDirty : Bool

def Drift.snapshot (monitor : Drift) (finding : Option Finding) :
    Checkpoint DriftConfig DriftModel :=
  ⟨1, monitor.config, ⟨monitor.learned, monitor.frozen, monitor.units, monitor.sourceSession,
    monitor.baselineLaps, monitor.mean, monitor.scale, lastOf maxLapSeries monitor.laps,
    monitor.cusumUp, monitor.cusumDown, monitor.score, monitor.calm, monitor.lapSum,
    monitor.lapN, monitor.lapDirty⟩, finding⟩

def Drift.restore (monitor : Drift) (model : DriftModel) : Drift :=
  { monitor with
    sourceSession := model.sourceSession
    learned := model.learned
    frozen := model.frozen
    units := model.units
    baselineLaps := model.baselineLaps
    mean := model.mean
    scale := model.scale
    laps := model.laps
    cusumUp := model.cusumUp
    cusumDown := model.cusumDown
    score := model.score
    calm := model.calm
    lapSum := model.lapSum
    lapN := model.lapN
    lapDirty := model.lapDirty }

end OpenLaps.Watch

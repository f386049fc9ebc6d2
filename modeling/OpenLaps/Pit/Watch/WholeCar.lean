import OpenLaps.Pit.Watch.Rows

/- The whole-car monitor: every channel against what the others predict. -/
namespace OpenLaps.Watch

/-- The score is the smoothed distance in sigma. -/
structure WholeCar where
  config : WholeCarConfig
  frozen : Bool := false
  learned : Nat := 0
  units : Units := []
  sourceSession : Option String := none
  sourceStint : Option Nat := none
  sums : List ℚ := List.replicate config.channels.length 0
  sumSq : List (List ℚ) :=
    List.replicate config.channels.length (List.replicate config.channels.length 0)
  fit : Option WholeCarFit := none
  score : ℚ := 0

def WholeCarConfig.baselineSeconds (config : WholeCarConfig) : Int :=
  truncated (config.baselineMinutes * 60)

def WholeCar.freeze (numerics : Numerics) (monitor : WholeCar) : WholeCar :=
  { monitor with
    fit := some (numerics.fit monitor.learned monitor.sums monitor.sumSq), frozen := true }

/-- The sums and the second moments with one more observation. -/
def WholeCar.learn (numerics : Numerics) (monitor : WholeCar) (values : List ℚ) : WholeCar :=
  let banked := { monitor with
    sums := List.zipWith (· + ·) monitor.sums values
    sumSq := List.zipWith (fun row value => List.zipWith (fun sum other => sum + value * other)
      row values) monitor.sumSq values
    learned := monitor.learned + 1 }
  if monitor.config.baselineSeconds ≤ banked.learned then banked.freeze numerics else banked

def WholeCar.judge (numerics : Numerics) (monitor : WholeCar) (time : ℚ) (readings : Readings)
    (values : List ℚ) (fit : WholeCarFit) : Outcome WholeCar :=
  let config := monitor.config
  let residual := numerics.residual fit values
  let score := smooth numerics config.scoreWindow monitor.score residual.distance
  let name := fun index => config.channels.getD index ""
  let ranked := residual.ranked.map fun (index, expected, sigma, predictors) =>
    (⟨name index, expected, values.getD index 0, readings.unit (name index), sigma,
      predictors.map name⟩ : RankedChannel)
  let summary : WholeCarSummary :=
    { baseline := config.baseline
      baselineSession := monitor.sourceSession
      baselineStint := monitor.sourceStint
      baselineSamples := monitor.learned
      scoreSigma := score
      thresholdSigma := config.openFindingAbove
      distanceSigma := residual.distance
      channels := ranked }
  let shown := min 1 (score / config.openFindingAbove)
  { row :=
      { time := time, score := some shown, residual := some residual.distance,
        expected := ranked.head?.map RankedChannel.expected,
        observed := ranked.head?.map RankedChannel.observed, baselineStatus := .ready }
    state := { monitor with score := score }
    judgement := some
      ⟨config.openFindingAbove < score, shown, .wholeCar summary, config.severity⟩ }

/-- The source's assertion holds: a frozen monitor has its fit. -/
def WholeCar.evaluate (numerics : Numerics) (monitor : WholeCar) (time : ℚ)
    (readings : Readings) (valid : Bool) : Outcome WholeCar :=
  if !valid then { row := { time := time }, state := monitor }
  else
    let units := readings.units monitor.config.channels
    if monitor.units ≠ [] ∧ units ≠ monitor.units then
      { row := { time := time, baselineStatus := .unitMismatch }, state := monitor }
    else
      let monitor := { monitor with units := units }
      let values := monitor.config.channels.map readings.value
      if !monitor.frozen then
        { row := { time := time, baselineStatus := .learning }
          state := monitor.learn numerics values }
      else
        match monitor.fit with
        | none => { row := { time := time }, state := monitor }
        | some fit => monitor.judge numerics time readings values fit

structure WholeCarModel where
  learned : Nat
  frozen : Bool
  units : Units
  sourceSession : Option String
  sourceStint : Option Nat
  sums : List ℚ
  sumSq : List (List ℚ)
  fit : Option WholeCarFit
  score : ℚ

def WholeCar.snapshot (monitor : WholeCar) (finding : Option Finding) :
    Checkpoint WholeCarConfig WholeCarModel :=
  ⟨1, monitor.config, ⟨monitor.learned, monitor.frozen, monitor.units, monitor.sourceSession,
    monitor.sourceStint, monitor.sums, monitor.sumSq, monitor.fit, monitor.score⟩, finding⟩

def WholeCar.restore (monitor : WholeCar) (model : WholeCarModel) : WholeCar :=
  { monitor with
    sourceSession := model.sourceSession
    sourceStint := model.sourceStint
    learned := model.learned
    frozen := model.frozen
    units := model.units
    sums := model.sums
    sumSq := model.sumSq
    fit := model.fit
    score := model.score }

end OpenLaps.Watch

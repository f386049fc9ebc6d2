import OpenLaps.Pit.Watch.Rows

/- The monitors that learn a band of values for each bin: the envelope and the ratio. -/
namespace OpenLaps.Watch

structure Envelope where
  config : EnvelopeConfig
  learned : Nat := 0
  frozen : Bool := false
  bins : Dict String (List ℚ) := .empty
  table : Dict String BinStats := .empty
  units : Units := []
  score : ℚ := 0
  sourceSession : Option String := none

/-- The index of a reading under a condition. -/
def Condition.index (condition : Condition) (value : ℚ) : Int :=
  match condition.activeAbove with
  | some bound => if bound < value then 1 else 0
  | none => ⌊value / condition.bins⌋

/-- A quotient beyond the doubles is infinite, and has no floor. -/
def Condition.overflows (condition : Condition) (value : ℚ) : Bool :=
  condition.activeAbove.isNone && PyFloat.limit ≤ |value / condition.bins|

def binKey (indices : List Int) : String := ",".intercalate (indices.map toString)

/-- The bin of a condition, for the summary. -/
def Condition.range (condition : Condition) (readings : Readings) : BinRange :=
  let index := condition.index (readings.value condition.channel)
  let ranged := condition.activeAbove.isNone
  { channel := condition.channel
    lower := if ranged then some (index * condition.bins) else none
    upper := if ranged then some ((index + 1) * condition.bins) else none
    binIndex := index
    observed := readings.value condition.channel
    unit := readings.unit condition.channel
    activeAbove := condition.activeAbove
    on := if ranged then none else some (index ≠ 0) }

def Envelope.freeze (monitor : Envelope) : Envelope :=
  { monitor with table := learnTable monitor.bins monitor.table, bins := .empty, frozen := true }

/-- One observation of the baseline. -/
def Envelope.learn (monitor : Envelope) (key : String) (observed : ℚ) : Envelope :=
  let banked := { monitor with
    bins := addToBin monitor.bins key observed
    learned := monitor.learned + 1 }
  if monitor.config.baselineSeconds ≤ banked.learned then banked.freeze else banked

/-- An observation judged against its bin. -/
def Envelope.judge (numerics : Numerics) (monitor : Envelope) (time : ℚ) (readings : Readings)
    (observed : ℚ) (stats : BinStats) : Outcome Envelope :=
  let config := monitor.config
  let residual := (observed - stats.median) / scaleOf config.minScale stats
  let outside : ℚ := if config.residualSigma < |residual| then 1 else 0
  let score := smooth numerics config.scoreWindow monitor.score outside
  let summary : EnvelopeSummary :=
    { target := config.target
      expected := stats.median
      observed := observed
      unit := readings.unit config.target
      baseline := config.baseline
      baselineSession := monitor.sourceSession
      baselineSamples := stats.count
      mad := stats.mad
      residual := residual
      bins := config.conditionedOn.map fun condition => condition.range readings }
  { row :=
      { time := time, score := some score, residual := some residual,
        expected := some stats.median, observed := some observed, baselineStatus := .ready }
    state := { monitor with score := score }
    judgement := some
      ⟨config.openFindingAbove < score, score, .envelope summary, config.severity⟩ }

/-- Whether an evaluation gets as far as an index that there is not. -/
def Envelope.overflows (monitor : Envelope) (readings : Readings) : Bool :=
  (monitor.units = [] || readings.units monitor.config.channels = monitor.units) &&
    monitor.config.conditionedOn.any fun condition =>
      condition.overflows (readings.value condition.channel)

def Envelope.evaluate (numerics : Numerics) (monitor : Envelope) (time : ℚ)
    (readings : Readings) (valid : Bool) : Outcome Envelope :=
  if !valid then { row := { time := time }, state := monitor }
  else
    let units := readings.units monitor.config.channels
    if monitor.units ≠ [] ∧ units ≠ monitor.units then
      { row := { time := time, baselineStatus := .unitMismatch }, state := monitor }
    else
      let monitor := { monitor with units := units }
      let observed := readings.value monitor.config.target
      let key := binKey (monitor.config.conditionedOn.map fun condition =>
        condition.index (readings.value condition.channel))
      if !monitor.frozen then
        { row := { time := time, observed := some observed, baselineStatus := .learning }
          state := monitor.learn key observed }
      else
        match (monitor.table.get? key).filter fun stats =>
            monitor.config.minBinSamples ≤ stats.count with
        | none =>
          { row :=
              { time := time, observed := some observed, baselineStatus := .insufficientBin }
            state := monitor }
        | some stats => monitor.judge numerics time readings observed stats

structure EnvelopeModel where
  learned : Nat
  frozen : Bool
  bins : Dict String (List ℚ)
  table : Dict String BinStats
  units : Units
  score : ℚ
  sourceSession : Option String

def Envelope.snapshot (monitor : Envelope) (finding : Option Finding) :
    Checkpoint EnvelopeConfig EnvelopeModel :=
  ⟨1, monitor.config, ⟨monitor.learned, monitor.frozen, monitor.bins, monitor.table,
    monitor.units, monitor.score, monitor.sourceSession⟩, finding⟩

def Envelope.restore (monitor : Envelope) (model : EnvelopeModel) : Envelope :=
  { monitor with
    sourceSession := model.sourceSession
    learned := model.learned
    frozen := model.frozen
    bins := model.bins
    table := model.table
    units := model.units
    score := model.score }

structure Ratio where
  config : RatioConfig
  learned : Nat := 0
  frozen : Bool := false
  groups : Dict String (List ℚ) := .empty
  table : Dict String BinStats := .empty
  units : Units := []
  score : ℚ := 0
  sourceSession : Option String := none

def Ratio.freeze (monitor : Ratio) : Ratio :=
  { monitor with
    table := learnTable monitor.groups monitor.table, groups := .empty, frozen := true }

/-- The ratio of the numerator to the mean of the denominators, where that is positive. -/
def RatioConfig.ratio (config : RatioConfig) (readings : Readings) : Option ℚ :=
  let denominator := fmean (config.denominators.map readings.value)
  if denominator ≤ 0 then none else some (readings.value config.numerator / denominator)

def RatioConfig.group (config : RatioConfig) (readings : Readings) : Option (String × Int) :=
  config.grouping.map fun channel => (channel, truncated (readings.value channel))

def groupKey (group : Option (String × Int)) : String :=
  group.elim "all" fun named => toString named.2

def Ratio.learn (monitor : Ratio) (key : String) (observed : ℚ) : Ratio :=
  let banked := { monitor with
    groups := addToBin monitor.groups key observed
    learned := monitor.learned + 1 }
  if monitor.config.baselineSeconds ≤ banked.learned then banked.freeze else banked

def Ratio.judge (numerics : Numerics) (monitor : Ratio) (time : ℚ) (readings : Readings)
    (observed : ℚ) (stats : BinStats) : Outcome Ratio :=
  let config := monitor.config
  let residual := (observed - stats.median) / scaleOf config.minScale stats
  let outside : ℚ := if config.residualSigma < |residual| then 1 else 0
  let score := smooth numerics config.scoreWindow monitor.score outside
  let low : Bool := observed < stats.median
  let summary : RatioSummary :=
    { target := config.numerator
      denominators := config.denominators
      expected := stats.median
      observed := observed
      baseline := config.baseline
      baselineSession := monitor.sourceSession
      baselineSamples := stats.count
      mad := stats.mad
      residual := residual
      low := low
      meaning := if low then config.lowMeans else config.highMeans
      group := config.group readings
      numeratorValue := readings.value config.numerator
      denominatorValues := config.denominators.map fun channel => (channel, readings.value channel)
      valueUnit := readings.unit config.numerator }
  { row :=
      { time := time, score := some score, residual := some residual,
        expected := some stats.median, observed := some observed, baselineStatus := .ready }
    state := { monitor with score := score }
    judgement := some ⟨config.openFindingAbove < score, score, .ratio summary, config.severity⟩ }

def Ratio.evaluate (numerics : Numerics) (monitor : Ratio) (time : ℚ) (readings : Readings)
    (valid : Bool) : Outcome Ratio :=
  if !valid || !holds monitor.config.gates readings then
    { row := { time := time }, state := monitor }
  else
    let units := readings.units monitor.config.channels
    if monitor.units ≠ [] ∧ units ≠ monitor.units then
      { row := { time := time, baselineStatus := .unitMismatch }, state := monitor }
    else
      let monitor := { monitor with units := units }
      match monitor.config.ratio readings with
      | none => { row := { time := time }, state := monitor }
      | some observed =>
        let key := groupKey (monitor.config.group readings)
        if !monitor.frozen then
          { row := { time := time, observed := some observed, baselineStatus := .learning }
            state := monitor.learn key observed }
        else
          match (monitor.table.get? key).filter fun stats =>
              monitor.config.minGroupSamples ≤ stats.count with
          | none =>
            { row :=
                { time := time, observed := some observed
                  baselineStatus := .insufficientGroup }
              state := monitor }
          | some stats => monitor.judge numerics time readings observed stats

structure RatioModel where
  learned : Nat
  frozen : Bool
  groups : Dict String (List ℚ)
  table : Dict String BinStats
  units : Units
  score : ℚ
  sourceSession : Option String

def Ratio.snapshot (monitor : Ratio) (finding : Option Finding) :
    Checkpoint RatioConfig RatioModel :=
  ⟨1, monitor.config, ⟨monitor.learned, monitor.frozen, monitor.groups, monitor.table,
    monitor.units, monitor.score, monitor.sourceSession⟩, finding⟩

def Ratio.restore (monitor : Ratio) (model : RatioModel) : Ratio :=
  { monitor with
    sourceSession := model.sourceSession
    learned := model.learned
    frozen := model.frozen
    groups := model.groups
    table := model.table
    units := model.units
    score := model.score }

end OpenLaps.Watch

import Mathlib.Algebra.Order.Ring.Rat
import OpenLaps.Lib.Dict

/- The validated `watch.yaml`. Bounds of the models are fields; the one gate there is
and the loading of the file are left out. -/
namespace OpenLaps.Watch

inductive Severity where
  | info
  | warning
  | critical
  deriving DecidableEq, Repr

inductive Baseline where
  | sessionStart
  | stintStart
  | stored
  | unchanged
  deriving DecidableEq, Repr

structure Condition where
  channel : String
  bins : ℚ
  activeAbove : Option ℚ
  binsPos : 0 < bins
  deriving DecidableEq

/-- A gate on one channel. -/
structure When where
  channel : String
  above : Option ℚ
  below : Option ℚ
  between : Option (ℚ × ℚ)
  equals : Option ℚ
  bounded : above.isSome ∨ below.isSome ∨ between.isSome ∨ equals.isSome
  ordered : ∀ bounds, between = some bounds → bounds.1 < bounds.2
  deriving DecidableEq

def When.holds (gate : When) (value : ℚ) : Bool :=
  gate.above.all (fun bound => bound < value) &&
    gate.below.all (fun bound => value < bound) &&
    gate.between.all (fun bounds => bounds.1 ≤ value && value ≤ bounds.2) &&
    gate.equals.all (fun wanted => value = wanted)

structure EnvelopeConfig where
  target : String
  conditionedOn : List Condition
  baseline : Baseline
  storedFile : Option String
  baselineSeconds : Nat
  minBinSamples : Nat
  residualSigma : ℚ
  minScale : ℚ
  scoreWindow : ℚ
  openFindingAbove : ℚ
  severity : Severity
  conditions : 1 ≤ conditionedOn.length ∧ conditionedOn.length ≤ 4
  baselines : baseline = .sessionStart ∨ baseline = .stored
  seconds : 1 ≤ baselineSeconds ∧ baselineSeconds ≤ 3600
  samples : 2 ≤ minBinSamples
  sigmaPos : 0 < residualSigma
  scalePos : 0 < minScale
  windowPos : 0 < scoreWindow
  opensAt : 0 < openFindingAbove ∧ openFindingAbove < 1
  deriving DecidableEq

def EnvelopeConfig.channels (config : EnvelopeConfig) : List String :=
  config.target :: config.conditionedOn.map Condition.channel

inductive Direction where
  | both
  | up
  | down
  deriving DecidableEq, Repr

structure DriftConfig where
  target : String
  gates : List When
  baseline : Baseline
  storedFile : Option String
  baselineLaps : Nat
  minLapSamples : Nat
  minScale : ℚ
  cusumK : ℚ
  cusumH : ℚ
  direction : Direction
  severity : Severity
  conditions : gates.length ≤ 4
  baselines : baseline = .sessionStart ∨ baseline = .stored
  laps : 2 ≤ baselineLaps ∧ baselineLaps ≤ 50
  samples : 1 ≤ minLapSamples
  scalePos : 0 < minScale
  allowance : 0 ≤ cusumK
  thresholdPos : 0 < cusumH
  deriving DecidableEq

def DriftConfig.channels (config : DriftConfig) : List String :=
  config.target :: config.gates.map When.channel

structure RatioConfig where
  numerator : String
  denominators : List String
  per : Option String
  gates : List When
  baseline : Baseline
  storedFile : Option String
  baselineSeconds : Nat
  minGroupSamples : Nat
  residualSigma : ℚ
  minScale : ℚ
  scoreWindow : ℚ
  openFindingAbove : ℚ
  lowMeans : Option String
  highMeans : Option String
  severity : Severity
  nonEmpty : denominators ≠ []
  conditions : gates.length ≤ 4
  baselines : baseline = .sessionStart ∨ baseline = .stored
  seconds : 1 ≤ baselineSeconds ∧ baselineSeconds ≤ 3600
  samples : 2 ≤ minGroupSamples
  sigmaPos : 0 < residualSigma
  scalePos : 0 < minScale
  windowPos : 0 < scoreWindow
  opensAt : 0 < openFindingAbove ∧ openFindingAbove < 1
  deriving DecidableEq

/-- The channel the groups come from; an empty name is none. -/
def RatioConfig.grouping (config : RatioConfig) : Option String :=
  config.per.filter (· ≠ "")

def RatioConfig.channels (config : RatioConfig) : List String :=
  config.numerator ::
    (config.denominators ++ config.grouping.toList ++ config.gates.map When.channel)

/-- The baseline of a counter is always `unchanged`. -/
structure CounterConfig where
  channel : String
  gates : List When
  scoreWindow : ℚ
  openFindingAbove : ℚ
  severity : Severity
  conditions : gates.length ≤ 4
  windowPos : 0 < scoreWindow
  opensAt : 0 < openFindingAbove
  deriving DecidableEq

def CounterConfig.channels (config : CounterConfig) : List String :=
  config.channel :: config.gates.map When.channel

structure WholeCarConfig where
  channels : List String
  baseline : Baseline
  storedFile : Option String
  baselineMinutes : ℚ
  scoreWindow : ℚ
  openFindingAbove : ℚ
  severity : Severity
  enough : 3 ≤ channels.length ∧ channels.length ≤ 40
  distinct : channels.Nodup
  baselines : baseline = .sessionStart ∨ baseline = .stintStart ∨ baseline = .stored
  minutes : 0 < baselineMinutes ∧ baselineMinutes ≤ 120
  windowPos : 0 < scoreWindow
  opensAt : 0 < openFindingAbove
  deriving DecidableEq

inductive MonitorConfig where
  | envelope (config : EnvelopeConfig)
  | drift (config : DriftConfig)
  | ratio (config : RatioConfig)
  | counter (config : CounterConfig)
  | wholeCar (config : WholeCarConfig)

def channelsOf : MonitorConfig → List String
  | .envelope config => config.channels
  | .drift config => config.channels
  | .ratio config => config.channels
  | .counter config => config.channels
  | .wholeCar config => config.channels

def MonitorConfig.baseline : MonitorConfig → Baseline
  | .envelope config => config.baseline
  | .drift config => config.baseline
  | .ratio config => config.baseline
  | .counter _ => .unchanged
  | .wholeCar config => config.baseline

/-- The checks of `load_config` give every stored baseline its file. -/
def MonitorConfig.storedFile : MonitorConfig → Option String
  | .envelope config => config.storedFile
  | .drift config => config.storedFile
  | .ratio config => config.storedFile
  | .counter _ => none
  | .wholeCar config => config.storedFile

structure WatchConfig where
  baselineRpmMin : ℚ
  maxAgeSeconds : ℚ
  monitors : Dict String MonitorConfig
  rpmNonneg : 0 ≤ baselineRpmMin
  agePos : 1 ≤ maxAgeSeconds
  nonEmpty : monitors.entries ≠ []

end OpenLaps.Watch

import Mathlib.Algebra.Order.Field.Rat
import Mathlib.Data.List.Sort
import Mathlib.Data.Rat.Floor
import OpenLaps.Core.Config
import OpenLaps.Pit.Ingest.Laps
import OpenLaps.Pit.Watch.Config

/- What the monitors of the watch share: readings, rows, findings and statistics. Numbers
are exact; what the code takes from `math`, `statistics` and `numpy` beyond arithmetic is
`Numerics`. The message of a summary only renders its other fields and is left out. -/
namespace OpenLaps.Watch

/-- The newest value of a channel. -/
structure Reading where
  value : ℚ
  time : ℚ
  unit : String

/-- The readings by channel. -/
abbrev Readings := String → Option Reading

/-- The value of a channel that is there. -/
def Readings.value (readings : Readings) (channel : String) : ℚ :=
  (readings channel).elim 0 Reading.value

def Readings.unit (readings : Readings) (channel : String) : String :=
  (readings channel).elim "" Reading.unit

/-- The units of the channels a monitor reads, in its order. -/
abbrev Units := List (String × String)

def Readings.units (readings : Readings) (channels : List String) : Units :=
  channels.map fun channel => (channel, readings.unit channel)

def unitOf (units : Units) (channel : String) : String := (units.lookup channel).getD ""

inductive Status where
  | gated
  | unitMismatch
  | learning
  | insufficientBin
  | insufficientGroup
  | warming
  | ready
  | missingOrStale
  | noSession
  deriving DecidableEq, Repr

structure BinRange where
  channel : String
  lower : Option ℚ
  upper : Option ℚ
  binIndex : Int
  observed : ℚ
  unit : String
  activeAbove : Option ℚ
  on : Option Bool

structure EnvelopeSummary where
  target : String
  expected : ℚ
  observed : ℚ
  unit : String
  baseline : Baseline
  baselineSession : Option String
  baselineSamples : Nat
  mad : ℚ
  residual : ℚ
  bins : List BinRange

/-- A judged lap. -/
structure JudgedLap where
  lapNumber : Option Ingest.Json
  time : ℚ
  mean : ℚ
  n : Nat
  residual : ℚ
  cusum : ℚ

structure DriftSummary where
  target : String
  expected : ℚ
  observed : ℚ
  unit : String
  baseline : Baseline
  baselineSession : Option String
  baselineLaps : Nat
  baselineScale : ℚ
  residual : ℚ
  cusum : ℚ
  cusumH : ℚ
  direction : Direction
  lapNumber : Option Ingest.Json
  gates : List When
  series : List JudgedLap

structure RatioSummary where
  target : String
  denominators : List String
  expected : ℚ
  observed : ℚ
  baseline : Baseline
  baselineSession : Option String
  baselineSamples : Nat
  mad : ℚ
  residual : ℚ
  low : Bool
  meaning : Option String
  group : Option (String × Int)
  numeratorValue : ℚ
  denominatorValues : List (String × ℚ)
  valueUnit : String

structure CounterSummary where
  target : String
  expected : ℚ
  observed : ℚ
  unit : String
  baselineSession : Option String
  residual : ℚ
  ratePerMin : ℚ
  limitPerMin : ℚ
  windowS : ℚ

/-- A channel of the whole car, with how far it is from what the others predict. -/
structure RankedChannel where
  channel : String
  expected : ℚ
  observed : ℚ
  unit : String
  residualSigma : ℚ
  predictedFrom : List String

structure WholeCarSummary where
  baseline : Baseline
  baselineSession : Option String
  baselineStint : Option Nat
  baselineSamples : Nat
  scoreSigma : ℚ
  thresholdSigma : ℚ
  distanceSigma : ℚ
  channels : List RankedChannel

inductive Summary where
  | envelope (summary : EnvelopeSummary)
  | drift (summary : DriftSummary)
  | ratio (summary : RatioSummary)
  | counter (summary : CounterSummary)
  | wholeCar (summary : WholeCarSummary)

structure Finding where
  findingId : Nat
  openedAt : ℚ
  closedAt : Option ℚ
  severity : Severity
  peakScore : ℚ
  summary : Summary

structure Row where
  time : ℚ
  score : Option ℚ := none
  residual : Option ℚ := none
  expected : Option ℚ := none
  observed : Option ℚ := none
  baselineStatus : Status := .gated
  finding : Option Finding := none

def holds (gates : List When) (readings : Readings) : Bool :=
  gates.all fun gate => gate.holds (readings.value gate.channel)

/-- What a monitor says of its finding: whether one is open now, with its score. -/
structure Judgement where
  openNow : Bool
  score : ℚ
  summary : Summary
  severity : Severity

/-- What a monitor makes of its readings. The transition of its finding comes after it. -/
structure Outcome (State : Type) where
  row : Row
  state : State
  judgement : Option Judgement := none

/-- The row's finding and the finding that is open afterwards. `fresh` is what `uuid4` gives
if it is asked. -/
def transition (finding : Option Finding) (fresh : Nat) (time : ℚ) (judgement : Judgement) :
    Option Finding × Option Finding :=
  if judgement.openNow then
    let current := finding.getD
      ⟨fresh, time, none, judgement.severity, judgement.score, judgement.summary⟩
    let updated :=
      if current.peakScore ≤ judgement.score then
        { current with peakScore := judgement.score, summary := judgement.summary }
      else current
    (some updated, some updated)
  else
    match finding with
    | none => (none, none)
    | some current => (some { current with closedAt := some time }, none)

/-- What a learned whole-car model is made of. -/
structure WholeCarFit where
  mean : List ℚ
  sd : List ℚ
  coef : List (List ℚ)
  residualSd : List ℚ
  covInv : List (List ℚ)

/-- The residual distance of a car and its channels in the order of their residuals: index,
expected value, residual in sigma and the indices that predict it. -/
structure WholeCarResidual where
  distance : ℚ
  ranked : List (Nat × ℚ × ℚ × List Nat)
  distanceNonneg : 0 ≤ distance

/-- What is not arithmetic: `-expm1(-1 / window)`, `pstdev`, and the regression. -/
structure Numerics where
  ema : ℚ → ℚ
  pstdev : List ℚ → ℚ
  fit : Nat → List ℚ → List (List ℚ) → WholeCarFit
  residual : WholeCarFit → List ℚ → WholeCarResidual
  emaPos : ∀ window, 0 < window → 0 < ema window
  emaLtOne : ∀ window, 0 < window → ema window < 1

structure BinStats where
  median : ℚ
  mad : ℚ
  count : Nat

def binStats (values : List ℚ) : BinStats :=
  let center := median values
  ⟨center, median (values.map fun value => |value - center|), values.length⟩

/-- Robust spread of a bin in units of its noise floor. -/
def scaleOf (minScale : ℚ) (stats : BinStats) : ℚ := max minScale (14826 / 10000 * stats.mad)

/-- A step of the score towards the share of observations outside the band. -/
def smooth (numerics : Numerics) (window score next : ℚ) : ℚ :=
  score + numerics.ema window * (next - score)

/-- What the table learns from the bins, where the keys of the bins replace older ones. -/
def learnTable (bins : Dict String (List ℚ)) (table : Dict String BinStats) :
    Dict String BinStats :=
  bins.entries.foldl (fun table bin => table.set bin.1 (binStats bin.2)) table

/-- One more value of a bin. -/
def addToBin (bins : Dict String (List ℚ)) (key : String) (value : ℚ) : Dict String (List ℚ) :=
  bins.set key ((bins.get? key).getD [] ++ [value])

/-- `int(value)`. -/
def truncated (value : ℚ) : Int := value.num.tdiv value.den

/-- A checkpoint of a monitor: its version, the configuration it was made for, the fields of
its kind and the open finding. -/
structure Checkpoint (Config : Type) (Fields : Type) where
  version : Nat
  config : Config
  fields : Fields
  finding : Option Finding

def configurationChanged : PyError :=
  .valueError "baseline configuration changed; fit a matching baseline"

/-- The fields of a checkpoint that fits. -/
def Checkpoint.fitting {Config Fields : Type} [DecidableEq Config]
    (model : Checkpoint Config Fields) (config : Config) : Except PyError Fields :=
  if model.version ≠ 1 ∨ model.config ≠ config then .error configurationChanged
  else .ok model.fields

end OpenLaps.Watch

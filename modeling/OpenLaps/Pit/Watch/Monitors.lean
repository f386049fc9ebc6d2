import OpenLaps.Pit.Watch.Bands
import OpenLaps.Pit.Watch.Counter
import OpenLaps.Pit.Watch.Drift
import OpenLaps.Pit.Watch.WholeCar

/- The five kinds of monitor under one interface. Each keeps one finding, the `finding` of the
source's monitors. -/
namespace OpenLaps.Watch

/-- The state of a monitor, by its kind. -/
inductive Kind where
  | envelope (state : Envelope)
  | drift (state : Drift)
  | ratio (state : Ratio)
  | counter (state : Counter)
  | wholeCar (state : WholeCar)

structure Monitor where
  kind : Kind
  finding : Option Finding

def buildMonitor : MonitorConfig → Monitor
  | .envelope config => ⟨.envelope { config := config }, none⟩
  | .drift config => ⟨.drift { config := config }, none⟩
  | .ratio config => ⟨.ratio { config := config }, none⟩
  | .counter config => ⟨.counter { config := config }, none⟩
  | .wholeCar config => ⟨.wholeCar { config := config }, none⟩

namespace Kind

def config : Kind → MonitorConfig
  | .envelope state => .envelope state.config
  | .drift state => .drift state.config
  | .ratio state => .ratio state.config
  | .counter state => .counter state.config
  | .wholeCar state => .wholeCar state.config

def frozen : Kind → Bool
  | .envelope state => state.frozen
  | .drift state => state.frozen
  | .ratio state => state.frozen
  | .counter state => state.frozen
  | .wholeCar state => state.frozen

def evaluate (numerics : Numerics) (kind : Kind) (time : ℚ) (readings : Readings)
    (valid : Bool) : Outcome Kind :=
  match kind with
  | .envelope state =>
    let outcome := state.evaluate numerics time readings valid
    ⟨outcome.row, .envelope outcome.state, outcome.judgement⟩
  | .drift state =>
    let outcome := state.evaluate time readings valid
    ⟨outcome.row, .drift outcome.state, outcome.judgement⟩
  | .ratio state =>
    let outcome := state.evaluate numerics time readings valid
    ⟨outcome.row, .ratio outcome.state, outcome.judgement⟩
  | .counter state =>
    let outcome := state.evaluate time readings valid
    ⟨outcome.row, .counter outcome.state, outcome.judgement⟩
  | .wholeCar state =>
    let outcome := state.evaluate numerics time readings valid
    ⟨outcome.row, .wholeCar outcome.state, outcome.judgement⟩

/-- Whether an evaluation raises: the bins of an envelope are all that can. -/
def overflows (kind : Kind) (readings : Readings) (valid : Bool) : Bool :=
  match kind with
  | .envelope state => valid && state.overflows readings
  | _ => false

/-- What an evaluation that raises has done: it took the units. -/
def interrupted (kind : Kind) (readings : Readings) : Kind :=
  match kind with
  | .envelope state => .envelope { state with units := readings.units state.config.channels }
  | other => other

end Kind

/-- A checkpoint of any kind. -/
inductive Model where
  | envelope (model : Checkpoint EnvelopeConfig EnvelopeModel)
  | drift (model : Checkpoint DriftConfig DriftModel)
  | ratio (model : Checkpoint RatioConfig RatioModel)
  | counter (model : Checkpoint CounterConfig CounterModel)
  | wholeCar (model : Checkpoint WholeCarConfig WholeCarModel)

/-- What the engine tells a monitor between two ticks. -/
inductive LapCall where
  | onPit
  | onLap (fresh : Nat) (event : LapEvent) (time : ℚ)

/-- The arguments of an `evaluate`. -/
structure Evaluation where
  fresh : Nat
  time : ℚ
  readings : Readings
  valid : Bool

inductive Call where
  | between (call : LapCall)
  | evaluate (evaluation : Evaluation)

namespace Monitor

/-- Only a drift monitor reasons per lap. -/
def onPit (monitor : Monitor) : Monitor :=
  match monitor.kind with
  | .drift state => { monitor with kind := .drift state.onPit }
  | _ => monitor

/-- A judged lap changes the finding; its report waits for the next row. -/
def onLap (numerics : Numerics) (monitor : Monitor) (fresh : Nat) (event : LapEvent) (time : ℚ) :
    Monitor :=
  match monitor.kind with
  | .drift state =>
    match state.onLap numerics monitor.finding.isSome event time with
    | (next, none) => { monitor with kind := .drift next }
    | (next, some judgement) =>
      let changed := transition monitor.finding fresh time judgement
      ⟨.drift { next with pending := changed.1 }, changed.2⟩
  | _ => monitor

def told (numerics : Numerics) (monitor : Monitor) : LapCall → Monitor
  | .onPit => monitor.onPit
  | .onLap fresh event time => monitor.onLap numerics fresh event time

def evaluate (numerics : Numerics) (monitor : Monitor) (evaluation : Evaluation) :
    Row × Monitor :=
  let outcome := monitor.kind.evaluate numerics evaluation.time evaluation.readings
    evaluation.valid
  match outcome.judgement with
  | none => (outcome.row, ⟨outcome.state, monitor.finding⟩)
  | some judgement =>
    let changed := transition monitor.finding evaluation.fresh evaluation.time judgement
    ({ outcome.row with finding := changed.1 }, ⟨outcome.state, changed.2⟩)

def call (numerics : Numerics) (monitor : Monitor) : Call → Option Row × Monitor
  | .between call => (none, monitor.told numerics call)
  | .evaluate evaluation => (monitor.evaluate numerics evaluation).map some id

def after (numerics : Numerics) (monitor : Monitor) (calls : List Call) : Monitor :=
  calls.foldl (fun monitor call => (monitor.call numerics call).2) monitor

/-- The rows of a run, in order. -/
def rows (numerics : Numerics) (monitor : Monitor) : List Call → List Row
  | [] => []
  | call :: rest =>
    (monitor.call numerics call).1.toList ++ (monitor.call numerics call).2.rows numerics rest

def snapshot (monitor : Monitor) : Model :=
  match monitor.kind with
  | .envelope state => .envelope (state.snapshot monitor.finding)
  | .drift state => .drift (state.snapshot monitor.finding)
  | .ratio state => .ratio (state.snapshot monitor.finding)
  | .counter state => .counter (state.snapshot monitor.finding)
  | .wholeCar state => .wholeCar (state.snapshot monitor.finding)

/-- A configuration of another kind is another configuration. -/
def restore (monitor : Monitor) (model : Model) : Except PyError Monitor :=
  match monitor.kind, model with
  | .envelope state, .envelope model =>
    (model.fitting state.config).map fun fields => ⟨.envelope (state.restore fields), model.finding⟩
  | .drift state, .drift model =>
    (model.fitting state.config).map fun fields => ⟨.drift (state.restore fields), model.finding⟩
  | .ratio state, .ratio model =>
    (model.fitting state.config).map fun fields => ⟨.ratio (state.restore fields), model.finding⟩
  | .counter state, .counter model =>
    (model.fitting state.config).map fun fields => ⟨.counter (state.restore fields), model.finding⟩
  | .wholeCar state, .wholeCar model =>
    (model.fitting state.config).map fun fields => ⟨.wholeCar (state.restore fields), model.finding⟩
  | _, _ => .error configurationChanged

/-- The session and the stint that the service notes on a monitor it has built. -/
def sourcedFrom (monitor : Monitor) (session : Option String) (stint : Option Nat) : Monitor :=
  match monitor.kind with
  | .envelope state => { monitor with kind := .envelope { state with sourceSession := session } }
  | .drift state => { monitor with kind := .drift { state with sourceSession := session } }
  | .ratio state => { monitor with kind := .ratio { state with sourceSession := session } }
  | .counter state => { monitor with kind := .counter { state with sourceSession := session } }
  | .wholeCar state =>
    { monitor with
      kind := .wholeCar { state with sourceSession := session, sourceStint := stint } }

end Monitor

end OpenLaps.Watch

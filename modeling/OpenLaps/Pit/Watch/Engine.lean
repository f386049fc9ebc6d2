import OpenLaps.Pit.Watch.Monitors

/- The engine (`engine.py`): the newest readings, what the monitors are told of laps, and
one row of each monitor a tick. `ids` is the first number that `uuid4` has not given out;
a round over the monitors takes one number for each. -/
namespace OpenLaps.Watch

/-- What the engine observes of a decoded sample. -/
structure Observation where
  channel : String
  value : Option SampleValue
  time : ℚ
  unit : String

/-- A finite `int` or `float`; a `bool` is an `int` too. -/
def real? : SampleValue → Option ℚ
  | .float (.finite value) => some value
  | .float _ => none
  | .int value => some value
  | .bool value => some (if value then 1 else 0)
  | .str _ => none

structure WatchEngine where
  config : WatchConfig
  monitors : Dict String Monitor
  readings : Dict String Reading := .empty
  pitStatus : Option Ingest.Json := none
  pitTime : Option ℚ := none
  lastTick : Option Int := none

namespace WatchEngine

/-- `WatchEngine(config)`. -/
def new (config : WatchConfig) : WatchEngine :=
  { config := config, monitors := config.monitors.mapValues buildMonitor }

def inputChannels (engine : WatchEngine) : List String :=
  "car.rpm" :: "lap.event" :: engine.config.monitors.entries.flatMap fun entry => channelsOf entry.2

/-- The turn of a monitor in a round. -/
def turn (engine : WatchEngine) (name : String) : Nat := engine.monitors.keys.idxOf name

/-- `_lap_event`. -/
def lapEvent (numerics : Numerics) (ids : Nat) (engine : WatchEngine) (event : LapEvent)
    (time : ℚ) : Nat × WatchEngine :=
  let kind := Ingest.asStr (event.lookup "type")
  if kind = some "lap_completed" then
    (ids + engine.monitors.entries.length,
      { engine with
        monitors := engine.monitors.mapEntries fun name monitor =>
          monitor.onLap numerics (ids + engine.turn name) event time })
  else if kind = some "pit_entry" ∨ kind = some "pit_exit" ∨
      Ingest.asStr (event.lookup "pit_status") = some "pit" then
    (ids, { engine with monitors := engine.monitors.mapValues Monitor.onPit })
  else (ids, engine)

/-- A sample that is not later than the last tick never rewrites it. -/
def observe (numerics : Numerics) (text : Ingest.PyText) (ids : Nat) (engine : WatchEngine)
    (sample : Observation) : Except PyError (Nat × WatchEngine) :=
  if sample.channel ∉ engine.inputChannels then .ok (ids, engine)
  else if engine.lastTick.any fun last => sample.time ≤ last then .ok (ids, engine)
  else if sample.channel = "lap.event" then
    match sample.value with
    | some (.str payload) =>
      if text.deep payload then .error (.recursionError "maximum recursion depth exceeded")
      else
        match text.loads payload with
        | none => .error (.valueError "not a JSON document")
        | some (.object event) =>
          if engine.pitTime.all fun newest => newest ≤ sample.time then
            { engine with
              pitStatus := event.lookup "pit_status"
              pitTime := some sample.time }.lapEvent numerics ids event sample.time |> .ok
          else .ok (ids, engine)
        | some _ => .ok (ids, engine)
    | _ => .ok (ids, engine)
  else
    match sample.value.bind real? with
    | some value =>
      if (engine.readings.get? sample.channel).all fun previous => previous.time ≤ sample.time then
        .ok (ids, { engine with
          readings := engine.readings.set sample.channel ⟨value, sample.time, sample.unit⟩ })
      else .ok (ids, engine)
    | none => .ok (ids, engine)

/-- Whether the monitor's inputs are fresh. -/
def fresh (engine : WatchEngine) (time : ℚ) (monitor : Monitor) : Bool :=
  ("car.rpm" :: channelsOf monitor.kind.config).all fun channel =>
    (engine.readings.get? channel).any fun reading =>
      0 ≤ time - reading.time && time - reading.time ≤ engine.config.maxAgeSeconds

/-- Whether the monitor is to have an opinion: the car is on the track, and running. -/
def valid (engine : WatchEngine) (time : ℚ) (active : Bool) (monitor : Monitor) : Bool :=
  active && engine.fresh time monitor && Ingest.asStr engine.pitStatus = some "track" &&
    (engine.readings.get? "car.rpm").any fun rpm => engine.config.baselineRpmMin < rpm.value

/-- The row of one monitor, with the status of a row that cannot have an opinion. -/
def evaluate (numerics : Numerics) (ids : Nat) (engine : WatchEngine) (time : Int) (active : Bool)
    (name : String) (monitor : Monitor) : Row × Monitor :=
  let fresh := engine.fresh time monitor
  let (row, next) := monitor.evaluate numerics
    ⟨ids + engine.turn name, time, engine.readings.get?, engine.valid time active monitor⟩
  if !fresh then ({ row with baselineStatus := .missingOrStale }, next)
  else if !active then ({ row with baselineStatus := .noSession }, next)
  else (row, next)

/-- The first monitor of the round whose evaluation raises. -/
def raising (engine : WatchEngine) (time : Int) (active : Bool) : Option String :=
  (engine.monitors.entries.find? fun entry =>
    entry.2.kind.overflows engine.readings.get? (engine.valid time active entry.2)).map Prod.fst

/-- A monitor in a round that the evaluation of another ends. -/
def broken (numerics : Numerics) (ids : Nat) (engine : WatchEngine) (time : Int) (active : Bool)
    (raised name : String) (monitor : Monitor) : Monitor :=
  if engine.turn name < engine.turn raised then
    (engine.evaluate numerics ids time active name monitor).2
  else if name = raised then
    { monitor with kind := monitor.kind.interrupted engine.readings.get? }
  else monitor

/-- The rows by monitor; none unless the tick is later than the last. An evaluation that
raises ends the round with the monitors before it judged. -/
def tick (numerics : Numerics) (ids : Nat) (engine : WatchEngine) (time : Int) (active : Bool) :
    WatchEngine × Except PyError (Dict String Row) :=
  if engine.lastTick.any fun last => time ≤ last then (engine, .ok .empty)
  else
    match engine.raising time active with
    | none =>
      let judged := engine.monitors.mapEntries (engine.evaluate numerics ids time active)
      ({ engine with lastTick := some time, monitors := judged.mapValues Prod.snd },
        .ok (judged.mapValues Prod.fst))
    | some raised =>
      ({ engine with
          lastTick := some time
          monitors := engine.monitors.mapEntries (engine.broken numerics ids time active raised) },
        .error (.overflowError "cannot convert float infinity to integer"))

end WatchEngine

end OpenLaps.Watch

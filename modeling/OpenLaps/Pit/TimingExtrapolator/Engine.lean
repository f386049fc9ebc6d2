import OpenLaps.Lib.Dict
import OpenLaps.Pit.Ingest.Laps

/- The clocks of the current lap and sector on the pit side
(`pit/timing_extrapolator/engine.py`). -/
namespace OpenLaps.PitClocks
open Ingest

structure ClockPolicy where
  fallbackMaxLapS : PyFloat := .finite 300
  maxClockOffsetS : PyFloat := .finite (1 / 10)
  maxClockStratum : Int := 4
  allowedClockSources : List String := ["GPS", "PPS", "NTP"]
  bestLapMultiple : PyFloat := .finite 3

inductive Status where
  | authoritative
  | gated
  | degraded
  | extrapolating
  deriving DecidableEq, Repr

structure ClockValue where
  value : Option PyFloat
  status : Status
  reason : Option String := none
  deriving DecidableEq, Repr

/-- The text conversions and `str.upper`. -/
structure Runtime where
  text : PyText
  upper : String → String

/-- What `observe` raises. -/
inductive Raised where
  | exception (error : PyError)
  | attributeError (message : String)
  | recursionError (message : String)
  deriving DecidableEq, Repr

structure TimingExtrapolator where
  policy : ClockPolicy
  lapStartedAt : Option PyFloat := none
  sectorStartedAt : Option PyFloat := none
  bestLapS : Option PyFloat := none
  clock : Dict String (Option SampleValue) := .empty

abbrev Values := List (String × ClockValue)

def lapElapsed : String := "timing.lap_elapsed_pit"

def sectorElapsed : String := "timing.sector_elapsed_pit"

/-- The value of a sample, `None` if it carries none. -/
def jsonOf : Option SampleValue → Json
  | none => .null
  | some (.float value) => .float value
  | some (.int value) => .int value
  | some (.bool value) => .bool value
  | some (.str value) => .str value

namespace Runtime

variable (runtime : Runtime)

/-- `json.loads(text)`. -/
def loads (text : String) : Except Raised Json :=
  if runtime.text.deep text then .error (.recursionError "maximum recursion depth exceeded")
  else
    match runtime.text.loads text with
    | none => .error (.exception (.valueError "JSONDecodeError"))
    | some json => .ok json

/-- `float(event[name])`. -/
def number (event : List (String × Json)) (name : String) : Except PyError PyFloat := do
  runtime.text.toFloat (← field event name)

/-- `int(event.get("sector", 0))`. -/
def sector (event : List (String × Json)) : Except PyError Int :=
  runtime.text.toInt ((event.lookup "sector").getD (.int 0))

end Runtime

/-- `event.get("type") == name`. -/
def isType (event : List (String × Json)) (name : String) : Bool :=
  match event.lookup "type" with
  | some (.str value) => value = name
  | _ => false

namespace TimingExtrapolator

variable (runtime : Runtime)

def observeSector (engine : TimingExtrapolator) (event : List (String × Json))
    (crossedAt : PyFloat) : TimingExtrapolator × Except Raised Values :=
  match runtime.number event "split_time" with
  | .error error => (engine, .error (.exception error))
  | .ok split =>
    let engine := { engine with sectorStartedAt := some crossedAt }
    match runtime.sector event with
    | .error error => (engine, .error (.exception error))
    | .ok sector =>
      let engine :=
        if sector = 1 ∧ engine.lapStartedAt = none then
          { engine with lapStartedAt := some (crossedAt.sub split) }
        else engine
      (engine, .ok [(sectorElapsed, ⟨some split, .authoritative, none⟩)])

def observeLap (engine : TimingExtrapolator) (event : List (String × Json))
    (crossedAt : PyFloat) : TimingExtrapolator × Except Raised Values :=
  let engine := { engine with lapStartedAt := some crossedAt, sectorStartedAt := some crossedAt }
  match runtime.number event "lap_time" with
  | .error error => (engine, .error (.exception error))
  | .ok lapTime => (engine, .ok [(lapElapsed, ⟨some lapTime, .authoritative, none⟩)])

/-- The branch of `observe` for a `lap.event`. -/
def observeEvent (engine : TimingExtrapolator) (text : String) :
    TimingExtrapolator × Except Raised Values :=
  match runtime.loads text with
  | .error raised => (engine, .error raised)
  | .ok (.object event) =>
    match runtime.number event "time" with
    | .error error => (engine, .error (.exception error))
    | .ok crossedAt =>
      if isType event "sector_completed" then observeSector runtime engine event crossedAt
      else if isType event "lap_completed" then observeLap runtime engine event crossedAt
      else (engine, .ok [])
  | .ok _ => (engine, .error (.attributeError "object has no attribute 'get'"))

/-- `TimingExtrapolator.observe`. -/
def observe (engine : TimingExtrapolator) (channel : String) (value : Option SampleValue) :
    TimingExtrapolator × Except Raised Values :=
  if "sys.host.clock_".toList.isPrefixOf channel.toList then
    ({ engine with clock := engine.clock.set channel value }, .ok [])
  else if channel = "lap.best_time" then
    match runtime.text.toFloat (jsonOf value) with
    | .error error => (engine, .error (.exception error))
    | .ok best =>
      (if (PyFloat.finite 0).lt best then { engine with bestLapS := some best } else engine, .ok [])
  else if channel = "lap.event" then observeEvent runtime engine (runtime.text.toStr (jsonOf value))
  else (engine, .ok [])

/-- `_runaway_bound`. -/
def runawayBound (engine : TimingExtrapolator) : PyFloat :=
  match engine.bestLapS with
  | none => engine.policy.fallbackMaxLapS
  | some best =>
    let scaled := best.mul engine.policy.bestLapMultiple
    if scaled.lt engine.policy.fallbackMaxLapS then scaled else engine.policy.fallbackMaxLapS

/-- `_clock_gate_reason`. -/
def clockGateReason (engine : TimingExtrapolator) : Option String :=
  match engine.clock.get? "sys.host.clock_offset_s", engine.clock.get? "sys.host.clock_stratum",
      engine.clock.get? "sys.host.clock_source" with
  | some offset, some stratum, some source =>
    match runtime.text.toFloat (jsonOf offset) with
    | .error _ => some "clock_health_invalid"
    | .ok offset =>
      if engine.policy.maxClockOffsetS.lt offset.abs then some "clock_offset"
      else
        match runtime.text.toInt (jsonOf stratum) with
        | .error _ => some "clock_health_invalid"
        | .ok stratum =>
          if engine.policy.maxClockStratum < stratum then some "clock_stratum"
          else if runtime.upper (runtime.text.toStr (jsonOf source)) ∈
              engine.policy.allowedClockSources then none
          else some "clock_source"
  | _, _, _ => some "clock_health_missing"

/-- What `tick` shows of one clock. -/
def elapsedValue (engine : TimingExtrapolator) (now startedAt : PyFloat) : ClockValue :=
  match clockGateReason runtime engine with
  | some reason => ⟨none, .gated, some reason⟩
  | none =>
    let elapsed := if (PyFloat.finite 0).lt (now.sub startedAt) then now.sub startedAt else .finite 0
    let bound := engine.runawayBound
    if bound.lt elapsed then ⟨some bound, .degraded, some "runaway"⟩
    else ⟨some elapsed, .extrapolating, none⟩

/-- `TimingExtrapolator.tick`. -/
def tick (engine : TimingExtrapolator) (now : PyFloat) : Values :=
  [(lapElapsed, engine.lapStartedAt), (sectorElapsed, engine.sectorStartedAt)].filterMap
    fun clock => clock.2.map fun startedAt => (clock.1, elapsedValue runtime engine now startedAt)

end TimingExtrapolator

end OpenLaps.PitClocks

import OpenLaps.Lib.Readings
import OpenLaps.Pit.Strategy.Evaluate
import Mathlib.Data.List.Infix

/- The views that the strategy reads (`003_endurance_read_surface.sql`): the pit stops
paired from the raw events, and the fuel of a lap from the samples of its window. -/
namespace OpenLaps.Strategy

/-- A row of `samples` joined with its channel. -/
structure ChannelSample where
  time : ℚ
  vehicleId : String
  name : String
  value : Option ℚ
  valueText : Option String
deriving DecidableEq

/-- What the views take from the database: `text::jsonb ->> key`, and the interval
`x * INTERVAL '1 second'`. -/
structure Sql where
  field : String → String → Option String
  seconds : ℚ → ℚ

/-- The expression that types a pit line: `lower(line) LIKE '%refuel%'`, then `service`. -/
def lineType (line : Option String) : String :=
  let lowered := (line.getD "").toList.map Char.toLower
  if "refuel".toList <:+: lowered then "refuel"
  else if "service".toList <:+: lowered then "service"
  else "unknown"

/-- A row of `pit_events`. -/
structure PitEvent where
  time : ℚ
  eventType : String
  line : Option String
deriving DecidableEq

def PitEvent.lineType (event : PitEvent) : String := Strategy.lineType event.line

/-- The pit event that a sample holds. -/
def pitEvent (sql : Sql) (sample : ChannelSample) : Option PitEvent :=
  if sample.name = "lap.event" then
    sample.valueText.bind fun text =>
      (sql.field text "type").bind fun eventType =>
        if eventType = "pit_entry" ∨ eventType = "pit_exit" then
          some ⟨sample.time, eventType, sql.field text "line"⟩
        else none
  else none

/-- `pit_events` of one vehicle, ordered by time. -/
def pitEvents (sql : Sql) (samples : List ChannelSample) (vehicleId : String) : List PitEvent :=
  ((samples.filter fun sample => sample.vehicleId = vehicleId).filterMap (pitEvent sql)).insertionSort
    fun first second => first.time ≤ second.time

/-- `paired`: every event with the one that `lead` gives. -/
def paired : List PitEvent → List (PitEvent × Option PitEvent)
  | [] => []
  | event :: rest => (event, rest.head?) :: paired rest

/-- `closes`: the next event is an exit over a line of the entry's type. -/
def closes (entry : PitEvent) (next : Option PitEvent) : Bool :=
  next.any fun exit => exit.eventType = "pit_exit" && exit.lineType = entry.lineType

/-- A row of `v_pit_stops`. -/
structure PitStop where
  vehicleId : String
  entryAt : ℚ
  exitAt : Option ℚ
  durationS : ℚ
  isOpen : Bool
  stopType : String
  entryLine : Option String
  exitLine : Option String
deriving DecidableEq

/-- The row of an entry. An open stop lasts until `clock`. -/
def pitStop (vehicleId : String) (clock : ℚ) (entry : PitEvent) (next : Option PitEvent) :
    PitStop :=
  let exit := if closes entry next then next else none
  { vehicleId := vehicleId
    entryAt := entry.time
    exitAt := exit.map PitEvent.time
    durationS := (exit.map PitEvent.time).getD clock - entry.time
    isOpen := !closes entry next
    stopType := entry.lineType
    entryLine := entry.line
    exitLine := exit.bind PitEvent.line }

/-- `v_pit_stops` of one vehicle. -/
def vPitStops (sql : Sql) (samples : List ChannelSample) (vehicleId : String) (clock : ℚ) :
    List PitStop :=
  ((paired (pitEvents sql samples vehicleId)).filter fun pair => pair.1.eventType = "pit_entry").map
    fun pair => pitStop vehicleId clock pair.1 pair.2

def PitStop.fact (stop : PitStop) : StopFact :=
  ⟨stop.entryAt, stop.exitAt, stop.isOpen, stop.stopType⟩

/-- The stops of `_STOPS`: those entered since the session started. -/
def stopFacts (stops : List PitStop) (sessionStarted : ℚ) : List StopFact :=
  (stops.filter fun stop => sessionStarted ≤ stop.entryAt).map PitStop.fact

/-- `_PROBE_PITS`. -/
def probePits (stops : List PitStop) (sessionStarted : ℚ) : Bool :=
  (stops.filter fun stop => sessionStarted ≤ stop.entryAt).any PitStop.isOpen

/-- A row of `v_laps`. -/
structure LapView where
  vehicleId : String
  lapNumber : Int
  crossedAt : ℚ
  lapTimeS : Option ℚ
  valid : Bool
  pitStatus : Option String
  stintNumber : Option Int
deriving DecidableEq

/-- When the window of a timed lap begins. -/
def LapView.startsAt (sql : Sql) (lap : LapView) : Option ℚ :=
  lap.lapTimeS.map fun lapTime => lap.crossedAt - sql.seconds lapTime

/-- The fuel counter of one vehicle, ordered by time. -/
def fuelCounter (samples : List ChannelSample) (vehicleId : String) :
    List (Readings.Reading ℚ ℚ) :=
  (samples.filterMap fun sample =>
    if sample.vehicleId = vehicleId ∧ sample.name = "car.fuel_total_used" then
      sample.value.map fun value => ⟨sample.time, value⟩
    else none).insertionSort fun first second => first.time ≤ second.time

/-- `counter_samples` of a lap. -/
def counterSamples (sql : Sql) (samples : List ChannelSample) (lap : LapView) :
    List (Readings.Reading ℚ ℚ) :=
  match lap.startsAt sql with
  | none => []
  | some start => Readings.within (fuelCounter samples lap.vehicleId) start lap.crossedAt

/-- `counter_reset`: some reading is below the one before it. -/
def counterReset : List (Readings.Reading ℚ ℚ) → Bool
  | first :: second :: rest => second.value < first.value || counterReset (second :: rest)
  | _ => false

/-- The columns that `v_lap_fuel` adds to `v_laps`. -/
structure LapFuel where
  fuelCounterStartCc : Option ℚ
  fuelCounterEndCc : Option ℚ
  fuelUsedCc : Option ℚ
  fuelUsedL : Option ℚ
  measurementStatus : String
deriving DecidableEq

/-- The fuel of a lap from the counter samples of its window. -/
def lapFuel (window : List (Readings.Reading ℚ ℚ)) : LapFuel :=
  let first := window.head?.map Readings.Reading.value
  let last := window.getLast?.map Readings.Reading.value
  let used := if window = [] ∨ counterReset window = true then none
    else last.bind fun last => first.map fun first => last - first
  { fuelCounterStartCc := first
    fuelCounterEndCc := last
    fuelUsedCc := used
    fuelUsedL := used.map (· / 1000)
    measurementStatus :=
      if window = [] then "missing" else if counterReset window then "counter_reset" else "clean" }

/-- `v_lap_fuel`. -/
def vLapFuel (sql : Sql) (samples : List ChannelSample) (lap : LapView) : LapFuel :=
  lapFuel (counterSamples sql samples lap)

/-- A lap as `_LAPS` reads it. -/
def lapFact (sql : Sql) (samples : List ChannelSample) (lap : LapView) : LapFact :=
  let fuel := vLapFuel sql samples lap
  ⟨lap.lapNumber, lap.crossedAt, lap.lapTimeS, lap.valid, lap.pitStatus, lap.stintNumber,
    fuel.fuelUsedL, fuel.measurementStatus⟩

end OpenLaps.Strategy

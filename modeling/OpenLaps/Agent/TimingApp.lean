import OpenLaps.Pit.Ingest.Laps
import OpenLaps.Timing.Engine
import OpenLaps.Timing.Reference

/- The in-agent lap timing of `agent/timing_app.py`: one fix through the distance
model, the recorder, the engine and the delta tracker, and the samples it emits.
The pairing of latitude and longitude samples and the counters of the status
payload are left out. -/
namespace OpenLaps.TimingApp
open Timing

/-- A latitude and longitude sample of one capture. -/
structure Fix where
  lat : ℚ
  lon : ℚ
  tWallMs : ℚ
  deriving DecidableEq, Repr

def Fix.point (fix : Fix) : GPSPoint := ⟨fix.lat, fix.lon, fix.tWallMs / 1000⟩

/-- The session identity stamped onto events, as the session service publishes it. -/
structure Stamp where
  sessionId : Option String := none
  driver : Option String := none
  stintNumber : Option Int := none
  sessionType : Option String := none
  trackName : Option String := none
  deriving DecidableEq, Repr

/-- The value of a derived sample; a `lap.event` is kept before it is printed. -/
inductive Derived where
  | event (event : TimingEvent) (stamp : Stamp)
  | int (value : Nat)
  | float (value : ℚ)
  deriving DecidableEq, Repr

/-- The track the app times: the engine's configuration and the distance of two points. -/
structure Track where
  config : Config
  haversine : Haversine

structure App where
  engine : Engine := {}
  distance : DistanceModel := {}
  recorder : LapRecorder := {}
  delta : DeltaTracker := {}
  session : Stamp := {}
  lastEmitted : Dict String Derived := .empty

/-- The samples emitted for one fix, with what was last emitted under each name. -/
structure Emitter where
  last : Dict String Derived
  emitted : List (String × Derived) := []

def Emitter.emit (emitter : Emitter) (name : String) (value : Derived) (always : Bool := false) :
    Emitter :=
  if ¬ always ∧ emitter.last.get? name = some value then emitter
  else ⟨emitter.last.set name value, emitter.emitted ++ [(name, value)]⟩

/-- The three objects that must start anew with every lap. -/
structure Lap where
  distance : DistanceModel
  recorder : LapRecorder
  delta : DeltaTracker

/-- `LAP_COMPLETED`: the curve is offered, then distance and recorder start anew. -/
def Lap.complete (lap : Lap) (event : TimingEvent) : Lap where
  distance := .startLap
  recorder := {}
  delta := lap.delta.offer (lap.recorder.complete event.lapTime) event.valid

/-- What the loop over the events of a fix does to the lap. -/
def Lap.observe (lap : Lap) (event : TimingEvent) : Lap :=
  if event.type = .lapCompleted then lap.complete event else lap

/-- What the loop over the events of a fix emits. -/
def Emitter.observe (stamp : Stamp) (bestLapTime : ℚ) (emitter : Emitter) (event : TimingEvent) :
    Emitter :=
  let emitter := emitter.emit "lap.event" (.event event stamp) true
  if event.type = .lapCompleted then
    let emitter := emitter.emit "lap.last_time" (.float event.lapTime) true
    if 0 < bestLapTime then emitter.emit "lap.best_time" (.float bestLapTime) else emitter
  else
    emitter

/-- The sector in progress as `snapshot` reports it. -/
def snapshotSector (config : Config) (state : TimingState) : Nat :=
  if state.lapStartTime = 0 then 0
  else if state.expectedIdx ≠ 0 then state.expectedIdx
  else config.nPoints

/-- The samples emitted after the events of a fix. -/
def Emitter.status (config : Config) (emitter : Emitter) (state : TimingState) (lap : Lap)
    (timestamp : ℚ) : Emitter :=
  let emitter := emitter.emit "lap.number" (.int state.lapNumber)
  let emitter := emitter.emit "lap.sector" (.int (snapshotSector config state))
  if 0 < state.lapStartTime then
    let emitter := emitter.emit "timing.distance" (.float lap.distance.lapDistance) true
    let elapsed := timestamp - state.lapStartTime
    let emitter := emitter.emit "timing.lap_elapsed" (.float elapsed) true
    match lap.delta.delta lap.distance.lapDistance elapsed with
    | none => emitter
    | some delta =>
        let emitter := emitter.emit "timing.delta_best" (.float delta) true
        match lap.delta.predicted lap.distance.lapDistance elapsed with
        | none => emitter
        | some predicted => emitter.emit "timing.predicted_lap" (.float predicted) true
  else
    emitter

/-- The lap before its events: the fix moves the distance, is recorded if the clock
runs, and anchors both when it is the one that started the clock. -/
def advanceLap (track : Track) (app : App) (point : GPSPoint) (engine : Engine) : Lap :=
  let distance := app.distance.update track.haversine point.lat point.lon
  let lapRunning := 0 < app.engine.state.lapStartTime
  let recorder :=
    if lapRunning then
      app.recorder.add distance.lapDistance (point.timestamp - app.engine.state.lapStartTime)
    else app.recorder
  if ¬ lapRunning ∧ 0 < engine.state.lapStartTime then ⟨.startLap, {}, app.delta⟩
  else ⟨distance, recorder, app.delta⟩

def processFix (track : Track) (app : App) (fix : Fix) : App × List (String × Derived) :=
  let point := fix.point
  let timed := processPoint track.config app.engine point
  let lap := timed.2.foldl Lap.observe (advanceLap track app point timed.1)
  let emitter := timed.2.foldl (Emitter.observe app.session timed.1.state.bestLapTime)
    ⟨app.lastEmitted, []⟩
  let emitter := emitter.status track.config timed.1.state lap point.timestamp
  ({ app with
      engine := timed.1
      distance := lap.distance
      recorder := lap.recorder
      delta := lap.delta
      lastEmitted := emitter.last }, emitter.emitted)

/-- The app after a sequence of fixes. -/
def processFixes (track : Track) (app : App) (fixes : List Fix) : App :=
  fixes.foldl (fun app fix => (processFix track app fix).1) app

open Ingest (Json)

def eventTypeValue : EventType → String
  | .sectorCompleted => "sector_completed"
  | .lapCompleted => "lap_completed"
  | .pitEntry => "pit_entry"
  | .pitExit => "pit_exit"

def directionValue : Direction → String
  | .clockwise => "clockwise"
  | .counterclockwise => "counterclockwise"

def pitStatusValue : PitStatus → String
  | .track => "track"
  | .pit => "pit"

/-- The stamp keys whose value is not `None`. -/
def Stamp.fields (stamp : Stamp) : List (String × Json) :=
  [("session_id", stamp.sessionId.map Json.str), ("driver", stamp.driver.map Json.str),
    ("stint_number", stamp.stintNumber.map Json.int),
    ("session_type", stamp.sessionType.map Json.str),
    ("track_name", stamp.trackName.map Json.str)].filterMap
      fun entry => entry.2.map fun value => (entry.1, value)

/-- The payload of `_encode_event`, before `json.dumps` prints it. -/
def encodeEvent (stamp : Stamp) (event : TimingEvent) : List (String × Json) :=
  [("type", .str (eventTypeValue event.type)),
    ("time", .float (.finite event.time)),
    ("line", .str event.line),
    ("lap_number", .int event.lapNumber),
    ("sector", .int event.sector),
    ("split_time", .float (.finite event.splitTime)),
    ("lap_time", .float (.finite event.lapTime)),
    ("valid", .bool event.valid),
    ("direction", .str (directionValue event.direction)),
    ("pit_status", .str (pitStatusValue event.pitStatus)),
    ("lat", .float (.finite event.lat)),
    ("lon", .float (.finite event.lon))] ++ stamp.fields

end OpenLaps.TimingApp

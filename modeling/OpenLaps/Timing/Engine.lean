import OpenLaps.Timing.Geometry
import Mathlib.Data.List.Sort
import Mathlib.Logic.Function.Basic

/- The lap and sector timing engine of `timing/timing_core.py`. -/
namespace OpenLaps.Timing

inductive EventType where
  | sectorCompleted
  | lapCompleted
  | pitEntry
  | pitExit
  deriving DecidableEq, Repr

inductive PitStatus where
  | track
  | pit
  deriving DecidableEq, Repr

structure TimingEvent where
  type : EventType
  time : ℚ
  line : String
  lat : ℚ
  lon : ℚ
  lapNumber : Nat
  sector : Nat := 0
  splitTime : ℚ := 0
  lapTime : ℚ := 0
  valid : Bool := true
  direction : Direction
  pitStatus : PitStatus := .track
  deriving DecidableEq, Repr

/-- The serialisable state; its dictionaries are lookup functions. -/
structure TimingState where
  lapNumber : Nat := 0
  expectedIdx : Nat := 0
  lapStartTime : ℚ := 0
  segmentStartTime : ℚ := 0
  sectorsDone : Nat := 0
  pitStatus : PitStatus := .track
  lapValid : Bool := true
  bestLapTime : ℚ := 0
  lastLapTime : ℚ := 0
  lastCrossTime : String → Option ℚ := fun _ => none
  lineDirection : String → Option Int := fun _ => none

/-- The trailing integer of a sector name, 0 if it has none. Names are ASCII. -/
def sectorNum (name : String) : Nat :=
  let digits := (name.toList.reverse.dropWhile fun ch => !ch.isDigit).takeWhile Char.isDigit
  digits.foldr (fun ch number => 10 * number + (ch.toNat - '0'.toNat)) 0

/-- The constructor arguments of `TimingEngine`. -/
structure Config where
  lines : List TimingLine
  projection : Projection
  minLineReentryS : ℚ := 10
  minLapTimeS : ℚ := 20
  gateDirection : Bool := true

/-- Start/finish first, then the sectors by number. -/
def Config.lapPoints (config : Config) : List TimingLine :=
  let sf := config.lines.filter fun line => line.lineType = .startFinish
  let sectors := (config.lines.filter fun line => line.lineType = .sector).insertionSort
    fun first second => sectorNum first.name ≤ sectorNum second.name
  if sf = [] then sectors else sf.take 1 ++ sectors

def Config.nPoints (config : Config) : Nat := config.lapPoints.length

def Config.pitLines (config : Config) : List TimingLine :=
  config.lines.filter fun line => line.lineType = .pitEntry ∨ line.lineType = .pitExit

/-- Which line an accepted crossing was of, lap points by their index. -/
inductive Role where
  | pitEntry
  | pitExit
  | lapPoint (idx : Nat)
  deriving DecidableEq, Repr

/-- One accepted crossing as history: when it happened, the pit status it found
or set, whether it started the lap clock, and the events it produced. -/
structure Crossing where
  role : Role
  time : ℚ
  pitStatus : PitStatus
  startsLap : Bool
  events : List TimingEvent
  deriving DecidableEq, Repr

/-- The engine; `history` records the accepted crossings in order and is never read. -/
structure Engine where
  state : TimingState := {}
  prev : Option GPSPoint := none
  revision : Nat := 0
  history : List Crossing := []

/-- The debounce of `_accept`. -/
def tooSoon (config : Config) (state : TimingState) (line : TimingLine) (hit : Hit) : Bool :=
  match state.lastCrossTime line.name with
  | some last => hit.time - last < config.minLineReentryS
  | none => false

/-- Debounce and direction gate; the updated state when the crossing is accepted. -/
def accept (config : Config) (state : TimingState) (line : TimingLine) (hit : Hit) :
    Option TimingState :=
  if tooSoon config state line hit then
    none
  else
    let accepted := { state with
      lastCrossTime := Function.update state.lastCrossTime line.name (some hit.time) }
    if config.gateDirection then
      match state.lineDirection line.name with
      | none => some { accepted with
          lineDirection := Function.update state.lineDirection line.name (some hit.sign) }
      | some expected => if expected ≠ hit.sign then none else some accepted
    else
      some accepted

def handlePit (state : TimingState) (line : TimingLine) (hit : Hit) (gps : GPSPoint) :
    TimingState × List TimingEvent :=
  let isEntry := line.lineType = .pitEntry
  let next := if isEntry then { state with pitStatus := .pit, lapValid := false }
    else { state with pitStatus := .track }
  (next, [{
    type := if isEntry then .pitEntry else .pitExit
    time := hit.time
    line := line.name
    lat := gps.lat
    lon := gps.lon
    lapNumber := next.lapNumber
    direction := hit.direction
    pitStatus := next.pitStatus }])

def startNewLap (config : Config) (state : TimingState) (ctime : ℚ) : TimingState :=
  { state with
    lapStartTime := ctime
    segmentStartTime := ctime
    expectedIdx := 1 % config.nPoints
    sectorsDone := 0
    lapValid := state.pitStatus = .track }

/-- The sector split and the lap event of a completed lap. -/
def lapEvents (config : Config) (state : TimingState) (line : TimingLine) (hit : Hit)
    (gps : GPSPoint) (lapValid : Bool) : List TimingEvent :=
  [{ type := .sectorCompleted
     time := hit.time
     line := line.name
     lat := gps.lat
     lon := gps.lon
     lapNumber := state.lapNumber
     sector := config.nPoints
     splitTime := hit.time - state.segmentStartTime
     valid := lapValid
     direction := hit.direction
     pitStatus := state.pitStatus },
   { type := .lapCompleted
     time := hit.time
     line := line.name
     lat := gps.lat
     lon := gps.lon
     lapNumber := state.lapNumber
     lapTime := hit.time - state.lapStartTime
     valid := lapValid
     direction := hit.direction
     pitStatus := state.pitStatus }]

def sectorEvent (state : TimingState) (idx : Nat) (line : TimingLine) (hit : Hit)
    (gps : GPSPoint) : TimingEvent where
  type := .sectorCompleted
  time := hit.time
  line := line.name
  lat := gps.lat
  lon := gps.lon
  lapNumber := state.lapNumber
  sector := idx
  splitTime := hit.time - state.segmentStartTime
  valid := idx = state.expectedIdx && state.pitStatus = .track
  direction := hit.direction
  pitStatus := state.pitStatus

def handleLapPoint (config : Config) (state : TimingState) (idx : Nat) (line : TimingLine)
    (hit : Hit) (gps : GPSPoint) : TimingState × List TimingEvent :=
  if state.lapStartTime = 0 then
    -- First ever crossing: start the clocks; a lap joined midway never counts.
    let started := startNewLap config state hit.time
    ({ started with
        lapNumber := 1
        expectedIdx := (idx + 1) % config.nPoints
        lapValid := if idx ≠ 0 then false else started.lapValid }, [])
  else if idx = 0 then
    let lapTime := hit.time - state.lapStartTime
    if state.sectorsDone = 0 ∨ lapTime < config.minLapTimeS then
      (startNewLap config state hit.time, [])
    else
      let lapValid := state.lapValid && idx = state.expectedIdx && state.pitStatus = .track
      let best := if lapValid ∧ (state.bestLapTime = 0 ∨ lapTime < state.bestLapTime) then lapTime
        else state.bestLapTime
      (startNewLap config { state with
          lastLapTime := lapTime
          bestLapTime := best
          lapNumber := state.lapNumber + 1 } hit.time,
        lapEvents config state line hit gps lapValid)
  else
    ({ state with
        lapValid := state.lapValid && idx = state.expectedIdx
        sectorsDone := state.sectorsDone + 1
        segmentStartTime := hit.time
        expectedIdx := (idx + 1) % config.nPoints },
      [sectorEvent state idx line hit gps])

/-- Exactly the lap points at which `_handle_lap_point` calls `_start_new_lap`. -/
def startsLap (state : TimingState) (idx : Nat) : Bool := state.lapStartTime = 0 || idx = 0

/-- The record of an accepted pit line. -/
def pitCrossing (line : TimingLine) (hit : Hit) (gps : GPSPoint) (accepted : TimingState) :
    Crossing where
  role := if line.lineType = .pitEntry then .pitEntry else .pitExit
  time := hit.time
  pitStatus := (handlePit accepted line hit gps).1.pitStatus
  startsLap := false
  events := (handlePit accepted line hit gps).2

/-- An accepted pit line, handled and recorded. -/
def crossPit (engine : Engine) (line : TimingLine) (hit : Hit) (gps : GPSPoint)
    (accepted : TimingState) : Engine × List TimingEvent :=
  let handled := handlePit accepted line hit gps
  ({ engine with
      state := handled.1
      revision := engine.revision + 1
      history := engine.history ++ [pitCrossing line hit gps accepted] }, handled.2)

/-- The record of an accepted lap point. -/
def lapCrossing (config : Config) (idx : Nat) (line : TimingLine) (hit : Hit) (gps : GPSPoint)
    (accepted : TimingState) : Crossing where
  role := .lapPoint idx
  time := hit.time
  pitStatus := accepted.pitStatus
  startsLap := startsLap accepted idx
  events := (handleLapPoint config accepted idx line hit gps).2

/-- An accepted lap point, handled and recorded. -/
def crossLapPoint (config : Config) (engine : Engine) (idx : Nat) (line : TimingLine) (hit : Hit)
    (gps : GPSPoint) (accepted : TimingState) : Engine × List TimingEvent :=
  let handled := handleLapPoint config accepted idx line hit gps
  ({ engine with
      state := handled.1
      revision := engine.revision + 1
      history := engine.history ++ [lapCrossing config idx line hit gps accepted] }, handled.2)

/-- The hit of a segment on a line, if it crosses and is accepted. -/
def acceptedHit (config : Config) (engine : Engine) (prev gps : GPSPoint) (line : TimingLine) :
    Option (Hit × TimingState) :=
  (crossing config.projection prev gps line).bind fun hit =>
    (accept config engine.state line hit).map fun accepted => (hit, accepted)

/-- The loop over the pit lines. -/
def pitPass (config : Config) (prev gps : GPSPoint) :
    List TimingLine → Engine → Engine × List TimingEvent
  | [], engine => (engine, [])
  | line :: rest, engine =>
      match acceptedHit config engine prev gps line with
      | none => pitPass config prev gps rest engine
      | some (hit, accepted) =>
          let crossed := crossPit engine line hit gps accepted
          let later := pitPass config prev gps rest crossed.1
          (later.1, crossed.2 ++ later.2)

/-- The loop over the lap points, which stops at the first accepted one. -/
def lapPass (config : Config) (prev gps : GPSPoint) :
    Nat → List TimingLine → Engine → Engine × List TimingEvent
  | _, [], engine => (engine, [])
  | idx, line :: rest, engine =>
      match acceptedHit config engine prev gps line with
      | none => lapPass config prev gps (idx + 1) rest engine
      | some (hit, accepted) => crossLapPoint config engine idx line hit gps accepted

/-- Pit lines first, then the lap points in track order. -/
def processSegment (config : Config) (engine : Engine) (prev gps : GPSPoint) :
    Engine × List TimingEvent :=
  let pits := pitPass config prev gps config.pitLines engine
  let laps := lapPass config prev gps 0 config.lapPoints pits.1
  (laps.1, pits.2 ++ laps.2)

def processPoint (config : Config) (engine : Engine) (gps : GPSPoint) :
    Engine × List TimingEvent :=
  match engine.prev with
  | none => ({ engine with prev := some gps }, [])
  | some prev => processSegment config { engine with prev := some gps } prev gps

/-- Feeds a stream of points, collecting every event. -/
def processPoints (config : Config) : Engine → List GPSPoint → Engine × List TimingEvent
  | engine, [] => (engine, [])
  | engine, gps :: rest =>
      let first := processPoint config engine gps
      let later := processPoints config first.1 rest
      (later.1, first.2 ++ later.2)

end OpenLaps.Timing

import OpenLaps.Lib.Attempt
import OpenLaps.Lib.Dict
import OpenLaps.Pit.Session.State

/- Timescale persistence and the retry queue of session-control
(`pit/session_control/database.py`). A driver's id stands for the name its row
of `drivers` is unique on. The laps a snapshot re-windows are added in `LapWindows`;
the counters that only health reports read are left out. -/
namespace OpenLaps.Session

open Ingest (Json fromTimestamp)

structure SessionRow where
  vehicleId : String
  sessionType : String
  trackName : Option String
  car : Option String
  started : Int
  ended : Option Int
  status : Status
  deriving DecidableEq, Repr

structure StintRow where
  driver : String
  started : Int
  ended : Option Int
  deriving DecidableEq, Repr

/-- `sessions`, unique on the session, and `stints`, unique on the session and
the stint number. -/
structure Tables where
  sessions : Dict String SessionRow
  stints : Dict (String × Int) StintRow

/-- `_timestamp`, in microseconds. -/
def timestamp (epochMs : Int) : Except PyError Int :=
  fromTimestamp (.finite ((epochMs : ℚ) / 1000))

def requiredStr (key value : String) : Except PyError String :=
  if value = "" then .error (.valueError s!"{key} is required") else .ok value

/-- `NULLIF(text, '')`. -/
def nullIfEmpty (text : String) : Option String :=
  if text = "" then none else some text

/-- The row of `sessions` that `_write_state` computes before its transaction. -/
def sessionRow (vehicleId : String) (state : SessionState) : Except PyError SessionRow := do
  let _ ← requiredStr "session_id" state.sessionId
  let started ← timestamp state.sessionStartMs
  let ended := if state.status = .ended then (state.stints.map Stint.endMs).max? else none
  let endedAt ← ended.mapM timestamp
  let sessionType ← requiredStr "session_type" state.sessionType
  return {
    vehicleId := vehicleId
    sessionType := sessionType
    trackName := nullIfEmpty state.trackName
    car := nullIfEmpty state.car
    started := started
    ended := endedAt
    status := state.status }

def stintRow (driver : String) (startMs : Int) (endMs : Option Int) : Except PyError StintRow := do
  let driver ← requiredStr "driver" driver
  let started ← timestamp startMs
  let ended ← endMs.mapM timestamp
  return ⟨driver, started, ended⟩

/-- The stints of a snapshot as numbers, drivers and times: the closed ones,
then the running one. -/
def snapshotStints (state : SessionState) : List (Int × String × Int × Option Int) :=
  state.stints.map (fun stint => (stint.stintNumber, stint.driver, stint.startMs, some stint.endMs))
    ++ if state.status = .active then
      [(state.stintNumber, state.driver, state.stintStartMs, none)]
    else []

/-- The rows of `stints` the transaction upserts, in order. -/
def stintRows (state : SessionState) : Except PyError (List (Int × StintRow)) :=
  Attempt.all (fun (number, driver, startMs, endMs) => (stintRow driver startMs endMs).map (number, ·))
    (snapshotStints state)

/-- The statements of the transaction; rows of `stints` are never deleted. -/
def Tables.upsert (tables : Tables) (sessionId : String) (row : SessionRow)
    (stints : List (Int × StintRow)) : Tables where
  sessions := tables.sessions.set sessionId row
  stints := stints.foldl (fun rows stint => rows.set (sessionId, stint.1) stint.2) tables.stints

/-- How a write ends: it commits, it raises `TimeoutError`, `OperationalError`
or `InterfaceError` whether or not the commit landed, or the server refuses it. -/
inductive WriteOutcome where
  | committed
  | failed (landed : Bool)
  | refused
  deriving DecidableEq, Repr

inductive Raised where
  | python (error : PyError)
  | osError
  | databaseError
  deriving DecidableEq, Repr

inductive WriteResult where
  | done
  | deferred
  | raised (why : Raised)

/-- `_write_state` under `wait_for`. -/
def writeState (vehicleId : String) (tables : Tables) (state : SessionState)
    (outcome : WriteOutcome) : Tables × WriteResult :=
  match sessionRow vehicleId state with
  | .error error => (tables, .raised (.python error))
  | .ok row =>
    match outcome, stintRows state with
    | .committed, .ok stints => (tables.upsert state.sessionId row stints, .done)
    | .committed, .error error => (tables, .raised (.python error))
    | .failed true, .ok stints => (tables.upsert state.sessionId row stints, .deferred)
    | .failed _, _ => (tables, .deferred)
    | .refused, _ => (tables, .raised .databaseError)

/-- The service's side, `pending` and the connection, with the tables it writes. -/
structure SessionDatabase where
  tables : Tables
  pending : Dict String SessionState
  connected : Bool

inductive Recorded where
  | returned (landed : Bool)
  | raised (why : Raised)
  deriving DecidableEq, Repr

namespace SessionDatabase

/-- `_queue`; when the queue file cannot be written the previous snapshot comes
back and the `OSError` goes on. -/
def queue (database : SessionDatabase) (state : SessionState) (persists : Bool) :
    SessionDatabase × Recorded :=
  if persists then
    ({ database with pending := database.pending.set state.sessionId state }, .returned false)
  else (database, .raised .osError)

/-- What stays queued for a session whose snapshot has just been written: a
retained snapshot goes last. -/
def settle (pending : Dict String SessionState) (sessionId : String) (persists : Bool) :
    Dict String SessionState :=
  match pending.get? sessionId with
  | none => pending
  | some retained =>
    if persists then pending.erase sessionId
    else (pending.erase sessionId).set sessionId retained

/-- Commit a snapshot now when connected, otherwise queue it for retry. -/
def record (py : Runtime) (vehicleId : String) (database : SessionDatabase)
    (data : List (String × Json)) (outcome : WriteOutcome) (persists : Bool) :
    SessionDatabase × Recorded :=
  match fromDict py data with
  | .error error => (database, .raised (.python error))
  | .ok state =>
    if state.sessionId = "" then (database, .returned true)
    else if database.connected then
      match writeState vehicleId database.tables state outcome with
      | (tables, .done) =>
        ({ database with
            tables := tables
            pending := settle database.pending state.sessionId persists },
          .returned true)
      | (tables, .deferred) =>
        queue { database with tables := tables, connected := false } state persists
      | (tables, .raised why) => ({ database with tables := tables }, .raised why)
    else queue database state persists

/-- Retry the oldest queued snapshot. -/
def flushOne (vehicleId : String) (database : SessionDatabase) (outcome : WriteOutcome)
    (persists : Bool) : SessionDatabase :=
  match database.pending.entries with
  | [] => database
  | (sessionId, state) :: _ =>
    if database.connected then
      match writeState vehicleId database.tables state outcome with
      | (tables, .done) =>
        { database with
          tables := tables
          pending := settle database.pending sessionId persists }
      | (tables, .deferred) => { database with tables := tables, connected := false }
      | (tables, .raised _) => { database with tables := tables }
    else database

end SessionDatabase

def queuedSnapshot (py : Runtime) : Json → Except PyError SessionState
  | .object fields => fromDict py fields
  | _ => .error (.valueError "retry queue items must be JSON objects")

/-- The queue file read at start: a later snapshot of a session replaces an
earlier one. -/
def loadPending (py : Runtime) (items : List Json) : Except PyError (Dict String SessionState) :=
  (Attempt.all (queuedSnapshot py) items).map (Dict.ofRows SessionState.sessionId id)

end OpenLaps.Session

import OpenLaps.Pit.Session.Database

/- One API action of session-control: the state machine, the state file, the
database and the publisher in turn, with the hand-written rollback
(`pit/session_control/service.py`). The state file is its decoded object, `none`
while there is none that decodes. -/
namespace OpenLaps.Session

open Ingest (Json)

/-- `StateFile.load`: a file that is missing or invalid counts as no session. -/
def load (py : Runtime) : Option (List (String × Json)) → SessionState
  | none => {}
  | some data =>
    match fromDict py data with
    | .ok state => state
    | .error _ => {}

/-- `StateFile.save` returns true, returns false after an `OSError`, or lets an
error of its clean-up escape. -/
inductive SaveOutcome where
  | saved
  | refused
  | raised
  deriving DecidableEq, Repr

/-- How `await database.record(...)` ends: by itself, or by a cancellation, with
the write landed or not and the connection dropped or not. -/
inductive RecordEnd where
  | finished (outcome : WriteOutcome) (persists : Bool)
  | cancelled (landed dropped : Bool)
  deriving DecidableEq, Repr

/-- What an action meets outside: the clock, `uuid4().hex`, a cancellation while
it waits for the lock, and the ends of its saves and of `record`. -/
structure Env where
  clock : Nat
  nowMs : Option Nat
  uuid : String
  cancelledWaiting : Bool
  save : SaveOutcome
  record : RecordEnd
  rollback : SaveOutcome

/-- `_text` of a field of the body. -/
def text (body : List (String × Json)) (key : String) : String :=
  match body.lookup key with
  | some (.str value) => value
  | _ => ""

/-- The checks on `at`, an optional time that backdates a change or an end. -/
def requestedTime (action : String) (body : List (String × Json)) (clock : Nat) :
    Except Failure (Option Int) :=
  match body.lookup "at" with
  | none => .ok none
  | some .null => .ok none
  | some (.int atMs) =>
    if action = "start" then .error (.sessionError "start cannot be backdated")
    else if (clock : Int) < atMs then .error (.sessionError "at cannot be in the future")
    else .ok (some atMs)
  | some _ => .error (.sessionError "at must be epoch milliseconds")

/-- `now_ms` as a method resolves it. -/
def Env.now (env : Env) : Int := ((env.nowMs.getD env.clock : Nat) : Int)

/-- The call of the state machine an action comes to. -/
def requestedCall (py : Runtime) (defaultTrack : String) (state : SessionState) (action : String)
    (body : List (String × Json)) (env : Env) : Except Failure Call := do
  let atMs ← requestedTime action body env.clock
  let now := atMs.getD env.now
  if action = "start" then
    let track := text body "track_name"
    return .startSession env.uuid (text body "session_type") (text body "driver")
      (if track = "" then defaultTrack else track) (text body "car") now
  else if action = "driver" then
    let driver := strip (text body "driver")
    -- re-stating the driver in the car with a time corrects when the stint began
    match atMs with
    | some atMs =>
      if state.status = .active ∧ driver = state.driver then return .amendStintStart atMs
      else return .changeDriver driver now
    | none => return .changeDriver driver now
  else if action = "end" then return .endSession now
  else .error (.sessionError s!"unknown action {py.repr action}")

inductive ActResult where
  | returned (payload : List (String × Json))
  | failed (failure : Failure)
  | persistenceError (message : String)
  | rollbackFailed
  | raised (why : Raised)
  | cancelled

structure Controller where
  state : SessionState
  file : Option (List (String × Json))
  published : Option (List (String × Json))
  database : SessionDatabase

namespace Controller

/-- `record` under a possible cancellation, which is raised as neither of the
errors that it handles; a snapshot that does not validate raises before the first
await. -/
def recordUnder (py : Runtime) (vehicleId : String) (database : SessionDatabase)
    (data : List (String × Json)) : RecordEnd → SessionDatabase × Option Recorded
  | .finished outcome persists =>
    let (after, recorded) := database.record py vehicleId data outcome persists
    (after, some recorded)
  | .cancelled landed dropped =>
    match fromDict py data with
    | .error error => (database, some (.raised (.python error)))
    | .ok state =>
      ({ database with
          tables :=
            if database.connected then
              (writeState vehicleId database.tables state (.failed landed)).1
            else database.tables
          connected := database.connected && !dropped },
        none)

/-- The handler of an exception from `record`. -/
def rollBack (py : Runtime) (controller : Controller) (prior : List (String × Json)) (why : Raised)
    (env : Env) : Controller × ActResult :=
  match fromDict py prior with
  | .error error => (controller, .raised (.python error))
  | .ok state =>
    let restored := { controller with state := state }
    match env.rollback with
    | .saved =>
      ({ restored with file := some (state.toDict env.clock) },
        if why = .osError then .persistenceError "failed to persist database retry queue"
        else .raised why)
    | .refused => (restored, .rollbackFailed)
    | .raised => (restored, .raised .osError)

/-- The state and payload an action asks for. -/
def transition (py : Runtime) (defaultTrack : String) (controller : Controller) (action : String)
    (body : List (String × Json)) (env : Env) :
    Except Failure (SessionState × List (String × Json)) :=
  (requestedCall py defaultTrack controller.state action body env).bind
    fun call => call.apply py controller.state

/-- Apply one API action. -/
def act (py : Runtime) (vehicleId defaultTrack : String) (controller : Controller)
    (action : String) (body : List (String × Json)) (env : Env) : Controller × ActResult :=
  if env.cancelledWaiting then (controller, .cancelled)
  else
    let prior := controller.state.toDict env.clock
    match controller.transition py defaultTrack action body env with
    | .error failure => (controller, .failed failure)
    | .ok (next, payload) =>
      match env.save with
      | .raised => ({ controller with state := next }, .raised .osError)
      | .refused =>
        match fromDict py prior with
        | .error error => ({ controller with state := next }, .raised (.python error))
        | .ok state =>
          ({ controller with state := state },
            .persistenceError "failed to persist session state")
      | .saved =>
        let data := next.toDict env.clock
        match recordUnder py vehicleId controller.database data env.record with
        | (database, some (.returned _)) =>
          (⟨next, some data, some payload, database⟩, .returned payload)
        | (database, some (.raised why)) =>
          rollBack py ⟨next, some data, controller.published, database⟩ prior why env
        | (database, none) => (⟨next, some data, controller.published, database⟩, .cancelled)

/-- `__init__`: the state is what the file holds. -/
def start (py : Runtime) (file : Option (List (String × Json))) (database : SessionDatabase) :
    Controller :=
  ⟨load py file, file, none, database⟩

end Controller

end OpenLaps.Session

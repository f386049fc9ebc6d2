import OpenLaps.Pit.Ingest.Laps
import Mathlib.Data.List.DropRight

/- The session and driver-stint state machine (`pit/session_control/state.py`).
Instants are epoch milliseconds; a dictionary is the list of its fields. -/
namespace OpenLaps.Session

open Ingest (Json)

/-- The characters `str.isspace` accepts, which `str.strip` removes. -/
def isSpace (char : Char) : Bool :=
  let code := char.toNat
  (0x09 ≤ code && code ≤ 0x0d) || (0x1c ≤ code && code ≤ 0x20) || code == 0x85 || code == 0xa0 ||
    code == 0x1680 || (0x2000 ≤ code && code ≤ 0x200a) || code == 0x2028 || code == 0x2029 ||
    code == 0x202f || code == 0x205f || code == 0x3000

/-- `text.strip()`. -/
def strip (text : String) : String :=
  String.ofList ((text.toList.dropWhile isSpace).rdropWhile isSpace)

/-- What the state machine takes from the Python runtime: `str.lower`, `repr`
of a string, and `time.strftime("%Y%m%d-%H%M", time.gmtime(ms / 1000))`, which
raises for years the platform cannot represent. -/
structure Runtime where
  lower : String → String
  repr : String → String
  stamp : Int → Except PyError String
  lower_word : ∀ word, word.toList.all Char.isLower = true → lower word = word
  stamp_digits : ∀ ms text, stamp ms = .ok text →
    text ≠ "" ∧ text.toList.all (fun char => char.isDigit || char == '-') = true

def sessionTypes : List String := ["practice", "qualifying", "race", "test"]

inductive Failure where
  | sessionError (message : String)
  | indexError
  | other (error : PyError)
  deriving DecidableEq, Repr

inductive Status where
  | none
  | active
  | ended
  deriving DecidableEq, Repr

def Status.text : Status → String
  | .none => "none"
  | .active => "active"
  | .ended => "ended"

structure Stint where
  driver : String
  stintNumber : Int
  startMs : Int
  endMs : Int
  deriving DecidableEq, Repr

/-- Current session plus the closed-stint history needed for persistence. -/
structure SessionState where
  sessionId : String := ""
  sessionType : String := ""
  driver : String := ""
  trackName : String := ""
  car : String := ""
  stintNumber : Int := 0
  sessionStartMs : Int := 0
  stintStartMs : Int := 0
  status : Status := .none
  stints : List Stint := []
  deriving DecidableEq, Repr

namespace SessionState

def payload (state : SessionState) (timestamp : Int) : List (String × Json) :=
  [("session_id", .str state.sessionId), ("session_type", .str state.sessionType),
    ("driver", .str state.driver), ("track_name", .str state.trackName), ("car", .str state.car),
    ("stint_number", .int state.stintNumber), ("session_start", .int state.sessionStartMs),
    ("stint_start", .int state.stintStartMs), ("status", .str state.status.text),
    ("timestamp", .int timestamp)]

/-- The stint that closing the current one at `now` records. -/
def closing (state : SessionState) (now : Int) : Stint :=
  ⟨state.driver, state.stintNumber, state.stintStartMs, now⟩

/-- Open a session and its first stint; `uuid` is `uuid4().hex`. Here and below
`now` is `now_ms`, or the clock where that is absent. -/
def startSession (py : Runtime) (uuid : String) (state : SessionState)
    (sessionType driver trackName car : String) (now : Int) :
    Except Failure (SessionState × List (String × Json)) :=
  if state.status = .active then
    .error (.sessionError s!"session {py.repr state.sessionId} is already active - end it first")
  else
    let sessionType := py.lower (strip sessionType)
    let driver := strip driver
    if sessionType ∉ sessionTypes then
      .error (.sessionError (s!"session_type must be one of ('practice', 'qualifying', 'race', " ++
        s!"'test'), got {py.repr sessionType}"))
    else if driver = "" then
      .error (.sessionError "driver is required")
    else
      match py.stamp now with
      | .error error => .error (.other error)
      | .ok stamp =>
        let next : SessionState :=
          { sessionId := stamp ++ "-" ++ uuid ++ "-" ++ sessionType
            sessionType := sessionType
            driver := driver
            trackName := strip trackName
            car := strip car
            stintNumber := 1
            sessionStartMs := now
            stintStartMs := now
            status := .active
            stints := [] }
        .ok (next, next.payload now)

/-- Close the current stint and open the next one for `driver`. -/
def changeDriver (py : Runtime) (state : SessionState) (driver : String) (now : Int) :
    Except Failure (SessionState × List (String × Json)) :=
  if state.status ≠ .active then
    .error (.sessionError "no active session - start one first")
  else
    let driver := strip driver
    if driver = "" then
      .error (.sessionError "driver is required")
    else if driver = state.driver then
      .error (.sessionError s!"{py.repr driver} is already the active driver")
    else if now < state.stintStartMs then
      .error (.sessionError "driver change cannot occur before the active stint started")
    else
      let next := { state with
        stints := state.stints ++ [state.closing now]
        driver := driver
        stintNumber := state.stintNumber + 1
        stintStartMs := now }
      .ok (next, next.payload now)

/-- Correct when the active stint began; the previous stint's end moves with it. -/
def amendStintStart (state : SessionState) (atMs : Int) :
    Except Failure (SessionState × List (String × Json)) :=
  if state.status ≠ .active then
    .error (.sessionError "no active session - start one first")
  else if state.stintNumber < 2 then
    .error (.sessionError "the first stint starts with the session and cannot be moved")
  else
    match state.stints.getLast? with
    | none => .error .indexError
    | some previous =>
      if atMs < previous.startMs then
        .error (.sessionError "stint start cannot move before the previous stint started")
      else
        let next := { state with
          stints := state.stints.dropLast ++ [{ previous with endMs := atMs }]
          stintStartMs := atMs }
        .ok (next, next.payload atMs)

/-- Close the current stint and mark the session ended. -/
def endSession (state : SessionState) (now : Int) :
    Except Failure (SessionState × List (String × Json)) :=
  if state.status ≠ .active then
    .error (.sessionError "no active session to end")
  else if now < state.stintStartMs then
    .error (.sessionError "session end cannot occur before the active stint started")
  else
    let next := { state with
      stints := state.stints ++ [state.closing now]
      status := .ended }
    .ok (next, next.payload now)


end SessionState

def Stint.toDict (stint : Stint) : List (String × Json) :=
  [("driver", .str stint.driver), ("stint_number", .int stint.stintNumber),
    ("start_ms", .int stint.startMs), ("end_ms", .int stint.endMs)]

/-- Serialise full state, including closed stints; `clock` is the time of the
call, which nothing reads back. -/
def SessionState.toDict (state : SessionState) (clock : Int) : List (String × Json) :=
  state.payload clock ++
    [("stints", .list (state.stints.map fun stint => .object stint.toDict))]

def requiredString (data : List (String × Json)) (key : String) : Except PyError String :=
  match data.lookup key with
  | some (.str value) =>
    if strip value = "" then .error (.valueError s!"{key} must be a non-empty string")
    else .ok (strip value)
  | _ => .error (.valueError s!"{key} must be a non-empty string")

def optionalString (data : List (String × Json)) (key : String) : Except PyError String :=
  match data.lookup key with
  | none => .ok (strip "")
  | some (.str value) => .ok (strip value)
  | some _ => .error (.typeError s!"{key} must be a string")

def requiredInteger (data : List (String × Json)) (key : String) : Except PyError Int :=
  match data.lookup key with
  | some (.int value) => .ok value
  | _ => .error (.typeError s!"{key} must be an integer")

/-- The loop of `from_dict` over the closed stints, with the last end seen. -/
def readStints (expectedNumber previousEnd : Int) :
    List Json → Except PyError (List Stint × Int)
  | [] => .ok ([], previousEnd)
  | .object item :: rest => do
    let number ← requiredInteger item "stint_number"
    let start ← requiredInteger item "start_ms"
    let finish ← requiredInteger item "end_ms"
    if number ≠ expectedNumber ∨ start < previousEnd ∨ finish < start then
      .error (.valueError "invalid stint ordering or timestamps")
    else
      let driver ← requiredString item "driver"
      let (closed, last) ← readStints (expectedNumber + 1) finish rest
      return (⟨driver, number, start, finish⟩ :: closed, last)
  | _ :: _ => .error (.typeError "each stint must be an object")

def readStatus (py : Runtime) (data : List (String × Json)) : Except PyError Status := do
  let value ←
    match data.lookup "status" with
    | none => .ok "none"
    | some (.str value) => .ok value
    | some _ => .error (.typeError "status must be a string")
  let status := py.lower (strip value)
  if status = "none" then return .none
  else if status = "active" then return .active
  else if status = "ended" then return .ended
  else .error (.valueError s!"invalid session status {py.repr status}")

def stintList (data : List (String × Json)) : Except PyError (List Json) :=
  match data.lookup "stints" with
  | none => .ok []
  | some (.list items) => .ok items
  | some _ => .error (.typeError "stints must be a list")

/-- Restore and strictly validate state written by `toDict`. -/
def fromDict (py : Runtime) (data : List (String × Json)) : Except PyError SessionState := do
  let status ← readStatus py data
  if status = .none then return {}
  else
    let sessionType := py.lower (← requiredString data "session_type")
    if sessionType ∉ sessionTypes then
      .error (.valueError
        "session_type must be one of ('practice', 'qualifying', 'race', 'test')")
    else
      let sessionStart ← requiredInteger data "session_start"
      let stintStart ← requiredInteger data "stint_start"
      let stintNumber ← requiredInteger data "stint_number"
      if sessionStart < 0 ∨ stintStart < sessionStart ∨ stintNumber < 1 then
        .error (.valueError "invalid session/stint start or stint number")
      else
        let (closed, previousEnd) ← readStints 1 sessionStart (← stintList data)
        let expectedClosed := if status = .ended then stintNumber else stintNumber - 1
        if closed.length ≠ expectedClosed then
          .error (.valueError "stint history does not match current stint number")
        else
          let driver ← requiredString data "driver"
          if status = .active ∧ stintStart < previousEnd then
            .error (.valueError "active stint starts before the previous stint ended")
          -- an ended session has a closed stint here, so `closed[-1]` exists
          else if status = .ended ∧ ¬ ∃ last ∈ closed.getLast?,
              driver = last.driver ∧ stintStart = last.startMs then
            .error (.valueError "ended state does not match its final stint")
          else
            return {
              sessionId := ← requiredString data "session_id"
              sessionType := sessionType
              driver := driver
              trackName := ← optionalString data "track_name"
              car := ← optionalString data "car"
              stintNumber := stintNumber
              sessionStartMs := sessionStart
              stintStartMs := stintStart
              status := status
              stints := closed }

/-- One call of the state machine, with the time it resolves to. -/
inductive Call where
  | startSession (uuid sessionType driver trackName car : String) (now : Int)
  | changeDriver (driver : String) (now : Int)
  | amendStintStart (atMs : Int)
  | endSession (now : Int)

namespace Call

def apply (py : Runtime) (state : SessionState) :
    Call → Except Failure (SessionState × List (String × Json))
  | .startSession uuid sessionType driver trackName car now =>
    state.startSession py uuid sessionType driver trackName car now
  | .changeDriver driver now => state.changeDriver py driver now
  | .amendStintStart atMs => state.amendStintStart atMs
  | .endSession now => state.endSession now

def time : Call → Int
  | .startSession _ _ _ _ _ now => now
  | .changeDriver _ now => now
  | .amendStintStart atMs => atMs
  | .endSession now => now

/-- The object after the call; a call that raises has assigned nothing. -/
def step (py : Runtime) (state : SessionState) (call : Call) : SessionState :=
  match call.apply py state with
  | .ok (next, _) => next
  | .error _ => state

def run (py : Runtime) (state : SessionState) (calls : List Call) : SessionState :=
  calls.foldl (fun state call => call.step py state) state

end Call

end OpenLaps.Session

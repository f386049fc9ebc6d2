import OpenLaps.Pit.Ingest.Laps
import OpenLaps.Pit.TimingFeed.FieldState

/- The two ingest shapes (`shapes.py`, `ingest.py`): the snapshot of a relay and the messages
of Timing71. -/
namespace OpenLaps.Field.Shapes

open Ingest (Json truthy)
open Session (strip)

/-- What the shapes take from the Python runtime besides: `str` of a value that is no text,
and `str.isdigit` of a character. -/
structure Python extends Runtime where
  str : Json → String
  isDigit : Char → Bool

def maxText : Nat := 80

/-- The columns of Timing71. -/
def t71Columns : List (String × String) :=
  [("num", "car_number"), ("state", "state"), ("class", "car_class"), ("pic", "class_position"),
    ("driver", "driver"), ("laps", "laps"), ("gap", "gap_lead_s"), ("int", "gap_next_s"),
    ("last", "last_lap_s"), ("best", "best_lap_s"), ("s1", "sec1_s"), ("s2", "sec2_s"),
    ("s3", "sec3_s"), ("pits", "pit_count")]

inductive Kind where
  | text
  | int
  | seconds
  | delta
  | bool
  deriving DecidableEq, Repr

def carFields : List (String × Kind) :=
  [("car_number", .text), ("competitor_id", .text), ("car_class", .text), ("class", .text),
    ("position", .int), ("class_position", .int), ("laps", .int), ("last_lap_s", .seconds),
    ("best_lap_s", .seconds), ("gap_lead_s", .delta), ("gap_next_s", .delta), ("sec1_s", .seconds),
    ("sec2_s", .seconds), ("sec3_s", .seconds), ("pit_count", .int), ("in_pit", .bool),
    ("pit_flag", .text), ("driver", .text), ("state", .text)]

/-- A value of a row; `null` is Python's `None`. -/
inductive Cell where
  | null
  | text (value : String)
  | int (value : Int)
  | float (value : PyFloat)
  | bool (value : Bool)
  deriving DecidableEq, Repr

/-- `ShapeError`, and what else can be raised. -/
inductive ShapeFailure where
  | shape (message : String)
  | other (error : PyError)
  deriving DecidableEq, Repr

section Coercions

variable (py : Python)

/-- `str(value)`. -/
def toStr : Json → String
  | .str value => value
  | value => py.str value

/-- `_int`. -/
def int : Json → Except PyError (Option Int)
  | .null => .ok none
  | .bool _ => .ok none
  | .int value => .ok (some value)
  | .float value => do
    let whole ← truncate value
    pure (if sameFloat value (.finite whole) then some whole else none)
  | value => int? py.toRuntime (some (toStr py value))

/-- `_seconds`. -/
def seconds : Json → Except PyError (Option PyFloat)
  | .null => .ok none
  | .bool _ => .ok none
  | .int value => (floatOfInt value).map some
  | .float value => .ok (some value)
  | value => .ok (seconds? py.toRuntime (some (toStr py value)))

/-- `_clip`. -/
def clip : Json → Option String
  | .null => none
  | value => (text? (some (toStr py value))).map fun text => String.ofList (text.toList.take maxText)

/-- `part in text`. -/
def holds (part text : String) : Bool := (text.toList.tails).any fun rest => part.toList.isPrefixOf rest

/-- `_delta`. -/
def delta : Json → Except PyError (Option PyFloat)
  | .null => .ok none
  | .bool _ => .ok none
  | .int value => (floatOfInt value).map some
  | .float value => .ok (some value)
  | value =>
    let text := py.lower (strip (toStr py value))
    if text.isEmpty || holds "lap" text || text.toList.getLast? = some 'l' then .ok none
    else .ok (seconds? py.toRuntime (some (String.ofList (text.toList.dropWhile (· = '+')))))

/-- The bool kind of `_coerce`. -/
def flag : Json → Cell
  | .null => .null
  | .bool value => .bool value
  | .str value => .bool (py.lower (strip value) ∈ ["true", "yes", "y", "1", "p"])
  | value => .bool (truthy value)

/-- The value of a `[value, flags]` pair. -/
def paired : Json → Json
  | .list items => items.head?.getD .null
  | value => value

def textCell (text : Option String) : Cell := (text.map Cell.text).getD .null

def floatCell (number : Option PyFloat) : Cell := (number.map Cell.float).getD .null

def intCell (number : Option Int) : Cell := (number.map Cell.int).getD .null

/-- `_coerce`. -/
def coerce (kind : Kind) (value : Json) : Except PyError Cell :=
  let value := paired value
  match kind with
  | .text => .ok (textCell (clip py value))
  | .int => (int py value).map intCell
  | .seconds => (seconds py value).map floatCell
  | .delta => (delta py value).map floatCell
  | .bool => .ok (flag py value)

end Coercions

/-- One car of a snapshot, with its values under their names. -/
structure CarRow where
  time : ℚ
  source : String
  carNumber : String
  values : Dict String Cell

structure Snapshot where
  at_ : ℚ
  source : String
  session : Option SessionRow
  cars : List CarRow

/-- The sub-status that a flag of Timing71 stands for. -/
def t71Subs : List (String × String) :=
  [("sc", "sc"), ("fcy", "fcy"), ("vsc", "vsc"), ("code_60", "code_60"),
    ("code_60_zone", "code_60"), ("slow_zone", "slow_zone"), ("caution", "caution")]

abbrev Mapping := List (String × Json)

/-- `mapping.get(key)`. -/
def Mapping.get (mapping : Mapping) (key : String) : Json := (mapping.lookup key).getD .null

section Snapshots

variable (py : Python)

/-- `_session_from`. -/
def sessionFrom (mapping : Mapping) (at_ : ℚ) (source : String) : Except PyError (Option SessionRow) :=
  if mapping = [] then .ok none
  else do
    let flag := mapping.get "flag_state"
    let sub := mapping.get "sub_status"
    let split : Option String := match flag, sub with
      | .str word, .null => t71Subs.lookup (py.lower (strip word))
      | _, _ => none
    let lapsRemaining ← int py (mapping.get "laps_remaining")
    let timeRemainingS ← seconds py (mapping.get "time_remaining_s")
    let timeElapsedS ← seconds py (mapping.get "time_elapsed_s")
    let trackTemp ← seconds py (mapping.get "track_temp")
    pure (some
      { time := at_, source := source,
        sessionName := clip py (mapping.get "session_name"),
        eventType := clip py (mapping.get "event_type"),
        flagState := match flag with
          | .null => none
          | flag => flagState py.toRuntime (toStr py flag),
        subStatus := match split, sub with
          | some word, _ => subStatus py.toRuntime word
          | none, .null => none
          | none, sub => subStatus py.toRuntime (toStr py sub),
        timeRemainingS := timeRemainingS, lapsRemaining := lapsRemaining,
        timeElapsedS := timeElapsedS, trackTemp := trackTemp })

/-- The values of a car, key after key. -/
def readFields : Mapping → Dict String Cell → Except PyError (Dict String Cell)
  | [], values => .ok values
  | (key, raw) :: rest, values =>
    match carFields.lookup key with
    | none => readFields rest values
    | some kind => do
      let cell ← coerce py kind raw
      readFields rest (values.set (if key = "class" then "car_class" else key) cell)

/-- `values.get(key) is None`. -/
def missing (values : Dict String Cell) (key : String) : Bool :=
  (values.get? key).getD .null = .null

/-- The place of a car that gives none, and whether it is in the pits. -/
def filled (values : Dict String Cell) (index : Nat) : Dict String Cell :=
  let values := if missing values "position" then values.set "position" (.int (index + 1)) else values
  if missing values "in_pit" then
    values.set "in_pit" (match values.get? "state" with
      | some (.text state) => .bool (state = "PIT")
      | _ => .null)
  else values

/-- `_car_from`. -/
def carFrom (mapping : Mapping) (at_ : ℚ) (source : String) (index : Nat) : Except ShapeFailure CarRow :=
  match readFields py mapping .empty with
  | .error error => .error (.other error)
  | .ok values =>
    match values.get? "car_number" with
    | some (.text number) => .ok ⟨at_, source, number, filled values index⟩
    | _ => .error (.shape s!"cars[{index}] has no car_number")

/-- The rows of a relay's cars. -/
def relayRows (at_ : ℚ) (label : String) : Nat → List String → List Json → Except ShapeFailure (List CarRow)
  | _, _, [] => .ok []
  | index, seen, .object entry :: rest => do
    let row ← carFrom py entry at_ label index
    if row.carNumber ∈ seen then .error (.shape s!"car {row.carNumber} appears twice")
    else
      let rows ← relayRows at_ label (index + 1) (row.carNumber :: seen) rest
      pure (row :: rows)
  | index, _, _ :: _ => .error (.shape s!"cars[{index}] must be an object")

/-- `snapshot_from_json`. -/
def snapshotFromJson (body : Mapping) (at_ : ℚ) (source : String) : Except ShapeFailure Snapshot :=
  match body.get "cars" with
  | .list cars =>
    if maxCars < cars.length then
      .error (.shape s!"snapshot has {cars.length} cars; the cap is {maxCars}")
    else
      let label := (clip py (body.get "source")).getD source
      let finish (session : Mapping) : Except ShapeFailure Snapshot := do
        let rows ← relayRows py at_ label 0 [] cars
        match sessionFrom py session at_ label with
        | .error error => .error (.other error)
        | .ok session => pure ⟨at_, label, session, rows⟩
      match body.get "session" with
      | .null => finish []
      | .object session => finish session
      | _ => .error (.shape "session must be an object")
  | _ => .error (.shape "cars must be a list")

end Snapshots

/-! ### Timing71 -/

structure T71Translator where
  source : String := "t71"
  columns : List (Option String) := []
  trackTempIndex : Option Nat := none
  sessionName : Option String := none
  deriving DecidableEq, Repr

namespace T71Translator

variable (py : Python)

/-- The field that a column of the manifest names. -/
def columnOf (column : Json) : Option String :=
  let heading := match column with
    | .list (first :: _) => first
    | column => column
  match heading with
  | .null => none
  | heading => t71Columns.lookup (py.lower (strip (toStr py heading)))

def namesTrackTemp (heading : Json) : Bool :=
  let text := py.lower (toStr py heading)
  holds "track" text && holds "temp" text

/-- `manifest`. -/
def manifest (translator : T71Translator) (manifest : Mapping) : Except ShapeFailure T71Translator :=
  match manifest.get "colSpec" with
  | .list spec => .ok { translator with
      columns := spec.map (columnOf py)
      trackTempIndex := match manifest.get "trackDataSpec" with
        | .list headings => headings.findIdx? (namesTrackTemp py)
        | _ => none
      sessionName := (clip py (manifest.get "description")).or (clip py (manifest.get "name")) }
  | _ => .error (.shape "manifest.colSpec must be a list")

/-- The values of a row under the names of their columns. -/
def named (columns : List (Option String)) (entry : List Json) : Mapping :=
  ((columns.zip entry).foldl (fun (mapping : Dict String Json) (column, value) =>
    match column with
    | none => mapping
    | some column => mapping.set column value) .empty).entries

/-- The rows of Timing71's cars; one that is there already is passed over. -/
def carRows (columns : List (Option String)) (at_ : ℚ) (source : String) :
    Nat → List String → List Json → Except ShapeFailure (List CarRow)
  | _, _, [] => .ok []
  | index, seen, .list entry :: rest => do
    let row ← carFrom py (named columns entry) at_ source index
    if row.carNumber ∈ seen then carRows columns at_ source (index + 1) seen rest
    else
      let rows ← carRows columns at_ source (index + 1) (row.carNumber :: seen) rest
      pure (row :: rows)
  | index, _, _ :: _ => .error (.shape s!"cars[{index}] must be a row")

/-- `_temperature`. -/
def temperature : Json → Except PyError Json
  | .int value => (floatOfInt value).map .float
  | .float value => .ok (.float value)
  | .str value =>
    let digits := value.toList.filter fun char => py.isDigit char || char = '.' || char = '-'
    .ok (((seconds? py.toRuntime (some (String.ofList digits))).map Json.float).getD .null)
  | _ => .ok .null

/-- `track[index]` of a list or a text that is long enough. -/
def trackAt : Json → Nat → Option Json
  | .list items, index => items[index]?
  | .str text, index => text.toList[index]?.map fun char => .str (String.ofList [char])
  | _, _ => none

/-- What `state` hands to `_session_from`. -/
def sessionMapping (translator : T71Translator) (session : Mapping) : Except PyError Mapping := do
  let mapping : Mapping :=
    [("session_name", (translator.sessionName.map Json.str).getD .null),
      ("flag_state", session.get "flagState"), ("time_remaining_s", session.get "timeRemain"),
      ("time_elapsed_s", session.get "timeElapsed"), ("laps_remaining", session.get "lapsRemain")]
  match translator.trackTempIndex.bind (trackAt (session.get "trackData")) with
  | none => pure mapping
  | some value => do
    let track ← temperature py value
    pure (mapping ++ [("track_temp", track)])

/-- The session of a state. -/
def sessionOf (translator : T71Translator) (session : Json) (at_ : ℚ) :
    Except PyError (Option SessionRow) :=
  match session with
  | .object session => do
    let mapping ← translator.sessionMapping py session
    sessionFrom py mapping at_ translator.source
  | _ => .ok none

/-- `state`. -/
def state (translator : T71Translator) (state : Mapping) (at_ : ℚ) : Except ShapeFailure Snapshot :=
  if translator.columns = [] then .error (.shape "STATE_UPDATE before any MANIFEST_UPDATE")
  else
    match state.get "cars" with
    | .list cars =>
      if maxCars < cars.length then
        .error (.shape s!"state has {cars.length} cars; the cap is {maxCars}")
      else do
        let rows ← carRows py translator.columns at_ translator.source 0 [] cars
        match translator.sessionOf py (state.get "session") at_ with
        | .error error => .error (.other error)
        | .ok session => pure ⟨at_, translator.source, session, rows⟩
    | _ => .error (.shape "state.cars must be a list")

end T71Translator

/-! ### The service -/

/-- What `json.loads` makes of a text: a value, a refusal, or the `RecursionError` of a text that
nests too deeply. -/
inductive Loaded where
  | json (value : Json)
  | refused
  | deep

/-- The service as the ingest endpoints see it: its counters, and what went to the sink. -/
structure Service where
  ingestSnapshots : Nat := 0
  ingestT71Messages : Nat := 0
  ingestRejected : Nat := 0
  sunk : List Snapshot := []

/-- What `do_POST` answers to a body whose headers are in order, an exception being no answer.
`_read_json_body` catches `TypeError` and `ValueError`. -/
def doPost (py : Python) (service : Service) (body : Loaded) (at_ : ℚ) : Service × Except PyError Nat :=
  match body with
  | .json (.object fields) =>
    match snapshotFromJson py fields at_ "relay" with
    | .ok snapshot =>
      ({ service with
        ingestSnapshots := service.ingestSnapshots + 1
        sunk := service.sunk ++ [snapshot] }, .ok 200)
    | .error (.shape _) => ({ service with ingestRejected := service.ingestRejected + 1 }, .ok 400)
    | .error (.other error) => (service, .error error)
  | .json _ => (service, .ok 400)
  | .refused => (service, .ok 400)
  | .deep => (service, .error (.recursionError "maximum recursion depth exceeded"))

/-- A connection of Timing71. -/
structure Connection where
  translator : T71Translator := {}
  service : Service := {}

namespace Connection

variable (py : Python)

/-- The `try` of `_t71_message` on a text that is JSON. -/
def attempt (connection : Connection) (message : Json) (at_ : ℚ) : Except ShapeFailure Connection :=
  let service := connection.service
  match message with
  | .object fields =>
    match Mapping.get fields "type" with
    | .str "MANIFEST_UPDATE" =>
      match Mapping.get fields "manifest" with
      | .object manifest => (connection.translator.manifest py manifest).map fun translator =>
        { translator := translator,
          service := { service with ingestT71Messages := service.ingestT71Messages + 1 } }
      | _ => .error (.shape "manifest must be an object")
    | .str "STATE_UPDATE" =>
      match Mapping.get fields "state" with
      | .object state => (connection.translator.state py state at_).map fun snapshot =>
        { connection with service := { service with
            ingestT71Messages := service.ingestT71Messages + 1,
            sunk := service.sunk ++ [snapshot] } }
      | _ => .error (.shape "state must be an object")
    | _ => .ok connection
  | _ => .error (.shape "message is not an object")

/-- `except (ValueError, TypeError)`. -/
def caught : ShapeFailure → Bool
  | .shape _ => true
  | .other (.configError _) => true
  | .other (.valueError _) => true
  | .other (.typeError _) => true
  | _ => false

def rejected (connection : Connection) : Connection :=
  { connection with service := { connection.service with
      ingestRejected := connection.service.ingestRejected + 1 } }

/-- `_t71_message`: `none` where an exception ends the connection. -/
def message (connection : Connection) (message : Loaded × ℚ) : Option Connection :=
  match message.1 with
  | .json value =>
    match connection.attempt py value message.2 with
    | .ok next => some next
    | .error failure => if caught failure then some connection.rejected else none
  | .refused => some connection.rejected
  | .deep => none

end Connection

end OpenLaps.Field.Shapes

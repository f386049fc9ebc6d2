import OpenLaps.Core.Numbers
import Mathlib.Data.List.Sort

/- `lap.event` payloads folded into lap and sector rows
(`pit/ingest_writer/laps.py`). Instants are microseconds since the epoch, the
resolution of `datetime`. Counters that only the log reads are left out. -/
namespace OpenLaps.Ingest

/-- What `json.loads` returns; the fields of an object have distinct names. -/
inductive Json where
  | null
  | bool (value : Bool)
  | int (value : Int)
  | float (value : PyFloat)
  | str (value : String)
  | list (items : List Json)
  | object (fields : List (String × Json))

/-- The conversions of the Python runtime that read or print text. `json.loads` gives up on a
text that nests too deeply, and refuses one that is no JSON. -/
structure PyText where
  deep : String → Bool
  loads : String → Option Json
  float : String → Option PyFloat
  int : String → Option Int
  str : Json → String

/-- `int(value)` of a float rounds towards zero. -/
def intOfFloat : PyFloat → Except PyError Int
  | .finite value => .ok (value.num.tdiv value.den)
  | .posInf => .error (.overflowError "cannot convert float infinity to integer")
  | .negInf => .error (.overflowError "cannot convert float infinity to integer")
  | .nan => .error (.valueError "cannot convert float NaN to integer")

/-- `datetime.fromtimestamp(seconds, tz=UTC)`: rounded to microseconds, within
the years 1 to 9999. -/
def fromTimestamp : PyFloat → Except PyError Int
  | .finite seconds =>
    let micros := Rounding.halfEven (seconds * 1000000)
    if -62135596800000000 ≤ micros ∧ micros < 253402300800000000 then .ok micros
    else .error (.valueError "year is out of range")
  | .posInf => .error (.overflowError "cannot convert float infinity to integer")
  | .negInf => .error (.overflowError "cannot convert float infinity to integer")
  | .nan => .error (.valueError "Invalid value NaN (not a number)")

/-- The microseconds that `datetime` keeps of a time. -/
def micros (time : ℚ) : Int := Rounding.halfEven (time * 1000000)

/-- The times that `datetime` can hold. -/
def InCalendar (time : ℚ) : Prop :=
  -62135596800000000 ≤ micros time ∧ micros time < 253402300800000000

instance (time : ℚ) : Decidable (InCalendar time) := inferInstanceAs (Decidable (_ ∧ _))

theorem fromTimestamp_finite (time : ℚ) :
    fromTimestamp (.finite time) =
      if InCalendar time then .ok (micros time) else .error (.valueError "year is out of range") :=
  rfl

namespace PyText

/-- `float(value)`. -/
def toFloat (text : PyText) : Json → Except PyError PyFloat
  | .bool value => .ok (.finite (if value then 1 else 0))
  | .int value => floatOfInt value
  | .float value => .ok value
  | .str value =>
    match text.float value with
    | some number => .ok number
    | none => .error (.valueError "could not convert string to float")
  | _ => .error (.typeError "float() argument must be a string or a real number")

/-- `int(value)`. -/
def toInt (text : PyText) : Json → Except PyError Int
  | .bool value => .ok (if value then 1 else 0)
  | .int value => .ok value
  | .float value => intOfFloat value
  | .str value =>
    match text.int value with
    | some number => .ok number
    | none => .error (.valueError "invalid literal for int() with base 10")
  | _ => .error (.typeError "int() argument must be a string or a real number")

/-- `str(value)`. -/
def toStr (text : PyText) : Json → String
  | .str value => value
  | value => text.str value

end PyText

/-- `bool(value)`. -/
def truthy : Json → Bool
  | .null => false
  | .bool value => value
  | .int value => value ≠ 0
  | .float value => value ≠ .finite 0
  | .str value => value ≠ ""
  | .list items => !items.isEmpty
  | .object fields => !fields.isEmpty

def asInt : Option Json → Except PyError (Option Int)
  | some (.int value) => .ok (some value)
  | some (.float value) => (intOfFloat value).map some
  | _ => .ok none

def asFloat : Option Json → Except PyError (Option PyFloat)
  | some (.int value) => (floatOfInt value).map some
  | some (.float value) => .ok (some value)
  | _ => .ok none

def asStr : Option Json → Option String
  | some (.str value) => if value = "" then none else some value
  | _ => none

/-- One completed sector split, pending its lap row. -/
structure SectorRow where
  sector : Int
  splitTimeS : Option PyFloat
  crossedAt : Int
  deriving DecidableEq, Repr

/-- One completed lap plus whichever sectors were buffered for it. -/
structure LapRow where
  vehicleId : String
  sessionId : Option String
  stintNumber : Option Int
  trackName : Option String
  lapNumber : Int
  crossedAt : Int
  lapTimeS : Option PyFloat
  valid : Bool
  pitStatus : Option String
  direction : Option String
  sectors : List SectorRow
  deriving DecidableEq, Repr

/-- A pit entry or exit, applied to the most recent lap at that instant. -/
structure PitStatusUpdate where
  vehicleId : String
  time : Int
  pitStatus : String
  deriving DecidableEq, Repr

inductive Materialised where
  | lap (row : LapRow)
  | pit (update : PitStatusUpdate)
  deriving DecidableEq, Repr

structure LapMaterialiser where
  vehicleId : String
  sectors : Dict (Int × Int) SectorRow
  highestLapNumber : Option Int
  malformedEvents : Nat

/-- The fields every event must have to be usable, plus the object. -/
structure LapEvent where
  decoded : List (String × Json)
  eventType : String
  time : Int
  lapNumber : Int

/-- `decoded[name]`. -/
def field (decoded : List (String × Json)) (name : String) : Except PyError Json :=
  match decoded.lookup name with
  | some value => .ok value
  | none => .error (.keyError name)

/-- The body of the `try` of `_parse`. -/
def readEvent (text : PyText) (payload : String) : Except PyError LapEvent := do
  match text.loads payload with
  | none => .error (.valueError "JSONDecodeError")
  | some (.object decoded) => do
    let eventType := text.toStr (← field decoded "type")
    let time ← fromTimestamp (← text.toFloat (← field decoded "time"))
    let lapNumber ← text.toInt (← field decoded "lap_number")
    return ⟨decoded, eventType, time, lapNumber⟩
  | some _ => .error (.typeError "lap.event payload must be a JSON object")

/-- `_parse` of a text that does not nest too deeply: it catches all that the body raises. -/
def parse (text : PyText) (payload : String) : Option LapEvent :=
  (readEvent text payload).toOption

/-- The order of tuples of two integers. -/
def keyLe (first second : Int × Int) : Bool :=
  first.1 < second.1 || (first.1 == second.1 && first.2 ≤ second.2)

namespace LapMaterialiser

def new (vehicleId : String) : LapMaterialiser := ⟨vehicleId, .empty, none, 0⟩

def maxBufferedSectors : Nat := 64

/-- A lap number that goes backwards discards the sectors of the previous run. -/
def adopt (laps : LapMaterialiser) (lapNumber : Int) : LapMaterialiser :=
  match laps.highestLapNumber with
  | none => { laps with highestLapNumber := some (max lapNumber 0) }
  | some highest =>
    if lapNumber < highest then
      { laps with sectors := .empty, highestLapNumber := some lapNumber }
    else
      { laps with highestLapNumber := some (max lapNumber highest) }

/-- `del self._sectors[min(self._sectors)]`. -/
def dropOldest (sectors : Dict (Int × Int) SectorRow) : Dict (Int × Int) SectorRow :=
  match (sectors.keys.insertionSort fun first second => keyLe first second).head? with
  | none => sectors
  | some oldest => sectors.filter fun key => key ≠ oldest

def bufferSector (laps : LapMaterialiser) (event : LapEvent) : Except PyError LapMaterialiser := do
  match ← asInt (event.decoded.lookup "sector") with
  | none => return { laps with malformedEvents := laps.malformedEvents + 1 }
  | some sector => do
    let kept :=
      if laps.sectors.entries.length ≥ maxBufferedSectors then dropOldest laps.sectors
      else laps.sectors
    let splitTimeS ← asFloat (event.decoded.lookup "split_time")
    return { laps with
      sectors := kept.set (event.lapNumber, sector) ⟨sector, splitTimeS, event.time⟩ }

def completeLap (laps : LapMaterialiser) (event : LapEvent) :
    Except PyError (LapMaterialiser × LapRow) := do
  let sectors := (((laps.sectors.entries.insertionSort fun first second =>
    keyLe first.1 second.1).filter fun entry => entry.1.1 = event.lapNumber).map Prod.snd)
  let stintNumber ← asInt (event.decoded.lookup "stint_number")
  let lapTimeS ← asFloat (event.decoded.lookup "lap_time")
  return ({ laps with sectors := laps.sectors.filter fun key => key.1 ≠ event.lapNumber },
    { vehicleId := laps.vehicleId
      sessionId := asStr (event.decoded.lookup "session_id")
      stintNumber := stintNumber
      trackName := asStr (event.decoded.lookup "track_name")
      lapNumber := event.lapNumber
      crossedAt := event.time
      lapTimeS := lapTimeS
      valid := ((event.decoded.lookup "valid").map truthy).getD true
      pitStatus := asStr (event.decoded.lookup "pit_status")
      direction := asStr (event.decoded.lookup "direction")
      sectors := sectors })

/-- A status that is absent or null is replaced by the type of the event. -/
def pitUpdate (text : PyText) (laps : LapMaterialiser) (event : LapEvent) : PitStatusUpdate :=
  let pitStatus := match event.decoded.lookup "pit_status" with
    | none => event.eventType
    | some .null => event.eventType
    | some status => text.toStr status
  ⟨laps.vehicleId, event.time, pitStatus⟩

/-- `_parse` does not catch what `json.loads` raises on a text that nests too deeply. -/
def observe (text : PyText) (laps : LapMaterialiser) (payload : String) :
    Except PyError (LapMaterialiser × Option Materialised) := do
  if text.deep payload then
    .error (.recursionError "maximum recursion depth exceeded")
  else match parse text payload with
  | none => return ({ laps with malformedEvents := laps.malformedEvents + 1 }, none)
  | some event => do
    let laps := laps.adopt event.lapNumber
    if event.eventType = "sector_completed" then
      return (← laps.bufferSector event, none)
    else if event.eventType = "lap_completed" then do
      let (laps, row) ← laps.completeLap event
      return (laps, some (.lap row))
    else if event.eventType = "pit_entry" ∨ event.eventType = "pit_exit" then
      return (laps, some (.pit (laps.pitUpdate text event)))
    else
      return (laps, none)

end LapMaterialiser

end OpenLaps.Ingest

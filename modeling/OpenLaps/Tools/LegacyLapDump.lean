import Mathlib.Data.List.Sort
import Mathlib.Data.Prod.Lex
import Mathlib.Data.String.Basic
import OpenLaps.Pit.Ingest.LapTables
import OpenLaps.Tools.LegacyImport

/- `_import_lap_dump` of `tools/import_legacy.py`: the crossing points of a dump in the order
of the disk-backed sort, the fold that makes laps and splits of them, and the batches. -/
namespace OpenLaps.LegacyImport
open Ingest LineProtocol

/-! ### Reading -/

/-- The points of the lines from a position on, and where the last line ends. -/
def linePoints (job : Job) (resume : Bool) (cursor : Nat) :
    Nat → Nat → List Bytes → List LinePoint × Nat
  | _, lastOffset, [] => ([], lastOffset)
  | position, _, line :: rest =>
    let offset := position + line.length
    let later := linePoints job resume cursor offset offset rest
    if !resume && offset ≤ cursor then later
    else match parseLine job line with
      | none => later
      | some point => if inBounds job point then (point :: later.1, later.2) else later

/-- What a run reads of the file. -/
def dumpPoints (job : Job) (resume : Bool) (cursor : Nat) : List LinePoint × Nat :=
  let position := if resume then cursor else 0
  linePoints job resume cursor position cursor (readLines (job.content.drop position))

/-! ### The sort -/

/-- One hexadecimal digit of `json.dumps`. -/
def hexDigit (number : Nat) : Char := (Nat.toDigits 16 (number % 16)).headD '0'

def unicodeEscape (unit : Nat) : Text :=
  ['\\', 'u', hexDigit (unit / 4096), hexDigit (unit / 256), hexDigit (unit / 16), hexDigit unit]

/-- One character of a JSON text in ASCII. -/
def jsonChar (char : Char) : Text :=
  if char = '"' then ['\\', '"']
  else if char = '\\' then ['\\', '\\']
  else if char = '\n' then ['\\', 'n']
  else if char = '\r' then ['\\', 'r']
  else if char = '\t' then ['\\', 't']
  else if char.toNat = 12 then ['\\', 'f']
  else if char.toNat = 8 then ['\\', 'b']
  else if 32 ≤ char.toNat && char.toNat ≤ 126 then [char]
  else if char.toNat < 65536 then unicodeEscape char.toNat
  else unicodeEscape (55296 + (char.toNat - 65536) / 1024) ++
    unicodeEscape (56320 + (char.toNat - 65536) % 1024)

def jsonText (text : Text) : Text := '"' :: text.flatMap jsonChar ++ ['"']

/-- `json.dumps(tags, sort_keys=True, separators=(",", ":"))`. -/
def tagsJson (tags : Dict Text Text) : Text :=
  let items := tags.entries.insertionSort fun first second => first.1 ≤ second.1
  '{' :: [','].intercalate (items.map fun item => jsonText item.1 ++ ':' :: jsonText item.2) ++ ['}']

/-- A row of `point_fields`; the tags stand for their JSON. -/
structure PointField where
  timestampNs : Int
  tags : Dict Text Text
  name : Text
  value : SampleValue

namespace PointField

/-- What the rows are ordered and merged by. -/
def key (row : PointField) : Int ×ₗ Text := toLex (row.timestampNs, tagsJson row.tags)

/-- The point that a row begins. -/
def point (row : PointField) : LinePoint :=
  ⟨"lap".toList, row.tags, Dict.empty.set row.name row.value, row.timestampNs⟩

end PointField

def fieldRows (point : LinePoint) : List PointField :=
  point.fields.entries.map fun (name, value) => ⟨point.timestampNs, point.tags, name, value⟩

/-- The loop of `_ordered_lap_points` on the sorted rows, with the point it is at. -/
def mergeRows : Option LinePoint → List PointField → List LinePoint
  | none, [] => []
  | some point, [] => [point]
  | none, row :: rest => mergeRows (some row.point) rest
  | some point, row :: rest =>
    if row.key = toLex (point.timestampNs, tagsJson point.tags) then
      mergeRows (some { point with fields := point.fields.set row.name row.value }) rest
    else point :: mergeRows (some row.point) rest

/-- `_ordered_lap_points`. -/
def orderedLapPoints (points : List LinePoint) : List LinePoint :=
  mergeRows none ((points.flatMap fieldRows).insertionSort fun first second => first.key ≤ second.key)

/-! ### The fold -/

/-- `_lap_context`. -/
def lapContext (job : Job) (point : LinePoint) : Option (Option String × Int) :=
  ((point.tags.get? "lap_number".toList).bind job.literals.int).map fun lapNumber =>
    (tagText point "track_name", lapNumber)

/-- `_legacy_sector`. -/
def legacySector (job : Job) (trackName : Option String) (sector : Int) (splitMs : PyFloat)
    (crossing : LinePoint) : Except PyError LegacySectorRow := do
  return ⟨job.vehicleId, trackName, sector, inSeconds splitMs, ← timestamp crossing.timestampNs⟩

inductive LegacyRow where
  | lap (row : LapRow)
  | sector (row : LegacySectorRow)
  | pit (update : PitStatusUpdate)
  deriving DecidableEq, Repr

/-- The crossings that the fold remembers, with their elapsed times. -/
structure Crossings where
  sectorOne : Option (LinePoint × PyFloat) := none
  sectorTwo : Option (LinePoint × PyFloat) := none

/-- The sectors of a lap that is finished. -/
def finishedSectors (job : Job) (held : Crossings) (point : LinePoint) (totalMs : PyFloat) :
    Except PyError (List LegacySectorRow) :=
  let trackName := tagText point "track_name"
  let expected := (lapContext job point).map fun context => (context.1, context.2 - 1)
  match held.sectorOne, held.sectorTwo with
  | some (one, first), some (two, second) =>
    if lapContext job one = expected ∧ lapContext job two = expected then do
      let sectorOne ← legacySector job trackName 1 first one
      let sectorTwo ← legacySector job trackName 2 (second.sub first).rounded two
      if second.lt totalMs then
        let sectorThree ← legacySector job trackName 3 (totalMs.sub second).rounded point
        return [sectorOne, sectorTwo, sectorThree]
      else return [sectorOne, sectorTwo]
    else return []
  | _, _ => return []

def crossedLine (point : LinePoint) : Option String :=
  (point.tags.get? "crossed_line".toList).map String.ofList

/-- One turn of the loop of `_iter_legacy_lap_rows`. -/
def readPoint (job : Job) (held : Crossings) (point : LinePoint) :
    Except PyError (Crossings × List LegacyRow) :=
  match crossedLine point, point.fields.get? "lap_time".toList with
  | some "Sector1", some value => do
    let elapsed ← numeric value
    if PyFloat.lt (.finite 0) elapsed ∧ (lapContext job point).isSome then
      return ({ sectorOne := some (point, elapsed) }, [])
    else return ({}, [])
  | some "Sector2", some value => do
    let elapsed ← numeric value
    match held.sectorOne with
    | some (one, first) =>
      if lapContext job point = lapContext job one ∧ first.lt elapsed then
        return ({ held with sectorTwo := some (point, elapsed) }, [])
      else return ({}, [])
    | none => return ({}, [])
  | line, _ =>
    if line = some "PitEntry" || line = some "PitExit" then do
      let converted ← convertLapPoint job point
      return (held, converted.pitUpdates.map .pit)
    else match line, point.fields.get? "last_lap_time".toList with
      | some "StartFinish", some value => do
        let totalMs ← numeric value
        let converted ← convertLapPoint job point
        match converted.laps with
        | [] => return ({}, [])
        | laps =>
          let sectors ← finishedSectors job held point totalMs
          return ({}, laps.map .lap ++ sectors.map .sector)
      | _, _ => return (held, [])

/-- `_iter_legacy_lap_rows`: its rows, and whether it comes to the end of the points. -/
def iterLegacyLapRows (job : Job) : Crossings → List LinePoint → List LegacyRow × Bool
  | _, [] => ([], true)
  | held, point :: rest =>
    match readPoint job held point with
    | .error _ => ([], false)
    | .ok (next, rows) =>
      let later := iterLegacyLapRows job next rest
      (rows ++ later.1, later.2)

/-! ### The batches -/

namespace Flush

def empty (streamSeq : Nat) : Flush := ⟨[], [], [], [], streamSeq⟩

def add (flush : Flush) : LegacyRow → Flush
  | .lap row => { flush with laps := flush.laps ++ [row] }
  | .sector row => { flush with sectors := flush.sectors ++ [row] }
  | .pit update => { flush with pitUpdates := flush.pitUpdates ++ [update] }

def size (flush : Flush) : Nat := flush.laps.length + flush.sectors.length + flush.pitUpdates.length

end Flush

/-- The flushes of the rows; the last one, with the cursor, only where all were read. -/
def batches (batchRows lastOffset : Nat) (finished : Bool) : Flush → List LegacyRow → List Flush
  | pending, [] => if finished then [{ pending with streamSeq := lastOffset }] else []
  | pending, row :: rest =>
    let pending := pending.add row
    if batchRows ≤ pending.size then
      pending :: batches batchRows lastOffset finished (.empty 0) rest
    else batches batchRows lastOffset finished pending rest

/-- An `INTEGER` of SQLite. -/
def FitsInteger (number : Int) : Prop := -9223372036854775808 ≤ number ∧ number < 9223372036854775808

instance (number : Int) : Decidable (FitsInteger number) := inferInstanceAs (Decidable (_ ∧ _))

/-- `_import_lap_dump` once the points are read; the insert refuses a larger timestamp. -/
def importLapPoints (job : Job) (batchRows lastOffset : Nat) (points : List LinePoint) : List Flush :=
  if (points.flatMap fieldRows).all fun row => FitsInteger row.timestampNs then
    let rows := iterLegacyLapRows job {} (orderedLapPoints points)
    batches batchRows lastOffset rows.2 (.empty 0) rows.1
  else []

/-- `_import_lap_dump`. -/
def importLapDump (job : Job) (resume : Bool) (batchRows cursor : Nat) : List Flush :=
  let read := dumpPoints job resume cursor
  importLapPoints job batchRows read.2 read.1

end OpenLaps.LegacyImport

namespace OpenLaps.Ingest

open LegacyImport

namespace Tables

/-- The crossing time of a vehicle's first lap on a track from a time on. -/
def firstFrom (laps : LapTable) (vehicleId : String) (trackName : Option String) (time : Int) :
    Option Int :=
  ((laps.entries.filter fun (key, lap) =>
    key.1 = vehicleId ∧ lap.trackName = trackName ∧ time ≤ key.2).map fun entry => entry.1.2).min?

/-- The lap that a legacy sector belongs to. -/
def sectorLap (laps : LapTable) (row : LegacySectorRow) : Option Nat :=
  (firstFrom laps row.vehicleId row.trackName row.crossedAt).bind fun crossedAt =>
    (laps.get? (row.vehicleId, crossedAt)).map LapRecord.lapId

/-- `_UPSERT_LEGACY_SECTOR`. -/
def upsertLegacySector (tables : Tables) (row : LegacySectorRow) : Tables :=
  match sectorLap tables.laps row with
  | none => tables
  | some lapId => { tables with
      lapSectors := tables.lapSectors.set (lapId, row.sector) (some row.splitTimeS, row.crossedAt) }

end Tables

namespace TimescaleStore

/-- `TimescaleStore.flush` with legacy sectors, which go between laps and pit updates. -/
def flushLegacy (sessions : SessionTables) (store : TimescaleStore) (flush : LegacyImport.Flush) :
    TimescaleStore :=
  let store := flush.laps.foldl (writeLap sessions) store
  let store := { store with tables := flush.sectors.foldl Tables.upsertLegacySector store.tables }
  let store := flush.pitUpdates.foldl updatePitStatus store
  { store with tables := store.tables.stamp flush.rows flush.streamSeq }

end TimescaleStore

end OpenLaps.Ingest

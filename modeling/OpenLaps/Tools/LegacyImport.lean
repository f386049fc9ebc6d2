import OpenLaps.Core.Strings
import OpenLaps.Core.Numbers
import OpenLaps.Pit.Ingest.Store
import OpenLaps.Tools.LineProtocol

/- `_import_path` of `tools/import_legacy.py` on a sample dump: the lines of the file, what
each of them becomes, and the flushes that carry it into the database. -/
namespace OpenLaps.LegacyImport
open Ingest LineProtocol

/-- Canonical metadata and optional linear transform for one old name. -/
structure LegacyChannel where
  name : String
  units : String
  valueType : String
  factor : PyFloat := .finite 1
  offset : PyFloat := .finite 0

structure LegacyChannelMap where
  can : Dict Text LegacyChannel
  gps : Dict Text LegacyChannel
  system : Dict Text LegacyChannel

structure LegacySample where
  timestampNs : Int
  channel : LegacyChannel
  value : SampleValue

structure ConvertedPoint where
  samples : List LegacySample := []
  unmapped : List Text := []

structure LegacySectorRow where
  vehicleId : String
  trackName : Option String
  sector : Int
  splitTimeS : PyFloat
  crossedAt : Int
  deriving DecidableEq, Repr

structure ConvertedLapPoint where
  laps : List LapRow := []
  sectors : List LegacySectorRow := []
  pitUpdates : List PitStatusUpdate := []

/-- One import: file, vehicle, bounds and mapping, with the runtime and the keys that the
`channels` table has for names. -/
structure Job where
  content : Bytes
  vehicleId : String
  sinceNs : Option Int
  untilNs : Option Int
  mapping : LegacyChannelMap
  literals : Literals
  upper : Text → Text
  channelKey : String → Nat

/-- `float(value)` of an `int` or a `float`, and not of a `bool`. -/
def numeric : SampleValue → Except PyError PyFloat
  | .float value => .ok value
  | .int value => floatOfInt value
  | _ => .error (.valueError "expected numeric legacy value")

/-- The whole seconds that `modf` takes off a time. -/
def wholeSeconds (seconds : ℚ) : Int := if 0 ≤ seconds then ⌊seconds⌋ else ⌈seconds⌉

/-- The microseconds that `datetime.fromtimestamp` rounds a time to: those of the whole seconds,
and the fraction as it is rounded. -/
def microsOf (seconds : ℚ) : Int :=
  wholeSeconds seconds * 1000000 +
    Rounding.halfEven (Binary64.round ((seconds - wholeSeconds seconds) * 1000000))

/-- `datetime.fromtimestamp(timestamp_ns / 1_000_000_000, tz=UTC)`. -/
def timestamp (timestampNs : Int) : Except PyError Int :=
  let seconds := Binary64.round ((timestampNs : ℚ) / 1000000000)
  if PyFloat.limit ≤ |(timestampNs : ℚ) / 1000000000| then
    .error (.overflowError "integer division result too large for a float")
  else if ¬(-2 ^ 63 ≤ seconds ∧ seconds < 2 ^ 63) then
    .error (.overflowError "timestamp out of range for platform time_t")
  else if -62135596800000000 ≤ microsOf seconds ∧ microsOf seconds < 253402300800000000 then
    .ok (microsOf seconds)
  else .error (.valueError "year is out of range")

/-- `number * factor + offset`. -/
def transformed (channel : LegacyChannel) (number : PyFloat) : PyFloat :=
  ((number.mul channel.factor).rounded.add channel.offset).rounded

/-- `milliseconds / 1000.0`. -/
def inSeconds (milliseconds : PyFloat) : PyFloat := (milliseconds.div 1000).rounded

/-- `_sample`: a number goes through the channel's transform. -/
def sample (point : LinePoint) (channel : LegacyChannel) (value : SampleValue) :
    Except PyError LegacySample :=
  match value with
  | .float number =>
    .ok ⟨point.timestampNs, channel, .float (transformed channel number)⟩
  | .int number => do
    let number ← floatOfInt number
    return ⟨point.timestampNs, channel, .float (transformed channel number)⟩
  | value => .ok ⟨point.timestampNs, channel, value⟩

/-- `_sample_row`. -/
def sampleRow (sample : LegacySample) (channelKey : Nat) : Except PyError SampleRow := do
  match sample.value with
  | .str text => return ⟨← timestamp sample.timestampNs, channelKey, none, some text⟩
  | .bool flag =>
    return ⟨← timestamp sample.timestampNs, channelKey, some (.finite (if flag then 1 else 0)), none⟩
  | .int number =>
    return ⟨← timestamp sample.timestampNs, channelKey, some (← floatOfInt number), none⟩
  | .float number => return ⟨← timestamp sample.timestampNs, channelKey, some number, none⟩

/-- `_convert_fields`. -/
def convertFields (point : LinePoint) (channels : Dict Text LegacyChannel) (label : Text) :
    Except PyError ConvertedPoint :=
  point.fields.entries.foldlM (fun converted (field, value) =>
    match channels.get? field with
    | none => return { converted with unmapped := converted.unmapped ++ [label ++ ':' :: field] }
    | some channel => return { converted with
        samples := converted.samples ++ [← sample point channel value] }) {}

/-- The one sample of a point that names its channel in a tag. -/
def convertValue (point : LinePoint) (channel : Option LegacyChannel) (unmapped : Text) :
    Except PyError ConvertedPoint :=
  match channel, point.fields.get? "value".toList with
  | none, _ => return { unmapped := [unmapped] }
  | some _, none => return {}
  | some channel, some value => return { samples := [← sample point channel value] }

/-- `text or fallback`. -/
def orElse (text fallback : Text) : Text := if text = [] then fallback else text

def convertPoint (job : Job) (point : LinePoint) : Except PyError ConvertedPoint :=
  if point.measurement = "can".toList then
    let signal := job.upper ((point.tags.get? "signal".toList).getD [])
    convertValue point (job.mapping.can.get? signal)
      ("can:".toList ++ orElse signal "<missing signal>".toList)
  else if point.measurement = "gps".toList then convertFields point job.mapping.gps "gps".toList
  else if point.measurement = "system".toList then
    let topic := (point.tags.get? "topic".toList).getD []
    convertValue point (job.mapping.system.get? topic)
      ("system:".toList ++ orElse topic "<missing topic>".toList)
  else if point.measurement = "lap".toList then return {}
  else return { unmapped := ["measurement:".toList ++ point.measurement] }

/-- A tag's text, `none` where it is missing or empty. -/
def tagText (point : LinePoint) (name : String) : Option String :=
  match point.tags.get? name.toList with
  | some [] => none
  | some text => some (String.ofList text)
  | none => none

/-- The number of the sector that ends at a line. -/
def sectorByLine : Option String → Option Int
  | some "Sector1" => some 1
  | some "Sector2" => some 2
  | some "StartFinish" => some 3
  | _ => none

def convertLapPoint (job : Job) (point : LinePoint) : Except PyError ConvertedLapPoint := do
  let line := (point.tags.get? "crossed_line".toList).map String.ofList
  let time ← timestamp point.timestampNs
  let trackName := tagText point "track_name"
  if line = some "PitEntry" || line = some "PitExit" then
    let fallback := if line = some "PitEntry" then "pit_entry" else "pit_exit"
    return { pitUpdates := [⟨job.vehicleId, time, (tagText point "pit_status").getD fallback⟩] }
  match line, point.fields.get? "last_lap_time".toList with
  | some "StartFinish", some value =>
    let lapTimeMs ← numeric value
    if lapTimeMs.le (.finite 0) then return {}
    match (point.tags.get? "lap_number".toList).bind job.literals.int with
    | none => return {}
    | some lapNumber => return { laps := [{
        vehicleId := job.vehicleId
        sessionId := none
        stintNumber := none
        trackName := trackName
        lapNumber := lapNumber
        crossedAt := time
        lapTimeS := some (inSeconds lapTimeMs)
        valid := true
        pitStatus := tagText point "pit_status"
        direction := tagText point "crossing_direction"
        sectors := [] }] }
  | _, _ =>
    match sectorByLine line, point.fields.get? "sector_time".toList with
    | some sector, some value =>
      let splitMs ← numeric value
      if splitMs.le (.finite 0) then return {}
      else return { sectors := [⟨job.vehicleId, trackName, sector, inSeconds splitMs, time⟩] }
    | _, _ => return {}

/-- `handle.readline()` until the end of the file: every line with its newline. -/
def readLines : Bytes → List Bytes
  | [] => []
  | byte :: rest =>
    if byte = 10 then [byte] :: readLines rest
    else match readLines rest with
      | [] => [[byte]]
      | line :: lines => (byte :: line) :: lines

def parseLine (job : Job) (line : Bytes) : Option LinePoint := do
  let text ← decodeUtf8 line
  parseLineProtocol job.literals text.toList

def inBounds (job : Job) (point : LinePoint) : Bool :=
  job.sinceNs.all (· ≤ point.timestampNs) && job.untilNs.all (point.timestampNs ≤ ·)

/-- The rows of one point's samples. -/
def pointRows (job : Job) (point : LinePoint) : Except PyError (List SampleRow) := do
  let converted ← convertPoint job point
  converted.samples.mapM fun sample => sampleRow sample (job.channelKey sample.channel.name)

/-- The arguments of one `store.flush` of the import. -/
structure Flush where
  rows : List SampleRow
  laps : List LapRow
  sectors : List LegacySectorRow
  pitUpdates : List PitStatusUpdate
  streamSeq : Nat
  deriving DecidableEq, Repr

/-- What a run holds between two lines. -/
structure Progress where
  rows : List SampleRow := []
  laps : List LapRow := []
  sectors : List LegacySectorRow := []
  pitUpdates : List PitStatusUpdate := []
  linesSinceFlush : Nat := 0
  lastOffset : Nat

namespace Progress

def add (job : Job) (progress : Progress) (point : LinePoint) : Except PyError Progress :=
  if !inBounds job point then .ok progress
  else if point.measurement = "lap".toList then do
    let converted ← convertLapPoint job point
    return { progress with
      laps := progress.laps ++ converted.laps
      sectors := progress.sectors ++ converted.sectors
      pitUpdates := progress.pitUpdates ++ converted.pitUpdates }
  else return { progress with rows := progress.rows ++ (← pointRows job point) }

/-- One turn of the loop up to its flush check, which a skipped or malformed line misses. -/
def readLine (job : Job) (resume : Bool) (cursor : Nat) (progress : Progress) (offset : Nat)
    (line : Bytes) : Except PyError (Progress × Bool) :=
  let progress := { progress with
    linesSinceFlush := progress.linesSinceFlush + 1
    lastOffset := offset }
  if !resume && offset ≤ cursor then .ok (progress, false)
  else match parseLine job line with
    | none => .ok (progress, false)
    | some point => return (← progress.add job point, true)

def work (progress : Progress) : Nat :=
  progress.rows.length + progress.laps.length + progress.sectors.length +
    progress.pitUpdates.length

def checkpointLineInterval : Nat := 100000

def due (progress : Progress) (batchRows : Nat) : Bool :=
  batchRows ≤ progress.work || checkpointLineInterval ≤ progress.linesSinceFlush

def flush (progress : Progress) : Flush :=
  ⟨progress.rows, progress.laps, progress.sectors, progress.pitUpdates, progress.lastOffset⟩

end Progress

/-- The rest of a run: its flushes in order, and whether it reaches the end. -/
def importLines (job : Job) (resume : Bool) (batchRows cursor : Nat) :
    Nat → Progress → List Bytes → List Flush × Bool
  | _, progress, [] => ([progress.flush], true)
  | position, progress, line :: rest =>
    let offset := position + line.length
    match progress.readLine job resume cursor offset line with
    | .error _ => ([], false)
    | .ok (progress, checked) =>
      if checked && progress.due batchRows then
        let later := importLines job resume batchRows cursor offset { lastOffset := offset } rest
        (progress.flush :: later.1, later.2)
      else importLines job resume batchRows cursor offset progress rest

/-- `_is_lap_dump`. -/
def isLapDump (content : Bytes) : Bool := content.take 4 = encodeUtf8 "lap,"

/-- `_import_path`; a lap dump goes to `_import_lap_dump` and is no sample import. -/
def importPath (job : Job) (resume : Bool) (batchRows cursor : Nat) : List Flush × Bool :=
  if isLapDump job.content then ([], false)
  else
    let position := if resume then cursor else 0
    importLines job resume batchRows cursor position { lastOffset := cursor }
      (readLines (job.content.drop position))

/-- The `samples` table and the import's row of `ingest_cursor`. -/
structure Database where
  samples : List SampleRow
  cursor : Nat
  deriving DecidableEq, Repr

def Database.commit (db : Database) (flush : Flush) : Database :=
  ⟨db.samples ++ flush.rows, upsertCursor db.cursor flush.streamSeq⟩

/-- A run that is killed once `committed` of its flushes have been committed, or later. -/
structure Attempt where
  resume : Bool
  batchRows : Nat
  committed : Nat
  deriving DecidableEq, Repr

def Database.attempt (job : Job) (db : Database) (attempt : Attempt) : Database :=
  ((importPath job attempt.resume attempt.batchRows db.cursor).1.take attempt.committed).foldl
    Database.commit db

/-- A run that completes. -/
def Database.complete (job : Job) (resume : Bool) (batchRows : Nat) (db : Database) :
    Option Database :=
  let run := importPath job resume batchRows db.cursor
  if run.2 then some (run.1.foldl Database.commit db) else none

/-- The rows of the mapped samples of a line, if it is well formed and in bounds. -/
def lineRows (job : Job) (line : Bytes) : List SampleRow :=
  match parseLine job line with
  | none => []
  | some point =>
    if inBounds job point && point.measurement ≠ "lap".toList then
      match pointRows job point with
      | .ok rows => rows
      | .error _ => []
    else []

def fileRows (job : Job) : List SampleRow := (readLines job.content).flatMap (lineRows job)

end OpenLaps.LegacyImport

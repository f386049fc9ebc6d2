import OpenLaps.Pit.Ingest.Store
import OpenLaps.Pit.RegistryCache

/- The ingest writer (`pit/ingest_writer/writer.py`): one message at a time into
the buffer, the buffer into the database one flush at a time. The clock-driven
part of the health surface is left out. -/
namespace OpenLaps.Ingest

/-- What one decoded batch contributes to the next flush. -/
structure BatchRows where
  rows : List SampleRow
  lapEvents : List String
  agentStatus : Bool
  dropped : Nat
  unresolved : Nat
  deriving DecidableEq, Repr

def BatchRows.empty : BatchRows := ⟨[], [], false, 0, 0⟩

/-- `value` and `value_text` of a row. -/
def columns : SampleValue → Option PyFloat × Option String
  | .str value => (none, some value)
  | .bool value => (some (.finite (if value then 1 else 0)), none)
  | .int value => (some (.finite value), none)
  | .float value => (some value, none)

/-- The body of the loop of `rows_from_batch`. -/
def addSample (keys : Dict (Nat × Nat) Nat) (registrySeq : Nat) (soFar : BatchRows)
    (sample : DecodedSample) : Except PyError BatchRows :=
  match keys.get? (registrySeq, sample.channel.id) with
  | none => .ok { soFar with unresolved := soFar.unresolved + 1 }
  | some channelKey =>
    match sample.value with
    | none => .ok { soFar with dropped := soFar.dropped + 1 }
    | some value => do
      let time ← fromTimestamp (.finite (sample.captureUnixMs / 1000))
      let (number, text) := columns value
      let rows := soFar.rows ++ [⟨time, channelKey, number, text⟩]
      if sample.channel.name = "lap.event" ∧ text.isSome then
        return { soFar with rows := rows, lapEvents := soFar.lapEvents ++ text.toList }
      else if sample.channel.name = "sys.agent.status" then
        return { soFar with rows := rows, agentStatus := true }
      else
        return { soFar with rows := rows }

def rowsFromBatch (batch : DecodedBatch) (keys : Dict (Nat × Nat) Nat) :
    Except PyError BatchRows :=
  batch.samples.foldlM (addSample keys batch.registrySeq) BatchRows.empty

/-- A stream message. Its bytes are represented by what `ParseFromString` makes
of them as a registry and as a batch, `none` standing for a `DecodeError`. -/
structure Msg where
  sequence : Nat
  msgType : Option String
  subject : String
  asRegistry : Option ChannelRegistry
  asBatch : Option SampleBatch
  deriving DecidableEq, Repr

/-- Deploy-time wiring, with the parts of the runtime and of the database that
the writer only calls. -/
structure WriterSettings where
  vehicleId : String
  batchRows : Nat
  fetchBatch : Nat
  maxBufferedRows : Nat
  text : PyText
  channelKey : String → Nat

def registrySubject (vehicleId : String) : String := "tele." ++ vehicleId ++ ".catalog"

/-- The producer's header first, the subject as backup. -/
def isRegistry (message : Msg) (vehicleId : String) : Bool :=
  match message.msgType with
  | none => message.subject = registrySubject vehicleId
  | some header =>
    if header ≠ "" then header = "registry" else message.subject = registrySubject vehicleId

structure HealthState where
  rowsWritten : Nat := 0
  samplesDropped : Nat := 0
  flushes : Nat := 0
  batches : Nat := 0
  registries : Nat := 0
  messagesSkipped : Nat := 0
  lapsWritten : Nat := 0
  sectorsWritten : Nat := 0
  lapsDropped : Nat := 0
  malformedLapEvents : Nat := 0
  unknownSeqBatches : Nat := 0
  unknownSeqStalls : Nat := 0
  badVersionBatches : Nat := 0
  unresolvedChannels : Nat := 0
  dbErrors : Nat := 0
  dataErrors : Nat := 0
  droppedFlushes : Nat := 0
  lastStreamSeq : Nat := 0
  stalled : Bool := false
  deriving DecidableEq, Repr

def HealthState.observeFlush (health : HealthState) (rows streamSeq : Nat) : HealthState :=
  { health with
    flushes := health.flushes + 1
    rowsWritten := health.rowsWritten + rows
    lastStreamSeq := max health.lastStreamSeq streamSeq }

/-- The memory of one `IngestWriter`. The sequences in front of the buffered
rows are history. -/
structure IngestWriter where
  cache : RegistryCache
  laps : LapMaterialiser
  keys : Dict (Nat × Nat) Nat
  cursor : Nat
  maxSeq : Nat
  rows : List (Nat × SampleRow)
  lapRows : List LapRow
  pitUpdates : List PitStatusUpdate
  pending : List Msg
  buffered : List Nat
  held : List Msg
  paused : Bool
  stop : Bool
  health : HealthState

/-- What `_handle` did with a message. -/
inductive Reply where
  | acked
  | buffered
  | stalled (registrySeq : Nat)
  deriving DecidableEq, Repr

namespace IngestWriter

/-- The writer at the start of `run`, with the cursor read back. -/
def new (settings : WriterSettings) (cursor : Nat) : IngestWriter where
  cache := .empty
  laps := .new settings.vehicleId
  keys := .empty
  cursor := cursor
  maxSeq := cursor
  rows := []
  lapRows := []
  pitUpdates := []
  pending := []
  buffered := []
  held := []
  paused := false
  stop := false
  health := {}

/-- The key table and the cache after a generation is recorded. -/
def learn (writer : IngestWriter) (registry : ChannelRegistry) (keys : Dict Nat Nat) :
    IngestWriter :=
  { writer with
    keys := keys.entries.foldl
      (fun known entry => known.set (registry.registrySeq, entry.1) entry.2) writer.keys
    cache := writer.cache.addRegistry registry }

/-- `_apply_registry` retries until the generation is recorded or the writer is
told to stop; only database errors are retried. -/
def applyRegistry (settings : WriterSettings) (writer : IngestWriter)
    (registry : ChannelRegistry) : Except PyError IngestWriter :=
  if writer.stop then .ok writer
  else (upsertRegistry settings.channelKey registry).map (writer.learn registry)

/-- A registry message is parsed and applied, in a scan or as it is consumed. -/
def readRegistry (settings : WriterSettings) (writer : IngestWriter) (message : Msg) :
    Except PyError IngestWriter :=
  match message.asRegistry with
  | none => .error (.valueError "DecodeError")
  | some registry => writer.applyRegistry settings registry

/-- `_scan_registries` over the messages found on the catalog subject. -/
def scanRegistries (settings : WriterSettings) (writer : IngestWriter) (found : List Msg) :
    Except PyError IngestWriter :=
  found.foldlM (readRegistry settings) writer

def materialiseLap (settings : WriterSettings) (writer : IngestWriter) (payload : String) :
    Except PyError IngestWriter := do
  let (laps, row) ← writer.laps.observe settings.text payload
  let writer := { writer with
    laps := laps
    health := { writer.health with malformedLapEvents := laps.malformedEvents } }
  match row with
  | none => return writer
  | some (.lap row) => return { writer with lapRows := writer.lapRows ++ [row] }
  | some (.pit update) => return { writer with pitUpdates := writer.pitUpdates ++ [update] }

def skip (writer : IngestWriter) : IngestWriter :=
  { writer with
    health := { writer.health with messagesSkipped := writer.health.messagesSkipped + 1 } }

/-- A batch that was decoded joins the buffer. -/
def bufferBatch (settings : WriterSettings) (writer : IngestWriter) (message : Msg)
    (batch : DecodedBatch) : Except PyError IngestWriter := do
  let converted ← rowsFromBatch batch writer.keys
  let writer := { writer with
    rows := writer.rows ++ converted.rows.map (Prod.mk message.sequence)
    health := { writer.health with
      batches := writer.health.batches + 1
      samplesDropped := writer.health.samplesDropped + converted.dropped
      unresolvedChannels := writer.health.unresolvedChannels + converted.unresolved } }
  let writer ← converted.lapEvents.foldlM (materialiseLap settings) writer
  return { writer with
    pending := writer.pending ++ [message]
    buffered := writer.buffered ++ [message.sequence]
    maxSeq := max writer.maxSeq message.sequence }

/-- The counters copied from the cache when a batch is not decoded. -/
def noteReject (writer : IngestWriter) (cache : RegistryCache) : IngestWriter :=
  { writer with
    cache := cache
    health := { writer.health with
      unknownSeqBatches := cache.unknownSeqBatches
      badVersionBatches := cache.badVersionBatches } }

def handleBatch (settings : WriterSettings) (writer : IngestWriter) (message : Msg)
    (parsed : SampleBatch) : Except PyError (IngestWriter × Reply) :=
  match writer.cache.decodeBatch parsed with
  | (cache, .error .unknownRegistrySeq) =>
    .ok (writer.noteReject cache, .stalled parsed.registrySeq)
  | (cache, .error .badFormatVersion) =>
    .ok ({ writer.noteReject cache with maxSeq := max writer.maxSeq message.sequence }, .acked)
  | (_, .ok batch) => do
    let writer ← writer.bufferBatch settings message batch
    return (writer, .buffered)

def noteRegistry (writer : IngestWriter) : IngestWriter :=
  { writer with health := { writer.health with registries := writer.health.registries + 1 } }

def handleRegistry (settings : WriterSettings) (writer : IngestWriter) (message : Msg) :
    Except PyError (IngestWriter × Reply) :=
  (writer.readRegistry settings message).map fun applied => (applied.noteRegistry, .acked)

/-- `_handle`. -/
def handle (settings : WriterSettings) (writer : IngestWriter) (message : Msg) :
    Except PyError (IngestWriter × Reply) :=
  if message.sequence ≤ writer.cursor then .ok (writer.skip, .acked)
  else if message.sequence ∈ writer.buffered then .ok (writer.skip, .acked)
  else if isRegistry message settings.vehicleId then writer.handleRegistry settings message
  else
    match message.asBatch with
    | none => .error (.valueError "DecodeError")
    | some parsed => writer.handleBatch settings message parsed

def pendingWork (writer : IngestWriter) : Bool :=
  !writer.rows.isEmpty || !writer.lapRows.isEmpty || !writer.pitUpdates.isEmpty ||
    writer.cursor < writer.maxSeq

/-- The arguments `_write` passes on. -/
def transaction (writer : IngestWriter) (laps : List LapRow) (pitUpdates : List PitStatusUpdate) :
    Transaction := ⟨writer.rows, laps, pitUpdates, writer.maxSeq⟩

def discard (writer : IngestWriter) : IngestWriter :=
  { writer with
    rows := []
    lapRows := []
    pitUpdates := []
    pending := []
    buffered := []
    paused := false }

end IngestWriter

/-- How the two attempts of a flush end, and which of its acks reach the server. -/
structure FlushOutcome where
  write : WriteOutcome
  retry : WriteOutcome
  landed : List Nat
  deriving DecidableEq, Repr

/-- What a flush did with the buffer. -/
inductive Settled where
  | idle
  | kept
  | written
  | dropped
  deriving DecidableEq, Repr

namespace IngestWriter

def operationalError (writer : IngestWriter) : IngestWriter :=
  { writer with health := { writer.health with dbErrors := writer.health.dbErrors + 1 } }

/-- The end of a flush whose rows are committed. -/
def flushed (writer : IngestWriter) (lapsLanded : Bool) : IngestWriter :=
  let cursor := max writer.cursor writer.maxSeq
  let health := writer.health.observeFlush writer.rows.length cursor
  discard { writer with
    cursor := cursor
    health :=
      if lapsLanded then
        { health with
          lapsWritten := health.lapsWritten + writer.lapRows.length
          sectorsWritten := health.sectorsWritten +
            (writer.lapRows.map fun lap => lap.sectors.length).sum }
      else
        { health with lapsDropped := health.lapsDropped + writer.lapRows.length } }

/-- The end of a flush the database refuses twice. -/
def dropFlush (writer : IngestWriter) : IngestWriter :=
  discard { writer with
    cursor := max writer.cursor writer.maxSeq
    health := { writer.health with
      droppedFlushes := writer.health.droppedFlushes + 1
      lapsDropped := writer.health.lapsDropped + writer.lapRows.length } }

/-- The second attempt, without the lap rows. -/
def retryFlush (writer : IngestWriter) (db : Database) (outcome : WriteOutcome) :
    IngestWriter × Database × Settled :=
  let writer := { writer with
    health := { writer.health with dataErrors := writer.health.dataErrors + 1 } }
  let db := db.flush (writer.transaction [] []) outcome
  match outcome with
  | .committed => (writer.flushed false, db, .written)
  | .rolledBack => (writer.operationalError, db, .kept)
  | .lost => (writer.operationalError, db, .kept)
  | .refused => (writer.dropFlush, db, .dropped)

/-- `_flush`; the messages pending before it are acked when the buffer is
written or dropped. -/
def flush (writer : IngestWriter) (db : Database) (outcome : FlushOutcome) :
    IngestWriter × Database × Settled :=
  if ¬ writer.pendingWork then (writer, db, .idle)
  else
    let after := db.flush (writer.transaction writer.lapRows writer.pitUpdates) outcome.write
    match outcome.write with
    | .committed => (writer.flushed true, after, .written)
    | .rolledBack => (writer.operationalError, after, .kept)
    | .lost => (writer.operationalError, after, .kept)
    | .refused => writer.retryFlush after outcome.retry

end IngestWriter

end OpenLaps.Ingest

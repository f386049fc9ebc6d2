import OpenLaps.Pit.Ingest.Writer

/- The ingest writer between its durable JetStream consumer and its database. A
step is what the process does between two points at which it can be killed with
a different trace left behind; acks that a killed process did not get to send
are acks that did not land. -/
namespace OpenLaps.Ingest

/-- A deployment and the messages its stream will hold. -/
structure Site where
  settings : WriterSettings
  stream : List Msg
  positive : ∀ message ∈ stream, 0 < message.sequence
  ordered : stream.Pairwise fun first second => first.sequence < second.sequence

/-- The server's side: the last sequence delivered for the first time, and the
sequences acked. -/
structure Consumer where
  delivered : Nat
  acked : List Nat
  deriving DecidableEq, Repr

/-- First deliveries come in stream order; what was delivered and not acked may
come again at any time. -/
def Consumer.deliver (stream : List Msg) (consumer : Consumer) (message : Msg) :
    Option Consumer :=
  if message.sequence ≤ consumer.delivered then
    if message ∈ stream ∧ message.sequence ∉ consumer.acked then some consumer else none
  else if stream.find? (fun next => consumer.delivered < next.sequence) = some message then
    some { consumer with delivered := message.sequence }
  else
    none

def Consumer.deliverAll (stream : List Msg) (consumer : Consumer) (messages : List Msg) :
    Option Consumer :=
  messages.foldlM (Consumer.deliver stream) consumer

def Consumer.ack (consumer : Consumer) (sequences : List Nat) : Consumer :=
  { consumer with acked := consumer.acked ++ sequences }

/-- Where control goes after a flush. -/
inductive After where
  | top
  | recover (registrySeq : Nat)
  | exit
  deriving DecidableEq, Repr

/-- The places of `_consume` between two steps. -/
inductive Phase where
  | top
  | handling (rest : List Msg)
  | flushing (after : After)
  | recovering (registrySeq : Nat)
  | ended
  deriving DecidableEq, Repr

inductive Process where
  | down
  | up (writer : IngestWriter) (phase : Phase)

/-- `refused` and `doubt` are history: the batch messages of flushes that were
refused twice, and whether a transaction with rows of the present buffer has
committed without the writer knowing. -/
structure System where
  db : Database
  consumer : Consumer
  process : Process
  refused : List Nat
  doubt : Bool

def System.init : System := ⟨⟨0, []⟩, ⟨0, []⟩, .down, [], false⟩

inductive Event where
  /-- The process starts, and scans the catalog subject. -/
  | start (found : List Msg)
  /-- The stop flag is set. -/
  | stop
  /-- The process is killed, or ends after its last flush. -/
  | crash
  | fetch (messages : List Msg)
  /-- The server delivers, the fetch raises, the writer resubscribes. -/
  | fetchFails (messages : List Msg)
  /-- The messages held since a stall are taken up again. -/
  | replay
  /-- The buffer is full: flush instead of fetching. -/
  | pause
  /-- The loop ends because the stop flag is set. -/
  | leave
  | handle (lands : Bool)
  /-- The end of a fetch, with the flush timer due or not. -/
  | settle (due : Bool)
  | flush (outcome : FlushOutcome)
  | recover (found : List Msg)

namespace System

/-- The process is gone, and its memory with it. -/
def kill (system : System) : System := { system with process := .down, doubt := false }

/-- What a scan of the catalog subject can return. -/
def scannable (site : Site) (found : List Msg) : Bool :=
  found.all fun message =>
    message ∈ site.stream ∧ message.subject = registrySubject site.settings.vehicleId

/-- The writer after a scan; an undecodable registry ends the process. -/
def scan (site : Site) (system : System) (writer : IngestWriter) (found : List Msg)
    (resume : IngestWriter → Process) : Option System :=
  if scannable site found then
    match writer.scanRegistries site.settings found with
    | .error _ => some system.kill
    | .ok scanned => some { system with process := resume scanned }
  else
    none

def fetch (site : Site) (system : System) (writer : IngestWriter) (messages : List Msg) :
    Option System :=
  if writer.stop ∨ writer.held ≠ [] ∨ site.settings.maxBufferedRows ≤ writer.rows.length ∨
      site.settings.fetchBatch < messages.length then none
  else
    (system.consumer.deliverAll site.stream messages).map fun consumer =>
      { system with consumer := consumer, process := .up writer (.handling messages) }

def fetchFails (site : Site) (system : System) (writer : IngestWriter) (messages : List Msg) :
    Option System :=
  if writer.stop ∨ writer.held ≠ [] ∨ site.settings.maxBufferedRows ≤ writer.rows.length then none
  else
    (system.consumer.deliverAll site.stream messages).map fun consumer =>
      { system with consumer := consumer, process := .up writer .top }

/-- One round of the loop of `_handle_all`; a stall holds the rest of the fetch. -/
def handle (site : Site) (system : System) (writer : IngestWriter) (message : Msg)
    (rest : List Msg) (lands : Bool) : System :=
  match writer.handle site.settings message with
  | .error _ => system.kill
  | .ok (handled, .acked) =>
    { system with
      consumer := system.consumer.ack (if lands then [message.sequence] else [])
      process := .up handled (.handling rest) }
  | .ok (handled, .buffered) => { system with process := .up handled (.handling rest) }
  | .ok (handled, .stalled registrySeq) =>
    let health := { handled.health with
      unknownSeqStalls := handled.health.unknownSeqStalls + 1
      stalled := true }
    { system with
      process := .up { handled with held := message :: rest, health := health }
        (.flushing (.recover registrySeq)) }

def resume (writer : IngestWriter) : After → Process
  | .top => .up writer .top
  | .recover registrySeq => .up writer (.recovering registrySeq)
  | .exit => .up writer .ended

/-- The doubt that a flush leaves behind when it keeps the buffer. -/
def doubtKept (system : System) (writer : IngestWriter) (outcome : FlushOutcome) : Bool :=
  if outcome.write = .lost ∨ (outcome.write = .refused ∧ outcome.retry = .lost) then
    !writer.rows.isEmpty
  else
    system.doubt

def flush (system : System) (writer : IngestWriter) (after : After) (outcome : FlushOutcome) :
    System :=
  let pending := writer.pending.map Msg.sequence
  let acks := pending.filter (· ∈ outcome.landed)
  match writer.flush system.db outcome with
  | (flushed, db, .idle) => { system with db := db, process := resume flushed after }
  | (flushed, db, .kept) =>
    { system with
      db := db
      process := resume flushed after
      doubt := system.doubtKept writer outcome }
  | (flushed, db, .written) =>
    { system with
      db := db
      consumer := system.consumer.ack acks
      process := resume flushed after
      doubt := false }
  | (flushed, db, .dropped) =>
    { system with
      db := db
      consumer := system.consumer.ack acks
      process := resume flushed after
      refused := system.refused ++ pending
      doubt := false }

/-- `_recover_registry` after its scan. -/
def recovered (registrySeq : Nat) (writer : IngestWriter) : Process :=
  .up (if writer.cache.known registrySeq then
      { writer with health := { writer.health with stalled := false } } else writer) .top

/-- The steps of a running process, by the place it is at. -/
def stepUp (site : Site) (system : System) (writer : IngestWriter) :
    Phase → Event → Option System
  | .top, .fetch messages => system.fetch site writer messages
  | .top, .fetchFails messages => system.fetchFails site writer messages
  | .top, .replay =>
    if writer.stop ∨ writer.held = [] then none
    else
      some { system with process := .up { writer with held := [] } (.handling writer.held) }
  | .top, .pause =>
    if writer.stop ∨ writer.held ≠ [] ∨ writer.rows.length < site.settings.maxBufferedRows then
      none
    else
      some { system with process := .up { writer with paused := true } (.flushing .top) }
  | .top, .leave =>
    if writer.stop then some { system with process := .up writer (.flushing .exit) } else none
  | .handling (message :: rest), .handle lands =>
    some (system.handle site writer message rest lands)
  | .handling [], .settle due =>
    if due ∨ site.settings.batchRows ≤ writer.rows.length then
      some { system with process := .up writer (.flushing .top) }
    else
      some { system with process := .up writer .top }
  | .flushing after, .flush outcome => some (system.flush writer after outcome)
  | .recovering registrySeq, .recover found =>
    system.scan site writer found (recovered registrySeq)
  | _, _ => none

def step (site : Site) (system : System) (event : Event) : Option System :=
  match system.process, event with
  | .down, .start found =>
    system.scan site (.new site.settings system.db.cursor) found fun writer => .up writer .top
  | .up _ _, .crash => some system.kill
  | .up writer phase, .stop => some { system with process := .up { writer with stop := true } phase }
  | .up writer phase, event => system.stepUp site writer phase event
  | .down, _ => none

end System

end OpenLaps.Ingest

import OpenLaps.Lib.Cursor
import OpenLaps.Pit.Ingest.Resolution

/- The writer with its consumer and its database seen as a cursor machine, and
what it means that a step is one of its actions. -/
namespace OpenLaps.Ingest

/-- A batch message of the stream that this build can decode. -/
structure Site.SupportedBatch (site : Site) (message : Msg) (batch : SampleBatch) : Prop where
  listed : message ∈ site.stream
  kind : isRegistry message site.settings.vehicleId = false
  parsed : message.asBatch = some batch
  version : RegistryCache.supported batch.formatVersion = true

/-- All sample rows of the batch, under a published registry of its generation. -/
def Site.AllRows (site : Site) (batch : SampleBatch) (rows : List SampleRow) : Prop :=
  ∃ registry, site.Published registry ∧ registry.registrySeq = batch.registrySeq ∧
    batchRows site.settings registry batch = .ok rows

/-- What the stream asks of the writer. -/
def demand (site : Site) : Cursor.Demand SampleRow where
  batch := fun sequence =>
    ∃ message batch, site.SupportedBatch message batch ∧ message.sequence = sequence
  whole := fun sequence rows =>
    ∃ message batch, site.SupportedBatch message batch ∧ message.sequence = sequence ∧
      site.AllRows batch rows

theorem Site.sequence_inj (site : Site) {first second : Msg} (left : first ∈ site.stream)
    (right : second ∈ site.stream) (same : first.sequence = second.sequence) : first = second := by
  have nodup : (site.stream.map Msg.sequence).Nodup := by
    rw [List.Nodup, List.pairwise_map]
    exact site.ordered.imp fun later => Nat.ne_of_lt later
  exact List.inj_on_of_nodup_map nodup left right same

namespace System

/-- The view of a process that is up. -/
def upView (system : System) (writer : IngestWriter) : Cursor.State SampleRow where
  committed := system.db.cursor
  log := system.db.transactions.map Transaction.rows
  acked := system.consumer.acked
  refused := system.refused
  cursor := writer.cursor
  highest := writer.maxSeq
  rows := writer.rows
  pending := writer.pending.map Msg.sequence
  doubt := system.doubt

/-- The system as a cursor machine; while the process is down its memory is what
a restart will find. -/
def view (system : System) : Cursor.State SampleRow :=
  match system.process with
  | .up writer _ => system.upView writer
  | .down =>
    { committed := system.db.cursor
      log := system.db.transactions.map Transaction.rows
      acked := system.consumer.acked
      refused := system.refused
      cursor := system.db.cursor
      highest := system.db.cursor
      rows := []
      pending := []
      doubt := false }

theorem view_up {system : System} {writer : IngestWriter} {phase : Phase}
    (up : system.process = .up writer phase) : system.view = system.upView writer := by
  rw [view, up]

/-- What is durable looks the same with the process up or down. -/
theorem view_durable (system : System) :
    system.view.committed = system.db.cursor ∧
      system.view.log = system.db.transactions.map Transaction.rows ∧
      system.view.acked = system.consumer.acked ∧ system.view.refused = system.refused := by
  rw [view]
  split <;> exact ⟨rfl, rfl, rfl, rfl⟩

@[simp] theorem view_committed (system : System) : system.view.committed = system.db.cursor :=
  system.view_durable.1

@[simp] theorem view_log (system : System) :
    system.view.log = system.db.transactions.map Transaction.rows :=
  system.view_durable.2.1

@[simp] theorem view_acked (system : System) : system.view.acked = system.consumer.acked :=
  system.view_durable.2.2.1

@[simp] theorem view_refused (system : System) : system.view.refused = system.refused :=
  system.view_durable.2.2.2

theorem view_kill (system : System) : system.kill.view = system.view.apply .restart := by
  cases up : system.process with
  | down =>
    rw [view, view, up]
    rfl
  | up writer phase =>
    rw [view_up up]
    rfl

end System

/-- Some attempt of the flush commits. -/
def FlushOutcome.commits (outcome : FlushOutcome) : Bool :=
  outcome.write.commits || (outcome.write = .refused && outcome.retry.commits)

namespace System

/-- The event commits a transaction. -/
def commits (system : System) (event : Event) : Bool :=
  match system.process, event with
  | .up writer (.flushing _), .flush outcome => writer.pendingWork && outcome.commits
  | _, _ => false

/-- The message that the event acks because its sequence is not above the cursor
in memory, or is in the buffer. -/
def skips (system : System) (event : Event) : Option Nat :=
  match system.process, event with
  | .up writer (.handling (message :: _)), .handle true =>
    if message.sequence ≤ writer.cursor ∨ message.sequence ∈ writer.buffered then
      some message.sequence
    else none
  | _, _ => none

end System

/-- The writer's knowledge comes from the stream, and so do the messages it has
in hand. -/
structure Grounded (site : Site) (writer : IngestWriter) : Prop where
  learned : Learned site writer
  buffered : writer.buffered = writer.pending.map Msg.sequence
  held : ∀ message ∈ writer.held, message ∈ site.stream

def Phase.messages : Phase → List Msg
  | .handling rest => rest
  | _ => []

structure System.Valid (site : Site) (system : System) : Prop where
  up : ∀ writer phase, system.process = .up writer phase →
    Grounded site writer ∧ ∀ message ∈ phase.messages, message ∈ site.stream
  down : system.process = .down → system.doubt = false

/-- The step is an action of the cursor machine, and it commits or skips exactly
when the action does. -/
def Simulated (site : Site) (system : System) (event : Event) (next : System) : Prop :=
  ∃ action, Cursor.Enabled (demand site) system.view action ∧
    next.view = system.view.apply action ∧
    action.commits = system.commits event ∧ action.skipped = system.skips event

structure Refined (site : Site) (system : System) (event : Event) (next : System) : Prop where
  valid : next.Valid site
  simulated : Simulated site system event next

/-- The event neither commits nor skips. -/
structure Quiet (system : System) (event : Event) : Prop where
  commits : system.commits event = false
  skips : system.skips event = none

variable {site : Site} {system : System} {writer : IngestWriter} {phase : Phase} {event : Event}

theorem valid_up {next : System} (up : next.process = .up writer phase)
    (grounded : Grounded site writer)
    (listed : ∀ message ∈ phase.messages, message ∈ site.stream) : next.Valid site := by
  constructor
  · intro other place same
    rw [up] at same
    cases same
    exact ⟨grounded, listed⟩
  · intro down
    rw [up] at down
    cases down

theorem refined_kill (quiet : Quiet system event) :
    Refined site system event system.kill := by
  refine ⟨⟨?_, fun _ => rfl⟩, .restart, trivial, system.view_kill, quiet.commits.symm,
    quiet.skips.symm⟩
  intro other place up
  cases up

/-- A step that changes nothing the cursor machine sees. -/
theorem refined_stay {next : System} (quiet : Quiet system event)
    (up : next.process = .up writer phase) (grounded : Grounded site writer)
    (listed : ∀ message ∈ phase.messages, message ∈ site.stream)
    (same : next.upView writer = system.view) : Refined site system event next := by
  refine ⟨valid_up up grounded listed, .stay, trivial, ?_, quiet.commits.symm,
    quiet.skips.symm⟩
  rw [System.view_up up]
  exact same

end OpenLaps.Ingest

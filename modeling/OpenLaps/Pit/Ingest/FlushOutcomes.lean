import OpenLaps.Pit.Ingest.Guarantees

/- What a flush leaves of the buffer, for every pair of outcomes of its two attempts. -/
namespace OpenLaps.Ingest

/-- The attempt ends in `OperationalError`. -/
def WriteOutcome.operational : WriteOutcome → Bool
  | .rolledBack => true
  | .lost => true
  | _ => false

/-- The second attempt is made. -/
def FlushOutcome.retried (outcome : FlushOutcome) : Bool := outcome.write = .refused

/-- One of the attempts that are made ends in `OperationalError`. -/
def FlushOutcome.disconnected (outcome : FlushOutcome) : Bool :=
  outcome.write.operational || (outcome.retried && outcome.retry.operational)

/-- The buffers and the cursor stay. -/
structure Untouched (writer flushed : IngestWriter) : Prop where
  rows : flushed.rows = writer.rows
  lapRows : flushed.lapRows = writer.lapRows
  pitUpdates : flushed.pitUpdates = writer.pitUpdates
  pending : flushed.pending = writer.pending
  buffered : flushed.buffered = writer.buffered
  cursor : flushed.cursor = writer.cursor

/-- The buffers are empty and the cursor covers them. -/
structure Emptied (writer flushed : IngestWriter) : Prop where
  rows : flushed.rows = []
  lapRows : flushed.lapRows = []
  pitUpdates : flushed.pitUpdates = []
  pending : flushed.pending = []
  buffered : flushed.buffered = []
  cursor : flushed.cursor = max writer.cursor writer.maxSeq

/-- What of a buffer reached the database. -/
inductive Landing where
  | all
  | samplesOnly
  | nothing

/-- Which attempt committed, what it committed, and what the counters say of the rest. -/
def Landing.Holds (outcome : FlushOutcome) (writer flushed : IngestWriter)
    (db after : Database) : Landing → Prop
  | .all =>
    outcome.write.commits = true ∧
      after = db.commit (writer.transaction writer.lapRows writer.pitUpdates) ∧
      flushed.health.lapsDropped = writer.health.lapsDropped ∧
      flushed.health.droppedFlushes = writer.health.droppedFlushes
  | .samplesOnly =>
    (outcome.write.commits = false ∧ outcome.retry.commits = true) ∧
      after = db.commit (writer.transaction [] []) ∧
      flushed.health.lapsDropped = writer.health.lapsDropped + writer.lapRows.length ∧
      flushed.health.droppedFlushes = writer.health.droppedFlushes
  | .nothing =>
    (outcome.write.commits = false ∧ outcome.retry.commits = false) ∧ after = db ∧
      flushed.health.lapsDropped = writer.health.lapsDropped + writer.lapRows.length ∧
      flushed.health.droppedFlushes = writer.health.droppedFlushes + 1

variable {writer : IngestWriter} {db : Database} {outcome : FlushOutcome}

theorem untouched_operationalError (writer : IngestWriter) :
    Untouched writer writer.operationalError := ⟨rfl, rfl, rfl, rfl, rfl, rfl⟩

theorem emptied_flushed (writer : IngestWriter) (lapsLanded : Bool) :
    Emptied writer (writer.flushed lapsLanded) := ⟨rfl, rfl, rfl, rfl, rfl, rfl⟩

/-- At most one account of a flush holds: they differ in the attempt that committed. -/
theorem landing_unique {flushed : IngestWriter} {after : Database} {first second : Landing}
    (left : first.Holds outcome writer flushed db after)
    (right : second.Holds outcome writer flushed db after) : first = second := by
  cases first <;> cases second <;> simp_all [Landing.Holds]

/-- A flush kept by a lost connection: nothing of the buffer moves, nothing is settled. -/
theorem flush_kept (db : Database) (work : writer.pendingWork = true)
    (gone : outcome.disconnected = true) :
    Untouched writer (writer.flush db outcome).1 ∧ (writer.flush db outcome).2.2 = .kept := by
  obtain ⟨write, retry, landed⟩ := outcome
  cases write with
  | committed => cases gone
  | rolledBack =>
    rw [flush_rolledBack work]
    exact ⟨untouched_operationalError writer, rfl⟩
  | lost =>
    rw [flush_lost work]
    exact ⟨untouched_operationalError writer, rfl⟩
  | refused =>
    rw [flush_refused work]
    cases retry with
    | committed => cases gone
    | rolledBack => exact ⟨⟨rfl, rfl, rfl, rfl, rfl, rfl⟩, rfl⟩
    | lost => exact ⟨⟨rfl, rfl, rfl, rfl, rfl, rfl⟩, rfl⟩
    | refused => cases gone

/-- Otherwise the buffer is settled, one way. -/
theorem flush_settled (db : Database) (work : writer.pendingWork = true)
    (there : outcome.disconnected = false) :
    Emptied writer (writer.flush db outcome).1 ∧
      ((writer.flush db outcome).2.2 = .written ∨ (writer.flush db outcome).2.2 = .dropped) ∧
      ∃ landing : Landing, landing.Holds outcome writer (writer.flush db outcome).1 db
        (writer.flush db outcome).2.1 := by
  obtain ⟨write, retry, landed⟩ := outcome
  cases write with
  | rolledBack => cases there
  | lost => cases there
  | committed =>
    rw [flush_committed work]
    exact ⟨emptied_flushed writer true, .inl rfl, .all, rfl, rfl, rfl, rfl⟩
  | refused =>
    rw [flush_refused work]
    cases retry with
    | rolledBack => cases there
    | lost => cases there
    | committed =>
      exact ⟨⟨rfl, rfl, rfl, rfl, rfl, rfl⟩, .inl rfl, .samplesOnly, ⟨rfl, rfl⟩, rfl, rfl, rfl⟩
    | refused =>
      exact ⟨⟨rfl, rfl, rfl, rfl, rfl, rfl⟩, .inr rfl, .nothing, ⟨rfl, rfl⟩, rfl, rfl, rfl⟩

/-- The acks of a flush: every pending message, once the buffer is settled. -/
theorem flush_acks (system : System) (writer : IngestWriter) (after : After)
    (outcome : FlushOutcome) :
    (system.flush writer after outcome).consumer.acked = system.consumer.acked ++
      match (writer.flush system.db outcome).2.2 with
      | .written | .dropped => (writer.pending.map Msg.sequence).filter (· ∈ outcome.landed)
      | .idle | .kept => [] := by
  unfold System.flush
  dsimp only
  split <;> rename_i same <;> rw [same] <;> simp [Consumer.ack]

/-- For every writer with something to flush and every pair of outcomes of the two attempts: a
connection lost in one that was made leaves buffers, cursor and acks as they are; otherwise the
buffers are empty, every pending message is acked (an ack may still be lost on its way), the
cursor covers the flush, and exactly one account of the rows holds. A writer with nothing to
flush attempts nothing. -/
theorem flush_outcomes (system : System) (writer : IngestWriter) (after : After)
    (outcome : FlushOutcome) :
    let flushed := (writer.flush system.db outcome).1
    let next := system.flush writer after outcome
    next.process = System.resume flushed after ∧
      (writer.pendingWork = true →
        (outcome.disconnected = true →
          Untouched writer flushed ∧ next.consumer.acked = system.consumer.acked) ∧
        (outcome.disconnected = false →
          Emptied writer flushed ∧
            next.consumer.acked = system.consumer.acked ++
              (writer.pending.map Msg.sequence).filter (· ∈ outcome.landed) ∧
            ∃! landing : Landing, landing.Holds outcome writer flushed system.db next.db)) ∧
      (writer.pendingWork = false →
        flushed = writer ∧ next.db = system.db ∧ next.consumer = system.consumer) := by
  have database : (system.flush writer after outcome).db = (writer.flush system.db outcome).2.1 := by
    unfold System.flush
    dsimp only
    split <;> rename_i same <;> rw [same]
  refine ⟨?_, fun work => ⟨fun gone => ?_, fun there => ?_⟩, fun none => ?_⟩
  · unfold System.flush
    dsimp only
    split <;> rename_i same <;> rw [same]
  · obtain ⟨untouched, settled⟩ := flush_kept system.db work gone
    refine ⟨untouched, ?_⟩
    rw [flush_acks, settled, List.append_nil]
  · obtain ⟨emptied, settled, landing, holds⟩ := flush_settled system.db work there
    refine ⟨emptied, ?_, landing, ?_, fun other holds' => ?_⟩
    · rw [flush_acks]
      cases settled with
      | inl written => rw [written]
      | inr dropped => rw [dropped]
    · rw [database]
      exact holds
    · rw [database] at holds'
      exact landing_unique holds' holds
  · rw [System.flush, flush_idle none]
    exact ⟨rfl, rfl, rfl⟩

/-- A writer that holds one flush's worth of work. -/
def loadedWriter : IngestWriter :=
  { IngestWriter.new trackside.settings 0 with
    maxSeq := 99
    rows := [(99, ⟨0, 1, some (.finite 4500), none⟩)]
    lapRows := [⟨"car1", none, none, some "Wanneroo", 4, 0, some (.finite 108), true,
      some "track", some "counterclockwise", []⟩]
    pending := [⟨99, none, "tele.car1.can0", none, none⟩]
    buffered := [99] }

theorem loaded_refused :
    Emptied loadedWriter (loadedWriter.flush System.init.db ⟨.refused, .refused, [99]⟩).1 ∧
      (System.init.flush loadedWriter .top ⟨.refused, .refused, [99]⟩).consumer.acked = [99] :=
  let law := ((flush_outcomes System.init loadedWriter .top ⟨.refused, .refused, [99]⟩).2.1 rfl).2 rfl
  ⟨law.1, law.2.1⟩

end OpenLaps.Ingest

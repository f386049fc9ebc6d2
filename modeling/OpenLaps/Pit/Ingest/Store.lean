import OpenLaps.Pit.Ingest.Laps

/- What the ingest writer leaves in TimescaleDB (`pit/ingest_writer/store.py`):
the log of committed flushes, from which the tables can be rebuilt, and
`ingest_cursor`. -/
namespace OpenLaps.Ingest

/-- `(time, channel_key, value, value_text)`. -/
structure SampleRow where
  time : Int
  channelKey : Nat
  value : Option PyFloat
  valueText : Option String
  deriving DecidableEq, Repr

/-- The arguments of one `TimescaleStore.flush`. The stream sequence in front of
a sample row is history: the batch message the row came from. -/
structure Transaction where
  rows : List (Nat × SampleRow)
  laps : List LapRow
  pitUpdates : List PitStatusUpdate
  streamSeq : Nat
  deriving DecidableEq, Repr

/-- `cursor` is 0 until `ingest_cursor` has a row for the consumer. -/
structure Database where
  cursor : Nat
  transactions : List Transaction
  deriving DecidableEq, Repr

/-- `_UPSERT_CURSOR`, run only for a positive sequence. -/
def upsertCursor (cursor streamSeq : Nat) : Nat :=
  if 0 < streamSeq ∧ cursor < streamSeq then streamSeq else cursor

def Database.commit (db : Database) (transaction : Transaction) : Database :=
  ⟨upsertCursor db.cursor transaction.streamSeq, db.transactions ++ [transaction]⟩

/-- How one call of `TimescaleStore.flush` ends. Both `rolledBack` and `lost`
raise `OperationalError`; with `lost` the connection died after the commit and
before its reply. `refused` raises another `psycopg.Error`. -/
inductive WriteOutcome where
  | committed
  | rolledBack
  | lost
  | refused
  deriving DecidableEq, Repr

def WriteOutcome.commits : WriteOutcome → Bool
  | .committed => true
  | .lost => true
  | _ => false

def Database.flush (db : Database) (transaction : Transaction) (outcome : WriteOutcome) :
    Database :=
  if outcome.commits then db.commit transaction else db

/-- A registry's `created_unix_ms`, or nothing when the producer left it unset. -/
def epochMsToDatetime (unixMs : Nat) : Except PyError (Option Int) :=
  if unixMs = 0 then .ok none else (fromTimestamp (.finite ((unixMs : ℚ) / 1000))).map some

/-- `wire_id -> channel_key`. The key of a name is the one its row of `channels`
has; rows are unique on the name and never deleted. -/
def registryKeys (channelKey : String → Nat) (registry : ChannelRegistry) : Dict Nat Nat :=
  Dict.ofRows Channel.id (fun channel => channelKey channel.name) registry.channels

/-- `upsert_registry`, as far as the writer sees it. -/
def upsertRegistry (channelKey : String → Nat) (registry : ChannelRegistry) :
    Except PyError (Dict Nat Nat) := do
  let _ ← epochMsToDatetime registry.createdUnixMs
  return registryKeys channelKey registry

theorem upsertCursor_eq (cursor streamSeq : Nat) :
    upsertCursor cursor streamSeq = max cursor streamSeq := by
  rw [upsertCursor]
  split
  · rename_i later
    exact (Nat.max_eq_right (Nat.le_of_lt later.2)).symm
  · rename_i earlier
    have below : streamSeq ≤ cursor := by omega
    exact (Nat.max_eq_left below).symm

end OpenLaps.Ingest

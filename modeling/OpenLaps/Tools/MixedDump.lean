import OpenLaps.Tools.ExactlyOnce
import OpenLaps.Tools.LegacyBatches

/- Lap, sector and pit rows in a sample dump (`_import_path`): where the batches and the runs
that are killed do not matter. -/
namespace OpenLaps.Ingest
open LegacyImport

namespace Tables

variable {tables : Tables} {rows : List LegacyRow} {samples : List SampleRow} {streamSeq : Nat}

theorem writeRow_stamp (row : LegacyRow) :
    (tables.stamp samples streamSeq).writeRow row = (tables.writeRow row).stamp samples streamSeq := by
  cases row with
  | lap lap => rfl
  | sector row =>
    show upsertLegacySector _ row = (upsertLegacySector _ row).stamp _ _
    have same : (tables.stamp samples streamSeq).laps = tables.laps := rfl
    unfold upsertLegacySector
    rw [same]
    cases sectorLap tables.laps row <;> rfl
  | pit update => rfl

theorem foldl_writeRow_stamp (rows : List LegacyRow) :
    rows.foldl writeRow (tables.stamp samples streamSeq) =
      (rows.foldl writeRow tables).stamp samples streamSeq := by
  induction rows generalizing tables with
  | nil => rfl
  | cons row rest ih =>
    rw [List.foldl_cons, List.foldl_cons, writeRow_stamp]
    exact ih

theorem settled_stamp (settled : tables.Settled rows) : (tables.stamp samples streamSeq).Settled rows := by
  induction rows generalizing tables with
  | nil => trivial
  | cons row rest ih =>
    refine ⟨settled.1, ?_⟩
    rw [writeRow_stamp]
    exact ih settled.2

end Tables

end OpenLaps.Ingest

namespace OpenLaps.LegacyImport
open Ingest

/-- The rows of a converted point. -/
def legacyRows (converted : ConvertedLapPoint) : List LegacyRow :=
  converted.laps.map .lap ++ converted.sectors.map .sector ++ converted.pitUpdates.map .pit

/-- The laps, sectors and pit updates of a line, if it is well formed and in bounds. -/
def lineLegacy (job : Job) (line : Bytes) : List LegacyRow :=
  match parseLine job line with
  | none => []
  | some point =>
    if inBounds job point && point.measurement = "lap".toList then
      match convertLapPoint job point with
      | .ok converted => legacyRows converted
      | .error _ => []
    else []

/-- Those of the file. -/
def fileLegacy (job : Job) : List LegacyRow := (readLines job.content).flatMap (lineLegacy job)

namespace Mixed

/-- A run that is killed, with its tables. -/
def attempt (job : Job) (sessions : SessionTables) (store : TimescaleStore) (attempt : Attempt) :
    TimescaleStore :=
  ((importPath job attempt.resume attempt.batchRows store.tables.cursor).1.take
    attempt.committed).foldl (TimescaleStore.flushLegacy sessions) store

/-- A run that completes. -/
def complete (job : Job) (sessions : SessionTables) (resume : Bool) (batchRows : Nat)
    (store : TimescaleStore) : Option TimescaleStore :=
  let run := importPath job resume batchRows store.tables.cursor
  if run.2 then some (run.1.foldl (TimescaleStore.flushLegacy sessions) store) else none

end Mixed

/-! ### Lines -/

section Lines

variable {job : Job} {progress next : Progress} {line : Bytes}

theorem plain_of_convert {point : LineProtocol.LinePoint} {converted : ConvertedLapPoint}
    (read : convertLapPoint job point = .ok converted) :
    ∀ lap ∈ converted.laps, TimescaleStore.Plain lap := by
  have none : ∀ lap ∈ ([] : List LapRow), TimescaleStore.Plain lap :=
    fun lap member => absurd member List.not_mem_nil
  unfold convertLapPoint at read
  cases stamped : timestamp point.timestampNs with
  | error raised =>
    rw [stamped] at read
    cases read
  | ok time =>
    rw [stamped] at read
    dsimp only [bind, Except.bind] at read
    split at read
    · cases read
      exact none
    · split at read
      · split at read
        · cases read
        · split at read
          · cases read
            exact none
          · split at read
            · cases read
              exact none
            · cases read
              intro lap member
              rw [List.mem_singleton.mp member]
              exact ⟨rfl, rfl⟩
      · split at read
        · split at read
          · cases read
          · split at read
            · cases read
              exact none
            · cases read
              exact none
        · cases read
          exact none

theorem rows_of_converted (converted : ConvertedLapPoint) :
    (legacyRows converted).filterMap Ingest.Tables.lapOf = converted.laps ∧
      (legacyRows converted).filterMap Ingest.Tables.sectorOf = converted.sectors ∧
        (legacyRows converted).filterMap Ingest.Tables.pitOf = converted.pitUpdates := by
  simp only [legacyRows, List.filterMap_append, List.filterMap_map]
  simp [Function.comp_def, Ingest.Tables.lapOf, Ingest.Tables.sectorOf, Ingest.Tables.pitOf]

theorem plain_line (job : Job) (line : Bytes) :
    ∀ lap ∈ (lineLegacy job line).filterMap Ingest.Tables.lapOf, TimescaleStore.Plain lap := by
  unfold lineLegacy
  split
  · exact fun lap member => absurd member List.not_mem_nil
  · split
    · split
      · rename_i converted read
        rw [(rows_of_converted converted).1]
        exact plain_of_convert read
      · exact fun lap member => absurd member List.not_mem_nil
    · exact fun lap member => absurd member List.not_mem_nil

theorem plain_lines (job : Job) (lines : List Bytes) :
    ∀ lap ∈ (lines.flatMap (lineLegacy job)).filterMap Ingest.Tables.lapOf, TimescaleStore.Plain lap := by
  intro lap member
  rw [List.filterMap_flatMap] at member
  obtain ⟨line, _, inside⟩ := List.mem_flatMap.mp member
  exact plain_line job line lap inside

/-- What a run has read of laps, sectors and pit updates. -/
structure Gathers (progress : Progress) (rows : List LegacyRow) : Prop where
  laps : progress.laps = rows.filterMap Ingest.Tables.lapOf
  sectors : progress.sectors = rows.filterMap Ingest.Tables.sectorOf
  pitUpdates : progress.pitUpdates = rows.filterMap Ingest.Tables.pitOf

theorem add_legacy {point : LineProtocol.LinePoint} {rows : List LegacyRow}
    (gathers : Gathers progress rows) (parsed : parseLine job line = some point)
    (added : progress.add job point = .ok next) : Gathers next (rows ++ lineLegacy job line) := by
  unfold Progress.add at added
  unfold lineLegacy
  rw [parsed]
  dsimp only
  split at added
  · rename_i outside
    cases added
    have none : (inBounds job point && decide (point.measurement = "lap".toList)) = false := by
      simp_all
    rw [if_neg (by rw [none]; decide), List.append_nil]
    exact gathers
  · rename_i inside
    split at added
    · rename_i lap
      dsimp only [bind, Except.bind] at added
      split at added
      · cases added
      · rename_i converted read
        cases added
        obtain ⟨laps, sectors, updates⟩ := rows_of_converted converted
        rw [if_pos (by simp_all), read]
        constructor
        · rw [List.filterMap_append, laps, ← gathers.laps]
        · rw [List.filterMap_append, sectors, ← gathers.sectors]
        · rw [List.filterMap_append, updates, ← gathers.pitUpdates]
    · rename_i other
      dsimp only [bind, Except.bind] at added
      split at added
      · cases added
      · cases added
        rw [if_neg (by simp_all), List.append_nil]
        exact ⟨gathers.laps, gathers.sectors, gathers.pitUpdates⟩

theorem readLine_legacy {rows : List LegacyRow} {resume checked : Bool} {cursor offset : Nat}
    (gathers : Gathers progress rows) (fresh : resume = true ∨ cursor < offset)
    (read : progress.readLine job resume cursor offset line = .ok (next, checked)) :
    Gathers next (rows ++ lineLegacy job line) := by
  obtain ⟨counted, known, outcome⟩ := readLine_cases fresh read
  have gathered : Gathers counted rows := by
    rw [known]
    exact ⟨gathers.laps, gathers.sectors, gathers.pitUpdates⟩
  rcases outcome with ⟨malformed, same⟩ | ⟨point, parsed, added⟩
  · rw [same, lineLegacy, malformed, List.append_nil]
    exact gathered
  · exact add_legacy gathered parsed added

end Lines

/-! ### Runs -/

namespace Mixed

/-- The tables hold the rows of the lines `before` the cursor, each written on its own. -/
structure Synced (job : Job) (base store : TimescaleStore) (before after : List Bytes) : Prop where
  lines : readLines job.content = before ++ after
  rows : store = ⟨base.cache, ((before.flatMap (lineLegacy job)).foldl Ingest.Tables.writeRow
    base.tables).stamp (before.flatMap (lineRows job)) before.flatten.length⟩

/-- A run that has read the lines `pending` since its last flush. -/
structure Pends (job : Job) (progress : Progress) (before pending : List Bytes) : Prop where
  reads : Reads job progress before pending
  gathers : Gathers progress (pending.flatMap (lineLegacy job))

variable {job : Job} {sessions : SessionTables} {base : TimescaleStore}

theorem foldl_writeRow_cursor (rows : List LegacyRow) (tables : Ingest.Tables) :
    (rows.foldl Ingest.Tables.writeRow tables).cursor = tables.cursor := by
  induction rows generalizing tables with
  | nil => rfl
  | cons row rest ih =>
    refine (ih _).trans ?_
    cases row with
    | lap lap => rfl
    | sector row =>
      show (tables.upsertLegacySector row).cursor = tables.cursor
      unfold Ingest.Tables.upsertLegacySector
      split <;> rfl
    | pit update => rfl

theorem Synced.cursor {store : TimescaleStore} {before after : List Bytes}
    (synced : Synced job base store before after) (new : base.tables.cursor = 0) :
    store.tables.cursor = before.flatten.length := by
  rw [synced.rows]
  show upsertCursor (List.foldl Ingest.Tables.writeRow base.tables _).cursor _ = _
  rw [upsertCursor_eq, foldl_writeRow_cursor, new, Nat.zero_max]

/-- A settled flush leaves the rows of its lines. -/
theorem Synced.commit {store : TimescaleStore} {progress : Progress} {before pending rest : List Bytes}
    (settled : base.tables.Settled (fileLegacy job))
    (synced : Synced job base store before (pending ++ rest)) (pends : Pends job progress before pending) :
    Synced job base (store.flushLegacy sessions progress.flush) (before ++ pending) rest := by
  refine ⟨by rw [synced.lines, List.append_assoc], ?_⟩
  have whole : fileLegacy job = before.flatMap (lineLegacy job) ++
      (pending.flatMap (lineLegacy job) ++ rest.flatMap (lineLegacy job)) := by
    rw [fileLegacy, synced.lines, List.flatMap_append, List.flatMap_append]
  rw [whole] at settled
  have here := (Ingest.Tables.settled_append (Ingest.Tables.settled_append settled).2).1
  have plain : ∀ lap ∈ progress.flush.laps, TimescaleStore.Plain lap := by
    show ∀ lap ∈ progress.laps, _
    rw [pends.gathers.laps]
    exact plain_lines job pending
  have longer : before.flatten.length ≤ (before ++ pending).flatten.length := by simp
  rw [TimescaleStore.flushLegacy_eq plain, synced.rows]
  show TimescaleStore.mk base.cache ((Ingest.Tables.flushRows _ progress.laps progress.sectors
    progress.pitUpdates).stamp progress.rows progress.lastOffset) = _
  rw [pends.gathers.laps, pends.gathers.sectors, pends.gathers.pitUpdates,
    Ingest.Tables.flushRows_eq (Ingest.Tables.settled_stamp here),
    Ingest.Tables.foldl_writeRow_stamp, Ingest.Tables.stamp_stamp, pends.reads.rows,
    pends.reads.lastOffset, Nat.max_eq_right longer, List.flatMap_append, List.flatMap_append,
    List.foldl_append]

theorem carries_rows (sessions : SessionTables) (settled : base.tables.Settled (fileLegacy job)) :
    Carries job (TimescaleStore.flushLegacy sessions) (Synced job base) (Pends job) where
  lines _ _ _ synced := synced.lines
  start before count := ⟨⟨rfl, by simp⟩, ⟨rfl, rfl, rfl⟩⟩
  read progress next before pending line _ _ _ _ pends fresh position read := by
    refine ⟨pends.reads.readLine fresh position read, ?_⟩
    rw [List.flatMap_append, List.flatMap_singleton]
    exact readLine_legacy pends.gathers fresh read
  commits _ _ _ _ _ synced pends := synced.commit settled pends

theorem attempts_synced (sessions : SessionTables) (settled : base.tables.Settled (fileLegacy job))
    (new : base.tables.cursor = 0) (attempts : List Attempt) {store : TimescaleStore}
    {before after : List Bytes} (synced : Synced job base store before after) :
    ∃ before' after', Synced job base (attempts.foldl (attempt job sessions) store) before' after' := by
  induction attempts generalizing store before after with
  | nil => exact ⟨before, after, synced⟩
  | cons next attempts ih =>
    obtain ⟨before', after', killed⟩ := ((carries_rows sessions settled).importPath synced
      (synced.cursor new) next.resume next.batchRows).1 next.committed
    exact ih killed

/-- A run that completes after any others leaves every row written on its own. -/
theorem completed_rows (settled : base.tables.Settled (fileLegacy job))
    (new : base.tables.cursor = 0) (attempts : List Attempt) (resume : Bool) (batchRows : Nat)
    {final : TimescaleStore}
    (completed : complete job sessions resume batchRows
      (attempts.foldl (attempt job sessions) base) = some final) :
    Synced job base final (readLines job.content) [] := by
  have fresh : Synced job base base [] (readLines job.content) := ⟨rfl, by simp⟩
  obtain ⟨before, after, synced⟩ := attempts_synced sessions settled new attempts fresh
  have arrived := (carries_rows sessions settled).importPath synced
    (synced.cursor new) resume batchRows
  unfold complete at completed
  dsimp only at completed
  split at completed
  · rename_i finished
    cases completed
    exact arrived.2 finished
  · cases completed

/-- Runs that complete, each after runs that were killed, leave the same laps with their pit
statuses, and the same sectors. -/
def Independent (job : Job) (sessions : SessionTables) (base : TimescaleStore) : Prop :=
  ∀ (attempts others : List Attempt) (resume resume' : Bool) (batchRows batchRows' : Nat)
      (final final' : TimescaleStore),
    complete job sessions resume batchRows (attempts.foldl (attempt job sessions) base) =
        some final →
      complete job sessions resume' batchRows' (others.foldl (attempt job sessions) base) =
          some final' →
        final.tables.laps = final'.tables.laps ∧ final.tables.lapSectors = final'.tables.lapSectors

/-- Where every row finds the lap that it would find with the later laps, neither the batches
nor the runs that were killed matter. -/
theorem mixed_dump_independent (job : Job) (sessions : SessionTables) (base : TimescaleStore)
    (new : base.tables.cursor = 0) (settled : base.tables.Settled (fileLegacy job)) :
    Independent job sessions base := by
  intro attempts others resume resume' batchRows batchRows' final final' completed completed'
  rw [(completed_rows settled new attempts resume batchRows completed).rows,
    (completed_rows settled new others resume' batchRows' completed').rows]
  exact ⟨rfl, rfl⟩

def mixedDump (text : String) : Job where
  content := encodeUtf8 text
  vehicleId := "car1"
  sinceNs := none
  untilNs := none
  mapping := ⟨Dict.empty, Dict.empty, Dict.empty⟩
  literals := LineProtocol.decimal
  upper := id
  channelKey := fun _ => 0

/-- A sector after its lap. -/
def lapFirst : Job := mixedDump
  ("x a=1 1\nlap,crossed_line=StartFinish,lap_number=2 last_lap_time=9 9000\n" ++
    "lap,crossed_line=Sector1 sector_time=2 2000\n")

theorem mixed_dump_independent_lapFirst : Independent lapFirst ⟨[], []⟩ newStore := by
  refine mixed_dump_independent lapFirst ⟨[], []⟩ newStore rfl ?_
  have rows : fileLegacy lapFirst =
      [.lap ⟨"car1", none, none, none, 2, 9, some (.finite (Binary64.round (9 / 1000))), true, none, none,
          []⟩,
        .sector ⟨"car1", none, 1, .finite (Binary64.round (2 / 1000)), 2⟩] := by decide +kernel
  rw [rows]
  exact ⟨fun _ _ => trivial, fun _ member => absurd member List.not_mem_nil, trivial⟩

/-- A sector before its lap is lost where a flush comes between them. -/
theorem sector_before_lap_lost :
    let dump := mixedDump ("x a=1 1\nlap,crossed_line=Sector1 sector_time=2 2000\n" ++
      "lap,crossed_line=StartFinish,lap_number=2 last_lap_time=9 9000\n")
    ((complete dump ⟨[], []⟩ false 1 newStore).map fun store => store.tables.lapSectors.entries) =
        some [] ∧
      ((complete dump ⟨[], []⟩ false 5000 newStore).map fun store => store.tables.lapSectors.entries) =
        some [((1, 1), (some (.finite (Binary64.round (2 / 1000))), 2))] := by
  decide +kernel

end Mixed

end OpenLaps.LegacyImport

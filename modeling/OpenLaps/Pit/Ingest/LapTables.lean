import OpenLaps.Lib.Commuting
import OpenLaps.Pit.Ingest.LapRows
import OpenLaps.Pit.Ingest.Store

/- The tables that the flushes of the ingest writer leave (`TimescaleStore.flush`), and the
order in which laps and pit updates may reach them. -/
namespace OpenLaps.Ingest

/-- A row of `laps`. Its key is the unique `(vehicle_id, crossed_at)`. -/
structure LapRecord where
  lapId : Nat
  sessionId : Option String
  stintId : Option Int
  trackName : Option String
  lapNumber : Int
  lapTimeS : Option PyFloat
  valid : Bool
  pitStatus : Option String
  direction : Option String
  deriving DecidableEq, Repr

abbrev LapTable := Dict (String × Int) LapRecord

/-- The tables, with the next value of the identity column of `laps`. Rows of `lap_sectors`
are split time and crossing time under `(lap_id, sector)`. -/
structure Tables where
  samples : List SampleRow
  laps : LapTable
  lapSectors : Dict (Nat × Int) (Option PyFloat × Int)
  cursor : Nat
  nextLapId : Nat

namespace Tables

/-- `_UPSERT_LAP`. A conflict also uses up a value of the identity column. -/
def upsertLap (tables : Tables) (lap : LapRow) (sessionId : Option String)
    (stintId : Option Int) : Tables × Nat :=
  let key := (lap.vehicleId, lap.crossedAt)
  let lapId := ((tables.laps.get? key).map LapRecord.lapId).getD tables.nextLapId
  ({ tables with
      laps := tables.laps.set key ⟨lapId, sessionId, stintId, lap.trackName, lap.lapNumber,
        lap.lapTimeS, lap.valid, lap.pitStatus, lap.direction⟩
      nextLapId := tables.nextLapId + 1 }, lapId)

/-- `_UPSERT_SECTOR`. -/
def upsertSector (lapId : Nat) (tables : Tables) (sector : SectorRow) : Tables :=
  let row := (sector.splitTimeS, sector.crossedAt)
  { tables with lapSectors := tables.lapSectors.set (lapId, sector.sector) row }

/-- The crossing time of the latest lap of a vehicle at a time. -/
def latestAt (laps : LapTable) (vehicleId : String) (time : Int) : Option Int :=
  ((laps.keys.filter fun key => key.1 = vehicleId ∧ key.2 ≤ time).map Prod.snd).max?

/-- The rows of `laps` after `_UPDATE_PIT_STATUS`. -/
def marked (laps : LapTable) (update : PitStatusUpdate) : LapTable :=
  match latestAt laps update.vehicleId update.time with
  | none => laps
  | some crossedAt =>
    match laps.get? (update.vehicleId, crossedAt) with
    | none => laps
    | some lap => laps.set (update.vehicleId, crossedAt)
        { lap with pitStatus := some update.pitStatus }

def updatePitStatus (tables : Tables) (update : PitStatusUpdate) : Tables :=
  { tables with laps := marked tables.laps update }

/-- A lap with its session and its sectors. -/
def writeLap (tables : Tables) (lap : LapRow) (sessionId : Option String) (stintId : Option Int) :
    Tables :=
  let upserted := tables.upsertLap lap sessionId stintId
  lap.sectors.foldl (upsertSector upserted.2) upserted.1

/-- The samples and the cursor of a flush. -/
def stamp (tables : Tables) (rows : List SampleRow) (streamSeq : Nat) : Tables :=
  { tables with
    samples := tables.samples ++ rows
    cursor := upsertCursor tables.cursor streamSeq }

end Tables

/-- The tables of session-control, as the writer reads them. -/
structure SessionTables where
  sessions : List String
  stints : List ((String × Int) × Int)

/-- What a `TimescaleStore` remembers of them. -/
structure SessionCache where
  sessionsSeen : List String
  stints : Dict (String × Int) Int

/-- `_resolve_session`. -/
def SessionCache.resolveSession (sessions : SessionTables) (cache : SessionCache) (lap : LapRow) :
    SessionCache × Option String × Option Int :=
  match lap.sessionId with
  | none => (cache, none, none)
  | some sessionId =>
    if sessionId ∉ cache.sessionsSeen ∧ sessionId ∉ sessions.sessions then (cache, none, none)
    else
      let cache := if sessionId ∈ cache.sessionsSeen then cache
        else { cache with sessionsSeen := sessionId :: cache.sessionsSeen }
      match lap.stintNumber with
      | none => (cache, some sessionId, none)
      | some stintNumber =>
        match cache.stints.get? (sessionId, stintNumber),
            sessions.stints.lookup (sessionId, stintNumber) with
        | some cached, _ => (cache, some sessionId, some cached)
        | none, none => (cache, some sessionId, none)
        | none, some stintId =>
          ({ cache with stints := cache.stints.set (sessionId, stintNumber) stintId },
            some sessionId, some stintId)

/-- A `TimescaleStore`: its caches and the database behind it. -/
structure TimescaleStore where
  cache : SessionCache
  tables : Tables

namespace TimescaleStore

variable (sessions : SessionTables)

/-- `_write_lap`. -/
def writeLap (store : TimescaleStore) (lap : LapRow) : TimescaleStore :=
  let resolved := store.cache.resolveSession sessions lap
  ⟨resolved.1, store.tables.writeLap lap resolved.2.1 resolved.2.2⟩

def updatePitStatus (store : TimescaleStore) (update : PitStatusUpdate) : TimescaleStore :=
  { store with tables := store.tables.updatePitStatus update }

/-- `TimescaleStore.flush`: the laps before the pit updates, whatever their order was. -/
def flush (store : TimescaleStore) (transaction : Transaction) : TimescaleStore :=
  let store := transaction.laps.foldl (writeLap sessions) store
  let store := transaction.pitUpdates.foldl updatePitStatus store
  { store with tables := store.tables.stamp (transaction.rows.map Prod.snd) transaction.streamSeq }

/-- One crossing written on its own. -/
def writeCrossing (store : TimescaleStore) : Materialised → TimescaleStore
  | .lap row => store.writeLap sessions row
  | .pit update => store.updatePitStatus update

end TimescaleStore

namespace Tables

theorem latestAt_le {laps : LapTable} {vehicleId : String} {time crossedAt : Int}
    (latest : latestAt laps vehicleId time = some crossedAt) : crossedAt ≤ time := by
  have member := List.max?_mem latest
  simp only [List.mem_map, List.mem_filter, decide_eq_true_eq] at member
  obtain ⟨key, ⟨_, _, within⟩, rfl⟩ := member
  exact within

variable {laps : LapTable} {update : PitStatusUpdate} {key : String × Int}

theorem latestAt_set (vehicleId : String) {time : Int} (lap : LapRecord) (later : time < key.2) :
    latestAt (laps.set key lap) vehicleId time = latestAt laps vehicleId time := by
  unfold latestAt
  congr 2
  by_cases present : key ∈ laps.keys
  · have same : (laps.set key lap).keys = laps.keys :=
      Dict.assign_present laps.entries key lap present
    rw [same]
  · have fresh : (laps.set key lap).keys = laps.keys ++ [key] := by
      simp [Dict.keys, Dict.entries_set laps key lap present]
    have outside : ¬(key.1 = vehicleId ∧ key.2 ≤ time) := by omega
    simp [fresh, outside]

theorem apart_of_later {crossedAt : Int}
    (latest : latestAt laps update.vehicleId update.time = some crossedAt)
    (later : update.time < key.2) : (update.vehicleId, crossedAt) ≠ key := by
  have within := latestAt_le latest
  intro same
  have time : crossedAt = key.2 := congrArg Prod.snd same
  omega

/-- A pit update leaves the rows of later laps alone. -/
theorem marked_get? (later : update.time < key.2) :
    (marked laps update).get? key = laps.get? key := by
  unfold marked
  cases latest : latestAt laps update.vehicleId update.time with
  | none => rfl
  | some crossedAt =>
    cases found : laps.get? (update.vehicleId, crossedAt) with
    | none => simp [found]
    | some lap => simp [found, Dict.get?_set, apart_of_later latest later]

/-- A later lap leaves alone which row a pit update finds. -/
theorem marked_set (lap : LapRecord) (later : update.time < key.2) :
    marked (laps.set key lap) update = (marked laps update).set key lap := by
  unfold marked
  rw [latestAt_set update.vehicleId lap later]
  cases latest : latestAt laps update.vehicleId update.time with
  | none => rfl
  | some crossedAt =>
    have apart := apart_of_later latest later
    simp only [Dict.get?_set, Ne.symm apart, if_false]
    cases found : laps.get? (update.vehicleId, crossedAt) with
    | none => rfl
    | some row =>
      have present : (update.vehicleId, crossedAt) ∈ laps.keys := by
        by_contra absent
        rw [← Dict.get?_eq_none] at absent
        simp [absent] at found
      exact (Dict.set_comm laps _ _ apart present).symm

theorem foldl_upsertSector (lapId : Nat) (sectors : List SectorRow) (tables : Tables) :
    sectors.foldl (upsertSector lapId) tables = { tables with
      lapSectors := sectors.foldl (fun dict sector => dict.set (lapId, sector.sector)
        (sector.splitTimeS, sector.crossedAt)) tables.lapSectors } := by
  induction sectors generalizing tables with
  | nil => rfl
  | cons sector sectors ih => rw [List.foldl_cons, ih]; rfl

theorem writeLap_updatePitStatus (tables : Tables) {lap : LapRow} (sessionId : Option String)
    (stintId : Option Int) (later : update.time < lap.crossedAt) :
    (tables.updatePitStatus update).writeLap lap sessionId stintId =
      (tables.writeLap lap sessionId stintId).updatePitStatus update := by
  have key : update.time < (lap.vehicleId, lap.crossedAt).2 := later
  simp only [writeLap, upsertLap, updatePitStatus, foldl_upsertSector, marked_get? key,
    marked_set _ key]

theorem writeLap_stamp (tables : Tables) (lap : LapRow) (sessionId : Option String)
    (stintId : Option Int) (rows : List SampleRow) (streamSeq : Nat) :
    (tables.stamp rows streamSeq).writeLap lap sessionId stintId =
      (tables.writeLap lap sessionId stintId).stamp rows streamSeq := by
  simp only [writeLap, upsertLap, stamp, foldl_upsertSector]

theorem stamp_stamp (tables : Tables) (rows rows' : List SampleRow) (streamSeq streamSeq' : Nat) :
    (tables.stamp rows streamSeq).stamp rows' streamSeq' =
      tables.stamp (rows ++ rows') (max streamSeq streamSeq') := by
  simp [stamp, upsertCursor_eq, max_assoc]

end Tables

namespace TimescaleStore

variable {sessions : SessionTables}

def stamp (store : TimescaleStore) (rows : List SampleRow) (streamSeq : Nat) : TimescaleStore :=
  { store with tables := store.tables.stamp rows streamSeq }

theorem stamp_stamp (store : TimescaleStore) (rows rows' : List SampleRow)
    (streamSeq streamSeq' : Nat) :
    (store.stamp rows streamSeq).stamp rows' streamSeq' =
      store.stamp (rows ++ rows') (max streamSeq streamSeq') := by
  simp [stamp, Tables.stamp_stamp]

/-- Samples and cursor do not meddle with the lap tables. -/
theorem writeCrossing_stamp (store : TimescaleStore) (crossings : List Materialised)
    (rows : List SampleRow) (streamSeq : Nat) :
    crossings.foldl (writeCrossing sessions) (store.stamp rows streamSeq) =
      (crossings.foldl (writeCrossing sessions) store).stamp rows streamSeq := by
  induction crossings generalizing store with
  | nil => rfl
  | cons crossing rest ih =>
    rw [List.foldl_cons, List.foldl_cons, ← ih]
    congr 1
    cases crossing with
    | lap row => simp [writeCrossing, writeLap, stamp, Tables.writeLap_stamp]
    | pit update => rfl

end TimescaleStore

def Materialised.time : Materialised → Int
  | .lap row => row.crossedAt
  | .pit update => update.time

def Materialised.isLap : Materialised → Bool
  | .lap _ => true
  | .pit _ => false

/-- The pit updates among what was materialised. -/
def pitStatusUpdates (rows : List Materialised) : List PitStatusUpdate :=
  rows.filterMap fun
    | .lap _ => none
    | .pit update => some update

theorem pitStatusUpdates_append (first second : List Materialised) :
    pitStatusUpdates (first ++ second) = pitStatusUpdates first ++ pitStatusUpdates second :=
  List.filterMap_append

namespace TimescaleStore

variable {sessions : SessionTables}

theorem foldl_laps (crossings : List Materialised) (store : TimescaleStore) :
    (lapRows crossings).foldl (writeLap sessions) store =
      (crossings.filter Materialised.isLap).foldl (writeCrossing sessions) store := by
  induction crossings generalizing store with
  | nil => rfl
  | cons crossing rest ih =>
    cases crossing with
    | lap row => exact ih (store.writeLap sessions row)
    | pit update => exact ih store

theorem foldl_pitStatusUpdates (crossings : List Materialised) (store : TimescaleStore) :
    (pitStatusUpdates crossings).foldl updatePitStatus store =
      (crossings.filter fun crossing => !crossing.isLap).foldl (writeCrossing sessions) store := by
  induction crossings generalizing store with
  | nil => rfl
  | cons crossing rest ih =>
    cases crossing with
    | lap row => exact ih store
    | pit update => exact ih (store.updatePitStatus update)

/-- Laps before pit updates is as good as the order of the stream: a lap that passes a pit
update was crossed after it. -/
theorem flush_eq {crossings : List Materialised}
    (increasing : (crossings.map Materialised.time).Pairwise (· < ·)) (store : TimescaleStore)
    (rows : List (Nat × SampleRow)) (streamSeq : Nat) :
    store.flush sessions ⟨rows, lapRows crossings, pitStatusUpdates crossings, streamSeq⟩ =
      (crossings.foldl (writeCrossing sessions) store).stamp (rows.map Prod.snd) streamSeq := by
  have swap : crossings.Pairwise fun first second => first.isLap = false → second.isLap = true →
      Commuting.Commutes (writeCrossing sessions) first second := by
    rw [List.pairwise_map] at increasing
    refine increasing.imp fun {first second} before pit lap store => ?_
    cases first with
    | lap row => simp [Materialised.isLap] at pit
    | pit update =>
      cases second with
      | pit update => simp [Materialised.isLap] at lap
      | lap row =>
        simp [writeCrossing, writeLap, updatePitStatus,
          Tables.writeLap_updatePitStatus _ _ _ before]
  rw [Commuting.foldl_early Materialised.isLap swap, ← foldl_laps, ← foldl_pitStatusUpdates]
  rfl

end TimescaleStore

end OpenLaps.Ingest

import OpenLaps.Tools.LegacyLapDump

/- When the laps of a flush may be written before its sectors and pit updates: every row finds
the lap that it would find with the laps after it. -/
namespace OpenLaps.Ingest
open LegacyImport

namespace Tables

/-! ### The first lap from a time on -/

/-- A lap on the track at or after the time. -/
def Candidate (laps : LapTable) (row : LegacySectorRow) (crossedAt : Int) : Prop :=
  row.crossedAt ≤ crossedAt ∧
    ∃ lap, laps.get? (row.vehicleId, crossedAt) = some lap ∧ lap.trackName = row.trackName

/-- `firstFrom` for a sector. -/
def target (laps : LapTable) (row : LegacySectorRow) : Option Int :=
  firstFrom laps row.vehicleId row.trackName row.crossedAt

variable {laps : LapTable} {row : LegacySectorRow} {crossedAt : Int}

theorem mem_candidates :
    crossedAt ∈ ((laps.entries.filter fun (key, lap) => key.1 = row.vehicleId ∧
      lap.trackName = row.trackName ∧ row.crossedAt ≤ key.2).map fun entry => entry.1.2) ↔
        Candidate laps row crossedAt := by
  rw [List.mem_map]
  constructor
  · rintro ⟨⟨⟨vehicle, time⟩, lap⟩, listed, rfl⟩
    obtain ⟨inside, fits⟩ := List.mem_filter.mp listed
    obtain ⟨rfl, track, later⟩ := of_decide_eq_true fits
    exact ⟨later, lap, (laps.get?_eq_some _ _).mpr inside, track⟩
  · rintro ⟨later, lap, found, track⟩
    refine ⟨((row.vehicleId, crossedAt), lap), List.mem_filter.mpr ⟨?_, ?_⟩, rfl⟩
    · exact (laps.get?_eq_some _ _).mp found
    · exact decide_eq_true ⟨rfl, track, later⟩

theorem target_eq_some :
    target laps row = some crossedAt ↔
      Candidate laps row crossedAt ∧ ∀ other, Candidate laps row other → crossedAt ≤ other := by
  rw [target, firstFrom, List.min?_eq_some_iff, mem_candidates]
  refine and_congr_right fun _ => ?_
  exact ⟨fun least other candidate => least other (mem_candidates.mpr candidate),
    fun least other member => least other (mem_candidates.mp member)⟩

theorem target_eq_none : target laps row = none ↔ ∀ other, ¬ Candidate laps row other := by
  rw [target, firstFrom, List.min?_eq_none_iff, List.eq_nil_iff_forall_not_mem]
  exact ⟨fun none other candidate => none other (mem_candidates.mpr candidate),
    fun none other member => none other (mem_candidates.mp member)⟩

/-- Only what can be seen of the laps matters. -/
theorem target_congr {laps' : LapTable}
    (same : ∀ other, Candidate laps' row other ↔ Candidate laps row other) :
    target laps' row = target laps row := by
  cases found : target laps row with
  | none =>
    rw [target_eq_none] at found ⊢
    exact fun other candidate => found other ((same other).mp candidate)
  | some crossedAt =>
    rw [target_eq_some] at found ⊢
    refine ⟨(same crossedAt).mpr found.1, ?_⟩
    exact fun other candidate => found.2 other ((same other).mp candidate)

/-- A lap leaves alone which lap a sector finds. -/
def SectorKept (laps : LapTable) (row : LegacySectorRow) (lap : LapRow) : Prop :=
  lap.vehicleId = row.vehicleId → row.crossedAt ≤ lap.crossedAt →
    if lap.trackName = row.trackName then ∃ first ∈ target laps row, first ≤ lap.crossedAt
    else target laps row ≠ some lap.crossedAt

instance (laps : LapTable) (row : LegacySectorRow) (lap : LapRow) :
    Decidable (SectorKept laps row lap) := by
  unfold SectorKept
  infer_instance

/-- A lap leaves alone which lap a pit update finds, and that lap. -/
def PitKept (laps : LapTable) (update : PitStatusUpdate) (lap : LapRow) : Prop :=
  lap.vehicleId = update.vehicleId → lap.crossedAt ≤ update.time →
    ∃ latest ∈ latestAt laps update.vehicleId update.time, lap.crossedAt < latest

instance (laps : LapTable) (update : PitStatusUpdate) (lap : LapRow) :
    Decidable (PitKept laps update lap) := by
  unfold PitKept
  infer_instance

theorem candidate_set {key : String × Int} {record : LapRecord} :
    Candidate (laps.set key record) row crossedAt ↔
      if key = (row.vehicleId, crossedAt) then
        row.crossedAt ≤ crossedAt ∧ record.trackName = row.trackName
      else Candidate laps row crossedAt := by
  unfold Candidate
  rw [Dict.get?_set]
  split
  · refine and_congr_right fun _ => ?_
    exact ⟨by rintro ⟨lap, ⟨⟩, track⟩; exact track, fun track => ⟨record, rfl, track⟩⟩
  · exact Iff.rfl

theorem target_set {lap : LapRow} {record : LapRecord} (kept : SectorKept laps row lap)
    (track : record.trackName = lap.trackName) :
    target (laps.set (lap.vehicleId, lap.crossedAt) record) row = target laps row := by
  by_cases near : lap.vehicleId = row.vehicleId ∧ row.crossedAt ≤ lap.crossedAt
  · obtain ⟨vehicle, later⟩ := near
    have kept := kept vehicle later
    have old {other : Int} (candidate :
        Candidate (laps.set (lap.vehicleId, lap.crossedAt) record) row other) :
          (other = lap.crossedAt ∧ lap.trackName = row.trackName) ∨ Candidate laps row other := by
      rw [candidate_set] at candidate
      split at candidate
      · rename_i same
        exact .inl ⟨(congrArg Prod.snd same).symm, track.symm.trans candidate.2⟩
      · exact .inr candidate
    split at kept
    · rename_i shared
      obtain ⟨first, found, least⟩ := kept
      rw [Option.mem_def] at found
      rw [found]
      rw [target_eq_some] at found ⊢
      refine ⟨?_, ?_⟩
      · rw [candidate_set]
        split
        · exact ⟨found.1.1, track.trans shared⟩
        · exact found.1
      · intro other candidate
        rcases old candidate with ⟨rfl, _⟩ | there
        · exact least
        · exact found.2 other there
    · rename_i apart
      have there {other : Int} (candidate :
          Candidate (laps.set (lap.vehicleId, lap.crossedAt) record) row other) :
            Candidate laps row other := (old candidate).resolve_left fun both => apart both.2
      cases found : target laps row with
      | none =>
        rw [target_eq_none] at found ⊢
        exact fun other candidate => found other (there candidate)
      | some first =>
        have other : first ≠ lap.crossedAt := by
          rintro rfl
          exact kept found
        rw [target_eq_some] at found ⊢
        refine ⟨?_, fun other candidate => found.2 other (there candidate)⟩
        rw [candidate_set, if_neg fun same => other (congrArg Prod.snd same).symm]
        exact found.1
  · refine target_congr fun other => ?_
    rw [candidate_set]
    split
    · rename_i same
      have vehicle : lap.vehicleId = row.vehicleId := congrArg Prod.fst same
      have time : lap.crossedAt = other := congrArg Prod.snd same
      have early : ¬ row.crossedAt ≤ other := fun later => near ⟨vehicle, time ▸ later⟩
      exact iff_of_false (fun both => early both.1) (fun both => early both.1)
    · exact Iff.rfl

/-! ### The latest lap up to a time -/

theorem mem_latest {vehicleId : String} {time : Int} :
    crossedAt ∈ ((laps.keys.filter fun key => key.1 = vehicleId ∧ key.2 ≤ time).map Prod.snd) ↔
      (vehicleId, crossedAt) ∈ laps.keys ∧ crossedAt ≤ time := by
  rw [List.mem_map]
  constructor
  · rintro ⟨⟨vehicle, other⟩, listed, rfl⟩
    obtain ⟨inside, fits⟩ := List.mem_filter.mp listed
    obtain ⟨rfl, early⟩ := of_decide_eq_true fits
    exact ⟨inside, early⟩
  · rintro ⟨inside, early⟩
    exact ⟨(vehicleId, crossedAt), List.mem_filter.mpr ⟨inside, decide_eq_true ⟨rfl, early⟩⟩, rfl⟩

theorem latestAt_eq_some {vehicleId : String} {time : Int} :
    latestAt laps vehicleId time = some crossedAt ↔
      ((vehicleId, crossedAt) ∈ laps.keys ∧ crossedAt ≤ time) ∧
        ∀ other, (vehicleId, other) ∈ laps.keys → other ≤ time → other ≤ crossedAt := by
  rw [latestAt, List.max?_eq_some_iff, mem_latest]
  refine and_congr_right fun _ => ?_
  exact ⟨fun last other inside early => last other (mem_latest.mpr ⟨inside, early⟩),
    fun last other member => last other (mem_latest.mp member).1 (mem_latest.mp member).2⟩

theorem latestAt_eq_none {vehicleId : String} {time : Int} :
    latestAt laps vehicleId time = none ↔ ∀ other, (vehicleId, other) ∈ laps.keys → ¬ other ≤ time := by
  rw [latestAt, List.max?_eq_none_iff, List.eq_nil_iff_forall_not_mem]
  exact ⟨fun none other inside early => none other (mem_latest.mpr ⟨inside, early⟩),
    fun none other member => none other (mem_latest.mp member).1 (mem_latest.mp member).2⟩

theorem mem_keys_set {key other : String × Int} {record : LapRecord} :
    other ∈ (laps.set key record).keys ↔ key = other ∨ other ∈ laps.keys := by
  rw [← Dict.contains_iff, ← Dict.contains_iff, Dict.contains, Dict.contains, Dict.get?_set]
  split
  · rename_i same
    exact iff_of_true rfl (.inl same)
  · rename_i apart
    rw [or_iff_right apart]

theorem latestAt_kept {update : PitStatusUpdate} {lap : LapRow} {record : LapRecord}
    (kept : PitKept laps update lap) :
    latestAt (laps.set (lap.vehicleId, lap.crossedAt) record) update.vehicleId update.time =
      latestAt laps update.vehicleId update.time := by
  have bounded {other : Int}
      (inside : (update.vehicleId, other) ∈ (laps.set (lap.vehicleId, lap.crossedAt) record).keys)
      (early : other ≤ update.time) :
      (∃ latest ∈ latestAt laps update.vehicleId update.time, other < latest) ∨
        (update.vehicleId, other) ∈ laps.keys := by
    rcases mem_keys_set.mp inside with same | there
    · have vehicle : lap.vehicleId = update.vehicleId := congrArg Prod.fst same
      have time : lap.crossedAt = other := congrArg Prod.snd same
      exact .inl (time ▸ kept vehicle (time ▸ early))
    · exact .inr there
  cases found : latestAt laps update.vehicleId update.time with
  | none =>
    rw [found] at bounded
    rw [latestAt_eq_none] at found ⊢
    intro other inside early
    rcases bounded inside early with ⟨latest, impossible, _⟩ | there
    · cases impossible
    · exact found other there early
  | some latest =>
    rw [found] at bounded
    rw [latestAt_eq_some] at found ⊢
    refine ⟨⟨mem_keys_set.mpr (.inr found.1.1), found.1.2⟩, ?_⟩
    intro other inside early
    rcases bounded inside early with ⟨same, found', less⟩ | there
    · cases found'
      exact less.le
    · exact found.2 other there early

/-! ### Passing a lap -/

section Passing

variable {update : PitStatusUpdate} {lap : LapRow} {record : LapRecord}

theorem apart_of_kept (kept : PitKept laps update lap) {latest : Int}
    (found : latestAt laps update.vehicleId update.time = some latest) :
    (update.vehicleId, latest) ≠ (lap.vehicleId, lap.crossedAt) := by
  intro same
  have vehicle : update.vehicleId = lap.vehicleId := congrArg Prod.fst same
  have time : latest = lap.crossedAt := congrArg Prod.snd same
  obtain ⟨other, found', less⟩ := kept vehicle.symm (time ▸ latestAt_le found)
  rw [found, Option.mem_some_iff] at found'
  omega

theorem marked_get?_kept (kept : PitKept laps update lap) :
    (marked laps update).get? (lap.vehicleId, lap.crossedAt) =
      laps.get? (lap.vehicleId, lap.crossedAt) := by
  unfold marked
  cases latest : latestAt laps update.vehicleId update.time with
  | none => rfl
  | some crossedAt =>
    cases found : laps.get? (update.vehicleId, crossedAt) with
    | none => simp [found]
    | some row => simp [found, Dict.get?_set, apart_of_kept kept latest]

theorem marked_set_kept (kept : PitKept laps update lap) :
    marked (laps.set (lap.vehicleId, lap.crossedAt) record) update =
      (marked laps update).set (lap.vehicleId, lap.crossedAt) record := by
  unfold marked
  rw [latestAt_kept kept]
  cases latest : latestAt laps update.vehicleId update.time with
  | none => rfl
  | some crossedAt =>
    have apart := apart_of_kept kept latest
    simp only [Dict.get?_set, Ne.symm apart, if_false]
    cases found : laps.get? (update.vehicleId, crossedAt) with
    | none => rfl
    | some row => exact (Dict.set_comm laps _ _ apart (Dict.mem_keys found)).symm

/-- A lap without session and sectors. -/
def writeLegacyLap (tables : Tables) (lap : LapRow) : Tables := (tables.upsertLap lap none none).1

theorem writeLegacyLap_updatePitStatus {tables : Tables} (kept : PitKept tables.laps update lap) :
    (tables.updatePitStatus update).writeLegacyLap lap =
      (tables.writeLegacyLap lap).updatePitStatus update := by
  simp only [writeLegacyLap, upsertLap, updatePitStatus, marked_get?_kept kept, marked_set_kept kept]

theorem sectorLap_writeLegacyLap {tables : Tables} (kept : SectorKept tables.laps row lap) :
    sectorLap (tables.writeLegacyLap lap).laps row = sectorLap tables.laps row := by
  show (target (tables.laps.set _ _) row).bind _ = (target tables.laps row).bind _
  rw [target_set kept rfl]
  cases found : target tables.laps row with
  | none => rfl
  | some first =>
    rw [Option.bind_some, Option.bind_some, writeLegacyLap, upsertLap, Dict.get?_set]
    split
    · rename_i same
      obtain ⟨old, there, _⟩ := (target_eq_some.mp found).1.2
      rw [← same] at there ⊢
      simp [there]
    · rfl

theorem writeLegacyLap_upsertLegacySector {tables : Tables} (kept : SectorKept tables.laps row lap) :
    (tables.upsertLegacySector row).writeLegacyLap lap =
      (tables.writeLegacyLap lap).upsertLegacySector row := by
  unfold upsertLegacySector
  rw [sectorLap_writeLegacyLap kept]
  cases sectorLap tables.laps row <;> rfl

/-- A pit update keeps what can be seen of a lap without its pit status. -/
theorem marked_view {α : Type} (view : LapRecord → α)
    (blind : ∀ lap status, view { lap with pitStatus := status } = view lap) (laps : LapTable)
    (update : PitStatusUpdate) (key : String × Int) :
    ((marked laps update).get? key).map view = (laps.get? key).map view := by
  unfold marked
  cases latestAt laps update.vehicleId update.time with
  | none => rfl
  | some crossedAt =>
    cases found : laps.get? (update.vehicleId, crossedAt) with
    | none => simp [found]
    | some lap =>
      simp only [found, Dict.get?_set]
      split
      · rename_i same
        rw [← same, found, Option.map_some, Option.map_some, blind]
      · rfl

theorem candidate_marked (laps : LapTable) (update : PitStatusUpdate) (crossedAt : Int) :
    Candidate (marked laps update) row crossedAt ↔ Candidate laps row crossedAt := by
  have seen (table : LapTable) : Candidate table row crossedAt ↔ row.crossedAt ≤ crossedAt ∧
      (table.get? (row.vehicleId, crossedAt)).map LapRecord.trackName = some row.trackName := by
    unfold Candidate
    cases table.get? (row.vehicleId, crossedAt) <;> simp
  rw [seen, seen, marked_view LapRecord.trackName fun _ _ => rfl]

theorem sectorLap_marked (laps : LapTable) (update : PitStatusUpdate) :
    sectorLap (marked laps update) row = sectorLap laps row := by
  have same : target (marked laps update) row = target laps row :=
    target_congr fun other => candidate_marked laps update other
  show (target _ row).bind _ = (target _ row).bind _
  rw [same]
  congr 1
  funext crossedAt
  exact marked_view LapRecord.lapId (fun _ _ => rfl) laps update (row.vehicleId, crossedAt)

theorem upsertLegacySector_updatePitStatus (tables : Tables) :
    (tables.updatePitStatus update).upsertLegacySector row =
      (tables.upsertLegacySector row).updatePitStatus update := by
  have moved : (tables.updatePitStatus update).laps = marked tables.laps update := rfl
  unfold upsertLegacySector
  rw [moved, sectorLap_marked]
  cases sectorLap tables.laps row <;> rfl

end Passing

/-! ### Batches -/

/-- One row written on its own. -/
def writeRow (tables : Tables) : LegacyRow → Tables
  | .lap row => tables.writeLegacyLap row
  | .sector row => tables.upsertLegacySector row
  | .pit update => tables.updatePitStatus update

/-- The lap of a row. -/
def lapOf : LegacyRow → Option LapRow
  | .lap row => some row
  | _ => none

def sectorOf : LegacyRow → Option LegacySectorRow
  | .sector row => some row
  | _ => none

def pitOf : LegacyRow → Option PitStatusUpdate
  | .pit update => some update
  | _ => none

/-- No later lap of the rows changes which lap a sector or a pit update finds. -/
def Kept (laps : LapTable) : LegacyRow → LapRow → Prop
  | .lap _, _ => True
  | .sector row, lap => SectorKept laps row lap
  | .pit update, lap => PitKept laps update lap

/-- Every row finds the lap that it would find with the laps after it. -/
def Settled : Tables → List LegacyRow → Prop
  | _, [] => True
  | tables, row :: rest =>
    (∀ lap ∈ rest.filterMap lapOf, Kept tables.laps row lap) ∧ Settled (tables.writeRow row) rest

/-- The laps, the sectors and the pit updates of a flush. -/
def flushRows (tables : Tables) (laps : List LapRow) (sectors : List LegacySectorRow)
    (pitUpdates : List PitStatusUpdate) : Tables :=
  pitUpdates.foldl updatePitStatus
    (sectors.foldl upsertLegacySector (laps.foldl writeLegacyLap tables))

theorem foldl_laps_sector {row : LegacySectorRow} {later : List LapRow} {tables : Tables}
    (kept : ∀ lap ∈ later, SectorKept tables.laps row lap) :
    later.foldl writeLegacyLap (tables.upsertLegacySector row) =
      (later.foldl writeLegacyLap tables).upsertLegacySector row := by
  induction later generalizing tables with
  | nil => rfl
  | cons lap rest ih =>
    have here := kept lap List.mem_cons_self
    rw [List.foldl_cons, List.foldl_cons, writeLegacyLap_upsertLegacySector here]
    apply ih
    intro other member
    have same : target (tables.writeLegacyLap lap).laps row = target tables.laps row :=
      target_set here rfl
    have there := kept other (List.mem_cons_of_mem lap member)
    unfold SectorKept at there ⊢
    rwa [same]

theorem foldl_laps_pit {update : PitStatusUpdate} {later : List LapRow} {tables : Tables}
    (kept : ∀ lap ∈ later, PitKept tables.laps update lap) :
    later.foldl writeLegacyLap (tables.updatePitStatus update) =
      (later.foldl writeLegacyLap tables).updatePitStatus update := by
  induction later generalizing tables with
  | nil => rfl
  | cons lap rest ih =>
    have here := kept lap List.mem_cons_self
    rw [List.foldl_cons, List.foldl_cons, writeLegacyLap_updatePitStatus here]
    apply ih
    intro other member
    have same : latestAt (tables.writeLegacyLap lap).laps update.vehicleId update.time =
        latestAt tables.laps update.vehicleId update.time := latestAt_kept here
    have there := kept other (List.mem_cons_of_mem lap member)
    unfold PitKept at there ⊢
    rwa [same]

theorem foldl_sectors_pit {update : PitStatusUpdate} (rows : List LegacySectorRow) (tables : Tables) :
    rows.foldl upsertLegacySector (tables.updatePitStatus update) =
      (rows.foldl upsertLegacySector tables).updatePitStatus update := by
  induction rows generalizing tables with
  | nil => rfl
  | cons row rest ih =>
    rw [List.foldl_cons, List.foldl_cons, upsertLegacySector_updatePitStatus]
    exact ih _

/-- Laps, sectors and pit updates may be written one after the other where the rows are settled. -/
theorem flushRows_eq {tables : Tables} {rows : List LegacyRow} (settled : Settled tables rows) :
    tables.flushRows (rows.filterMap lapOf) (rows.filterMap sectorOf) (rows.filterMap pitOf) =
      rows.foldl writeRow tables := by
  induction rows generalizing tables with
  | nil => rfl
  | cons row rest ih =>
    obtain ⟨kept, later⟩ := settled
    rw [List.foldl_cons, ← ih later]
    cases row with
    | lap row => rfl
    | sector row =>
      show _ = List.foldl _ (List.foldl _ (List.foldl _ (tables.upsertLegacySector row) _) _) _
      rw [foldl_laps_sector kept]
      rfl
    | pit update =>
      show _ = List.foldl _ (List.foldl _ (List.foldl _ (tables.updatePitStatus update) _) _) _
      rw [foldl_laps_pit kept, foldl_sectors_pit]
      rfl

theorem settled_append {tables : Tables} {first second : List LegacyRow}
    (settled : Settled tables (first ++ second)) :
    Settled tables first ∧ Settled (first.foldl writeRow tables) second := by
  induction first generalizing tables with
  | nil => exact ⟨trivial, settled⟩
  | cons row rest ih =>
    obtain ⟨kept, later⟩ := settled
    obtain ⟨here, there⟩ := ih later
    refine ⟨⟨?_, here⟩, there⟩
    intro lap member
    have split : (rest ++ second).filterMap lapOf = rest.filterMap lapOf ++ second.filterMap lapOf :=
      List.filterMap_append
    exact kept lap (split ▸ List.mem_append_left _ member)

@[simp] theorem stamp_nothing (tables : Tables) : tables.stamp [] 0 = tables := by
  simp [stamp, upsertCursor]

end Tables

namespace TimescaleStore

variable {sessions : SessionTables}

/-- A lap of an import: it names no session and has no sectors of its own. -/
structure Plain (lap : LapRow) : Prop where
  session : lap.sessionId = none
  bare : lap.sectors = []

theorem writeLap_plain {lap : LapRow} (plain : Plain lap) (store : TimescaleStore) :
    store.writeLap sessions lap = ⟨store.cache, store.tables.writeLegacyLap lap⟩ := by
  simp [writeLap, SessionCache.resolveSession, Tables.writeLap, Tables.writeLegacyLap,
    plain.session, plain.bare]

theorem foldl_writeLap_plain {laps : List LapRow} (plain : ∀ lap ∈ laps, Plain lap)
    (store : TimescaleStore) :
    laps.foldl (writeLap sessions) store =
      ⟨store.cache, laps.foldl Tables.writeLegacyLap store.tables⟩ := by
  induction laps generalizing store with
  | nil => rfl
  | cons lap rest ih =>
    rw [List.foldl_cons, List.foldl_cons, writeLap_plain (plain lap List.mem_cons_self)]
    exact ih (fun other member => plain other (List.mem_cons_of_mem lap member)) _

theorem foldl_updatePitStatus (updates : List PitStatusUpdate) (store : TimescaleStore) :
    updates.foldl updatePitStatus store =
      ⟨store.cache, updates.foldl Tables.updatePitStatus store.tables⟩ := by
  induction updates generalizing store with
  | nil => rfl
  | cons update rest ih => exact ih _

theorem flushLegacy_eq {flush : LegacyImport.Flush} (plain : ∀ lap ∈ flush.laps, Plain lap)
    (store : TimescaleStore) :
    store.flushLegacy sessions flush = ⟨store.cache,
      (store.tables.flushRows flush.laps flush.sectors flush.pitUpdates).stamp flush.rows
        flush.streamSeq⟩ := by
  simp [flushLegacy, foldl_writeLap_plain plain, foldl_updatePitStatus, Tables.flushRows]

end TimescaleStore

end OpenLaps.Ingest

namespace OpenLaps.LegacyImport
open Ingest

/-- A store over an empty database. -/
def newStore : TimescaleStore := ⟨⟨[], .empty⟩, ⟨[], .empty, .empty, 0, 1⟩⟩

/-- A flush of rows. -/
def Flush.of (rows : List LegacyRow) (streamSeq : Nat) : Flush :=
  ⟨[], rows.filterMap Ingest.Tables.lapOf, rows.filterMap Ingest.Tables.sectorOf,
    rows.filterMap Ingest.Tables.pitOf, streamSeq⟩

theorem Flush.add_of (rows : List LegacyRow) (row : LegacyRow) (streamSeq : Nat) :
    (Flush.of rows streamSeq).add row = Flush.of (rows ++ [row]) streamSeq := by
  simp only [Flush.of, List.filterMap_append]
  cases row <;> simp [Flush.add, Ingest.Tables.lapOf, Ingest.Tables.sectorOf, Ingest.Tables.pitOf]

/-- A settled flush writes its rows one by one. -/
theorem flushLegacy_of {sessions : SessionTables} {store : TimescaleStore} {rows : List LegacyRow}
    (settled : store.tables.Settled rows)
    (plain : ∀ lap ∈ rows.filterMap Ingest.Tables.lapOf, TimescaleStore.Plain lap) (streamSeq : Nat) :
    store.flushLegacy sessions (.of rows streamSeq) =
      ⟨store.cache, (rows.foldl Ingest.Tables.writeRow store.tables).stamp [] streamSeq⟩ := by
  rw [TimescaleStore.flushLegacy_eq plain, ← Ingest.Tables.flushRows_eq settled]
  rfl

/-- The batches of settled rows, after rows that are held already. -/
theorem batches_held {sessions : SessionTables} {store : TimescaleStore} {held rows : List LegacyRow}
    (settled : store.tables.Settled (held ++ rows))
    (plain : ∀ lap ∈ (held ++ rows).filterMap Ingest.Tables.lapOf, TimescaleStore.Plain lap)
    (batchRows lastOffset : Nat) :
    (batches batchRows lastOffset true (.of held 0) rows).foldl
        (TimescaleStore.flushLegacy sessions) store =
      ⟨store.cache, ((held ++ rows).foldl Ingest.Tables.writeRow store.tables).stamp [] lastOffset⟩ := by
  induction rows generalizing store held with
  | nil =>
    rw [List.append_nil] at settled plain ⊢
    exact flushLegacy_of settled plain lastOffset
  | cons row rest ih =>
    rw [List.append_cons] at settled plain
    rw [batches, Flush.add_of, List.append_cons held row rest]
    split
    · obtain ⟨first, second⟩ := Ingest.Tables.settled_append settled
      rw [List.filterMap_append] at plain
      rw [List.foldl_cons, flushLegacy_of first
        (fun lap member => plain lap (List.mem_append_left _ member)), Ingest.Tables.stamp_nothing]
      have next : (TimescaleStore.mk store.cache
          ((held ++ [row]).foldl Ingest.Tables.writeRow store.tables)).tables.Settled ([] ++ rest) := second
      have later := ih next fun lap member => plain lap (List.mem_append_right _ member)
      dsimp only at later
      rw [List.nil_append, ← List.foldl_append] at later
      exact later
    · exact ih settled plain

/-- The batches of settled rows write them one by one, wherever they are cut. -/
theorem batches_eq {sessions : SessionTables} {store : TimescaleStore} {rows : List LegacyRow}
    (settled : store.tables.Settled rows)
    (plain : ∀ lap ∈ rows.filterMap Ingest.Tables.lapOf, TimescaleStore.Plain lap)
    (batchRows lastOffset : Nat) :
    (batches batchRows lastOffset true (.empty 0) rows).foldl
        (TimescaleStore.flushLegacy sessions) store =
      ⟨store.cache, (rows.foldl Ingest.Tables.writeRow store.tables).stamp [] lastOffset⟩ := by
  have none : store.tables.Settled ([] ++ rows) := settled
  exact batches_held none plain batchRows lastOffset

end OpenLaps.LegacyImport

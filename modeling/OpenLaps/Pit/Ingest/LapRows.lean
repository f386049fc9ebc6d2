import OpenLaps.Agent.TimingApp
import OpenLaps.Timing.Clock

/- The events of the timing engine, printed by the timing app and read back by the lap
materialiser: what `observe` does to each of them. -/
namespace OpenLaps.Ingest
open Timing TimingApp

/-- `json.loads` gives back the fields that `json.dumps` printed, in some order. -/
def Lossless (text : PyText) (dumps : List (String × Json) → String)
    (fields : List (String × Json)) : Prop :=
  text.deep (dumps fields) = false ∧
    ∃ decoded, text.loads (dumps fields) = some (.object decoded) ∧
    ∀ name, decoded.lookup name = fields.lookup name

/-- The row that a sector event leaves in the buffer. -/
def sectorRow (event : TimingEvent) : SectorRow :=
  ⟨event.sector, some (.finite event.splitTime), micros event.time⟩

def sectorKey (event : TimingEvent) : Int × Int := (event.lapNumber, event.sector)

namespace LapMaterialiser

/-- The buffer with one more sector, the oldest one dropped if it is full. -/
def buffered (laps : LapMaterialiser) (event : TimingEvent) : LapMaterialiser :=
  let kept :=
    if laps.sectors.entries.length ≥ maxBufferedSectors then dropOldest laps.sectors
    else laps.sectors
  { laps with sectors := kept.set (sectorKey event) (sectorRow event) }

/-- The buffered sectors of one lap, by number. -/
def sectorsFor (laps : LapMaterialiser) (lapNumber : Int) : List SectorRow :=
  ((laps.sectors.entries.insertionSort fun first second => keyLe first.1 second.1).filter
    fun entry => entry.1.1 = lapNumber).map Prod.snd

/-- The row of a completed lap. -/
def lapRow (laps : LapMaterialiser) (stamp : Stamp) (event : TimingEvent) : LapRow where
  vehicleId := laps.vehicleId
  sessionId := asStr (stamp.sessionId.map Json.str)
  stintNumber := stamp.stintNumber
  trackName := asStr (stamp.trackName.map Json.str)
  lapNumber := event.lapNumber
  crossedAt := micros event.time
  lapTimeS := some (.finite event.lapTime)
  valid := event.valid
  pitStatus := some (pitStatusValue event.pitStatus)
  direction := some (directionValue event.direction)
  sectors := laps.sectorsFor event.lapNumber

/-- What one event of the engine does, once its payload has been read. -/
def absorb (laps : LapMaterialiser) (stamp : Stamp) (event : TimingEvent) :
    LapMaterialiser × Option Materialised :=
  if InCalendar event.time then
    let laps := laps.adopt event.lapNumber
    match event.type with
    | .sectorCompleted => (laps.buffered event, none)
    | .lapCompleted =>
      ({ laps with sectors := laps.sectors.filter fun key => key.1 ≠ event.lapNumber },
        some (.lap (laps.lapRow stamp event)))
    | .pitEntry | .pitExit =>
      (laps, some (.pit ⟨laps.vehicleId, micros event.time, pitStatusValue event.pitStatus⟩))
  else
    ({ laps with malformedEvents := laps.malformedEvents + 1 }, none)

end LapMaterialiser

theorem keyLe_iff (first second : Int × Int) :
    keyLe first second = true ↔
      first.1 < second.1 ∨ first.1 = second.1 ∧ first.2 ≤ second.2 := by
  simp [keyLe]

theorem keyLe_antisymm {first second : Int × Int} (le : keyLe first second = true)
    (ge : keyLe second first = true) : first = second := by
  rw [keyLe_iff] at le ge
  exact Prod.ext (by omega) (by omega)

theorem keyLe_total (first second : Int × Int) :
    keyLe first second = true ∨ keyLe second first = true := by
  rw [keyLe_iff, keyLe_iff]
  omega

theorem keyLe_trans {first second third : Int × Int} (before : keyLe first second = true)
    (after : keyLe second third = true) : keyLe first third = true := by
  rw [keyLe_iff] at before after ⊢
  omega

/-- Sorting the entries of a buffer puts them into the one order of their keys. -/
theorem sorted_entries {sectors : Dict (Int × Int) SectorRow}
    {wanted : List ((Int × Int) × SectorRow)} (perm : wanted.Perm sectors.entries)
    (ordered : wanted.Pairwise fun first second => keyLe first.1 second.1 = true) :
    (sectors.entries.insertionSort fun first second => keyLe first.1 second.1) = wanted := by
  have total : Std.Total fun first second : (Int × Int) × SectorRow =>
      keyLe first.1 second.1 = true := ⟨fun first second => keyLe_total first.1 second.1⟩
  have trans : IsTrans ((Int × Int) × SectorRow) fun first second =>
      keyLe first.1 second.1 = true := ⟨fun _ _ _ before after => keyLe_trans before after⟩
  refine List.Perm.eq_of_pairwise ?_ (List.pairwise_insertionSort _ _) ordered
    ((List.perm_insertionSort _ _).trans perm.symm)
  intro first second member present le ge
  have key : first.1 = second.1 := keyLe_antisymm le ge
  have one := (sectors.get?_eq_some first.1 first.2).mpr ((List.mem_insertionSort _).mp member)
  have two := (sectors.get?_eq_some second.1 second.2).mpr (perm.mem_iff.mp present)
  rw [key, two] at one
  exact Prod.ext key (Option.some.inj one).symm

theorem mem_dropOldest {sectors : Dict (Int × Int) SectorRow} {entry : (Int × Int) × SectorRow}
    (member : entry ∈ (LapMaterialiser.dropOldest sectors).entries) : entry ∈ sectors.entries := by
  unfold LapMaterialiser.dropOldest at member
  split at member
  · exact member
  · exact (Dict.mem_entries_filter.mp member).1

theorem lookup_stamp (stamp : Stamp) :
    stamp.fields.lookup "session_id" = stamp.sessionId.map Json.str ∧
      stamp.fields.lookup "stint_number" = stamp.stintNumber.map Json.int ∧
      stamp.fields.lookup "track_name" = stamp.trackName.map Json.str := by
  unfold Stamp.fields
  cases stamp.sessionId <;> cases stamp.driver <;> cases stamp.stintNumber <;>
    cases stamp.sessionType <;> cases stamp.trackName <;> simp [List.lookup_cons]

/-- The payload's fields as `observe` looks them up. -/
structure Encoded (stamp : Stamp) (event : TimingEvent) (decoded : List (String × Json)) :
    Prop where
  type : decoded.lookup "type" = some (.str (eventTypeValue event.type))
  time : decoded.lookup "time" = some (.float (.finite event.time))
  lapNumber : decoded.lookup "lap_number" = some (.int event.lapNumber)
  sector : decoded.lookup "sector" = some (.int event.sector)
  splitTime : decoded.lookup "split_time" = some (.float (.finite event.splitTime))
  lapTime : decoded.lookup "lap_time" = some (.float (.finite event.lapTime))
  valid : decoded.lookup "valid" = some (.bool event.valid)
  direction : decoded.lookup "direction" = some (.str (directionValue event.direction))
  pitStatus : decoded.lookup "pit_status" = some (.str (pitStatusValue event.pitStatus))
  sessionId : decoded.lookup "session_id" = stamp.sessionId.map Json.str
  stintNumber : decoded.lookup "stint_number" = stamp.stintNumber.map Json.int
  trackName : decoded.lookup "track_name" = stamp.trackName.map Json.str

theorem encodeEvent_encoded (stamp : Stamp) (event : TimingEvent) :
    Encoded stamp event (encodeEvent stamp event) := by
  obtain ⟨sessionId, stintNumber, trackName⟩ := lookup_stamp stamp
  unfold encodeEvent
  constructor <;> simp [List.lookup_cons, sessionId, stintNumber, trackName]

theorem Lossless.encoded {text : PyText} {dumps : List (String × Json) → String} {stamp : Stamp}
    {event : TimingEvent} (lossless : Lossless text dumps (encodeEvent stamp event)) :
    ∃ decoded, text.loads (dumps (encodeEvent stamp event)) = some (.object decoded) ∧
      Encoded stamp event decoded := by
  obtain ⟨-, decoded, loaded, same⟩ := lossless
  have fields := encodeEvent_encoded stamp event
  refine ⟨decoded, loaded, ?_⟩
  constructor <;> rw [same]
  · exact fields.type
  · exact fields.time
  · exact fields.lapNumber
  · exact fields.sector
  · exact fields.splitTime
  · exact fields.lapTime
  · exact fields.valid
  · exact fields.direction
  · exact fields.pitStatus
  · exact fields.sessionId
  · exact fields.stintNumber
  · exact fields.trackName

theorem parse_encoded {text : PyText} {payload : String} {stamp : Stamp} {event : TimingEvent}
    {decoded : List (String × Json)} (loaded : text.loads payload = some (.object decoded))
    (fields : Encoded stamp event decoded) :
    parse text payload =
      if InCalendar event.time then
        some ⟨decoded, eventTypeValue event.type, micros event.time, event.lapNumber⟩
      else none := by
  have read : readEvent text payload = (fromTimestamp (.finite event.time)).map
      fun time => ⟨decoded, eventTypeValue event.type, time, event.lapNumber⟩ := by
    unfold readEvent
    rw [loaded]
    simp only [field, fields.type, fields.time, fields.lapNumber]
    change (fromTimestamp (.finite event.time) >>= fun time => _) = _
    cases fromTimestamp (.finite event.time) <;> rfl
  rw [parse, read, fromTimestamp_finite]
  by_cases inside : InCalendar event.time
  · rw [if_pos inside, if_pos inside]
    rfl
  · rw [if_neg inside, if_neg inside]
    rfl

theorem bufferSector_encoded (laps : LapMaterialiser) {stamp : Stamp} {event : TimingEvent}
    {decoded : List (String × Json)} (fields : Encoded stamp event decoded) (eventType : String) :
    laps.bufferSector ⟨decoded, eventType, micros event.time, event.lapNumber⟩ =
      .ok (laps.buffered event) := by
  unfold LapMaterialiser.bufferSector
  simp only [fields.sector, fields.splitTime, asInt, asFloat]
  rfl

theorem completeLap_encoded (laps : LapMaterialiser) {stamp : Stamp} {event : TimingEvent}
    {decoded : List (String × Json)} (fields : Encoded stamp event decoded) (eventType : String) :
    laps.completeLap ⟨decoded, eventType, micros event.time, event.lapNumber⟩ =
      .ok ({ laps with sectors := laps.sectors.filter fun key => key.1 ≠ event.lapNumber },
        laps.lapRow stamp event) := by
  have stint : asInt (decoded.lookup "stint_number") = .ok stamp.stintNumber := by
    rw [fields.stintNumber]
    cases stamp.stintNumber <;> rfl
  have direction : asStr (decoded.lookup "direction") = some (directionValue event.direction) := by
    rw [fields.direction]
    cases event.direction <;> rfl
  have status : asStr (decoded.lookup "pit_status") = some (pitStatusValue event.pitStatus) := by
    rw [fields.pitStatus]
    cases event.pitStatus <;> rfl
  unfold LapMaterialiser.completeLap
  simp only [stint, direction, status, fields.lapTime, fields.valid, fields.sessionId,
    fields.trackName, asFloat]
  rfl

theorem pitUpdate_encoded (text : PyText) (laps : LapMaterialiser) {stamp : Stamp}
    {event : TimingEvent} {decoded : List (String × Json)} (fields : Encoded stamp event decoded)
    (eventType : String) :
    laps.pitUpdate text ⟨decoded, eventType, micros event.time, event.lapNumber⟩ =
      ⟨laps.vehicleId, micros event.time, pitStatusValue event.pitStatus⟩ := by
  unfold LapMaterialiser.pitUpdate
  simp only [fields.pitStatus]
  rfl

/-- An event printed and read back without loss is absorbed as it was emitted. -/
theorem observe_encoded {text : PyText} {dumps : List (String × Json) → String} {stamp : Stamp}
    {event : TimingEvent} (lossless : Lossless text dumps (encodeEvent stamp event))
    (laps : LapMaterialiser) :
    laps.observe text (dumps (encodeEvent stamp event)) = .ok (laps.absorb stamp event) := by
  obtain ⟨decoded, loaded, fields⟩ := lossless.encoded
  unfold LapMaterialiser.observe LapMaterialiser.absorb
  rw [lossless.1, if_neg Bool.false_ne_true, parse_encoded loaded fields]
  by_cases inside : InCalendar event.time
  · rw [if_pos inside, if_pos inside]
    cases kind : event.type with
    | sectorCompleted => simp [eventTypeValue, bufferSector_encoded _ fields]
    | lapCompleted => simp [eventTypeValue, completeLap_encoded _ fields]
    | pitEntry => simp [eventTypeValue, pitUpdate_encoded text _ fields, pure, Except.pure]
    | pitExit => simp [eventTypeValue, pitUpdate_encoded text _ fields, pure, Except.pure]
  · rw [if_neg inside, if_neg inside]
    rfl

/-- A fresh run of `observe` over payloads, with the rows it returns. -/
def observeAll (text : PyText) (laps : LapMaterialiser) (payloads : List String) :
    Except PyError (LapMaterialiser × List Materialised) :=
  payloads.foldlM (fun (result : LapMaterialiser × List Materialised) payload => do
    let (laps, row) ← result.1.observe text payload
    return (laps, result.2 ++ row.toList)) (laps, [])

/-- One event absorbed, its row appended to those before. -/
def absorbNext (stamp : TimingEvent → Stamp) (result : LapMaterialiser × List Materialised)
    (event : TimingEvent) : LapMaterialiser × List Materialised :=
  ((result.1.absorb (stamp event) event).1,
    result.2 ++ (result.1.absorb (stamp event) event).2.toList)

/-- The events of some crossings absorbed in order by a fresh materialiser. -/
def absorbAll (vehicleId : String) (stamp : TimingEvent → Stamp) (crossings : List Crossing) :
    LapMaterialiser × List Materialised :=
  (crossings.flatMap Crossing.events).foldl (absorbNext stamp) (.new vehicleId, [])

theorem absorbAll_append (vehicleId : String) (stamp : TimingEvent → Stamp)
    (crossings : List Crossing) (crossing : Crossing) :
    absorbAll vehicleId stamp (crossings ++ [crossing]) =
      crossing.events.foldl (absorbNext stamp) (absorbAll vehicleId stamp crossings) := by
  rw [absorbAll, List.flatMap_append, List.foldl_append, List.flatMap_singleton]
  rfl

/-- Events that are printed and read back without loss are absorbed one by one. -/
theorem observeAll_encoded {text : PyText} {dumps : List (String × Json) → String}
    {stamp : TimingEvent → Stamp} {crossings : List Crossing} (vehicleId : String)
    (lossless : ∀ event ∈ crossings.flatMap Crossing.events,
      Lossless text dumps (encodeEvent (stamp event) event)) :
    observeAll text (.new vehicleId) ((crossings.flatMap Crossing.events).map
        fun event => dumps (encodeEvent (stamp event) event)) =
      .ok (absorbAll vehicleId stamp crossings) := by
  unfold observeAll absorbAll
  generalize (LapMaterialiser.new vehicleId, ([] : List Materialised)) = result
  generalize crossings.flatMap Crossing.events = events at lossless
  induction events generalizing result with
  | nil => rfl
  | cons event rest ih =>
    rw [List.map_cons, List.foldlM_cons, List.foldl_cons,
      observe_encoded (lossless event List.mem_cons_self)]
    exact ih _ fun other member => lossless other (List.mem_cons_of_mem event member)

/-- The lap rows among what was materialised. -/
def lapRows (rows : List Materialised) : List LapRow :=
  rows.filterMap fun
    | .lap row => some row
    | .pit _ => none

@[simp] theorem lapRows_nil : lapRows [] = [] := rfl

theorem lapRows_append (first second : List Materialised) :
    lapRows (first ++ second) = lapRows first ++ lapRows second :=
  List.filterMap_append

end OpenLaps.Ingest

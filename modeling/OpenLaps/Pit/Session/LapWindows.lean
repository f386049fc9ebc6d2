import OpenLaps.Pit.Session.Convergence

/- The laps of a session in the transaction of `_write_state`: they are re-windowed from
the stint rows just written. -/
namespace OpenLaps.Session

open Ingest (fromTimestamp fromTimestamp_finite micros)

/-- A row of `laps`, as far as attribution reads it. `stint` is the key of the row of
`stints` that `stint_id` points at. -/
structure Lap where
  vehicleId : String
  crossedAt : Int
  sessionId : Option String
  stint : Option (String × Int)
  deriving DecidableEq, Repr

/-- The tables that the transaction writes, `laps` included. -/
structure Rows where
  tables : Tables
  laps : List Lap

/-- `l.crossed_at >= s.started AND (s.ended IS NULL OR l.crossed_at < s.ended)`. -/
def StintRow.holds (row : StintRow) (crossedAt : Int) : Bool :=
  row.started ≤ crossedAt && row.ended.all fun ended => crossedAt < ended

/-- The stint rows that the `UPDATE` joins with a lap. -/
def joined (stints : Dict (String × Int) StintRow) (sessionId : String) (lap : Lap) :
    List (String × Int) :=
  match lap.stint with
  | none => []
  | some current =>
    if lap.sessionId = some sessionId then
      (stints.entries.filter fun entry =>
        entry.1.1 = sessionId && current ≠ entry.1 && entry.2.holds lap.crossedAt).map Prod.fst
    else []

/-- The `UPDATE` of one lap. Of several joined rows the database may take any one; here
it is the first. -/
def rewindow (stints : Dict (String × Int) StintRow) (sessionId : String) (lap : Lap) : Lap :=
  match joined stints sessionId lap with
  | [] => lap
  | key :: _ => { lap with stint := some key }

/-- `_write_state`, when the database carries it out. -/
def commitState (vehicleId : String) (rows : Rows) (state : SessionState) :
    Except PyError Rows := do
  let row ← sessionRow vehicleId state
  let stints ← stintRows state
  let tables := rows.tables.upsert state.sessionId row stints
  return ⟨tables, rows.laps.map (rewindow tables.stints state.sessionId)⟩

theorem commitState_wrote {vehicleId : String} {before after : Rows} {state : SessionState}
    (committed : commitState vehicleId before state = .ok after) :
    Wrote vehicleId before.tables state after.tables ∧
      after.laps = before.laps.map (rewindow after.tables.stints state.sessionId) := by
  obtain ⟨row, header, remaining⟩ := Attempt.bind_ok.mp committed
  obtain ⟨stints, rows, last⟩ := Attempt.bind_ok.mp remaining
  cases last
  exact ⟨⟨row, stints, header, rows, rfl⟩, rfl⟩

/-- The window of a stint of a snapshot, in microseconds, half-open, and without an end
for the active one. -/
def windowHolds (stint : Int × String × Int × Option Int) (crossedAt : Int) : Bool :=
  1000 * stint.2.2.1 ≤ crossedAt && stint.2.2.2.all fun endMs => crossedAt < 1000 * endMs

/-- The number of the stint whose window holds a crossing. -/
def stintAt (state : SessionState) (crossedAt : Int) : Option Int :=
  ((snapshotStints state).find? fun stint => windowHolds stint crossedAt).map Prod.fst

/-- A lap as the snapshot attributes it: only laps of the session that point at a stint. -/
def attributed (state : SessionState) (lap : Lap) : Lap :=
  if lap.sessionId = some state.sessionId ∧ lap.stint.isSome = true then
    match stintAt state lap.crossedAt with
    | none => lap
    | some number => { lap with stint := some (state.sessionId, number) }
  else lap

theorem timestamp_micros {epochMs time : Int} (taken : timestamp epochMs = .ok time) :
    time = 1000 * epochMs := by
  rw [timestamp, fromTimestamp_finite] at taken
  split at taken
  · cases taken
    have scaled : (epochMs : ℚ) / 1000 * 1000000 = ((1000 * epochMs : Int) : ℚ) := by
      push_cast
      ring
    rw [micros, scaled, Rounding.halfEven_intCast]
  · cases taken

theorem stintRow_holds {driver : String} {startMs : Int} {endMs : Option Int} {row : StintRow}
    (made : stintRow driver startMs endMs = .ok row) (number crossedAt : Int) :
    row.holds crossedAt = windowHolds (number, driver, startMs, endMs) crossedAt := by
  obtain ⟨name, _, remaining⟩ := Attempt.bind_ok.mp made
  obtain ⟨started, begins, remaining⟩ := Attempt.bind_ok.mp remaining
  obtain ⟨ended, ends, last⟩ := Attempt.bind_ok.mp remaining
  cases last
  have start := timestamp_micros begins
  unfold StintRow.holds windowHolds
  dsimp only
  rw [start]
  cases endMs with
  | none =>
    cases ends
    rfl
  | some endMs =>
    obtain ⟨time, stamped, last⟩ := Attempt.bind_ok.mp ends
    cases last
    rw [timestamp_micros stamped]
    rfl

/-- Two stints of a snapshot, the first numbered and ended before the second begins. -/
def Precedes (first second : Int × String × Int × Option Int) : Prop :=
  first.1 < second.1 ∧ ∃ endMs, first.2.2.2 = some endMs ∧ endMs ≤ second.2.2.1

theorem Precedes.not_both {first second : Int × String × Int × Option Int}
    (apart : Precedes first second) {crossedAt : Int} (held : windowHolds first crossedAt = true) :
    windowHolds second crossedAt = false := by
  obtain ⟨_, endMs, ended, before⟩ := apart
  unfold windowHolds at *
  rw [ended, Bool.and_eq_true] at held
  have early : crossedAt < 1000 * endMs := of_decide_eq_true held.2
  rw [Bool.and_eq_false_iff]
  left
  rw [decide_eq_false_iff_not]
  omega

/-- The closed stints of a history follow each other, within its bounds. -/
theorem Follow.precedes {number start last : Int} {stints : List Stint}
    (follow : Follow (· = ·) number start stints last) :
    (stints.map fun stint =>
        (stint.stintNumber, stint.driver, stint.startMs, some stint.endMs)).Pairwise Precedes ∧
      ∀ stint ∈ stints, number ≤ stint.stintNumber ∧
        stint.stintNumber < number + stints.length ∧ start ≤ stint.startMs ∧
        stint.endMs ≤ last := by
  induction stints generalizing number start with
  | nil => exact ⟨List.Pairwise.nil, fun stint member => absurd member List.not_mem_nil⟩
  | cons stint rest ih =>
    obtain ⟨numbered, met, ordered, _, later⟩ := follow
    obtain ⟨apart, bounds⟩ := ih later
    have final := Follow.le (fun _ _ same => same.le) later
    constructor
    · rw [List.map_cons, List.pairwise_cons]
      refine ⟨?_, apart⟩
      intro entry member
      obtain ⟨next, listed, rfl⟩ := List.mem_map.mp member
      have bound := bounds next listed
      refine ⟨?_, stint.endMs, rfl, bound.2.2.1⟩
      show stint.stintNumber < next.stintNumber
      omega
    · intro other member
      rw [List.length_cons]
      rcases List.mem_cons.mp member with rfl | listed
      · push_cast
        omega
      · have bound := bounds other listed
        push_cast
        omega

/-- The stints of a snapshot follow each other. -/
theorem Sound.precedes {state : SessionState} (sound : Sound (· = ·) state) :
    (snapshotStints state).Pairwise Precedes := by
  obtain ⟨last, follow, running⟩ := sound.follow
  obtain ⟨apart, bounds⟩ := follow.precedes
  unfold snapshotStints
  rw [List.pairwise_append]
  refine ⟨apart, ?_, ?_⟩
  · split
    · exact List.pairwise_singleton _ _
    · exact List.Pairwise.nil
  · intro entry member active listed
    obtain ⟨stint, closed, rfl⟩ := List.mem_map.mp member
    have bound := bounds stint closed
    split at listed
    · rename_i status
      obtain ⟨number, met⟩ := running status
      rw [List.mem_singleton.mp listed]
      refine ⟨?_, stint.endMs, rfl, ?_⟩
      · show stint.stintNumber < state.stintNumber
        omega
      · show stint.endMs ≤ state.stintStartMs
        omega
    · cases listed

end OpenLaps.Session

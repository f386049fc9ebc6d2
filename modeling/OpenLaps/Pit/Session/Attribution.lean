import OpenLaps.Pit.Session.LapWindows

/- Laps after any history of a session: driver changes, amendments in both directions and
the end, written in order and any number of times, while the ingest writer inserts laps. -/
namespace OpenLaps.Session

/-- At most one stint of a snapshot holds a crossing. -/
theorem window_unique {stints : List (Int × String × Int × Option Int)}
    (apart : stints.Pairwise Precedes) {first second : Int × String × Int × Option Int}
    (member : first ∈ stints) (member' : second ∈ stints) {crossedAt : Int}
    (held : windowHolds first crossedAt = true) (held' : windowHolds second crossedAt = true) :
    first = second := by
  induction stints with
  | nil => cases member
  | cons stint rest ih =>
    obtain ⟨before, later⟩ := List.pairwise_cons.mp apart
    rcases List.mem_cons.mp member with rfl | inner <;>
      rcases List.mem_cons.mp member' with rfl | inner'
    · rfl
    · have none_held := (before second inner').not_both held
      rw [held'] at none_held
      cases none_held
    · have none_held := (before first inner).not_both held'
      rw [held] at none_held
      cases none_held
    · exact ih later inner inner'

section Rows

variable {vehicleId : String} {tables : Tables} {state : SessionState}

/-- Row by row, the stint rows of a session are the stints of the snapshot shown. -/
theorem stintRows_row {stints : List (Int × StintRow)} (rows : stintRows state = .ok stints) :
    List.Forall₂ (fun stint made => made.1 = stint.1 ∧
      ∀ crossedAt, made.2.holds crossedAt = windowHolds stint crossedAt)
      (snapshotStints state) stints := by
  apply (Attempt.all_ok rows).imp
  rintro ⟨number, driver, startMs, endMs⟩ made same
  dsimp only at same
  cases row : stintRow driver startMs endMs with
  | error error =>
    rw [row] at same
    cases same
  | ok row' =>
    rw [row] at same
    cases same
    exact ⟨rfl, stintRow_holds row number⟩

/-- A stint row of the session belongs to a stint of the snapshot. -/
theorem Shows.stint_of_row (shows : Shows vehicleId tables state) {number : Int} {row : StintRow}
    (present : tables.stints.get? (state.sessionId, number) = some row) :
    ∃ stint ∈ snapshotStints state, stint.1 = number ∧
      ∀ crossedAt, row.holds crossedAt = windowHolds stint crossedAt := by
  obtain ⟨_, stints, _, rows, _, numbers⟩ := shows
  rw [numbers, Dict.get?_ofRows] at present
  obtain ⟨made, found, rfl⟩ := Option.map_eq_some_iff.mp present
  have listed : made ∈ stints := List.mem_reverse.mp (List.mem_of_find?_eq_some found)
  have named : made.1 = number := by simpa using List.find?_some found
  obtain ⟨stint, member, same, holds⟩ := Attempt.forall₂_exists (stintRows_row rows).flip listed
  exact ⟨stint, member, same.symm.trans named, holds⟩

/-- And the other way round, since stint numbers are distinct. -/
theorem Shows.row_of_stint (shows : Shows vehicleId tables state)
    (apart : (snapshotStints state).Pairwise Precedes)
    {stint : Int × String × Int × Option Int} (member : stint ∈ snapshotStints state) :
    ∃ row, tables.stints.get? (state.sessionId, stint.1) = some row ∧
      ∀ crossedAt, row.holds crossedAt = windowHolds stint crossedAt := by
  obtain ⟨_, stints, _, rows, _, numbers⟩ := shows
  obtain ⟨made, listed, same, holds⟩ := Attempt.forall₂_exists (stintRows_row rows) member
  have distinct : (stints.map Prod.fst).Nodup := by
    rw [stintRows_numbers state stints rows, stintNumbers, List.Nodup, List.pairwise_map]
    exact apart.imp fun before => ne_of_lt before.1
  refine ⟨made.2, ?_, holds⟩
  rw [numbers, ← same]
  exact Dict.get?_ofRows_of_mem distinct listed

/-- The stint of a crossing by the snapshot is the one whose row holds it. -/
theorem Shows.stintAt_iff (shows : Shows vehicleId tables state)
    (apart : (snapshotStints state).Pairwise Precedes) (crossedAt number : Int) :
    stintAt state crossedAt = some number ↔
      ∃ row, tables.stints.get? (state.sessionId, number) = some row ∧
        row.holds crossedAt = true := by
  unfold stintAt
  constructor
  · intro found
    obtain ⟨stint, first, rfl⟩ := Option.map_eq_some_iff.mp found
    obtain ⟨row, present, holds⟩ := shows.row_of_stint apart (List.mem_of_find?_eq_some first)
    have held := List.find?_some first
    exact ⟨row, present, (holds crossedAt).trans held⟩
  · rintro ⟨row, present, held⟩
    obtain ⟨stint, member, rfl, holds⟩ := shows.stint_of_row present
    rw [holds] at held
    cases first : (snapshotStints state).find? fun stint => windowHolds stint crossedAt with
    | none => exact absurd held (List.find?_eq_none.mp first stint member)
    | some other =>
      have held' := List.find?_some first
      rw [window_unique apart (List.mem_of_find?_eq_some first) member held' held]
      rfl

/-- Re-windowing from the rows is attribution by the snapshot. -/
theorem Shows.rewindow_eq (shows : Shows vehicleId tables state)
    (apart : (snapshotStints state).Pairwise Precedes) (lap : Lap) :
    rewindow tables.stints state.sessionId lap = attributed state lap := by
  have rows := shows.stintAt_iff apart lap.crossedAt
  unfold rewindow attributed joined
  cases pointed : lap.stint with
  | none => rw [if_neg (by simp)]
  | some current =>
    dsimp only
    by_cases own : lap.sessionId = some state.sessionId
    swap
    · rw [if_neg own, if_neg (fun both => own both.1)]
    rw [if_pos own, if_pos ⟨own, rfl⟩]
    -- The rows that join are the stint of the crossing, unless the lap points at it.
    have listed : ∀ key, key ∈ (tables.stints.entries.filter fun entry =>
        entry.1.1 = state.sessionId && current ≠ entry.1 &&
          entry.2.holds lap.crossedAt).map Prod.fst ↔
        key.1 = state.sessionId ∧ current ≠ key ∧
          stintAt state lap.crossedAt = some key.2 := by
      intro key
      rw [rows]
      constructor
      · intro member
        obtain ⟨entry, kept, rfl⟩ := List.mem_map.mp member
        obtain ⟨inside, test⟩ := List.mem_filter.mp kept
        simp only [Bool.and_eq_true, decide_eq_true_eq] at test
        obtain ⟨⟨session, other⟩, held⟩ := test
        refine ⟨session, other, entry.2, ?_, held⟩
        rw [← session]
        exact (Dict.get?_eq_some _ _ _).mpr inside
      · rintro ⟨session, other, row, present, held⟩
        rw [← session] at present
        apply List.mem_map.mpr
        refine ⟨(key, row), List.mem_filter.mpr ⟨(Dict.get?_eq_some _ _ _).mp present, ?_⟩, rfl⟩
        simp only [Bool.and_eq_true, decide_eq_true_eq]
        exact ⟨⟨session, other⟩, held⟩
    generalize (tables.stints.entries.filter fun entry =>
      entry.1.1 = state.sessionId && current ≠ entry.1 &&
        entry.2.holds lap.crossedAt).map Prod.fst = keys at listed
    cases found : stintAt state lap.crossedAt with
    | none =>
      have none_joined : keys = [] := by
        apply List.eq_nil_iff_forall_not_mem.mpr
        intro key member
        have at_key := ((listed key).mp member).2.2
        rw [found] at at_key
        cases at_key
      rw [none_joined]
    | some number =>
      cases keys with
      | nil =>
        have same : current = (state.sessionId, number) := by
          by_contra other
          have member := (listed (state.sessionId, number)).mpr ⟨rfl, other, found⟩
          cases member
        dsimp only
        rw [← same, ← pointed]
      | cons key rest =>
        obtain ⟨session, _, at_key⟩ := (listed key).mp List.mem_cons_self
        rw [found] at at_key
        have same : key = (state.sessionId, number) :=
          Prod.ext session (Option.some.inj at_key).symm
        dsimp only
        rw [same]

end Rows

/-- Re-windowing by a snapshot a second time changes nothing. -/
theorem attributed_attributed (state : SessionState) (lap : Lap) :
    attributed state (attributed state lap) = attributed state lap := by
  unfold attributed
  by_cases own : lap.sessionId = some state.sessionId ∧ lap.stint.isSome = true
  · rw [if_pos own]
    cases found : stintAt state lap.crossedAt with
    | none =>
      dsimp only
      rw [if_pos own, found]
    | some number =>
      dsimp only
      rw [if_pos ⟨own.1, rfl⟩, found]
  · rw [if_neg own, if_neg own]

/-- Writing what the tables show changes none of them. -/
theorem upsert_shown {tables : Tables} {state : SessionState} {row : SessionRow}
    {stints : List (Int × StintRow)}
    (session : tables.sessions.get? state.sessionId = some row)
    (listed : ∀ stint ∈ stints,
      tables.stints.get? (state.sessionId, stint.1) = some stint.2) :
    tables.upsert state.sessionId row stints = tables := by
  have kept : stints.foldl (fun rows stint => rows.set (state.sessionId, stint.1) stint.2)
      tables.stints = tables.stints := by
    induction stints with
    | nil => rfl
    | cons stint rest ih =>
      rw [List.foldl_cons, Dict.set_same (listed stint List.mem_cons_self)]
      exact ih fun other member => listed other (List.mem_cons_of_mem stint member)
  rw [Tables.upsert, kept, Dict.set_same session]

/-- Repeating a write that the tables show changes nothing. -/
theorem commitState_again {vehicleId : String} {before after : Rows} {state : SessionState}
    (apart : (snapshotStints state).Pairwise Precedes)
    (committed : commitState vehicleId before state = .ok after)
    (shows : Shows vehicleId after.tables state) :
    commitState vehicleId after state = .ok after := by
  have laps := (commitState_wrote committed).2
  obtain ⟨row, stints, header, rows, session, numbers⟩ := shows
  have distinct : (stints.map Prod.fst).Nodup := by
    rw [stintRows_numbers state stints rows, stintNumbers, List.Nodup, List.pairwise_map]
    exact apart.imp fun before => ne_of_lt before.1
  have same : after.tables.upsert state.sessionId row stints = after.tables := by
    apply upsert_shown session
    intro stint member
    rw [numbers]
    exact Dict.get?_ofRows_of_mem distinct member
  have unmoved : after.laps.map (rewindow after.tables.stints state.sessionId) = after.laps := by
    rw [laps, List.map_map]
    apply List.map_congr_left
    intro lap member
    have shown : Shows vehicleId after.tables state :=
      ⟨row, stints, header, rows, session, numbers⟩
    show rewindow _ _ (rewindow _ _ lap) = rewindow _ _ lap
    rw [shown.rewindow_eq apart lap, shown.rewindow_eq apart, attributed_attributed]
  unfold commitState
  rw [header, rows]
  show Except.ok _ = _
  rw [same, unmoved]

/-- What happens to a session once it has begun: a call of the state machine, a lap that
the ingest writer inserts, or a write of the current snapshot. -/
inductive Move where
  | changeDriver (driver : String) (now : Int)
  | amendStintStart (atMs : Int)
  | endSession (now : Int)
  | insert (lap : Lap)
  | write

/-- The session with the rows it is written to; `inserted` records the laps as they were
inserted and is never read. -/
structure Desk where
  state : SessionState
  rows : Rows
  inserted : List Lap

/-- A write that raises leaves the rows as they are. -/
def Desk.step (py : Runtime) (vehicleId : String) (desk : Desk) : Move → Desk
  | .changeDriver driver now =>
    { desk with state := (Call.changeDriver driver now).step py desk.state }
  | .amendStintStart atMs =>
    { desk with state := (Call.amendStintStart atMs).step py desk.state }
  | .endSession now => { desk with state := (Call.endSession now).step py desk.state }
  | .insert lap =>
    { desk with
      rows := { desk.rows with laps := desk.rows.laps ++ [lap] }
      inserted := desk.inserted ++ [lap] }
  | .write =>
    match commitState vehicleId desk.rows desk.state with
    | .ok rows => { desk with rows := rows }
    | .error _ => desk

def Desk.run (py : Runtime) (vehicleId : String) (desk : Desk) (moves : List Move) : Desk :=
  moves.foldl (Desk.step py vehicleId) desk

/-- A lap after re-windowing: only the stint it points at may differ. -/
structure SameLap (inserted lap : Lap) : Prop where
  vehicleId : lap.vehicleId = inserted.vehicleId
  crossedAt : lap.crossedAt = inserted.crossedAt
  sessionId : lap.sessionId = inserted.sessionId
  pointed : lap.stint.isSome = inserted.stint.isSome

theorem SameLap.rewindow {inserted lap : Lap} (same : SameLap inserted lap)
    (stints : Dict (String × Int) StintRow) (sessionId : String) :
    SameLap inserted (Session.rewindow stints sessionId lap) := by
  unfold Session.rewindow
  split
  · exact same
  · rename_i key rest joined_key
    have pointed : lap.stint.isSome = true := by
      cases known : lap.stint with
      | none =>
        rw [joined, known] at joined_key
        cases joined_key
      | some current => rfl
    exact ⟨same.vehicleId, same.crossedAt, same.sessionId, pointed.symm.trans same.pointed⟩

/-- A call on a running session keeps its name and all its stint numbers. -/
theorem step_keeps (py : Runtime) (state : SessionState) (call : Call)
    (within : ∀ uuid sessionType driver trackName car now,
      call ≠ .startSession uuid sessionType driver trackName car now) :
    (call.step py state).sessionId = state.sessionId ∧
      stintNumbers state ⊆ stintNumbers (call.step py state) := by
  have unchanged : ∀ {next : SessionState}, next = state →
      next.sessionId = state.sessionId ∧ stintNumbers state ⊆ stintNumbers next := by
    rintro _ rfl
    exact ⟨rfl, List.Subset.refl _⟩
  unfold Call.step
  cases taken : call.apply py state with
  | error failure => exact unchanged rfl
  | ok made =>
    obtain ⟨next, payload⟩ := made
    cases call with
    | startSession uuid sessionType driver trackName car now =>
      exact absurd rfl (within uuid sessionType driver trackName car now)
    | changeDriver driver now =>
      simp only [Call.apply, SessionState.changeDriver] at taken
      split at taken
      · cases taken
      rename_i running
      have status : state.status = .active := Decidable.not_not.mp running
      split at taken
      · cases taken
      split at taken
      · cases taken
      split at taken
      · cases taken
      cases taken
      refine ⟨rfl, ?_⟩
      simp [stintNumbers, snapshotStints, status, SessionState.closing]
    | amendStintStart atMs =>
      simp only [Call.apply, SessionState.amendStintStart] at taken
      split at taken
      · cases taken
      split at taken
      · cases taken
      split at taken
      · cases taken
      rename_i previous last
      split at taken
      · cases taken
      cases taken
      refine ⟨rfl, ?_⟩
      have shape : state.stints = state.stints.dropLast ++ [previous] :=
        (List.dropLast_append_getLast? previous last).symm
      have numbers : state.stints.map Stint.stintNumber =
          (state.stints.dropLast ++ [{ previous with endMs := atMs }]).map
            Stint.stintNumber := by
        rw [shape]
        simp
      have closed : ∀ stints : List Stint, (stints.map fun stint =>
          (stint.stintNumber, stint.driver, stint.startMs, some stint.endMs)).map Prod.fst =
            stints.map Stint.stintNumber := by
        intro stints
        rw [List.map_map]
        rfl
      unfold stintNumbers snapshotStints
      rw [List.map_append, List.map_append, closed, closed, numbers]
      apply List.append_subset.mpr
      refine ⟨List.subset_append_left _ _, ?_⟩
      apply List.subset_append_of_subset_right
      split <;> exact List.Subset.refl _
    | endSession now =>
      simp only [Call.apply, SessionState.endSession] at taken
      split at taken
      · cases taken
      rename_i running
      have status : state.status = .active := Decidable.not_not.mp running
      split at taken
      · cases taken
      cases taken
      refine ⟨rfl, ?_⟩
      simp [stintNumbers, snapshotStints, status, SessionState.closing]

/-- The invariant of a session on its way: the tables have no stint of it that the current
snapshot lacks, and the laps are those inserted. -/
structure Kept (sessionId : String) (desk : Desk) : Prop where
  named : desk.state.sessionId = sessionId
  sound : Sound (· = ·) desk.state
  covers : Covers desk.rows.tables desk.state
  laps : List.Forall₂ SameLap desk.inserted desk.rows.laps

theorem Kept.called {sessionId : String} {desk : Desk} (kept : Kept sessionId desk) (py : Runtime)
    (call : Call) (within : ∀ uuid sessionType driver trackName car now,
      call ≠ .startSession uuid sessionType driver trackName car now) :
    Kept sessionId { desk with state := call.step py desk.state } := by
  obtain ⟨same, numbers⟩ := step_keeps py desk.state call within
  refine ⟨same.trans kept.named, ?_, ?_, kept.laps⟩
  · show Sound _ (call.step py desk.state)
    unfold Call.step
    split
    · rename_i next payload taken
      refine call.apply_sound (fun _ => rfl) py desk.state next payload kept.sound ?_ taken
      cases call with
      | startSession uuid sessionType driver trackName car now =>
        exact absurd rfl (within uuid sessionType driver trackName car now)
      | _ => exact Int.le_refl 0
    · exact kept.sound
  · intro number present
    have before : desk.rows.tables.stints.get? (desk.state.sessionId, number) =
        desk.rows.tables.stints.get? ((call.step py desk.state).sessionId, number) := by
      rw [same]
    exact numbers (kept.covers number (before ▸ present))

theorem Kept.committed {sessionId vehicleId : String} {desk : Desk} {rows : Rows}
    (kept : Kept sessionId desk)
    (written : commitState vehicleId desk.rows desk.state = .ok rows) :
    Kept sessionId { desk with rows := rows } := by
  obtain ⟨wrote, laps⟩ := commitState_wrote written
  refine ⟨kept.named, kept.sound, wrote.covers kept.covers rfl (List.Subset.refl _), ?_⟩
  show List.Forall₂ SameLap desk.inserted rows.laps
  rw [laps, List.forall₂_map_right_iff]
  exact kept.laps.imp fun _ _ same => same.rewindow _ _

theorem step_kept {sessionId vehicleId : String} {desk : Desk} (py : Runtime)
    (kept : Kept sessionId desk) (move : Move) : Kept sessionId (desk.step py vehicleId move) := by
  cases move with
  | changeDriver driver now => exact kept.called py _ (fun _ _ _ _ _ _ => Call.noConfusion)
  | amendStintStart atMs => exact kept.called py _ (fun _ _ _ _ _ _ => Call.noConfusion)
  | endSession now => exact kept.called py _ (fun _ _ _ _ _ _ => Call.noConfusion)
  | insert lap =>
    refine ⟨kept.named, kept.sound, kept.covers, ?_⟩
    exact List.rel_append kept.laps (.cons ⟨rfl, rfl, rfl, rfl⟩ .nil)
  | write =>
    unfold Desk.step
    cases written : commitState vehicleId desk.rows desk.state with
    | error error => exact kept
    | ok rows => exact kept.committed written

theorem run_kept {sessionId vehicleId : String} (py : Runtime) (moves : List Move) {desk : Desk}
    (kept : Kept sessionId desk) : Kept sessionId (desk.run py vehicleId moves) := by
  induction moves generalizing desk with
  | nil => exact kept
  | cons move rest ih => exact ih (step_kept py kept move)

/-- What the last write of a snapshot leaves. -/
structure Attribution (vehicleId : String) (desk : Desk) (after : Rows) : Prop where
  /-- Every lap of the session that points at a stint points at the one whose window
  holds its crossing. -/
  pointed : ∀ lap ∈ after.laps, lap.sessionId = some desk.state.sessionId →
    lap.stint.isSome = true → ∀ key row, after.tables.stints.get? key = some row →
    key.1 = desk.state.sessionId → row.holds lap.crossedAt = true → lap.stint = some key
  /-- At most one does. -/
  unique : ∀ crossedAt key key' row row', after.tables.stints.get? key = some row →
    after.tables.stints.get? key' = some row' → key.1 = desk.state.sessionId →
    key'.1 = desk.state.sessionId → row.holds crossedAt = true → row'.holds crossedAt = true →
    key = key'
  /-- All other laps keep what they had before this write. -/
  others : after.laps = desk.rows.laps.map (attributed desk.state)
  /-- For a lap in a window the outcome is a function of the snapshot and of the lap as it
  was inserted. -/
  snapshot : List.Forall₂ (fun inserted lap => SameLap inserted lap ∧
    (inserted.sessionId = some desk.state.sessionId → inserted.stint.isSome = true →
      ∀ number, stintAt desk.state inserted.crossedAt = some number →
        lap.stint = some (desk.state.sessionId, number))) desk.inserted after.laps
  /-- The same write once more changes nothing. -/
  again : commitState vehicleId after desk.state = .ok after

/-- The attribution by a write, in every state that keeps the invariant. -/
theorem Kept.attribution {sessionId vehicleId : String} {desk : Desk} {after : Rows}
    (kept : Kept sessionId desk)
    (written : commitState vehicleId desk.rows desk.state = .ok after) :
    Attribution vehicleId desk after := by
  have apart := kept.sound.precedes
  obtain ⟨wrote, laps⟩ := commitState_wrote written
  have shows := wrote.shows kept.covers
  have others : after.laps = desk.rows.laps.map (attributed desk.state) := by
    rw [laps]
    exact List.map_congr_left fun lap _ => shows.rewindow_eq apart lap
  have row_at : ∀ crossedAt key row, after.tables.stints.get? key = some row →
      key.1 = desk.state.sessionId → row.holds crossedAt = true →
      stintAt desk.state crossedAt = some key.2 := by
    intro crossedAt key row present session held
    apply (shows.stintAt_iff apart crossedAt key.2).mpr
    exact ⟨row, by rw [← session]; exact present, held⟩
  -- A lap after the write, by what the snapshot says of its crossing.
  have settled : ∀ lap, lap.sessionId = some desk.state.sessionId → lap.stint.isSome = true →
      ∀ number, stintAt desk.state lap.crossedAt = some number →
        (attributed desk.state lap).stint = some (desk.state.sessionId, number) := by
    intro lap own pointed number found
    rw [attributed, if_pos ⟨own, pointed⟩, found]
  refine ⟨?_, ?_, others, ?_, commitState_again apart written shows⟩
  · intro lap member own pointed key row present session held
    have found := row_at lap.crossedAt key row present session held
    rw [others] at member
    obtain ⟨before, _, rfl⟩ := List.mem_map.mp member
    have twice := settled _ own pointed key.2 found
    rw [attributed_attributed] at twice
    rw [twice, ← session]
  · intro crossedAt key key' row row' present present' session session' held held'
    have found := row_at crossedAt key row present session held
    have found' := row_at crossedAt key' row' present' session' held'
    rw [found] at found'
    exact Prod.ext (session.trans session'.symm) (Option.some.inj found')
  · have same := (kept.committed written).laps
    refine List.Forall₂.mp (fun _ _ settled_lap same_lap => ⟨same_lap, settled_lap⟩) ?_ same
    rw [others, List.forall₂_map_right_iff]
    refine kept.laps.imp ?_
    intro inserted lap same_lap own pointed number found
    apply settled lap (same_lap.sessionId.trans own) (same_lap.pointed.trans pointed)
    rw [same_lap.crossedAt]
    exact found

/-- For every session and every history of it: after a write the laps are attributed by
the snapshot written, whatever was written before and however often. No row of `stints`
has the name of the session when it starts, which ends in a fresh UUID. -/
theorem attribution_follows_snapshot (py : Runtime) (vehicleId : String)
    (previous first : SessionState) (uuid sessionType driver trackName car : String) (now : Int)
    (payload : List (String × Ingest.Json)) (nonneg : 0 ≤ now)
    (opened : previous.startSession py uuid sessionType driver trackName car now =
      .ok (first, payload))
    (rows : Rows) (fresh : ∀ number, rows.tables.stints.get? (first.sessionId, number) = none)
    (moves : List Move) (after : Rows)
    (written : commitState vehicleId (Desk.run py vehicleId ⟨first, rows, rows.laps⟩ moves).rows
      (Desk.run py vehicleId ⟨first, rows, rows.laps⟩ moves).state = .ok after) :
    Attribution vehicleId (Desk.run py vehicleId ⟨first, rows, rows.laps⟩ moves) after := by
  have start : Kept first.sessionId ⟨first, rows, rows.laps⟩ := by
    refine ⟨rfl, ?_, ?_, ?_⟩
    · exact startSession_sound py (fun _ => rfl) uuid previous first sessionType driver trackName
        car now payload nonneg opened
    · intro number present
      rw [fresh number] at present
      cases present
    · exact List.forall₂_same.mpr fun lap _ => ⟨rfl, rfl, rfl, rfl⟩
  exact (run_kept py moves start).attribution written

/-- A race just started, with nothing in the tables. -/
def raceDesk : Desk := ⟨raceStarted, ⟨noTables, []⟩, []⟩

def raceLap (crossedAt : Int) : Lap :=
  ⟨"car", crossedAt, some raceStarted.sessionId, some (raceStarted.sessionId, 1)⟩

/-- A lap stamped with the first stint, and a driver change corrected to before it. -/
def correctedChange : List Move :=
  [.write, .insert (raceLap 8000000), .changeDriver "grace" 9000, .write, .amendStintStart 7000]

theorem attribution_correctedChange :
    ∃ after, commitState "car" (Desk.run epochRuntime "car" raceDesk correctedChange).rows
        (Desk.run epochRuntime "car" raceDesk correctedChange).state = .ok after ∧
      after.laps.map Lap.stint = [some (raceStarted.sessionId, 2)] ∧
      Attribution "car" (Desk.run epochRuntime "car" raceDesk correctedChange) after := by
  cases written : commitState "car" (Desk.run epochRuntime "car" raceDesk correctedChange).rows
      (Desk.run epochRuntime "car" raceDesk correctedChange).state with
  | error error =>
    have fine : (commitState "car" (Desk.run epochRuntime "car" raceDesk correctedChange).rows
      (Desk.run epochRuntime "car" raceDesk correctedChange).state).isOk = true := by
      decide +kernel
    rw [written] at fine
    cases fine
  | ok after =>
    have laps : (commitState "car" (Desk.run epochRuntime "car" raceDesk correctedChange).rows
      (Desk.run epochRuntime "car" raceDesk correctedChange).state).toOption.map
        (fun rows => rows.laps.map Lap.stint) = some [some (raceStarted.sessionId, 2)] := by
      decide +kernel
    rw [written] at laps
    exact ⟨after, rfl, Option.some.inj laps,
      attribution_follows_snapshot epochRuntime "car" {} raceStarted "5f2c" "race" "ada" "spa" ""
        1000 _ (by decide) rfl ⟨noTables, []⟩ (fun _ => rfl) correctedChange after written⟩

/-- A driver change at 10 s and an end backdated to 14 s, with a lap of 15 s inserted
before the change is written. -/
def changeWritten : List Move :=
  [.write, .insert (raceLap 15000000), .changeDriver "grace" 10000, .write, .endSession 14000,
    .write]

/-- The same with the lap inserted between the two writes. -/
def changeMissed : List Move :=
  [.write, .changeDriver "grace" 10000, .write, .insert (raceLap 15000000), .endSession 14000,
    .write]

/-- The lap is in no window of the final snapshot, and keeps what an earlier one gave it:
with one final snapshot and one lap inserted, the outcomes differ. -/
theorem outcome_depends_on_history :
    (Desk.run epochRuntime "car" raceDesk changeWritten).state =
        (Desk.run epochRuntime "car" raceDesk changeMissed).state ∧
      (Desk.run epochRuntime "car" raceDesk changeWritten).inserted = [raceLap 15000000] ∧
      (Desk.run epochRuntime "car" raceDesk changeMissed).inserted = [raceLap 15000000] ∧
      (Desk.run epochRuntime "car" raceDesk changeWritten).rows.laps.map Lap.stint =
        [some (raceStarted.sessionId, 2)] ∧
      (Desk.run epochRuntime "car" raceDesk changeMissed).rows.laps.map Lap.stint =
        [some (raceStarted.sessionId, 1)] :=
  ⟨by decide +kernel, by decide +kernel, by decide +kernel, by decide +kernel, by decide +kernel⟩

end OpenLaps.Session

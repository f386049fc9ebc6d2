import OpenLaps.Lib.Selection
import OpenLaps.Pit.TimingFeed.Rejections

/- The field in the database: the service with its two loops and its writes, which fail and
are not repeated, and what the views of the tables show of the field in memory. -/
namespace OpenLaps.Field

/-- `Batch.__bool__`. -/
def Batch.nonempty (batch : Batch) : Bool :=
  batch.session.isSome || !batch.cars.isEmpty || !batch.laps.isEmpty || !batch.passings.isEmpty

/-- The `field_*` tables, the rows in no order that a view relies on. -/
structure Tables where
  session : List SessionRow := []
  cars : List CarRow := []
  laps : List LapRow := []
  passings : List PassingRow := []

/-- `FieldDatabase.write`: one transaction. -/
def Tables.write (tables : Tables) (batch : Batch) : Tables :=
  { session := tables.session ++ batch.session.toList, cars := tables.cars ++ batch.cars,
    laps := tables.laps ++ batch.laps, passings := tables.passings ++ batch.passings }

def carsOf (source : String) (cars : List CarRow) : List CarRow :=
  cars.filter fun row => row.shown.source = source

def sessionsOf (source : String) (session : List SessionRow) : List SessionRow :=
  session.filter fun row => row.source = source

/-- `v_field_standings`, for one source and car: `DISTINCT ON` returns one of these rows. -/
def vFieldStandings (cars : List CarRow) (source number : String) : List CarRow :=
  let latestEpoch := newest CarRow.epoch (carsOf source cars)
  newest CarRow.time (latestEpoch.filter fun row => row.shown.carNumber = number)

structure FlagInterval where
  flagState : Option String
  subStatus : Option String
  startedAt : ℚ
  endedAt : Option ℚ
deriving DecidableEq

/-- The rows whose flag or sub-status is not that of the row before. -/
def flagStarts : Option SessionRow → List SessionRow → List SessionRow
  | _, [] => []
  | before, row :: rest =>
    let same := before.any fun before =>
      before.flagState = row.flagState && before.subStatus = row.subStatus
    if same then flagStarts (some row) rest else row :: flagStarts (some row) rest

def flagIntervals : List SessionRow → List FlagInterval
  | [] => []
  | row :: rest =>
    ⟨row.flagState, row.subStatus, row.time, rest.head?.map SessionRow.time⟩ ::
      flagIntervals rest

/-- `v_field_flags` of one source, without the durations. -/
def vFieldFlags (session : List SessionRow) (source : String) : List FlagInterval :=
  let changes := ((sessionsOf source session).filter fun row => row.flagState.isSome)
    |>.insertionSort fun first second => first.time ≤ second.time
  flagIntervals (flagStarts none changes)

/-- The loop a batch comes from; it waits for its own write. -/
inductive Loop where
  | source
  | ingest
deriving DecidableEq

inductive SourceLoop where
  | running
  | finished
  | failed
deriving DecidableEq

def queueSize : Nat := 256

/-- The service in memory. `writing` holds the batches that have or wait for the database
lock, in the order they asked for it. -/
structure TimingFeedService where
  state : FieldState
  snapshots : List Snapshot := []
  writing : List (Loop × Batch) := []
  source : SourceLoop := .running
  batchesDropped : Nat := 0
  documentsRejected : Nat := 0

namespace TimingFeedService

def idle (service : TimingFeedService) (loop : Loop) : Bool :=
  service.writing.all fun item => item.1 ≠ loop

def submit (service : TimingFeedService) (snapshot : Snapshot) : TimingFeedService :=
  if queueSize ≤ service.snapshots.length then
    { service with
      snapshots := service.snapshots.tail ++ [snapshot]
      batchesDropped := service.batchesDropped + 1 }
  else { service with snapshots := service.snapshots ++ [snapshot] }

/-- The part of `_write` before the lock. -/
def write (service : TimingFeedService) (loop : Loop) (batch : Batch) : TimingFeedService :=
  if batch.nonempty then { service with writing := service.writing ++ [(loop, batch)] }
  else service

def reject (service : TimingFeedService) : TimingFeedService :=
  { service with documentsRejected := service.documentsRejected + 1 }

/-- What `apply_document` raises besides a `DocumentError` ends the source loop. -/
def handleDocument (py : Runtime) (service : TimingFeedService) (text : String) (at_ : ℚ) :
    TimingFeedService :=
  match service.state.applyDocument py text at_ with
  | (next, .ok batch) => { service with state := next }.write .source batch
  | (next, .error (.documentError _)) => { service with state := next }.reject
  | (next, .error (.other _)) => { service with state := next, source := .failed }

/-- `apply_snapshot` raises a `DocumentError` or nothing. -/
def handleSnapshot (service : TimingFeedService) (snapshot : Snapshot) : TimingFeedService :=
  match service.state.applySnapshot snapshot with
  | (next, .ok batch) => { service with state := next }.write .ingest batch
  | (next, .error _) => { service with state := next }.reject

end TimingFeedService

/-- A commit whose answer was lost is counted as dropped, though its rows are there. -/
inductive WriteOutcome where
  | stored
  | refused
  | unanswered
deriving DecidableEq

inductive FeedAction where
  | document (text : String) (at_ : ℚ)
  | sourceEnds (raised : Bool)
  | submit (snapshot : Snapshot)
  | takeSnapshot
  | write (outcome : WriteOutcome)
  | others (tables : Tables)
  | restart (committed : Bool)

structure Feed where
  service : TimingFeedService
  tables : Tables

namespace Feed

/-- A service that has just started, over the tables it finds. -/
def boot (source : String) (tables : Tables) : Feed := ⟨{ state := .new source }, tables⟩

def name (feed : Feed) : String := feed.service.state.source

/-- Rows another service writes go under another source. -/
def foreign (feed : Feed) (tables : Tables) : Bool :=
  tables.session.all (fun row => row.source ≠ feed.name) &&
    tables.cars.all fun row => row.shown.source ≠ feed.name

def step (py : Runtime) (feed : Feed) : FeedAction → Option Feed
  | .document text at_ =>
    if feed.service.source = .running ∧ feed.service.idle .source then
      some { feed with service := feed.service.handleDocument py text at_ }
    else none
  | .sourceEnds raised =>
    if feed.service.source = .running ∧ feed.service.idle .source then
      some { feed with
        service := { feed.service with source := if raised then .failed else .finished } }
    else none
  | .submit snapshot => some { feed with service := feed.service.submit snapshot }
  | .takeSnapshot =>
    match feed.service.snapshots with
    | [] => none
    | snapshot :: rest =>
      if feed.service.idle .ingest then
        some { feed with
          service := { feed.service with snapshots := rest }.handleSnapshot snapshot }
      else none
  | .write outcome =>
    match feed.service.writing with
    | [] => none
    | (_, batch) :: rest =>
      some
        { service :=
            { feed.service with
              writing := rest
              batchesDropped := if outcome = .stored then feed.service.batchesDropped
                else feed.service.batchesDropped + 1 }
          tables := if outcome = .refused then feed.tables else feed.tables.write batch }
  | .others tables =>
    if feed.foreign tables then
      some { feed with
        tables :=
          { session := feed.tables.session ++ tables.session
            cars := feed.tables.cars ++ tables.cars
            laps := feed.tables.laps ++ tables.laps
            passings := feed.tables.passings ++ tables.passings } }
    else none
  | .restart committed =>
    -- a commit may be under way when the process ends
    let tables := match feed.service.writing with
      | (_, batch) :: _ => if committed then feed.tables.write batch else feed.tables
      | [] => feed.tables
    some (boot feed.name tables)

/-- The rows of this source, in the table and on their way to it. -/
def carRows (feed : Feed) : List CarRow :=
  carsOf feed.name (feed.tables.cars ++ feed.service.writing.flatMap fun item => item.2.cars)

def sessionRows (feed : Feed) : List SessionRow :=
  sessionsOf feed.name
    (feed.tables.session ++ feed.service.writing.flatMap fun item => item.2.session.toList)

/-- A document later than every row there is. -/
def inOrder (feed : Feed) (at_ : ℚ) : Bool :=
  feed.carRows.all (fun row => row.time < at_ && row.epoch < at_) &&
    feed.sessionRows.all fun row => row.time < at_

end Feed

/-- No row of the batch was replaced by a later one of the same document. -/
def FieldState.holds (state : FieldState) (cars : List CarRow) : Bool :=
  cars.all fun row => state.cars.get? row.shown.carNumber = some row

def settledBatch : FieldState × Except FeedError Batch → Bool
  | (next, .ok batch) => next.holds batch.cars
  | (_, .error _) => true

def Snapshot.numbers (snapshot : Snapshot) : List String :=
  snapshot.cars.map fun car => car.shown.carNumber

/-- Documents and snapshots come in the order of their times. No row of a document replaces
another of it, and no car is in a snapshot twice, which both ingest endpoints see to. -/
def Feed.orderly (py : Runtime) (feed : Feed) : FeedAction → Bool
  | .document text at_ =>
    feed.inOrder at_ && settledBatch (feed.service.state.applyDocument py text at_)
  | .takeSnapshot =>
    feed.service.snapshots.head?.all fun snapshot =>
      feed.inOrder snapshot.at_ && decide snapshot.numbers.Nodup
  | _ => true

/-- The service has lost nothing since it started. -/
def Feed.Lossless (feed : Feed) : Prop :=
  feed.service.batchesDropped = 0 ∧ feed.service.documentsRejected = 0 ∧
    feed.service.source ≠ .failed

/-- Whatever was lost, the row held for a car is the one the view shows once it is stored. -/
def Feed.ShowsStored (feed : Feed) : Prop :=
  feed.service.state.epoch.isSome = true → ∀ number row,
    feed.service.state.cars.get? number = some row → row ∈ feed.tables.cars →
      ∀ shown, shown ∈ vFieldStandings feed.tables.cars feed.name number ↔ shown = row

/-- When nothing was lost or is on its way, the view shows the cars held and no other. -/
def Feed.Mirrored (feed : Feed) : Prop :=
  feed.Lossless → feed.service.writing = [] → feed.service.state.epoch.isSome = true →
    feed.service.state.cars.entries ≠ [] → ∀ number shown,
      shown ∈ vFieldStandings feed.tables.cars feed.name number ↔
        feed.service.state.cars.get? number = some shown

/-- When nothing was lost or is on its way, the one interval still open has the flag held. -/
def Feed.FlagShown (feed : Feed) : Prop :=
  feed.Lossless → feed.service.writing = [] → ∀ row, feed.service.state.session = some row →
    row.flagState.isSome = true → ∃ closed interval,
      vFieldFlags feed.tables.session feed.name = closed ++ [interval] ∧
        interval.flagState = row.flagState ∧ interval.subStatus = row.subStatus ∧
        interval.endedAt = none ∧ ∀ other ∈ closed, other.endedAt.isSome = true

/-- The cars after some rows: each as before, or at one of the rows. -/
def Overlaid (base now : Dict String CarRow) (rows : List CarRow) : Prop :=
  ∀ number, now.get? number = base.get? number ∨
    ∃ row ∈ rows, row.shown.carNumber = number ∧ now.get? number = some row

theorem Overlaid.refl (cars : Dict String CarRow) : Overlaid cars cars [] :=
  fun _ => Or.inl rfl

theorem Overlaid.trans {base middle now : Dict String CarRow} {first second : List CarRow}
    (one : Overlaid base middle first) (two : Overlaid middle now second) :
    Overlaid base now (first ++ second) := by
  intro number
  rcases two number with same | ⟨row, member, own, found⟩
  · rcases one number with old | ⟨row, member, own, found⟩
    · exact Or.inl (same.trans old)
    · exact Or.inr ⟨row, List.mem_append_left _ member, own, same.trans found⟩
  · exact Or.inr ⟨row, List.mem_append_right _ member, own, found⟩

section Emission

variable (source : String) (session : Option SessionRow) (epoch : ℚ)

/-- One row changes its car to what it emits, or nothing. -/
theorem emitRow_overlaid (emitted : Emitted) (row : CarRow) :
    ∃ more, (emitRow source session epoch emitted row).changed = emitted.changed ++ more ∧
      Overlaid emitted.cars (emitRow source session epoch emitted row).cars more ∧
      ∀ other ∈ more, other = { row with epoch := epoch } ∧
        (emitRow source session epoch emitted row).cars.get? row.shown.carNumber = some other := by
  have set : Overlaid emitted.cars
      (emitted.cars.set row.shown.carNumber { row with epoch := epoch })
      [{ row with epoch := epoch }] := by
    intro number
    rw [Dict.get?_set]
    split
    · rename_i own
      exact Or.inr ⟨_, List.mem_singleton_self _, own, rfl⟩
    · exact Or.inl rfl
  cases found : emitted.cars.get? row.shown.carNumber with
  | none =>
    refine ⟨[{ row with epoch := epoch }], ?_, ?_, by simp [emitRow, found, Dict.get?_set]⟩
    · simp [emitRow, found]
    · simpa [emitRow, found] using set
  | some previous =>
    cases same : ({ row with epoch := epoch } : CarRow).sameAs previous with
    | true =>
      refine ⟨[], ?_, ?_, by simp⟩
      · simp [emitRow, found, same]
      · simpa [emitRow, found, same] using Overlaid.refl emitted.cars
    | false =>
      refine ⟨[{ row with epoch := epoch }], ?_, ?_,
        by simp [emitRow, found, same, Dict.get?_set]⟩
      · simp [emitRow, found, same]
      · simpa [emitRow, found, same] using set

theorem emitted_overlaid (rows : List CarRow) (start : Emitted) :
    ∃ more, (rows.foldl (emitRow source session epoch) start).changed = start.changed ++ more ∧
      Overlaid start.cars (rows.foldl (emitRow source session epoch) start).cars more ∧
      ∀ other ∈ more, ∃ row ∈ rows, other = { row with epoch := epoch } := by
  induction rows generalizing start with
  | nil => exact ⟨[], by simp, Overlaid.refl start.cars, by simp⟩
  | cons row rest ih =>
    obtain ⟨first, emitted, one, from_⟩ := emitRow_overlaid source session epoch start row
    obtain ⟨second, later, two, origin⟩ := ih (emitRow source session epoch start row)
    refine ⟨first ++ second, ?_, one.trans two, ?_⟩
    · rw [List.foldl_cons, later, emitted, List.append_assoc]
    · intro other member
      rcases List.mem_append.mp member with here | there
      · exact ⟨row, List.mem_cons_self, (from_ other here).1⟩
      · obtain ⟨row, inside, same⟩ := origin other there
        exact ⟨row, List.mem_cons_of_mem _ inside, same⟩

/-- With each car on one row, every row emitted is held in the end. -/
theorem emitted_held (rows : List CarRow) (start : Emitted)
    (distinct : (rows.map fun row => row.shown.carNumber).Nodup) :
    ∃ more, (rows.foldl (emitRow source session epoch) start).changed = start.changed ++ more ∧
      ∀ row ∈ more, (rows.foldl (emitRow source session epoch) start).cars.get?
        row.shown.carNumber = some row := by
  induction rows generalizing start with
  | nil => exact ⟨[], by simp, by simp⟩
  | cons row rest ih =>
    obtain ⟨absent, distinct⟩ := List.nodup_cons.mp distinct
    obtain ⟨first, emitted, -, from_⟩ := emitRow_overlaid source session epoch start row
    obtain ⟨second, later, held⟩ := ih (emitRow source session epoch start row) distinct
    obtain ⟨more, -, overlaid, origin⟩ :=
      emitted_overlaid source session epoch rest (emitRow source session epoch start row)
    refine ⟨first ++ second, ?_, ?_⟩
    · rw [List.foldl_cons, later, emitted, List.append_assoc]
    · intro other member
      rw [List.foldl_cons]
      rcases List.mem_append.mp member with here | there
      · obtain ⟨rfl, found⟩ := from_ other here
        -- no later row is of the same car
        rcases overlaid row.shown.carNumber with same | ⟨clash, inside, own, -⟩
        · exact same.trans found
        · obtain ⟨twin, listed, rfl⟩ := origin clash inside
          exact absurd (List.mem_map.mpr ⟨twin, listed, own⟩) absent
      · exact held other there

end Emission

/-- The session held is of this source. -/
def FieldState.Own (state : FieldState) : Prop :=
  ∀ row, state.session = some row → row.source = state.source

/-- What a document does to the field: the session row and the car rows it emits are all that
changes, in the epoch there was or in one that starts now. -/
structure Moved (at_ : ℚ) (state next : FieldState) (session : Option SessionRow)
    (cars : List CarRow) : Prop where
  source : next.source = state.source
  stamps : ∀ row ∈ cars, row.time = at_ ∧ row.shown.source = state.source
  cars : next.epoch = state.epoch ∧ Overlaid state.cars next.cars cars ∨
    next.epoch = some at_ ∧ Overlaid .empty next.cars cars
  stamped : state.Stamped → next.Stamped
  heard : next.session = session.or state.session
  told : state.Own → ∀ row, session = some row → row.time = at_ ∧ row.source = state.source

namespace Moved

variable {at_ : ℚ} {state middle next : FieldState} {session later : Option SessionRow}
  {cars more : List CarRow}

theorem still (source : next.source = state.source) (cars : next.cars = state.cars)
    (epoch : next.epoch = state.epoch) (session : next.session = state.session) :
    Moved at_ state next none [] := by
  refine ⟨source, by simp, Or.inl ⟨epoch, ?_⟩, ?_, session, by simp⟩
  · rw [cars]
    exact Overlaid.refl state.cars
  · intro stamped
    rw [FieldState.Stamped, cars, epoch]
    exact stamped

theorem own (moved : Moved at_ state next session cars) (own : state.Own) : next.Own := by
  intro row found
  rw [moved.source]
  rw [moved.heard] at found
  cases session with
  | none => exact own row found
  | some said =>
    cases found
    exact (moved.told own _ rfl).2

theorem trans (first : Moved at_ state middle session cars)
    (second : Moved at_ middle next later more) :
    Moved at_ state next (later.or session) (cars ++ more) := by
  constructor
  · exact second.source.trans first.source
  · intro row member
    rcases List.mem_append.mp member with here | there
    · exact first.stamps row here
    · rw [← first.source]
      exact second.stamps row there
  · rcases second.cars with ⟨epoch, overlaid⟩ | ⟨epoch, overlaid⟩
    · rcases first.cars with ⟨before, base⟩ | ⟨before, base⟩
      · exact Or.inl ⟨epoch.trans before, base.trans overlaid⟩
      · exact Or.inr ⟨epoch.trans before, base.trans overlaid⟩
    · refine Or.inr ⟨epoch, fun number => ?_⟩
      exact (overlaid number).imp_right fun ⟨row, member, rest⟩ =>
        ⟨row, List.mem_append_right _ member, rest⟩
  · exact fun stamped => second.stamped (first.stamped stamped)
  · rw [second.heard, first.heard, Option.or_assoc]
  · intro own row found
    cases later with
    | none => exact first.told own row found
    | some said =>
      cases found
      rw [← first.source]
      exact second.told (first.own own) _ rfl

end Moved

section Documents

variable {py : Runtime} {at_ : ℚ} {state next : FieldState}

theorem moved_diff {rows : List CarRow} (full : Bool)
    (stamps : ∀ row ∈ rows, row.time = at_ ∧ row.shown.source = state.source) :
    Moved at_ state (state.diff rows at_ full).1 none (state.diff rows at_ full).2.1 := by
  obtain ⟨emitted, all, cars, changed, -⟩ := diff_emitted state rows at_ full
  obtain ⟨more, listed, overlaid, origin⟩ := emitted_overlaid state.source state.session
    ((state.diff rows at_ full).1.epoch.getD at_) rows ⟨state.base rows full, [], []⟩
  obtain ⟨source, -, -, session⟩ := diff_frame state rows at_ full
  rw [← all] at listed overlaid
  refine ⟨source, ?_, ?_, stamped_diff, session, by simp⟩
  · intro row member
    rw [changed, listed] at member
    obtain ⟨other, inside, rfl⟩ := origin row (by simpa using member)
    exact stamps other inside
  · rw [cars, changed, listed, diff_epoch]
    rw [FieldState.base] at overlaid
    split
    · rename_i resets
      rw [if_pos resets] at overlaid
      exact Or.inr ⟨rfl, overlaid⟩
    · rename_i same
      rw [if_neg same] at overlaid
      exact Or.inl ⟨rfl, overlaid⟩

theorem standingOf_source {source : String} {competitors : Dict String Competitor} {line : Int}
    {attributes : Dict String String} {place : Option String → Nat} {standing : Standing}
    (derived : standingOf py source competitors line attributes place = .ok standing) :
    standing.source = source := by
  unfold standingOf at derived
  simp only [bind, Except.bind, pure, Except.pure] at derived
  repeat' split at derived
  all_goals first | cases derived; rfl | cases derived

theorem standingsLoop_source {source : String} {competitors : Dict String Competitor}
    {entries : List (Int × Dict String String)} {counts : Dict (Option String) Nat}
    {standings : List Standing}
    (derived : standingsLoop py source competitors entries counts = .ok standings) :
    ∀ standing ∈ standings, standing.source = source := by
  induction entries generalizing counts standings with
  | nil =>
    cases derived
    simp
  | cons entry rest ih =>
    unfold standingsLoop at derived
    dsimp only [bind, Except.bind] at derived
    split at derived
    · cases derived
    · rename_i standing here
      split at derived
      · cases derived
      · rename_i later read
        cases derived
        exact List.forall_mem_cons.mpr ⟨standingOf_source here, ih read⟩

theorem moved_rederive {full : Bool} {changes : Changes}
    (done : state.rederive py at_ full = (next, .ok changes)) :
    Moved at_ state next changes.session changes.cars := by
  unfold FieldState.rederive at done
  split at done
  · cases done
  · rename_i rows read
    cases done
    apply moved_diff
    intro row member
    refine ⟨rowsFromLines_timed read row member, ?_⟩
    unfold FieldState.rowsFromLines at read
    cases derived : state.standings py with
    | error error =>
      rw [derived] at read
      cases read
    | ok standings =>
      rw [derived] at read
      cases read
      obtain ⟨standing, inside, rfl⟩ := List.mem_map.mp member
      exact standingsLoop_source derived standing inside

theorem sessionClock_source {element : Element} {row other : SessionRow}
    (read : sessionClock py row element = .ok other) : other.source = row.source := by
  unfold sessionClock at read
  simp only [bind, Except.bind, pure, Except.pure] at read
  repeat' split at read
  all_goals cases read
  all_goals rfl

theorem updatedSession_source {element : Element} {row : SessionRow} (own : state.Own)
    (read : state.updatedSession py element at_ = .ok row) : row.source = state.source := by
  unfold FieldState.updatedSession at read
  rw [sessionClock_source read]
  have held : (state.session.getD (.new at_ state.source)).source = state.source := by
    cases found : state.session with
    | none => rfl
    | some row => exact own row found
  split <;> split <;> split <;> exact held

theorem placed_source (py : Runtime) (state : FieldState) (element : Element) :
    (state.placed py element).source = state.source := by
  unfold FieldState.placed
  repeat' split
  all_goals rfl

/-- An element that raises leaves the rows as they are. -/
theorem moved_raised {element : Element} {error : FeedError}
    (done : state.applyElement py at_ element = (next, .error error)) :
    Moved at_ state next none [] := by
  rw [element_raised done]
  obtain ⟨cars, session, epoch⟩ := placed_frame py state element
  exact .still (placed_source py state element) cars epoch session

theorem moved_element {element : Element} {changes : Changes}
    (done : state.applyElement py at_ element = (next, .ok changes)) :
    Moved at_ state next changes.session changes.cars := by
  unfold FieldState.applyElement at done
  split at done
  · unfold FieldState.leaderboard at done
    split at done
    · cases done
    · rename_i lines read
      dsimp only at done
      split at done
      · cases done
      · have placed : Moved at_ state
            { state with lines := mergeLines (isPart py element) state.lines lines } none [] :=
          .still rfl rfl rfl rfl
        simpa using placed.trans (moved_rederive done)
  · split at done
    · unfold FieldState.register at done
      dsimp only at done
      have placed : Moved at_ state { state with competitors := competitorList element } none [] :=
        .still rfl rfl rfl rfl
      split at done
      · cases done
        exact placed
      · simpa using placed.trans (moved_rederive done)
    · split at done
      · rw [sessionUpdate_eq] at done
        split at done
        · cases done
        · rename_i row read
          split at done
          · cases done
            exact .still rfl rfl rfl rfl
          · cases done
            refine ⟨rfl, by simp [Changes.none], Or.inl ⟨rfl, Overlaid.refl _⟩, id, rfl, ?_⟩
            intro own told here
            cases here
            exact ⟨updatedSession_time read, updatedSession_source own read⟩
      · split at done
        · split at done
          · cases done
          · cases done
            exact .still rfl rfl rfl rfl
        · cases done
          exact .still rfl rfl rfl rfl

/-- The elements before the one that raises have moved the field, though no batch tells. -/
theorem moved_elements (py : Runtime) (at_ : ℚ) (elements : List Element) (state : FieldState)
    (so : Changes) :
    ∃ session cars, Moved at_ state (state.applyElements py at_ elements so).1 session cars ∧
      ∀ changes, (state.applyElements py at_ elements so).2 = .ok changes →
        changes.session = session.or so.session ∧ changes.cars = so.cars ++ cars := by
  induction elements generalizing state so with
  | nil =>
    refine ⟨none, [], .still rfl rfl rfl rfl, fun changes done => ?_⟩
    cases done
    simp
  | cons element rest ih =>
    rw [FieldState.applyElements]
    split
    · rename_i middle error raised
      exact ⟨none, [], moved_raised raised, fun changes done => (by cases done)⟩
    · rename_i middle own done
      obtain ⟨session, cars, moved, told⟩ := ih middle
        { session := own.session.or so.session, cars := so.cars ++ own.cars,
          laps := so.laps ++ own.laps, passings := so.passings ++ own.passings }
      refine ⟨_, _, (moved_element done).trans moved, fun changes result => ?_⟩
      obtain ⟨first, second⟩ := told changes result
      rw [first, second, Option.or_assoc, List.append_assoc]
      exact ⟨rfl, rfl⟩

theorem moved_document (py : Runtime) (at_ : ℚ) (state : FieldState) (text : String) :
    ∃ session cars, Moved at_ state (state.applyDocument py text at_).1 session cars ∧
      ∀ batch, (state.applyDocument py text at_).2 = .ok batch →
        batch.session = session ∧ batch.cars = cars := by
  unfold FieldState.applyDocument
  split
  · exact ⟨none, [], .still rfl rfl rfl rfl, fun batch done => (by cases done)⟩
  · rename_i root parsed
    have counted : Moved at_ state { state with documents := state.documents + 1 } none [] :=
      .still rfl rfl rfl rfl
    obtain ⟨session, cars, moved, told⟩ := moved_elements py at_ root.parts
      { state with documents := state.documents + 1 } .none
    refine ⟨_, _, counted.trans moved, fun batch done => ?_⟩
    dsimp only at done
    cases result : (FieldState.applyElements py at_
        { state with documents := state.documents + 1 } root.parts .none).2 with
    | error error =>
      rw [result] at done
      cases done
    | ok changes =>
      rw [result] at done
      cases done
      obtain ⟨first, second⟩ := told changes result
      exact ⟨by simpa [Changes.none] using first, by simpa [Changes.none] using second⟩

theorem diff_holds {rows : List CarRow} (full : Bool)
    (distinct : (rows.map fun row => row.shown.carNumber).Nodup) :
    (state.diff rows at_ full).1.holds (state.diff rows at_ full).2.1 = true := by
  obtain ⟨emitted, all, cars, changed, -⟩ := diff_emitted state rows at_ full
  obtain ⟨more, listed, held⟩ := emitted_held state.source state.session
    ((state.diff rows at_ full).1.epoch.getD at_) rows ⟨state.base rows full, [], []⟩ distinct
  rw [← all] at listed held
  rw [FieldState.holds, List.all_eq_true]
  intro row member
  rw [changed, listed] at member
  rw [decide_eq_true_eq, cars]
  exact held row (by simpa using member)

theorem snapshot_settles (state : FieldState) (snapshot : Snapshot) (distinct : snapshot.numbers.Nodup) :
    settledBatch (state.applySnapshot snapshot) = true := by
  unfold FieldState.applySnapshot
  dsimp only
  split
  · rfl
  · apply diff_holds
    rw [List.map_map]
    exact distinct

theorem moved_snapshot (state : FieldState) (snapshot : Snapshot) :
    ∃ session cars, Moved snapshot.at_ state (state.applySnapshot snapshot).1 session cars ∧
      ∀ batch, (state.applySnapshot snapshot).2 = .ok batch →
        batch.session = session ∧ batch.cars = cars := by
  have told : ∀ session : Option SessionRow,
      (∀ row, session = some row → row.time = snapshot.at_ ∧ row.source = state.source) →
      Moved snapshot.at_ state
        { state with documents := state.documents + 1, session := session.or state.session }
        session [] := by
    intro session stamps
    exact ⟨rfl, by simp, Or.inl ⟨rfl, Overlaid.refl _⟩, id, rfl, fun _ => stamps⟩
  unfold FieldState.applySnapshot
  dsimp only
  generalize chosen : (snapshot.session.map fun row =>
    ({ row with time := snapshot.at_, source := state.source } : SessionRow)).filter
      (fun row => !state.session.any row.sameAs) = session
  have stamps : ∀ row, session = some row →
      row.time = snapshot.at_ ∧ row.source = state.source := by
    intro row found
    rw [found, Option.filter_eq_some_iff] at chosen
    obtain ⟨original, -, rfl⟩ := Option.map_eq_some_iff.mp chosen.1
    exact ⟨rfl, rfl⟩
  split
  · exact ⟨session, [], told session stamps, fun batch done => (by cases done)⟩
  · refine ⟨_, _, (told session stamps).trans (moved_diff true ?_), fun batch done => ?_⟩
    · intro row member
      obtain ⟨car, -, rfl⟩ := List.mem_map.mp member
      exact ⟨rfl, rfl⟩
    · cases done
      exact ⟨by simp, by simp⟩

end Documents

/-- The rows written so far and those on their way belong to the field held: none is of a
later epoch, and in the epoch there is, none of a car is later than the row held for it. -/
structure Feed.Sound (feed : Feed) : Prop where
  keyed : ∀ number row, feed.service.state.cars.get? number = some row →
    row.shown.carNumber = number ∧ row.shown.source = feed.name
  own : feed.service.state.Own
  stamped : feed.service.state.Stamped
  latest : ∀ epoch, feed.service.state.epoch = some epoch → ∀ row ∈ feed.carRows,
    row.epoch ≤ epoch
  newest : ∀ epoch, feed.service.state.epoch = some epoch → ∀ row ∈ feed.carRows,
    row.epoch = epoch → ∃ held, feed.service.state.cars.get? row.shown.carNumber = some held ∧
      (row = held ∨ row.time < held.time)
  kept : feed.Lossless → ∀ number row, feed.service.state.cars.get? number = some row →
    row ∈ feed.carRows
  told : feed.Lossless → ∀ row, feed.service.state.session = some row →
    row ∈ feed.sessionRows ∧ ∀ other ∈ feed.sessionRows, other = row ∨ other.time < row.time

theorem sound_boot (source : String) (tables : Tables) : (Feed.boot source tables).Sound := by
  constructor
  · intro number row found
    cases found
  · intro row found
    cases found
  · intro epoch found
    cases found
  · intro epoch found
    cases found
  · intro epoch found
    cases found
  · intro _ number row found
    cases found
  · intro _ row found
    cases found

@[simp] theorem carsOf_append (source : String) (first second : List CarRow) :
    carsOf source (first ++ second) = carsOf source first ++ carsOf source second :=
  List.filter_append _ _

@[simp] theorem sessionsOf_append (source : String) (first second : List SessionRow) :
    sessionsOf source (first ++ second) = sessionsOf source first ++ sessionsOf source second :=
  List.filter_append _ _

section Steps

variable {py : Runtime} {feed next : Feed}

theorem carRows_congr (feed next : Feed) (state : next.service.state = feed.service.state)
    (writing : next.service.writing = feed.service.writing)
    (tables : next.tables = feed.tables) :
    next.carRows = feed.carRows ∧ next.sessionRows = feed.sessionRows := by
  rw [Feed.carRows, Feed.carRows, Feed.sessionRows, Feed.sessionRows, Feed.name, Feed.name, state,
    writing, tables]
  exact ⟨rfl, rfl⟩

/-- Rows come to be fewer only where something is lost. -/
theorem sound_fewer (sound : feed.Sound) (state : next.service.state = feed.service.state)
    (cars : next.carRows ⊆ feed.carRows)
    (lossless : next.Lossless → feed.Lossless ∧ next.carRows = feed.carRows ∧
      next.sessionRows = feed.sessionRows) : next.Sound := by
  have name : next.name = feed.name := congrArg FieldState.source state
  constructor
  · rw [state, name]
    exact sound.keyed
  · rw [state]
    exact sound.own
  · rw [state]
    exact sound.stamped
  · rw [state]
    exact fun epoch now row member => sound.latest epoch now row (cars member)
  · rw [state]
    exact fun epoch now row member => sound.newest epoch now row (cars member)
  · rw [state]
    intro nothing
    obtain ⟨before, same, -⟩ := lossless nothing
    rw [same]
    exact sound.kept before
  · rw [state]
    intro nothing
    obtain ⟨before, -, same⟩ := lossless nothing
    rw [same]
    exact sound.told before

/-- A document in order, with the part of what it emits that gets on its way. -/
theorem sound_moved {at_ : ℚ} (session : Option SessionRow) (cars stored : List CarRow)
    (heard : List SessionRow) (sound : feed.Sound) (order : feed.inOrder at_ = true)
    (moved : Moved at_ feed.service.state next.service.state session cars)
    (rows : next.carRows = feed.carRows ++ stored)
    (held : ∀ row ∈ stored, next.service.state.cars.get? row.shown.carNumber = some row)
    (sessions : next.sessionRows = feed.sessionRows ++ heard)
    (lossless : next.Lossless → feed.Lossless ∧ stored = cars ∧ heard = session.toList) :
    next.Sound := by
  have stamped := moved.stamped sound.stamped
  obtain ⟨before, earlier⟩ : (∀ row ∈ feed.carRows, row.time < at_ ∧ row.epoch < at_) ∧
      ∀ row ∈ feed.sessionRows, row.time < at_ := by
    simpa [Feed.inOrder, List.all_eq_true] using order
  constructor
  · intro number row found
    have fresh : ∀ row ∈ cars, row.shown.carNumber = number →
        row.shown.carNumber = number ∧ row.shown.source = next.name :=
      fun row member own => ⟨own, (moved.stamps row member).2.trans moved.source.symm⟩
    rcases moved.cars with ⟨-, overlaid⟩ | ⟨-, overlaid⟩ <;>
      rcases overlaid number with same | ⟨other, member, own, here⟩
    · rw [found] at same
      have old := sound.keyed number row same.symm
      exact ⟨old.1, old.2.trans moved.source.symm⟩
    · rw [found] at here
      cases here
      exact fresh row member own
    · rw [found] at same
      cases same
    · rw [found] at here
      cases here
      exact fresh row member own
  · exact moved.own sound.own
  · exact stamped
  · intro epoch now row member
    rw [rows] at member
    rcases List.mem_append.mp member with old | new
    · rcases moved.cars with ⟨same, -⟩ | ⟨started, -⟩
      · exact sound.latest epoch (same.symm.trans now) row old
      · rw [now] at started
        cases started
        exact (before row old).2.le
    · exact (stamped epoch now _ row (held row new)).le
  · intro epoch now row member current
    rw [rows] at member
    rcases List.mem_append.mp member with old | new
    · rcases moved.cars with ⟨same, overlaid⟩ | ⟨started, -⟩
      · obtain ⟨entry, found, latest⟩ := sound.newest epoch (same.symm.trans now) row old current
        rcases overlaid row.shown.carNumber with still | ⟨other, inside, -, here⟩
        · exact ⟨entry, still.trans found, latest⟩
        · refine ⟨other, here, Or.inr ?_⟩
          rw [(moved.stamps other inside).1]
          exact (before row old).1
      · rw [now] at started
        cases started
        exact absurd current (before row old).2.ne
    · exact ⟨row, held row new, Or.inl rfl⟩
  · intro nothing number row found
    obtain ⟨quiet, all, -⟩ := lossless nothing
    rw [rows, all]
    rcases moved.cars with ⟨-, overlaid⟩ | ⟨-, overlaid⟩ <;>
      rcases overlaid number with same | ⟨other, member, -, here⟩
    · rw [found] at same
      exact List.mem_append_left _ (sound.kept quiet number row same.symm)
    · rw [found] at here
      cases here
      exact List.mem_append_right _ member
    · rw [found] at same
      cases same
    · rw [found] at here
      cases here
      exact List.mem_append_right _ member
  · intro nothing row found
    obtain ⟨quiet, -, all⟩ := lossless nothing
    rw [sessions, all]
    rw [moved.heard] at found
    cases new : session with
    | none =>
      rw [new] at found
      simpa using sound.told quiet row found
    | some own =>
      rw [new, Option.some_or] at found
      cases found
      refine ⟨by simp, fun other member => ?_⟩
      rcases List.mem_append.mp member with old | here
      · right
        rw [(moved.told sound.own row new).1]
        exact earlier other old
      · exact Or.inl (by simpa using here)

/-- An empty batch leaves no rows to write. -/
theorem write_rows (service : TimingFeedService) (loop : Loop) (batch : Batch) :
    ((service.write loop batch).writing.flatMap fun item => item.2.cars) =
        (service.writing.flatMap fun item => item.2.cars) ++ batch.cars ∧
      ((service.write loop batch).writing.flatMap fun item => item.2.session.toList) =
        (service.writing.flatMap fun item => item.2.session.toList) ++ batch.session.toList := by
  unfold TimingFeedService.write
  split
  · simp
  · rename_i empty
    simp only [Batch.nonempty, Bool.or_eq_true, not_or] at empty
    have cars : batch.cars = [] := by simpa using empty.1.1.2
    have session : batch.session = none := by simpa using empty.1.1.1
    simp [cars, session]

theorem write_frame (service : TimingFeedService) (loop : Loop) (batch : Batch) :
    (service.write loop batch).state = service.state ∧
      (service.write loop batch).batchesDropped = service.batchesDropped ∧
      (service.write loop batch).documentsRejected = service.documentsRejected ∧
      (service.write loop batch).source = service.source := by
  unfold TimingFeedService.write
  split <;> exact ⟨rfl, rfl, rfl, rfl⟩

/-- A document or snapshot that is accepted. -/
theorem sound_accepted {at_ : ℚ} {state : FieldState} {session : Option SessionRow}
    {cars : List CarRow} {batch : Batch} (loop : Loop) (sound : feed.Sound)
    (order : feed.inOrder at_ = true) (moved : Moved at_ feed.service.state state session cars)
    (told : batch.session = session ∧ batch.cars = cars) (holds : state.holds batch.cars = true) :
    Feed.Sound ⟨{ feed.service with state := state }.write loop batch, feed.tables⟩ := by
  obtain ⟨rfl, rfl⟩ := told
  obtain ⟨same, dropped, rejected, source⟩ :=
    write_frame { feed.service with state := state } loop batch
  obtain ⟨cars, sessions⟩ := write_rows { feed.service with state := state } loop batch
  have name : Feed.name ⟨{ feed.service with state := state }.write loop batch, feed.tables⟩ =
      feed.name := (congrArg FieldState.source same).trans moved.source
  apply sound_moved batch.session batch.cars batch.cars batch.session.toList sound order
  · rw [same]
    exact moved
  · have own : carsOf feed.name batch.cars = batch.cars :=
      List.filter_eq_self.mpr
        fun row member => decide_eq_true (moved.stamps row member).2
    rw [Feed.carRows, name, cars, ← List.append_assoc, carsOf_append, own]
    rfl
  · rw [same]
    simpa [FieldState.holds, List.all_eq_true] using holds
  · have own : sessionsOf feed.name batch.session.toList = batch.session.toList :=
      List.filter_eq_self.mpr fun row member =>
        decide_eq_true (moved.told sound.own row (Option.mem_toList.mp member)).2
    rw [Feed.sessionRows, name, sessions, ← List.append_assoc, sessionsOf_append, own]
    rfl
  · intro nothing
    refine ⟨?_, rfl, rfl⟩
    rw [Feed.Lossless, dropped, rejected, source] at nothing
    exact nothing

/-- A document or snapshot that raises: what it moved is lost. -/
theorem sound_raised (next : Feed) {at_ : ℚ} {session : Option SessionRow} {cars : List CarRow}
    (sound : feed.Sound) (order : feed.inOrder at_ = true)
    (moved : Moved at_ feed.service.state next.service.state session cars)
    (writing : next.service.writing = feed.service.writing) (tables : next.tables = feed.tables)
    (lost : ¬next.Lossless) : next.Sound := by
  have name : next.name = feed.name := moved.source
  apply sound_moved session cars [] [] sound order moved
  · rw [Feed.carRows, Feed.carRows, writing, tables, name, List.append_nil]
  · simp
  · rw [Feed.sessionRows, Feed.sessionRows, writing, tables, name, List.append_nil]
  · exact fun nothing => absurd nothing lost

theorem sound_document {text : String} {at_ : ℚ} (sound : feed.Sound)
    (orderly : feed.orderly py (.document text at_) = true) :
    Feed.Sound { feed with service := feed.service.handleDocument py text at_ } := by
  obtain ⟨order, settled⟩ := (Bool.and_eq_true _ _).mp orderly
  obtain ⟨session, cars, moved, told⟩ := moved_document py at_ feed.service.state text
  unfold TimingFeedService.handleDocument
  split
  · rename_i state batch applied
    rw [applied] at moved told settled
    exact sound_accepted .source sound order moved (told batch rfl) settled
  · rename_i state message applied
    rw [applied] at moved
    exact sound_raised ⟨{ feed.service with state := state }.reject, feed.tables⟩ sound
      order moved rfl rfl fun nothing => absurd nothing.2.1 (Nat.succ_ne_zero _)
  · rename_i state error applied
    rw [applied] at moved
    exact sound_raised
      ⟨{ feed.service with state := state, source := .failed }, feed.tables⟩ sound
      order moved rfl rfl fun nothing => nothing.2.2 rfl

theorem sound_snapshot {snapshot : Snapshot} (sound : feed.Sound)
    (order : feed.inOrder snapshot.at_ = true) (distinct : snapshot.numbers.Nodup) :
    Feed.Sound { feed with service := feed.service.handleSnapshot snapshot } := by
  have settled := snapshot_settles feed.service.state snapshot distinct
  obtain ⟨session, cars, moved, told⟩ := moved_snapshot feed.service.state snapshot
  unfold TimingFeedService.handleSnapshot
  split
  · rename_i state batch applied
    rw [applied] at moved told settled
    exact sound_accepted .ingest sound order moved (told batch rfl) settled
  · rename_i state error applied
    rw [applied] at moved
    exact sound_raised ⟨{ feed.service with state := state }.reject, feed.tables⟩ sound
      order moved rfl rfl fun nothing => absurd nothing.2.1 (Nat.succ_ne_zero _)

theorem sound_step {action : FeedAction} (sound : feed.Sound)
    (orderly : feed.orderly py action = true) (taken : feed.step py action = some next) :
    next.Sound := by
  cases action with
  | document text at_ =>
    simp only [Feed.step] at taken
    split at taken
    · cases taken
      exact sound_document sound orderly
    · cases taken
  | sourceEnds raised =>
    simp only [Feed.step] at taken
    split at taken
    · rename_i running
      cases taken
      refine sound_fewer sound rfl (List.Subset.refl _) fun nothing => ⟨?_, rfl, rfl⟩
      refine ⟨nothing.1, nothing.2.1, ?_⟩
      rw [running.1]
      decide
    · cases taken
  | submit snapshot =>
    cases taken
    have kept : (feed.service.submit snapshot).state = feed.service.state ∧
        (feed.service.submit snapshot).writing = feed.service.writing ∧
        (feed.service.submit snapshot).documentsRejected = feed.service.documentsRejected ∧
        (feed.service.submit snapshot).source = feed.service.source ∧
        feed.service.batchesDropped ≤ (feed.service.submit snapshot).batchesDropped := by
      unfold TimingFeedService.submit
      split
      · exact ⟨rfl, rfl, rfl, rfl, Nat.le_succ _⟩
      · exact ⟨rfl, rfl, rfl, rfl, le_refl _⟩
    obtain ⟨state, writing, rejected, source, dropped⟩ := kept
    obtain ⟨cars, sessions⟩ :=
      carRows_congr feed { feed with service := feed.service.submit snapshot } state writing rfl
    refine sound_fewer sound state (cars ▸ List.Subset.refl _) fun nothing => ⟨?_, cars, sessions⟩
    exact ⟨Nat.le_zero.mp (dropped.trans_eq nothing.1), rejected ▸ nothing.2.1,
      source ▸ nothing.2.2⟩
  | takeSnapshot =>
    simp only [Feed.step] at taken
    split at taken
    · cases taken
    · rename_i snapshot rest queued
      split at taken
      · cases taken
        have order : feed.inOrder snapshot.at_ = true ∧ snapshot.numbers.Nodup := by
          simpa [Feed.orderly, queued] using orderly
        have waiting : Feed.Sound
            { feed with service := { feed.service with snapshots := rest } } :=
          sound_fewer sound rfl (List.Subset.refl _) fun nothing => ⟨nothing, rfl, rfl⟩
        exact sound_snapshot waiting order.1 order.2
      · cases taken
  | write outcome =>
    simp only [Feed.step] at taken
    split at taken
    · cases taken
    · rename_i loop batch rest writing
      cases taken
      refine sound_fewer sound rfl ?_ fun nothing => ?_
      · intro row
        cases outcome <;>
          simp [Feed.carRows, carsOf, Feed.name, writing, Tables.write] <;> tauto
      · have stored : outcome = .stored := by
          by_contra other
          rw [Feed.Lossless, if_neg other] at nothing
          exact absurd nothing.1 (Nat.succ_ne_zero _)
        rw [stored] at nothing ⊢
        refine ⟨nothing, ?_, ?_⟩
        · simp [Feed.carRows, Feed.name, Tables.write, writing]
        · simp [Feed.sessionRows, Feed.name, Tables.write, writing]
  | others tables =>
    simp only [Feed.step] at taken
    split at taken
    · rename_i foreign
      cases taken
      obtain ⟨sessions, cars⟩ : (∀ row ∈ tables.session, row.source ≠ feed.name) ∧
          ∀ row ∈ tables.cars, row.shown.source ≠ feed.name := by
        simpa [Feed.foreign, List.all_eq_true] using foreign
      have none : carsOf feed.name tables.cars = [] := by
        simpa [carsOf, List.filter_eq_nil_iff] using cars
      have still : sessionsOf feed.name tables.session = [] := by
        simpa [sessionsOf, List.filter_eq_nil_iff] using sessions
      have same : carsOf feed.name (feed.tables.cars ++ tables.cars ++
            feed.service.writing.flatMap fun item => item.2.cars) = feed.carRows ∧
          sessionsOf feed.name (feed.tables.session ++ tables.session ++
            feed.service.writing.flatMap fun item => item.2.session.toList) =
              feed.sessionRows := by
        simp [Feed.carRows, Feed.sessionRows, none, still]
      exact sound_fewer sound rfl (fun row member => same.1 ▸ member)
        fun nothing => ⟨nothing, same⟩
    · cases taken
  | restart committed =>
    cases taken
    exact sound_boot _ _

end Steps

section Views

variable {feed : Feed}

theorem mem_carsOf {source : String} {cars : List CarRow} {row : CarRow} :
    row ∈ carsOf source cars ↔ row ∈ cars ∧ row.shown.source = source := by
  rw [carsOf, List.mem_filter, decide_eq_true_eq]

theorem stored_carRows {row : CarRow} (stored : row ∈ carsOf feed.name feed.tables.cars) :
    row ∈ feed.carRows := by
  rw [Feed.carRows, carsOf_append]
  exact List.mem_append_left _ stored

/-- A row the view shows for a car, with the epoch it has when there is a row of the epoch. -/
theorem shown_row {cars : List CarRow} {source number : String} {shown : CarRow}
    (found : shown ∈ vFieldStandings cars source number) :
    shown ∈ carsOf source cars ∧ shown.shown.carNumber = number ∧
      (∀ other ∈ carsOf source cars, other.epoch ≤ shown.epoch) ∧
      ∀ other ∈ carsOf source cars, other.epoch = shown.epoch →
        other.shown.carNumber = number → other.time ≤ shown.time := by
  rw [vFieldStandings, mem_newest, List.mem_filter, mem_newest, decide_eq_true_eq] at found
  obtain ⟨⟨⟨member, epochs⟩, own⟩, times⟩ := found
  refine ⟨member, own, epochs, fun other inside same car => times other ?_⟩
  rw [List.mem_filter, mem_newest, decide_eq_true_eq]
  refine ⟨⟨inside, fun third there => ?_⟩, car⟩
  rw [same]
  exact epochs third there

theorem shows_stored (sound : feed.Sound) : feed.ShowsStored := by
  intro started number row found stored
  obtain ⟨epoch, now⟩ := Option.isSome_iff_exists.mp started
  obtain ⟨own, source⟩ := sound.keyed number row found
  have inside : row ∈ carsOf feed.name feed.tables.cars := mem_carsOf.mpr ⟨stored, source⟩
  have current : row.epoch = epoch := sound.stamped epoch now number row found
  have epochs : ∀ other ∈ carsOf feed.name feed.tables.cars, other.epoch ≤ row.epoch := by
    intro other member
    rw [current]
    exact sound.latest epoch now other (stored_carRows member)
  intro shown
  apply mem_newest_iff_eq
  · rw [List.mem_filter, mem_newest, decide_eq_true_eq]
    exact ⟨⟨inside, epochs⟩, own⟩
  · intro other member
    rw [List.mem_filter, mem_newest, decide_eq_true_eq] at member
    obtain ⟨⟨there, later⟩, car⟩ := member
    have same : other.epoch = epoch :=
      current ▸ le_antisymm (epochs other there) (later row inside)
    obtain ⟨held, entry, order⟩ := sound.newest epoch now other (stored_carRows there) same
    rw [car, found] at entry
    cases entry
    exact order

theorem mirrored (sound : feed.Sound) : feed.Mirrored := by
  intro nothing idle started filled number shown
  obtain ⟨epoch, now⟩ := Option.isSome_iff_exists.mp started
  have rows : feed.carRows = carsOf feed.name feed.tables.cars := by
    simp [Feed.carRows, idle]
  have stored : ∀ number row, feed.service.state.cars.get? number = some row →
      row ∈ carsOf feed.name feed.tables.cars := by
    intro number row found
    rw [← rows]
    exact sound.kept nothing number row found
  constructor
  · intro visible
    obtain ⟨member, own, epochs, times⟩ := shown_row visible
    -- some car is held, so the newest epoch of the table is the one there is
    obtain ⟨entry, rest, split⟩ := List.exists_cons_of_ne_nil filled
    have some_ : feed.service.state.cars.get? entry.1 = some entry.2 :=
      (feed.service.state.cars.get?_eq_some _ _).mpr (by rw [split]; exact List.mem_cons_self)
    have reached := epochs entry.2 (stored _ _ some_)
    rw [sound.stamped epoch now _ _ some_] at reached
    have current : shown.epoch = epoch :=
      le_antisymm (sound.latest epoch now shown (stored_carRows member)) reached
    obtain ⟨held, found, order⟩ := sound.newest epoch now shown (stored_carRows member) current
    rw [own] at found
    rcases order with rfl | earlier
    · exact found
    · have later := times held (stored _ _ found)
        ((sound.stamped epoch now _ _ found).trans current.symm) (sound.keyed _ _ found).1
      exact absurd earlier later.not_gt
  · intro found
    exact (shows_stored sound started number shown found
      (mem_carsOf.mp (stored number shown found)).1 shown).mpr rfl

/-- The rows show one flag and sub-status. -/
def SessionRow.SameFlag (first second : SessionRow) : Prop :=
  first.flagState = second.flagState ∧ first.subStatus = second.subStatus

/-- The last start has the flag of the last row; without a start the row before has it. -/
theorem flagStarts_last (before : Option SessionRow) (rows : List SessionRow) (last : SessionRow) :
    (∃ early start, flagStarts before (rows ++ [last]) = early ++ [start] ∧
      start.SameFlag last) ∨
    (flagStarts before (rows ++ [last]) = [] ∧ ∃ row, before = some row ∧ row.SameFlag last) := by
  induction rows generalizing before with
  | nil =>
    rw [List.nil_append, flagStarts]
    split
    · rename_i same
      obtain ⟨row, held, alike⟩ := (Option.any_eq_true _ _).mp same
      rw [Bool.and_eq_true, decide_eq_true_eq, decide_eq_true_eq] at alike
      exact Or.inr ⟨rfl, row, held, alike⟩
    · exact Or.inl ⟨[], last, rfl, rfl, rfl⟩
  | cons row rest ih =>
    rw [List.cons_append, flagStarts]
    rcases ih (some row) with ⟨early, start, starts, alike⟩ | ⟨none, other, same, alike⟩
    · left
      split
      · exact ⟨early, start, starts, alike⟩
      · exact ⟨row :: early, start, by rw [starts, List.cons_append], alike⟩
    · cases same
      rw [none]
      split
      · rename_i same
        obtain ⟨first, held, equal⟩ := (Option.any_eq_true _ _).mp same
        rw [Bool.and_eq_true, decide_eq_true_eq, decide_eq_true_eq] at equal
        exact Or.inr ⟨rfl, first, held, equal.1.trans alike.1, equal.2.trans alike.2⟩
      · exact Or.inl ⟨[], row, rfl, alike⟩

theorem flagIntervals_last (early : List SessionRow) (start : SessionRow) :
    ∃ closed, flagIntervals (early ++ [start]) =
        closed ++ [⟨start.flagState, start.subStatus, start.time, none⟩] ∧
      ∀ other ∈ closed, other.endedAt.isSome = true := by
  induction early with
  | nil => exact ⟨[], rfl, by simp⟩
  | cons row rest ih =>
    obtain ⟨closed, split, ended⟩ := ih
    refine ⟨_ :: closed, by rw [List.cons_append, flagIntervals, split, List.cons_append], ?_⟩
    apply List.forall_mem_cons.mpr ⟨?_, ended⟩
    cases rest <;> rfl

theorem flag_shown (sound : feed.Sound) : feed.FlagShown := by
  intro nothing idle row held flagged
  have rows : feed.sessionRows = sessionsOf feed.name feed.tables.session := by
    simp [Feed.sessionRows, idle]
  obtain ⟨member, newest⟩ := sound.told nothing row held
  rw [rows] at member newest
  have change : row ∈ (sessionsOf feed.name feed.tables.session).filter fun row =>
      row.flagState.isSome := List.mem_filter.mpr ⟨member, flagged⟩
  obtain ⟨changes, ordered⟩ := List.getLast?_eq_some_iff.mp (getLast?_insertionSort change
    fun other inside => newest other (List.mem_filter.mp inside).1)
  rw [vFieldFlags, ordered]
  rcases flagStarts_last none changes row with ⟨early, start, starts, alike⟩ | ⟨-, _, none, -⟩
  · obtain ⟨closed, intervals, ended⟩ := flagIntervals_last early start
    exact ⟨closed, _, by rw [starts, intervals], alike.1, alike.2, rfl, ended⟩
  · cases none

end Views

theorem sound_along (py : Runtime) (source : String) (tables : Tables) {holds : Feed → Prop}
    (implies : ∀ feed : Feed, feed.Sound → holds feed) (actions : List FeedAction)
    (along : Machine.Along (Feed.step py) (fun feed action => feed.orderly py action = true)
      (.boot source tables) actions) :
    Machine.Always (Feed.step py) holds (.boot source tables) actions :=
  Machine.always_of_along Feed.Sound implies
    (fun _ _ _ sound orderly taken => sound_step sound orderly taken) actions _
    (sound_boot source tables) along

/-- One car on so many laps under the green flag, as a relay posts it. -/
def sampleSnapshot (at_ : ℚ) (laps : Int) : Snapshot :=
  { at_ := at_, source := "relay",
    session := some { SessionRow.new at_ "relay" with flagState := some "green" },
    cars := [⟨at_, at_,
      { source := "relay", carNumber := "27", competitorId := none, carClass := none,
        position := some 1, classPosition := none, laps := some laps, lastLapS := none,
        bestLapS := none, gapLeadS := none, gapNextS := none, sec1S := none, sec2S := none,
        sec3S := none, pitCount := none, inPit := some false, pitFlag := none, driver := none,
        state := some "RUN" }⟩] }

/-- A batch is refused and the service starts again. -/
def sampleFeed : List FeedAction :=
  [.document "<CompetitorList><Competitor ID='1' Number='27'/></CompetitorList>" 0,
    .document "<Leaderboard Type='full'><Position Line='1' Comp='1' LastLap='4'/></Leaderboard>" 1,
    .submit (sampleSnapshot 2 5), .takeSnapshot, .write .stored, .write .refused,
    .document "<Leaderboard Type='part'><Position Line='1' Comp='1' LastLap='5'/></Leaderboard>" 3,
    .write .unanswered, .restart false,
    .submit (sampleSnapshot 4 6), .takeSnapshot, .write .stored,
    .submit (sampleSnapshot 5 7), .takeSnapshot, .write .stored]

theorem sampleFeed_orderly :
    Machine.Along (Feed.step samplePython)
      (fun feed action => feed.orderly samplePython action = true) (.boot "natsoft" {})
      sampleFeed :=
  Machine.along_of_checks _ _ (by decide +kernel)

section Runs

variable (py : Runtime) (source : String) (tables : Tables) (actions : List FeedAction)

/-- Whatever writes fail or are stored without an answer, whatever documents raise, and over
restarts: once the row held for a car is stored, the view shows that row for the car. -/
theorem stored_row_shown
    (along : Machine.Along (Feed.step py) (fun feed action => feed.orderly py action = true)
      (.boot source tables) actions) :
    Machine.Always (Feed.step py) Feed.ShowsStored (.boot source tables) actions :=
  sound_along py source tables (fun _ sound => shows_stored sound) actions along

theorem stored_row_shown_sample :
    Machine.Always (Feed.step samplePython) Feed.ShowsStored (.boot "natsoft" {}) sampleFeed :=
  stored_row_shown samplePython "natsoft" {} sampleFeed sampleFeed_orderly

end Runs

end OpenLaps.Field

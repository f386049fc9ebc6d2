import OpenLaps.Pit.TimingFeed.Standings

/- Documents that raise. What an element writes before its rows are derived stays, and so
does all that the elements before it have changed. -/
namespace OpenLaps.Field

/-- What later documents are compared with is as it was. -/
structure Untouched (state other : FieldState) : Prop where
  lines : other.lines = state.lines
  competitors : other.competitors = state.competitors
  cars : other.cars = state.cars
  session : other.session = state.session
  epoch : other.epoch = state.epoch

/-- Nothing held is of this time. -/
structure FieldState.Fresh (at_ : ℚ) (state : FieldState) : Prop where
  cars : ∀ number row, state.cars.get? number = some row → row.time ≠ at_
  session : ∀ row, state.session = some row → row.time ≠ at_
  epoch : state.epoch ≠ some at_

def sessionTags : List String := ["Counters", "Status", "Heartbeat", "Flag", "Event"]

def passingTags : List String := ["Passing", "Seen"]

/-- What an element writes before it looks for changes: the lines, the registry, or the
count of its tag. -/
def FieldState.placed (py : Runtime) (state : FieldState) (element : Element) : FieldState :=
  if element.tag = "Leaderboard" then
    match incoming py (element.iter "Position") .empty with
    | .error _ => state
    | .ok lines => { state with lines := mergeLines (isPart py element) state.lines lines }
  else if element.tag = "CompetitorList" then
    { state with competitors := competitorList element }
  else if element.tag ∈ sessionTags then state
  else if element.tag ∈ passingTags then state
  else { state with
    unknownTags :=
      state.unknownTags.set element.tag ((state.unknownTags.get? element.tag).getD 0 + 1) }

/-- Whether an element has rows derived, and whether they are a whole table. -/
def FieldState.derives (py : Runtime) (state : FieldState) (element : Element) : Option Bool :=
  if element.tag = "Leaderboard" then some (!isPart py element)
  else if element.tag = "CompetitorList" then
    if state.lines.entries.isEmpty then none else some false
  else none

/-- The row `_session_update` compares with the session. -/
def FieldState.updatedSession (py : Runtime) (state : FieldState) (element : Element) (at_ : ℚ) :
    Except PyError SessionRow :=
  let current := { state.session.getD (.new at_ state.source) with time := at_ }
  let flagged := match element.get "Status" with
    | some status => { current with flagState := flagState py status }
    | none => current
  let marked := match element.get "SubStatus" with
    | some status => { flagged with subStatus := subStatus py status }
    | none => flagged
  let warmed := match seconds? py (element.get "TrackTemp") with
    | some temp => { marked with trackTemp := some temp }
    | none => marked
  sessionClock py warmed element

/-- The rows show what the cars held show, and are no new set of cars. -/
def FieldState.Shows (state : FieldState) (rows : List CarRow) (full : Bool) : Prop :=
  state.resets (rows.map fun row => row.shown.carNumber) full = false ∧
    ∀ row ∈ rows, ∃ held, state.cars.get? row.shown.carNumber = some held ∧ row.sameAs held = true

/-- The element brings nothing to emit. -/
structure FieldState.Quiet (py : Runtime) (at_ : ℚ) (state : FieldState) (element : Element) :
    Prop where
  rows : ∀ full rows, state.derives py element = some full →
    (state.placed py element).rowsFromLines py at_ = .ok rows →
    (state.placed py element).Shows rows full
  session : element.tag ∈ sessionTags → ∀ row, state.updatedSession py element at_ = .ok row →
    ∃ held, state.session = some held ∧ row.sameAs held = true

/-- The elements before the one that raises bring nothing to emit, and with it the lines
and the registry are `origin`'s again. -/
def FieldState.Harmless (py : Runtime) (at_ : ℚ) :
    FieldState → FieldState → List Element → Prop
  | _, _, [] => True
  | state, origin, element :: rest =>
    match (state.applyElement py at_ element).2 with
    | .error _ => (state.placed py element).lines = origin.lines ∧
        (state.placed py element).competitors = origin.competitors
    | .ok _ => state.Quiet py at_ element ∧ (state.placed py element).Harmless py at_ origin rest

section Diffs

variable (source : String) (session : Option SessionRow) (epoch : ℚ) {at_ : ℚ}

/-- A row that shows what is held is passed over, any other is held with its time. -/
theorem emitRow_dichotomy (emitted : Emitted) (row : CarRow) :
    (emitRow source session epoch emitted row = emitted ∧
        ∃ held, emitted.cars.get? row.shown.carNumber = some held ∧ row.sameAs held = true) ∨
      ((emitRow source session epoch emitted row).cars =
            emitted.cars.set row.shown.carNumber { row with epoch := epoch } ∧
          (emitRow source session epoch emitted row).changed =
            emitted.changed ++ [{ row with epoch := epoch }]) ∧
        ¬∃ held, emitted.cars.get? row.shown.carNumber = some held ∧ row.sameAs held = true := by
  unfold emitRow
  dsimp only
  cases found : emitted.cars.get? row.shown.carNumber with
  | none =>
    right
    refine ⟨⟨rfl, rfl⟩, ?_⟩
    rintro ⟨held, here, _⟩
    cases here
  | some previous =>
    dsimp only
    split
    · rename_i same
      exact .inl ⟨rfl, previous, rfl, same⟩
    · rename_i differs
      right
      refine ⟨⟨rfl, rfl⟩, ?_⟩
      rintro ⟨held, here, same⟩
      cases here
      exact differs same

/-- A time among the cars stays, or is that of a later row. -/
theorem rows_timed {rows : List CarRow} {emitted : Emitted} (timed : ∀ row ∈ rows, row.time = at_)
    (marked : ∃ number row, emitted.cars.get? number = some row ∧ row.time = at_) :
    ∃ number row, (rows.foldl (emitRow source session epoch) emitted).cars.get? number = some row ∧
      row.time = at_ := by
  induction rows generalizing emitted with
  | nil => exact marked
  | cons row rest ih =>
    apply ih (fun other member => timed other (List.mem_cons_of_mem row member))
    rcases emitRow_dichotomy source session epoch emitted row with
      ⟨same, _⟩ | ⟨⟨taken, _⟩, _⟩
    · rw [same]
      exact marked
    · rw [taken]
      refine ⟨row.shown.carNumber, { row with epoch := epoch }, ?_, timed row List.mem_cons_self⟩
      rw [Dict.get?_set, if_pos rfl]

/-- Rows either all show what is held, and nothing happens, or leave their time. -/
theorem rows_quiet_or_timed {rows : List CarRow} (emitted : Emitted)
    (timed : ∀ row ∈ rows, row.time = at_) :
    (rows.foldl (emitRow source session epoch) emitted = emitted ∧
        ∀ row ∈ rows, ∃ held, emitted.cars.get? row.shown.carNumber = some held ∧
          row.sameAs held = true) ∨
      (∃ number row,
          (rows.foldl (emitRow source session epoch) emitted).cars.get? number = some row ∧
            row.time = at_) ∧
        ¬∀ row ∈ rows, ∃ held, emitted.cars.get? row.shown.carNumber = some held ∧
          row.sameAs held = true := by
  induction rows with
  | nil =>
    left
    refine ⟨rfl, ?_⟩
    intro row member
    cases member
  | cons row rest ih =>
    have later : ∀ other ∈ rest, other.time = at_ := fun other member =>
      timed other (List.mem_cons_of_mem row member)
    rw [List.foldl_cons]
    rcases emitRow_dichotomy source session epoch emitted row with
      ⟨same, shown⟩ | ⟨⟨taken, _⟩, differs⟩
    · rw [same]
      rcases ih later with ⟨still, all⟩ | ⟨marked, some'⟩
      · exact .inl ⟨still, List.forall_mem_cons.mpr ⟨shown, all⟩⟩
      · exact .inr ⟨marked, fun all => some' (List.forall_mem_cons.mp all).2⟩
    · right
      constructor
      · apply rows_timed source session epoch later
        refine ⟨row.shown.carNumber, { row with epoch := epoch }, ?_, timed row List.mem_cons_self⟩
        rw [taken, Dict.get?_set, if_pos rfl]
      · exact fun all => differs (List.forall_mem_cons.mp all).1

end Diffs

section DiffTrace

variable {state : FieldState} {rows : List CarRow} {at_ : ℚ} {full : Bool}

/-- A diff that finds nothing changes nothing. -/
theorem diff_quiet (shows : state.Shows rows full) (timed : ∀ row ∈ rows, row.time = at_) :
    state.diff rows at_ full = (state, [], []) := by
  obtain ⟨same, all⟩ := shows
  unfold FieldState.diff
  rw [same]
  rcases rows_quiet_or_timed state.source state.session (state.epoch.getD at_)
    ⟨state.cars, [], []⟩ timed with ⟨still, _⟩ | ⟨_, some'⟩
  · dsimp only
    rw [if_neg Bool.false_ne_true, still]
  · exact absurd all some'

/-- A diff that finds something leaves its time. -/
theorem diff_marks (changes : ¬state.Shows rows full) (timed : ∀ row ∈ rows, row.time = at_) :
    ¬(state.diff rows at_ full).1.Fresh at_ := by
  intro fresh
  cases resets : state.resets (rows.map fun row => row.shown.carNumber) full with
  | true =>
    apply fresh.epoch
    rw [diff_epoch, resets, if_pos rfl]
  | false =>
    obtain ⟨emitted, all, cars, -, -⟩ := diff_emitted state rows at_ full
    have base : state.base rows full = state.cars := by rw [FieldState.base, resets]; rfl
    rw [base] at all
    rcases rows_quiet_or_timed state.source state.session
      ((state.diff rows at_ full).1.epoch.getD at_) ⟨state.cars, [], []⟩ timed with
      ⟨_, shown⟩ | ⟨⟨number, row, found, here⟩, _⟩
    · exact changes ⟨resets, shown⟩
    · apply fresh.cars number row _ here
      rw [cars, all]
      exact found

/-- What is of this time stays so. -/
theorem diff_stale (stale : ¬state.Fresh at_) (timed : ∀ row ∈ rows, row.time = at_) :
    ¬(state.diff rows at_ full).1.Fresh at_ := by
  intro fresh
  by_cases shows : state.Shows rows full
  · rw [diff_quiet shows timed] at fresh
    exact stale fresh
  · exact diff_marks shows timed fresh

theorem rowsFromLines_timed {py : Runtime} (derived : state.rowsFromLines py at_ = .ok rows) :
    ∀ row ∈ rows, row.time = at_ := by
  unfold FieldState.rowsFromLines at derived
  cases outcome : state.standings py with
  | error error =>
    rw [outcome] at derived
    cases derived
  | ok standings =>
    rw [outcome] at derived
    cases derived
    intro row member
    obtain ⟨standing, _, here⟩ := List.mem_map.mp member
    rw [← here]

end DiffTrace

section Elements

variable {py : Runtime} {at_ : ℚ} {state : FieldState} {element : Element}

theorem placed_frame (py : Runtime) (state : FieldState) (element : Element) :
    (state.placed py element).cars = state.cars ∧
      (state.placed py element).session = state.session ∧
      (state.placed py element).epoch = state.epoch := by
  unfold FieldState.placed
  split
  · split <;> exact ⟨rfl, rfl, rfl⟩
  · split
    · exact ⟨rfl, rfl, rfl⟩
    · split
      · exact ⟨rfl, rfl, rfl⟩
      · split <;> exact ⟨rfl, rfl, rfl⟩

theorem fresh_congr {other : FieldState} (cars : other.cars = state.cars)
    (session : other.session = state.session) (epoch : other.epoch = state.epoch) :
    other.Fresh at_ ↔ state.Fresh at_ := by
  constructor
  · intro fresh
    exact ⟨cars ▸ fresh.cars, session ▸ fresh.session, epoch ▸ fresh.epoch⟩
  · intro fresh
    exact ⟨cars ▸ fresh.cars, session ▸ fresh.session, epoch ▸ fresh.epoch⟩

theorem placed_fresh : (state.placed py element).Fresh at_ ↔ state.Fresh at_ := by
  obtain ⟨cars, session, epoch⟩ := placed_frame py state element
  exact fresh_congr cars session epoch

theorem sessionUpdate_eq : state.sessionUpdate py element at_ =
    match state.updatedSession py element at_ with
    | .error error => (state, .error (.other error))
    | .ok row =>
      if state.session.any row.sameAs then (state, .ok .none)
      else ({ state with session := some row }, .ok { Changes.none with session := some row }) := rfl

/-- The clock and the name leave the time of a row. -/
theorem sessionClock_time {row other : SessionRow} (read : sessionClock py row element = .ok other) :
    other.time = row.time := by
  unfold sessionClock at read
  split at read
  · dsimp only at read
    have elapsed : (match seconds? py (element.get "Elapsed") with
        | some elapsed => { row with timeElapsedS := some elapsed }
        | none => row).time = row.time := by split <;> rfl
    split at read
    · cases read
      exact elapsed
    · split at read
      · cases read
        exact elapsed
      · split at read
        · rename_i count _ _ _
          cases whole : truncate count with
          | error error =>
            rw [whole] at read
            cases read
          | ok laps =>
            rw [whole] at read
            cases read
            exact elapsed
        · split at read
          · cases read
            exact elapsed
          · cases read
            exact elapsed
  · split at read
    · cases read
      rfl
    · cases read
      rfl

theorem updatedSession_time {row : SessionRow} (read : state.updatedSession py element at_ = .ok row) :
    row.time = at_ := by
  unfold FieldState.updatedSession at read
  rw [sessionClock_time read]
  split <;> split <;> split <;> rfl

/-- What one element can do: raise after its writes, diff its rows, take a session row, or
no more than its writes. -/
inductive Stepped (py : Runtime) (at_ : ℚ) (state : FieldState) (element : Element) :
    FieldState × Except FeedError Changes → Prop where
  | raised (error : FeedError) :
      Stepped py at_ state element (state.placed py element, .error error)
  | derived (full : Bool) (rows : List CarRow) (here : state.derives py element = some full)
      (read : (state.placed py element).rowsFromLines py at_ = .ok rows) (changes : Changes) :
      Stepped py at_ state element (((state.placed py element).diff rows at_ full).1, .ok changes)
  | told (row : SessionRow) (here : element.tag ∈ sessionTags)
      (read : state.updatedSession py element at_ = .ok row)
      (new : state.session.any row.sameAs = false) (changes : Changes) :
      Stepped py at_ state element ({ state with session := some row }, .ok changes)
  | still (changes : Changes) (none : state.derives py element = none)
      (same : element.tag ∈ sessionTags → ∃ row, state.updatedSession py element at_ = .ok row ∧
        state.session.any row.sameAs = true) :
      Stepped py at_ state element (state.placed py element, .ok changes)

theorem rederive_stepped {full : Bool} (here : state.derives py element = some full) :
    Stepped py at_ state element ((state.placed py element).rederive py at_ full) := by
  unfold FieldState.rederive
  cases read : (state.placed py element).rowsFromLines py at_ with
  | error error => exact .raised _
  | ok rows => exact .derived full rows here read _

/-- An element that raises at once has written nothing. -/
theorem raised_stepped (same : state.placed py element = state) (error : FeedError) :
    Stepped py at_ state element (state, .error error) := by
  have step : Stepped py at_ state element (state.placed py element, .error error) := .raised error
  rwa [same] at step

theorem leaderboard_stepped (board : element.tag = "Leaderboard") :
    Stepped py at_ state element (state.leaderboard py element at_) := by
  have derives : state.derives py element = some (!isPart py element) := by
    unfold FieldState.derives
    rw [if_pos board]
  unfold FieldState.leaderboard
  split
  · rename_i error unread
    apply raised_stepped
    unfold FieldState.placed
    rw [if_pos board, unread]
  · rename_i lines read
    have same : state.placed py element =
        { state with lines := mergeLines (isPart py element) state.lines lines } := by
      unfold FieldState.placed
      rw [if_pos board, read]
    dsimp only
    split
    · rw [← same]
      exact .raised _
    · rw [← same]
      exact rederive_stepped derives

theorem register_stepped (registry : element.tag = "CompetitorList") :
    Stepped py at_ state element (state.register py element at_) := by
  have notBoard : ¬element.tag = "Leaderboard" := by
    rw [registry]
    decide
  have same : state.placed py element = { state with competitors := competitorList element } := by
    unfold FieldState.placed
    rw [if_neg notBoard, if_pos registry]
  unfold FieldState.register
  dsimp only
  split
  · rename_i empty
    rw [← same]
    apply Stepped.still
    · unfold FieldState.derives
      rw [if_neg notBoard, if_pos registry, if_pos empty]
    · intro session
      rw [registry] at session
      exact absurd session (by decide)
  · rename_i held
    rw [← same]
    apply rederive_stepped
    unfold FieldState.derives
    rw [if_neg notBoard, if_pos registry, if_neg held]

theorem applyElement_stepped (py : Runtime) (at_ : ℚ) (state : FieldState) (element : Element) :
    Stepped py at_ state element (state.applyElement py at_ element) := by
  unfold FieldState.applyElement
  split
  · rename_i board
    exact leaderboard_stepped board
  · rename_i notBoard
    split
    · rename_i registry
      exact register_stepped registry
    · rename_i notRegistry
      have none : state.derives py element = none := by
        unfold FieldState.derives
        rw [if_neg notBoard, if_neg notRegistry]
      split
      · rename_i session
        have same : state.placed py element = state := by
          unfold FieldState.placed
          rw [if_neg notBoard, if_neg notRegistry, if_pos (show element.tag ∈ sessionTags from session)]
        rw [sessionUpdate_eq]
        cases read : state.updatedSession py element at_ with
        | error error => exact raised_stepped same _
        | ok row =>
          dsimp only
          split
          · rename_i held
            have step : Stepped py at_ state element (state.placed py element, .ok .none) :=
              .still _ none fun _ => ⟨row, read, held⟩
            rwa [same] at step
          · rename_i new
            rw [Bool.not_eq_true] at new
            exact .told row session read new _
      · rename_i notSession
        have still : ∀ changes, Stepped py at_ state element (state.placed py element, .ok changes) :=
          fun changes => .still changes none fun session => absurd session notSession
        split
        · rename_i passing
          have same : state.placed py element = state := by
            unfold FieldState.placed
            rw [if_neg notBoard, if_neg notRegistry,
              if_neg (show ¬element.tag ∈ sessionTags from notSession),
              if_pos (show element.tag ∈ passingTags from passing)]
          split
          · exact raised_stepped same _
          · rename_i row _
            have step := still { Changes.none with passings := row.toList }
            rwa [same] at step
        · rename_i notPassing
          have same : state.placed py element = { state with
              unknownTags := state.unknownTags.set element.tag
                ((state.unknownTags.get? element.tag).getD 0 + 1) } := by
            unfold FieldState.placed
            rw [if_neg notBoard, if_neg notRegistry,
              if_neg (show ¬element.tag ∈ sessionTags from notSession),
              if_neg (show ¬element.tag ∈ passingTags from notPassing)]
          rw [← same]
          exact still .none

theorem derives_tag {full : Bool} (here : state.derives py element = some full) :
    element.tag ∉ sessionTags := by
  unfold FieldState.derives at here
  split at here
  · rename_i board
    rw [board]
    decide
  · split at here
    · rename_i registry
      rw [registry]
      decide
    · cases here

theorem session_any {row : SessionRow} :
    state.session.any row.sameAs = true ↔ ∃ held, state.session = some held ∧ row.sameAs held = true :=
  Option.any_eq_true _ _

variable {next : FieldState}

theorem element_raised {error : FeedError}
    (done : state.applyElement py at_ element = (next, .error error)) :
    next = state.placed py element := by
  have step := applyElement_stepped py at_ state element
  rw [done] at step
  cases step
  rfl

/-- An element that brings nothing to emit leaves only its writes. -/
theorem element_quiet {changes : Changes}
    (done : state.applyElement py at_ element = (next, .ok changes))
    (quiet : state.Quiet py at_ element) : next = state.placed py element := by
  have step := applyElement_stepped py at_ state element
  rw [done] at step
  cases step with
  | derived full rows here read =>
    rw [diff_quiet (quiet.rows full rows here read) (rowsFromLines_timed read)]
  | told row here read new =>
    have held := session_any.mpr (quiet.session here row read)
    rw [new] at held
    cases held
  | still => rfl

/-- An element that brings something leaves its time. -/
theorem element_marks {changes : Changes}
    (done : state.applyElement py at_ element = (next, .ok changes))
    (loud : ¬state.Quiet py at_ element) : ¬next.Fresh at_ := by
  have step := applyElement_stepped py at_ state element
  rw [done] at step
  cases step with
  | derived full rows here read =>
    apply diff_marks _ (rowsFromLines_timed read)
    intro shows
    apply loud
    constructor
    · intro full' rows' here' read'
      rw [here] at here'
      rw [read] at read'
      cases here'
      cases read'
      exact shows
    · exact fun session => absurd session (derives_tag here)
  | told row here read new =>
    intro fresh
    exact fresh.session row rfl (updatedSession_time read)
  | still _ none same =>
    apply absurd _ loud
    constructor
    · intro full rows here
      rw [none] at here
      cases here
    · intro session row read
      obtain ⟨row', read', held⟩ := same session
      rw [read] at read'
      cases read'
      exact session_any.mp held

/-- What is of this time stays so. -/
theorem element_stale (py : Runtime) (element : Element) (stale : ¬state.Fresh at_) :
    ¬(state.applyElement py at_ element).1.Fresh at_ := by
  have placed : ¬(state.placed py element).Fresh at_ := fun fresh => stale (placed_fresh.mp fresh)
  have step := applyElement_stepped py at_ state element
  generalize state.applyElement py at_ element = outcome at step
  cases step with
  | raised => exact placed
  | derived full rows here read => exact diff_stale placed (rowsFromLines_timed read)
  | told row here read new =>
    intro fresh
    exact fresh.session row rfl (updatedSession_time read)
  | still => exact placed

theorem elements_stale (elements : List Element) (so : Changes) (stale : ¬state.Fresh at_) :
    ¬(state.applyElements py at_ elements so).1.Fresh at_ := by
  induction elements generalizing state so with
  | nil => exact stale
  | cons element rest ih =>
    have after := element_stale py element stale
    unfold FieldState.applyElements
    cases done : state.applyElement py at_ element with
    | mk next outcome =>
      rw [done] at after
      cases outcome with
      | error error => exact after
      | ok changes => exact ih _ after

/-- Harmless elements leave no trace. -/
theorem untouched_of_harmless {origin : FieldState} {error : FeedError} (elements : List Element)
    (so : Changes) (raised : state.applyElements py at_ elements so = (next, .error error))
    (harmless : state.Harmless py at_ origin elements) (cars : state.cars = origin.cars)
    (session : state.session = origin.session) (epoch : state.epoch = origin.epoch) :
    Untouched origin next := by
  induction elements generalizing state so with
  | nil => cases raised
  | cons element rest ih =>
    obtain ⟨cars', session', epoch'⟩ := placed_frame py state element
    unfold FieldState.applyElements at raised
    unfold FieldState.Harmless at harmless
    cases done : state.applyElement py at_ element with
    | mk after outcome =>
      rw [done] at raised harmless
      cases outcome with
      | error error =>
        cases raised
        rw [element_raised done]
        exact ⟨harmless.1, harmless.2, cars'.trans cars, session'.trans session,
          epoch'.trans epoch⟩
      | ok changes =>
        have still := element_quiet done harmless.1
        apply ih _ raised
        · rw [still]
          exact harmless.2
        · rw [still, cars', cars]
        · rw [still, session', session]
        · rw [still, epoch', epoch]

/-- Elements that leave nothing of their time, nor of their lines and registry, were
harmless. -/
theorem harmless_of_untouched {origin : FieldState} {error : FeedError} (elements : List Element)
    (so : Changes) (raised : state.applyElements py at_ elements so = (next, .error error))
    (fresh : next.Fresh at_) (lines : next.lines = origin.lines)
    (competitors : next.competitors = origin.competitors) :
    state.Harmless py at_ origin elements := by
  induction elements generalizing state so with
  | nil => trivial
  | cons element rest ih =>
    unfold FieldState.applyElements at raised
    unfold FieldState.Harmless
    cases done : state.applyElement py at_ element with
    | mk after outcome =>
      rw [done] at raised
      cases outcome with
      | error error =>
        cases raised
        have writes := element_raised done
        rw [← writes]
        exact ⟨lines, competitors⟩
      | ok changes =>
        have quiet : state.Quiet py at_ element := by
          by_contra loud
          apply elements_stale rest _ (element_marks done loud)
          dsimp only at raised
          rw [raised]
          exact fresh
        refine ⟨quiet, ?_⟩
        rw [← element_quiet done quiet]
        exact ih _ raised

end Elements

/-- The snapshot brings no other session. -/
def FieldState.SameSession (state : FieldState) (snapshot : Snapshot) : Prop :=
  ∀ row, snapshot.session = some row → ∃ held, state.session = some held ∧
    ({ row with time := snapshot.at_, source := state.source } : SessionRow).sameAs held = true

/-- The document's elements are harmless. -/
def FieldState.HarmlessDocument (py : Runtime) (state : FieldState) (text : String) (at_ : ℚ) : Prop :=
  ∀ root, py.fromString text = .ok root →
    { state with documents := state.documents + 1 }.Harmless py at_ state root.parts

/-- A document that raises leaves no trace where the elements before the one that raises
bring nothing to emit and the lines and the registry come back, a snapshot where it brings
no other session; and nowhere else, as long as nothing held is of the document's time. -/
theorem rejected_untouched (py : Runtime) (state : FieldState) :
    (∀ text at_ error, (state.applyDocument py text at_).2 = .error error →
      (state.HarmlessDocument py text at_ → Untouched state (state.applyDocument py text at_).1) ∧
      (state.Fresh at_ → Untouched state (state.applyDocument py text at_).1 →
        state.HarmlessDocument py text at_)) ∧
    (∀ snapshot error, (state.applySnapshot snapshot).2 = .error error →
      (state.SameSession snapshot → Untouched state (state.applySnapshot snapshot).1) ∧
      (state.Fresh snapshot.at_ → Untouched state (state.applySnapshot snapshot).1 →
        state.SameSession snapshot)) := by
  constructor
  · intro text at_ error raised
    unfold FieldState.HarmlessDocument
    unfold FieldState.applyDocument at raised ⊢
    cases parsed : py.fromString text with
    | error message =>
      constructor
      · exact fun _ => ⟨rfl, rfl, rfl, rfl, rfl⟩
      · intro _ _ root read
        cases read
    | ok root =>
      rw [parsed] at raised
      dsimp only at raised ⊢
      cases done : { state with documents := state.documents + 1 }.applyElements py at_ root.parts
          .none with
      | mk next outcome =>
        rw [done] at raised
        cases outcome with
        | ok changes => cases raised
        | error error =>
          constructor
          · intro harmless
            exact untouched_of_harmless root.parts .none done (harmless root rfl) rfl rfl rfl
          · intro fresh untouched root' read
            cases read
            apply harmless_of_untouched root.parts .none done _ untouched.lines
              untouched.competitors
            exact (fresh_congr untouched.cars untouched.session untouched.epoch).mpr fresh
  · intro snapshot error raised
    unfold FieldState.applySnapshot at raised ⊢
    dsimp only at raised ⊢
    split at raised
    · rename_i many
      rw [if_pos many]
      constructor
      · intro same
        refine ⟨rfl, rfl, rfl, ?_, rfl⟩
        show ((snapshot.session.map fun row =>
          ({ row with time := snapshot.at_, source := state.source } : SessionRow)).filter fun row =>
            !state.session.any row.sameAs).or state.session = state.session
        cases brought : snapshot.session with
        | none => rfl
        | some row =>
          rw [Option.map_some, Option.filter_some, session_any.mpr (same row brought)]
          rfl
      · intro fresh untouched row brought
        have session := untouched.session
        change ((snapshot.session.map fun row =>
          ({ row with time := snapshot.at_, source := state.source } : SessionRow)).filter fun row =>
            !state.session.any row.sameAs).or state.session = state.session at session
        rw [brought, Option.map_some, Option.filter_some] at session
        apply session_any.mp
        by_contra new
        rw [Bool.not_eq_true] at new
        rw [new] at session
        exact fresh.session _ session.symm rfl
    · cases raised

theorem snapshot_capped (state : FieldState) {snapshot : Snapshot}
    (many : maxCars < snapshot.cars.length) :
    ∃ message, (state.applySnapshot snapshot).2 = .error (.documentError message) := by
  unfold FieldState.applySnapshot
  dsimp only
  rw [if_pos (by rwa [List.length_map])]
  exact ⟨_, rfl⟩

def relayCar : CarRow where
  time := 0
  epoch := 0
  shown :=
    { source := "relay", carNumber := "27", competitorId := none, carClass := none, position := some 1,
      classPosition := none, laps := none, lastLapS := none, bestLapS := none, gapLeadS := none,
      gapNextS := none, sec1S := none, sec2S := none, sec3S := none, pitCount := none, inPit := none,
      pitFlag := none, driver := none, state := none }

def greenSession : SessionRow := { SessionRow.new 0 "relay" with flagState := some "green" }

/-- A snapshot over the cap. -/
def crowded (session : Option SessionRow) : Snapshot :=
  ⟨10, "relay", session, List.replicate 201 relayCar⟩

theorem crowded_many (session : Option SessionRow) : maxCars < (crowded session).cars.length := by
  show 200 < (List.replicate 201 relayCar).length
  rw [List.length_replicate]
  decide

theorem rejected_untouched_crowded :
    Untouched (.new "relay") ((FieldState.new "relay").applySnapshot (crowded none)).1 := by
  obtain ⟨message, raised⟩ := snapshot_capped (.new "relay") (crowded_many none)
  apply ((rejected_untouched samplePython (.new "relay")).2 _ _ raised).1
  intro row brought
  cases brought

/-- The session of a rejected snapshot is held though nothing was emitted, and the next
snapshot does not emit it either. -/
theorem rejected_session_held :
    (∃ message, ((FieldState.new "relay").applySnapshot (crowded (some greenSession))).2 =
      .error (.documentError message)) ∧
    ¬Untouched (.new "relay")
      ((FieldState.new "relay").applySnapshot (crowded (some greenSession))).1 ∧
    ((((FieldState.new "relay").applySnapshot (crowded (some greenSession))).1.applySnapshot
      ⟨20, "relay", some greenSession, []⟩).2.toOption.map Batch.session) = some none := by
  refine ⟨snapshot_capped _ (crowded_many _), ?_, by decide +kernel⟩
  intro untouched
  have session := untouched.session
  revert session
  decide +kernel

end OpenLaps.Field

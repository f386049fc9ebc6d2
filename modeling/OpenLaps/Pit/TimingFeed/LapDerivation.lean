import OpenLaps.Pit.TimingFeed.Standings

/- The laps derived from the standings: what each new table emits for a car against the
table before it. -/
namespace OpenLaps.Field

/-- What brings new standings: an element of a document, or a snapshot. -/
inductive Update where
  | element (item : Element) (at_ : ℚ)
  | snapshot (whole : Snapshot)

/-- The state and the laps of an update that is accepted. -/
def Update.apply (py : Runtime) (state : FieldState) : Update → Option (FieldState × List LapRow)
  | .element item at_ =>
    match state.applyElement py at_ item with
    | (next, .ok changes) => some (next, changes.laps)
    | (_, .error _) => none
  | .snapshot whole =>
    match state.applySnapshot whole with
    | (next, .ok batch) => some (next, batch.laps)
    | (_, .error _) => none

/-- The standings table an update comes to, and whether it is a whole one. -/
def Update.table (py : Runtime) (state : FieldState) : Update → Option (List Standing × Bool)
  | .element item _ => (state.held py item).bind fun held =>
    (held.1.standings py).toOption.map fun standings => (standings, held.2)
  | .snapshot whole =>
    some (whole.cars.map fun car => { car.shown with source := state.source }, true)

/-- The state, and beside it the last table, every car number of a table so far, and the
laps emitted. -/
structure Watched where
  state : FieldState
  table : List Standing
  seen : List String
  emitted : List LapRow

def Watched.new (source : String) : Watched :=
  { state := .new source, table := [], seen := [], emitted := [] }

def carNumbers (table : List Standing) : List String := table.map Standing.carNumber

/-- An accepted update with each car on one line at most. -/
def Watched.step (py : Runtime) (watched : Watched) (update : Update) : Option Watched :=
  match update.apply py watched.state with
  | none => none
  | some (next, laps) =>
    match update.table py watched.state with
    | none => some { watched with state := next, emitted := watched.emitted ++ laps }
    | some (table, _) =>
      if (carNumbers table).Nodup then
        some { state := next, table := table, seen := watched.seen ++ carNumbers table,
               emitted := watched.emitted ++ laps }
      else none

/-- The laps emitted for one car. -/
def lapsFor (laps : List LapRow) (number : String) : List LapRow :=
  laps.filter fun lap => lap.carNumber = number

/-- What is asked of an update: one lap for each car whose count rose since the last
table, none for one whose count did not, and none for a car seen for the first time. -/
def Watched.Meets (py : Runtime) (watched : Watched) (update : Update) : Prop :=
  ∀ next laps, update.apply py watched.state = some (next, laps) →
    match update.table py watched.state with
    | none => laps = []
    | some (table, _) => ∀ standing ∈ table,
        (∀ before ∈ watched.table, before.carNumber = standing.carNumber →
          ∀ had has, before.laps = some had → standing.laps = some has →
            (lapsFor laps standing.carNumber).map LapRow.lapNumber =
              if had < has then [has] else []) ∧
        (standing.carNumber ∉ watched.seen → lapsFor laps standing.carNumber = [])

/-- An update that starts a new table brings no car whose count rose. -/
def Watched.Clean (py : Runtime) (watched : Watched) (update : Update) : Prop :=
  match update.table py watched.state with
  | none => True
  | some (table, full) => watched.state.resets (carNumbers table) full = true →
      ∀ before ∈ watched.table, ∀ standing ∈ table,
        before.carNumber = standing.carNumber → rises before.laps standing.laps = false

section Emission

variable (source : String) (session : Option SessionRow) (epoch : ℚ)

/-- What a row emits against the row before it. -/
def lapsMade (previous : Option CarRow) (row : CarRow) : List LapRow :=
  if rises (previous.bind fun row => row.shown.laps) row.shown.laps then
    [lapOf source session ⟨row.time, epoch, row.shown⟩] else []

theorem emitRow_laps (emitted : Emitted) (row : CarRow) :
    (emitRow source session epoch emitted row).laps = emitted.laps ++
      lapsMade source session epoch (emitted.cars.get? row.shown.carNumber) row := by
  cases found : emitted.cars.get? row.shown.carNumber with
  | none => simp [emitRow, found, lapsMade, rises]
  | some previous =>
    cases same : ({ row with epoch := epoch } : CarRow).sameAs previous with
    | false =>
      cases higher : rises previous.shown.laps row.shown.laps <;>
        simp [emitRow, found, same, lapsMade, higher]
    | true =>
      -- a row that shows the same shows no more laps
      have equal : row.shown = previous.shown := by
        simp only [CarRow.sameAs, Bool.and_eq_true, decide_eq_true_eq] at same
        exact same.2
      have level : rises previous.shown.laps row.shown.laps = false := by
        rw [equal]
        cases laps : previous.shown.laps <;> simp [rises]
      simp [emitRow, found, same, lapsMade, level]

theorem lapsFor_lapsMade (previous : Option CarRow) (row : CarRow) (number : String) :
    lapsFor (lapsMade source session epoch previous row) number =
      if row.shown.carNumber = number then lapsMade source session epoch previous row else [] := by
  rw [lapsMade]
  split
  · by_cases same : row.shown.carNumber = number <;> simp [lapsFor, lapOf, same]
  · simp [lapsFor]

/-- With each car on one row, a row's laps are against what was held before all rows. -/
theorem emitted_laps (rows : List CarRow) (start : Emitted)
    (nodup : (rows.map fun row => row.shown.carNumber).Nodup) (number : String) :
    (number ∉ (rows.map fun row => row.shown.carNumber) →
      lapsFor (rows.foldl (emitRow source session epoch) start).laps number =
        lapsFor start.laps number) ∧
    ∀ row ∈ rows, row.shown.carNumber = number →
      lapsFor (rows.foldl (emitRow source session epoch) start).laps number =
        lapsFor start.laps number ++
          lapsMade source session epoch (start.cars.get? number) row := by
  induction rows using List.reverseRecOn with
  | nil => exact ⟨fun _ => rfl, fun row member => nomatch member⟩
  | append_singleton rows last ih =>
    rw [List.map_append, List.nodup_append] at nodup
    obtain ⟨without, within⟩ := ih nodup.1
    have split : lapsFor ((rows ++ [last]).foldl (emitRow source session epoch) start).laps
        number = lapsFor (rows.foldl (emitRow source session epoch) start).laps number ++
          if last.shown.carNumber = number then lapsMade source session epoch
            ((rows.foldl (emitRow source session epoch) start).cars.get? last.shown.carNumber) last
          else [] := by
      rw [List.foldl_append, List.foldl_cons, List.foldl_nil, emitRow_laps, lapsFor,
        List.filter_append]
      congr 1
      exact lapsFor_lapsMade source session epoch _ last number
    rw [split]
    constructor
    · intro absent
      rw [List.map_append, List.mem_append, not_or] at absent
      have other : last.shown.carNumber ≠ number := by
        intro same
        apply absent.2
        simp [same]
      rw [if_neg other, List.append_nil, without absent.1]
    · intro row member own
      rcases List.mem_append.mp member with old | here
      · have other : last.shown.carNumber ≠ number := by
          intro same
          exact nodup.2.2 _ (List.mem_map_of_mem old) _ (by simp) (own.trans same.symm)
        rw [if_neg other, List.append_nil]
        exact within row old own
      · rw [List.mem_singleton.mp here] at own ⊢
        have absent : number ∉ rows.map fun row => row.shown.carNumber := by
          intro present
          exact nodup.2.2 number present _ (by simp) own.symm
        have kept := emitted_shown source session epoch rows start number
        rw [(latest_eq_none rows number).mpr absent] at kept
        rw [if_pos own, without absent, own, kept]

end Emission

/-- An accepted update: no new table and no laps, or the diff of a table. -/
theorem update_cases {py : Runtime} {state next : FieldState} {update : Update}
    {laps : List LapRow} (applied : update.apply py state = some (next, laps)) :
    (update.table py state = none ∧ next.cars = state.cars ∧ laps = []) ∨
    ∃ (held : FieldState) (rows : List CarRow) (at_ : ℚ) (full : Bool), held.cars = state.cars ∧
      held.epoch = state.epoch ∧
      update.table py state = some (rows.map CarRow.shown, full) ∧
      next = (held.diff rows at_ full).1 ∧ laps = (held.diff rows at_ full).2.2 := by
  cases update with
  | element item at_ =>
    unfold Update.apply at applied
    dsimp only at applied
    split at applied
    · rename_i after changes done
      cases applied
      rcases applyElement_cases done with
          ⟨held, full, standings, brought, -, cars, epoch, -, derived, result⟩ |
          ⟨quiet, -, cars, -, -, none⟩
      · refine Or.inr ⟨held, stampRows held at_ standings, at_, full, cars, epoch, ?_,
          congrArg Prod.fst result, congrArg (fun result => result.2.2) result⟩
        simp [Update.table, brought, derived, stampRows, Except.toOption, Function.comp_def]
      · exact Or.inl ⟨by simp [Update.table, quiet], cars, none⟩
    · cases applied
  | snapshot whole =>
    unfold Update.apply at applied
    dsimp only at applied
    split at applied
    · rename_i after batch done
      cases applied
      unfold FieldState.applySnapshot at done
      dsimp only at done
      split at done
      · cases done
      · cases done
        refine Or.inr ⟨_, _, whole.at_, true, ?_, ?_, ?_, rfl, rfl⟩
        · rfl
        · rfl
        · simp [Update.table, Function.comp_def]
    · cases applied

/-- The cars of the last table are held as it shows them, and no car is held that was
never in a table. -/
structure Watched.Sound (watched : Watched) : Prop where
  shown : ∀ standing ∈ watched.table, ∃ row,
    watched.state.cars.get? standing.carNumber = some row ∧ row.shown = standing
  seen : ∀ number row, watched.state.cars.get? number = some row → number ∈ watched.seen

theorem step_cases {py : Runtime} {watched next : Watched} {update : Update}
    (taken : watched.step py update = some next) :
    (update.table py watched.state = none ∧ next.state.cars = watched.state.cars ∧
      next.table = watched.table ∧ next.seen = watched.seen) ∨
    ∃ (held : FieldState) (rows : List CarRow) (at_ : ℚ) (full : Bool),
      held.cars = watched.state.cars ∧ held.epoch = watched.state.epoch ∧
      update.table py watched.state = some (rows.map CarRow.shown, full) ∧
      next.state = (held.diff rows at_ full).1 ∧ next.table = rows.map CarRow.shown ∧
      next.seen = watched.seen ++ carNumbers next.table ∧
      (rows.map fun row => row.shown.carNumber).Nodup := by
  unfold Watched.step at taken
  split at taken
  · cases taken
  · rename_i after laps applied
    rcases update_cases applied with ⟨quiet, cars, -⟩ |
        ⟨held, rows, at_, full, cars, epoch, table, result, -⟩
    · rw [quiet] at taken
      cases taken
      exact Or.inl ⟨quiet, cars, rfl, rfl⟩
    · rw [table] at taken
      dsimp only at taken
      split at taken
      · rename_i nodup
        cases taken
        rw [carNumbers, List.map_map] at nodup
        exact Or.inr ⟨held, rows, at_, full, cars, epoch, table, result, rfl, rfl, nodup⟩
      · cases taken

theorem sound_update {py : Runtime} {watched next : Watched} {update : Update}
    (sound : watched.Sound) (taken : watched.step py update = some next) : next.Sound := by
  rcases step_cases taken with ⟨-, cars, table, seen⟩ |
      ⟨held, rows, at_, full, cars, epoch, -, state, table, seen, nodup⟩
  · constructor
    · rw [cars, table]
      exact sound.shown
    · rw [cars, seen]
      exact sound.seen
  · constructor
    · intro standing member
      rw [table] at member
      obtain ⟨row, inside, rfl⟩ := List.mem_map.mp member
      have derived : (latest rows).get? row.shown.carNumber = some row.shown :=
        Dict.get?_ofRows_of_mem nodup inside
      obtain ⟨entry, found, shown, -⟩ := diff_shown held rows at_ full derived
      rw [state]
      exact ⟨entry, found, shown⟩
    · intro number row found
      rw [state] at found
      rw [seen, table, List.mem_append]
      cases derived : (latest rows).get? number with
      | none =>
        rw [diff_untouched held rows at_ full derived] at found
        have before := (base_get? found).2
        rw [cars] at before
        exact Or.inl (sound.seen number row before)
      | some standing =>
        right
        rw [carNumbers, List.map_map]
        by_contra absent
        rw [(latest_eq_none rows number).mpr absent] at derived
        cases derived

/-- What a table emits for one of its cars is against the row held for it, if the table is
not a new one. -/
theorem diff_laps {state : FieldState} {rows : List CarRow} {at_ : ℚ} {full : Bool}
    (nodup : (rows.map fun row => row.shown.carNumber).Nodup) {row : CarRow} (member : row ∈ rows) :
    lapsFor (state.diff rows at_ full).2.2 row.shown.carNumber =
      lapsMade state.source state.session ((state.diff rows at_ full).1.epoch.getD at_)
        ((state.base rows full).get? row.shown.carNumber) row := by
  obtain ⟨emitted, all, -, -, laps⟩ := diff_emitted state rows at_ full
  rw [laps, all]
  exact (emitted_laps _ _ _ rows ⟨state.base rows full, [], []⟩ nodup _).2 row member rfl

theorem lapNumber_lapsMade (source : String) (session : Option SessionRow) (epoch : ℚ)
    {previous : CarRow} {row : CarRow} {had has : Int} (before : previous.shown.laps = some had)
    (now : row.shown.laps = some has) :
    (lapsMade source session epoch (some previous) row).map LapRow.lapNumber =
      if had < has then [has] else [] := by
  by_cases more : had < has <;> simp [lapsMade, rises, lapOf, before, now, more]

theorem lapsMade_none (source : String) (session : Option SessionRow) (epoch : ℚ) (row : CarRow) :
    lapsMade source session epoch none row = [] := by
  simp [lapsMade, rises]

section Agreement

variable {watched : Watched} {held : FieldState} {rows : List CarRow} {at_ : ℚ} {full : Bool}

/-- A new table emits nothing. -/
theorem lapsFor_reset (reset : held.resets (rows.map fun row => row.shown.carNumber) full = true)
    (nodup : (rows.map fun row => row.shown.carNumber).Nodup) {row : CarRow} (member : row ∈ rows) :
    lapsFor (held.diff rows at_ full).2.2 row.shown.carNumber = [] := by
  have none : (held.base rows full).get? row.shown.carNumber = none := by
    rw [FieldState.base, if_pos reset]
    rfl
  rw [diff_laps nodup member, none, lapsMade_none]

theorem lapsFor_first (sound : watched.Sound) (cars : held.cars = watched.state.cars)
    (nodup : (rows.map fun row => row.shown.carNumber).Nodup) {row : CarRow} (member : row ∈ rows)
    (first : row.shown.carNumber ∉ watched.seen) :
    lapsFor (held.diff rows at_ full).2.2 row.shown.carNumber = [] := by
  have none : (held.base rows full).get? row.shown.carNumber = none := by
    rw [Option.eq_none_iff_forall_ne_some]
    intro entry found
    have before := (base_get? found).2
    rw [cars] at before
    exact first (sound.seen _ entry before)
  rw [diff_laps nodup member, none, lapsMade_none]

/-- A table that goes on from the last one emits a lap exactly where the count rose. -/
theorem lapsFor_continued (sound : watched.Sound) (cars : held.cars = watched.state.cars)
    (goes : held.resets (rows.map fun row => row.shown.carNumber) full = false)
    (nodup : (rows.map fun row => row.shown.carNumber).Nodup) {row : CarRow} (member : row ∈ rows)
    {before : Standing} (old : before ∈ watched.table)
    (same : before.carNumber = row.shown.carNumber) {had has : Int}
    (count : before.laps = some had) (now : row.shown.laps = some has) :
    (lapsFor (held.diff rows at_ full).2.2 row.shown.carNumber).map LapRow.lapNumber =
      if had < has then [has] else [] := by
  obtain ⟨previous, found, shown⟩ := sound.shown before old
  have base : (held.base rows full).get? row.shown.carNumber = some previous := by
    rw [FieldState.base, goes, ← same, cars]
    exact found
  rw [diff_laps nodup member, base]
  apply lapNumber_lapsMade
  · rw [shown]
    exact count
  · exact now

end Agreement

theorem meets_iff_cleanUpdate {py : Runtime} {watched next : Watched} {update : Update}
    (sound : watched.Sound) (taken : watched.step py update = some next) :
    watched.Meets py update ↔ watched.Clean py update := by
  obtain ⟨after, laps, applied, distinct⟩ : ∃ after laps,
      update.apply py watched.state = some (after, laps) ∧
        ∀ table full, update.table py watched.state = some (table, full) →
          (carNumbers table).Nodup := by
    unfold Watched.step at taken
    split at taken
    · cases taken
    · rename_i after laps applied
      refine ⟨after, laps, applied, ?_⟩
      intro table full brought
      rw [brought] at taken
      dsimp only at taken
      split at taken
      · assumption
      · cases taken
  unfold Watched.Meets Watched.Clean
  rcases update_cases applied with ⟨quiet, -, none⟩ |
      ⟨held, rows, at_, full, cars, epoch, brought, -, made⟩
  · rw [quiet]
    refine ⟨fun _ => trivial, ?_⟩
    intro _ later others again
    cases applied.symm.trans again
    exact none
  · have nodup := distinct _ _ brought
    rw [carNumbers, List.map_map] at nodup
    have resets : watched.state.resets (carNumbers (rows.map CarRow.shown)) full =
        held.resets (rows.map fun row => row.shown.carNumber) full := by
      rw [FieldState.resets, FieldState.resets, cars, epoch, carNumbers, List.map_map]
      rfl
    rw [brought]
    dsimp only
    rw [resets]
    constructor
    · intro meets reset before old standing member same
      obtain ⟨row, inside, rfl⟩ := List.mem_map.mp member
      have lap := (meets after laps applied _ member).1 before old same
      rw [made, lapsFor_reset reset nodup inside] at lap
      cases count : before.laps with
      | none => rfl
      | some had =>
        cases now : row.shown.laps with
        | none => rfl
        | some has =>
          have none := lap had has count now
          by_contra higher
          have more : had < has := by simpa [rises] using higher
          rw [if_pos more] at none
          cases none
    · intro clean later others again standing member
      cases applied.symm.trans again
      obtain ⟨row, inside, rfl⟩ := List.mem_map.mp member
      rw [made]
      constructor
      · intro before old same had has count now
        cases reset : held.resets (rows.map fun row => row.shown.carNumber) full with
        | false => exact lapsFor_continued sound cars reset nodup inside old same count now
        | true =>
          have level := clean reset before old _ member same
          rw [count, now] at level
          have less : ¬ had < has := by simpa [rises] using level
          rw [lapsFor_reset reset nodup inside, if_neg less]
          rfl
      · intro first
        exact lapsFor_first sound cars nodup inside first

/-- What reaches the state: documents, of which each element is an update, and
snapshots. -/
inductive Input where
  | document (root : Element) (at_ : ℚ)
  | snapshot (whole : Snapshot)

def Input.updates : Input → List Update
  | .document root at_ => root.parts.map fun item => .element item at_
  | .snapshot whole => [.snapshot whole]

/-- Over any documents and snapshots: every rise of a lap count from one table to the next
emits its lap and nothing else does, exactly when no update that starts a new table brings
a car whose count rose. -/
theorem laps_along_iff_clean (py : Runtime) (source : String) (inputs : List Input) :
    Machine.Along (Watched.step py) (Watched.Meets py) (.new source)
        (inputs.flatMap Input.updates) ↔
      Machine.Along (Watched.step py) (Watched.Clean py) (.new source)
        (inputs.flatMap Input.updates) := by
  apply Machine.along_congr Watched.Sound
  · intro watched update next sound clean taken
    exact sound_update sound taken
  · intro watched update next sound taken
    exact meets_iff_cleanUpdate sound taken
  · constructor
    · intro standing member
      cases member
    · intro number row found
      cases found

def sampleGrid (lines : List (String × String)) : Element :=
  .node "Leaderboard" (updated .empty [("Type", "full")])
    (lines.map fun line => .node "Position"
      (updated .empty [("Line", line.1), ("Comp", line.1), ("LastLap", line.2)]) [])

/-- A car completes its fifth lap in the table that a second car joins. -/
def joining : List Input :=
  [.document (sampleGrid [("1", "4")]) 0, .document (sampleGrid [("1", "5"), ("2", "0")]) 1]

theorem joining_loses_lap :
    ¬ Machine.Along (Watched.step samplePython) (Watched.Meets samplePython) (.new "natsoft")
      (joining.flatMap Input.updates) := by
  intro along
  have second := ((along _ rfl).2 _ rfl).1
  have lap := (second _ _ rfl _ List.mem_cons_self).1 _ List.mem_cons_self rfl 4 5 rfl rfl
  exact absurd lap (by decide +kernel)

end OpenLaps.Field

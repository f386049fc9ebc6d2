import OpenLaps.Lib.Machine
import OpenLaps.Pit.TimingFeed.FieldState

/- The rows held against the standings the lines come to. A full leaderboard starts a new
table when the cars differ; a part and a new registry add to the table there is. -/
namespace OpenLaps.Field

/-- The standing of each car: of several rows for one car, the last. -/
def latest (rows : List CarRow) : Dict String Standing :=
  Dict.ofRows (fun row => row.shown.carNumber) CarRow.shown rows

/-- The cars held are those the lines come to, each as the lines show it, in one epoch. -/
structure FieldState.Consistent (py : Runtime) (state : FieldState) : Prop where
  shown : ∀ at_, ∃ rows, state.rowsFromLines py at_ = .ok rows ∧
    ∀ number, (state.cars.get? number).map CarRow.shown = (latest rows).get? number
  epoch : ∀ first second row other, state.cars.get? first = some row →
    state.cars.get? second = some other → row.epoch = other.epoch
  current : ∀ epoch, state.epoch = some epoch → ∀ number row,
    state.cars.get? number = some row → row.epoch = epoch

/-- The state with an element's lines or registry in place, and whether the standings it
comes to are a whole table. -/
def FieldState.held (py : Runtime) (state : FieldState) (element : Element) :
    Option (FieldState × Bool) :=
  if element.tag = "Leaderboard" then
    match incoming py (element.iter "Position") .empty with
    | .error _ => none
    | .ok lines => some ({ state with lines := mergeLines (isPart py element) state.lines lines },
        !isPart py element)
  else if element.tag = "CompetitorList" then
    if state.lines.entries.isEmpty then none
    else some ({ state with competitors := competitorList element }, false)
  else none

/-- A part or a registry keeps every car there is, and comes after a full leaderboard
unless all rows held are of its own time. -/
def FieldState.keeps (py : Runtime) (at_ : ℚ) (state : FieldState) (element : Element) : Bool :=
  match state.held py element with
  | none => true
  | some (held, full) =>
    full || match held.standings py with
      | .error _ => true
      | .ok standings =>
        state.cars.keys.all (standings.map Standing.carNumber).contains &&
          (state.epoch.isSome || state.cars.entries.all fun entry => entry.2.epoch = at_)

/-- The elements of a document since its last full leaderboard keep the cars. -/
def FieldState.settles (py : Runtime) (at_ : ℚ) : FieldState → List Element → Bool → Bool
  | _, [], fine => fine
  | state, element :: rest, fine =>
    (state.applyElement py at_ element).1.settles py at_ rest
      ((state.held py element).any Prod.snd || fine && state.keeps py at_ element)

/-- A document that is accepted. -/
def FieldState.accept (py : Runtime) (state : FieldState) (document : String × ℚ) :
    Option FieldState :=
  match state.applyDocument py document.1 document.2 with
  | (next, .ok _) => some next
  | (_, .error _) => none

def FieldState.settled (py : Runtime) (state : FieldState) (document : String × ℚ) : Bool :=
  match py.fromString document.1 with
  | .error _ => true
  | .ok root =>
    { state with documents := state.documents + 1 }.settles py document.2 root.parts true

section Diff

variable (source : String) (session : Option SessionRow) (epoch : ℚ)

/-- One row: its car shows it, and every other car is as before. -/
theorem emitRow_cars (emitted : Emitted) (row : CarRow) :
    ∃ entry, entry.shown = row.shown ∧
      (entry.epoch = epoch ∨ emitted.cars.get? row.shown.carNumber = some entry) ∧
      ∀ number, (emitRow source session epoch emitted row).cars.get? number =
        if row.shown.carNumber = number then some entry else emitted.cars.get? number := by
  cases found : emitted.cars.get? row.shown.carNumber with
  | none =>
    refine ⟨⟨row.time, epoch, row.shown⟩, rfl, Or.inl rfl, ?_⟩
    intro number
    simp [emitRow, found, Dict.get?_set]
  | some previous =>
    cases same : ({ row with epoch := epoch } : CarRow).sameAs previous with
    | false =>
      refine ⟨⟨row.time, epoch, row.shown⟩, rfl, Or.inl rfl, ?_⟩
      intro number
      simp [emitRow, found, same, Dict.get?_set]
    | true =>
      have equal : row.shown = previous.shown := by
        simp only [CarRow.sameAs, Bool.and_eq_true, decide_eq_true_eq] at same
        exact same.2
      refine ⟨previous, equal.symm, Or.inr rfl, ?_⟩
      intro number
      simp only [emitRow, found, same, if_true]
      split
      · rename_i here
        rw [← here, found]
      · rfl

/-- All rows: each car of them shows its last row. -/
theorem emitted_shown (rows : List CarRow) (start : Emitted) (number : String) :
    match (latest rows).get? number with
    | none => (rows.foldl (emitRow source session epoch) start).cars.get? number =
        start.cars.get? number
    | some standing => ∃ entry,
        (rows.foldl (emitRow source session epoch) start).cars.get? number = some entry ∧
          entry.shown = standing ∧
          (entry.epoch = epoch ∨ start.cars.get? number = some entry) := by
  induction rows using List.reverseRecOn with
  | nil => rfl
  | append_singleton rows last ih =>
    rw [latest, Dict.ofRows_append, Dict.get?_set, List.foldl_append, List.foldl_cons,
      List.foldl_nil]
    obtain ⟨entry, shown, stamp, lookup⟩ := emitRow_cars source session epoch
      (rows.foldl (emitRow source session epoch) start) last
    rw [lookup number]
    by_cases here : last.shown.carNumber = number
    · rw [if_pos here, if_pos here]
      refine ⟨entry, rfl, shown, ?_⟩
      rcases stamp with fresh | old
      · exact Or.inl fresh
      · rw [here] at old
        split at ih
        · exact Or.inr (ih.symm.trans old)
        · obtain ⟨before, found, -, stamp⟩ := ih
          cases found.symm.trans old
          exact stamp
    · rw [if_neg here, if_neg here]
      exact ih

end Diff

/-- A table and its registry come to the same standings whatever is held besides. -/
theorem standings_congr (py : Runtime) {state other : FieldState}
    (source : other.source = state.source) (competitors : other.competitors = state.competitors)
    (lines : other.lines = state.lines) : other.standings py = state.standings py := by
  rw [FieldState.standings, FieldState.standings, source, competitors, lines]

/-- The cars a diff starts from. -/
def FieldState.base (state : FieldState) (rows : List CarRow) (full : Bool) : Dict String CarRow :=
  if state.resets (rows.map fun row => row.shown.carNumber) full then .empty else state.cars

section Diffs

variable (state : FieldState) (rows : List CarRow) (at_ : ℚ) (full : Bool)

/-- A diff changes the cars and the epoch, nothing else. -/
theorem diff_frame :
    (state.diff rows at_ full).1.source = state.source ∧
    (state.diff rows at_ full).1.competitors = state.competitors ∧
    (state.diff rows at_ full).1.lines = state.lines ∧
    (state.diff rows at_ full).1.session = state.session := by
  rw [FieldState.diff]
  dsimp only
  split <;> exact ⟨rfl, rfl, rfl, rfl⟩

theorem diff_epoch :
    (state.diff rows at_ full).1.epoch =
      if state.resets (rows.map fun row => row.shown.carNumber) full then some at_
      else state.epoch := by
  rw [FieldState.diff]
  dsimp only
  split <;> rfl

theorem diff_emitted :
    ∃ emitted : Emitted,
      emitted = rows.foldl (emitRow state.source state.session
        ((state.diff rows at_ full).1.epoch.getD at_)) ⟨state.base rows full, [], []⟩ ∧
      (state.diff rows at_ full).1.cars = emitted.cars ∧
      (state.diff rows at_ full).2.1 = emitted.changed ∧
      (state.diff rows at_ full).2.2 = emitted.laps := by
  refine ⟨_, rfl, ?_⟩
  rw [diff_epoch, FieldState.base, FieldState.diff]
  dsimp only
  split <;> exact ⟨rfl, rfl, rfl⟩

theorem latest_eq_none (number : String) :
    (latest rows).get? number = none ↔ number ∉ rows.map fun row => row.shown.carNumber := by
  rw [latest, Dict.get?_eq_none, Dict.mem_keys_ofRows]

/-- A car of the table shows its row after the diff. -/
theorem diff_shown {number : String} {standing : Standing}
    (derived : (latest rows).get? number = some standing) :
    ∃ entry, (state.diff rows at_ full).1.cars.get? number = some entry ∧
      entry.shown = standing ∧
      (entry.epoch = (state.diff rows at_ full).1.epoch.getD at_ ∨
        (state.base rows full).get? number = some entry) := by
  obtain ⟨emitted, all, cars, -, -⟩ := diff_emitted state rows at_ full
  have shown := emitted_shown state.source state.session
    ((state.diff rows at_ full).1.epoch.getD at_) rows ⟨state.base rows full, [], []⟩ number
  rw [derived] at shown
  rw [cars, all]
  exact shown

theorem diff_untouched {number : String} (other : (latest rows).get? number = none) :
    (state.diff rows at_ full).1.cars.get? number = (state.base rows full).get? number := by
  obtain ⟨emitted, all, cars, -, -⟩ := diff_emitted state rows at_ full
  have kept := emitted_shown state.source state.session
    ((state.diff rows at_ full).1.epoch.getD at_) rows ⟨state.base rows full, [], []⟩ number
  rw [other] at kept
  rw [cars, all]
  exact kept

variable {state rows at_ full}

/-- What a diff starts from is empty or what there was, which a full table then covers. -/
theorem base_get? {number : String} {row : CarRow}
    (found : (state.base rows full).get? number = some row) :
    state.resets (rows.map fun row => row.shown.carNumber) full = false ∧
      state.cars.get? number = some row := by
  rw [FieldState.base] at found
  split at found
  · cases found
  · rename_i same
    exact ⟨Bool.eq_false_iff.mpr same, found⟩

theorem resets_false {numbers : List String} (same : state.resets numbers true = false) :
    state.epoch.isSome = true ∧ (∀ number ∈ numbers, number ∈ state.cars.keys) ∧
      ∀ number ∈ state.cars.keys, number ∈ numbers := by
  simp only [FieldState.resets, Bool.true_and, Bool.or_eq_false_iff, Bool.not_eq_false',
    Bool.and_eq_true, List.all_eq_true, Dict.contains_iff, List.contains_iff_mem] at same
  refine ⟨?_, same.2.1, same.2.2⟩
  rw [← Option.not_isNone, same.1]
  rfl

/-- Rows held carry the epoch, once there is one. -/
def FieldState.Stamped (state : FieldState) : Prop :=
  ∀ epoch, state.epoch = some epoch → ∀ number row, state.cars.get? number = some row →
    row.epoch = epoch

theorem stamped_diff (stamped : state.Stamped) : (state.diff rows at_ full).1.Stamped := by
  intro epoch now number row found
  have old : (state.base rows full).get? number = some row → row.epoch = epoch := by
    intro before
    obtain ⟨same, held⟩ := base_get? before
    rw [diff_epoch, same] at now
    exact stamped epoch now number row held
  cases derived : (latest rows).get? number with
  | none =>
    rw [diff_untouched state rows at_ full derived] at found
    exact old found
  | some standing =>
    obtain ⟨entry, present, -, stamp⟩ := diff_shown state rows at_ full derived
    cases present.symm.trans found
    rcases stamp with fresh | before
    · rw [fresh, now]
      rfl
    · exact old before

/-- Where the diff is of a whole table, or of one with every car held and of their epoch,
the cars held afterwards are those of the table. -/
theorem diff_consistent (stamped : state.Stamped)
    (kept : full = true ∨
      (∀ number ∈ state.cars.keys, number ∈ rows.map fun row => row.shown.carNumber) ∧
        (state.epoch.isSome = true ∨
          ∀ number row, state.cars.get? number = some row → row.epoch = at_)) :
    (∀ number, ((state.diff rows at_ full).1.cars.get? number).map CarRow.shown =
      (latest rows).get? number) ∧
    ∀ number row, (state.diff rows at_ full).1.cars.get? number = some row →
      row.epoch = (state.diff rows at_ full).1.epoch.getD at_ := by
  have covered : ∀ number row, (state.base rows full).get? number = some row →
      number ∈ (rows.map fun row => row.shown.carNumber) ∧
        row.epoch = (state.diff rows at_ full).1.epoch.getD at_ := by
    intro number row found
    obtain ⟨same, held⟩ := base_get? found
    have key : number ∈ state.cars.keys := by
      rw [← Dict.contains_iff, Dict.contains, held]
      rfl
    rw [diff_epoch, same]
    cases epoch : state.epoch with
    | some epoch_ =>
      refine ⟨?_, stamped epoch_ epoch number row held⟩
      rcases kept with whole | part
      · rw [whole] at same
        exact (resets_false same).2.2 number key
      · exact part.1 number key
    | none =>
      rcases kept with whole | part
      · rw [whole] at same
        have some := (resets_false same).1
        rw [epoch] at some
        cases some
      · refine ⟨part.1 number key, ?_⟩
        rcases part.2 with some | all
        · rw [epoch] at some
          cases some
        · exact all number row held
  have absent : ∀ number, (latest rows).get? number = none →
      (state.diff rows at_ full).1.cars.get? number = none := by
    intro number other
    rw [diff_untouched state rows at_ full other, Option.eq_none_iff_forall_ne_some]
    intro row found
    exact (latest_eq_none rows number).mp other (covered number row found).1
  constructor
  · intro number
    cases derived : (latest rows).get? number with
    | none =>
      rw [absent number derived]
      rfl
    | some standing =>
      obtain ⟨entry, present, shown, -⟩ := diff_shown state rows at_ full derived
      rw [present, Option.map_some, shown]
  · intro number row found
    cases derived : (latest rows).get? number with
    | none =>
      rw [absent number derived] at found
      cases found
    | some standing =>
      obtain ⟨entry, present, -, stamp⟩ := diff_shown state rows at_ full derived
      cases present.symm.trans found
      rcases stamp with fresh | before
      · exact fresh
      · exact (covered number _ before).2

end Diffs

/-- The rows of some standings, stamped. -/
def stampRows (state : FieldState) (at_ : ℚ) (standings : List Standing) : List CarRow :=
  standings.map fun standing => ⟨at_, state.epoch.getD at_, standing⟩

theorem latest_stampRows (state : FieldState) (at_ : ℚ) (standings : List Standing) :
    latest (stampRows state at_ standings) = Dict.ofRows Standing.carNumber id standings := by
  rw [latest, stampRows, Dict.ofRows_map]
  rfl

theorem rederive_ok {py : Runtime} {state next : FieldState} {at_ : ℚ} {full : Bool}
    {changes : Changes} (done : state.rederive py at_ full = (next, .ok changes)) :
    ∃ standings, state.standings py = .ok standings ∧
      (next, changes.cars, changes.laps) = state.diff (stampRows state at_ standings) at_ full := by
  unfold FieldState.rederive FieldState.rowsFromLines at done
  cases outcome : state.standings py with
  | error error =>
    rw [outcome] at done
    cases done
  | ok standings =>
    rw [outcome] at done
    cases done
    exact ⟨standings, rfl, rfl⟩

/-- One element that is accepted: new standings, or none. -/
theorem applyElement_cases {py : Runtime} {at_ : ℚ} {state next : FieldState} {element : Element}
    {changes : Changes} (done : state.applyElement py at_ element = (next, .ok changes)) :
    (∃ held full standings, state.held py element = some (held, full) ∧
      held.source = state.source ∧ held.cars = state.cars ∧ held.epoch = state.epoch ∧
      held.session = state.session ∧ held.standings py = .ok standings ∧
      (next, changes.cars, changes.laps) = held.diff (stampRows held at_ standings) at_ full) ∨
    (state.held py element = none ∧ next.source = state.source ∧ next.cars = state.cars ∧
      next.epoch = state.epoch ∧ next.standings py = state.standings py ∧
      changes.laps = []) := by
  unfold FieldState.applyElement at done
  split at done
  · rename_i tag
    left
    unfold FieldState.leaderboard at done
    split at done
    · cases done
    · rename_i lines read
      dsimp only at done
      split at done
      · cases done
      · obtain ⟨standings, derived, result⟩ := rederive_ok done
        refine ⟨{ state with lines := mergeLines (isPart py element) state.lines lines }, _,
          standings, ?_, rfl, rfl, rfl, rfl, derived, result⟩
        simp [FieldState.held, tag, read]
  · rename_i notBoard
    split at done
    · rename_i tag
      unfold FieldState.register at done
      dsimp only at done
      split at done
      · rename_i empty
        right
        cases done
        have nothing : state.lines.entries = [] := List.isEmpty_iff.mp empty
        refine ⟨by simp [FieldState.held, tag, nothing], rfl, rfl, rfl, ?_, rfl⟩
        simp [FieldState.standings, nothing, standingsLoop]
      · rename_i some
        left
        obtain ⟨standings, derived, result⟩ := rederive_ok done
        refine ⟨{ state with competitors := competitorList element }, _, standings, ?_, rfl, rfl,
          rfl, rfl, derived, result⟩
        simpa [FieldState.held, tag] using some
    · rename_i notRegistry
      right
      have none : state.held py element = none := by
        simp [FieldState.held, notBoard, notRegistry]
      refine ⟨none, ?_⟩
      split at done
      · unfold FieldState.sessionUpdate at done
        dsimp only at done
        split at done
        · cases done
        · split at done <;> cases done <;> exact ⟨rfl, rfl, rfl, rfl, rfl⟩
      · split at done
        · split at done
          · cases done
          · cases done
            exact ⟨rfl, rfl, rfl, rfl, rfl⟩
        · cases done
          exact ⟨rfl, rfl, rfl, rfl, rfl⟩

section Documents

variable {py : Runtime} {at_ : ℚ}

theorem stamped_element {state next : FieldState} {element : Element} {changes : Changes}
    (done : state.applyElement py at_ element = (next, .ok changes)) (stamped : state.Stamped) :
    next.Stamped := by
  rcases applyElement_cases done with ⟨held, full, standings, -, -, cars, epoch, -, -, result⟩ |
      ⟨-, -, cars, epoch, -, -⟩
  · have before : held.Stamped := by
      rw [FieldState.Stamped, cars, epoch]
      exact stamped
    have after : next = (held.diff (stampRows held at_ standings) at_ full).1 :=
      congrArg Prod.fst result
    rw [after]
    exact stamped_diff before
  · rw [FieldState.Stamped, cars, epoch]
    exact stamped

theorem consistent_of_standings {state : FieldState} {standings : List Standing}
    (derived : state.standings py = .ok standings) (stamped : state.Stamped)
    (shown : ∀ number, (state.cars.get? number).map CarRow.shown =
      (Dict.ofRows Standing.carNumber id standings).get? number) {epoch : ℚ}
    (uniform : ∀ number row, state.cars.get? number = some row → row.epoch = epoch) :
    state.Consistent py := by
  constructor
  · intro later
    refine ⟨stampRows state later standings, ?_, ?_⟩
    · rw [FieldState.rowsFromLines, derived]
      rfl
    · rw [latest_stampRows]
      exact shown
  · intro first second row other found present
    rw [uniform first row found, uniform second other present]
  · exact stamped

/-- An element that keeps the cars, or brings a whole table, leaves consistent rows. -/
theorem consistent_element {state next : FieldState} {element : Element} {changes : Changes}
    (done : state.applyElement py at_ element = (next, .ok changes)) (stamped : state.Stamped)
    (fine : (state.held py element).any Prod.snd = true ∨
      state.Consistent py ∧ state.keeps py at_ element = true) : next.Consistent py := by
  have later := stamped_element done stamped
  rcases applyElement_cases done with
      ⟨held, full, standings, brought, source, cars, epoch, session, derived, result⟩ |
      ⟨quiet, -, cars, epoch, same, -⟩
  · have before : held.Stamped := by
      rw [FieldState.Stamped, cars, epoch]
      exact stamped
    have kept : full = true ∨
        (∀ number ∈ held.cars.keys,
          number ∈ (stampRows held at_ standings).map fun row => row.shown.carNumber) ∧
          (held.epoch.isSome = true ∨
            ∀ number row, held.cars.get? number = some row → row.epoch = at_) := by
      rw [brought] at fine
      rcases fine with whole | part
      · exact Or.inl whole
      · have keeps := part.2
        simp only [FieldState.keeps, brought, derived, Bool.or_eq_true, Bool.and_eq_true,
          List.all_eq_true, List.contains_iff_mem, decide_eq_true_eq] at keeps
        rcases keeps with whole | ⟨all, epochs⟩
        · exact Or.inl whole
        · right
          rw [cars, epoch, stampRows, List.map_map]
          refine ⟨all, epochs.imp_right ?_⟩
          intro same number row found
          exact same (number, row) ((state.cars.get?_eq_some number row).mp found)
    have after : next = (held.diff (stampRows held at_ standings) at_ full).1 :=
      congrArg Prod.fst result
    obtain ⟨shown, uniform⟩ := diff_consistent before kept
    have frame := diff_frame held (stampRows held at_ standings) at_ full
    have still : next.standings py = .ok standings := by
      rw [after, standings_congr py frame.1 frame.2.1 frame.2.2.1]
      exact derived
    rw [latest_stampRows] at shown
    apply consistent_of_standings still later
    · rw [after]
      exact shown
    · rw [after]
      exact uniform
  · rcases fine with whole | ⟨consistent, -⟩
    · rw [quiet] at whole
      cases whole
    · constructor
      · intro when_
        rw [FieldState.rowsFromLines, same, epoch, cars]
        exact consistent.shown when_
      · rw [cars]
        exact consistent.epoch
      · exact later

/-- A document that settles: its last full leaderboard, and what follows, element by
element. -/
theorem consistent_elements (elements : List Element) (state next : FieldState) (so : Changes)
    (changes : Changes) (fine : Bool)
    (done : state.applyElements py at_ elements so = (next, .ok changes)) (stamped : state.Stamped)
    (consistent : fine = true → state.Consistent py) :
    next.Stamped ∧ (state.settles py at_ elements fine = true → next.Consistent py) := by
  induction elements generalizing state so fine with
  | nil =>
    cases done
    exact ⟨stamped, consistent⟩
  | cons element rest ih =>
    rw [FieldState.applyElements] at done
    split at done
    · cases done
    · rename_i middle own applied
      have moved : (state.applyElement py at_ element).1 = middle := by rw [applied]
      rw [FieldState.settles, moved]
      apply ih middle _ _ done (stamped_element applied stamped)
      intro still
      apply consistent_element applied stamped
      rcases (Bool.or_eq_true _ _).mp still with whole | part
      · exact Or.inl whole
      · have both := (Bool.and_eq_true _ _).mp part
        exact Or.inr ⟨consistent both.1, both.2⟩

theorem accept_step {state next : FieldState} {document : String × ℚ}
    (stamped : state.Stamped) (consistent : state.Consistent py)
    (settled : state.settled py document = true)
    (taken : state.accept py document = some next) : next.Stamped ∧ next.Consistent py := by
  unfold FieldState.accept at taken
  split at taken
  · rename_i after batch applied
    cases taken
    unfold FieldState.applyDocument at applied
    unfold FieldState.settled at settled
    split at applied
    · cases applied
    · rename_i root parsed
      rw [parsed] at settled
      cases outcome : FieldState.applyElements py document.2
          { state with documents := state.documents + 1 } root.parts .none with
      | mk final result =>
        rw [outcome] at applied
        cases result with
        | error error => cases applied
        | ok changes =>
          cases applied
          have counted : ({ state with documents := state.documents + 1 } :
              FieldState).Consistent py :=
            ⟨consistent.shown, consistent.epoch, consistent.current⟩
          have all := consistent_elements root.parts _ _ _ _ true outcome stamped
            fun _ => counted
          exact ⟨all.1, all.2 settled⟩
  · cases taken

end Documents

theorem consistent_new (py : Runtime) (source : String) : (FieldState.new source).Consistent py := by
  constructor
  · intro at_
    exact ⟨[], rfl, fun number => rfl⟩
  · intro first second row other found
    cases found
  · intro epoch none
    cases none

/-- Over any accepted documents: the cars held are those of the lines, each as derived
and all of one epoch, as long as each document settles. -/
theorem consistent_of_settled (py : Runtime) (source : String) (documents : List (String × ℚ))
    (settled : Machine.Along (FieldState.accept py)
      (fun state document => state.settled py document = true) (.new source) documents) :
    Machine.Always (FieldState.accept py) (FieldState.Consistent py) (.new source) documents := by
  refine Machine.always_of_along (fun state => state.Stamped ∧ state.Consistent py)
    (fun state invariant => invariant.2) ?_ documents _ ?_ settled
  · intro state document next invariant settled taken
    exact accept_step invariant.1 invariant.2 settled taken
  · refine ⟨?_, consistent_new py source⟩
    intro epoch none
    cases none

def sampleRegistry : Element :=
  .node "CompetitorList" .empty
    [.node "Competitor" (updated .empty [("ID", "1"), ("Number", "27")]) []]

def sampleBoard (kind laps : String) : Element :=
  .node "Leaderboard" (updated .empty [("Type", kind)])
    [.node "Position" (updated .empty [("Line", "1"), ("Comp", "1"), ("LastLap", laps)]) []]

def sampleDocuments : List (String × Element) :=
  [("<CompetitorList><Competitor ID='1' Number='27'/></CompetitorList>", sampleRegistry),
    ("<Leaderboard Type='full'><Position Line='1' Comp='1' LastLap='4'/></Leaderboard>",
      sampleBoard "full" "4"),
    ("<Leaderboard Type='part'><Position Line='1' Comp='1' LastLap='5'/></Leaderboard>",
      sampleBoard "part" "5")]

def decimal? (text : String) : Option Int :=
  if text.isEmpty || !text.toList.all Char.isDigit then none
  else some (text.toList.foldl (fun number digit => 10 * number + (digit.toNat - 48)) 0)

/-- A runtime that reads decimals and the documents above. -/
def samplePython : Runtime where
  lower text := String.ofList (text.toList.map Char.toLower)
  upper text := String.ofList (text.toList.map Char.toUpper)
  int := decimal?
  float text := (decimal? text).map fun number => .finite number
  fromTimestamp
    | .finite value => .ok value
    | _ => .error (.valueError "cannot convert float NaN to integer")
  fromString text := match sampleDocuments.lookup text with
    | some root => .ok root
    | none => .error "syntax error"

theorem consistent_sample :
    Machine.Always (FieldState.accept samplePython) (FieldState.Consistent samplePython)
      (.new "natsoft")
      [("<CompetitorList><Competitor ID='1' Number='27'/></CompetitorList>", 0),
        ("<Leaderboard Type='full'><Position Line='1' Comp='1' LastLap='4'/></Leaderboard>", 1),
        ("<Leaderboard Type='part'><Position Line='1' Comp='1' LastLap='5'/></Leaderboard>", 2)] :=
  consistent_of_settled samplePython "natsoft" _ (Machine.along_of_checks _ _ (by decide +kernel))

/-- A registry that comes after the leaderboard renames the car and leaves the old name. -/
theorem renamed_not_consistent :
    ¬ Machine.Always (FieldState.accept samplePython) (FieldState.Consistent samplePython)
      (.new "natsoft")
      [("<Leaderboard Type='full'><Position Line='1' Comp='1' LastLap='4'/></Leaderboard>", 0),
        ("<CompetitorList><Competitor ID='1' Number='27'/></CompetitorList>", 1)] := by
  intro always
  have ghost : ((Machine.run (FieldState.accept samplePython) (.new "natsoft")
      [("<Leaderboard Type='full'><Position Line='1' Comp='1' LastLap='4'/></Leaderboard>", 0),
        ("<CompetitorList><Competitor ID='1' Number='27'/></CompetitorList>", 1)]).map fun state =>
      (state.cars.contains "1",
        (state.rowsFromLines samplePython 1).toOption.map fun rows =>
          (latest rows).contains "1")) = some (true, some false) := by decide +kernel
  obtain ⟨final, reached, both⟩ := Option.map_eq_some_iff.mp ghost
  obtain ⟨rows, derived, shown⟩ := (always.final reached).shown 1
  rw [derived] at both
  have held : final.cars.contains "1" = true := congrArg Prod.fst both
  have gone : (latest rows).contains "1" = false := Option.some.inj (congrArg Prod.snd both)
  rw [Dict.contains, ← shown "1", Option.isSome_map] at gone
  rw [Dict.contains, gone] at held
  cases held

end OpenLaps.Field

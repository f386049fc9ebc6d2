import OpenLaps.Pit.TimingFeed.Conversions

/- A leaderboard once more, and a part against the full leaderboard it stands for. -/
namespace OpenLaps.Field

/-- No reading of the standing is NaN, which equals nothing. -/
def Standing.Comparable (standing : Standing) : Prop :=
  comparable [standing.lastLapS, standing.bestLapS, standing.gapLeadS, standing.gapNextS,
    standing.sec1S, standing.sec2S, standing.sec3S] = true

/-- The readings of a line. -/
def readings (py : Runtime) (attributes : Dict String String) : List (Option PyFloat) :=
  ["LastTime", "FastTime", "GapLeadTime", "GapNextTime", "LastSec1Time", "LastSec2Time",
    "LastSec3Time"].map fun name => seconds? py (attributes.get? name)

theorem standingOf_readings {py : Runtime} {source : String} {competitors : Dict String Competitor}
    {line : Int} {attributes : Dict String String} {place : Option String → Nat} {standing : Standing}
    (derived : standingOf py source competitors line attributes place = .ok standing) :
    standing.Comparable ↔ comparable (readings py attributes) = true := by
  unfold standingOf at derived
  cases position : int? py (attributes.get? "Pos") with
  | error error =>
    rw [position] at derived
    cases derived
  | ok number =>
    cases laps : int? py (attributes.get? "LastLap") with
    | error error =>
      rw [position, laps] at derived
      cases derived
    | ok count =>
      cases stops : int? py (attributes.get? "PitStops") with
      | error error =>
        rw [position, laps, stops] at derived
        cases derived
      | ok pits =>
        rw [position, laps, stops] at derived
        dsimp only [bind, Except.bind] at derived
        split at derived
        · cases derived
        · cases derived
          exact Iff.rfl

theorem standingsLoop_readings {py : Runtime} {source : String}
    {competitors : Dict String Competitor} {entries : List (Int × Dict String String)}
    {counts : Dict (Option String) Nat} {standings : List Standing}
    (derived : standingsLoop py source competitors entries counts = .ok standings) :
    (∀ standing ∈ standings, standing.Comparable) ↔
      ∀ entry ∈ entries, comparable (readings py entry.2) = true := by
  induction entries generalizing counts standings with
  | nil =>
    cases derived
    constructor
    · intro _ entry member
      cases member
    · intro _ standing member
      cases member
  | cons entry rest ih =>
    unfold standingsLoop at derived
    dsimp only [bind, Except.bind] at derived
    split at derived
    · cases derived
    · rename_i standing here
      split at derived
      · cases derived
      · rename_i later read
        cases derived
        rw [List.forall_mem_cons, List.forall_mem_cons, standingOf_readings here, ih read]

theorem standingsLoop_length {py : Runtime} {source : String}
    {competitors : Dict String Competitor} {entries : List (Int × Dict String String)}
    {counts : Dict (Option String) Nat} {standings : List Standing}
    (derived : standingsLoop py source competitors entries counts = .ok standings) :
    standings.length = entries.length := by
  induction entries generalizing counts standings with
  | nil =>
    cases derived
    rfl
  | cons entry rest ih =>
    unfold standingsLoop at derived
    dsimp only [bind, Except.bind] at derived
    split at derived
    · cases derived
    · split at derived
      · cases derived
      · rename_i later read
        cases derived
        rw [List.length_cons, List.length_cons, ih read]

/-- A standing for each line. -/
theorem standings_length {py : Runtime} {state : FieldState} {standings : List Standing}
    (derived : state.standings py = .ok standings) :
    standings.length = state.lines.entries.length := by
  rw [standingsLoop_length derived, List.length_insertionSort]

/-- The standings are comparable just where the readings of their lines are. -/
theorem standings_readings {py : Runtime} {state : FieldState} {standings : List Standing}
    (derived : state.standings py = .ok standings) :
    (∀ standing ∈ standings, standing.Comparable) ↔
      ∀ entry ∈ state.lines.entries, comparable (readings py entry.2) = true := by
  have sorted := standingsLoop_readings derived
  simp only [List.mem_insertionSort] at sorted
  exact sorted

theorem sameAs_iff (row other : CarRow) :
    row.sameAs other = true ↔ row.shown.Comparable ∧ row.shown = other.shown := by
  unfold CarRow.sameAs Standing.Comparable
  rw [Bool.and_eq_true, decide_eq_true_eq]

section Merging

/-- `dict.update`, as its entries are set. -/
theorem updated_eq (attributes : Dict String String) (more : List (String × String)) :
    updated attributes more = Dict.upsert (fun _ text => text) attributes more := rfl

theorem get?_updated (attributes more : Dict String String) (name : String) :
    (updated attributes more.entries).get? name = (more.get? name).or (attributes.get? name) := by
  rw [updated_eq, Dict.get?_upsert _ _ more.nodup]
  show _ = (Dict.lookup more.entries name).or _
  cases Dict.lookup more.entries name <;> rfl

theorem updated_twice (attributes more : Dict String String) :
    updated (updated attributes more.entries) more.entries = updated attributes more.entries := by
  rw [updated_eq, updated_eq]
  exact Dict.upsert_twice attributes more.nodup fun _ _ _ => rfl

/-- The attributes of a line after those of a part. -/
def overwritten (held : Option (Dict String String)) (more : Dict String String) :
    Dict String String :=
  updated (held.getD .empty) more.entries

theorem mergeLines_part (held more : Lines) :
    mergeLines true held more = Dict.upsert overwritten held more.entries := rfl

theorem get?_mergeLines (held more : Lines) (line : Int) :
    (mergeLines true held more).get? line =
      match more.get? line with
      | none => held.get? line
      | some attributes => some (overwritten (held.get? line) attributes) := by
  rw [mergeLines_part, Dict.get?_upsert _ _ more.nodup]
  show _ = match Dict.lookup more.entries line with
    | none => held.get? line
    | some attributes => some (overwritten (held.get? line) attributes)
  cases Dict.lookup more.entries line <;> rfl

/-- The same lines once more change nothing. -/
theorem mergeLines_twice (part : Bool) (held more : Lines) :
    mergeLines part (mergeLines part held more) more = mergeLines part held more := by
  cases part with
  | false => rfl
  | true =>
    rw [mergeLines_part, mergeLines_part]
    apply Dict.upsert_twice held more.nodup
    intro old entry _
    exact updated_twice _ entry.2

theorem heldLines_twice (py : Runtime) (lines : Lines) (element : Element) :
    heldLines py (heldLines py lines element) element = heldLines py lines element := by
  unfold heldLines
  cases incoming py (element.iter "Position") .empty with
  | error error => rfl
  | ok more => exact mergeLines_twice _ lines more

end Merging

section Again

variable (source : String) (session : Option SessionRow) (epoch : ℚ)

theorem rows_changed_prefix (rows : List CarRow) (emitted : Emitted) :
    emitted.changed <+: (rows.foldl (emitRow source session epoch) emitted).changed := by
  induction rows generalizing emitted with
  | nil => exact List.prefix_refl _
  | cons row rest ih =>
    refine List.IsPrefix.trans ?_ (ih _)
    rcases emitRow_dichotomy source session epoch emitted row with
      ⟨same, _⟩ | ⟨⟨_, changed⟩, _⟩
    · simp only [same, List.prefix_refl]
    · rw [changed]
      exact List.prefix_append _ _

/-- Rows emit nothing just where each shows what is held. -/
theorem rows_emit_nothing (rows : List CarRow) (cars : Dict String CarRow) (laps : List LapRow) :
    (rows.foldl (emitRow source session epoch) ⟨cars, [], laps⟩).changed = [] ↔
      ∀ row ∈ rows, ∃ held, cars.get? row.shown.carNumber = some held ∧ row.sameAs held = true := by
  induction rows with
  | nil =>
    constructor
    · intro _ row member
      cases member
    · exact fun _ => rfl
  | cons row rest ih =>
    rw [List.forall_mem_cons, List.foldl_cons]
    rcases emitRow_dichotomy source session epoch
      ⟨cars, [], laps⟩ row with ⟨same, shown⟩ | ⟨⟨_, changed⟩, differs⟩
    · rw [same]
      exact ih.trans ⟨fun all => ⟨shown, all⟩, And.right⟩
    · constructor
      · intro nothing
        have grown := rows_changed_prefix source session epoch rest
          (emitRow source session epoch ⟨cars, [], laps⟩ row)
        rw [nothing, changed] at grown
        exact absurd (List.prefix_nil.mp grown) (by simp)
      · exact fun all => absurd all.1 differs

/-- A diff that is no reset emits nothing just where all its rows show what is held. -/
theorem diff_emits_nothing {state : FieldState} {rows : List CarRow} {at_ : ℚ} {full : Bool}
    (same : state.resets (rows.map fun row => row.shown.carNumber) full = false)
    (timed : ∀ row ∈ rows, row.time = at_) :
    ((state.diff rows at_ full).2.1 = [] ∧ (state.diff rows at_ full).2.2 = []) ↔
      state.Shows rows full := by
  constructor
  · rintro ⟨nothing, _⟩
    refine ⟨same, ?_⟩
    obtain ⟨emitted, all, -, changed, -⟩ := diff_emitted state rows at_ full
    have base : state.base rows full = state.cars := by
      rw [FieldState.base, same]
      rfl
    rw [base] at all
    rw [changed, all] at nothing
    exact (rows_emit_nothing _ _ _ rows state.cars []).mp nothing
  · intro shows
    rw [diff_quiet shows timed]
    exact ⟨rfl, rfl⟩

variable {state : FieldState} {standings : List Standing} {at_ later : ℚ} {full : Bool}

theorem resets_eq_false {state : FieldState} {numbers : List String} (epoch : state.epoch.isSome = true)
    (known : ∀ number ∈ numbers, number ∈ state.cars.keys)
    (listed : ∀ number ∈ state.cars.keys, number ∈ numbers) : state.resets numbers true = false := by
  simp only [FieldState.resets, Bool.true_and, Bool.or_eq_false_iff, Bool.not_eq_false',
    Bool.and_eq_true, List.all_eq_true, Dict.contains_iff, List.contains_iff_mem]
  refine ⟨?_, known, listed⟩
  rw [← Option.not_isSome, epoch]
  rfl

/-- After a diff of distinct cars each of them shows its standing, and a whole table is no
new one. -/
theorem diff_settled (state : FieldState) (at_ : ℚ) (full : Bool)
    (distinct : (standings.map Standing.carNumber).Nodup) :
    (∀ standing ∈ standings, ∃ held,
        (state.diff (stampRows state at_ standings) at_ full).1.cars.get? standing.carNumber =
            some held ∧ held.shown = standing) ∧
      (state.diff (stampRows state at_ standings) at_ full).1.resets
        (standings.map Standing.carNumber) full = false := by
  have shown : ∀ standing ∈ standings, ∃ held,
      (state.diff (stampRows state at_ standings) at_ full).1.cars.get? standing.carNumber =
          some held ∧ held.shown = standing := by
    intro standing member
    have derived : (latest (stampRows state at_ standings)).get? standing.carNumber =
        some standing := by
      rw [latest_stampRows]
      exact Dict.get?_ofRows_of_mem distinct member
    obtain ⟨held, found, shows, _⟩ := diff_shown state (stampRows state at_ standings) at_ full derived
    exact ⟨held, found, shows⟩
  refine ⟨shown, ?_⟩
  cases full with
  | false => rfl
  | true =>
    have numbers : (stampRows state at_ standings).map (fun row => row.shown.carNumber) =
        standings.map Standing.carNumber := by
      rw [stampRows, List.map_map]
      rfl
    apply resets_eq_false
    · rw [diff_epoch, numbers]
      split
      · rfl
      · rename_i same
        exact (resets_false (Bool.not_eq_true _ ▸ same)).1
    · intro number listed
      obtain ⟨standing, member, here⟩ := List.mem_map.mp listed
      obtain ⟨held, found, _⟩ := shown standing member
      rw [← here]
      exact Dict.mem_keys found
    · intro number key
      by_contra other
      obtain ⟨held, found⟩ := Dict.exists_of_mem_keys key
      rw [diff_untouched _ _ _ _ ((latest_eq_none _ _).mpr (by rwa [numbers]))] at found
      obtain ⟨same, before⟩ := base_get? found
      rw [numbers] at same
      exact other ((resets_false same).2.2 number (Dict.mem_keys before))

end Again

/-- A diff of standings that is no reset emits nothing just where they are held. -/
theorem stampRows_emit_nothing {state : FieldState} {standings : List Standing} {at_ : ℚ} {full : Bool}
    (table : state.resets (standings.map Standing.carNumber) full = false) :
    ((state.diff (stampRows state at_ standings) at_ full).2.1 = [] ∧
        (state.diff (stampRows state at_ standings) at_ full).2.2 = []) ↔
      ∀ standing ∈ standings, ∃ held, state.cars.get? standing.carNumber = some held ∧
        standing.Comparable ∧ standing = held.shown := by
  have numbers : (stampRows state at_ standings).map (fun row => row.shown.carNumber) =
      standings.map Standing.carNumber := by
    rw [stampRows, List.map_map]
    rfl
  have timed : ∀ row ∈ stampRows state at_ standings, row.time = at_ := by
    intro row member
    obtain ⟨standing, _, here⟩ := List.mem_map.mp member
    rw [← here]
  rw [diff_emits_nothing (numbers ▸ table) timed]
  unfold FieldState.Shows
  rw [numbers, table, stampRows, List.forall_mem_map]
  simp only [sameAs_iff, true_and]

/-- One document more. -/
def FieldState.counted (state : FieldState) : FieldState :=
  { state with documents := state.documents + 1 }

theorem counted_standings (py : Runtime) (state : FieldState) :
    state.counted.standings py = state.standings py := rfl

section Boards

variable {py : Runtime} {at_ later : ℚ} {state next : FieldState} {element : Element} {changes : Changes}

/-- An element is accepted just where it converts and is not over the cap. -/
theorem accepted_iff (py : Runtime) (at_ : ℚ) (state : FieldState) (element : Element) :
    (∃ changes, (state.applyElement py at_ element).2 = .ok changes) ↔
      ElementReadable py state.lines element ∧ ¬Capped py state.lines element := by
  rw [← element_sound at_]
  constructor
  · rintro ⟨changes, accepted⟩
    refine ⟨?_, element_accepted accepted⟩
    intro error raised
    rw [accepted] at raised
    cases raised
  · rintro ⟨sound, free⟩
    cases outcome : (state.applyElement py at_ element).2 with
    | ok changes => exact ⟨changes, rfl⟩
    | error error =>
      cases error with
      | documentError message => exact absurd (element_refused outcome) free
      | other error => exact absurd outcome (sound error)

/-- What an accepted leaderboard comes to: the diff of the standings of its lines. -/
theorem board_ok (board : element.tag = "Leaderboard")
    (done : state.applyElement py at_ element = (next, .ok changes)) :
    ∃ standings, (state.placed py element).standings py = .ok standings ∧
      (next, changes.cars, changes.laps) = (state.placed py element).diff
        (stampRows (state.placed py element) at_ standings) at_ (!isPart py element) := by
  unfold FieldState.applyElement at done
  rw [if_pos board] at done
  unfold FieldState.leaderboard at done
  unfold FieldState.placed
  rw [if_pos board]
  cases read : incoming py (element.iter "Position") .empty with
  | error error =>
    rw [read] at done
    cases done
  | ok lines =>
    rw [read] at done
    dsimp only at done ⊢
    split at done
    · cases done
    · exact rederive_ok done

/-- The same leaderboard finds its lines in place. -/
theorem placed_again (state : FieldState) (board : element.tag = "Leaderboard")
    (lines : next.lines = heldLines py state.lines element) : next.placed py element = next := by
  have same := placed_lines py next element
  rw [if_pos board, lines, heldLines_twice, ← lines] at same
  unfold FieldState.placed at same ⊢
  rw [if_pos board] at same ⊢
  split
  · rfl
  · rename_i more read
    rw [read] at same
    show { next with lines := mergeLines (isPart py element) next.lines more } = next
    rw [show mergeLines (isPart py element) next.lines more = next.lines from same]

/-- The second time a leaderboard is accepted as the first time. -/
theorem accepted_again (at_ later : ℚ) (board : element.tag = "Leaderboard")
    (lines : next.lines = heldLines py state.lines element) :
    (∃ changes, (next.applyElement py later element).2 = .ok changes) ↔
      ∃ changes, (state.applyElement py at_ element).2 = .ok changes := by
  rw [accepted_iff, accepted_iff, lines]
  unfold ElementReadable Capped
  rw [if_pos board, if_pos board, heldLines_twice]

/-- The second time nothing is emitted just where no reading is NaN. -/
theorem board_again (board : element.tag = "Leaderboard")
    (done : state.applyElement py at_ element = (next, .ok changes)) {standings : List Standing}
    (derived : (state.placed py element).standings py = .ok standings)
    (distinct : (standings.map Standing.carNumber).Nodup) {after : FieldState} {more : Changes}
    (again : next.counted.applyElement py later element = (after, .ok more)) :
    (more.cars = [] ∧ more.laps = []) ↔ ∀ standing ∈ standings, standing.Comparable := by
  obtain ⟨standings', derived', first⟩ := board_ok board done
  rw [derived] at derived'
  cases derived'
  have result : next = ((state.placed py element).diff
      (stampRows (state.placed py element) at_ standings) at_ (!isPart py element)).1 :=
    congrArg Prod.fst first
  have frame := diff_frame (state.placed py element)
    (stampRows (state.placed py element) at_ standings) at_ (!isPart py element)
  have settled := diff_settled (state.placed py element) at_ (!isPart py element) distinct
  rw [← result] at frame settled
  have place : next.counted.placed py element = next.counted := by
    apply placed_again state board
    show next.lines = _
    rw [frame.2.2.1, placed_lines, if_pos board]
  obtain ⟨standings', derived', second⟩ := board_ok board again
  rw [place] at derived' second
  rw [counted_standings, standings_congr py frame.1 frame.2.1 frame.2.2.1, derived] at derived'
  cases derived'
  have cars : more.cars = (next.counted.diff (stampRows next.counted later standings) later
      (!isPart py element)).2.1 := congrArg (fun outcome => outcome.2.1) second
  have laps : more.laps = (next.counted.diff (stampRows next.counted later standings) later
      (!isPart py element)).2.2 := congrArg (fun outcome => outcome.2.2) second
  have table : next.counted.resets (standings.map Standing.carNumber) (!isPart py element) = false :=
    settled.2
  rw [cars, laps, stampRows_emit_nothing table]
  constructor
  · intro shown standing member
    obtain ⟨_, _, comparable, _⟩ := shown standing member
    exact comparable
  · intro comparable standing member
    obtain ⟨held, found, shown⟩ := settled.1 standing member
    exact ⟨held, found, comparable standing member, shown.symm⟩

end Boards

/-- An attribute of a line. -/
def attributeOf (lines : Lines) (line : Int) (name : String) : Option String :=
  (lines.get? line).bind fun attributes => attributes.get? name

/-- `first == second`: the same lines with the same attributes, in any order. -/
structure SameLines (first second : Lines) : Prop where
  lines : ∀ line, first.contains line = second.contains line
  attributes : ∀ line name, attributeOf first line name = attributeOf second line name

/-- `whole` carries the lines held, overwritten by those of a part. -/
structure Carries (held part whole : Lines) : Prop where
  lines : ∀ line, whole.contains line = (held.contains line || part.contains line)
  attributes : ∀ line name, attributeOf whole line name =
    (attributeOf part line name).or (attributeOf held line name)

section Agreement

variable {py : Runtime}

theorem mergeLines_sameLines {held part whole : Lines} (carries : Carries held part whole) :
    SameLines (mergeLines true held part) whole := by
  constructor
  · intro line
    rw [carries.lines]
    unfold Dict.contains
    rw [get?_mergeLines]
    cases part.get? line with
    | none => rw [Option.isSome_none, Bool.or_false]
    | some attributes => rw [Option.isSome_some, Option.isSome_some, Bool.or_true]
  · intro line name
    rw [carries.attributes]
    unfold attributeOf
    rw [get?_mergeLines]
    cases part.get? line with
    | none => rfl
    | some attributes =>
      show (overwritten (held.get? line) attributes).get? name = _
      unfold overwritten
      rw [get?_updated]
      cases held.get? line <;> rfl

theorem standingOf_congr (source : String) (competitors : Dict String Competitor) (line : Int)
    {attributes other : Dict String String} (place : Option String → Nat)
    (same : ∀ name, attributes.get? name = other.get? name) :
    standingOf py source competitors line attributes place =
      standingOf py source competitors line other place := by
  unfold standingOf
  simp only [same]

theorem standingsLoop_congr (source : String) (competitors : Dict String Competitor)
    {entries others : List (Int × Dict String String)} (counts : Dict (Option String) Nat)
    (same : List.Forall₂ (fun entry other => entry.1 = other.1 ∧
      ∀ name, entry.2.get? name = other.2.get? name) entries others) :
    standingsLoop py source competitors entries counts =
      standingsLoop py source competitors others counts := by
  induction same generalizing counts with
  | nil => rfl
  | cons here later ih =>
    unfold standingsLoop
    rw [here.1, standingOf_congr source competitors _ _ here.2]
    simp only [ih]

theorem forall₂_of_keys {entries others : List (Int × Dict String String)}
    {R : Int × Dict String String → Int × Dict String String → Prop}
    (same : entries.map Prod.fst = others.map Prod.fst)
    (alike : ∀ entry ∈ entries, ∀ other ∈ others, entry.1 = other.1 → R entry other) :
    List.Forall₂ R entries others := by
  induction entries generalizing others with
  | nil =>
    cases others with
    | nil => exact .nil
    | cons other rest => cases same
  | cons entry rest ih =>
    cases others with
    | nil => cases same
    | cons other others =>
      obtain ⟨here, later⟩ := List.cons.inj same
      constructor
      · exact alike entry List.mem_cons_self other List.mem_cons_self here
      · apply ih later
        intro entry' member other' member'
        exact alike entry' (List.mem_cons_of_mem entry member) other'
          (List.mem_cons_of_mem other member')

theorem sorted_keys (lines : Lines) :
    (lines.entries.insertionSort fun entry other => entry.1 ≤ other.1).map Prod.fst =
      lines.keys.insertionSort (fun line other => line ≤ other) :=
  List.map_insertionSort _ _ _ _ fun _ _ _ _ => Iff.rfl

/-- The lines in order, where both hold the same. -/
theorem sorted_sameLines {first second : Lines} (same : SameLines first second) :
    List.Forall₂ (fun entry other => entry.1 = other.1 ∧ ∀ name, entry.2.get? name = other.2.get? name)
      (first.entries.insertionSort fun entry other => entry.1 ≤ other.1)
      (second.entries.insertionSort fun entry other => entry.1 ≤ other.1) := by
  have keys : first.keys.Perm second.keys := by
    apply (List.perm_ext_iff_of_nodup first.nodup second.nodup).mpr
    intro line
    show line ∈ first.keys ↔ line ∈ second.keys
    rw [← Dict.contains_iff, ← Dict.contains_iff, same.lines]
  have sorted : first.keys.insertionSort (fun line other => line ≤ other) =
      second.keys.insertionSort (fun line other => line ≤ other) := by
    refine List.Perm.eq_of_pairwise ?_
      (List.pairwise_insertionSort (fun line other : Int => line ≤ other) first.keys)
      (List.pairwise_insertionSort (fun line other : Int => line ≤ other) second.keys)
      ((List.perm_insertionSort _ _).trans (keys.trans (List.perm_insertionSort _ _).symm))
    intro line other _ _ below above
    omega
  apply forall₂_of_keys
  · rw [sorted_keys, sorted_keys, sorted]
  · intro entry member other member' here
    refine ⟨here, ?_⟩
    intro name
    have found := (first.get?_eq_some entry.1 entry.2).mpr ((List.mem_insertionSort _).mp member)
    have found' := (second.get?_eq_some other.1 other.2).mpr ((List.mem_insertionSort _).mp member')
    have equal := same.attributes entry.1 name
    unfold attributeOf at equal
    rw [found, here, found'] at equal
    exact equal

theorem standings_sameLines {state other : FieldState} (source : state.source = other.source)
    (competitors : state.competitors = other.competitors) (lines : SameLines state.lines other.lines) :
    state.standings py = other.standings py := by
  unfold FieldState.standings
  rw [source, competitors]
  exact standingsLoop_congr _ _ _ (sorted_sameLines lines)

end Agreement

/-- What a call emits. -/
def emits : Except FeedError Batch → List CarRow × List LapRow
  | .ok batch => (batch.cars, batch.laps)
  | .error _ => ([], [])

/-- Nothing is emitted when the document comes once more. -/
def Idempotent (py : Runtime) (state : FieldState) (text : String) : Prop :=
  ∀ at_ later, emits ((state.applyDocument py text at_).1.applyDocument py text later).2 = ([], [])

/-- The part leaves the lines and the standings that the full leaderboard of the same
attributes leaves. -/
def Agrees (py : Runtime) (state : FieldState) (part : Element) : Prop :=
  ∀ full held whole, isPart py part = true → full.tag = "Leaderboard" → isPart py full = false →
    incoming py (part.iter "Position") .empty = .ok held →
    incoming py (full.iter "Position") .empty = .ok whole → Carries state.lines held whole →
    ∀ at_,
      SameLines (state.applyElement py at_ part).1.lines (state.applyElement py at_ full).1.lines ∧
        (state.placed py part).standings py = (state.placed py full).standings py

section Documents

variable {py : Runtime} {state : FieldState} {root : Element}

theorem agrees (board : root.tag = "Leaderboard") : Agrees py state root := by
  intro full held whole part full' whole' read read' carries at_
  have lines : (state.placed py root).lines = mergeLines true state.lines held := by
    rw [placed_lines, if_pos board]
    unfold heldLines
    rw [read, part]
  have other : (state.placed py full).lines = whole := by
    rw [placed_lines, if_pos full']
    unfold heldLines
    rw [read', whole']
    rfl
  have same : SameLines (state.placed py root).lines (state.placed py full).lines := by
    rw [lines, other]
    exact mergeLines_sameLines carries
  constructor
  · rw [element_lines, element_lines, ← placed_lines, ← placed_lines]
    exact same
  · apply standings_sameLines _ _ same
    · unfold FieldState.placed
      rw [if_pos board, if_pos full', read, read']
    · unfold FieldState.placed
      rw [if_pos board, if_pos full', read, read']

/-- A document that is one leaderboard. -/
theorem applyDocument_board {text : String} (parsed : py.fromString text = .ok root)
    (board : root.tag = "Leaderboard") (state : FieldState) (at_ : ℚ) :
    (state.applyDocument py text at_).1 = (state.counted.applyElement py at_ root).1 ∧
      emits (state.applyDocument py text at_).2 =
        match (state.counted.applyElement py at_ root).2 with
        | .ok changes => (changes.cars, changes.laps)
        | .error _ => ([], []) := by
  have parts : root.parts = [root] := by
    unfold Element.parts
    rw [board, if_neg (by decide)]
  unfold FieldState.applyDocument
  rw [parsed]
  dsimp only
  rw [parts, show ({ state with documents := state.documents + 1 } : FieldState) = state.counted from rfl]
  unfold FieldState.applyElements
  cases state.counted.applyElement py at_ root with
  | mk next outcome => cases outcome <;> exact ⟨rfl, rfl⟩

/-- The second of two times, by what the first has come to. -/
theorem repeated_emits {text : String} (parsed : py.fromString text = .ok root)
    (board : root.tag = "Leaderboard")
    (distinct : ∀ standings, (state.placed py root).standings py = .ok standings →
      (standings.map Standing.carNumber).Nodup) (at_ later : ℚ) :
    emits ((state.applyDocument py text at_).1.applyDocument py text later).2 = ([], []) ↔
      (ElementReadable py state.lines root → ¬Capped py state.lines root →
        ∀ entry ∈ (heldLines py state.lines root).entries, comparable (readings py entry.2) = true) := by
  have place : (state.counted.placed py root).standings py = (state.placed py root).standings py := by
    unfold FieldState.placed
    rw [if_pos board, if_pos board]
    cases incoming py (root.iter "Position") .empty <;> rfl
  have first := accepted_iff py at_ state.counted root
  rw [(applyDocument_board parsed board state at_).1, (applyDocument_board parsed board _ later).2]
  cases done : state.counted.applyElement py at_ root with
  | mk next outcome =>
    have lines : next.counted.lines = heldLines py state.counted.lines root := by
      have held := element_lines py at_ state.counted root
      rw [done, if_pos board] at held
      exact held
    have second := accepted_again at_ later board lines
    rw [done] at first second
    cases outcome with
    | error error =>
      have refused : ¬∃ changes, (Except.error error : Except FeedError Changes) = .ok changes := by
        rintro ⟨changes, here⟩
        cases here
      constructor
      · exact fun _ readable free => absurd (first.mpr ⟨readable, free⟩) refused
      · intro _
        cases again : (next.counted.applyElement py later root).2 with
        | ok more => exact absurd (second.mp ⟨more, again⟩) refused
        | error error => rfl
    | ok changes =>
      obtain ⟨readable, free⟩ := first.mp ⟨changes, rfl⟩
      obtain ⟨standings, derived, _⟩ := board_ok board done
      rw [place] at derived
      obtain ⟨more, accepted⟩ := second.mpr ⟨changes, rfl⟩
      have again : next.counted.applyElement py later root =
          ((next.counted.applyElement py later root).1, .ok more) := Prod.ext rfl accepted
      have settled := board_again board done (place.trans derived) (distinct standings derived) again
      rw [standings_readings derived, placed_lines, if_pos board] at settled
      rw [accepted]
      constructor
      · exact fun nothing _ _ => settled.mp (Prod.mk.inj nothing)
      · intro comparable
        obtain ⟨cars, laps⟩ := settled.mpr (comparable readable free)
        show (more.cars, more.laps) = _
        rw [cars, laps]

end Documents

/-- A leaderboard of distinct cars emits nothing the second time, and as a part agrees with
the full one, just where it is refused or no reading it comes to is NaN. -/
theorem repeated_iff (py : Runtime) (state : FieldState) (text : String) (root : Element)
    (parsed : py.fromString text = .ok root) (board : root.tag = "Leaderboard")
    (distinct : ∀ standings, (state.placed py root).standings py = .ok standings →
      (standings.map Standing.carNumber).Nodup) :
    Idempotent py state text ∧ Agrees py state root ↔
      (ElementReadable py state.lines root → ¬Capped py state.lines root →
        ∀ entry ∈ (heldLines py state.lines root).entries, comparable (readings py entry.2) = true) := by
  rw [and_iff_left (agrees board)]
  unfold Idempotent
  constructor
  · exact fun nothing => (repeated_emits parsed board distinct 0 0).mp (nothing 0 0)
  · exact fun comparable at_ later => (repeated_emits parsed board distinct at_ later).mpr comparable

/-- One line of a leaderboard, with its last time. -/
def timedBoard (time : String) : Element :=
  .node "Leaderboard" (updated .empty [("Type", "full")])
    [.node "Position" (updated .empty [("Line", "1"), ("Comp", "27"), ("LastTime", time)]) []]

/-- A runtime that reads the two boards. -/
def timedPython : Runtime :=
  { samplePython with
    float := fun text => if text = "nan" then some .nan else samplePython.float text
    fromString := fun text =>
      if text = "<Leaderboard Type='full'><Position Line='1' Comp='27' LastTime='90'/></Leaderboard>" then
        .ok (timedBoard "90")
      else if text =
          "<Leaderboard Type='full'><Position Line='1' Comp='27' LastTime='nan'/></Leaderboard>" then
        .ok (timedBoard "nan")
      else .error "syntax error" }

/-- A time with no colon is read as one number. -/
theorem seconds?_plain {py : Runtime} {value : Option String} {text : String}
    (read : text? value = some text) (plain : ':' ∉ text.toList) : seconds? py value = py.float text := by
  unfold seconds?
  rw [read]
  dsimp only
  rw [if_neg]
  rw [String.contains_char_eq, decide_eq_true_eq]
  exact plain

theorem timed_distinct {time : String}
    (one : (heldLines timedPython .empty (timedBoard time)).entries.length = 1)
    (standings : List Standing)
    (derived : ((FieldState.new "natsoft").placed timedPython (timedBoard time)).standings timedPython =
      .ok standings) : (standings.map Standing.carNumber).Nodup := by
  have length := standings_length derived
  rw [placed_lines, if_pos (show (timedBoard time).tag = "Leaderboard" from rfl)] at length
  obtain ⟨standing, alone⟩ := List.length_eq_one_iff.mp (length.trans one)
  rw [alone]
  exact List.nodup_singleton _

theorem comparable_iff (values : List (Option PyFloat)) : comparable values = true ↔ some .nan ∉ values := by
  unfold comparable
  rw [Bool.not_eq_true', ← Bool.not_eq_true, List.contains_iff_mem]

theorem repeated_iff_timed :
    Idempotent timedPython (.new "natsoft")
        "<Leaderboard Type='full'><Position Line='1' Comp='27' LastTime='90'/></Leaderboard>" ∧
      Agrees timedPython (.new "natsoft") (timedBoard "90") := by
  apply (repeated_iff timedPython (.new "natsoft") _ (timedBoard "90") (by rfl) rfl
    (timed_distinct (by decide +kernel))).mpr
  intro _ _ entry member
  have texts : ((heldLines timedPython .empty (timedBoard "90")).entries.all fun entry =>
      entry.2.get? "LastTime" = some "90" && ["FastTime", "GapLeadTime", "GapNextTime",
        "LastSec1Time", "LastSec2Time", "LastSec3Time"].all fun name => entry.2.get? name = none) =
      true := by decide +kernel
  have here := List.all_eq_true.mp texts entry member
  simp only [List.all_cons, List.all_nil, Bool.and_true, Bool.and_eq_true, decide_eq_true_eq] at here
  have last : seconds? timedPython (some "90") = some (.finite 90) := by
    have read : text? (some "90") = some "90" := by decide +kernel
    rw [seconds?_plain read (by decide)]
    decide +kernel
  have absent : seconds? timedPython none = none := rfl
  rw [comparable_iff]
  unfold readings
  simp [here, last, absent]

/-- NaN equals nothing, so that a leaderboard with such a time emits its car again and again. -/
theorem nan_repeated : ¬Idempotent timedPython (.new "natsoft")
    "<Leaderboard Type='full'><Position Line='1' Comp='27' LastTime='nan'/></Leaderboard>" := by
  intro nothing
  have accepted : (((FieldState.new "natsoft").applyElement timedPython 0
      (timedBoard "nan")).2.toOption.isSome) = true := by decide +kernel
  have read : ∃ changes, ((FieldState.new "natsoft").applyElement timedPython 0
      (timedBoard "nan")).2 = .ok changes := by
    generalize ((FieldState.new "natsoft").applyElement timedPython 0 (timedBoard "nan")).2 = outcome
      at accepted
    cases outcome with
    | error error => cases accepted
    | ok changes => exact ⟨changes, rfl⟩
  obtain ⟨readable, free⟩ := (accepted_iff _ _ _ _).mp read
  have comparable := (repeated_emits (by rfl) rfl (timed_distinct (by decide +kernel)) 0 1).mp
    (nothing 0 1) readable free
  have text : ((heldLines timedPython .empty (timedBoard "nan")).entries.any fun entry =>
      entry.2.get? "LastTime" = some "nan") = true := by decide +kernel
  obtain ⟨entry, member, here⟩ := List.any_eq_true.mp text
  have last : seconds? timedPython (some "nan") = some .nan := by
    have read : text? (some "nan") = some "nan" := by decide +kernel
    rw [seconds?_plain read (by decide)]
    decide +kernel
  apply (comparable_iff _).mp (comparable entry member)
  unfold readings
  rw [List.map_cons, of_decide_eq_true here, last]
  exact List.mem_cons_self

end OpenLaps.Field

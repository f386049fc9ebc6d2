import OpenLaps.Pit.TimingFeed.Rejections

/- Which attributes a document can carry without raising anything but `DocumentError`:
`int` refuses an infinity or NaN that `float` has read, and `fromtimestamp` a far time. -/
namespace OpenLaps.Field

def Finite (number : PyFloat) : Prop := ∃ value, number = .finite value

/-- `_int` of the text does not raise. -/
def Whole (py : Runtime) (value : Option String) : Prop :=
  ∀ text, text? value = some text → py.int text = none →
    ∀ number, py.float text = some number → Finite number

/-- The whole numbers of every line. -/
def Legible (py : Runtime) (lines : Lines) : Prop :=
  ∀ entry ∈ lines.entries, Whole py (entry.2.get? "Pos") ∧ Whole py (entry.2.get? "LastLap") ∧
    Whole py (entry.2.get? "PitStops")

/-- The lines after a leaderboard. -/
def heldLines (py : Runtime) (lines : Lines) (element : Element) : Lines :=
  match incoming py (element.iter "Position") .empty with
  | .error _ => lines
  | .ok more => mergeLines (isPart py element) lines more

/-- The count of laps is a number that `int` takes. -/
def CountersReadable (py : Runtime) (element : Element) : Prop :=
  element.tag = "Counters" → py.lower ((element.get "Type").getD "") = "laps" →
    ∀ count, seconds? py (element.get "Count") = some count → Finite count

/-- The kind of a passing is whole, and its time of day one that `fromtimestamp` takes. -/
def PassingReadable (py : Runtime) (element : Element) : Prop :=
  ∀ competitorId, text? (element.get "ID") = some competitorId →
    Whole py (element.get "Type") ∧ ∀ seconds, seconds? py (element.get "Time") = some seconds →
      (!seconds.le (.finite 1000000000) && seconds ≠ .nan) = true →
        ∃ tod, py.fromTimestamp seconds = .ok tod

/-- The leaderboard is refused for its size. -/
def Capped (py : Runtime) (lines : Lines) (element : Element) : Prop :=
  element.tag = "Leaderboard" ∧ maxCars < (heldLines py lines element).entries.length

/-- What the element is read for converts, given the lines held. -/
def ElementReadable (py : Runtime) (lines : Lines) (element : Element) : Prop :=
  if element.tag = "Leaderboard" then
    (∀ position ∈ element.iter "Position", Whole py (position.get "Line")) ∧
      (Capped py lines element ∨ Legible py (heldLines py lines element))
  else if element.tag = "CompetitorList" then Legible py lines
  else if element.tag ∈ sessionTags then CountersReadable py element
  else if element.tag ∈ passingTags then PassingReadable py element
  else True

/-- The elements convert one by one, up to a leaderboard over the cap. -/
def Readable (py : Runtime) : Lines → List Element → Prop
  | _, [] => True
  | lines, element :: rest =>
    ElementReadable py lines element ∧ (Capped py lines element ∨
      Readable py (if element.tag = "Leaderboard" then heldLines py lines element else lines) rest)

/-- Nothing but a `DocumentError` is raised. -/
def Sound {α : Type} (result : Except FeedError α) : Prop := ∀ error, result ≠ .error (.other error)

section Readers

variable {py : Runtime}

theorem truncate_ok (number : PyFloat) : (∃ whole, truncate number = .ok whole) ↔ Finite number := by
  constructor
  · rintro ⟨whole, taken⟩
    cases number with
    | finite value => exact ⟨value, rfl⟩
    | posInf => cases taken
    | negInf => cases taken
    | nan => cases taken
  · rintro ⟨value, rfl⟩
    exact ⟨_, rfl⟩

theorem int?_ok (py : Runtime) (value : Option String) :
    (∃ number, int? py value = .ok number) ↔ Whole py value := by
  unfold int? Whole
  cases text? value with
  | none =>
    constructor
    · intro _ text found
      cases found
    · exact fun _ => ⟨none, rfl⟩
  | some text =>
    dsimp only
    cases whole : py.int text with
    | some number =>
      constructor
      · intro _ other found unread
        cases found
        rw [whole] at unread
        cases unread
      · exact fun _ => ⟨some number, rfl⟩
    | none =>
      dsimp only
      cases read : py.float text with
      | none =>
        constructor
        · intro _ other found _ number here
          cases found
          rw [read] at here
          cases here
        · exact fun _ => ⟨none, rfl⟩
      | some number =>
        constructor
        · rintro ⟨result, taken⟩ other found _ number' here
          cases found
          rw [read] at here
          cases here
          apply (truncate_ok number).mp
          cases outcome : truncate number with
          | error error =>
            dsimp only at taken
            rw [outcome] at taken
            cases taken
          | ok whole => exact ⟨whole, rfl⟩
        · intro finite
          obtain ⟨integer, taken⟩ := (truncate_ok number).mpr (finite text rfl whole number read)
          dsimp only
          rw [taken]
          exact ⟨_, rfl⟩

theorem incoming_ok (positions : List Element) (lines : Lines) :
    (∃ more, incoming py positions lines = .ok more) ↔
      ∀ position ∈ positions, Whole py (position.get "Line") := by
  induction positions generalizing lines with
  | nil =>
    constructor
    · intro _ position member
      cases member
    · exact fun _ => ⟨lines, rfl⟩
  | cons position rest ih =>
    rw [List.forall_mem_cons, ← int?_ok]
    unfold incoming
    cases read : int? py (position.get "Line") with
    | error error =>
      constructor
      · rintro ⟨more, taken⟩
        cases taken
      · rintro ⟨⟨number, taken⟩, _⟩
        cases taken
    | ok number =>
      cases number with
      | none =>
        refine (ih lines).trans ?_
        constructor
        · exact fun all => ⟨⟨none, rfl⟩, all⟩
        · exact And.right
      | some line =>
        refine (ih _).trans ?_
        constructor
        · exact fun all => ⟨⟨some line, rfl⟩, all⟩
        · exact And.right

theorem carState_ok (py : Runtime) (pos : Option String) (inPit : Bool) (outLap : Option String) :
    (∃ word, carState py pos inPit outLap = .ok word) ↔ Whole py pos := by
  rw [← int?_ok]
  unfold carState
  cases read : int? py pos with
  | error error =>
    constructor
    · rintro ⟨word, taken⟩
      cases taken
    · rintro ⟨number, taken⟩
      cases taken
  | ok number =>
    constructor
    · exact fun _ => ⟨number, rfl⟩
    · intro _
      dsimp only [bind, Except.bind]
      split
      · exact ⟨_, rfl⟩
      · split
        · exact ⟨_, rfl⟩
        · split <;> exact ⟨_, rfl⟩

theorem standingOf_ok (source : String) (competitors : Dict String Competitor) (line : Int)
    (attributes : Dict String String) (place : Option String → Nat) :
    (∃ standing, standingOf py source competitors line attributes place = .ok standing) ↔
      Whole py (attributes.get? "Pos") ∧ Whole py (attributes.get? "LastLap") ∧
        Whole py (attributes.get? "PitStops") := by
  constructor
  · rintro ⟨standing, done⟩
    rw [← int?_ok, ← int?_ok, ← int?_ok]
    unfold standingOf at done
    cases position : int? py (attributes.get? "Pos") with
    | error error =>
      rw [position] at done
      cases done
    | ok number =>
      rw [position] at done
      cases laps : int? py (attributes.get? "LastLap") with
      | error error =>
        rw [laps] at done
        cases done
      | ok count =>
        rw [laps] at done
        cases stops : int? py (attributes.get? "PitStops") with
        | error error =>
          rw [stops] at done
          cases done
        | ok pits => exact ⟨⟨number, rfl⟩, ⟨count, rfl⟩, ⟨pits, rfl⟩⟩
  · rintro ⟨whole, whole', whole''⟩
    obtain ⟨number, position⟩ := (int?_ok py (attributes.get? "Pos")).mpr whole
    obtain ⟨count, laps⟩ := (int?_ok py (attributes.get? "LastLap")).mpr whole'
    obtain ⟨pits, stops⟩ := (int?_ok py (attributes.get? "PitStops")).mpr whole''
    obtain ⟨word, state⟩ := (carState_ok py (attributes.get? "Pos")
      (text? (attributes.get? "PitLaneFlag") = some "P") (attributes.get? "OutLap")).mpr whole
    unfold standingOf
    rw [position, laps, stops]
    dsimp only [bind, Except.bind]
    rw [state]
    exact ⟨_, rfl⟩

theorem standingsLoop_ok (py : Runtime) (source : String) (competitors : Dict String Competitor)
    (entries : List (Int × Dict String String)) (counts : Dict (Option String) Nat) :
    (∃ standings, standingsLoop py source competitors entries counts = .ok standings) ↔
      ∀ entry ∈ entries, Whole py (entry.2.get? "Pos") ∧ Whole py (entry.2.get? "LastLap") ∧
        Whole py (entry.2.get? "PitStops") := by
  induction entries generalizing counts with
  | nil =>
    constructor
    · intro _ entry member
      cases member
    · exact fun _ => ⟨[], rfl⟩
  | cons entry rest ih =>
    rw [List.forall_mem_cons, ← standingOf_ok source competitors entry.1 entry.2 fun carClass =>
      (counts.get? carClass).getD 0 + 1]
    unfold standingsLoop
    cases here : standingOf py source competitors entry.1 entry.2 fun carClass =>
      (counts.get? carClass).getD 0 + 1 with
    | error error =>
      constructor
      · rintro ⟨standings, done⟩
        cases done
      · rintro ⟨⟨standing, done⟩, _⟩
        cases done
    | ok standing =>
      dsimp only [bind, Except.bind]
      constructor
      · rintro ⟨standings, done⟩
        split at done
        · cases done
        · rename_i later read
          exact ⟨⟨standing, rfl⟩, (ih _).mp ⟨later, read⟩⟩
      · rintro ⟨_, all⟩
        obtain ⟨later, read⟩ := (ih _).mpr all
        rw [read]
        exact ⟨_, rfl⟩

/-- The rows can be derived just where the whole numbers of every line convert. -/
theorem rowsFromLines_ok (state : FieldState) (at_ : ℚ) :
    (∃ rows, state.rowsFromLines py at_ = .ok rows) ↔ Legible py state.lines := by
  have sorted := standingsLoop_ok py state.source state.competitors
    (state.lines.entries.insertionSort fun first second => first.1 ≤ second.1) .empty
  simp only [List.mem_insertionSort] at sorted
  refine Iff.trans ?_ sorted
  unfold FieldState.rowsFromLines FieldState.standings
  cases standingsLoop py state.source state.competitors
    (state.lines.entries.insertionSort fun first second => first.1 ≤ second.1) .empty with
  | error error =>
    constructor
    · rintro ⟨rows, done⟩
      cases done
    · rintro ⟨standings, done⟩
      cases done
  | ok standings =>
    constructor
    · exact fun _ => ⟨standings, rfl⟩
    · exact fun _ => ⟨_, rfl⟩

end Readers

section Elements

variable {py : Runtime} {at_ : ℚ} {state : FieldState} {element : Element}

theorem placed_lines (py : Runtime) (state : FieldState) (element : Element) :
    (state.placed py element).lines =
      if element.tag = "Leaderboard" then heldLines py state.lines element else state.lines := by
  unfold FieldState.placed heldLines
  split
  · cases incoming py (element.iter "Position") .empty <;> rfl
  · split
    · rfl
    · split
      · rfl
      · split <;> rfl

theorem rederive_sound (full : Bool) :
    Sound (state.rederive py at_ full).2 ↔ Legible py state.lines := by
  rw [← rowsFromLines_ok state at_]
  unfold FieldState.rederive
  cases state.rowsFromLines py at_ with
  | error error =>
    constructor
    · exact fun sound => absurd rfl (sound error)
    · rintro ⟨rows, done⟩
      cases done
  | ok rows =>
    constructor
    · exact fun _ => ⟨rows, rfl⟩
    · intro _ error raised
      cases raised

theorem leaderboard_sound (board : element.tag = "Leaderboard") :
    Sound (state.leaderboard py element at_).2 ↔
      (∀ position ∈ element.iter "Position", Whole py (position.get "Line")) ∧
        (Capped py state.lines element ∨ Legible py (heldLines py state.lines element)) := by
  rw [← incoming_ok (element.iter "Position") .empty]
  unfold FieldState.leaderboard Capped heldLines
  cases incoming py (element.iter "Position") .empty with
  | error error =>
    constructor
    · exact fun sound => absurd rfl (sound error)
    · rintro ⟨⟨lines, done⟩, _⟩
      cases done
  | ok lines =>
    dsimp only
    split
    · rename_i many
      constructor
      · exact fun _ => ⟨⟨lines, rfl⟩, .inl ⟨board, many⟩⟩
      · intro _ error raised
        cases raised
    · rename_i few
      refine (rederive_sound _).trans ?_
      constructor
      · exact fun legible => ⟨⟨lines, rfl⟩, .inr legible⟩
      · rintro ⟨_, ⟨_, many⟩ | legible⟩
        · exact absurd many few
        · exact legible

theorem register_sound :
    Sound (state.register py element at_).2 ↔ Legible py state.lines := by
  unfold FieldState.register
  dsimp only
  split
  · rename_i empty
    constructor
    · intro _ entry member
      rw [List.isEmpty_iff.mp empty] at member
      cases member
    · intro _ error raised
      cases raised
  · exact rederive_sound false

theorem sessionClock_ok (row : SessionRow) :
    (∃ other, sessionClock py row element = .ok other) ↔ CountersReadable py element := by
  unfold sessionClock CountersReadable
  split
  · rename_i counters
    dsimp only
    cases seconds? py (element.get "Count") with
    | none =>
      constructor
      · intro _ _ _ count here
        cases here
      · exact fun _ => ⟨_, rfl⟩
    | some count =>
      dsimp only
      split
      · rename_i timed
        constructor
        · intro _ _ laps
          rw [laps] at timed
          exact absurd timed (by decide)
        · exact fun _ => ⟨_, rfl⟩
      · split
        · rename_i laps
          constructor
          · rintro ⟨other, done⟩ _ _ number here
            cases here
            apply (truncate_ok count).mp
            cases whole : truncate count with
            | error error =>
              rw [whole] at done
              cases done
            | ok number => exact ⟨number, rfl⟩
          · intro readable
            obtain ⟨number, whole⟩ := (truncate_ok count).mpr (readable counters laps count rfl)
            rw [whole]
            exact ⟨_, rfl⟩
        · rename_i notLaps
          constructor
          · exact fun _ _ laps => absurd laps notLaps
          · intro _
            split <;> exact ⟨_, rfl⟩
  · rename_i notCounters
    constructor
    · exact fun _ counters => absurd counters notCounters
    · intro _
      split <;> exact ⟨_, rfl⟩

theorem sessionUpdate_sound :
    Sound (state.sessionUpdate py element at_).2 ↔ CountersReadable py element := by
  rw [sessionUpdate_eq]
  have clock : (∃ row, state.updatedSession py element at_ = .ok row) ↔ CountersReadable py element :=
    sessionClock_ok _
  rw [← clock]
  cases state.updatedSession py element at_ with
  | error error =>
    constructor
    · exact fun sound => absurd rfl (sound error)
    · rintro ⟨row, done⟩
      cases done
  | ok row =>
    dsimp only
    constructor
    · exact fun _ => ⟨row, rfl⟩
    · intro _ error raised
      split at raised <;> cases raised

theorem passing_ok (py : Runtime) (at_ : ℚ) (state : FieldState) (element : Element) :
    (∃ row, state.passing py element at_ = .ok row) ↔ PassingReadable py element := by
  unfold FieldState.passing PassingReadable
  cases text? (element.get "ID") with
  | none =>
    constructor
    · intro _ competitorId found
      cases found
    · exact fun _ => ⟨none, rfl⟩
  | some competitorId =>
    simp only [Option.some.injEq, forall_eq']
    rw [← int?_ok]
    cases int? py (element.get "Type") with
    | error error =>
      constructor
      · rintro ⟨row, done⟩
        cases done
      · rintro ⟨⟨code, done⟩, _⟩
        cases done
    | ok code =>
      dsimp only [bind, Except.bind]
      cases seconds? py (element.get "Time") with
      | none =>
        constructor
        · intro _
          refine ⟨⟨code, rfl⟩, ?_⟩
          intro seconds found
          cases found
        · exact fun _ => ⟨_, rfl⟩
      | some seconds =>
        simp only [Option.some.injEq, forall_eq']
        split
        · rename_i far
          cases py.fromTimestamp seconds with
          | error error =>
            constructor
            · rintro ⟨row, done⟩
              cases done
            · rintro ⟨_, readable⟩
              obtain ⟨tod, done⟩ := readable far
              cases done
          | ok tod =>
            constructor
            · exact fun _ => ⟨⟨code, rfl⟩, fun _ => ⟨tod, rfl⟩⟩
            · exact fun _ => ⟨_, rfl⟩
        · rename_i near
          constructor
          · exact fun _ => ⟨⟨code, rfl⟩, fun far => absurd far near⟩
          · exact fun _ => ⟨_, rfl⟩

theorem element_sound (at_ : ℚ) :
    Sound (state.applyElement py at_ element).2 ↔ ElementReadable py state.lines element := by
  unfold FieldState.applyElement ElementReadable
  split
  · rename_i board
    exact leaderboard_sound board
  · split
    · exact register_sound
    · show Sound (if element.tag ∈ sessionTags then _ else _ : FieldState × Except FeedError Changes).2 ↔ _
      split
      · exact sessionUpdate_sound
      · show Sound (if element.tag ∈ passingTags then _ else _ : FieldState × Except FeedError Changes).2 ↔ _
        split
        · rw [← passing_ok py at_ state]
          cases state.passing py element at_ with
          | error error =>
            constructor
            · exact fun sound => absurd rfl (sound error)
            · rintro ⟨row, done⟩
              cases done
          | ok row =>
            constructor
            · exact fun _ => ⟨row, rfl⟩
            · intro _ error raised
              cases raised
        · constructor
          · exact fun _ => trivial
          · intro _ error raised
            cases raised

theorem rederive_uncapped (full : Bool) (message : String) :
    (state.rederive py at_ full).2 ≠ .error (.documentError message) := by
  unfold FieldState.rederive
  intro raised
  split at raised
  · cases raised
  · cases raised

/-- Only a leaderboard over the cap is refused. -/
theorem element_refused {message : String}
    (refused : (state.applyElement py at_ element).2 = .error (.documentError message)) :
    Capped py state.lines element := by
  unfold FieldState.applyElement at refused
  split at refused
  · rename_i board
    unfold FieldState.leaderboard at refused
    split at refused
    · cases refused
    · rename_i lines read
      dsimp only at refused
      split at refused
      · rename_i many
        refine ⟨board, ?_⟩
        unfold heldLines
        rw [read]
        exact many
      · exact absurd refused (rederive_uncapped _ message)
  · split at refused
    · unfold FieldState.register at refused
      dsimp only at refused
      split at refused
      · cases refused
      · exact absurd refused (rederive_uncapped _ message)
    · split at refused
      · rw [sessionUpdate_eq] at refused
        split at refused
        · cases refused
        · split at refused <;> cases refused
      · split at refused
        · split at refused <;> cases refused
        · cases refused

theorem element_accepted {changes : Changes}
    (accepted : (state.applyElement py at_ element).2 = .ok changes) :
    ¬Capped py state.lines element := by
  rintro ⟨board, many⟩
  unfold FieldState.applyElement at accepted
  rw [if_pos board] at accepted
  unfold FieldState.leaderboard at accepted
  unfold heldLines at many
  split at accepted
  · cases accepted
  · rename_i lines read
    rw [read] at many
    dsimp only at accepted
    rw [if_pos many] at accepted
    cases accepted

theorem element_lines (py : Runtime) (at_ : ℚ) (state : FieldState) (element : Element) :
    (state.applyElement py at_ element).1.lines =
    if element.tag = "Leaderboard" then heldLines py state.lines element else state.lines := by
  rw [← placed_lines]
  have step := applyElement_stepped py at_ state element
  generalize state.applyElement py at_ element = outcome at step
  cases step with
  | raised => rfl
  | derived full rows => exact (diff_frame _ _ _ _).2.2.1
  | told row here =>
    rw [placed_lines, if_neg]
    intro board
    rw [board] at here
    exact absurd here (by decide)
  | still => rfl

/-- The elements of a document raise nothing else just where they convert. -/
theorem elements_sound (py : Runtime) (at_ : ℚ) (state : FieldState) (elements : List Element)
    (so : Changes) :
    Sound (state.applyElements py at_ elements so).2 ↔ Readable py state.lines elements := by
  induction elements generalizing state so with
  | nil =>
    constructor
    · exact fun _ => trivial
    · intro _ error raised
      cases raised
  | cons element rest ih =>
    unfold FieldState.applyElements Readable
    rw [← element_sound at_, ← element_lines py at_]
    cases done : state.applyElement py at_ element with
    | mk next outcome =>
      cases outcome with
      | ok changes =>
        have free := element_accepted (congrArg Prod.snd done)
        refine (ih next _).trans ?_
        constructor
        · intro readable
          refine ⟨?_, .inr readable⟩
          intro error raised
          cases raised
        · rintro ⟨_, capped | readable⟩
          · exact absurd capped free
          · exact readable
      | error error =>
        cases error with
        | documentError message =>
          have capped := element_refused (congrArg Prod.snd done)
          constructor
          · exact fun sound => ⟨sound, .inl capped⟩
          · exact And.left
        | other error =>
          constructor
          · exact fun sound => absurd rfl (sound error)
          · exact fun both => absurd rfl (both.1 error)

end Elements

/-- A document raises nothing but `DocumentError` just where its attributes convert, and the
lines held with them. -/
theorem only_documentError_iff (py : Runtime) (state : FieldState) (text : String) (at_ : ℚ) :
    (∀ error, (state.applyDocument py text at_).2 ≠ .error (.other error)) ↔
      ∀ root, py.fromString text = .ok root → Readable py state.lines root.parts := by
  unfold FieldState.applyDocument
  cases parsed : py.fromString text with
  | error message =>
    constructor
    · intro _ root read
      cases read
    · intro _ error raised
      cases raised
  | ok root =>
    have parts := elements_sound py at_ { state with documents := state.documents + 1 } root.parts
      .none
    simp only [Except.ok.injEq, forall_eq']
    refine Iff.trans ?_ parts
    cases ({ state with documents := state.documents + 1 } : FieldState).applyElements py at_ root.parts
        .none with
    | mk next outcome =>
      cases outcome with
      | ok changes =>
        constructor
        · intro _ error raised
          cases raised
        · intro _ error raised
          cases raised
      | error error =>
        constructor
        · intro sound other raised
          cases raised
          exact sound other rfl
        · intro sound other raised
          cases raised
          exact sound other rfl

/-- A document in `_source_loop`: a refused one is counted and passed over, any other
exception ends the loop. -/
def FieldState.handle (py : Runtime) (state : FieldState) (document : String × ℚ) : Option FieldState :=
  match state.applyDocument py document.1 document.2 with
  | (next, .ok _) => some next
  | (next, .error (.documentError _)) => some next
  | (_, .error (.other _)) => none

theorem handle_some (py : Runtime) (state : FieldState) (document : String × ℚ) :
    (∃ next, state.handle py document = some next) ↔
      ∀ error, (state.applyDocument py document.1 document.2).2 ≠ .error (.other error) := by
  unfold FieldState.handle
  cases state.applyDocument py document.1 document.2 with
  | mk next outcome =>
    cases outcome with
    | ok batch =>
      constructor
      · intro _ error raised
        cases raised
      · exact fun _ => ⟨next, rfl⟩
    | error error =>
      cases error with
      | documentError message =>
        constructor
        · intro _ error raised
          cases raised
        · exact fun _ => ⟨next, rfl⟩
      | other error =>
        constructor
        · rintro ⟨_, here⟩
          cases here
        · exact fun sound => absurd rfl (sound error)

/-- The source loop takes all documents just where each converts when its turn comes. -/
theorem source_survives_iff (py : Runtime) (state : FieldState) (documents : List (String × ℚ)) :
    (∃ final, Machine.run (FieldState.handle py) state documents = some final) ↔
      ∀ before document after, documents = before ++ document :: after → ∀ held,
        Machine.run (FieldState.handle py) state before = some held →
        ∀ root, py.fromString document.1 = .ok root → Readable py held.lines root.parts := by
  rw [Machine.run_some_iff]
  constructor
  · intro taken before document after split held reached
    rw [← only_documentError_iff py held document.1 document.2, ← handle_some]
    exact taken before document after split held reached
  · intro readable before document after split held reached
    rw [handle_some, only_documentError_iff]
    exact readable before document after split held reached

/-- A runtime that reads one document, a passing of no whole kind. -/
def endlessPython : Runtime :=
  { samplePython with
    float := fun text => if text = "inf" then some .posInf else samplePython.float text
    fromString := fun text =>
      if text = "<Passing ID='1' Type='inf'/>" then
        .ok (.node "Passing" (updated .empty [("ID", "1"), ("Type", "inf")]) [])
      else .error "syntax error" }

/-- `int(float("inf"))` raises `OverflowError`, which nothing catches before the loop ends. -/
theorem endless_passing :
    ((FieldState.new "natsoft").applyDocument endlessPython "<Passing ID='1' Type='inf'/>" 0).2.map
        (fun _ => ()) = .error (.other (.overflowError "cannot convert float infinity to integer")) ∧
      ((FieldState.new "natsoft").handle endlessPython
        ("<Passing ID='1' Type='inf'/>", 0)).isNone = true := by
  decide +kernel

end OpenLaps.Field

import OpenLaps.Timing.EngineRules
import Mathlib.Data.List.Range

/- When a completed lap is valid, in terms of the crossings accepted since the
crossing that started it. -/
namespace OpenLaps.Timing

/-- The lap points among some crossings, by index. -/
def lapIndices (crossings : List Crossing) : List Nat :=
  crossings.filterMap fun crossing => match crossing.role with
    | .lapPoint idx => some idx
    | _ => none

@[simp] theorem lapIndices_nil : lapIndices [] = [] := rfl

theorem lapIndices_append (first second : List Crossing) :
    lapIndices (first ++ second) = lapIndices first ++ lapIndices second :=
  List.filterMap_append

theorem lapIndices_lap {crossing : Crossing} {idx : Nat} (role : crossing.role = .lapPoint idx) :
    lapIndices [crossing] = [idx] := by
  simp [lapIndices, role]

theorem lapIndices_pit {crossing : Crossing} (role : ∀ idx, crossing.role ≠ .lapPoint idx) :
    lapIndices [crossing] = [] := by
  unfold lapIndices
  rw [List.filterMap_cons]
  split
  · rfl
  · rename_i found
    split at found
    · rename_i idx same
      exact absurd same (role idx)
    · cases found

/-- `start` is the latest crossing of `before` that started the lap clock, and
`between` are the crossings accepted after it. -/
structure LapSoFar (before earlier : List Crossing) (start : Crossing) (between : List Crossing) :
    Prop where
  split : before = earlier ++ start :: between
  started : start.startsLap = true
  latest : ∀ crossing ∈ between, crossing.startsLap = false

/-- The lap has run from lap point 0 through the next points in order, on the track. -/
structure Clean (start : Crossing) (between : List Crossing) : Prop where
  fromStart : start.role = .lapPoint 0
  onTrack : start.pitStatus = .track
  noEntry : ∀ crossing ∈ between, crossing.role ≠ .pitEntry
  inOrder : lapIndices between = List.range' 1 (lapIndices between).length

/-- How the state summarises the history: no lap point was accepted yet, or the
flags describe the lap that the latest starting crossing began. -/
def Tracks (config : Config) (history : List Crossing) (state : TimingState) : Prop :=
  state.lapStartTime = 0 ∨
    0 < state.lapStartTime ∧ ∃ earlier start between,
      LapSoFar history earlier start between ∧
      (∀ idx ∈ lapIndices between, 0 < idx ∧ idx < config.nPoints) ∧
      (state.lapValid = true ↔ Clean start between) ∧
      (Clean start between →
        state.expectedIdx = ((lapIndices between).length + 1) % config.nPoints ∧
          state.pitStatus = .track)

/-- The verdict of a lap, as the documentation words it: it started at lap point
0 with the car on the track, took every other lap point in order, and saw no pit entry. -/
def ValidLap (config : Config) (start : Crossing) (between : List Crossing) : Prop :=
  start.role = .lapPoint 0 ∧
    lapIndices between = List.range' 1 (config.nPoints - 1) ∧
    start.pitStatus = .track ∧
    ∀ crossing ∈ between, crossing.role ≠ .pitEntry

/-- Every completed lap of the history carries the right verdict. -/
def LapsJudged (config : Config) (history : List Crossing) : Prop :=
  ∀ before finish, before ++ [finish] <+: history → ∀ event ∈ finish.events,
    event.type = .lapCompleted → ∃ earlier start between,
      LapSoFar before earlier start between ∧
        (event.valid = true ↔ ValidLap config start between)

theorem LapSoFar.append {before earlier : List Crossing} {start : Crossing}
    {between : List Crossing} (lap : LapSoFar before earlier start between) (crossing : Crossing)
    (continues : crossing.startsLap = false) :
    LapSoFar (before ++ [crossing]) earlier start (between ++ [crossing]) := by
  refine ⟨?_, lap.started, ?_⟩
  · rw [lap.split, List.append_assoc, List.cons_append]
  · intro other member
    rcases List.mem_append.mp member with old | fresh
    · exact lap.latest other old
    · rw [List.mem_singleton.mp fresh]
      exact continues

theorem LapSoFar.restart (before : List Crossing) (crossing : Crossing)
    (starts : crossing.startsLap = true) : LapSoFar (before ++ [crossing]) before crossing [] :=
  ⟨rfl, starts, fun _ member => absurd member List.not_mem_nil⟩

/-- The crossings before and after one more are told apart by whether it starts a lap. -/
theorem LapSoFar.concat_cases {history earlier between : List Crossing} {start crossing : Crossing}
    (lap : LapSoFar (history ++ [crossing]) earlier start between) :
    (between = [] ∧ start = crossing) ∨
      ∃ front, between = front ++ [crossing] ∧ LapSoFar history earlier start front ∧
        crossing.startsLap = false := by
  rcases List.eq_nil_or_concat' between with none | ⟨front, last, whole⟩
  · left
    have split := lap.split
    rw [none] at split
    obtain ⟨_, one⟩ := List.append_inj' split rfl
    cases one
    exact ⟨none, rfl⟩
  · right
    have split := lap.split
    rw [whole, ← List.cons_append, ← List.append_assoc] at split
    obtain ⟨same, one⟩ := List.append_inj' split rfl
    cases one
    refine ⟨front, whole, ⟨same, lap.started, ?_⟩, lap.latest crossing (by simp [whole])⟩
    intro other member
    exact lap.latest other (by simp [whole, member])

/-- The lap in progress is determined by the history. -/
theorem LapSoFar.unique {history earlier earlier' between between' : List Crossing}
    {start start' : Crossing} (lap : LapSoFar history earlier start between)
    (lap' : LapSoFar history earlier' start' between') : start = start' ∧ between = between' := by
  induction history using List.reverseRecOn generalizing between between' with
  | nil =>
      have split := lap.split
      simp at split
  | append_singleton history crossing ih =>
      rcases lap.concat_cases with ⟨none, same⟩ | ⟨front, whole, before, continues⟩
      · rcases lap'.concat_cases with ⟨none', same'⟩ | ⟨_, _, _, continues'⟩
        · exact ⟨same.trans same'.symm, none.trans none'.symm⟩
        · have starts := lap.started
          rw [same, continues'] at starts
          cases starts
      · rcases lap'.concat_cases with ⟨_, same'⟩ | ⟨front', whole', before', _⟩
        · have starts := lap'.started
          rw [same', continues] at starts
          cases starts
        · obtain ⟨first, second⟩ := ih before before'
          exact ⟨first, by rw [whole, whole', second]⟩

theorem Clean.count_lt {config : Config} {start : Crossing} {between : List Crossing}
    (clean : Clean start between) (inside : ∀ idx ∈ lapIndices between, 0 < idx ∧ idx < config.nPoints)
    (points : 0 < config.nPoints) : (lapIndices between).length < config.nPoints := by
  by_cases empty : (lapIndices between).length = 0
  · omega
  · have last : (lapIndices between).length ∈ lapIndices between := by
      rw [clean.inOrder, List.mem_range'_1]
      simp only [List.length_range']
      omega
    exact (inside _ last).2

/-- Crossings that are no lap point leave the sequence alone. -/
theorem clean_append_pit (start : Crossing) (between : List Crossing) {crossing : Crossing}
    (pit : ∀ idx, crossing.role ≠ .lapPoint idx) :
    Clean start (between ++ [crossing]) ↔ Clean start between ∧ crossing.role ≠ .pitEntry := by
  have same : lapIndices (between ++ [crossing]) = lapIndices between := by
    rw [lapIndices_append, lapIndices_pit pit, List.append_nil]
  constructor
  · intro clean
    refine ⟨⟨clean.fromStart, clean.onTrack, ?_, ?_⟩, clean.noEntry _ (by simp)⟩
    · exact fun other member => clean.noEntry other (List.mem_append_left _ member)
    · simpa only [same] using clean.inOrder
  · rintro ⟨clean, exit⟩
    refine ⟨clean.fromStart, clean.onTrack, ?_, ?_⟩
    · intro other member
      rcases List.mem_append.mp member with old | fresh
      · exact clean.noEntry other old
      · rw [List.mem_singleton.mp fresh]
        exact exit
    · simpa only [same] using clean.inOrder

/-- A lap point keeps the sequence exactly when it is the next one. -/
theorem clean_append_lap (start : Crossing) (between : List Crossing) (crossing : Crossing)
    {idx : Nat} (role : crossing.role = .lapPoint idx) :
    Clean start (between ++ [crossing]) ↔
      Clean start between ∧ idx = (lapIndices between).length + 1 := by
  have grown : lapIndices (between ++ [crossing]) = lapIndices between ++ [idx] := by
    rw [lapIndices_append, lapIndices_lap role]
  have next : lapIndices between ++ [idx] =
        List.range' 1 ((lapIndices between).length + 1) ↔
      lapIndices between = List.range' 1 (lapIndices between).length ∧
        idx = (lapIndices between).length + 1 := by
    rw [List.range'_concat]
    constructor
    · intro same
      obtain ⟨front, last⟩ := List.append_inj same (by simp)
      simp only [List.cons.injEq, and_true] at last
      exact ⟨front, by omega⟩
    · rintro ⟨front, last⟩
      rw [← front, last, Nat.one_mul, Nat.add_comm]
  constructor
  · intro clean
    have order := clean.inOrder
    rw [grown, List.length_append, List.length_singleton] at order
    obtain ⟨ordered, idx_next⟩ := next.mp order
    exact ⟨⟨clean.fromStart, clean.onTrack,
      fun other member => clean.noEntry other (List.mem_append_left _ member), ordered⟩,
      idx_next⟩
  · rintro ⟨clean, idx_next⟩
    refine ⟨clean.fromStart, clean.onTrack, ?_, ?_⟩
    · intro other member
      rcases List.mem_append.mp member with old | fresh
      · exact clean.noEntry other old
      · rw [List.mem_singleton.mp fresh, role]
        exact Role.noConfusion
    · rw [grown, List.length_append, List.length_singleton]
      exact next.mpr ⟨clean.inOrder, idx_next⟩

theorem clean_nil {start : Crossing} :
    Clean start [] ↔ start.role = .lapPoint 0 ∧ start.pitStatus = .track := by
  constructor
  · exact fun clean => ⟨clean.fromStart, clean.onTrack⟩
  · rintro ⟨role, status⟩
    exact ⟨role, status, fun _ member => absurd member List.not_mem_nil, rfl⟩

/-- A crossing that starts the clock at lap point 0, or at the first point seen. -/
theorem tracks_restart {config : Config} {history : List Crossing} {state : TimingState}
    {crossing : Crossing} (running : 0 < state.lapStartTime)
    (starts : crossing.startsLap = true)
    (valid : state.lapValid = true ↔ crossing.role = .lapPoint 0 ∧ crossing.pitStatus = .track)
    (expected : crossing.role = .lapPoint 0 → state.expectedIdx = 1 % config.nPoints)
    (status : state.pitStatus = crossing.pitStatus) :
    Tracks config (history ++ [crossing]) state := by
  refine Or.inr ⟨running, history, crossing, [], LapSoFar.restart history crossing starts, ?_, ?_, ?_⟩
  · exact fun idx member => absurd member List.not_mem_nil
  · rw [clean_nil]
    exact valid
  · intro clean
    exact ⟨expected clean.fromStart, status.trans clean.onTrack⟩

theorem crossPit_tracks {config : Config} {engine : Engine} {gps : GPSPoint}
    {line : TimingLine} {hit : Hit} {accepted : TimingState}
    (tracks : Tracks config engine.history engine.state)
    (passed : accept config engine.state line hit = some accepted) :
    Tracks config (crossPit engine line hit gps accepted).1.history
      (crossPit engine line hit gps accepted).1.state := by
  obtain ⟨times, directions, rfl⟩ := accept_frame passed
  have noLap : ∀ idx, (pitCrossing line hit gps { engine.state with
      lastCrossTime := times, lineDirection := directions }).role ≠ .lapPoint idx := by
    intro idx
    unfold pitCrossing
    dsimp only
    split <;> exact Role.noConfusion
  rcases tracks with idle | ⟨running, earlier, start, between, lap, inside, valid, expected⟩
  · left
    simp only [crossPit, handlePit]
    split <;> exact idle
  · right
    have clean := clean_append_pit start between noLap
    refine ⟨?_, earlier, start, between ++ [_], lap.append _ rfl, ?_, ?_, ?_⟩
    · simp only [crossPit, handlePit]
      split <;> exact running
    · rw [lapIndices_append, lapIndices_pit noLap, List.append_nil]
      exact inside
    · rw [clean]
      by_cases entry : line.lineType = .pitEntry
      · simp [crossPit, handlePit, pitCrossing, entry]
      · simpa [crossPit, handlePit, pitCrossing, entry] using valid
    · rw [clean, lapIndices_append, lapIndices_pit noLap, List.append_nil]
      rintro ⟨before, exit⟩
      by_cases entry : line.lineType = .pitEntry
      · simp [pitCrossing, entry] at exit
      · simpa [crossPit, handlePit, entry] using (expected before).1

/-- The next expected index is the crossed one exactly when it continues the sequence. -/
theorem expected_next {config : Config} {start : Crossing} {between : List Crossing} {idx : Nat}
    (clean : Clean start between)
    (inside : ∀ idx ∈ lapIndices between, 0 < idx ∧ idx < config.nPoints)
    (point : idx < config.nPoints) (sector : idx ≠ 0) :
    idx = ((lapIndices between).length + 1) % config.nPoints ↔
      idx = (lapIndices between).length + 1 := by
  have count := clean.count_lt inside (by omega)
  by_cases last : (lapIndices between).length + 1 = config.nPoints
  · rw [last, Nat.mod_self]
    omega
  · rw [Nat.mod_eq_of_lt (by omega)]

/-- The finish is expected exactly when every other lap point was taken in order. -/
theorem expected_finish {config : Config} {start : Crossing} {between : List Crossing}
    (clean : Clean start between)
    (inside : ∀ idx ∈ lapIndices between, 0 < idx ∧ idx < config.nPoints)
    (points : 0 < config.nPoints) :
    0 = ((lapIndices between).length + 1) % config.nPoints ↔
      (lapIndices between).length = config.nPoints - 1 := by
  have count := clean.count_lt inside points
  by_cases last : (lapIndices between).length + 1 = config.nPoints
  · rw [last, Nat.mod_self]
    omega
  · rw [Nat.mod_eq_of_lt (by omega)]
    omega

theorem crossLapPoint_tracks {config : Config} {engine : Engine} {gps : GPSPoint} {idx : Nat}
    {line : TimingLine} {hit : Hit} {accepted : TimingState}
    (tracks : Tracks config engine.history engine.state) (point : idx < config.nPoints)
    (later : 0 < hit.time)
    (passed : accept config engine.state line hit = some accepted) :
    Tracks config (crossLapPoint config engine idx line hit gps accepted).1.history
      (crossLapPoint config engine idx line hit gps accepted).1.state := by
  obtain ⟨times, directions, rfl⟩ := accept_frame passed
  unfold crossLapPoint
  dsimp only
  by_cases first : engine.state.lapStartTime = 0
  · apply tracks_restart
    · simpa [handleLapPoint, startNewLap, first] using later
    · simp [lapCrossing, startsLap, first]
    · by_cases zero : idx = 0 <;> simp [handleLapPoint, startNewLap, lapCrossing, first, zero]
    · intro role
      simp only [lapCrossing, Role.lapPoint.injEq] at role
      simp [handleLapPoint, startNewLap, first, role]
    · simp [handleLapPoint, startNewLap, lapCrossing, first]
  · by_cases zero : idx = 0
    · -- Both branches at the start/finish line restart the clock.
      subst zero
      apply tracks_restart
      · simp only [handleLapPoint, first, ↓reduceIte]
        split <;> exact later
      · simp [lapCrossing, startsLap]
      · simp only [handleLapPoint, first, ↓reduceIte]
        split <;> simp [startNewLap, lapCrossing]
      · intro _
        simp only [handleLapPoint, first, ↓reduceIte]
        split <;> rfl
      · simp only [handleLapPoint, first, ↓reduceIte]
        split <;> rfl
    · rcases tracks with idle | ⟨running, earlier, start, between, lap, inside, valid, expected⟩
      · exact absurd idle first
      · right
        have continues : (lapCrossing config idx line hit gps { engine.state with
            lastCrossTime := times, lineDirection := directions }).startsLap = false := by
          simp [lapCrossing, startsLap, first, zero]
        have clean := clean_append_lap start between
          (lapCrossing config idx line hit gps { engine.state with
            lastCrossTime := times, lineDirection := directions }) rfl
        refine ⟨?_, earlier, start, between ++ [_], lap.append _ continues, ?_, ?_, ?_⟩
        · simpa [handleLapPoint, first, zero] using running
        · rw [lapIndices_append, lapIndices_lap rfl]
          intro other member
          rcases List.mem_append.mp member with old | fresh
          · exact inside other old
          · rw [List.mem_singleton.mp fresh]
            omega
        · rw [clean]
          simp only [handleLapPoint, first, zero, ↓reduceIte, Bool.and_eq_true, decide_eq_true_eq]
          rw [valid]
          constructor
          · rintro ⟨before, next⟩
            rw [(expected before).1] at next
            exact ⟨before, (expected_next before inside point zero).mp next⟩
          · rintro ⟨before, next⟩
            rw [(expected before).1]
            exact ⟨before, (expected_next before inside point zero).mpr next⟩
        · rw [clean]
          rintro ⟨before, next⟩
          rw [lapIndices_append, lapIndices_lap rfl, List.length_append, List.length_singleton]
          simp only [handleLapPoint, first, zero, ↓reduceIte]
          exact ⟨by rw [next], (expected before).2⟩

theorem LapsJudged.append {config : Config} {history : List Crossing} {crossing : Crossing}
    (judged : LapsJudged config history)
    (fresh : ∀ event ∈ crossing.events, event.type = .lapCompleted → ∃ earlier start between,
      LapSoFar history earlier start between ∧
        (event.valid = true ↔ ValidLap config start between)) :
    LapsJudged config (history ++ [crossing]) := by
  intro before finish front
  rcases List.prefix_concat_iff.mp front with whole | old
  · obtain ⟨rfl, same⟩ := List.append_inj' whole rfl
    cases same
    exact fresh
  · exact judged before finish old

/-- The verdict computed at the finish line. -/
theorem lapEvents_judged {config : Config} {history : List Crossing} (state : TimingState)
    {line : TimingLine} {hit : Hit} {gps : GPSPoint} (tracks : Tracks config history state)
    (running : state.lapStartTime ≠ 0) (points : 0 < config.nPoints) (event : TimingEvent)
    (member : event ∈ lapEvents config state line hit gps
      (state.lapValid && decide (0 = state.expectedIdx) && decide (state.pitStatus = .track)))
    (completed : event.type = .lapCompleted) : ∃ earlier start between,
    LapSoFar history earlier start between ∧
      (event.valid = true ↔ ValidLap config start between) := by
  rcases tracks with idle | ⟨_, earlier, start, between, lap, inside, valid, expected⟩
  · exact absurd idle running
  · refine ⟨earlier, start, between, lap, ?_⟩
    have verdict : event.valid =
        (state.lapValid && decide (0 = state.expectedIdx) && decide (state.pitStatus = .track)) := by
      simp only [lapEvents, List.mem_cons, List.not_mem_nil, or_false] at member
      rcases member with rfl | rfl <;> rfl
    rw [verdict]
    simp only [Bool.and_eq_true, decide_eq_true_eq, valid]
    constructor
    · rintro ⟨⟨clean, finish⟩, _⟩
      rw [(expected clean).1] at finish
      have count := (expected_finish clean inside points).mp finish
      exact ⟨clean.fromStart, by rw [clean.inOrder, count], clean.onTrack, clean.noEntry⟩
    · rintro ⟨role, indices, status, noEntry⟩
      have count : (lapIndices between).length = config.nPoints - 1 := by
        rw [indices, List.length_range']
      have clean : Clean start between := ⟨role, status, noEntry, by rw [count, indices]⟩
      refine ⟨⟨clean, ?_⟩, (expected clean).2⟩
      rw [(expected clean).1]
      exact (expected_finish clean inside points).mpr count

theorem crossPit_judged {config : Config} {engine : Engine} {line : TimingLine} {hit : Hit}
    {gps : GPSPoint} {accepted : TimingState} (judged : LapsJudged config engine.history) :
    LapsJudged config (crossPit engine line hit gps accepted).1.history := by
  apply judged.append
  intro event member completed
  simp only [pitCrossing, handlePit, List.mem_singleton] at member
  subst member
  dsimp only at completed
  split at completed <;> cases completed

theorem crossLapPoint_judged {config : Config} {engine : Engine} {prev gps : GPSPoint} {idx : Nat}
    {line : TimingLine} {hit : Hit} {accepted : TimingState}
    (tracks : Tracks config engine.history engine.state)
    (judged : LapsJudged config engine.history) (point : idx < config.nPoints)
    (taken : Accepted config prev gps engine.state line hit accepted) :
    LapsJudged config (crossLapPoint config engine idx line hit gps accepted).1.history := by
  obtain ⟨times, directions, rfl⟩ := accept_frame taken.passed
  apply judged.append
  intro event member completed
  simp only [lapCrossing, handleLapPoint] at member
  split at member
  · exact absurd member List.not_mem_nil
  · rename_i running
    split at member
    · rename_i zero
      subst zero
      split at member
      · exact absurd member List.not_mem_nil
      · exact lapEvents_judged { engine.state with
          lastCrossTime := times, lineDirection := directions } tracks running point event member
          completed
    · simp only [List.mem_singleton] at member
      subst member
      cases completed

theorem processPoint_judged {config : Config} (engine : Engine) (gps : GPSPoint)
    (judged : LapsJudged config engine.history)
    (tracks : Tracks config engine.history engine.state)
    (positive : ∀ prev, engine.prev = some prev → 0 < prev.timestamp)
    (forward : ∀ prev, engine.prev = some prev → prev.timestamp ≤ gps.timestamp) :
    LapsJudged config (processPoint config engine gps).1.history ∧
      Tracks config (processPoint config engine gps).1.history
        (processPoint config engine gps).1.state := by
  apply processPoint_invariant (fun current =>
    LapsJudged config current.history ∧ Tracks config current.history current.state)
  · exact ⟨judged, tracks⟩
  · intro prev known current line hit accepted both taken
    exact ⟨crossPit_judged both.1, crossPit_tracks both.2 taken.passed⟩
  · intro prev known current idx line hit accepted both point taken
    have time := crossing_time taken.crossed (forward prev known)
    have later : 0 < hit.time := lt_of_lt_of_le (positive prev known) time.1
    exact ⟨crossLapPoint_judged both.2 both.1 point taken,
      crossLapPoint_tracks both.2 point later taken.passed⟩

/-- For every track and every forward stream of points, the lap events of a
fresh engine are judged exactly: a completed lap is valid if and only if the
crossing that started it was of lap point 0 with the car on the track, the lap
points accepted since are `1, …, n - 1` in order, and no pit entry was accepted since. -/
theorem lap_valid_iff (config : Config) (points : List GPSPoint) (forward : Forward points) :
    (processPoints config {} points).2 =
        (processPoints config {} points).1.history.flatMap Crossing.events ∧
      ∀ before finish, before ++ [finish] <+: (processPoints config {} points).1.history →
        ∀ event ∈ finish.events, event.type = .lapCompleted → ∃ earlier start between,
          LapSoFar before earlier start between ∧
            (event.valid = true ↔
              start.role = .lapPoint 0 ∧
                lapIndices between = List.range' 1 (config.nPoints - 1) ∧
                start.pitStatus = .track ∧
                ∀ crossing ∈ between, crossing.role ≠ .pitEntry) := by
  constructor
  · exact processPoints_history config points
  · have kept := processPoints_invariant
      (fun engine => (LapsJudged config engine.history ∧
        Tracks config engine.history engine.state) ∧
        ∀ prev, engine.prev = some prev → 0 < prev.timestamp)
      (by
        intro engine gps valid positive ordered
        refine ⟨processPoint_judged engine gps valid.1.1 valid.1.2 valid.2 ordered, ?_⟩
        rw [processPoint_prev]
        intro prev known
        cases known
        exact positive)
      points {} ⟨⟨?_, Or.inl rfl⟩, ?_⟩ forward ?_
    · exact kept.1.1
    · intro before finish front
      simp at front
    · intro prev known
      cases known
    · intro prev known
      cases known

/-- A start/finish line and one sector line across a straight, with more lines as given. -/
def straight (others : List TimingLine) : Config where
  lines := ⟨"Start/Finish", ⟨-1, 0, 0⟩, ⟨1, 0, 0⟩, .startFinish⟩ ::
    ⟨"Sector1", ⟨-1, 1, 0⟩, ⟨1, 1, 0⟩, .sector⟩ :: others
  projection := ⟨fun _ => 1, fun _ => by decide⟩

/-- One lap: along the straight, back around it, and over the start/finish line again. -/
def oneLap : List GPSPoint :=
  [⟨0, -1 / 2, 1⟩, ⟨0, 1 / 2, 3⟩, ⟨0, 3 / 2, 13⟩, ⟨0, 5 / 2, 23⟩, ⟨5, 5 / 2, 33⟩, ⟨5, -1 / 2, 43⟩,
    ⟨0, -1 / 2, 53⟩, ⟨0, 1 / 2, 63⟩]

theorem oneLap_forward : Forward oneLap := ⟨by decide +kernel, by decide +kernel⟩

theorem oneLap_valid :
    (∃ event ∈ (processPoints (straight []) {} oneLap).2,
      event.type = .lapCompleted ∧ event.valid = true) ∧
      (processPoints (straight []) {} oneLap).2 =
        (processPoints (straight []) {} oneLap).1.history.flatMap Crossing.events :=
  ⟨by decide +kernel, (lap_valid_iff (straight []) oneLap oneLap_forward).1⟩

end OpenLaps.Timing

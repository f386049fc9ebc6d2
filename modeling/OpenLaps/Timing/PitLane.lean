import OpenLaps.Timing.Validity

/- Laps that touch the pit lane. The engine decides a lap's validity from pit
entries alone and takes the pit lines of a segment before its lap point, so a
pit crossing can be missed in two ways; apart from these no valid lap contains one. -/
namespace OpenLaps.Timing

/-- A crossing of a pit line, entry or exit. -/
def Crossing.IsPit (crossing : Crossing) : Prop :=
  crossing.role = .pitEntry ∨ crossing.role = .pitExit

instance (crossing : Crossing) : Decidable crossing.IsPit :=
  inferInstanceAs (Decidable (_ ∨ _))

/-- The crossings accepted on the segment that ends at `gps`. -/
def acceptedOn (config : Config) (engine : Engine) (gps : GPSPoint) : List Crossing :=
  (processPoint config engine gps).1.history.drop engine.history.length

/-- The engine can see what the pit lines of this segment mean: a pit exit during
a lap that still counts as valid comes with a pit entry, and a lap that starts on
this segment with the car on the track starts no earlier than its pit crossings. -/
structure PitLaneSeen (config : Config) (engine : Engine) (gps : GPSPoint) : Prop where
  exits : (∃ crossing ∈ acceptedOn config engine gps, crossing.role = .pitExit) →
    engine.state.lapStartTime ≠ 0 → engine.state.lapValid = true →
    ∃ crossing ∈ acceptedOn config engine gps, crossing.role = .pitEntry
  starts : ∀ start ∈ acceptedOn config engine gps, start.startsLap = true →
    start.pitStatus = .track →
    ∀ crossing ∈ acceptedOn config engine gps, crossing.IsPit → crossing.time ≤ start.time

instance (config : Config) (engine : Engine) (gps : GPSPoint) :
    Decidable (PitLaneSeen config engine gps) :=
  decidable_of_iff (_ ∧ _) ⟨fun both => ⟨both.1, both.2⟩, fun seen => ⟨seen.exits, seen.starts⟩⟩

/-- No valid lap contains a pit crossing strictly between its start and its finish. -/
def PitFree (history : List Crossing) : Prop :=
  ∀ finish ∈ history, ∀ event ∈ finish.events, event.type = .lapCompleted → event.valid = true →
    ∀ crossing ∈ history, crossing.IsPit →
      ¬ (event.time - event.lapTime < crossing.time ∧ crossing.time < event.time)

/-- The invariant: besides the verdicts given so far, a lap that still counts as
valid started no earlier than every pit crossing. -/
structure PitAware (engine : Engine) : Prop where
  past : ∀ crossing ∈ engine.history, ∃ prev, engine.prev = some prev ∧
    crossing.time ≤ prev.timestamp
  stamped : ∀ crossing ∈ engine.history, ∀ event ∈ crossing.events, event.time = crossing.time
  status : engine.state.lapValid = true → engine.state.pitStatus = .track
  current : engine.state.lapStartTime ≠ 0 → engine.state.lapValid = true →
    ∀ crossing ∈ engine.history, crossing.IsPit → crossing.time ≤ engine.state.lapStartTime
  judged : PitFree engine.history

/-- What the pit lines of a segment do to the engine they find. -/
structure PitsOf (prev gps : GPSPoint) (before after : Engine) (pits : List Crossing) : Prop where
  history : after.history = before.history ++ pits
  pit : ∀ crossing ∈ pits, crossing.IsPit
  within : ∀ crossing ∈ pits, prev.timestamp ≤ crossing.time ∧ crossing.time ≤ gps.timestamp
  stamped : ∀ crossing ∈ pits, ∀ event ∈ crossing.events, event.time = crossing.time
  noLap : ∀ crossing ∈ pits, ∀ event ∈ crossing.events, event.type ≠ .lapCompleted
  clock : after.state.lapStartTime = before.state.lapStartTime
  valid : after.state.lapValid = true ↔ before.state.lapValid = true ∧
    ∀ crossing ∈ pits, crossing.role ≠ .pitEntry
  status : (before.state.lapValid = true → before.state.pitStatus = .track) →
    after.state.lapValid = true → after.state.pitStatus = .track

theorem PitsOf.cross {config : Config} {prev gps : GPSPoint} {before current : Engine}
    {pits : List Crossing} (found : PitsOf prev gps before current pits) {line : TimingLine}
    {hit : Hit} {accepted : TimingState}
    (taken : Accepted config prev gps current.state line hit accepted)
    (forward : prev.timestamp ≤ gps.timestamp) :
    PitsOf prev gps before (crossPit current line hit gps accepted).1
      (pits ++ [pitCrossing line hit gps accepted]) := by
  obtain ⟨times, directions, rfl⟩ := accept_frame taken.passed
  have split : ∀ {holds : Crossing → Prop}, (∀ crossing ∈ pits, holds crossing) →
      holds (pitCrossing line hit gps { current.state with
        lastCrossTime := times, lineDirection := directions }) →
      ∀ crossing ∈ pits ++ [pitCrossing line hit gps { current.state with
        lastCrossTime := times, lineDirection := directions }], holds crossing := by
    intro holds old fresh crossing member
    rcases List.mem_append.mp member with earlier | last
    · exact old crossing earlier
    · rw [List.mem_singleton.mp last]
      exact fresh
  refine ⟨?_, split found.pit ?_, split found.within ?_, split found.stamped ?_,
    split found.noLap ?_, ?_, ?_, ?_⟩
  · rw [← List.append_assoc, ← found.history]
    rfl
  · by_cases entry : line.lineType = .pitEntry <;> simp [Crossing.IsPit, pitCrossing, entry]
  · exact crossing_time taken.crossed forward
  · intro event member
    simp only [pitCrossing, handlePit, List.mem_singleton] at member
    rw [member]
    rfl
  · intro event member
    simp only [pitCrossing, handlePit, List.mem_singleton] at member
    rw [member]
    dsimp only
    split <;> exact EventType.noConfusion
  · rw [← found.clock]
    simp only [crossPit, handlePit]
    split <;> rfl
  · by_cases entry : line.lineType = .pitEntry
    · simp only [crossPit, handlePit, entry, ↓reduceIte, Bool.false_eq_true, false_iff]
      intro both
      refine both.2 _ (List.mem_append_right _ (List.mem_singleton_self _)) ?_
      simp [pitCrossing, entry]
    · simp only [crossPit, handlePit, entry, ↓reduceIte]
      rw [found.valid]
      refine and_congr_right fun _ => ⟨fun old => split old ?_, fun all crossing member =>
        all crossing (List.mem_append_left _ member)⟩
      simp [pitCrossing, entry]
  · intro consistent still
    by_cases entry : line.lineType = .pitEntry
    · simp [crossPit, handlePit, entry] at still
    · simp [crossPit, handlePit, entry]

theorem afterPits_found (config : Config) (engine : Engine) (prev gps : GPSPoint)
    (forward : prev.timestamp ≤ gps.timestamp) :
    ∃ pits, PitsOf prev gps engine (afterPits config engine prev gps) pits := by
  apply pitPass_invariant (fun current => ∃ pits, PitsOf prev gps engine current pits)
  · intro current line hit accepted found taken
    obtain ⟨pits, found⟩ := found
    exact ⟨_, found.cross taken forward⟩
  · refine ⟨[], (List.append_nil _).symm, ?_, ?_, ?_, ?_, rfl, ?_, fun consistent => consistent⟩
    all_goals simp

/-- The invariant after the pit lines, when a pit exit in a lap that still counts
as valid comes with an entry. -/
theorem afterPits_aware {config : Config} {engine : Engine} {prev gps : GPSPoint}
    {pits : List Crossing} (aware : PitAware engine) (known : engine.prev = some prev)
    (forward : prev.timestamp ≤ gps.timestamp)
    (found : PitsOf prev gps engine (afterPits config engine prev gps) pits)
    (kept : (afterPits config engine prev gps).prev = some gps)
    (exits : (∃ crossing ∈ pits, crossing.role = .pitExit) → engine.state.lapStartTime ≠ 0 →
      engine.state.lapValid = true → ∃ crossing ∈ pits, crossing.role = .pitEntry) :
    PitAware (afterPits config engine prev gps) := by
  have old : ∀ crossing ∈ engine.history, crossing.time ≤ prev.timestamp := by
    intro crossing member
    obtain ⟨last, same, bound⟩ := aware.past crossing member
    rw [known] at same
    cases same
    exact bound
  refine ⟨?_, ?_, found.status aware.status, ?_, ?_⟩
  · intro crossing member
    rw [found.history] at member
    refine ⟨gps, kept, ?_⟩
    rcases List.mem_append.mp member with earlier | fresh
    · exact (old crossing earlier).trans forward
    · exact (found.within crossing fresh).2
  · intro crossing member
    rw [found.history] at member
    rcases List.mem_append.mp member with earlier | fresh
    · exact aware.stamped crossing earlier
    · exact found.stamped crossing fresh
  · intro running valid crossing member pit
    rw [found.clock] at running ⊢
    obtain ⟨before, noEntry⟩ := found.valid.mp valid
    rw [found.history] at member
    rcases List.mem_append.mp member with earlier | fresh
    · exact aware.current running before crossing earlier pit
    · -- Neither an entry nor an exit was accepted, so there is no such crossing.
      rcases pit with entry | exit
      · exact absurd entry (noEntry crossing fresh)
      · obtain ⟨other, inside, entry⟩ := exits ⟨crossing, fresh, exit⟩ running before
        exact absurd entry (noEntry other inside)
  · intro finish member event listed completed valid crossing present pit
    rw [found.history] at member present
    rcases List.mem_append.mp member with earlier | fresh
    · rcases List.mem_append.mp present with before | after
      · exact aware.judged finish earlier event listed completed valid crossing before pit
      · have late := (found.within crossing after).1
        have time := aware.stamped finish earlier event listed
        have bound := old finish earlier
        intro inside
        linarith [inside.2]
    · exact absurd completed (found.noLap finish fresh event listed)

theorem handleLapPoint_time {config : Config} {state : TimingState} {idx : Nat}
    {line : TimingLine} {hit : Hit} {gps : GPSPoint} {event : TimingEvent}
    (member : event ∈ (handleLapPoint config state idx line hit gps).2) : event.time = hit.time := by
  unfold handleLapPoint at member
  split at member
  · cases member
  · split at member
    · dsimp only at member
      split at member
      · cases member
      · simp only [lapEvents, List.mem_cons, List.not_mem_nil, or_false] at member
        rcases member with rfl | rfl <;> rfl
    · simp only [List.mem_singleton] at member
      subst member
      rfl

/-- A valid lap event is only produced while the lap still counts as valid, and
its lap time runs from the lap start. -/
theorem handleLapPoint_valid {config : Config} {state : TimingState} {idx : Nat}
    {line : TimingLine} {hit : Hit} {gps : GPSPoint} {event : TimingEvent}
    (member : event ∈ (handleLapPoint config state idx line hit gps).2)
    (completed : event.type = .lapCompleted) (valid : event.valid = true) :
    state.lapStartTime ≠ 0 ∧ state.lapValid = true ∧
      event.time - event.lapTime = state.lapStartTime := by
  unfold handleLapPoint at member
  split at member
  · cases member
  · rename_i running
    split at member
    · dsimp only at member
      split at member
      · cases member
      · simp only [lapEvents, List.mem_cons, List.not_mem_nil, or_false] at member
        rcases member with rfl | rfl
        · cases completed
        · simp only [Bool.and_eq_true] at valid
          refine ⟨running, valid.1.1, ?_⟩
          dsimp only
          linarith
    · simp only [List.mem_singleton] at member
      subst member
      cases completed

/-- What a lap point leaves of the lap flags: it restarts the lap at its own
time, or continues it. -/
theorem handleLapPoint_lap (config : Config) (state : TimingState) (idx : Nat)
    (line : TimingLine) (hit : Hit) (gps : GPSPoint) :
    (handleLapPoint config state idx line hit gps).1.pitStatus = state.pitStatus ∧
      (startsLap state idx = true ∧
          (handleLapPoint config state idx line hit gps).1.lapStartTime = hit.time ∧
          ((handleLapPoint config state idx line hit gps).1.lapValid = true →
            state.pitStatus = .track) ∨
        (handleLapPoint config state idx line hit gps).1.lapStartTime = state.lapStartTime ∧
          ((handleLapPoint config state idx line hit gps).1.lapValid = true →
            state.lapValid = true)) := by
  by_cases first : state.lapStartTime = 0
  · by_cases zero : idx = 0 <;> simp [handleLapPoint, startNewLap, startsLap, first, zero]
  · by_cases zero : idx = 0
    · simp only [handleLapPoint, startsLap, first, zero, ↓reduceIte]
      split <;> simp [startNewLap]
    · simp only [handleLapPoint, first, zero, ↓reduceIte, Bool.and_eq_true, true_and]
      exact Or.inr fun both => both.1

theorem crossLapPoint_aware {config : Config} {engine : Engine} {prev gps : GPSPoint} {idx : Nat}
    {line : TimingLine} {hit : Hit} {accepted : TimingState} (aware : PitAware engine)
    (kept : engine.prev = some gps) (forward : prev.timestamp ≤ gps.timestamp)
    (taken : Accepted config prev gps engine.state line hit accepted)
    (starts : startsLap accepted idx = true → accepted.pitStatus = .track →
      ∀ crossing ∈ engine.history, crossing.IsPit → crossing.time ≤ hit.time) :
    PitAware (crossLapPoint config engine idx line hit gps accepted).1 := by
  have time := crossing_time taken.crossed forward
  obtain ⟨times, directions, rfl⟩ := accept_frame taken.passed
  obtain ⟨status, lap⟩ := handleLapPoint_lap config { engine.state with
    lastCrossTime := times, lineDirection := directions } idx line hit gps
  have noPit : ¬ (lapCrossing config idx line hit gps { engine.state with
      lastCrossTime := times, lineDirection := directions }).IsPit := by
    simp [Crossing.IsPit, lapCrossing]
  refine ⟨?_, ?_, ?_, ?_, ?_⟩
  · intro crossing member
    refine ⟨gps, kept, ?_⟩
    rcases List.mem_append.mp member with earlier | fresh
    · obtain ⟨last, same, bound⟩ := aware.past crossing earlier
      rw [kept] at same
      cases same
      exact bound
    · rw [List.mem_singleton.mp fresh]
      exact time.2
  · intro crossing member event listed
    rcases List.mem_append.mp member with earlier | fresh
    · exact aware.stamped crossing earlier event listed
    · rw [List.mem_singleton.mp fresh] at listed ⊢
      exact handleLapPoint_time listed
  · intro valid
    refine status.trans ?_
    rcases lap with ⟨_, _, track⟩ | ⟨_, before⟩
    · exact track valid
    · exact aware.status (before valid)
  · intro running valid crossing member pit
    rcases List.mem_append.mp member with earlier | fresh
    · rcases lap with ⟨restarted, clock, track⟩ | ⟨clock, before⟩
      · exact (starts restarted (track valid) crossing earlier pit).trans clock.ge
      · exact (aware.current (fun zero => running (clock.trans zero)) (before valid) crossing
          earlier pit).trans clock.ge
    · rw [List.mem_singleton.mp fresh] at pit
      exact absurd pit noPit
  · intro finish member event listed completed valid crossing present pit
    rcases List.mem_append.mp present with before | fresh
    · rcases List.mem_append.mp member with earlier | last
      · exact aware.judged finish earlier event listed completed valid crossing before pit
      · rw [List.mem_singleton.mp last] at listed
        obtain ⟨running, still, start⟩ := handleLapPoint_valid listed completed valid
        rw [start]
        intro inside
        exact absurd inside.1 (not_lt.mpr (aware.current running still crossing before pit))
    · rw [List.mem_singleton.mp fresh] at pit
      exact absurd pit noPit

/-- One point whose segment the engine can see through keeps the invariant. -/
theorem processPoint_aware {config : Config} {engine : Engine} {gps : GPSPoint}
    (aware : PitAware engine) (seen : PitLaneSeen config engine gps)
    (forward : ∀ prev, engine.prev = some prev → prev.timestamp ≤ gps.timestamp) :
    PitAware (processPoint config engine gps).1 := by
  rcases processPoint_cases config engine gps with ⟨unknown, _, same⟩ | ⟨prev, known, crossed⟩
  · have empty : engine.history = [] := by
      apply List.eq_nil_iff_forall_not_mem.mpr
      intro crossing member
      obtain ⟨last, some, _⟩ := aware.past crossing member
      rw [unknown] at some
      cases some
    rw [same]
    refine ⟨?_, aware.stamped, aware.status, aware.current, aware.judged⟩
    intro crossing member
    rw [empty] at member
    cases member
  · have ordered := forward prev known
    obtain ⟨pits, found⟩ := afterPits_found config engine prev gps ordered
    have kept : (afterPits config engine prev gps).prev = some gps :=
      pitPass_invariant (fun current => current.prev = some gps)
        (fun current line hit accepted same taken => same) config.pitLines _ rfl
    rcases crossed with ⟨_, same⟩ | ⟨idx, line, hit, accepted, inside, taken, _, same⟩
    · have here : acceptedOn config engine gps = pits := by
        rw [acceptedOn, same, found.history, List.drop_left]
      rw [same]
      apply afterPits_aware aware known ordered found kept
      rw [← here]
      exact seen.exits
    · let last := lapCrossing config idx line hit gps accepted
      have here : acceptedOn config engine gps = pits ++ [last] := by
        rw [acceptedOn, same]
        change ((afterPits config engine prev gps).history ++ [last]).drop _ = _
        rw [found.history, List.append_assoc, List.drop_left]
      rw [same]
      refine crossLapPoint_aware ?_ kept ordered taken ?_
      · apply afterPits_aware aware known ordered found kept
        intro exit running valid
        obtain ⟨crossing, member, role⟩ := exit
        obtain ⟨entry, present, kind⟩ := seen.exits
          ⟨crossing, here ▸ List.mem_append_left _ member, role⟩ running valid
        rw [here] at present
        rcases List.mem_append.mp present with pit | lap
        · exact ⟨entry, pit, kind⟩
        · rw [List.mem_singleton.mp lap] at kind
          cases kind
      · intro restarted track crossing member pit
        rw [found.history] at member
        have time := crossing_time taken.crossed ordered
        rcases List.mem_append.mp member with earlier | fresh
        · obtain ⟨before, some, bound⟩ := aware.past crossing earlier
          rw [known] at some
          cases some
          exact bound.trans time.1
        · have atStart := seen.starts last (here ▸ List.mem_append_right _ (List.mem_singleton_self _))
            restarted track crossing (here ▸ List.mem_append_left _ fresh) pit
          exact atStart

/-- A lap through the pit lane, with the entry seen. -/
def pitStop : Config :=
  straight [⟨"Pit Entry", ⟨-1, 7 / 4, 0⟩, ⟨1, 7 / 4, 0⟩, .pitEntry⟩,
    ⟨"Pit Exit", ⟨-1, 2, 0⟩, ⟨1, 2, 0⟩, .pitExit⟩]

end OpenLaps.Timing

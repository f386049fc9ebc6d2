import OpenLaps.Timing.Engine

/- How the two loops of `process_point` act on the engine, stated once for all
invariants of the engine. -/
namespace OpenLaps.Timing

/-- Acceptance touches only the debounce and direction tables. -/
theorem accept_frame {config : Config} {state next : TimingState} {line : TimingLine} {hit : Hit}
    (accepted : accept config state line hit = some next) :
    ∃ times directions,
      next = { state with lastCrossTime := times, lineDirection := directions } := by
  unfold accept at accepted
  split at accepted
  · cases accepted
  · dsimp only at accepted
    split at accepted
    · split at accepted
      · cases accepted
        exact ⟨_, _, rfl⟩
      · split at accepted
        · cases accepted
        · cases accepted
          exact ⟨_, _, rfl⟩
    · cases accepted
      exact ⟨_, _, rfl⟩

/-- A segment from `prev` to `gps` whose crossing of `line` is accepted in `state`. -/
structure Accepted (config : Config) (prev gps : GPSPoint) (state : TimingState)
    (line : TimingLine) (hit : Hit) (next : TimingState) : Prop where
  crossed : crossing config.projection prev gps line = some hit
  passed : accept config state line hit = some next

theorem acceptedHit_some {config : Config} {engine : Engine} {prev gps : GPSPoint}
    {line : TimingLine} {hit : Hit} {next : TimingState}
    (found : acceptedHit config engine prev gps line = some (hit, next)) :
    Accepted config prev gps engine.state line hit next := by
  unfold acceptedHit at found
  obtain ⟨met, crossed, mapped⟩ := Option.bind_eq_some_iff.mp found
  obtain ⟨state, passed, same⟩ := Option.map_eq_some_iff.mp mapped
  cases same
  exact ⟨crossed, passed⟩

theorem pitPass_cons (config : Config) (prev gps : GPSPoint) (line : TimingLine)
    (rest : List TimingLine) (engine : Engine) :
    pitPass config prev gps (line :: rest) engine =
      match acceptedHit config engine prev gps line with
      | none => pitPass config prev gps rest engine
      | some (hit, accepted) =>
          let crossed := crossPit engine line hit gps accepted
          let later := pitPass config prev gps rest crossed.1
          (later.1, crossed.2 ++ later.2) := rfl

theorem lapPass_cons (config : Config) (prev gps : GPSPoint) (idx : Nat) (line : TimingLine)
    (rest : List TimingLine) (engine : Engine) :
    lapPass config prev gps idx (line :: rest) engine =
      match acceptedHit config engine prev gps line with
      | none => lapPass config prev gps (idx + 1) rest engine
      | some (hit, accepted) => crossLapPoint config engine idx line hit gps accepted := rfl

/-- The invariant rule for the loop over the pit lines. -/
theorem pitPass_invariant {config : Config} {prev gps : GPSPoint} (holds : Engine → Prop)
    (preserved : ∀ engine line hit accepted, holds engine →
      Accepted config prev gps engine.state line hit accepted →
      holds (crossPit engine line hit gps accepted).1)
    (lines : List TimingLine) (engine : Engine) (start : holds engine) :
    holds (pitPass config prev gps lines engine).1 := by
  induction lines generalizing engine with
  | nil => exact start
  | cons line rest ih =>
      rw [pitPass_cons]
      split
      · exact ih engine start
      · rename_i hit accepted found
        exact ih _ (preserved engine line hit accepted start (acceptedHit_some found))

/-- The lap point the loop stops at, with its hit and the state that accepted it. -/
def firstHit (config : Config) (prev gps : GPSPoint) (engine : Engine) :
    Nat → List TimingLine → Option (Nat × TimingLine × Hit × TimingState)
  | _, [] => none
  | idx, line :: rest =>
      match acceptedHit config engine prev gps line with
      | none => firstHit config prev gps engine (idx + 1) rest
      | some (hit, accepted) => some (idx, line, hit, accepted)

theorem firstHit_cons (config : Config) (prev gps : GPSPoint) (engine : Engine) (idx : Nat)
    (line : TimingLine) (rest : List TimingLine) :
    firstHit config prev gps engine idx (line :: rest) =
      match acceptedHit config engine prev gps line with
      | none => firstHit config prev gps engine (idx + 1) rest
      | some (hit, accepted) => some (idx, line, hit, accepted) := rfl

/-- The loop over the lap points crosses none of them, or exactly one. -/
theorem lapPass_cases (config : Config) (prev gps : GPSPoint) (first : Nat)
    (lines : List TimingLine) (engine : Engine) :
    (firstHit config prev gps engine first lines = none ∧
      lapPass config prev gps first lines engine = (engine, [])) ∨
      ∃ idx line hit accepted, idx < lines.length ∧
        Accepted config prev gps engine.state line hit accepted ∧
        firstHit config prev gps engine first lines = some (first + idx, line, hit, accepted) ∧
        lapPass config prev gps first lines engine =
          crossLapPoint config engine (first + idx) line hit gps accepted := by
  induction lines generalizing first with
  | nil => exact Or.inl ⟨rfl, rfl⟩
  | cons line rest ih =>
      rw [lapPass_cons, firstHit_cons]
      split
      · rcases ih (first + 1) with
          none_crossed | ⟨idx, later, hit, accepted, inside, taken, found, same⟩
        · exact Or.inl none_crossed
        · have shift : first + 1 + idx = first + (idx + 1) := by omega
          rw [shift] at found same
          exact Or.inr ⟨idx + 1, later, hit, accepted, Nat.succ_lt_succ inside, taken, found, same⟩
      · rename_i hit accepted found
        exact Or.inr ⟨0, line, hit, accepted, Nat.zero_lt_succ _, acceptedHit_some found, rfl, rfl⟩

/-- The engine after the pit lines of the segment that ends at `gps`. -/
def afterPits (config : Config) (engine : Engine) (prev gps : GPSPoint) : Engine :=
  (pitPass config prev gps config.pitLines { engine with prev := some gps }).1

/-- The lap point that the segment ending at `gps` crosses, after its pit lines. -/
def lapHit (config : Config) (engine : Engine) (gps : GPSPoint) :
    Option (Nat × TimingLine × Hit × TimingState) :=
  engine.prev.bind fun prev =>
    firstHit config prev gps (afterPits config engine prev gps) 0 config.lapPoints

/-- What one point does: nothing but remember it, or the pit lines of the
segment followed by at most one lap point. -/
theorem processPoint_cases (config : Config) (engine : Engine) (gps : GPSPoint) :
    (engine.prev = none ∧ lapHit config engine gps = none ∧
      (processPoint config engine gps).1 = { engine with prev := some gps }) ∨
      ∃ prev, engine.prev = some prev ∧
        ((lapHit config engine gps = none ∧
          (processPoint config engine gps).1 = afterPits config engine prev gps) ∨
          ∃ idx line hit accepted, idx < config.nPoints ∧
            Accepted config prev gps (afterPits config engine prev gps).state line hit accepted ∧
            lapHit config engine gps = some (idx, line, hit, accepted) ∧
            (processPoint config engine gps).1 =
              (crossLapPoint config (afterPits config engine prev gps) idx line hit gps
                accepted).1) := by
  unfold lapHit
  cases known : engine.prev with
  | none =>
      left
      rw [processPoint, known]
      exact ⟨rfl, rfl, rfl⟩
  | some prev =>
      refine Or.inr ⟨prev, rfl, ?_⟩
      have segment : (processPoint config engine gps).1 =
          (lapPass config prev gps 0 config.lapPoints (afterPits config engine prev gps)).1 := by
        rw [processPoint, known]
        rfl
      rw [segment, Option.bind_some]
      rcases lapPass_cases config prev gps 0 config.lapPoints (afterPits config engine prev gps)
        with ⟨missed, none_crossed⟩ | ⟨idx, line, hit, accepted, inside, taken, found, same⟩
      · left
        rw [none_crossed]
        exact ⟨missed, rfl⟩
      · rw [Nat.zero_add] at found same
        exact Or.inr ⟨idx, line, hit, accepted, inside, taken, found, by rw [same]⟩

/-- The rule for one point: what holds during the pit lines and what the one lap
point, or its absence, turns it into. -/
theorem processPoint_passes {config : Config} {engine : Engine} {gps : GPSPoint}
    (during after : Engine → Prop) (start : during { engine with prev := some gps })
    (pit : ∀ prev, engine.prev = some prev → ∀ current line hit accepted, during current →
      Accepted config prev gps current.state line hit accepted →
      during (crossPit current line hit gps accepted).1)
    (lap : ∀ prev, engine.prev = some prev → ∀ current idx line hit accepted, during current →
      idx < config.nPoints → Accepted config prev gps current.state line hit accepted →
      lapHit config engine gps = some (idx, line, hit, accepted) →
      after (crossLapPoint config current idx line hit gps accepted).1)
    (done : ∀ current, during current → after current) :
    after (processPoint config engine gps).1 := by
  rcases processPoint_cases config engine gps with ⟨_, _, same⟩ | ⟨prev, known, crossed⟩
  · rw [same]
    exact done _ start
  · have pits : during (afterPits config engine prev gps) :=
      pitPass_invariant during (pit prev known) config.pitLines _ start
    rcases crossed with ⟨_, same⟩ | ⟨idx, line, hit, accepted, inside, taken, found, same⟩
    · rw [same]
      exact done _ pits
    · rw [same]
      exact lap prev known _ idx line hit accepted pits inside taken found

/-- The invariant rule for one point: crossings may be assumed to lie between
the two fixes of a segment that runs forward in time. -/
theorem processPoint_invariant {config : Config} {engine : Engine} {gps : GPSPoint}
    (holds : Engine → Prop) (start : holds { engine with prev := some gps })
    (pit : ∀ prev, engine.prev = some prev → ∀ current line hit accepted, holds current →
      Accepted config prev gps current.state line hit accepted →
      holds (crossPit current line hit gps accepted).1)
    (lap : ∀ prev, engine.prev = some prev → ∀ current idx line hit accepted, holds current →
      idx < config.nPoints → Accepted config prev gps current.state line hit accepted →
      holds (crossLapPoint config current idx line hit gps accepted).1) :
    holds (processPoint config engine gps).1 :=
  processPoint_passes holds holds start pit
    (fun prev known current idx line hit accepted kept inside taken _ =>
      lap prev known current idx line hit accepted kept inside taken)
    fun _ kept => kept

theorem processPoint_prev (config : Config) (engine : Engine) (gps : GPSPoint) :
    (processPoint config engine gps).1.prev = some gps := by
  apply processPoint_invariant (fun current => current.prev = some gps) rfl
  · intro prev known current line hit accepted same taken
    exact same
  · intro prev known current idx line hit accepted same inside taken
    exact same

/-- The events returned are those recorded with the new crossings. -/
theorem pitPass_events (config : Config) (prev gps : GPSPoint) (lines : List TimingLine)
    (engine : Engine) : ∃ fresh,
    (pitPass config prev gps lines engine).1.history = engine.history ++ fresh ∧
      (pitPass config prev gps lines engine).2 = fresh.flatMap Crossing.events := by
  induction lines generalizing engine with
  | nil => exact ⟨[], (List.append_nil _).symm, rfl⟩
  | cons line rest ih =>
      rw [pitPass_cons]
      split
      · exact ih engine
      · rename_i hit accepted found
        obtain ⟨fresh, history, events⟩ := ih (crossPit engine line hit gps accepted).1
        refine ⟨pitCrossing line hit gps accepted :: fresh, ?_, ?_⟩
        · change (pitPass config prev gps rest _).1.history = _
          rw [history]
          exact List.append_assoc _ _ _
        · rw [List.flatMap_cons, ← events]
          rfl

theorem processPoint_events (config : Config) (engine : Engine) (gps : GPSPoint) : ∃ fresh,
    (processPoint config engine gps).1.history = engine.history ++ fresh ∧
      (processPoint config engine gps).2 = fresh.flatMap Crossing.events := by
  unfold processPoint
  split
  · exact ⟨[], (List.append_nil _).symm, rfl⟩
  · rename_i prev known
    obtain ⟨pits, history, events⟩ :=
      pitPass_events config prev gps config.pitLines { engine with prev := some gps }
    unfold processSegment
    dsimp only
    rcases lapPass_cases config prev gps 0 config.lapPoints
      (pitPass config prev gps config.pitLines { engine with prev := some gps }).1
      with ⟨_, none_crossed⟩ | ⟨idx, line, hit, accepted, inside, taken, _, same⟩
    · rw [none_crossed, events]
      exact ⟨pits, history, List.append_nil _⟩
    · rw [same, events]
      refine ⟨pits ++ [lapCrossing config (0 + idx) line hit gps accepted], ?_, ?_⟩
      · rw [← List.append_assoc, ← history]
        rfl
      · rw [List.flatMap_append, List.flatMap_singleton]
        rfl

/-- Every event of a run is recorded in the history, in order. -/
theorem processPoints_events (config : Config) (engine : Engine) (points : List GPSPoint) :
    ∃ fresh, (processPoints config engine points).1.history = engine.history ++ fresh ∧
      (processPoints config engine points).2 = fresh.flatMap Crossing.events := by
  induction points generalizing engine with
  | nil => exact ⟨[], (List.append_nil _).symm, rfl⟩
  | cons gps rest ih =>
      obtain ⟨first, history, events⟩ := processPoint_events config engine gps
      obtain ⟨later, history', events'⟩ := ih (processPoint config engine gps).1
      refine ⟨first ++ later, ?_, ?_⟩
      · change (processPoints config (processPoint config engine gps).1 rest).1.history = _
        rw [history', history, List.append_assoc]
      · change (processPoint config engine gps).2 ++
          (processPoints config (processPoint config engine gps).1 rest).2 = _
        rw [events, events', List.flatMap_append]

/-- The events of a fresh engine are those of its history. -/
theorem processPoints_history (config : Config) (points : List GPSPoint) :
    (processPoints config {} points).2 =
      (processPoints config {} points).1.history.flatMap Crossing.events := by
  obtain ⟨fresh, history, events⟩ := processPoints_events config {} points
  rw [events, history, List.nil_append]

/-- A stream of points with positive, non-decreasing timestamps. -/
structure Forward (points : List GPSPoint) : Prop where
  positive : ∀ gps ∈ points, 0 < gps.timestamp
  nondecreasing : points.Pairwise fun earlier later => earlier.timestamp ≤ later.timestamp

/-- Every point of the stream meets `allowed` in the engine that receives it. -/
def Throughout (config : Config) (allowed : Engine → GPSPoint → Prop) :
    Engine → List GPSPoint → Prop
  | _, [] => True
  | engine, gps :: rest =>
      allowed engine gps ∧ Throughout config allowed (processPoint config engine gps).1 rest

instance decidableThroughout (config : Config) (allowed : Engine → GPSPoint → Prop)
    [∀ engine gps, Decidable (allowed engine gps)] :
    ∀ engine points, Decidable (Throughout config allowed engine points)
  | _, [] => isTrue trivial
  | engine, gps :: rest =>
      have := decidableThroughout config allowed (processPoint config engine gps).1 rest
      inferInstanceAs (Decidable (_ ∧ _))

/-- The invariant rule for a forward stream whose points are all `allowed`. -/
theorem processPoints_invariant_throughout {config : Config} (holds : Engine → Prop)
    {allowed : Engine → GPSPoint → Prop}
    (preserved : ∀ engine gps, holds engine → allowed engine gps → 0 < gps.timestamp →
      (∀ prev, engine.prev = some prev → prev.timestamp ≤ gps.timestamp) →
      holds (processPoint config engine gps).1)
    (points : List GPSPoint) (engine : Engine) (start : holds engine) (forward : Forward points)
    (after : ∀ prev, engine.prev = some prev → ∀ gps ∈ points, prev.timestamp ≤ gps.timestamp)
    (throughout : Throughout config allowed engine points) :
    holds (processPoints config engine points).1 := by
  induction points generalizing engine with
  | nil => exact start
  | cons gps rest ih =>
      obtain ⟨first, ordered⟩ := List.pairwise_cons.mp forward.nondecreasing
      apply ih
      · exact preserved engine gps start throughout.1 (forward.positive gps List.mem_cons_self)
          (fun prev known => after prev known gps List.mem_cons_self)
      · exact ⟨fun later member => forward.positive later (List.mem_cons_of_mem gps member),
          ordered⟩
      · intro prev known later member
        rw [processPoint_prev] at known
        cases known
        exact first later member
      · exact throughout.2

theorem throughout_of_forall (config : Config) {allowed : GPSPoint → Prop} (engine : Engine)
    {points : List GPSPoint} (all : ∀ gps ∈ points, allowed gps) :
    Throughout config (fun _ gps => allowed gps) engine points := by
  induction points generalizing engine with
  | nil => trivial
  | cons gps rest ih =>
      exact ⟨all gps List.mem_cons_self,
        ih _ fun later member => all later (List.mem_cons_of_mem gps member)⟩

theorem throughout_true (config : Config) (engine : Engine) (points : List GPSPoint) :
    Throughout config (fun _ _ => True) engine points :=
  throughout_of_forall config engine fun _ _ => trivial

/-- The invariant rule for a forward stream: each point comes no earlier than
the point before it. -/
theorem processPoints_invariant {config : Config} (holds : Engine → Prop)
    (preserved : ∀ engine gps, holds engine → 0 < gps.timestamp →
      (∀ prev, engine.prev = some prev → prev.timestamp ≤ gps.timestamp) →
      holds (processPoint config engine gps).1)
    (points : List GPSPoint) (engine : Engine) (start : holds engine) (forward : Forward points)
    (after : ∀ prev, engine.prev = some prev → ∀ gps ∈ points, prev.timestamp ≤ gps.timestamp) :
    holds (processPoints config engine points).1 :=
  processPoints_invariant_throughout holds
    (fun current gps kept _ positive ordered => preserved current gps kept positive ordered)
    points engine start forward after (throughout_true config engine points)

end OpenLaps.Timing

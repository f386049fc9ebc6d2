import OpenLaps.Timing.Validity

/- The debounce and the direction gate of `_accept` over whole runs. -/
namespace OpenLaps.Timing

/-- A crossing that `_accept` let through. -/
structure Passage where
  line : TimingLine
  hit : Hit
  deriving DecidableEq, Repr

/-- The pit lines that one segment passes, in the order of the loop. -/
def pitPassages (config : Config) (prev gps : GPSPoint) :
    List TimingLine → Engine → List Passage
  | [], _ => []
  | line :: rest, engine =>
      match acceptedHit config engine prev gps line with
      | none => pitPassages config prev gps rest engine
      | some (hit, accepted) =>
          ⟨line, hit⟩ :: pitPassages config prev gps rest (crossPit engine line hit gps accepted).1

/-- The lap point that the segment ending at `gps` passes. -/
def lapPassage (config : Config) (engine : Engine) (gps : GPSPoint) : Option Passage :=
  (lapHit config engine gps).map fun (_, line, hit, _) => ⟨line, hit⟩

/-- The pit lines that the segment ending at `gps` passes. -/
def pitsOf (config : Config) (engine : Engine) (gps : GPSPoint) : List Passage :=
  match engine.prev with
  | none => []
  | some prev => pitPassages config prev gps config.pitLines { engine with prev := some gps }

/-- Every crossing accepted on the segment that ends at `gps`. -/
def passages (config : Config) (engine : Engine) (gps : GPSPoint) : List Passage :=
  pitsOf config engine gps ++ (lapPassage config engine gps).toList

/-- Every crossing accepted during a run. -/
def runPassages (config : Config) : Engine → List GPSPoint → List Passage
  | _, [] => []
  | engine, gps :: rest =>
      passages config engine gps ++ runPassages config (processPoint config engine gps).1 rest

theorem pitPassages_cons (config : Config) (prev gps : GPSPoint) (line : TimingLine)
    (rest : List TimingLine) (engine : Engine) :
    pitPassages config prev gps (line :: rest) engine =
      match acceptedHit config engine prev gps line with
      | none => pitPassages config prev gps rest engine
      | some (hit, accepted) =>
          ⟨line, hit⟩ ::
            pitPassages config prev gps rest (crossPit engine line hit gps accepted).1 := rfl

/-- The rule for the loop over the pit lines, with what has been passed so far. -/
theorem pitPass_passages {config : Config} {prev gps : GPSPoint}
    (holds : Engine → List Passage → Prop)
    (pit : ∀ current passed line hit accepted, holds current passed →
      Accepted config prev gps current.state line hit accepted →
      holds (crossPit current line hit gps accepted).1 (passed ++ [⟨line, hit⟩]))
    (lines : List TimingLine) (engine : Engine) (earlier : List Passage)
    (start : holds engine earlier) :
    holds (pitPass config prev gps lines engine).1
      (earlier ++ pitPassages config prev gps lines engine) := by
  induction lines generalizing engine earlier with
  | nil =>
      rw [show pitPassages config prev gps [] engine = [] from rfl, List.append_nil]
      exact start
  | cons line rest ih =>
      rw [pitPass_cons, pitPassages_cons]
      cases found : acceptedHit config engine prev gps line with
      | none => exact ih engine earlier start
      | some taken =>
          have passed := pit engine earlier line taken.1 taken.2 start (acceptedHit_some found)
          have later := ih _ _ passed
          rw [List.append_assoc] at later
          exact later

/-- The rule for one point. -/
theorem processPoint_passages {config : Config} {engine : Engine} {gps : GPSPoint}
    (holds : Engine → List Passage → Prop) (earlier : List Passage)
    (start : holds { engine with prev := some gps } earlier)
    (pit : ∀ prev current passed line hit accepted, holds current passed →
      Accepted config prev gps current.state line hit accepted →
      holds (crossPit current line hit gps accepted).1 (passed ++ [⟨line, hit⟩]))
    (lap : ∀ prev current passed idx line hit accepted, holds current passed →
      Accepted config prev gps current.state line hit accepted →
      holds (crossLapPoint config current idx line hit gps accepted).1
        (passed ++ [⟨line, hit⟩])) :
    holds (processPoint config engine gps).1 (earlier ++ passages config engine gps) := by
  unfold passages lapPassage pitsOf
  rcases processPoint_cases config engine gps with ⟨unknown, missed, same⟩ | ⟨prev, known, crossed⟩
  · rw [unknown, missed, same]
    show holds _ (earlier ++ [])
    rw [List.append_nil]
    exact start
  · rw [known]
    have pits : holds (afterPits config engine prev gps) (earlier ++
        pitPassages config prev gps config.pitLines { engine with prev := some gps }) :=
      pitPass_passages holds (pit prev) config.pitLines _ earlier start
    rcases crossed with ⟨missed, same⟩ | ⟨idx, line, hit, accepted, _, taken, found, same⟩
    · rw [missed, same]
      show holds _ (earlier ++ (_ ++ []))
      rw [List.append_nil]
      exact pits
    · rw [found, same]
      show holds _ (earlier ++ (_ ++ [⟨line, hit⟩]))
      rw [← List.append_assoc]
      exact lap prev _ _ idx line hit accepted pits taken

/-- The rule for a run. -/
theorem processPoints_passages {config : Config} (holds : Engine → List Passage → Prop)
    (remember : ∀ current passed gps, holds current passed →
      holds { current with prev := some gps } passed)
    (pit : ∀ prev gps current passed line hit accepted, holds current passed →
      Accepted config prev gps current.state line hit accepted →
      holds (crossPit current line hit gps accepted).1 (passed ++ [⟨line, hit⟩]))
    (lap : ∀ prev gps current passed idx line hit accepted, holds current passed →
      Accepted config prev gps current.state line hit accepted →
      holds (crossLapPoint config current idx line hit gps accepted).1
        (passed ++ [⟨line, hit⟩]))
    (points : List GPSPoint) (engine : Engine) (earlier : List Passage)
    (start : holds engine earlier) :
    holds (processPoints config engine points).1
      (earlier ++ runPassages config engine points) := by
  induction points generalizing engine earlier with
  | nil =>
      rw [show runPassages config engine [] = [] from rfl, List.append_nil]
      exact start
  | cons gps rest ih =>
      have first := processPoint_passages holds earlier (remember engine earlier gps start)
        (fun prev => pit prev gps) (fun prev => lap prev gps)
      have later := ih _ _ first
      rw [List.append_assoc] at later
      exact later

/-- The direction gate of `_accept`. -/
def wrongWay (config : Config) (state : TimingState) (line : TimingLine) (hit : Hit) : Bool :=
  config.gateDirection &&
    match state.lineDirection line.name with
    | some expected => expected ≠ hit.sign
    | none => false

theorem accept_eq_none_iff {config : Config} {state : TimingState} {line : TimingLine} {hit : Hit} :
    accept config state line hit = none ↔
      tooSoon config state line hit = true ∨ wrongWay config state line hit = true := by
  unfold accept wrongWay
  by_cases soon : tooSoon config state line hit = true
  · simp only [soon, ↓reduceIte, true_or]
  · rw [if_neg soon]
    simp only [soon]
    by_cases gated : config.gateDirection = true
    · rw [if_pos gated, gated, Bool.true_and]
      cases state.lineDirection line.name with
      | none => simp
      | some expected => by_cases same : expected = hit.sign <;> simp [same]
    · simp [gated]

/-- What acceptance with the direction gate on found, and what it recorded. -/
structure Gate (config : Config) (state : TimingState) (line : TimingLine) (hit : Hit)
    (next : TimingState) : Prop where
  due : ∀ last, state.lastCrossTime line.name = some last →
    config.minLineReentryS ≤ hit.time - last
  way : ∀ expected, state.lineDirection line.name = some expected → expected = hit.sign
  times : next.lastCrossTime = Function.update state.lastCrossTime line.name (some hit.time)
  directions : next.lineDirection =
    Function.update state.lineDirection line.name (some hit.sign)

theorem accept_gate {config : Config} (gated : config.gateDirection = true) {state : TimingState}
    {line : TimingLine} {hit : Hit} {next : TimingState}
    (accepted : accept config state line hit = some next) : Gate config state line hit next := by
  unfold accept at accepted
  split at accepted
  · cases accepted
  · rename_i late
    have due : ∀ last, state.lastCrossTime line.name = some last →
        config.minLineReentryS ≤ hit.time - last := by
      intro last known
      rw [tooSoon, known, Bool.not_eq_true, decide_eq_false_iff_not] at late
      exact not_lt.mp late
    dsimp only at accepted
    split at accepted
    · rename_i unknown
      cases accepted
      refine ⟨due, ?_, rfl, rfl⟩
      intro expected known
      rw [unknown] at known
      cases known
    · rename_i expected known
      split at accepted
      · cases accepted
      · rename_i same
        cases accepted
        have agrees : expected = hit.sign := not_not.mp same
        refine ⟨due, ?_, rfl, ?_⟩
        · intro other learned
          rw [known] at learned
          cases learned
          exact agrees
        · rw [← agrees, ← known]
          exact (Function.update_eq_self _ _).symm

/-- A handled pit line keeps the tables of `_accept`. -/
theorem handlePit_tables (state : TimingState) (line : TimingLine) (hit : Hit) (gps : GPSPoint) :
    (handlePit state line hit gps).1.lastCrossTime = state.lastCrossTime ∧
      (handlePit state line hit gps).1.lineDirection = state.lineDirection := by
  unfold handlePit
  dsimp only
  split <;> exact ⟨rfl, rfl⟩

/-- A handled lap point keeps them too. -/
theorem handleLapPoint_tables (config : Config) (state : TimingState) (idx : Nat)
    (line : TimingLine) (hit : Hit) (gps : GPSPoint) :
    (handleLapPoint config state idx line hit gps).1.lastCrossTime = state.lastCrossTime ∧
      (handleLapPoint config state idx line hit gps).1.lineDirection = state.lineDirection := by
  unfold handleLapPoint
  split
  · exact ⟨rfl, rfl⟩
  · split
    · dsimp only
      split <;> exact ⟨rfl, rfl⟩
    · exact ⟨rfl, rfl⟩

/-- Two passages of lines with one name are far enough apart and go the same way. -/
def Apart (config : Config) (first second : Passage) : Prop :=
  first.line.name = second.line.name →
    config.minLineReentryS ≤ |second.hit.time - first.hit.time| ∧ first.hit.sign = second.hit.sign

/-- The time of the last passage of a line of this name. -/
def lastPassed (passed : List Passage) (name : String) : Option ℚ :=
  (passed.filter fun passage => passage.line.name = name).getLast?.map fun passage =>
    passage.hit.time

theorem lastPassed_append (passed : List Passage) (line : TimingLine) (hit : Hit) (name : String) :
    lastPassed (passed ++ [⟨line, hit⟩]) name =
      if name = line.name then some hit.time else lastPassed passed name := by
  unfold lastPassed
  rw [List.filter_append]
  by_cases same : name = line.name
  · simp [same]
  · have other : ¬ line.name = name := fun equal => same equal.symm
    simp [same, other]

/-- The invariant: the tables hold what the passages since `start` recorded. -/
structure Debounced (config : Config) (start : TimingState) (state : TimingState)
    (passed : List Passage) : Prop where
  apart : passed.Pairwise (Apart config)
  times : ∀ name, state.lastCrossTime name =
    (lastPassed passed name).or (start.lastCrossTime name)
  past : 0 ≤ config.minLineReentryS → ∀ passage ∈ passed, ∃ last,
    state.lastCrossTime passage.line.name = some last ∧ passage.hit.time ≤ last
  directions : ∀ passage ∈ passed,
    state.lineDirection passage.line.name = some passage.hit.sign

theorem Debounced.accept {config : Config} {start state next : TimingState}
    {passed : List Passage} (kept : Debounced config start state passed) {line : TimingLine}
    {hit : Hit} (gate : Gate config state line hit next) :
    Debounced config start next (passed ++ [⟨line, hit⟩]) := by
  refine ⟨?_, ?_, ?_, ?_⟩
  · rw [List.pairwise_append]
    refine ⟨kept.apart, List.pairwise_singleton _ _, ?_⟩
    intro earlier member later single
    rw [List.mem_singleton.mp single]
    intro named
    replace named : earlier.line.name = line.name := named
    have learned := kept.directions earlier member
    rw [named] at learned
    refine ⟨?_, gate.way _ learned⟩
    rcases le_or_gt 0 config.minLineReentryS with positive | negative
    · -- The last passage of this name lies between the earlier one and this one.
      obtain ⟨last, known, bound⟩ := kept.past positive earlier member
      rw [named] at known
      have due := gate.due last known
      calc config.minLineReentryS ≤ hit.time - earlier.hit.time := by linarith
        _ ≤ |hit.time - earlier.hit.time| := le_abs_self _
    · exact (le_of_lt negative).trans (abs_nonneg _)
  · intro name
    rw [lastPassed_append, gate.times]
    by_cases same : name = line.name
    · rw [same, Function.update_self, if_pos rfl, Option.some_or]
    · rw [Function.update_of_ne same, if_neg same, kept.times]
  · intro positive passage member
    rw [gate.times]
    rcases List.mem_append.mp member with earlier | fresh
    · obtain ⟨last, known, bound⟩ := kept.past positive passage earlier
      by_cases named : passage.line.name = line.name
      · rw [named] at known ⊢
        have due := gate.due last known
        exact ⟨hit.time, Function.update_self _ _ _, by linarith⟩
      · exact ⟨last, (Function.update_of_ne named _ _).trans known, bound⟩
    · rw [List.mem_singleton.mp fresh]
      exact ⟨hit.time, Function.update_self _ _ _, le_refl _⟩
  · intro passage member
    rw [gate.directions]
    rcases List.mem_append.mp member with earlier | fresh
    · have learned := kept.directions passage earlier
      by_cases named : passage.line.name = line.name
      · rw [named] at learned ⊢
        rw [Function.update_self, gate.way _ learned]
      · exact (Function.update_of_ne named _ _).trans learned
    · rw [List.mem_singleton.mp fresh]
      exact Function.update_self _ _ _

/-- The invariant reads only the tables of `_accept`. -/
theorem Debounced.same_tables {config : Config} {start state next : TimingState}
    {passed : List Passage} (kept : Debounced config start state passed)
    (same : next.lastCrossTime = state.lastCrossTime ∧ next.lineDirection = state.lineDirection) :
    Debounced config start next passed := by
  obtain ⟨times, directions⟩ := same
  refine ⟨kept.apart, ?_, ?_, ?_⟩
  · rw [times]
    exact kept.times
  · rw [times]
    exact kept.past
  · rw [directions]
    exact kept.directions

theorem processPoints_debounced (config : Config) (gated : config.gateDirection = true)
    (engine : Engine) (points : List GPSPoint) :
    Debounced config engine.state (processPoints config engine points).1.state
      (runPassages config engine points) := by
  apply processPoints_passages (fun current passed =>
    Debounced config engine.state current.state passed) ?_ ?_ ?_ points engine [] ?_
  · intro current passed gps kept
    exact kept
  · intro prev gps current passed line hit accepted kept taken
    apply (kept.accept (accept_gate gated taken.passed)).same_tables
    exact handlePit_tables accepted line hit gps
  · intro prev gps current passed idx line hit accepted kept taken
    apply (kept.accept (accept_gate gated taken.passed)).same_tables
    exact handleLapPoint_tables config accepted idx line hit gps
  · refine ⟨List.Pairwise.nil, fun name => rfl, ?_, ?_⟩
    · intro _ passage member
      cases member
    · intro passage member
      cases member

/-- Every crossing of the segment from `prev` to `gps` is too soon or wrong-way. -/
def Rejected (config : Config) (state : TimingState) (prev gps : GPSPoint) : Prop :=
  ∀ line ∈ config.pitLines ++ config.lapPoints, ∀ hit,
    crossing config.projection prev gps line = some hit →
    tooSoon config state line hit = true ∨ wrongWay config state line hit = true

theorem acceptedHit_rejected {config : Config} {engine : Engine} {prev gps : GPSPoint}
    {line : TimingLine} (rejected : ∀ hit, crossing config.projection prev gps line = some hit →
      tooSoon config engine.state line hit = true ∨ wrongWay config engine.state line hit = true) :
    acceptedHit config engine prev gps line = none := by
  unfold acceptedHit
  cases met : crossing config.projection prev gps line with
  | none => rfl
  | some hit =>
      rw [Option.bind_some, accept_eq_none_iff.mpr (rejected hit met)]
      rfl

theorem pitPass_rejected {config : Config} {prev gps : GPSPoint} (lines : List TimingLine)
    {engine : Engine}
    (rejected : ∀ line ∈ lines, acceptedHit config engine prev gps line = none) :
    pitPass config prev gps lines engine = (engine, []) := by
  induction lines with
  | nil => rfl
  | cons line rest ih =>
      rw [pitPass_cons, rejected line List.mem_cons_self]
      exact ih fun later member => rejected later (List.mem_cons_of_mem line member)

theorem lapPass_rejected {config : Config} {prev gps : GPSPoint} (idx : Nat)
    (lines : List TimingLine) {engine : Engine}
    (rejected : ∀ line ∈ lines, acceptedHit config engine prev gps line = none) :
    lapPass config prev gps idx lines engine = (engine, []) := by
  induction lines generalizing idx with
  | nil => rfl
  | cons line rest ih =>
      rw [lapPass_cons, rejected line List.mem_cons_self]
      exact ih (idx + 1) fun later member => rejected later (List.mem_cons_of_mem line member)

/-- Such a segment does nothing but move the last fix. -/
theorem processPoint_rejected {config : Config} {engine : Engine} {prev gps : GPSPoint}
    (known : engine.prev = some prev) (rejected : Rejected config engine.state prev gps) :
    processPoint config engine gps = ({ engine with prev := some gps }, []) := by
  have none_accepted : ∀ line ∈ config.pitLines ++ config.lapPoints,
      acceptedHit config { engine with prev := some gps } prev gps line = none :=
    fun line member => acceptedHit_rejected (rejected line member)
  rw [processPoint, known]
  show processSegment config { engine with prev := some gps } prev gps = _
  have pits := pitPass_rejected config.pitLines fun line member =>
    none_accepted line (List.mem_append_left _ member)
  have laps := lapPass_rejected 0 config.lapPoints fun line member =>
    none_accepted line (List.mem_append_right _ member)
  rw [processSegment, pits, laps]
  rfl

/-- With the direction gate on, in every run from every engine: accepted crossings
of one line name keep the debounce and one direction, the debounce counts from the
last accepted one alone, and a segment whose crossings are all rejected changes nothing. -/
theorem accepted_crossings_gated (config : Config) (gated : config.gateDirection = true)
    (engine : Engine) (points : List GPSPoint) :
    (runPassages config engine points).Pairwise (Apart config) ∧
      (∀ name, (processPoints config engine points).1.state.lastCrossTime name =
        (lastPassed (runPassages config engine points) name).or
          (engine.state.lastCrossTime name)) ∧
      ∀ prev gps, (processPoints config engine points).1.prev = some prev →
        Rejected config (processPoints config engine points).1.state prev gps →
        processPoint config (processPoints config engine points).1 gps =
          ({ (processPoints config engine points).1 with prev := some gps }, []) := by
  have kept := processPoints_debounced config gated engine points
  exact ⟨kept.apart, kept.times, fun prev gps known rejected => processPoint_rejected known rejected⟩

/-- One lap crosses start/finish twice, forty-six seconds apart. -/
theorem oneLap_gated :
    (runPassages (straight []) {} oneLap).length = 3 ∧
      (runPassages (straight []) {} oneLap).Pairwise (Apart (straight [])) :=
  ⟨by decide +kernel, (accepted_crossings_gated (straight []) rfl {} oneLap).1⟩

end OpenLaps.Timing

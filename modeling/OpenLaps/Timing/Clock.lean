import OpenLaps.Timing.Validity
import Mathlib.Algebra.BigOperators.Group.List.Basic
import Mathlib.Algebra.Ring.Int.Defs

/- The lap clock of the engine: what one lap point does to it, and what the splits,
lap times and lap numbers of a whole run say about the crossings. -/
namespace OpenLaps.Timing

/-- The clock right after `_start_new_lap`. -/
structure Restarted (next : TimingState) (ctime : ℚ) : Prop where
  lapStart : next.lapStartTime = ctime
  segment : next.segmentStartTime = ctime
  done : next.sectorsDone = 0

/-- The four ways through `_handle_lap_point`. -/
inductive LapPointStep (config : Config) (state : TimingState) (idx : Nat) (line : TimingLine)
    (hit : Hit) (gps : GPSPoint) (next : TimingState) (events : List TimingEvent) : Prop
  | first (idle : state.lapStartTime = 0) (clock : Restarted next hit.time)
      (number : next.lapNumber = 1) (best : next.bestLapTime = state.bestLapTime)
      (silent : events = [])
  | abandoned (running : state.lapStartTime ≠ 0) (zero : idx = 0)
      (short : state.sectorsDone = 0 ∨ hit.time - state.lapStartTime < config.minLapTimeS)
      (clock : Restarted next hit.time) (number : next.lapNumber = state.lapNumber)
      (best : next.bestLapTime = state.bestLapTime) (silent : events = [])
  | completed (running : state.lapStartTime ≠ 0) (zero : idx = 0)
      (progress : state.sectorsDone ≠ 0)
      (long : config.minLapTimeS ≤ hit.time - state.lapStartTime) (valid : Bool)
      (verdict : valid = (state.lapValid && decide (0 = state.expectedIdx) &&
        decide (state.pitStatus = .track)))
      (clock : Restarted next hit.time) (number : next.lapNumber = state.lapNumber + 1)
      (best : next.bestLapTime =
        if valid = true ∧ (state.bestLapTime = 0 ∨
          hit.time - state.lapStartTime < state.bestLapTime)
        then hit.time - state.lapStartTime else state.bestLapTime)
      (emitted : events = lapEvents config state line hit gps valid)
  | sector (running : state.lapStartTime ≠ 0) (nonzero : idx ≠ 0)
      (lapStart : next.lapStartTime = state.lapStartTime)
      (segment : next.segmentStartTime = hit.time)
      (done : next.sectorsDone = state.sectorsDone + 1)
      (number : next.lapNumber = state.lapNumber)
      (best : next.bestLapTime = state.bestLapTime)
      (emitted : events = [sectorEvent state idx line hit gps])

theorem handleLapPoint_step (config : Config) (state : TimingState) (idx : Nat)
    (line : TimingLine) (hit : Hit) (gps : GPSPoint) :
    LapPointStep config state idx line hit gps (handleLapPoint config state idx line hit gps).1
      (handleLapPoint config state idx line hit gps).2 := by
  unfold handleLapPoint
  by_cases idle : state.lapStartTime = 0
  · rw [if_pos idle]
    exact .first idle ⟨rfl, rfl, rfl⟩ rfl rfl rfl
  · rw [if_neg idle]
    by_cases zero : idx = 0
    · rw [if_pos zero]
      by_cases short : state.sectorsDone = 0 ∨ hit.time - state.lapStartTime < config.minLapTimeS
      · rw [if_pos short]
        exact .abandoned idle zero short ⟨rfl, rfl, rfl⟩ rfl rfl rfl
      · rw [if_neg short]
        rw [not_or, not_lt] at short
        subst zero
        exact .completed idle rfl short.1 short.2 _ rfl ⟨rfl, rfl, rfl⟩ rfl rfl rfl
    · rw [if_neg zero]
      exact .sector idle zero rfl rfl rfl rfl rfl rfl

/-- The same, with the events as the history records them. -/
theorem lapCrossing_step (config : Config) (state : TimingState) (idx : Nat)
    (line : TimingLine) (hit : Hit) (gps : GPSPoint) :
    LapPointStep config state idx line hit gps (handleLapPoint config state idx line hit gps).1
      (lapCrossing config idx line hit gps state).events :=
  handleLapPoint_step config state idx line hit gps

/-- Pit lines leave the clock, the lap number and the best lap alone. -/
structure SameClock (state next : TimingState) : Prop where
  lapStart : next.lapStartTime = state.lapStartTime
  segment : next.segmentStartTime = state.segmentStartTime
  done : next.sectorsDone = state.sectorsDone
  number : next.lapNumber = state.lapNumber
  best : next.bestLapTime = state.bestLapTime

theorem handlePit_clock (state : TimingState) (line : TimingLine) (hit : Hit) (gps : GPSPoint) :
    SameClock state (handlePit state line hit gps).1 := by
  unfold handlePit
  dsimp only
  split <;> exact ⟨rfl, rfl, rfl, rfl, rfl⟩

/-- The events of one type among those some crossings produced. -/
def eventsOf (type : EventType) (crossings : List Crossing) : List TimingEvent :=
  (crossings.flatMap Crossing.events).filter fun event => event.type = type

def sectorsOf (crossings : List Crossing) : List TimingEvent :=
  eventsOf .sectorCompleted crossings

def lapsOf (crossings : List Crossing) : List TimingEvent := eventsOf .lapCompleted crossings

theorem eventsOf_append (type : EventType) (first second : List Crossing) :
    eventsOf type (first ++ second) = eventsOf type first ++ eventsOf type second := by
  rw [eventsOf, List.flatMap_append, List.filter_append]
  rfl

@[simp] theorem sectorsOf_nil : sectorsOf [] = [] := rfl

@[simp] theorem lapsOf_nil : lapsOf [] = [] := rfl

theorem sectorsOf_append (first second : List Crossing) :
    sectorsOf (first ++ second) = sectorsOf first ++ sectorsOf second :=
  eventsOf_append .sectorCompleted first second

theorem lapsOf_append (first second : List Crossing) :
    lapsOf (first ++ second) = lapsOf first ++ lapsOf second :=
  eventsOf_append .lapCompleted first second

theorem mem_eventsOf {type : EventType} {crossings : List Crossing} {event : TimingEvent} :
    event ∈ eventsOf type crossings ↔
      (∃ crossing ∈ crossings, event ∈ crossing.events) ∧ event.type = type := by
  simp [eventsOf, List.mem_filter, List.mem_flatMap]

theorem eventsOf_silent (type : EventType) {crossing : Crossing} (silent : crossing.events = []) :
    eventsOf type [crossing] = [] := by
  simp [eventsOf, silent]

theorem sectorsOf_pit (line : TimingLine) (hit : Hit) (gps : GPSPoint) (accepted : TimingState) :
    sectorsOf [pitCrossing line hit gps accepted] = [] := by
  by_cases entry : line.lineType = .pitEntry <;>
    simp [sectorsOf, eventsOf, pitCrossing, handlePit, entry]

theorem lapsOf_pit (line : TimingLine) (hit : Hit) (gps : GPSPoint) (accepted : TimingState) :
    lapsOf [pitCrossing line hit gps accepted] = [] := by
  by_cases entry : line.lineType = .pitEntry <;>
    simp [lapsOf, eventsOf, pitCrossing, handlePit, entry]

/-- The lap in progress as its crossings tell it: the clock started with `start`, and the
splits since then lead from one sector crossing to the next. -/
structure Running (state : TimingState) (start : Crossing) (between : List Crossing) : Prop where
  lapStart : state.lapStartTime = start.time
  segment : state.segmentStartTime =
    start.time + ((sectorsOf between).map TimingEvent.splitTime).sum
  nonneg : ∀ event ∈ sectorsOf between, 0 ≤ event.splitTime
  ordered : (start.time :: (sectorsOf between).map TimingEvent.time).Pairwise (· ≤ ·)
  reached : ∀ event ∈ sectorsOf between, event.time ≤ state.segmentStartTime
  number : ∀ event ∈ sectorsOf between, event.lapNumber = state.lapNumber
  sectors : (sectorsOf between).map TimingEvent.sector = lapIndices between
  done : state.sectorsDone = (sectorsOf between).length

/-- No lap point was accepted yet, or the clock describes the lap in progress. -/
def Clocked (history : List Crossing) (state : TimingState) : Prop :=
  (state.lapStartTime = 0 ∧ state.segmentStartTime = 0 ∧ lapsOf history = [] ∧
      sectorsOf history = []) ∨
    0 < state.lapStartTime ∧ ∃ earlier start between,
      LapSoFar history earlier start between ∧ Running state start between

theorem Running.lapStart_le {state : TimingState} {start : Crossing} {between : List Crossing}
    (running : Running state start between) : state.lapStartTime ≤ state.segmentStartTime := by
  have splits : 0 ≤ ((sectorsOf between).map TimingEvent.splitTime).sum := by
    apply List.sum_nonneg
    intro split member
    obtain ⟨event, among, same⟩ := List.mem_map.mp member
    rw [← same]
    exact running.nonneg event among
  rw [running.lapStart, running.segment]
  linarith

theorem Running.restart {next : TimingState} {start : Crossing}
    (clock : Restarted next start.time) : Running next start [] := by
  constructor
  · exact clock.lapStart
  · simpa using clock.segment
  · simp
  · simp
  · simp
  · simp
  · rfl
  · exact clock.done

/-- A crossing that emits no sector leaves the lap in progress as it is. -/
theorem Running.append_quiet {state next : TimingState} {start crossing : Crossing}
    {between : List Crossing} (running : Running state start between)
    (same : SameClock state next) (quiet : sectorsOf [crossing] = [])
    (pit : ∀ idx, crossing.role ≠ .lapPoint idx) : Running next start (between ++ [crossing]) := by
  have sectors : sectorsOf (between ++ [crossing]) = sectorsOf between := by
    rw [sectorsOf_append, quiet, List.append_nil]
  have indices : lapIndices (between ++ [crossing]) = lapIndices between := by
    rw [lapIndices_append, lapIndices_pit pit, List.append_nil]
  constructor
  · rw [same.lapStart, running.lapStart]
  · rw [same.segment, sectors, running.segment]
  · rw [sectors]
    exact running.nonneg
  · rw [sectors]
    exact running.ordered
  · rw [sectors, same.segment]
    exact running.reached
  · rw [sectors, same.number]
    exact running.number
  · rw [sectors, indices, running.sectors]
  · rw [sectors, same.done, running.done]

/-- The split that a further lap point adds to the lap in progress. -/
structure NextSplit (state : TimingState) (event : TimingEvent) : Prop where
  split : event.splitTime = event.time - state.segmentStartTime
  later : state.segmentStartTime ≤ event.time
  number : event.lapNumber = state.lapNumber

/-- The sum of the splits telescopes. -/
theorem Running.sum_next {state : TimingState} {start : Crossing} {between : List Crossing}
    {event : TimingEvent} (running : Running state start between) (next : NextSplit state event) :
    ((sectorsOf between ++ [event]).map TimingEvent.splitTime).sum = event.time - start.time := by
  have segment := running.segment
  have split := next.split
  rw [List.map_append, List.sum_append, List.map_singleton, List.sum_singleton]
  linarith

theorem Running.nonneg_next {state : TimingState} {start : Crossing} {between : List Crossing}
    {event : TimingEvent} (running : Running state start between) (next : NextSplit state event) :
    ∀ other ∈ sectorsOf between ++ [event], 0 ≤ other.splitTime := by
  intro other member
  rcases List.mem_append.mp member with old | fresh
  · exact running.nonneg other old
  · rw [List.mem_singleton.mp fresh, next.split]
    exact sub_nonneg.mpr next.later

theorem Running.ordered_next {state : TimingState} {start : Crossing} {between : List Crossing}
    {event : TimingEvent} (running : Running state start between) (next : NextSplit state event) :
    (start.time :: (sectorsOf between ++ [event]).map TimingEvent.time).Pairwise (· ≤ ·) := by
  rw [List.map_append, List.map_singleton, ← List.cons_append, List.pairwise_append]
  refine ⟨running.ordered, List.pairwise_singleton _ _, ?_⟩
  intro earlier member latest same
  rw [List.mem_singleton.mp same]
  rcases List.mem_cons.mp member with first | sector
  · rw [first, ← running.lapStart]
    exact running.lapStart_le.trans next.later
  · obtain ⟨other, among, time⟩ := List.mem_map.mp sector
    rw [← time]
    exact (running.reached other among).trans next.later

theorem Running.number_next {state : TimingState} {start : Crossing} {between : List Crossing}
    {event : TimingEvent} (running : Running state start between) (next : NextSplit state event) :
    ∀ other ∈ sectorsOf between ++ [event], other.lapNumber = state.lapNumber := by
  intro other member
  rcases List.mem_append.mp member with old | fresh
  · exact running.number other old
  · rw [List.mem_singleton.mp fresh]
    exact next.number

theorem sectorEvent_next {state : TimingState} {idx : Nat} {line : TimingLine} {hit : Hit}
    {gps : GPSPoint} (later : state.segmentStartTime ≤ hit.time) :
    NextSplit state (sectorEvent state idx line hit gps) :=
  ⟨rfl, later, rfl⟩

/-- A sector crossing adds its split to the lap in progress. -/
theorem Running.append_sector {state next : TimingState} {start crossing : Crossing}
    {between : List Crossing} {idx : Nat} {event : TimingEvent}
    (running : Running state start between) (split : NextSplit state event)
    (role : crossing.role = .lapPoint idx) (sector : event.sector = idx)
    (emitted : sectorsOf [crossing] = [event])
    (lapStart : next.lapStartTime = state.lapStartTime)
    (segment : next.segmentStartTime = event.time)
    (done : next.sectorsDone = state.sectorsDone + 1)
    (number : next.lapNumber = state.lapNumber) : Running next start (between ++ [crossing]) := by
  have sectors : sectorsOf (between ++ [crossing]) = sectorsOf between ++ [event] := by
    rw [sectorsOf_append, emitted]
  constructor
  · rw [lapStart, running.lapStart]
  · rw [sectors, running.sum_next split, segment]
    linarith
  · rw [sectors]
    exact running.nonneg_next split
  · rw [sectors]
    exact running.ordered_next split
  · rw [sectors, segment]
    intro other member
    rcases List.mem_append.mp member with old | fresh
    · exact (running.reached other old).trans split.later
    · rw [List.mem_singleton.mp fresh]
  · rw [sectors, number]
    exact running.number_next split
  · rw [sectors, List.map_append, running.sectors, lapIndices_append, lapIndices_lap role,
      List.map_singleton, sector]
  · rw [sectors, done, running.done, List.length_append, List.length_singleton]

theorem accept_clock {config : Config} {state next : TimingState} {line : TimingLine} {hit : Hit}
    (accepted : accept config state line hit = some next) : SameClock state next := by
  obtain ⟨times, directions, rfl⟩ := accept_frame accepted
  exact ⟨rfl, rfl, rfl, rfl, rfl⟩

theorem SameClock.trans {first second third : TimingState} (before : SameClock first second)
    (after : SameClock second third) : SameClock first third :=
  ⟨after.lapStart.trans before.lapStart, after.segment.trans before.segment,
    after.done.trans before.done, after.number.trans before.number,
    after.best.trans before.best⟩

theorem pitCrossing_role (line : TimingLine) (hit : Hit) (gps : GPSPoint) (accepted : TimingState)
    (idx : Nat) : (pitCrossing line hit gps accepted).role ≠ .lapPoint idx := by
  unfold pitCrossing
  dsimp only
  split <;> exact Role.noConfusion

/-- The fixes so far reach up to this time, 0 before the first one. -/
def Engine.now (engine : Engine) : ℚ := engine.prev.elim 0 GPSPoint.timestamp

/-- What a lap point accepted on a forward stream may rely on. -/
structure Arrival (config : Config) (history : List Crossing) (state : TimingState) (idx : Nat)
    (line : TimingLine) (hit : Hit) (gps : GPSPoint) (accepted : TimingState) : Prop where
  clocked : Clocked history state
  inside : idx < config.nPoints
  positive : 0 < hit.time
  later : state.segmentStartTime ≤ hit.time
  reached : hit.time ≤ gps.timestamp
  passed : accept config state line hit = some accepted

theorem crossPit_clocked {engine : Engine} {line : TimingLine} {hit : Hit} {gps : GPSPoint}
    {accepted : TimingState} (clocked : Clocked engine.history engine.state)
    (same : SameClock engine.state accepted) :
    Clocked (crossPit engine line hit gps accepted).1.history
      (crossPit engine line hit gps accepted).1.state := by
  have clock : SameClock engine.state (handlePit accepted line hit gps).1 :=
    same.trans (handlePit_clock accepted line hit gps)
  have sectors := sectorsOf_pit line hit gps accepted
  have laps := lapsOf_pit line hit gps accepted
  change Clocked (engine.history ++ [_]) (handlePit accepted line hit gps).1
  rcases clocked with ⟨idle, segment, noLap, noSector⟩ |
    ⟨positive, earlier, start, between, lap, running⟩
  · left
    rw [clock.lapStart, clock.segment, lapsOf_append, sectorsOf_append, laps, sectors, noLap,
      noSector]
    exact ⟨idle, segment, rfl, rfl⟩
  · right
    rw [clock.lapStart]
    exact ⟨positive, earlier, start, between ++ [_], lap.append _ rfl,
      running.append_quiet clock sectors (pitCrossing_role line hit gps accepted)⟩

theorem Clocked.restart {history : List Crossing} {next : TimingState} {crossing : Crossing}
    (starts : crossing.startsLap = true) (clock : Restarted next crossing.time)
    (positive : 0 < crossing.time) : Clocked (history ++ [crossing]) next := by
  right
  rw [clock.lapStart]
  exact ⟨positive, history, crossing, [], LapSoFar.restart history crossing starts,
    Running.restart clock⟩

/-- A clock that runs describes the lap in progress. -/
theorem Clocked.running {history : List Crossing} {state : TimingState}
    (clocked : Clocked history state) (running : state.lapStartTime ≠ 0) :
    0 < state.lapStartTime ∧ ∃ earlier start between,
      LapSoFar history earlier start between ∧ Running state start between := by
  rcases clocked with ⟨idle, _⟩ | lap
  · exact absurd idle running
  · exact lap

theorem Running.of_same {state next : TimingState} {start : Crossing} {between : List Crossing}
    (running : Running state start between) (same : SameClock state next) :
    Running next start between := by
  constructor
  · rw [same.lapStart, running.lapStart]
  · rw [same.segment, running.segment]
  · exact running.nonneg
  · exact running.ordered
  · rw [same.segment]
    exact running.reached
  · rw [same.number]
    exact running.number
  · exact running.sectors
  · rw [same.done, running.done]

/-- Acceptance does not touch the clock. -/
theorem Arrival.accepted_clocked {config : Config} {history : List Crossing} {state : TimingState}
    {idx : Nat} {line : TimingLine} {hit : Hit} {gps : GPSPoint} {accepted : TimingState}
    (arrival : Arrival config history state idx line hit gps accepted) : Clocked history accepted := by
  have same := accept_clock arrival.passed
  rcases arrival.clocked with ⟨idle, segment, quiet⟩ |
    ⟨positive, earlier, start, between, lap, running⟩
  · left
    rw [same.lapStart, same.segment]
    exact ⟨idle, segment, quiet⟩
  · right
    rw [same.lapStart]
    exact ⟨positive, earlier, start, between, lap, running.of_same same⟩

theorem Arrival.accepted_later {config : Config} {history : List Crossing} {state : TimingState}
    {idx : Nat} {line : TimingLine} {hit : Hit} {gps : GPSPoint} {accepted : TimingState}
    (arrival : Arrival config history state idx line hit gps accepted) :
    accepted.segmentStartTime ≤ hit.time := by
  rw [(accept_clock arrival.passed).segment]
  exact arrival.later

theorem sectorsOf_sector {crossing : Crossing} {state : TimingState} {idx : Nat}
    {line : TimingLine} {hit : Hit} {gps : GPSPoint}
    (emitted : crossing.events = [sectorEvent state idx line hit gps]) :
    sectorsOf [crossing] = [sectorEvent state idx line hit gps] := by
  simp [sectorsOf, eventsOf, emitted, sectorEvent]

theorem crossLapPoint_clocked {config : Config} {engine : Engine} {gps : GPSPoint} {idx : Nat}
    {line : TimingLine} {hit : Hit} {accepted : TimingState}
    (arrival : Arrival config engine.history engine.state idx line hit gps accepted) :
    Clocked (crossLapPoint config engine idx line hit gps accepted).1.history
      (crossLapPoint config engine idx line hit gps accepted).1.state := by
  change Clocked (engine.history ++ [lapCrossing config idx line hit gps accepted])
    (handleLapPoint config accepted idx line hit gps).1
  cases lapCrossing_step config accepted idx line hit gps with
  | first idle clock _ _ _ =>
      exact Clocked.restart (by simp [lapCrossing, startsLap, idle]) clock arrival.positive
  | abandoned running zero _ clock _ _ _ =>
      exact Clocked.restart (by simp [lapCrossing, startsLap, zero]) clock arrival.positive
  | completed running zero _ _ _ _ clock _ _ _ =>
      exact Clocked.restart (by simp [lapCrossing, startsLap, zero]) clock arrival.positive
  | sector running nonzero lapStart segment done number _ emitted =>
      right
      obtain ⟨positive, earlier, start, between, lap, timed⟩ :=
        arrival.accepted_clocked.running running
      have continues : (lapCrossing config idx line hit gps accepted).startsLap = false := by
        simp [lapCrossing, startsLap, running, nonzero]
      rw [lapStart]
      exact ⟨positive, earlier, start, between ++ [_], lap.append _ continues,
        timed.append_sector (sectorEvent_next arrival.accepted_later) rfl rfl
          (sectorsOf_sector emitted) lapStart segment done number⟩

/-- A lap point never moves the segment clock past its own crossing. -/
theorem handleLapPoint_segment (config : Config) (state : TimingState) (idx : Nat)
    (line : TimingLine) (hit : Hit) (gps : GPSPoint) :
    (handleLapPoint config state idx line hit gps).1.segmentStartTime = hit.time := by
  cases handleLapPoint_step config state idx line hit gps with
  | first _ clock _ _ _ => exact clock.segment
  | abandoned _ _ _ clock _ _ _ => exact clock.segment
  | completed _ _ _ _ _ _ clock _ _ _ => exact clock.segment
  | sector _ _ _ segment _ _ _ _ => exact segment

/-- An invariant of history and state, one obligation for each kind of crossing. -/
structure Stable (config : Config) (allowed : Engine → GPSPoint → Prop)
    (holds : List Crossing → TimingState → Prop) : Prop where
  pit : ∀ history state line hit gps accepted, Clocked history state → holds history state →
    accept config state line hit = some accepted →
    holds (history ++ [pitCrossing line hit gps accepted]) (handlePit accepted line hit gps).1
  lap : ∀ history state idx line hit gps accepted,
    Arrival config history state idx line hit gps accepted → holds history state →
    (∃ engine, allowed engine gps ∧ lapHit config engine gps = some (idx, line, hit, accepted)) →
    holds (history ++ [lapCrossing config idx line hit gps accepted])
      (handleLapPoint config accepted idx line hit gps).1

/-- The clock and a stable invariant, with the last fix and the time reached. -/
structure Upheld (holds : List Crossing → TimingState → Prop) (last : Option GPSPoint)
    (bound : ℚ) (engine : Engine) : Prop where
  clocked : Clocked engine.history engine.state
  kept : holds engine.history engine.state
  reached : engine.state.segmentStartTime ≤ bound
  prev : engine.prev = last

theorem processPoint_upheld {config : Config} {allowed : Engine → GPSPoint → Prop}
    {holds : List Crossing → TimingState → Prop} (stable : Stable config allowed holds)
    (engine : Engine) (gps : GPSPoint) (upheld : Upheld holds engine.prev engine.now engine)
    (ok : allowed engine gps) (old : ∀ prev, engine.prev = some prev → 0 < prev.timestamp)
    (positive : 0 < gps.timestamp)
    (forward : ∀ prev, engine.prev = some prev → prev.timestamp ≤ gps.timestamp) :
    Upheld holds (some gps) gps.timestamp (processPoint config engine gps).1 := by
  have reached : engine.now ≤ gps.timestamp := by
    unfold Engine.now
    cases known : engine.prev with
    | none => exact le_of_lt positive
    | some prev => exact forward prev known
  apply processPoint_passes (Upheld holds (some gps) engine.now)
  · exact ⟨upheld.clocked, upheld.kept, upheld.reached, rfl⟩
  · intro prev known current line hit accepted before taken
    have same := accept_clock taken.passed
    have kept := stable.pit _ _ line hit gps accepted before.clocked before.kept taken.passed
    refine ⟨crossPit_clocked before.clocked same, kept, ?_, before.prev⟩
    change (handlePit accepted line hit gps).1.segmentStartTime ≤ _
    rw [(same.trans (handlePit_clock accepted line hit gps)).segment]
    exact before.reached
  · intro prev known current idx line hit accepted before inside taken found
    have time := crossing_time taken.crossed (forward prev known)
    have now : engine.now = prev.timestamp := by
      rw [Engine.now, known]
      rfl
    have arrival : Arrival config current.history current.state idx line hit gps accepted := by
      refine ⟨before.clocked, inside, lt_of_lt_of_le (old prev known) time.1, ?_, time.2,
        taken.passed⟩
      exact before.reached.trans (now.trans_le time.1)
    have kept := stable.lap _ _ idx line hit gps accepted arrival before.kept ⟨engine, ok, found⟩
    refine ⟨crossLapPoint_clocked arrival, kept, ?_, before.prev⟩
    change (handleLapPoint config accepted idx line hit gps).1.segmentStartTime ≤ _
    rw [handleLapPoint_segment]
    exact time.2
  · intro current before
    exact ⟨before.clocked, before.kept, before.reached.trans reached, before.prev⟩

/-- A stable invariant holds after every forward stream whose points are all `allowed`. -/
theorem Stable.throughout {config : Config} {allowed : Engine → GPSPoint → Prop}
    {holds : List Crossing → TimingState → Prop} (stable : Stable config allowed holds)
    (start : holds [] {}) (points : List GPSPoint) (forward : Forward points)
    (throughout : Throughout config allowed {} points) :
    holds (processPoints config {} points).1.history (processPoints config {} points).1.state := by
  have reachable := processPoints_invariant_throughout
    (fun engine => Upheld holds engine.prev engine.now engine ∧
      ∀ prev, engine.prev = some prev → 0 < prev.timestamp)
    (fun engine gps before ok positive ordered => by
      have after := processPoint_upheld stable engine gps before.1 ok before.2 positive ordered
      have now : (processPoint config engine gps).1.now = gps.timestamp := by
        rw [Engine.now, after.prev]
        rfl
      rw [now, after.prev]
      refine ⟨after, ?_⟩
      intro prev known
      cases known
      exact positive)
    points {} ⟨⟨Or.inl ⟨rfl, rfl, rfl, rfl⟩, start, le_refl _, rfl⟩, ?_⟩ forward ?_ throughout
  · exact reachable.1.kept
  · intro prev known
    cases known
  · intro prev known
    cases known

/-- A stable invariant holds after every forward stream. -/
theorem Stable.always {config : Config} {holds : List Crossing → TimingState → Prop}
    (stable : Stable config (fun _ _ => True) holds) (start : holds [] {})
    (points : List GPSPoint) (forward : Forward points) :
    holds (processPoints config {} points).1.history (processPoints config {} points).1.state :=
  stable.throughout start points forward (throughout_true config {} points)

/-- A property of every lap completed in the history, given the crossings before it. -/
def AtLaps (property : List Crossing → Crossing → TimingEvent → Prop)
    (history : List Crossing) : Prop :=
  ∀ before finish, before ++ [finish] <+: history → ∀ event ∈ finish.events,
    event.type = .lapCompleted → property before finish event

theorem AtLaps.append {property : List Crossing → Crossing → TimingEvent → Prop}
    {history : List Crossing} {crossing : Crossing} (laps : AtLaps property history)
    (fresh : ∀ event ∈ crossing.events, event.type = .lapCompleted →
      property history crossing event) : AtLaps property (history ++ [crossing]) := by
  intro before finish front
  rcases List.prefix_concat_iff.mp front with whole | old
  · obtain ⟨rfl, same⟩ := List.append_inj' whole rfl
    cases same
    exact fresh
  · exact laps before finish old

theorem AtLaps.nil (property : List Crossing → Crossing → TimingEvent → Prop) :
    AtLaps property [] := by
  intro before finish front
  simp at front

/-- What a completed lap reports. -/
structure LapReport (state : TimingState) (hit : Hit) (valid : Bool) (event : TimingEvent) :
    Prop where
  time : event.time = hit.time
  lapTime : event.lapTime = hit.time - state.lapStartTime
  number : event.lapNumber = state.lapNumber
  valid : event.valid = valid

theorem lapEvents_report {config : Config} {state : TimingState} {line : TimingLine} {hit : Hit}
    {gps : GPSPoint} {valid : Bool} {event : TimingEvent}
    (member : event ∈ lapEvents config state line hit gps valid)
    (completed : event.type = .lapCompleted) : LapReport state hit valid event := by
  simp only [lapEvents, List.mem_cons, List.not_mem_nil, or_false] at member
  rcases member with rfl | rfl
  · cases completed
  · exact ⟨rfl, rfl, rfl, rfl⟩

/-- The sector that ends a completed lap. -/
structure LastSplit (config : Config) (state : TimingState) (hit : Hit) (event : TimingEvent) :
    Prop where
  next : NextSplit state event
  time : event.time = hit.time
  sector : event.sector = config.nPoints

theorem sectorsOf_lap {config : Config} {state : TimingState} {line : TimingLine} {hit : Hit}
    {gps : GPSPoint} {valid : Bool} {crossing : Crossing}
    (later : state.segmentStartTime ≤ hit.time)
    (emitted : crossing.events = lapEvents config state line hit gps valid) :
    ∃ event, sectorsOf [crossing] = [event] ∧ LastSplit config state hit event := by
  simp only [sectorsOf, eventsOf, List.flatMap_singleton, emitted, lapEvents]
  exact ⟨_, rfl, ⟨⟨rfl, later, rfl⟩, rfl, rfl⟩⟩

/-- A lap point that reports a lap took the branch that completes it. -/
theorem completed_of_event {config : Config} {state : TimingState} {idx : Nat} {line : TimingLine}
    {hit : Hit} {gps : GPSPoint} {event : TimingEvent}
    (member : event ∈ (lapCrossing config idx line hit gps state).events)
    (completed : event.type = .lapCompleted) :
    state.lapStartTime ≠ 0 ∧ config.minLapTimeS ≤ hit.time - state.lapStartTime ∧
      ∃ valid, LapReport state hit valid event ∧
        (lapCrossing config idx line hit gps state).events =
          lapEvents config state line hit gps valid := by
  cases lapCrossing_step config state idx line hit gps with
  | first _ _ _ _ silent =>
      rw [silent] at member
      exact absurd member List.not_mem_nil
  | abandoned _ _ _ _ _ _ silent =>
      rw [silent] at member
      exact absurd member List.not_mem_nil
  | completed running _ _ long valid _ _ _ _ emitted =>
      rw [emitted] at member
      exact ⟨running, long, valid, lapEvents_report member completed, emitted⟩
  | sector _ _ _ _ _ _ _ emitted =>
      rw [emitted, List.mem_singleton] at member
      rw [member] at completed
      cases completed

theorem pitCrossing_no_lap {line : TimingLine} {hit : Hit} {gps : GPSPoint}
    {accepted : TimingState} {event : TimingEvent}
    (member : event ∈ (pitCrossing line hit gps accepted).events)
    (completed : event.type = .lapCompleted) : False := by
  have none := lapsOf_pit line hit gps accepted
  have listed : event ∈ lapsOf [pitCrossing line hit gps accepted] := by
    simp [lapsOf, eventsOf, member, completed]
  rw [none] at listed
  exact List.not_mem_nil listed

/-- One point as the clock sees it: pit lines do not touch it, and at most one lap
point is handled after them. -/
inductive PointStep (config : Config) (engine : Engine) (gps : GPSPoint) (next : TimingState)
    (events : List TimingEvent) : Prop
  | quiet (missed : lapHit config engine gps = none) (same : SameClock engine.state next)
      (noLap : ∀ event ∈ events, event.type ≠ .lapCompleted)
  | crossed (prev : GPSPoint) (idx : Nat) (line : TimingLine) (hit : Hit) (accepted : TimingState)
      (pits : List TimingEvent) (known : engine.prev = some prev)
      (found : lapHit config engine gps = some (idx, line, hit, accepted))
      (met : crossing config.projection prev gps line = some hit)
      (same : SameClock engine.state accepted)
      (noLap : ∀ event ∈ pits, event.type ≠ .lapCompleted)
      (state : next = (handleLapPoint config accepted idx line hit gps).1)
      (emitted : events = pits ++ (handleLapPoint config accepted idx line hit gps).2)

theorem afterPits_clock (config : Config) (engine : Engine) (prev gps : GPSPoint) :
    SameClock engine.state (afterPits config engine prev gps).state := by
  apply pitPass_invariant (fun current => SameClock engine.state current.state)
  · intro current line hit accepted same taken
    exact (same.trans (accept_clock taken.passed)).trans (handlePit_clock accepted line hit gps)
  · exact ⟨rfl, rfl, rfl, rfl, rfl⟩

theorem pitPass_no_lap (config : Config) (prev gps : GPSPoint) (lines : List TimingLine)
    (engine : Engine) :
    ∀ event ∈ (pitPass config prev gps lines engine).2, event.type ≠ .lapCompleted := by
  induction lines generalizing engine with
  | nil => exact fun event member => absurd member List.not_mem_nil
  | cons line rest ih =>
      rw [pitPass_cons]
      split
      · exact ih engine
      · rename_i hit accepted found
        intro event member
        rcases List.mem_append.mp member with here | later
        · exact fun completed => pitCrossing_no_lap here completed
        · exact ih _ event later

theorem processPoint_step (config : Config) (engine : Engine) (gps : GPSPoint) :
    PointStep config engine gps (processPoint config engine gps).1.state
      (processPoint config engine gps).2 := by
  unfold processPoint
  cases known : engine.prev with
  | none =>
      refine .quiet ?_ ⟨rfl, rfl, rfl, rfl, rfl⟩ fun event member => absurd member List.not_mem_nil
      rw [lapHit, known]
      rfl
  | some prev =>
      have noLap := pitPass_no_lap config prev gps config.pitLines { engine with prev := some gps }
      have clock := afterPits_clock config engine prev gps
      rcases lapPass_cases config prev gps 0 config.lapPoints (afterPits config engine prev gps)
        with ⟨missed, none_crossed⟩ | ⟨idx, line, hit, accepted, inside, taken, found, same⟩
      · refine .quiet ?_ ?_ ?_
        · rw [lapHit, known]
          exact missed
        · change SameClock _ (lapPass config prev gps 0 config.lapPoints
            (afterPits config engine prev gps)).1.state
          rw [none_crossed]
          exact clock
        · change ∀ event ∈ _ ++ (lapPass config prev gps 0 config.lapPoints
            (afterPits config engine prev gps)).2, _
          rw [none_crossed, List.append_nil]
          exact noLap
      · rw [Nat.zero_add] at found same
        refine .crossed prev idx line hit accepted _ known ?_ taken.crossed
          (clock.trans (accept_clock taken.passed)) noLap ?_ ?_
        · rw [lapHit, known]
          exact found
        · change (lapPass config prev gps 0 config.lapPoints
            (afterPits config engine prev gps)).1.state = _
          rw [same]
          rfl
        · change _ ++ (lapPass config prev gps 0 config.lapPoints
            (afterPits config engine prev gps)).2 = _
          rw [same]
          rfl

/-- The splits since the clock last started sum to the lap time. -/
def SplitsSum (before : List Crossing) (finish : Crossing) (event : TimingEvent) : Prop :=
  ∃ earlier start between, LapSoFar before earlier start between ∧
    ((sectorsOf (between ++ [finish])).map TimingEvent.splitTime).sum = event.lapTime

theorem Arrival.splitsSum {config : Config} {history : List Crossing} {state : TimingState}
    {idx : Nat} {line : TimingLine} {hit : Hit} {gps : GPSPoint} {accepted : TimingState}
    (arrival : Arrival config history state idx line hit gps accepted) {event : TimingEvent}
    (member : event ∈ (lapCrossing config idx line hit gps accepted).events)
    (completed : event.type = .lapCompleted) :
    SplitsSum history (lapCrossing config idx line hit gps accepted) event := by
  obtain ⟨running, _, valid, report, emitted⟩ := completed_of_event member completed
  obtain ⟨_, earlier, start, between, lap, timed⟩ := arrival.accepted_clocked.running running
  obtain ⟨last, only, split⟩ := sectorsOf_lap arrival.accepted_later emitted
  refine ⟨earlier, start, between, lap, ?_⟩
  rw [sectorsOf_append, only, timed.sum_next split.next, split.time, report.lapTime,
    timed.lapStart]

/-- Every sector event of a lap point measures its split from the last one. -/
theorem Arrival.splits_nonneg {config : Config} {history : List Crossing} {state : TimingState}
    {idx : Nat} {line : TimingLine} {hit : Hit} {gps : GPSPoint} {accepted : TimingState}
    (arrival : Arrival config history state idx line hit gps accepted) :
    ∀ event ∈ sectorsOf [lapCrossing config idx line hit gps accepted], 0 ≤ event.splitTime := by
  intro event member
  have later := arrival.accepted_later
  cases lapCrossing_step config accepted idx line hit gps with
  | first _ _ _ _ silent =>
      rw [sectorsOf, eventsOf_silent _ silent] at member
      exact absurd member List.not_mem_nil
  | abandoned _ _ _ _ _ _ silent =>
      rw [sectorsOf, eventsOf_silent _ silent] at member
      exact absurd member List.not_mem_nil
  | completed _ _ _ _ valid _ _ _ _ emitted =>
      obtain ⟨last, only, split⟩ := sectorsOf_lap later emitted
      rw [only, List.mem_singleton] at member
      rw [member, split.next.split]
      exact sub_nonneg.mpr split.next.later
  | sector _ _ _ _ _ _ _ emitted =>
      rw [sectorsOf_sector emitted, List.mem_singleton] at member
      rw [member]
      exact sub_nonneg.mpr later

/-- The telescoping law as an invariant of the history. -/
structure Telescopes (history : List Crossing) : Prop where
  sums : AtLaps SplitsSum history
  nonneg : ∀ event ∈ sectorsOf history, 0 ≤ event.splitTime

theorem telescopes_stable (config : Config) :
    Stable config (fun _ _ => True) fun history _ => Telescopes history := by
  constructor
  · intro history state line hit gps accepted clocked telescopes passed
    constructor
    · exact telescopes.sums.append fun event member completed =>
        (pitCrossing_no_lap member completed).elim
    · rw [sectorsOf_append, sectorsOf_pit, List.append_nil]
      exact telescopes.nonneg
  · intro history state idx line hit gps accepted arrival telescopes _
    constructor
    · exact telescopes.sums.append fun event member completed => arrival.splitsSum member completed
    · rw [sectorsOf_append]
      intro event member
      rcases List.mem_append.mp member with old | fresh
      · exact telescopes.nonneg event old
      · exact arrival.splits_nonneg event fresh

/-- For every track and every forward stream on a fresh engine: at every completed
lap the splits emitted since the crossing that last started or restarted the lap
clock sum to the lap time, and no split is negative. -/
theorem splits_telescope (config : Config) (points : List GPSPoint) (forward : Forward points) :
    (processPoints config {} points).2 =
        (processPoints config {} points).1.history.flatMap Crossing.events ∧
      (∀ before finish, before ++ [finish] <+: (processPoints config {} points).1.history →
        ∀ event ∈ finish.events, event.type = .lapCompleted → ∃ earlier start between,
          LapSoFar before earlier start between ∧
            ((sectorsOf (between ++ [finish])).map TimingEvent.splitTime).sum = event.lapTime) ∧
      ∀ event ∈ (processPoints config {} points).2, event.type = .sectorCompleted →
        0 ≤ event.splitTime := by
  have events := processPoints_history config points
  have telescopes := (telescopes_stable config).always
    ⟨AtLaps.nil _, fun _ member => absurd member List.not_mem_nil⟩ points forward
  refine ⟨events, telescopes.sums, ?_⟩
  intro event member sector
  apply telescopes.nonneg
  rw [events] at member
  simpa [sectorsOf, eventsOf, sector] using member

theorem splits_telescope_oneLap :
    (∃ event ∈ (processPoints (straight []) {} oneLap).2, event.type = .lapCompleted) ∧
      ∀ event ∈ (processPoints (straight []) {} oneLap).2, event.type = .sectorCompleted →
        0 ≤ event.splitTime :=
  ⟨by decide +kernel, (splits_telescope (straight []) oneLap oneLap_forward).2.2⟩

end OpenLaps.Timing

import OpenLaps.Timing.Clock

/- The laps of a run as a book: numbered without gap, long enough, disjoint in
time, with the best valid one on the first page. -/
namespace OpenLaps.Timing

/-- The lap times of the valid laps. -/
def validTimes (laps : List TimingEvent) : List ℚ :=
  (laps.filter fun event => event.valid).map TimingEvent.lapTime

/-- The least lap time of the valid laps, 0 if there is none. -/
def bestOf (laps : List TimingEvent) : ℚ := (validTimes laps).min?.getD 0

theorem min?_concat (times : List ℚ) (last : ℚ) :
    (times ++ [last]).min? = some ((times.min?).elim last fun least => min least last) := by
  cases times with
  | nil => rfl
  | cons first rest =>
      rw [List.cons_append, List.min?_cons', List.min?_cons', List.foldl_append]
      rfl

/-- The update of `best_lap_time`: its sentinel 0 is never the time of a lap. -/
theorem least_concat {times : List ℚ} (positive : ∀ time ∈ times, 0 < time) (last : ℚ) :
    (times ++ [last]).min?.getD 0 =
      if times.min?.getD 0 = 0 ∨ last < times.min?.getD 0 then last else times.min?.getD 0 := by
  rw [min?_concat, Option.getD_some]
  cases found : times.min? with
  | none => simp
  | some least =>
      have nonzero : least ≠ 0 := ne_of_gt (positive least (List.min?_mem found))
      simp only [Option.elim_some, Option.getD_some, nonzero, false_or]
      by_cases faster : last < least
      · rw [if_pos faster, min_eq_right (le_of_lt faster)]
      · rw [if_neg faster, min_eq_left (not_lt.mp faster)]

theorem bestOf_append {laps : List TimingEvent} (positive : ∀ event ∈ laps, 0 < event.lapTime)
    (last : TimingEvent) :
    bestOf (laps ++ [last]) =
      if last.valid = true ∧ (bestOf laps = 0 ∨ last.lapTime < bestOf laps) then last.lapTime
      else bestOf laps := by
  have times : ∀ time ∈ validTimes laps, 0 < time := by
    intro time member
    obtain ⟨event, among, same⟩ := List.mem_map.mp member
    rw [← same]
    exact positive event (List.mem_of_mem_filter among)
  by_cases valid : last.valid = true
  · have grown : validTimes (laps ++ [last]) = validTimes laps ++ [last.lapTime] := by
      simp [validTimes, List.filter_append, valid]
    rw [bestOf, grown, least_concat times]
    simp only [valid, true_and]
    rfl
  · have same : validTimes (laps ++ [last]) = validTimes laps := by
      simp [validTimes, List.filter_append, valid]
    rw [bestOf, same, if_neg (fun both => valid both.1)]
    rfl

/-- The lap time spans from the crossing that last started the clock, and is long enough. -/
def LapSpans (config : Config) (before : List Crossing) (finish : Crossing) (event : TimingEvent) :
    Prop :=
  event.time = finish.time ∧ config.minLapTimeS ≤ event.lapTime ∧ ∃ earlier start between,
    LapSoFar before earlier start between ∧ event.lapTime = finish.time - start.time

/-- The book of the laps completed so far. -/
structure Booked (config : Config) (history : List Crossing) (state : TimingState) : Prop where
  numbers : (lapsOf history).map TimingEvent.lapNumber = List.range' 1 (lapsOf history).length
  current : state.lapStartTime ≠ 0 → state.lapNumber = (lapsOf history).length + 1
  spans : AtLaps (LapSpans config) history
  long : ∀ event ∈ lapsOf history, config.minLapTimeS ≤ event.lapTime
  apart : (lapsOf history).Pairwise fun first second => first.time ≤ second.time - second.lapTime
  past : ∀ event ∈ lapsOf history, event.time ≤ state.lapStartTime
  best : state.bestLapTime = bestOf (lapsOf history)

theorem lapsOf_quiet {crossing : Crossing}
    (quiet : ∀ event ∈ crossing.events, event.type ≠ .lapCompleted) : lapsOf [crossing] = [] := by
  simpa [lapsOf, eventsOf] using quiet

/-- A crossing that completes no lap turns no page. -/
theorem Booked.append_quiet {config : Config} {history : List Crossing}
    {state next : TimingState} {crossing : Crossing} (booked : Booked config history state)
    (quiet : ∀ event ∈ crossing.events, event.type ≠ .lapCompleted)
    (number : next.lapStartTime ≠ 0 → next.lapNumber = (lapsOf history).length + 1)
    (later : ∀ event ∈ lapsOf history, event.time ≤ next.lapStartTime)
    (best : next.bestLapTime = state.bestLapTime) : Booked config (history ++ [crossing]) next := by
  have same : lapsOf (history ++ [crossing]) = lapsOf history := by
    rw [lapsOf_append, lapsOf_quiet quiet, List.append_nil]
  constructor
  · rw [same]
    exact booked.numbers
  · rw [same]
    exact number
  · exact booked.spans.append fun event member completed => absurd completed (quiet event member)
  · rw [same]
    exact booked.long
  · rw [same]
    exact booked.apart
  · rw [same]
    exact later
  · rw [same, best]
    exact booked.best

theorem Arrival.lapSpans {config : Config} {history : List Crossing} {state : TimingState}
    {idx : Nat} {line : TimingLine} {hit : Hit} {gps : GPSPoint} {accepted : TimingState}
    (arrival : Arrival config history state idx line hit gps accepted) {event : TimingEvent}
    (member : event ∈ (lapCrossing config idx line hit gps accepted).events)
    (completed : event.type = .lapCompleted) :
    LapSpans config history (lapCrossing config idx line hit gps accepted) event := by
  obtain ⟨running, long, valid, report, _⟩ := completed_of_event member completed
  obtain ⟨_, earlier, start, between, lap, timed⟩ := arrival.accepted_clocked.running running
  refine ⟨report.time, report.lapTime ▸ long, earlier, start, between, lap, ?_⟩
  rw [report.lapTime, timed.lapStart]
  rfl

/-- The one lap that a completing crossing reports. -/
theorem lapsOf_completed {config : Config} {state : TimingState} {line : TimingLine} {hit : Hit}
    {gps : GPSPoint} {valid : Bool} {crossing : Crossing}
    (emitted : crossing.events = lapEvents config state line hit gps valid) :
    ∃ event, lapsOf [crossing] = [event] ∧ LapReport state hit valid event := by
  simp only [lapsOf, eventsOf, List.flatMap_singleton, emitted, lapEvents]
  exact ⟨_, rfl, ⟨rfl, rfl, rfl, rfl⟩⟩

/-- A completed lap is the next page of the book. -/
theorem Booked.append_lap {config : Config} {history : List Crossing} {state next : TimingState}
    {hit : Hit} {valid : Bool} {crossing : Crossing} {event : TimingEvent}
    (booked : Booked config history state) (minimum : 0 < config.minLapTimeS)
    (running : state.lapStartTime ≠ 0)
    (only : lapsOf [crossing] = [event]) (report : LapReport state hit valid event)
    (long : config.minLapTimeS ≤ hit.time - state.lapStartTime)
    (spans : ∀ event ∈ crossing.events, event.type = .lapCompleted →
      LapSpans config history crossing event)
    (clock : Restarted next hit.time) (number : next.lapNumber = state.lapNumber + 1)
    (best : next.bestLapTime =
      if valid = true ∧ (state.bestLapTime = 0 ∨ hit.time - state.lapStartTime < state.bestLapTime)
      then hit.time - state.lapStartTime else state.bestLapTime) :
    Booked config (history ++ [crossing]) next := by
  have grown : lapsOf (history ++ [crossing]) = lapsOf history ++ [event] := by
    rw [lapsOf_append, only]
  have current := booked.current running
  constructor
  · rw [grown, List.map_append, booked.numbers, List.length_append, List.length_singleton,
      List.range'_concat, List.map_singleton, report.number, current, Nat.one_mul, Nat.add_comm]
  · intro _
    rw [grown, List.length_append, List.length_singleton, number, current]
  · exact booked.spans.append spans
  · rw [grown]
    intro other member
    rcases List.mem_append.mp member with old | fresh
    · exact booked.long other old
    · rw [List.mem_singleton.mp fresh, report.lapTime]
      exact long
  · rw [grown, List.pairwise_append]
    refine ⟨booked.apart, List.pairwise_singleton _ _, ?_⟩
    intro earlier member latest same
    have before := booked.past earlier member
    rw [List.mem_singleton.mp same, report.time, report.lapTime]
    linarith
  · rw [grown, clock.lapStart]
    intro other member
    rcases List.mem_append.mp member with old | fresh
    · have before := booked.past other old
      linarith
    · rw [List.mem_singleton.mp fresh, report.time]
  · have positive : ∀ other ∈ lapsOf history, 0 < other.lapTime :=
      fun other member => lt_of_lt_of_le minimum (booked.long other member)
    rw [grown, bestOf_append positive, best, ← booked.best, report.valid, report.lapTime]

theorem crossLapPoint_booked {config : Config} (minimum : 0 < config.minLapTimeS)
    {history : List Crossing} {state : TimingState} {idx : Nat} {line : TimingLine} {hit : Hit}
    {gps : GPSPoint} {accepted : TimingState}
    (arrival : Arrival config history state idx line hit gps accepted)
    (booked : Booked config history accepted) :
    Booked config (history ++ [lapCrossing config idx line hit gps accepted])
      (handleLapPoint config accepted idx line hit gps).1 := by
  cases lapCrossing_step config accepted idx line hit gps with
  | first idle clock number best silent =>
      have none : lapsOf history = [] := by
        rcases arrival.accepted_clocked with ⟨_, _, none, _⟩ | ⟨positive, _⟩
        · exact none
        · exact absurd idle (ne_of_gt positive)
      apply booked.append_quiet
      · simp [silent]
      · intro _
        rw [number, none]
        rfl
      · simp [none]
      · exact best
  | abandoned running zero short clock number best silent =>
      obtain ⟨_, _, _, _, _, timed⟩ := arrival.accepted_clocked.running running
      apply booked.append_quiet
      · simp [silent]
      · intro _
        rw [number]
        exact booked.current running
      · intro event member
        have before := booked.past event member
        have segment := timed.lapStart_le
        have later := arrival.accepted_later
        rw [clock.lapStart]
        linarith
      · exact best
  | completed running zero progress long valid verdict clock number best emitted =>
      obtain ⟨event, only, report⟩ := lapsOf_completed emitted
      exact booked.append_lap minimum running only report long
        (fun other member completed => arrival.lapSpans member completed) clock number best
  | sector running nonzero lapStart segment done number best emitted =>
      apply booked.append_quiet
      · simp [emitted, sectorEvent]
      · intro _
        rw [number]
        exact booked.current running
      · rw [lapStart]
        exact booked.past
      · exact best

/-- The book only reads the clock, the lap number and the best lap of the state. -/
theorem Booked.of_same {config : Config} {history : List Crossing} {state next : TimingState}
    (booked : Booked config history state) (same : SameClock state next) :
    Booked config history next := by
  constructor
  · exact booked.numbers
  · rw [same.lapStart, same.number]
    exact booked.current
  · exact booked.spans
  · exact booked.long
  · exact booked.apart
  · rw [same.lapStart]
    exact booked.past
  · rw [same.best]
    exact booked.best

theorem booked_stable {config : Config} (minimum : 0 < config.minLapTimeS) :
    Stable config (fun _ _ => True) (Booked config) := by
  constructor
  · intro history state line hit gps accepted clocked booked passed
    have clock := (accept_clock passed).trans (handlePit_clock accepted line hit gps)
    have moved := booked.of_same clock
    apply moved.append_quiet
    · exact fun event member completed => pitCrossing_no_lap member completed
    · exact moved.current
    · exact moved.past
    · rfl
  · intro history state idx line hit gps accepted arrival booked _
    exact crossLapPoint_booked minimum arrival (booked.of_same (accept_clock arrival.passed))

/-- For every track with a positive minimum lap time and every forward stream on a
fresh engine: the completed laps are numbered 1, 2, 3, …; each is at least the
minimum long and spans from the latest crossing that started or restarted the
clock to its own; their intervals do not overlap; and the best lap time of the
state is the least time of a valid lap, 0 if there is none. -/
theorem laps_booked (config : Config) (minimum : 0 < config.minLapTimeS) (points : List GPSPoint)
    (forward : Forward points) :
    (processPoints config {} points).2 =
        (processPoints config {} points).1.history.flatMap Crossing.events ∧
      (lapsOf (processPoints config {} points).1.history).map TimingEvent.lapNumber =
        List.range' 1 (lapsOf (processPoints config {} points).1.history).length ∧
      (∀ before finish, before ++ [finish] <+: (processPoints config {} points).1.history →
        ∀ event ∈ finish.events, event.type = .lapCompleted →
          event.time = finish.time ∧ config.minLapTimeS ≤ event.lapTime ∧ ∃ earlier start between,
            LapSoFar before earlier start between ∧ event.lapTime = finish.time - start.time) ∧
      (lapsOf (processPoints config {} points).1.history).Pairwise
        (fun first second => first.time ≤ second.time - second.lapTime) ∧
      (processPoints config {} points).1.state.bestLapTime =
        bestOf (lapsOf (processPoints config {} points).1.history) := by
  have fresh : Booked config [] {} := by
    constructor
    · rfl
    · exact fun running => absurd rfl running
    · exact AtLaps.nil _
    · exact fun _ member => absurd member List.not_mem_nil
    · exact List.Pairwise.nil
    · exact fun _ member => absurd member List.not_mem_nil
    · rfl
  have booked := (booked_stable minimum).always fresh points forward
  exact ⟨processPoints_history config points, booked.numbers, booked.spans, booked.apart,
    booked.best⟩

theorem laps_booked_oneLap :
    (lapsOf (processPoints (straight []) {} oneLap).1.history).length = 1 ∧
      (processPoints (straight []) {} oneLap).1.state.bestLapTime =
        bestOf (lapsOf (processPoints (straight []) {} oneLap).1.history) :=
  ⟨by decide +kernel,
    (laps_booked (straight []) (by decide +kernel) oneLap oneLap_forward).2.2.2.2⟩

end OpenLaps.Timing

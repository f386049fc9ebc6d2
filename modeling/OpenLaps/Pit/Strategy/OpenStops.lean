import OpenLaps.Pit.Strategy.Views

/- What a missed pit exit does to the strategy. `v_pit_stops` leaves the entry open for
ever, and three readers take an open stop for a car that is in the pits now. -/
namespace OpenLaps.Strategy

/-- The pit events of a vehicle and where its session starts. -/
structure PitHistory where
  sql : Sql
  samples : List ChannelSample
  vehicleId : String
  sessionStarted : ℚ

namespace PitHistory

def events (history : PitHistory) : List PitEvent :=
  pitEvents history.sql history.samples history.vehicleId

def stops (history : PitHistory) (clock : ℚ) : List StopFact :=
  stopFacts (vPitStops history.sql history.samples history.vehicleId clock) history.sessionStarted

def inPits (history : PitHistory) (clock : ℚ) : Bool :=
  probePits (vPitStops history.sql history.samples history.vehicleId clock) history.sessionStarted

/-- The vehicle's latest pit event. -/
def latest (history : PitHistory) : Option PitEvent := history.events.getLast?

/-- An entry of the session that the next pit event, if any, does not close. -/
structure Unclosed (history : PitHistory) (entry : PitEvent) (next : Option PitEvent) : Prop where
  listed : (entry, next) ∈ paired history.events
  entered : entry.eventType = "pit_entry"
  since : history.sessionStarted ≤ entry.time
  unanswered : closes entry next = false

/-- A missed exit leaves no trace in the readings of the strategy. -/
structure NotFrozen (rt : Runtime) (history : PitHistory) : Prop where
  /-- A lap that begins after the event that followed the unclosed entry, with no pit
  crossing in its window, does not touch that stop. -/
  laps : ∀ entry next clock, history.Unclosed entry (some next) → ∀ lap start finish,
    lapWindow rt lap = .ok (some (start, finish)) → next.time < start →
    (∀ event ∈ history.events, ¬ (start < event.time ∧ event.time ≤ finish)) →
    touchesPits rt lap [(pitStop history.vehicleId clock entry (some next)).fact] = .ok false
  probe : ∀ clock, history.inPits clock = true →
    ∃ entry, history.latest = some entry ∧ entry.eventType = "pit_entry"
  clock : ∀ clock plan now reading, refuelClock rt (history.stops clock) plan now = .ok (some reading) →
    ∃ entry, history.latest = some entry ∧ entry.eventType = "pit_entry" ∧
      entry.lineType = "refuel"

end PitHistory

theorem pairwise_pitEvents (sql : Sql) (samples : List ChannelSample) (vehicleId : String) :
    (pitEvents sql samples vehicleId).Pairwise fun first second => first.time ≤ second.time :=
  List.pairwise_insertionSort _ _

/-- An event without a next one is the last. -/
theorem getLast?_of_paired_none {events : List PitEvent} {event : PitEvent}
    (listed : (event, none) ∈ paired events) : events.getLast? = some event := by
  induction events with
  | nil => cases listed
  | cons first rest ih =>
    rcases List.mem_cons.mp listed with here | later
    · obtain ⟨same, alone⟩ := Prod.mk.inj here
      rw [same, List.head?_eq_none_iff.mp alone.symm]
      rfl
    · have last := ih later
      cases rest with
      | nil => cases later
      | cons second rest =>
        rw [List.getLast?_cons_cons]
        exact last

/-- The next event is an event, and no earlier. -/
theorem paired_some {events : List PitEvent} {event next : PitEvent}
    (listed : (event, some next) ∈ paired events) :
    event ∈ events ∧ next ∈ events ∧
      (events.Pairwise (fun first second => first.time ≤ second.time) → event.time ≤ next.time) := by
  induction events with
  | nil => cases listed
  | cons first rest ih =>
    rcases List.mem_cons.mp listed with here | later
    · obtain ⟨same, second⟩ := Prod.mk.inj here
      have member : next ∈ rest := List.mem_of_mem_head? second.symm
      rw [same]
      refine ⟨List.mem_cons_self, List.mem_cons_of_mem first member, ?_⟩
      intro sorted
      exact (List.pairwise_cons.mp sorted).1 next member
    · obtain ⟨member, member', ordered⟩ := ih later
      refine ⟨List.mem_cons_of_mem first member, List.mem_cons_of_mem first member', ?_⟩
      intro sorted
      exact ordered (List.pairwise_cons.mp sorted).2

/-- The stop of an entry that is not closed has no end. -/
theorem pitStop_open {vehicleId : String} {clock : ℚ} {entry : PitEvent} {next : Option PitEvent}
    (unanswered : closes entry next = false) :
    (pitStop vehicleId clock entry next).isOpen = true ∧
      (pitStop vehicleId clock entry next).exitAt = none := by
  unfold pitStop
  rw [unanswered]
  exact ⟨rfl, rfl⟩

namespace PitHistory

variable {rt : Runtime} {history : PitHistory}

/-- The open stops among those of the session are the unclosed entries. -/
theorem mem_stops_open {clock : ℚ} {stop : StopFact} (member : stop ∈ history.stops clock)
    (opened : stop.isOpen = true) :
    ∃ entry next, history.Unclosed entry next ∧ stop.stopType = entry.lineType := by
  unfold stops stopFacts at member
  obtain ⟨row, kept, rfl⟩ := List.mem_map.mp member
  obtain ⟨listed, since⟩ := List.mem_filter.mp kept
  obtain ⟨pair, filtered, rfl⟩ := List.mem_map.mp listed
  obtain ⟨paired, entered⟩ := List.mem_filter.mp filtered
  refine ⟨pair.1, pair.2, ⟨paired, of_decide_eq_true entered, of_decide_eq_true since, ?_⟩, rfl⟩
  have negated : (!closes pair.1 pair.2) = true := opened
  rw [Bool.not_eq_true'] at negated
  exact negated

theorem inPits_unclosed {clock : ℚ} (inside : history.inPits clock = true) :
    ∃ entry next, history.Unclosed entry next := by
  unfold inPits probePits at inside
  obtain ⟨row, kept, opened⟩ := List.any_eq_true.mp inside
  have member : row.fact ∈ history.stops clock := List.mem_map_of_mem kept
  obtain ⟨entry, next, unclosed, _⟩ := mem_stops_open member opened
  exact ⟨entry, next, unclosed⟩

theorem refuelClock_unclosed {clock now : ℚ} {plan : Option PlanFacts} {reading : ℚ × ℚ × ℚ}
    (running : refuelClock rt (history.stops clock) plan now = .ok (some reading)) :
    ∃ entry next, history.Unclosed entry next ∧ entry.lineType = "refuel" := by
  unfold refuelClock at running
  split at running
  · rename_i stop _ found
    have member := List.mem_of_getLast? found
    obtain ⟨listed, kept⟩ := List.mem_filter.mp member
    obtain ⟨opened, refuel⟩ := Bool.and_eq_true_iff.mp kept
    obtain ⟨entry, next, unclosed, same⟩ := mem_stops_open listed opened
    exact ⟨entry, next, unclosed, same ▸ of_decide_eq_true refuel⟩
  · cases running

/-- The stop of an unclosed entry is touched by every lap that begins after it. -/
theorem touchesPits_unclosed {entry next : PitEvent} {clock start finish : ℚ} {lap : LapFact}
    (unclosed : history.Unclosed entry (some next))
    (window : lapWindow rt lap = .ok (some (start, finish))) (after : next.time < start) :
    touchesPits rt lap [(pitStop history.vehicleId clock entry (some next)).fact] = .ok true := by
  have ordered := (paired_some unclosed.listed).2.2 (pairwise_pitEvents _ _ _)
  have entryAt : entry.time ≤ start := ordered.trans (le_of_lt after)
  have endless : (pitStop history.vehicleId clock entry (some next)).exitAt = none :=
    (pitStop_open unclosed.unanswered).2
  have touched : touches start finish
      (pitStop history.vehicleId clock entry (some next)).fact = true := by
    unfold touches PitStop.fact
    rw [endless]
    show (_ || _ || (decide (entry.time ≤ start) && true)) = true
    rw [decide_eq_true entryAt, Bool.true_and, Bool.or_true]
  unfold touchesPits
  rw [window]
  show Except.ok (touches start finish _ || false) = Except.ok true
  rw [touched, Bool.true_or]

/-- Every pit entry of the session that another pit event follows is closed by it. -/
def Answered (history : PitHistory) : Prop :=
  ∀ pair ∈ paired history.events, pair.1.eventType = "pit_entry" →
    history.sessionStarted ≤ pair.1.time → pair.2.isSome = true → closes pair.1 pair.2 = true

instance (history : PitHistory) : Decidable history.Answered :=
  inferInstanceAs (Decidable (∀ pair ∈ paired history.events, _))

theorem Answered.latest (answered : history.Answered) {entry : PitEvent} {next : Option PitEvent}
    (unclosed : history.Unclosed entry next) :
    next = none ∧ history.latest = some entry := by
  cases next with
  | none => exact ⟨rfl, getLast?_of_paired_none unclosed.listed⟩
  | some next =>
    have closed := answered _ unclosed.listed unclosed.entered unclosed.since rfl
    rw [unclosed.unanswered] at closed
    cases closed

/-- The readings of the strategy are right exactly when every pit entry of the session
that another pit event follows is closed by it. The calendar has to leave room for a lap
after the last pit event. -/
theorem notFrozen_iff (rt : Runtime) (history : PitHistory)
    (room : ∃ lap start finish, lapWindow rt lap = .ok (some (start, finish)) ∧
      ∀ event ∈ history.events, event.time < start) :
    NotFrozen rt history ↔ history.Answered := by
  constructor
  · intro right pair listed entered since followed
    by_contra unanswered
    obtain ⟨next, known⟩ := Option.isSome_iff_exists.mp followed
    have unclosed : history.Unclosed pair.1 (some next) := by
      rw [← known]
      exact ⟨listed, entered, since, Bool.not_eq_true _ ▸ unanswered⟩
    obtain ⟨lap, start, finish, window, past⟩ := room
    have after := past next (paired_some unclosed.listed).2.1
    have clear : ∀ event ∈ history.events, ¬ (start < event.time ∧ event.time ≤ finish) :=
      fun event member inside => absurd inside.1 (not_lt.mpr (le_of_lt (past event member)))
    have untouched := right.laps pair.1 next 0 unclosed lap start finish window after clear
    rw [touchesPits_unclosed unclosed window after] at untouched
    cases untouched
  · intro answered
    refine ⟨?_, ?_, ?_⟩
    · intro entry next clock unclosed
      cases (answered.latest unclosed).1
    · intro clock inside
      obtain ⟨entry, next, unclosed⟩ := inPits_unclosed inside
      exact ⟨entry, (answered.latest unclosed).2, unclosed.entered⟩
    · intro clock plan now reading running
      obtain ⟨entry, next, unclosed, refuel⟩ := refuelClock_unclosed running
      exact ⟨entry, (answered.latest unclosed).2, unclosed.entered, refuel⟩

end PitHistory

/-- A calendar without end. -/
def openCalendar : Runtime := ⟨fun time seconds => .ok (time + seconds), fun _ => 0⟩

/-- The events of two refuelling crossings and one service exit, read as JSON. -/
def pitJson : Sql where
  field text key :=
    if text = "\x7b\"type\": \"pit_entry\", \"line\": \"PitEntryRefuel\"\x7d" then
      if key = "type" then some "pit_entry" else some "PitEntryRefuel"
    else if text = "\x7b\"type\": \"pit_exit\", \"line\": \"PitExitRefuel\"\x7d" then
      if key = "type" then some "pit_exit" else some "PitExitRefuel"
    else if text = "\x7b\"type\": \"pit_exit\", \"line\": \"PitExitService\"\x7d" then
      if key = "type" then some "pit_exit" else some "PitExitService"
    else none
  seconds := id

/-- A refuelling entry, and nineteen minutes later an exit over the line in `text`. -/
def stopEndedBy (text : String) : PitHistory where
  sql := pitJson
  samples := [⟨0, "car", "lap.event", none,
      some "\x7b\"type\": \"pit_entry\", \"line\": \"PitEntryRefuel\"\x7d"⟩,
    ⟨1140, "car", "lap.event", none, some text⟩]
  vehicleId := "car"
  sessionStarted := 0

def refuelled : PitHistory :=
  stopEndedBy "\x7b\"type\": \"pit_exit\", \"line\": \"PitExitRefuel\"\x7d"

/-- The refuelling exit was missed, and the car came out over the service exit. -/
def missedExit : PitHistory :=
  stopEndedBy "\x7b\"type\": \"pit_exit\", \"line\": \"PitExitService\"\x7d"

/-- A clean racing lap that begins 160 s after the car left the pits. -/
def racingLap : LapFact := ⟨20, 1400, some 100, true, some "track", some 1, some 1, "clean"⟩

def eightMinutes : PlanFacts where
  revision := 1
  raceEndAt := none
  raceEndLaps := some 100
  endAuthority := .laps
  tankL := 12
  usableFuelL := 10
  refuelMinS := 480
  serviceTypicalS := 120
  driverLimits := .empty
  plannedStops := []
  usablePositive := by decide

theorem refuelled_notFrozen : PitHistory.NotFrozen openCalendar refuelled :=
  (PitHistory.notFrozen_iff openCalendar refuelled
    ⟨racingLap, 1300, 1400, by decide +kernel, by decide +kernel⟩).mpr (by decide +kernel)

/-- After the missed exit every lap is dropped, the car counts as in the pits and the
refuel clock runs on, although the latest pit event is an exit. -/
theorem missedExit_freezes :
    missedExit.latest.map PitEvent.eventType = some "pit_exit" ∧
      cleanLaps openCalendar [racingLap] [] defaultPolicy = .ok [racingLap] ∧
      cleanLaps openCalendar [racingLap] (missedExit.stops 1400) defaultPolicy = .ok [] ∧
      missedExit.inPits 1400 = true ∧
      refuelClock openCalendar (missedExit.stops 1400) (some eightMinutes) 1400 =
        .ok (some (1400, 0, 480)) ∧
      ¬ PitHistory.NotFrozen openCalendar missedExit := by
  have exit : missedExit.latest.map PitEvent.eventType = some "pit_exit" := by decide +kernel
  have inside : missedExit.inPits 1400 = true := by decide +kernel
  refine ⟨exit, by decide +kernel, by decide +kernel, inside, by decide +kernel, ?_⟩
  intro right
  obtain ⟨entry, latest, entered⟩ := right.probe 1400 inside
  rw [latest] at exit
  have same : entry.eventType = "pit_exit" := Option.some.inj exit
  rw [entered] at same
  exact absurd same (by decide)

end OpenLaps.Strategy

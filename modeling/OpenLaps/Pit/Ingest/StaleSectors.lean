import OpenLaps.Pit.Ingest.LapSectors

/- Sectors of an abandoned lap: the engine restarts the lap under the same number, and the
materialiser keeps what it buffered. Unless that happens, a lap row only carries sectors
crossed in its lap. -/
namespace OpenLaps.Ingest
open Timing TimingApp

/-- The point makes the engine abandon a lap in which a sector was already crossed. -/
def abandonsSectors (config : Config) (engine : Engine) (gps : GPSPoint) : Bool :=
  match lapHit config engine gps with
  | some (idx, _, hit, accepted) =>
    accepted.lapStartTime ≠ 0 && idx = 0 && accepted.sectorsDone ≠ 0 &&
      hit.time - accepted.lapStartTime < config.minLapTimeS
  | none => false

/-- The point crosses a lap point at the very instant at which the lap started. -/
def crossesAtStart (config : Config) (engine : Engine) (gps : GPSPoint) : Bool :=
  match lapHit config engine gps with
  | some (_, _, hit, accepted) =>
    accepted.lapStartTime ≠ 0 && hit.time = accepted.lapStartTime
  | none => false

/-- Every sector of the row was crossed after the start of the lap, up to its end. -/
def OwnSectors (events : List TimingEvent) (row : LapRow) : Prop :=
  ∃ lap ∈ events, lap.type = .lapCompleted ∧ row.crossedAt = micros lap.time ∧
    row.lapTimeS = some (.finite lap.lapTime) ∧
    ∀ sector ∈ row.sectors, ∃ event ∈ events, event.type = .sectorCompleted ∧
      sector = sectorRow event ∧ lap.time - lap.lapTime < event.time ∧ event.time ≤ lap.time

instance (events : List TimingEvent) (row : LapRow) : Decidable (OwnSectors events row) :=
  inferInstanceAs (Decidable (∃ lap ∈ events, _))

section Sourcing

variable (vehicleId : String) (stamp : TimingEvent → Stamp)

/-- The buffer holds only sectors of the lap in progress and of earlier lap numbers. -/
structure Sourced (history : List Crossing) (state : TimingState) : Prop where
  upTo : UpTo (absorbAll vehicleId stamp history).1 state.lapNumber
  bounded : ∀ entry ∈ (absorbAll vehicleId stamp history).1.sectors.entries,
    entry.1.1 ≤ state.lapNumber
  idle : state.lapStartTime = 0 →
    (absorbAll vehicleId stamp history).1.sectors.entries = [] ∧ state.lapNumber = 0
  source : ∀ earlier start between, LapSoFar history earlier start between →
    ∀ entry ∈ (absorbAll vehicleId stamp history).1.sectors.entries,
      entry.1.1 = state.lapNumber → ∃ event ∈ sectorsOf between, entry.2 = sectorRow event
  later : ∀ earlier start between, LapSoFar history earlier start between →
    ∀ event ∈ sectorsOf between, start.time < event.time
  rows : ∀ row ∈ lapRows (absorbAll vehicleId stamp history).2,
    OwnSectors (history.flatMap Crossing.events) row

end Sourcing

theorem OwnSectors.mono {events more : List TimingEvent} {row : LapRow}
    (own : OwnSectors events row) (subset : ∀ event ∈ events, event ∈ more) :
    OwnSectors more row := by
  obtain ⟨lap, among, kind, crossedAt, lapTimeS, sectors⟩ := own
  refine ⟨lap, subset lap among, kind, crossedAt, lapTimeS, ?_⟩
  intro sector member
  obtain ⟨event, present, facts⟩ := sectors sector member
  exact ⟨event, subset event present, facts⟩

theorem OwnSectors.append {history : List Crossing} {row : LapRow}
    (own : OwnSectors (history.flatMap Crossing.events) row) (crossing : Crossing) :
    OwnSectors ((history ++ [crossing]).flatMap Crossing.events) row := by
  refine own.mono ?_
  intro event member
  rw [List.flatMap_append]
  exact List.mem_append_left _ member

/-- Buffering a sector adds its row and may drop another. -/
theorem mem_buffered {laps : LapMaterialiser} {event : TimingEvent}
    {entry : (Int × Int) × SectorRow} (member : entry ∈ (laps.buffered event).sectors.entries) :
    entry = (sectorKey event, sectorRow event) ∨ entry ∈ laps.sectors.entries := by
  unfold LapMaterialiser.buffered at member
  rcases Dict.mem_entries_set member with fresh | old
  · exact Or.inl fresh
  · right
    split at old
    · exact mem_dropOldest old
    · exact old

theorem mem_sectorsFor {laps : LapMaterialiser} {lap : Int} {row : SectorRow}
    (member : row ∈ laps.sectorsFor lap) :
    ∃ entry ∈ laps.sectors.entries, entry.1.1 = lap ∧ entry.2 = row := by
  obtain ⟨entry, listed, same⟩ := List.mem_map.mp member
  obtain ⟨present, number⟩ := List.mem_filter.mp listed
  exact ⟨entry, (List.mem_insertionSort _).mp present, by simpa using number, same⟩

section Sourcing

variable {config : Config} {vehicleId : String} {stamp : TimingEvent → Stamp}

theorem sourced_pit {history : List Crossing} {state accepted : TimingState} {line : TimingLine}
    {hit : Hit} {gps : GPSPoint} (sourced : Sourced vehicleId stamp history state)
    (passed : accept config state line hit = some accepted) :
    Sourced vehicleId stamp (history ++ [pitCrossing line hit gps accepted])
      (handlePit accepted line hit gps).1 := by
  have clock := (accept_clock passed).trans (handlePit_clock accepted line hit gps)
  obtain ⟨sectors, upTo, rows⟩ := absorbAll_pit vehicleId stamp gps sourced.upTo passed
  constructor
  · rw [clock.number]
    exact upTo
  · rw [sectors, clock.number]
    exact sourced.bounded
  · rw [sectors, clock.number, clock.lapStart]
    exact sourced.idle
  · intro earlier start between lap
    rw [sectors, clock.number]
    rcases lap.concat_cases with ⟨none, starts⟩ | ⟨front, whole, before, _⟩
    · have started := lap.started
      rw [starts] at started
      cases started
    · rw [whole, sectorsOf_append, sectorsOf_pit, List.append_nil]
      exact sourced.source earlier start front before
  · intro earlier start between lap
    rcases lap.concat_cases with ⟨none, _⟩ | ⟨front, whole, before, _⟩
    · rw [none]
      exact fun event member => absurd member List.not_mem_nil
    · rw [whole, sectorsOf_append, sectorsOf_pit, List.append_nil]
      exact sourced.later earlier start front before
  · rw [rows]
    exact fun row member => (sourced.rows row member).append _

/-- After a crossing that restarts the clock, nothing of the new lap is buffered. -/
theorem sourced_restart {history : List Crossing} {next : TimingState} {crossing : Crossing}
    (starts : crossing.startsLap = true) (running : next.lapStartTime ≠ 0)
    (upTo : UpTo (absorbAll vehicleId stamp (history ++ [crossing])).1 next.lapNumber)
    (bounded : ∀ entry ∈ (absorbAll vehicleId stamp (history ++ [crossing])).1.sectors.entries,
      entry.1.1 < next.lapNumber)
    (rows : ∀ row ∈ lapRows (absorbAll vehicleId stamp (history ++ [crossing])).2,
      OwnSectors ((history ++ [crossing]).flatMap Crossing.events) row) :
    Sourced vehicleId stamp (history ++ [crossing]) next := by
  constructor
  · exact upTo
  · exact fun entry member => le_of_lt (bounded entry member)
  · exact fun idle => absurd idle running
  · intro earlier start between lap entry member same
    exact absurd same (ne_of_lt (bounded entry member))
  · intro earlier start between lap
    rcases lap.concat_cases with ⟨none, _⟩ | ⟨_, _, _, continues⟩
    · rw [none]
      exact fun event member => absurd member List.not_mem_nil
    · rw [starts] at continues
      cases continues
  · exact rows

/-- The clock is restarted without an event while no sector of the lap is buffered. -/
theorem sourced_silent {history : List Crossing} {state next : TimingState} {crossing : Crossing}
    (sourced : Sourced vehicleId stamp history state) (starts : crossing.startsLap = true)
    (silent : crossing.events = []) (running : next.lapStartTime ≠ 0)
    (number : state.lapNumber ≤ next.lapNumber)
    (none : ∀ entry ∈ (absorbAll vehicleId stamp history).1.sectors.entries,
      entry.1.1 ≠ next.lapNumber) : Sourced vehicleId stamp (history ++ [crossing]) next := by
  have absorbed := absorbAll_silent vehicleId stamp history silent
  apply sourced_restart starts running
  · rw [absorbed]
    exact sourced.upTo.mono number
  · rw [absorbed]
    intro entry member
    have bound := sourced.bounded entry member
    have other := none entry member
    omega
  · rw [absorbed]
    exact fun row member => (sourced.rows row member).append _

theorem sourced_sector {history : List Crossing} {state next : TimingState} {crossing : Crossing}
    {event : TimingEvent} (sourced : Sourced vehicleId stamp history state)
    (continues : crossing.startsLap = false) (emitted : crossing.events = [event])
    (kind : event.type = .sectorCompleted) (lapNumber : event.lapNumber = state.lapNumber)
    (number : next.lapNumber = state.lapNumber) (running : next.lapStartTime ≠ 0)
    (after : ∀ earlier start between, LapSoFar history earlier start between →
      start.time < event.time) : Sourced vehicleId stamp (history ++ [crossing]) next := by
  have sectors : sectorsOf [crossing] = [event] := by simp [sectorsOf, eventsOf, emitted, kind]
  have absorbed : absorbAll vehicleId stamp (history ++ [crossing]) =
      absorbNext stamp (absorbAll vehicleId stamp history) event := by
    rw [absorbAll_append, emitted]
    rfl
  -- The sector is buffered, or its time is beyond the calendar and it is dropped.
  have step : UpTo (absorbAll vehicleId stamp (history ++ [crossing])).1 state.lapNumber ∧
      (∀ entry ∈ (absorbAll vehicleId stamp (history ++ [crossing])).1.sectors.entries,
        entry = (sectorKey event, sectorRow event) ∨
          entry ∈ (absorbAll vehicleId stamp history).1.sectors.entries) ∧
      (absorbAll vehicleId stamp (history ++ [crossing])).2 =
        (absorbAll vehicleId stamp history).2 := by
    rw [absorbed, absorbNext]
    by_cases inside : InCalendar event.time
    · rw [absorb_sector (lapNumber ▸ sourced.upTo) kind inside]
      refine ⟨?_, fun entry member => mem_buffered member, List.append_nil _⟩
      intro highest known
      cases known
      rw [lapNumber]
    · rw [absorb_outside inside]
      exact ⟨sourced.upTo, fun entry member => Or.inr member, List.append_nil _⟩
  obtain ⟨upTo, entries, rows⟩ := step
  have key : (sectorKey event).1 = (state.lapNumber : Int) := by rw [sectorKey, lapNumber]
  constructor
  · rw [number]
    exact upTo
  · intro entry member
    rw [number]
    rcases entries entry member with fresh | old
    · rw [fresh]
      exact le_of_eq key
    · exact sourced.bounded entry old
  · exact fun idle => absurd idle running
  · intro earlier start between lap entry member same
    rcases lap.concat_cases with ⟨none, starts⟩ | ⟨front, whole, before, _⟩
    · have started := lap.started
      rw [starts, continues] at started
      cases started
    · rw [whole, sectorsOf_append, sectors]
      rcases entries entry member with fresh | old
      · exact ⟨event, by simp, by rw [fresh]⟩
      · rw [number] at same
        obtain ⟨other, among, row⟩ := sourced.source earlier start front before entry old same
        exact ⟨other, List.mem_append_left _ among, row⟩
  · intro earlier start between lap
    rcases lap.concat_cases with ⟨none, _⟩ | ⟨front, whole, before, _⟩
    · rw [none]
      exact fun event member => absurd member List.not_mem_nil
    · rw [whole, sectorsOf_append, sectors]
      intro other member
      rcases List.mem_append.mp member with old | fresh
      · exact sourced.later earlier start front before other old
      · rw [List.mem_singleton.mp fresh]
        exact after earlier start front before
  · rw [rows]
    exact fun row member => (sourced.rows row member).append _

/-- The row of a completed lap carries sectors of its own lap only. -/
theorem finishing_own {history : List Crossing} {state accepted : TimingState} {hit : Hit}
    {valid : Bool} {last lap : TimingEvent} {crossing : Crossing} {earlier between : List Crossing}
    {start : Crossing} (sourced : Sourced vehicleId stamp history state)
    (same : SameClock state accepted) (emitted : crossing.events = [last, lap])
    (pair : LapPair config accepted hit valid last lap)
    (so_far : LapSoFar history earlier start between) (timed : Running accepted start between)
    (after : accepted.lapStartTime < hit.time) :
    OwnSectors ((history ++ [crossing]).flatMap Crossing.events)
      ((finishing (absorbAll vehicleId stamp history).1 last).lapRow (stamp lap) lap) := by
  have number : lap.lapNumber = state.lapNumber := pair.report.number.trans same.number
  have lapStart : lap.time - lap.lapTime = start.time := by
    rw [pair.report.time, pair.report.lapTime, timed.lapStart]
    linarith
  have present : ∀ event ∈ crossing.events,
      event ∈ (history ++ [crossing]).flatMap Crossing.events := by
    intro event member
    rw [List.flatMap_append, List.flatMap_singleton]
    exact List.mem_append_right _ member
  refine ⟨lap, present lap (by simp [emitted]), pair.completed, rfl, rfl, ?_⟩
  intro sector member
  obtain ⟨entry, buffered, own, row⟩ := mem_sectorsFor member
  rw [lapStart, pair.report.time]
  rcases mem_buffered buffered with fresh | old
  · refine ⟨last, present last (by simp [emitted]), pair.sector, by rw [← row, fresh], ?_⟩
    rw [pair.split.time, ← timed.lapStart]
    exact ⟨after, le_refl _⟩
  · rw [number] at own
    obtain ⟨event, among, same_row⟩ := sourced.source earlier start between so_far entry old own
    obtain ⟨⟨earlierCrossing, crossed, listed⟩, kind⟩ := mem_eventsOf.mp among
    refine ⟨event, ?_, kind, by rw [← row, same_row],
      sourced.later earlier start between so_far event among, ?_⟩
    · rw [List.flatMap_append]
      refine List.mem_append_left _ (List.mem_flatMap.mpr ⟨earlierCrossing, ?_, listed⟩)
      rw [so_far.split]
      exact List.mem_append_right _ (List.mem_cons_of_mem _ crossed)
    · have bound := timed.reached event among
      have split := pair.split.next.later
      rw [pair.split.time] at split
      exact bound.trans split

theorem sourced_completed {history : List Crossing} {state accepted next : TimingState}
    {line : TimingLine} {hit : Hit} {gps : GPSPoint} {valid : Bool}
    (sourced : Sourced vehicleId stamp history state)
    (arrival : Arrival config history state 0 line hit gps accepted)
    (running : accepted.lapStartTime ≠ 0) (after : accepted.lapStartTime < hit.time)
    (clock : Restarted next hit.time) (number : next.lapNumber = accepted.lapNumber + 1)
    (emitted : (lapCrossing config 0 line hit gps accepted).events =
      lapEvents config accepted line hit gps valid) :
    Sourced vehicleId stamp (history ++ [lapCrossing config 0 line hit gps accepted]) next := by
  have same := accept_clock arrival.passed
  obtain ⟨last, lap, events, pair⟩ : ∃ last lap,
      lapEvents config accepted line hit gps valid = [last, lap] ∧
        LapPair config accepted hit valid last lap := lapEvents_pair arrival.accepted_later
  obtain ⟨_, earlier, start, between, so_far, timed⟩ := arrival.accepted_clocked.running running
  have lastNumber : last.lapNumber = state.lapNumber :=
    pair.split.next.number.trans same.number
  have lapNumber : lap.lapNumber = state.lapNumber := pair.report.number.trans same.number
  have starts : (lapCrossing config 0 line hit gps accepted).startsLap = true := by
    simp [lapCrossing, startsLap]
  have moving : next.lapStartTime ≠ 0 := by
    rw [clock.lapStart]
    exact ne_of_gt arrival.positive
  have grown : next.lapNumber = state.lapNumber + 1 := by rw [number, same.number]
  by_cases inside : InCalendar hit.time
  · have absorbed : [last, lap].foldl (absorbNext stamp) (absorbAll vehicleId stamp history) = _ :=
      absorb_pair pair (same.number.symm ▸ sourced.upTo) inside
    rw [← events, ← emitted, ← absorbAll_append] at absorbed
    apply sourced_restart starts moving
    · rw [absorbed, grown]
      intro highest known
      cases known
      rw [lastNumber]
      omega
    · rw [absorbed, grown]
      intro entry member
      obtain ⟨present, other⟩ := Dict.mem_entries_filter.mp member
      rw [lapNumber] at other
      rcases mem_buffered present with fresh | old
      · rw [fresh, sectorKey, lastNumber] at other
        simp at other
      · have bound := sourced.bounded entry old
        push_cast
        omega
    · rw [absorbed, lapRows_append]
      intro row member
      rcases List.mem_append.mp member with old | fresh
      · exact (sourced.rows row old).append _
      · rw [List.mem_singleton.mp fresh]
        exact finishing_own sourced same (emitted.trans events) pair so_far timed after
  · have outside : ¬ InCalendar last.time := pair.split.time ▸ inside
    have beyond : ¬ InCalendar lap.time := pair.report.time ▸ inside
    have absorbed : absorbAll vehicleId stamp
        (history ++ [lapCrossing config 0 line hit gps accepted]) =
        absorbNext stamp (absorbNext stamp (absorbAll vehicleId stamp history) last) lap := by
      rw [absorbAll_append, emitted, events]
      rfl
    have rows : (absorbAll vehicleId stamp
        (history ++ [lapCrossing config 0 line hit gps accepted])).2 =
        (absorbAll vehicleId stamp history).2 := by
      rw [absorbed, absorbNext, absorb_outside beyond, absorbNext, absorb_outside outside]
      simp
    have entries : (absorbAll vehicleId stamp
        (history ++ [lapCrossing config 0 line hit gps accepted])).1.sectors =
        (absorbAll vehicleId stamp history).1.sectors := by
      rw [absorbed, absorbNext, absorb_outside beyond, absorbNext, absorb_outside outside]
    have highest : (absorbAll vehicleId stamp
        (history ++ [lapCrossing config 0 line hit gps accepted])).1.highestLapNumber =
        (absorbAll vehicleId stamp history).1.highestLapNumber := by
      rw [absorbed, absorbNext, absorb_outside beyond, absorbNext, absorb_outside outside]
    apply sourced_restart starts moving
    · intro number known
      rw [highest] at known
      exact sourced.upTo.mono (by omega) number known
    · rw [entries, grown]
      intro entry member
      have bound := sourced.bounded entry member
      push_cast
      omega
    · rw [rows]
      exact fun row member => (sourced.rows row member).append _

theorem sourced_lap {history : List Crossing} {state accepted : TimingState} {idx : Nat}
    {line : TimingLine} {hit : Hit} {gps : GPSPoint}
    (sourced : Sourced vehicleId stamp history state)
    (arrival : Arrival config history state idx line hit gps accepted)
    (fresh : accepted.lapStartTime ≠ 0 → hit.time ≠ accepted.lapStartTime)
    (kept : accepted.lapStartTime ≠ 0 → idx = 0 →
      hit.time - accepted.lapStartTime < config.minLapTimeS → accepted.sectorsDone = 0) :
    Sourced vehicleId stamp (history ++ [lapCrossing config idx line hit gps accepted])
      (handleLapPoint config accepted idx line hit gps).1 := by
  have same := accept_clock arrival.passed
  have after : ∀ running : accepted.lapStartTime ≠ 0, accepted.lapStartTime < hit.time := by
    intro running
    obtain ⟨_, _, _, _, _, timed⟩ := arrival.accepted_clocked.running running
    have later := timed.lapStart_le.trans arrival.accepted_later
    exact lt_of_le_of_ne later (fresh running).symm
  cases lapCrossing_step config accepted idx line hit gps with
  | first idle clock number best silent =>
    obtain ⟨none, zero⟩ := sourced.idle (same.lapStart ▸ idle)
    refine sourced_silent sourced (by simp [lapCrossing, startsLap, idle]) silent ?_ ?_ ?_
    · rw [clock.lapStart]
      exact ne_of_gt arrival.positive
    · omega
    · rw [none]
      exact fun entry member => absurd member List.not_mem_nil
  | abandoned running zero short clock number best silent =>
    have unstarted : accepted.sectorsDone = 0 := by
      rcases short with none | soon
      · exact none
      · exact kept running zero soon
    obtain ⟨_, earlier, start, between, so_far, timed⟩ :=
      arrival.accepted_clocked.running running
    have none : sectorsOf between = [] :=
      List.eq_nil_of_length_eq_zero (timed.done.symm.trans unstarted)
    refine sourced_silent sourced (by simp [lapCrossing, startsLap, zero]) silent ?_ ?_ ?_
    · rw [clock.lapStart]
      exact ne_of_gt arrival.positive
    · rw [number, same.number]
    · rw [number, same.number]
      intro entry member own
      obtain ⟨event, among, _⟩ := sourced.source earlier start between so_far entry member own
      rw [none] at among
      exact absurd among List.not_mem_nil
  | completed running zero progress long valid verdict clock number best emitted =>
    subst zero
    exact sourced_completed sourced arrival running (after running) clock number emitted
  | sector running nonzero lapStart segment done number best emitted =>
    obtain ⟨_, earlier, start, between, so_far, timed⟩ :=
      arrival.accepted_clocked.running running
    refine sourced_sector sourced ?_ emitted rfl same.number ?_ ?_ ?_
    · simp [lapCrossing, startsLap, running, nonzero]
    · rw [number, same.number]
    · rw [lapStart]
      exact running
    · intro earlier' start' between' so_far'
      obtain ⟨rfl, _⟩ := so_far.unique so_far'
      rw [← timed.lapStart]
      exact after running

theorem sourced_stable :
    Stable config (fun engine gps => abandonsSectors config engine gps = false ∧
      crossesAtStart config engine gps = false) (Sourced vehicleId stamp) := by
  constructor
  · intro history state line hit gps accepted clocked sourced passed
    exact sourced_pit sourced passed
  · intro history state idx line hit gps accepted arrival sourced ⟨engine, ⟨kept, fresh⟩, found⟩
    unfold abandonsSectors at kept
    unfold crossesAtStart at fresh
    rw [found] at kept fresh
    refine sourced_lap sourced arrival ?_ ?_
    · intro running same
      simp [running, same] at fresh
    · intro running zero soon
      simpa [running, zero, soon] using kept

theorem sourced_fresh : Sourced vehicleId stamp [] {} := by
  constructor
  · exact upTo_new vehicleId 0
  · exact fun entry member => absurd member List.not_mem_nil
  · exact fun _ => ⟨rfl, rfl⟩
  · intro earlier start between so_far entry member
    exact absurd member List.not_mem_nil
  · intro earlier start between so_far
    have split := so_far.split
    simp at split
  · exact fun row member => absurd member List.not_mem_nil

end Sourcing

/-- Every lap row, valid or not, carries only sectors crossed in its lap. -/
def NoStaleSectors (config : Config) (points : List GPSPoint) (text : PyText)
    (dumps : List (String × Json) → String) (vehicleId : String) (stamp : TimingEvent → Stamp) :
    Prop :=
  ∃ laps rows,
    observeAll text (.new vehicleId) ((processPoints config {} points).2.map
      fun event => dumps (encodeEvent (stamp event) event)) = .ok (laps, rows) ∧
    ∀ row ∈ lapRows rows, OwnSectors (processPoints config {} points).2 row

/-- In every forward stream in which the engine never abandons a lap with a sector
already crossed, and crosses no lap point at the instant the lap started, no lap row
carries a sector from before its lap. -/
theorem no_stale_sectors (config : Config) (points : List GPSPoint) (forward : Forward points)
    (clean : Throughout config (fun engine gps => abandonsSectors config engine gps = false ∧
      crossesAtStart config engine gps = false) {} points)
    (text : PyText) (dumps : List (String × Json) → String) (vehicleId : String)
    (stamp : TimingEvent → Stamp)
    (lossless : ∀ event ∈ (processPoints config {} points).2,
      Lossless text dumps (encodeEvent (stamp event) event)) :
    NoStaleSectors config points text dumps vehicleId stamp := by
  have events := processPoints_history config points
  have sourced : Sourced vehicleId stamp (processPoints config {} points).1.history
      (processPoints config {} points).1.state :=
    sourced_stable.throughout sourced_fresh points forward clean
  unfold NoStaleSectors
  rw [events] at lossless ⊢
  exact ⟨_, _, observeAll_encoded vehicleId lossless, sourced.rows⟩

theorem no_stale_sectors_oneLap :
    (∃ event ∈ (processPoints (straight []) {} oneLap).2, event.type = .lapCompleted) ∧
      NoStaleSectors (straight []) oneLap
        (readerOf (processPoints (straight []) {} oneLap).2) printFields "car" fun _ => {} :=
  ⟨by decide +kernel,
    no_stale_sectors (straight []) oneLap oneLap_forward (by decide +kernel) _ printFields "car"
      (fun _ => {}) (readerOf_lossless (by decide +kernel))⟩

/-- A track with two sector lines. -/
def twoSectors : Config :=
  straight [⟨"Sector2", ⟨-1, 2, 0⟩, ⟨1, 2, 0⟩, .sector⟩]

/-- The first lap is cut short after sector 1; the next one skips sector 1. -/
def shortLap : List GPSPoint :=
  [⟨0, -1 / 2, 1⟩, ⟨0, 1 / 2, 3⟩, ⟨0, 3 / 2, 5⟩, ⟨5, 3 / 2, 7⟩, ⟨5, -1 / 2, 9⟩, ⟨0, -1 / 2, 11⟩,
    ⟨0, 1 / 2, 15⟩, ⟨3, 1 / 2, 17⟩, ⟨3, 3 / 2, 19⟩, ⟨0, 3 / 2, 21⟩, ⟨0, 5 / 2, 23⟩, ⟨5, 5 / 2, 30⟩,
    ⟨5, -1 / 2, 40⟩, ⟨0, -1 / 2, 45⟩, ⟨0, 1 / 2, 55⟩]

/-- The lap from 13 s to 50 s carries the crossing of sector 1 at 4 s. -/
theorem shortLap_stale :
    Forward shortLap ∧ ¬ NoStaleSectors twoSectors shortLap
      (readerOf (processPoints twoSectors {} shortLap).2) printFields "car" fun _ => {} := by
  refine ⟨⟨by decide +kernel, by decide +kernel⟩, ?_⟩
  rintro ⟨laps, rows, observed, own⟩
  have events := processPoints_history twoSectors shortLap
  have known := observeAll_encoded "car"
    (by rw [← events]; exact readerOf_lossless (by decide +kernel))
  rw [← events, observed] at known
  have same : rows = _ := congrArg Prod.snd (Except.ok.inj known)
  rw [same] at own
  revert own
  decide +kernel

end OpenLaps.Ingest

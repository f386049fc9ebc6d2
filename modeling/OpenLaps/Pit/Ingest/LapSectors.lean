import OpenLaps.Pit.Ingest.LapRows

/- Which sectors a lap row carries, when a fresh materialiser reads the events of a
fresh engine. -/
namespace OpenLaps.Ingest
open Timing TimingApp

/-- A buffer that holds exactly the rows of some sector events gives them out in order. -/
theorem sectorsFor_eq {laps : LapMaterialiser} {lap : Nat} {events : List TimingEvent}
    (keys : ∀ key ∈ laps.sectors.keys, ∃ event ∈ events, sectorKey event = key)
    (rows : ∀ event ∈ events, laps.sectors.get? (sectorKey event) = some (sectorRow event))
    (number : ∀ event ∈ events, event.lapNumber = lap)
    (ordered : (events.map TimingEvent.sector).Pairwise (· < ·)) :
    laps.sectorsFor lap = events.map sectorRow := by
  have member : ∀ entry, entry ∈ events.map (fun event => (sectorKey event, sectorRow event)) ↔
      entry ∈ laps.sectors.entries := by
    intro entry
    constructor
    · intro listed
      obtain ⟨event, among, same⟩ := List.mem_map.mp listed
      rw [← same]
      exact (laps.sectors.get?_eq_some _ _).mp (rows event among)
    · intro listed
      obtain ⟨event, among, same⟩ := keys entry.1 (List.mem_map_of_mem listed)
      have found := (laps.sectors.get?_eq_some entry.1 entry.2).mpr listed
      have own := rows event among
      rw [same, found] at own
      exact List.mem_map.mpr ⟨event, among, Prod.ext same (Option.some.inj own).symm⟩
  have order : (events.map fun event => (sectorKey event, sectorRow event)).Pairwise
      fun first second => keyLe first.1 second.1 = true ∧ first ≠ second := by
    rw [List.pairwise_map]
    rw [List.pairwise_map] at ordered
    refine ordered.imp_of_mem ?_
    intro first second among present before
    have one := number first among
    have two := number second present
    constructor
    · rw [keyLe_iff]
      simp only [sectorKey]
      omega
    · intro same
      have sectors := congrArg (fun entry => entry.1.2) same
      simp only [sectorKey, Nat.cast_inj] at sectors
      omega
  have nodup : (events.map fun event => (sectorKey event, sectorRow event)).Nodup :=
    order.imp fun both => both.2
  have perm : (events.map fun event => (sectorKey event, sectorRow event)).Perm
      laps.sectors.entries :=
    (List.perm_ext_iff_of_nodup nodup (laps.sectors.nodup.of_map _)).mpr member
  have all : ∀ entry ∈ events.map (fun event => (sectorKey event, sectorRow event)),
      decide (entry.1.1 = (lap : Int)) = true := by
    intro entry listed
    obtain ⟨event, among, same⟩ := List.mem_map.mp listed
    have one := number event among
    rw [← same]
    simp [sectorKey, one]
  unfold LapMaterialiser.sectorsFor
  rw [sorted_entries perm (order.imp fun both => both.1), List.filter_eq_self.mpr all,
    List.map_map]
  rfl

/-- The materialiser has seen no lap number beyond this one. -/
def UpTo (laps : LapMaterialiser) (lap : Nat) : Prop :=
  ∀ highest, laps.highestLapNumber = some highest → highest ≤ lap

theorem upTo_new (vehicleId : String) (lap : Nat) : UpTo (.new vehicleId) lap :=
  fun _ known => absurd known (by simp [LapMaterialiser.new])

theorem UpTo.mono {laps : LapMaterialiser} {lap next : Nat} (upTo : UpTo laps lap)
    (le : lap ≤ next) : UpTo laps next := by
  intro highest known
  have bound := upTo highest known
  omega

/-- A lap number that does not go backwards is adopted, and the buffer is kept. -/
theorem UpTo.adopt {laps : LapMaterialiser} {lap : Nat} (upTo : UpTo laps lap) :
    laps.adopt lap = { laps with highestLapNumber := some (lap : Int) } := by
  unfold LapMaterialiser.adopt
  cases known : laps.highestLapNumber with
  | none => simp
  | some highest =>
    have bound := upTo highest known
    dsimp only
    rw [if_neg (not_lt.mpr bound), max_eq_left bound]

/-- What absorbing one event of the current lap does. -/
theorem absorb_sector {laps : LapMaterialiser} {stamp : Stamp} {event : TimingEvent}
    (upTo : UpTo laps event.lapNumber) (kind : event.type = .sectorCompleted)
    (inside : InCalendar event.time) :
    laps.absorb stamp event =
      ({ laps with highestLapNumber := some (event.lapNumber : Int) }.buffered event, none) := by
  unfold LapMaterialiser.absorb
  rw [if_pos inside, kind, upTo.adopt]

theorem absorb_lap {laps : LapMaterialiser} {stamp : Stamp} {event : TimingEvent}
    (upTo : UpTo laps event.lapNumber) (kind : event.type = .lapCompleted)
    (inside : InCalendar event.time) :
    laps.absorb stamp event =
      ({ laps with
          highestLapNumber := some (event.lapNumber : Int)
          sectors := laps.sectors.filter fun key => key.1 ≠ event.lapNumber },
        some (.lap (laps.lapRow stamp event))) := by
  unfold LapMaterialiser.absorb
  rw [if_pos inside, kind, upTo.adopt]
  rfl

theorem absorb_outside {laps : LapMaterialiser} {stamp : Stamp} {event : TimingEvent}
    (outside : ¬ InCalendar event.time) :
    laps.absorb stamp event = ({ laps with malformedEvents := laps.malformedEvents + 1 }, none) :=
  if_neg outside

/-- Pit events neither touch the buffer nor give a lap row. -/
theorem absorb_pit {laps : LapMaterialiser} (stamp : Stamp) {event : TimingEvent}
    (upTo : UpTo laps event.lapNumber) (kind : event.type = .pitEntry ∨ event.type = .pitExit) :
    (laps.absorb stamp event).1.sectors = laps.sectors ∧
      UpTo (laps.absorb stamp event).1 event.lapNumber ∧
      lapRows (laps.absorb stamp event).2.toList = [] := by
  by_cases inside : InCalendar event.time
  · unfold LapMaterialiser.absorb
    rw [if_pos inside, upTo.adopt]
    have adopted : UpTo { laps with highestLapNumber := some (event.lapNumber : Int) }
        event.lapNumber := by
      intro highest known
      cases known
      exact le_refl _
    rcases kind with entry | exit
    · rw [entry]
      exact ⟨rfl, adopted, rfl⟩
    · rw [exit]
      exact ⟨rfl, adopted, rfl⟩
  · rw [absorb_outside inside]
    exact ⟨rfl, upTo, rfl⟩

/-- The row of a valid lap: its sectors are the rows of sector events of the stream,
numbered 1 to n, whose splits and crossing times add up; `starts` relates the start of
the lap to a crossing in it. -/
structure Complete (starts : ℚ → ℚ → Prop) (config : Config) (sectors : List TimingEvent)
    (event : TimingEvent) (row : LapRow) : Prop where
  lapNumber : row.lapNumber = event.lapNumber
  crossedAt : row.crossedAt = micros event.time
  lapTimeS : row.lapTimeS = some (.finite event.lapTime)
  valid : row.valid = true
  carries : ∃ own : List TimingEvent, row.sectors = own.map sectorRow ∧
    (∀ sector ∈ own, sector ∈ sectors) ∧
    own.map TimingEvent.sector = List.range' 1 config.nPoints ∧
    (∀ sector ∈ own, 0 ≤ sector.splitTime) ∧
    (own.map TimingEvent.splitTime).sum = event.lapTime ∧
    (own.map TimingEvent.time).Pairwise (· ≤ ·) ∧
    ∀ sector ∈ own, starts (event.time - event.lapTime) sector.time ∧ sector.time ≤ event.time

/-- The events of a fresh engine, printed and read back by a fresh materialiser, give one
lap row for each completed lap, in order, and those of valid laps are complete. -/
def CompleteRows (starts : ℚ → ℚ → Prop) (config : Config) (points : List GPSPoint)
    (text : PyText) (dumps : List (String × Json) → String) (vehicleId : String)
    (stamp : TimingEvent → Stamp) : Prop :=
  ∃ laps rows,
    observeAll text (.new vehicleId) ((processPoints config {} points).2.map
      fun event => dumps (encodeEvent (stamp event) event)) = .ok (laps, rows) ∧
    List.Forall₂
      (fun event row => event.valid = true → Complete starts config
        ((processPoints config {} points).2.filter fun event => event.type = .sectorCompleted)
        event row)
      ((processPoints config {} points).2.filter fun event => event.type = .lapCompleted)
      (lapRows rows)

section Filing

variable (config : Config) (vehicleId : String) (stamp : TimingEvent → Stamp)

/-- What the materialiser holds while the engine times: only sectors of the current
lap number, the latest crossings of this lap among them. -/
structure Filed (history : List Crossing) (state : TimingState) : Prop where
  tracks : Tracks config history state
  upTo : UpTo (absorbAll vehicleId stamp history).1 state.lapNumber
  keys : ∀ key ∈ (absorbAll vehicleId stamp history).1.sectors.keys,
    key.1 = state.lapNumber ∧ 1 ≤ key.2 ∧ key.2 < config.nPoints
  idle : state.lapStartTime = 0 →
    (absorbAll vehicleId stamp history).1.sectors.keys = [] ∧ state.lapNumber = 0
  current : ∀ earlier start between, LapSoFar history earlier start between → ∀ key row,
    (Dict.ofRows sectorKey sectorRow (sectorsOf between)).get? key = some row →
    (absorbAll vehicleId stamp history).1.sectors.get? key = some row
  rows : List.Forall₂
    (fun event row => event.valid = true →
      Complete (· ≤ ·) config (sectorsOf history) event row)
    (lapsOf history) (lapRows (absorbAll vehicleId stamp history).2)

end Filing

theorem Complete.mono {starts : ℚ → ℚ → Prop} {config : Config} {sectors more : List TimingEvent}
    {event : TimingEvent} {row : LapRow} (complete : Complete starts config sectors event row)
    (subset : ∀ sector ∈ sectors, sector ∈ more) : Complete starts config more event row := by
  obtain ⟨own, rows, among, facts⟩ := complete.carries
  exact ⟨complete.lapNumber, complete.crossedAt, complete.lapTimeS, complete.valid,
    own, rows, fun sector member => subset sector (among sector member), facts⟩

/-- With at most 64 lap points the buffer is never full during a lap. -/
theorem buffer_room {laps : LapMaterialiser} {lap points : Nat}
    (keys : ∀ key ∈ laps.sectors.keys, key.1 = (lap : Int) ∧ 1 ≤ key.2 ∧ key.2 < points)
    (few : points ≤ 64) :
    laps.sectors.entries.length < LapMaterialiser.maxBufferedSectors := by
  have within : laps.sectors.keys ⊆
      (List.range' 1 (points - 1)).map fun (sector : Nat) => ((lap : Int), (sector : Int)) := by
    intro key member
    obtain ⟨number, low, high⟩ := keys key member
    refine List.mem_map.mpr ⟨key.2.toNat, ?_, ?_⟩
    · rw [List.mem_range'_1]
      omega
    · exact Prod.ext number.symm (by simp; omega)
  have length := (List.subperm_of_subset laps.sectors.nodup within).length_le
  rw [List.length_map, List.length_map, List.length_range'] at length
  unfold LapMaterialiser.maxBufferedSectors
  omega

theorem buffered_room {laps : LapMaterialiser} (event : TimingEvent)
    (room : laps.sectors.entries.length < LapMaterialiser.maxBufferedSectors) :
    laps.buffered event =
      { laps with sectors := laps.sectors.set (sectorKey event) (sectorRow event) } := by
  unfold LapMaterialiser.buffered
  rw [if_neg (not_le.mpr room)]

theorem keys_set {κ ν : Type} [DecidableEq κ] {dict : Dict κ ν} {key : κ} {value : ν} {other : κ}
    (member : other ∈ (dict.set key value).keys) : other = key ∨ other ∈ dict.keys := by
  obtain ⟨entry, listed, same⟩ := List.mem_map.mp member
  rcases Dict.mem_entries_set listed with fresh | old
  · exact Or.inl (by rw [← same, fresh])
  · exact Or.inr (same ▸ List.mem_map_of_mem old)

/-- The end of the calendar, less the half microsecond that rounds into the next year. -/
def calendarEnd : ℚ := 253402300800 - 1 / 2000000

theorem inCalendar_of_lt {time : ℚ} (positive : 0 < time) (before : time < calendarEnd) :
    InCalendar time := by
  have low : 0 ≤ micros time := Rounding.halfEven_nonneg (by linarith)
  have high : micros time < 253402300800000000 := by
    apply Rounding.halfEven_lt_of_lt
    unfold calendarEnd at before
    push_cast
    linarith
  exact ⟨by omega, high⟩

theorem pitCrossing_events (line : TimingLine) (hit : Hit) (gps : GPSPoint)
    (accepted : TimingState) : ∃ event, (pitCrossing line hit gps accepted).events = [event] ∧
      event.lapNumber = accepted.lapNumber ∧
      (event.type = .pitEntry ∨ event.type = .pitExit) := by
  by_cases entry : line.lineType = .pitEntry
  · exact ⟨_, rfl, by simp [entry], Or.inl (by simp [entry])⟩
  · exact ⟨_, rfl, by simp [entry], Or.inr (by simp [entry])⟩

/-- A pit crossing neither touches the buffer nor gives a lap row. -/
theorem absorbAll_pit {config : Config} (vehicleId : String) (stamp : TimingEvent → Stamp)
    {history : List Crossing} {state accepted : TimingState} {line : TimingLine} {hit : Hit}
    (gps : GPSPoint) (upTo : UpTo (absorbAll vehicleId stamp history).1 state.lapNumber)
    (passed : accept config state line hit = some accepted) :
    (absorbAll vehicleId stamp (history ++ [pitCrossing line hit gps accepted])).1.sectors =
        (absorbAll vehicleId stamp history).1.sectors ∧
      UpTo (absorbAll vehicleId stamp (history ++ [pitCrossing line hit gps accepted])).1
        state.lapNumber ∧
      lapRows (absorbAll vehicleId stamp (history ++ [pitCrossing line hit gps accepted])).2 =
        lapRows (absorbAll vehicleId stamp history).2 := by
  obtain ⟨event, events, number, kind⟩ := pitCrossing_events line hit gps accepted
  have lap : event.lapNumber = state.lapNumber := number.trans (accept_clock passed).number
  obtain ⟨sectors, reached, rows⟩ := absorb_pit (stamp event) (lap ▸ upTo) kind
  rw [absorbAll_append, events, ← lap]
  refine ⟨sectors, reached, ?_⟩
  change lapRows (_ ++ _) = _
  rw [lapRows_append, rows, List.append_nil]

theorem absorbAll_silent (vehicleId : String) (stamp : TimingEvent → Stamp)
    (history : List Crossing) {crossing : Crossing} (silent : crossing.events = []) :
    absorbAll vehicleId stamp (history ++ [crossing]) = absorbAll vehicleId stamp history := by
  rw [absorbAll_append, silent]
  rfl

theorem tracks_pit {config : Config} {history : List Crossing} {state accepted : TimingState}
    {line : TimingLine} {hit : Hit} {gps : GPSPoint} (tracks : Tracks config history state)
    (passed : accept config state line hit = some accepted) :
    Tracks config (history ++ [pitCrossing line hit gps accepted])
      (handlePit accepted line hit gps).1 := by
  have engine : Tracks config (Engine.mk state none 0 history).history
      (Engine.mk state none 0 history).state := tracks
  exact crossPit_tracks engine passed

theorem tracks_lap {config : Config} {history : List Crossing} {state accepted : TimingState}
    {idx : Nat} {line : TimingLine} {hit : Hit} {gps : GPSPoint}
    (tracks : Tracks config history state)
    (arrival : Arrival config history state idx line hit gps accepted) :
    Tracks config (history ++ [lapCrossing config idx line hit gps accepted])
      (handleLapPoint config accepted idx line hit gps).1 := by
  have engine : Tracks config (Engine.mk state none 0 history).history
      (Engine.mk state none 0 history).state := tracks
  exact crossLapPoint_tracks engine arrival.inside arrival.positive arrival.passed

section Filing

variable {config : Config} {vehicleId : String} {stamp : TimingEvent → Stamp}

theorem filed_pit {history : List Crossing} {state accepted : TimingState} {line : TimingLine}
    {hit : Hit} {gps : GPSPoint} (filed : Filed config vehicleId stamp history state)
    (passed : accept config state line hit = some accepted) :
    Filed config vehicleId stamp (history ++ [pitCrossing line hit gps accepted])
      (handlePit accepted line hit gps).1 := by
  have clock := (accept_clock passed).trans (handlePit_clock accepted line hit gps)
  obtain ⟨sectors, upTo, rows⟩ := absorbAll_pit vehicleId stamp gps filed.upTo passed
  constructor
  · exact tracks_pit filed.tracks passed
  · rw [clock.number]
    exact upTo
  · rw [sectors, clock.number]
    exact filed.keys
  · rw [sectors, clock.number, clock.lapStart]
    exact filed.idle
  · intro earlier start between lap
    rw [sectors]
    rcases lap.concat_cases with ⟨none, _⟩ | ⟨front, whole, before, _⟩
    · rw [none]
      intro key row found
      cases found
    · rw [whole, sectorsOf_append, sectorsOf_pit, List.append_nil]
      exact filed.current earlier start front before
  · rw [rows, lapsOf_append, lapsOf_pit, List.append_nil, sectorsOf_append, sectorsOf_pit,
      List.append_nil]
    exact filed.rows

/-- A crossing that restarts the clock silently leaves buffer and rows as they are. -/
theorem filed_silent {history : List Crossing} {state next : TimingState} {crossing : Crossing}
    (filed : Filed config vehicleId stamp history state)
    (tracks : Tracks config (history ++ [crossing]) next) (starts : crossing.startsLap = true)
    (silent : crossing.events = []) (running : next.lapStartTime ≠ 0)
    (number : state.lapNumber ≤ next.lapNumber)
    (keys : ∀ key ∈ (absorbAll vehicleId stamp history).1.sectors.keys,
      key.1 = next.lapNumber ∧ 1 ≤ key.2 ∧ key.2 < config.nPoints) :
    Filed config vehicleId stamp (history ++ [crossing]) next := by
  have absorbed := absorbAll_silent vehicleId stamp history silent
  have noSector : sectorsOf [crossing] = [] := eventsOf_silent _ silent
  have noLap : lapsOf [crossing] = [] := eventsOf_silent _ silent
  constructor
  · exact tracks
  · rw [absorbed]
    exact filed.upTo.mono number
  · rw [absorbed]
    exact keys
  · exact fun idle => absurd idle running
  · intro earlier start between lap
    rcases lap.concat_cases with ⟨none, _⟩ | ⟨_, _, _, continues⟩
    · rw [none]
      intro key row found
      cases found
    · rw [starts] at continues
      cases continues
  · rw [absorbed, lapsOf_append, noLap, List.append_nil, sectorsOf_append, noSector,
      List.append_nil]
    exact filed.rows

/-- A buffered sector of the current lap. -/
theorem absorb_current {laps : LapMaterialiser} {event : TimingEvent} {points : Nat} (mark : Stamp)
    (upTo : UpTo laps event.lapNumber)
    (keys : ∀ key ∈ laps.sectors.keys,
      key.1 = (event.lapNumber : Int) ∧ 1 ≤ key.2 ∧ key.2 < points)
    (few : points ≤ 64) (kind : event.type = .sectorCompleted) (inside : InCalendar event.time) :
    laps.absorb mark event =
      ({ laps with
          highestLapNumber := some (event.lapNumber : Int)
          sectors := laps.sectors.set (sectorKey event) (sectorRow event) }, none) := by
  rw [absorb_sector upTo kind inside]
  have room := buffer_room keys few
  rw [buffered_room event (by exact room)]

theorem filed_sector {history : List Crossing} {state next : TimingState} {crossing : Crossing}
    {event : TimingEvent} (few : config.nPoints ≤ 64)
    (filed : Filed config vehicleId stamp history state)
    (tracks : Tracks config (history ++ [crossing]) next)
    (continues : crossing.startsLap = false) (emitted : crossing.events = [event])
    (kind : event.type = .sectorCompleted) (inside : InCalendar event.time)
    (lapNumber : event.lapNumber = state.lapNumber) (number : next.lapNumber = state.lapNumber)
    (sector : 0 < event.sector ∧ event.sector < config.nPoints)
    (running : next.lapStartTime ≠ 0) :
    Filed config vehicleId stamp (history ++ [crossing]) next := by
  have absorbed : absorbAll vehicleId stamp (history ++ [crossing]) =
      ({ (absorbAll vehicleId stamp history).1 with
          highestLapNumber := some (event.lapNumber : Int)
          sectors := (absorbAll vehicleId stamp history).1.sectors.set (sectorKey event)
            (sectorRow event) }, (absorbAll vehicleId stamp history).2) := by
    rw [absorbAll_append, emitted]
    change absorbNext stamp (absorbAll vehicleId stamp history) event = _
    rw [absorbNext, absorb_current (stamp event) (lapNumber ▸ filed.upTo)
      (lapNumber ▸ filed.keys) few kind inside]
    exact Prod.ext rfl (List.append_nil _)
  have sectors : sectorsOf [crossing] = [event] := by simp [sectorsOf, eventsOf, emitted, kind]
  have noLap : lapsOf [crossing] = [] := by simp [lapsOf, eventsOf, emitted, kind]
  constructor
  · exact tracks
  · rw [absorbed, number, ← lapNumber]
    intro highest known
    cases known
    exact le_refl _
  · rw [absorbed, number]
    intro key member
    rcases keys_set member with fresh | old
    · have low : (1 : Int) ≤ event.sector := by omega
      have high : (event.sector : Int) < config.nPoints := by omega
      rw [fresh, sectorKey, lapNumber]
      exact ⟨rfl, low, high⟩
    · exact filed.keys key old
  · exact fun idle => absurd idle running
  · intro earlier start between lap key row found
    rcases lap.concat_cases with ⟨none, starts⟩ | ⟨front, whole, before, _⟩
    · have starting := lap.started
      rw [starts, continues] at starting
      cases starting
    · rw [absorbed, Dict.get?_set]
      rw [whole, sectorsOf_append, sectors, Dict.ofRows_append, Dict.get?_set] at found
      split at found
      · rename_i same
        rw [if_pos same]
        exact found
      · rename_i other
        rw [if_neg other]
        exact filed.current earlier start front before key row found
  · rw [absorbed, lapsOf_append, noLap, List.append_nil, sectorsOf_append]
    refine filed.rows.imp ?_
    intro lap row complete valid
    exact (complete valid).mono fun sector member => List.mem_append_left _ member

/-- The two events of a completed lap. -/
structure LapPair (config : Config) (state : TimingState) (hit : Hit) (valid : Bool)
    (last lap : TimingEvent) : Prop where
  sector : last.type = .sectorCompleted
  split : LastSplit config state hit last
  completed : lap.type = .lapCompleted
  report : LapReport state hit valid lap

theorem lapEvents_pair {config : Config} {state : TimingState} {line : TimingLine} {hit : Hit}
    {gps : GPSPoint} {valid : Bool} (later : state.segmentStartTime ≤ hit.time) :
    ∃ last lap, lapEvents config state line hit gps valid = [last, lap] ∧
      LapPair config state hit valid last lap :=
  ⟨_, _, rfl, ⟨rfl, ⟨⟨rfl, later, rfl⟩, rfl, rfl⟩, rfl, ⟨rfl, rfl, rfl, rfl⟩⟩⟩

/-- The buffer when a lap completes: the sectors so far and the last one. -/
def finishing (laps : LapMaterialiser) (last : TimingEvent) : LapMaterialiser :=
  { laps with highestLapNumber := some (last.lapNumber : Int) }.buffered last

/-- The buffer after it, without the sectors of the completed lap. -/
def cleared (laps : LapMaterialiser) (last lap : TimingEvent) : LapMaterialiser :=
  { finishing laps last with
    sectors := (finishing laps last).sectors.filter fun key => key.1 ≠ lap.lapNumber }

theorem absorb_pair {result : LapMaterialiser × List Materialised} {state : TimingState}
    {hit : Hit} {valid : Bool} {last lap : TimingEvent}
    (pair : LapPair config state hit valid last lap) (upTo : UpTo result.1 state.lapNumber)
    (inside : InCalendar hit.time) :
    [last, lap].foldl (absorbNext stamp) result =
      (cleared result.1 last lap,
        result.2 ++ [.lap ((finishing result.1 last).lapRow (stamp lap) lap)]) := by
  have number : last.lapNumber = state.lapNumber := pair.split.next.number
  have same : lap.lapNumber = last.lapNumber := pair.report.number.trans number.symm
  have first : absorbNext stamp result last = (finishing result.1 last, result.2) := by
    rw [absorbNext, absorb_sector (number ▸ upTo) pair.sector (pair.split.time ▸ inside)]
    exact Prod.ext rfl (List.append_nil _)
  have reached : UpTo (finishing result.1 last) lap.lapNumber := by
    intro highest known
    cases known
    rw [same]
  rw [List.foldl_cons, first, List.foldl_cons, List.foldl_nil, absorbNext,
    absorb_lap reached pair.completed (pair.report.time ▸ inside), cleared, same]
  rfl

theorem finishing_room {laps : LapMaterialiser} {last : TimingEvent} {points : Nat}
    (keys : ∀ key ∈ laps.sectors.keys,
      key.1 = (last.lapNumber : Int) ∧ 1 ≤ key.2 ∧ key.2 < points)
    (few : points ≤ 64) :
    (finishing laps last).sectors = laps.sectors.set (sectorKey last) (sectorRow last) := by
  have room := buffer_room keys few
  unfold finishing
  rw [buffered_room last (by exact room)]

/-- Every sector number from 1 to n is in the buffer of a valid lap, each with the row of
its crossing in this lap. -/
theorem finishing_sectors {history : List Crossing} {state accepted : TimingState}
    {hit : Hit} {valid : Bool} {last lap : TimingEvent} {earlier between : List Crossing}
    {start : Crossing} (filed : Filed config vehicleId stamp history state)
    (few : config.nPoints ≤ 64) (number : accepted.lapNumber = state.lapNumber)
    (points : 0 < config.nPoints) (pair : LapPair config accepted hit valid last lap)
    (so_far : LapSoFar history earlier start between) (running : Running accepted start between)
    (order : lapIndices between = List.range' 1 (config.nPoints - 1)) :
    (finishing (absorbAll vehicleId stamp history).1 last).sectorsFor lap.lapNumber =
        (sectorsOf between ++ [last]).map sectorRow ∧
      (sectorsOf between ++ [last]).map TimingEvent.sector = List.range' 1 config.nPoints := by
  have sectors : (sectorsOf between).map TimingEvent.sector = List.range' 1 (config.nPoints - 1) :=
    running.sectors.trans order
  have all : (sectorsOf between ++ [last]).map TimingEvent.sector =
      List.range' 1 config.nPoints := by
    rw [List.map_append, sectors, List.map_singleton, pair.split.sector]
    have whole : config.nPoints = config.nPoints - 1 + 1 := by omega
    conv_rhs => rw [whole, List.range'_concat, Nat.one_mul, Nat.add_comm]
    rw [← whole]
  have below : ∀ event ∈ sectorsOf between, 1 ≤ event.sector ∧ event.sector < config.nPoints := by
    intro event member
    have listed : event.sector ∈ (sectorsOf between).map TimingEvent.sector :=
      List.mem_map_of_mem member
    rw [sectors, List.mem_range'_1] at listed
    omega
  have lapNumber := pair.report.number
  have numbers := running.number_next pair.split.next
  have distinct : ((sectorsOf between).map sectorKey).Nodup := by
    refine List.Nodup.of_map Prod.snd ?_
    rw [List.map_map]
    have cast : Prod.snd ∘ sectorKey = (fun sector : Nat => (sector : Int)) ∘ TimingEvent.sector :=
      rfl
    rw [cast, ← List.map_map, sectors]
    exact (List.nodup_range').map Nat.cast_injective
  have buffer := finishing_room
    ((pair.split.next.number.trans number).symm ▸ filed.keys) few
  refine ⟨?_, all⟩
  apply sectorsFor_eq
  · intro key member
    rw [buffer] at member
    rcases keys_set member with fresh | old
    · exact ⟨last, by simp, fresh.symm⟩
    · obtain ⟨lapKey, low, high⟩ := filed.keys key old
      have listed : key.2.toNat ∈ (sectorsOf between).map TimingEvent.sector := by
        rw [sectors, List.mem_range'_1]
        omega
      obtain ⟨event, among, same⟩ := List.mem_map.mp listed
      refine ⟨event, List.mem_append_left _ among, ?_⟩
      have own := running.number event among
      exact Prod.ext (by simp [sectorKey, own, number, lapKey]) (by simp [sectorKey, same]; omega)
  · intro event member
    rw [buffer, Dict.get?_set]
    rcases List.mem_append.mp member with old | fresh
    · have other : sectorKey last ≠ sectorKey event := by
        intro same
        have numbers := congrArg Prod.snd same
        have bound := below event old
        have split := pair.split.sector
        simp only [sectorKey] at numbers
        omega
      rw [if_neg other]
      exact filed.current earlier start between so_far _ _
        (Dict.get?_ofRows_of_mem distinct old)
    · rw [List.mem_singleton.mp fresh, if_pos rfl]
  · intro event member
    rw [numbers event member, lapNumber]
  · rw [all]
    exact List.pairwise_lt_range'

/-- The row of a valid lap is complete. -/
theorem finishing_complete {history : List Crossing} {state accepted : TimingState}
    {line : TimingLine} {hit : Hit} {gps : GPSPoint} {valid : Bool} {last lap : TimingEvent}
    {crossing : Crossing} (few : config.nPoints ≤ 64)
    (filed : Filed config vehicleId stamp history state)
    (arrival : Arrival config history state 0 line hit gps accepted)
    (running : accepted.lapStartTime ≠ 0)
    (verdict : valid = (accepted.lapValid && decide (0 = accepted.expectedIdx) &&
      decide (accepted.pitStatus = .track)))
    (emitted : crossing.events = [last, lap])
    (pair : LapPair config accepted hit valid last lap)
    (member : lap ∈ lapEvents config accepted line hit gps valid) (counts : lap.valid = true) :
    Complete (· ≤ ·) config (sectorsOf (history ++ [crossing])) lap
      ((finishing (absorbAll vehicleId stamp history).1 last).lapRow (stamp lap) lap) := by
  have tracks : Tracks config history accepted := by
    obtain ⟨times, directions, rfl⟩ := accept_frame arrival.passed
    exact filed.tracks
  have same := accept_clock arrival.passed
  obtain ⟨_, earlier, start, between, so_far, timed⟩ := arrival.accepted_clocked.running running
  obtain ⟨earlier', start', between', so_far', judged⟩ :=
    lapEvents_judged accepted tracks running arrival.inside lap (verdict ▸ member) pair.completed
  obtain ⟨rfl, rfl⟩ := so_far.unique so_far'
  obtain ⟨_, order, _, _⟩ := judged.mp counts
  obtain ⟨rows, all⟩ :=
    finishing_sectors filed few same.number arrival.inside pair so_far timed order
  have sectors : sectorsOf [crossing] = [last] := by
    simp [sectorsOf, eventsOf, emitted, pair.sector, pair.completed]
  have split := pair.split.next
  have ordered := timed.ordered_next split
  obtain ⟨after, times⟩ := List.pairwise_cons.mp ordered
  have lapStart : lap.time - lap.lapTime = start.time := by
    rw [pair.report.time, pair.report.lapTime, timed.lapStart]
    linarith
  refine ⟨congrArg Nat.cast rfl, rfl, rfl, counts, sectorsOf between ++ [last], rows, ?_, all,
    timed.nonneg_next split, ?_, times, ?_⟩
  · intro sector listed
    rw [sectorsOf_append, sectors]
    rcases List.mem_append.mp listed with old | fresh
    · refine List.mem_append_left _ ?_
      rw [so_far.split, sectorsOf_append, ← List.singleton_append, sectorsOf_append]
      exact List.mem_append_right _ (List.mem_append_right _ old)
    · exact List.mem_append_right _ fresh
  · rw [timed.sum_next split, pair.split.time, pair.report.lapTime, timed.lapStart]
  · intro sector listed
    rw [lapStart]
    refine ⟨after sector.time (List.mem_map_of_mem listed), ?_⟩
    rw [pair.report.time, ← pair.split.time]
    rcases List.mem_append.mp listed with old | fresh
    · exact (timed.reached sector old).trans split.later
    · rw [List.mem_singleton.mp fresh]

theorem filed_completed {history : List Crossing} {state accepted : TimingState}
    {line : TimingLine} {hit : Hit} {gps : GPSPoint} {valid : Bool} {next : TimingState}
    (few : config.nPoints ≤ 64) (filed : Filed config vehicleId stamp history state)
    (arrival : Arrival config history state 0 line hit gps accepted)
    (inside : InCalendar hit.time) (running : accepted.lapStartTime ≠ 0)
    (verdict : valid = (accepted.lapValid && decide (0 = accepted.expectedIdx) &&
      decide (accepted.pitStatus = .track)))
    (clock : Restarted next hit.time) (number : next.lapNumber = accepted.lapNumber + 1)
    (tracks : Tracks config (history ++ [lapCrossing config 0 line hit gps accepted]) next)
    (emitted : (lapCrossing config 0 line hit gps accepted).events =
      lapEvents config accepted line hit gps valid) :
    Filed config vehicleId stamp (history ++ [lapCrossing config 0 line hit gps accepted])
      next := by
  have same := accept_clock arrival.passed
  obtain ⟨last, lap, events, pair⟩ : ∃ last lap,
      lapEvents config accepted line hit gps valid = [last, lap] ∧
        LapPair config accepted hit valid last lap := lapEvents_pair arrival.accepted_later
  have lapNumber : lap.lapNumber = state.lapNumber := pair.report.number.trans same.number
  have lastNumber : last.lapNumber = state.lapNumber :=
    pair.split.next.number.trans same.number
  have absorbed : [last, lap].foldl (absorbNext stamp) (absorbAll vehicleId stamp history) = _ :=
    absorb_pair pair (same.number.symm ▸ filed.upTo) inside
  rw [← events, ← emitted, ← absorbAll_append] at absorbed
  have sectors : sectorsOf [lapCrossing config 0 line hit gps accepted] = [last] := by
    simp [sectorsOf, eventsOf, emitted, events, pair.sector, pair.completed]
  have laps : lapsOf [lapCrossing config 0 line hit gps accepted] = [lap] := by
    simp [lapsOf, eventsOf, emitted, events, pair.sector, pair.completed]
  constructor
  · exact tracks
  · rw [absorbed, number, same.number]
    intro highest known
    cases known
    rw [lastNumber]
    omega
  · rw [absorbed]
    intro key member
    obtain ⟨entry, listed, key_eq⟩ := List.mem_map.mp member
    obtain ⟨present, other⟩ := Dict.mem_entries_filter.mp listed
    have buffer := finishing_room (lastNumber.symm ▸ filed.keys) few
    have old : entry.1.1 = (state.lapNumber : Int) := by
      rw [buffer] at present
      rcases keys_set (List.mem_map_of_mem present) with fresh | before
      · rw [fresh, sectorKey, lastNumber]
      · exact (filed.keys entry.1 before).1
    rw [lapNumber] at other
    simp [old] at other
  · intro idle
    rw [clock.lapStart] at idle
    exact absurd idle (ne_of_gt arrival.positive)
  · intro earlier start between so_far
    rcases so_far.concat_cases with ⟨none, _⟩ | ⟨_, _, _, continues⟩
    · rw [none]
      intro key row found
      cases found
    · simp [lapCrossing, startsLap] at continues
  · rw [absorbed, lapsOf_append, laps, lapRows_append]
    refine List.rel_append ?_ (List.Forall₂.cons ?_ List.Forall₂.nil)
    · refine filed.rows.imp ?_
      intro event row complete counts
      refine (complete counts).mono fun sector member => ?_
      rw [sectorsOf_append]
      exact List.mem_append_left _ member
    · intro counts
      exact finishing_complete few filed arrival running verdict (emitted.trans events) pair
        (by rw [events]; simp) counts

theorem filed_lap {history : List Crossing} {state accepted : TimingState} {idx : Nat}
    {line : TimingLine} {hit : Hit} {gps : GPSPoint} (few : config.nPoints ≤ 64)
    (filed : Filed config vehicleId stamp history state)
    (arrival : Arrival config history state idx line hit gps accepted)
    (inside : InCalendar hit.time) :
    Filed config vehicleId stamp (history ++ [lapCrossing config idx line hit gps accepted])
      (handleLapPoint config accepted idx line hit gps).1 := by
  have same := accept_clock arrival.passed
  have tracks := tracks_lap filed.tracks arrival
  cases lapCrossing_step config accepted idx line hit gps with
  | first idle clock number best silent =>
    obtain ⟨none, zero⟩ := filed.idle (same.lapStart ▸ idle)
    refine filed_silent filed tracks (by simp [lapCrossing, startsLap, idle]) silent ?_ ?_ ?_
    · rw [clock.lapStart]
      exact ne_of_gt arrival.positive
    · omega
    · rw [none]
      exact fun key member => absurd member List.not_mem_nil
  | abandoned running zero short clock number best silent =>
    refine filed_silent filed tracks (by simp [lapCrossing, startsLap, zero]) silent ?_ ?_ ?_
    · rw [clock.lapStart]
      exact ne_of_gt arrival.positive
    · rw [number, same.number]
    · rw [number, same.number]
      exact filed.keys
  | completed running zero progress long valid verdict clock number best emitted =>
    subst zero
    exact filed_completed few filed arrival inside running verdict clock number tracks emitted
  | sector running nonzero lapStart segment done number best emitted =>
    refine filed_sector few filed tracks ?_ emitted rfl inside same.number ?_ ?_ ?_
    · simp [lapCrossing, startsLap, running, nonzero]
    · rw [number, same.number]
    · have point := arrival.inside
      simp only [sectorEvent]
      omega
    · rw [lapStart]
      exact running

theorem filed_stable (few : config.nPoints ≤ 64) :
    Stable config (fun _ gps => gps.timestamp < calendarEnd) (Filed config vehicleId stamp) := by
  constructor
  · intro history state line hit gps accepted clocked filed passed
    exact filed_pit filed passed
  · intro history state idx line hit gps accepted arrival filed ⟨engine, before, found⟩
    exact filed_lap few filed arrival
      (inCalendar_of_lt arrival.positive (lt_of_le_of_lt arrival.reached before))

theorem filed_fresh : Filed config vehicleId stamp [] {} := by
  constructor
  · exact Or.inl rfl
  · exact upTo_new vehicleId 0
  · exact fun key member => absurd member List.not_mem_nil
  · exact fun _ => ⟨rfl, rfl⟩
  · intro earlier start between so_far
    have split := so_far.split
    simp at split
  · exact List.Forall₂.nil

end Filing

/-- For every track with at most 64 lap points and every forward stream within the
calendar, the events of a fresh engine read back by a fresh materialiser give one lap
row for each completed lap, in order, and the row of a valid lap carries the sectors
1 to n, each once and in order: their splits are not negative and sum to the lap time,
and their crossing times do not decrease from the start of the lap to its end. -/
theorem valid_laps_complete (config : Config) (few : config.nPoints ≤ 64)
    (points : List GPSPoint) (forward : Forward points)
    (calendar : ∀ gps ∈ points, gps.timestamp < calendarEnd) (text : PyText)
    (dumps : List (String × Json) → String) (vehicleId : String) (stamp : TimingEvent → Stamp)
    (lossless : ∀ event ∈ (processPoints config {} points).2,
      Lossless text dumps (encodeEvent (stamp event) event)) :
    CompleteRows (· ≤ ·) config points text dumps vehicleId stamp := by
  have events := processPoints_history config points
  have filed : Filed config vehicleId stamp (processPoints config {} points).1.history
      (processPoints config {} points).1.state :=
    (filed_stable few).throughout filed_fresh points forward
      (throughout_of_forall config {} calendar)
  unfold CompleteRows
  rw [events] at lossless ⊢
  exact ⟨_, _, observeAll_encoded vehicleId lossless, filed.rows⟩

/-- A JSON printer for the flat payloads of examples whose numbers have at most one decimal. -/
def printJson : Json → String
  | .str value => "\"" ++ value ++ "\""
  | .int value => toString value
  | .bool value => if value then "true" else "false"
  | .float (.finite value) =>
    let tenths := (value * 10).num
    toString (tenths / 10) ++ "." ++ toString (tenths % 10)
  | _ => "null"

def printFields (fields : List (String × Json)) : String :=
  "\x7b" ++ String.intercalate "," ((fields.insertionSort fun first second =>
    first.1 ≤ second.1).map fun entry => "\"" ++ entry.1 ++ "\":" ++ printJson entry.2) ++ "\x7d"

/-- The reader that knows the printed payloads of some events. -/
def readerOf (events : List TimingEvent) : PyText where
  deep _ := false
  loads payload := (events.find? fun event => printFields (encodeEvent {} event) = payload).map
    fun event => .object (encodeEvent {} event)
  float _ := none
  int _ := none
  str _ := ""

theorem readerOf_lossless {events : List TimingEvent}
    (distinct : (events.map fun event => printFields (encodeEvent {} event)).Nodup) :
    ∀ event ∈ events, Lossless (readerOf events) printFields (encodeEvent {} event) := by
  intro event member
  refine ⟨rfl, encodeEvent {} event, ?_, fun name => rfl⟩
  have found : (events.find? fun other =>
      printFields (encodeEvent {} other) = printFields (encodeEvent {} event)) = some event := by
    obtain ⟨other, first⟩ : ∃ other, (events.find? fun other =>
        printFields (encodeEvent {} other) = printFields (encodeEvent {} event)) = some other := by
      rw [← Option.isSome_iff_exists, List.find?_isSome]
      exact ⟨event, member, by simp⟩
    have same := List.inj_on_of_nodup_map distinct (List.mem_of_find?_eq_some first) member
      (by simpa using List.find?_some first)
    rw [first, same]
  change (events.find? _).map _ = _
  rw [found]
  rfl

theorem oneLap_complete :
    (∃ event ∈ (processPoints (straight []) {} oneLap).2,
      event.type = .lapCompleted ∧ event.valid = true) ∧
      CompleteRows (· ≤ ·) (straight []) oneLap
        (readerOf (processPoints (straight []) {} oneLap).2) printFields "car" fun _ => {} :=
  ⟨by decide +kernel,
    valid_laps_complete (straight []) (by decide +kernel) oneLap oneLap_forward (by decide +kernel)
      _ printFields "car" (fun _ => {}) (readerOf_lossless (by decide +kernel))⟩

/-- The rows that a complete reading yields, in terms of the events absorbed. -/
theorem CompleteRows.absorbed {starts : ℚ → ℚ → Prop} {config : Config} {points : List GPSPoint}
    (complete : CompleteRows starts config points
      (readerOf (processPoints config {} points).2) printFields "car" fun _ => {})
    (distinct : ((processPoints config {} points).2.map
      fun event => printFields (encodeEvent {} event)).Nodup) :
    List.Forall₂
      (fun event row => event.valid = true → Complete starts config
        ((processPoints config {} points).2.filter fun event => event.type = .sectorCompleted)
        event row)
      ((processPoints config {} points).2.filter fun event => event.type = .lapCompleted)
      (lapRows (absorbAll "car" (fun _ => {}) (processPoints config {} points).1.history).2) := by
  obtain ⟨laps, rows, observed, all⟩ := complete
  have lossless := readerOf_lossless distinct
  have events := processPoints_history config points
  have known := observeAll_encoded "car" (by rw [← events]; exact lossless)
  rw [← events, observed] at known
  have same : rows = _ := congrArg Prod.snd (Except.ok.inj known)
  rw [← same]
  exact all

/-- One lap in which the fixes around the start come with one timestamp. -/
def sameInstant : List GPSPoint :=
  [⟨0, -1 / 2, 3⟩, ⟨0, 1 / 2, 3⟩, ⟨0, 3 / 2, 3⟩, ⟨0, 5 / 2, 23⟩, ⟨5, 5 / 2, 33⟩, ⟨5, -1 / 2, 43⟩,
    ⟨0, -1 / 2, 53⟩, ⟨0, 1 / 2, 63⟩]

/-- The same lap in the year 10000. -/
def farLap : List GPSPoint :=
  oneLap.map fun gps => { gps with timestamp := gps.timestamp + 253402300800 }

/-- A sector can be crossed at the very instant its lap starts, and crossings after the
year 9999 give no row at all. -/
theorem boundary_laps :
    (Forward sameInstant ∧ ¬ CompleteRows (· < ·) (straight []) sameInstant
      (readerOf (processPoints (straight []) {} sameInstant).2) printFields "car" fun _ => {}) ∧
    (Forward farLap ∧ ¬ CompleteRows (· ≤ ·) (straight []) farLap
      (readerOf (processPoints (straight []) {} farLap).2) printFields "car" fun _ => {}) := by
  constructor
  · refine ⟨⟨by decide +kernel, by decide +kernel⟩, fun complete => ?_⟩
    have rows := complete.absorbed (by decide +kernel)
    have laps : ∀ event ∈ (processPoints (straight []) {} sameInstant).2.filter
        (fun event => event.type = .lapCompleted),
        event.valid = true ∧ event.time - event.lapTime = 3 := by decide +kernel
    have sectors : ∀ event ∈ (processPoints (straight []) {} sameInstant).2, event.sector = 1 →
        event.time = 3 := by decide +kernel
    have count : ((processPoints (straight []) {} sameInstant).2.filter
        fun event => event.type = .lapCompleted).length = 1 := by decide +kernel
    obtain ⟨lap, only⟩ := List.length_eq_one_iff.mp count
    rw [only] at rows laps
    obtain ⟨row, _, whole, _⟩ := List.forall₂_cons_left_iff.mp rows
    obtain ⟨valid, start⟩ := laps lap (by simp)
    obtain ⟨own, _, among, numbers, _, _, _, within⟩ := (whole valid).carries
    have first : 1 ∈ own.map TimingEvent.sector := by
      rw [numbers]
      decide +kernel
    obtain ⟨sector, member, one⟩ := List.mem_map.mp first
    have late := (within sector member).1
    rw [start, sectors sector (List.mem_of_mem_filter (among sector member)) one] at late
    exact lt_irrefl 3 late
  · refine ⟨⟨by decide +kernel, by decide +kernel⟩, fun complete => ?_⟩
    have rows := (complete.absorbed (by decide +kernel)).length_eq
    revert rows
    decide +kernel

end OpenLaps.Ingest

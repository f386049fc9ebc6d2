import OpenLaps.Timing.Debounce
import OpenLaps.Timing.PitLane

/- The order of the events of one GPS segment. The loops test the lines in the
order of the configuration, pit lines first, and not by the time of the crossing. -/
namespace OpenLaps.Timing

/-- The pit status that an accepted pit line sets. -/
def Passage.status (passage : Passage) : PitStatus :=
  if passage.line.lineType = .pitEntry then .pit else .track

/-- The event of an accepted pit line. -/
def pitEvent (lapNumber : Nat) (gps : GPSPoint) (passage : Passage) : TimingEvent where
  type := if passage.line.lineType = .pitEntry then .pitEntry else .pitExit
  time := passage.hit.time
  line := passage.line.name
  lat := gps.lat
  lon := gps.lon
  lapNumber := lapNumber
  direction := passage.hit.direction
  pitStatus := passage.status

/-- The events of the lap point that the segment ending at `gps` passes. -/
def lapPointEvents (config : Config) (engine : Engine) (gps : GPSPoint) : List TimingEvent :=
  match lapHit config engine gps with
  | none => []
  | some (idx, line, hit, accepted) => (handleLapPoint config accepted idx line hit gps).2

/-- The events come in non-decreasing order of their time. -/
def InTimeOrder (events : List TimingEvent) : Prop :=
  events.Pairwise fun first second => first.time ≤ second.time

instance (events : List TimingEvent) : Decidable (InTimeOrder events) :=
  inferInstanceAs (Decidable (List.Pairwise _ _))

/-- The status is that of a pit crossing with the latest time, if there was one. -/
def ReflectsLatest (pits : List Passage) (status : PitStatus) : Prop :=
  pits = [] ∨ ∃ latest ∈ pits, (∀ other ∈ pits, other.hit.time ≤ latest.hit.time) ∧
    status = latest.status

instance (pits : List Passage) (status : PitStatus) : Decidable (ReflectsLatest pits status) :=
  inferInstanceAs (Decidable (_ ∨ _))

theorem handlePit_event (state : TimingState) (line : TimingLine) (hit : Hit) (gps : GPSPoint) :
    (handlePit state line hit gps).2 = [pitEvent state.lapNumber gps ⟨line, hit⟩] := by
  by_cases entry : line.lineType = .pitEntry <;>
    simp [handlePit, pitEvent, Passage.status, entry]

theorem handlePit_state (state : TimingState) (line : TimingLine) (hit : Hit) (gps : GPSPoint) :
    (handlePit state line hit gps).1.lapNumber = state.lapNumber ∧
      (handlePit state line hit gps).1.pitStatus = Passage.status ⟨line, hit⟩ := by
  by_cases entry : line.lineType = .pitEntry <;> simp [handlePit, Passage.status, entry]

/-- The pit lines give one event each, in the order in which they are tested. -/
theorem pitPass_tested (config : Config) (prev gps : GPSPoint) (lines : List TimingLine)
    (engine : Engine) :
    (pitPass config prev gps lines engine).2 =
      (pitPassages config prev gps lines engine).map (pitEvent engine.state.lapNumber gps) := by
  induction lines generalizing engine with
  | nil => rfl
  | cons line rest ih =>
      rw [pitPass_cons, pitPassages_cons]
      cases found : acceptedHit config engine prev gps line with
      | none => exact ih engine
      | some taken =>
          obtain ⟨hit, accepted⟩ := taken
          obtain ⟨times, directions, same⟩ := accept_frame (acceptedHit_some found).passed
          have number : accepted.lapNumber = engine.state.lapNumber := by rw [same]
          have later := ih (crossPit engine line hit gps accepted).1
          have kept : (crossPit engine line hit gps accepted).1.state.lapNumber =
              engine.state.lapNumber := (handlePit_state accepted line hit gps).1.trans number
          rw [kept] at later
          show (handlePit accepted line hit gps).2 ++ (pitPass config prev gps rest _).2 = _
          rw [handlePit_event, later, number]
          rfl

theorem pitPassages_sublist (config : Config) (prev gps : GPSPoint) (lines : List TimingLine)
    (engine : Engine) :
    ((pitPassages config prev gps lines engine).map Passage.line).Sublist lines := by
  induction lines generalizing engine with
  | nil => exact List.Sublist.slnil
  | cons line rest ih =>
      rw [pitPassages_cons]
      split
      · exact (ih engine).cons line
      · exact (ih _).cons_cons line

/-- The pit lines leave the status of the last one accepted. -/
theorem pitPass_status (config : Config) (prev gps : GPSPoint) (lines : List TimingLine)
    (engine : Engine) :
    (pitPass config prev gps lines engine).1.state.pitStatus =
      ((pitPassages config prev gps lines engine).getLast?.map Passage.status).getD
        engine.state.pitStatus := by
  apply pitPass_passages (fun current passed => current.state.pitStatus =
    (passed.getLast?.map Passage.status).getD engine.state.pitStatus) ?_ lines engine [] ?_
  · intro current passed line hit accepted _ _
    rw [List.getLast?_concat]
    exact (handlePit_state accepted line hit gps).2
  · rfl

/-- What one point does to the pit status and which events it gives. -/
theorem processPoint_tested (config : Config) (engine : Engine) (gps : GPSPoint) :
    (processPoint config engine gps).2 =
      (pitsOf config engine gps).map (pitEvent engine.state.lapNumber gps) ++
        lapPointEvents config engine gps ∧
      (processPoint config engine gps).1.state.pitStatus =
        ((pitsOf config engine gps).getLast?.map Passage.status).getD engine.state.pitStatus := by
  unfold processPoint pitsOf lapPointEvents lapHit
  cases known : engine.prev with
  | none => exact ⟨rfl, rfl⟩
  | some prev =>
      have events := pitPass_tested config prev gps config.pitLines
        { engine with prev := some gps }
      have status := pitPass_status config prev gps config.pitLines
        { engine with prev := some gps }
      dsimp only [Option.bind_some, processSegment]
      rcases lapPass_cases config prev gps 0 config.lapPoints (afterPits config engine prev gps)
        with ⟨missed, none_crossed⟩ | ⟨idx, line, hit, accepted, _, taken, found, same⟩
      · rw [missed]
        unfold afterPits at none_crossed
        rw [none_crossed]
        dsimp only
        rw [List.append_nil, List.append_nil]
        exact ⟨events, status⟩
      · rw [found]
        unfold afterPits at same taken
        rw [same]
        obtain ⟨times, directions, frame⟩ := accept_frame taken.passed
        have kept : accepted.pitStatus =
            (pitPass config prev gps config.pitLines
              { engine with prev := some gps }).1.state.pitStatus := by rw [frame]
        constructor
        · show (pitPass config prev gps config.pitLines _).2 ++ _ = _
          rw [events]
          rfl
        · show (handleLapPoint config accepted (0 + idx) line hit gps).1.pitStatus = _
          rw [(handleLapPoint_lap config accepted (0 + idx) line hit gps).1, kept]
          exact status

/-- All events of a lap point carry the time of its crossing. -/
theorem lapPointEvents_time {config : Config} {engine : Engine} {gps : GPSPoint}
    {event : TimingEvent} (member : event ∈ lapPointEvents config engine gps) :
    ∃ passage, lapPassage config engine gps = some passage ∧ event.time = passage.hit.time := by
  unfold lapPointEvents at member
  unfold lapPassage
  cases found : lapHit config engine gps with
  | none =>
      rw [found] at member
      cases member
  | some taken =>
      obtain ⟨idx, line, hit, accepted⟩ := taken
      rw [found] at member
      exact ⟨⟨line, hit⟩, rfl, handleLapPoint_time member⟩

theorem lapPointEvents_inTimeOrder (config : Config) (engine : Engine) (gps : GPSPoint) :
    InTimeOrder (lapPointEvents config engine gps) := by
  apply List.pairwise_of_forall_mem_list
  intro first member second present
  obtain ⟨passage, known, time⟩ := lapPointEvents_time member
  obtain ⟨other, same, time'⟩ := lapPointEvents_time present
  rw [known] at same
  cases same
  rw [time, time']

theorem reflectsLatest_of_ordered {pits : List Passage} {before : PitStatus}
    (ordered : pits.Pairwise fun first second => first.hit.time ≤ second.hit.time) :
    ReflectsLatest pits ((pits.getLast?.map Passage.status).getD before) := by
  rcases List.eq_nil_or_concat pits with rfl | ⟨front, last, rfl⟩
  · exact Or.inl rfl
  · right
    rw [List.concat_eq_append] at ordered ⊢
    refine ⟨last, List.mem_append_right _ (List.mem_singleton_self _), ?_, ?_⟩
    · intro other member
      rcases List.mem_append.mp member with earlier | same
      · exact (List.pairwise_append.mp ordered).2.2 other earlier last (List.mem_singleton_self _)
      · rw [List.mem_singleton.mp same]
    · rw [List.getLast?_concat]
      rfl

/-- The events of a segment come in the order in which its lines are tested: one
for each accepted pit line, in the order of the configuration, then those of at most
one lap point. They are in time order exactly when these crossings are, and the
pit status is that of the last accepted pit line of the configuration. -/
theorem segment_tested_order (config : Config) (engine : Engine) (gps : GPSPoint) :
    ((pitsOf config engine gps).map Passage.line).Sublist config.pitLines ∧
      (processPoint config engine gps).2 =
        (pitsOf config engine gps).map (pitEvent engine.state.lapNumber gps) ++
          lapPointEvents config engine gps ∧
      (∀ event ∈ lapPointEvents config engine gps, ∃ passage,
        lapPassage config engine gps = some passage ∧ event.time = passage.hit.time) ∧
      (InTimeOrder (processPoint config engine gps).2 ↔
        ((pitsOf config engine gps).Pairwise fun first second =>
          first.hit.time ≤ second.hit.time) ∧
        ∀ passage ∈ pitsOf config engine gps, ∀ event ∈ lapPointEvents config engine gps,
          passage.hit.time ≤ event.time) ∧
      (processPoint config engine gps).1.state.pitStatus =
        ((pitsOf config engine gps).getLast?.map Passage.status).getD engine.state.pitStatus ∧
      (((pitsOf config engine gps).Pairwise fun first second =>
          first.hit.time ≤ second.hit.time) →
        ReflectsLatest (pitsOf config engine gps)
          (processPoint config engine gps).1.state.pitStatus) := by
  obtain ⟨events, status⟩ := processPoint_tested config engine gps
  refine ⟨?_, events, fun event member => lapPointEvents_time member, ?_, status, ?_⟩
  · unfold pitsOf
    split
    · exact List.nil_sublist _
    · exact pitPassages_sublist config _ gps config.pitLines _
  · rw [events, InTimeOrder, List.pairwise_append, List.pairwise_map]
    have laps := lapPointEvents_inTimeOrder config engine gps
    constructor
    · intro ordered
      refine ⟨ordered.1, ?_⟩
      intro passage member event listed
      exact ordered.2.2 _ (List.mem_map_of_mem member) event listed
    · intro ordered
      refine ⟨ordered.1, laps, ?_⟩
      intro event member later listed
      obtain ⟨passage, passed, rfl⟩ := List.mem_map.mp member
      exact ordered.2 passage passed later listed
  · intro ordered
    rw [status]
    exact reflectsLatest_of_ordered ordered

/-- A pit entry and a pit exit across a straight, the entry listed first. -/
def shortPitLane : Config :=
  straight [⟨"Pit Entry", ⟨-1, 7 / 4, 0⟩, ⟨1, 7 / 4, 0⟩, .pitEntry⟩,
    ⟨"Pit Exit", ⟨-1, 3 / 4, 0⟩, ⟨1, 3 / 4, 0⟩, .pitExit⟩]

/-- Just past start/finish, and a gap over the pit exit, a sector and the pit entry:
the entry comes first among the events, and the status is the one the exit set. -/
theorem long_segment_out_of_order :
    let started := (processPoints shortPitLane {} [⟨0, -1 / 2, 1⟩, ⟨0, 1 / 2, 3⟩]).1
    let segment := processPoint shortPitLane started ⟨0, 5 / 2, 13⟩
    segment.2.map TimingEvent.time = [37 / 4, 17 / 4, 11 / 2] ∧ ¬ InTimeOrder segment.2 ∧
      ¬ ReflectsLatest (pitsOf shortPitLane started ⟨0, 5 / 2, 13⟩) segment.1.state.pitStatus := by
  decide +kernel

end OpenLaps.Timing

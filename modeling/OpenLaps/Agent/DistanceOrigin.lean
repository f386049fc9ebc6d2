import OpenLaps.Agent.TimingApp
import OpenLaps.Timing.Clock
import OpenLaps.Timing.ReferenceCurve
import Mathlib.Data.List.Infix

/- Where the lap distance and the reference curve are measured from: the fix at which
the engine last started its lap clock, unless the engine restarts the clock silently. -/
namespace OpenLaps.TimingApp
open Timing

/-- The sum of the distances of consecutive points. -/
def pathLength (haversine : Haversine) : List GPSPoint → ℚ
  | first :: second :: rest =>
      haversine first.lat first.lon second.lat second.lon + pathLength haversine (second :: rest)
  | _ => 0

/-- Distance and elapsed time at every point, measured from a lap start. -/
def curve (haversine : Haversine) (lapStart : ℚ) (points : List GPSPoint) : List (ℚ × ℚ) :=
  points.inits.filterMap fun seen =>
    seen.getLast?.map fun gps => (pathLength haversine seen, gps.timestamp - lapStart)

theorem pathLength_concat (haversine : Haversine) (points : List GPSPoint) (gps : GPSPoint) :
    pathLength haversine (points ++ [gps]) = pathLength haversine points +
      points.getLast?.elim 0 fun last => haversine last.lat last.lon gps.lat gps.lon := by
  induction points with
  | nil => simp [pathLength]
  | cons first rest ih =>
      cases rest with
      | nil => simp [pathLength]
      | cons second rest =>
          rw [List.cons_append, List.cons_append, pathLength, ← List.cons_append, ih, pathLength,
            List.getLast?_cons_cons, add_assoc]

theorem curve_concat (haversine : Haversine) (lapStart : ℚ) (points : List GPSPoint)
    (gps : GPSPoint) :
    curve haversine lapStart (points ++ [gps]) = curve haversine lapStart points ++
      [(pathLength haversine (points ++ [gps]), gps.timestamp - lapStart)] := by
  rw [curve, List.inits_append, List.filterMap_append]
  simp [curve]

/-- Elapsed times grow along a curve when the timestamps do. -/
theorem curve_times {haversine : Haversine} {lapStart : ℚ} {points : List GPSPoint}
    (ordered : points.Pairwise fun earlier later => earlier.timestamp ≤ later.timestamp) :
    ((curve haversine lapStart points).map Prod.snd).Pairwise (· ≤ ·) ∧
      ∀ time ∈ (curve haversine lapStart points).map Prod.snd,
        ∃ gps ∈ points, time = gps.timestamp - lapStart := by
  induction points using List.reverseRecOn with
  | nil => exact ⟨List.Pairwise.nil, fun time member => absurd member List.not_mem_nil⟩
  | append_singleton points gps ih =>
      obtain ⟨front, _, last⟩ := List.pairwise_append.mp ordered
      obtain ⟨sorted, among⟩ := ih front
      rw [curve_concat, List.map_append, List.map_singleton]
      constructor
      · rw [List.pairwise_append]
        refine ⟨sorted, List.pairwise_singleton _ _, ?_⟩
        intro time member latest same
        obtain ⟨earlier, present, stamp⟩ := among time member
        have before := last earlier present gps (List.mem_singleton.mpr rfl)
        rw [List.mem_singleton.mp same, stamp]
        linarith
      · intro time member
        rcases List.mem_append.mp member with old | fresh
        · obtain ⟨earlier, present, stamp⟩ := among time old
          exact ⟨earlier, List.mem_append_left _ present, stamp⟩
        · exact ⟨gps, by simp, List.mem_singleton.mp fresh⟩

/-- The engine sets `lap_start_time` at this point. -/
def SetsStart (config : Config) (engine : Engine) (gps : GPSPoint) : Prop :=
  ∃ idx line hit accepted, lapHit config engine gps = some (idx, line, hit, accepted) ∧
    startsLap accepted idx = true

/-- The engine restarts a running lap clock without an event: the start/finish line is
crossed again before any sector, or too soon. -/
def RestartsSilently (config : Config) (engine : Engine) (gps : GPSPoint) : Prop :=
  ∃ line hit accepted, lapHit config engine gps = some (0, line, hit, accepted) ∧
    0 < accepted.lapStartTime ∧
    (accepted.sectorsDone = 0 ∨ hit.time - accepted.lapStartTime < config.minLapTimeS)

/-- `start` is the last of the fixes at which the engine set `lap_start_time`, and
`later` are the fixes after it. -/
structure SinceStart (track : Track) (fixes earlier : List Fix) (start : Fix) (later : List Fix) :
    Prop where
  split : fixes = earlier ++ start :: later
  started : SetsStart track.config (processFixes track {} earlier).engine start.point
  latest : ∀ before fix after, later = before ++ fix :: after →
    ¬ SetsStart track.config (processFixes track {} (earlier ++ start :: before)).engine fix.point

/-- Distance and recorder count from the fix that last started the clock. -/
def Anchored (track : Track) (fixes : List Fix) : Prop :=
  0 < (processFixes track {} fixes).engine.state.lapStartTime →
    ∃ earlier start later, SinceStart track fixes earlier start later ∧
      (processFixes track {} fixes).distance.lapDistance =
        pathLength track.haversine (later.map Fix.point) ∧
      (pairs (processFixes track {} fixes).recorder).Sublist
        (curve track.haversine (processFixes track {} fixes).engine.state.lapStartTime
          (later.map Fix.point))

/-- The curve of a lap that was completed at `finish`, recorded from the start of that lap. -/
def OwnCurve (track : Track) (fixes : List Fix) (reference : ReferenceLap) : Prop :=
  ∃ seen finish rest earlier start later, fixes = seen ++ finish :: rest ∧
    SinceStart track seen earlier start later ∧
    (reference.distances.zip reference.times).Sublist
      (curve track.haversine (processFixes track {} seen).engine.state.lapStartTime
        ((later ++ [finish]).map Fix.point))

/-- What the adopted reference promises. -/
def ReferenceSound (track : Track) (fixes : List Fix) : Prop :=
  ∀ reference, (processFixes track {} fixes).delta.reference = some reference →
    reference.distances.Pairwise (· < ·) ∧ OwnCurve track fixes reference ∧
      ((fixes.Pairwise fun earlier later => earlier.tWallMs ≤ later.tWallMs) →
        reference.times.Pairwise (· ≤ ·))

theorem processFixes_concat (track : Track) (app : App) (fixes : List Fix) (fix : Fix) :
    processFixes track app (fixes ++ [fix]) =
      (processFix track (processFixes track app fixes) fix).1 := by
  rw [processFixes, List.foldl_append]
  rfl

/-- The recorder after the fix was added to it, if the clock runs. -/
def recorded (track : Track) (app : App) (point : GPSPoint) : LapRecorder :=
  if 0 < app.engine.state.lapStartTime then
    app.recorder.add (app.distance.update track.haversine point.lat point.lon).lapDistance
      (point.timestamp - app.engine.state.lapStartTime)
  else app.recorder

/-- The recorder the events of the fix find. -/
def offered (track : Track) (app : App) (point : GPSPoint) (lapStart : ℚ) : LapRecorder :=
  if ¬ 0 < app.engine.state.lapStartTime ∧ 0 < lapStart then {} else recorded track app point

/-- The five ways a fix can change the lap. -/
inductive FixStep (track : Track) (app : App) (fix : Fix) (next : App) : Prop
  | kept (stays : ¬ SetsStart track.config app.engine fix.point)
      (lapStart : next.engine.state.lapStartTime = app.engine.state.lapStartTime)
      (distance : next.distance =
        app.distance.update track.haversine fix.point.lat fix.point.lon)
      (recorder : next.recorder = recorded track app fix.point) (delta : next.delta = app.delta)
  | anchored (starts : SetsStart track.config app.engine fix.point)
      (running : 0 < next.engine.state.lapStartTime) (distance : next.distance = .startLap)
      (recorder : next.recorder = {}) (delta : next.delta = app.delta)
  | completed (starts : SetsStart track.config app.engine fix.point) (event : TimingEvent)
      (distance : next.distance = .startLap) (recorder : next.recorder = {})
      (delta : next.delta = app.delta.offer
        ((offered track app fix.point next.engine.state.lapStartTime).complete event.lapTime)
        event.valid)
  | unanchored (idle : ¬ 0 < app.engine.state.lapStartTime)
      (still : ¬ 0 < next.engine.state.lapStartTime)
      (recorder : next.recorder = app.recorder) (delta : next.delta = app.delta)
  | silent (restarts : RestartsSilently track.config app.engine fix.point)
      (starts : SetsStart track.config app.engine fix.point)
      (running : 0 < app.engine.state.lapStartTime)
      (recorder : next.recorder = recorded track app fix.point) (delta : next.delta = app.delta)

theorem foldl_observe_quiet {events : List TimingEvent} (lap : Lap)
    (quiet : ∀ event ∈ events, event.type ≠ .lapCompleted) : events.foldl Lap.observe lap = lap := by
  induction events with
  | nil => rfl
  | cons event rest ih =>
      have first : lap.observe event = lap := if_neg (quiet event List.mem_cons_self)
      rw [List.foldl_cons, first]
      exact ih fun other member => quiet other (List.mem_cons_of_mem event member)

theorem foldl_observe_lap (lap : Lap) {pits : List TimingEvent} {config : Config}
    {state : TimingState} {line : TimingLine} {hit : Hit} {gps : GPSPoint} {valid : Bool}
    (quiet : ∀ event ∈ pits, event.type ≠ .lapCompleted) :
    ∃ event, (pits ++ lapEvents config state line hit gps valid).foldl Lap.observe lap =
      lap.complete event := by
  rw [List.foldl_append, foldl_observe_quiet lap quiet]
  exact ⟨_, rfl⟩

/-- The lap of the app after a fix. -/
def lapAfter (track : Track) (app : App) (point : GPSPoint) : Lap :=
  (processPoint track.config app.engine point).2.foldl Lap.observe
    (advanceLap track app point (processPoint track.config app.engine point).1)

theorem advanceLap_started {track : Track} {app : App} {point : GPSPoint} {engine : Engine}
    (idle : ¬ 0 < app.engine.state.lapStartTime) (running : 0 < engine.state.lapStartTime) :
    advanceLap track app point engine = ⟨.startLap, {}, app.delta⟩ :=
  if_pos ⟨idle, running⟩

theorem advanceLap_else {track : Track} {app : App} {point : GPSPoint} {engine : Engine}
    (other : ¬ (¬ 0 < app.engine.state.lapStartTime ∧ 0 < engine.state.lapStartTime)) :
    advanceLap track app point engine =
      ⟨app.distance.update track.haversine point.lat point.lon, recorded track app point,
        app.delta⟩ :=
  if_neg other

theorem advanceLap_recorder (track : Track) (app : App) (point : GPSPoint) (engine : Engine) :
    (advanceLap track app point engine).recorder =
      offered track app point engine.state.lapStartTime := by
  unfold advanceLap offered
  dsimp only
  split <;> rfl

theorem advanceLap_delta (track : Track) (app : App) (point : GPSPoint) (engine : Engine) :
    (advanceLap track app point engine).delta = app.delta := by
  unfold advanceLap
  dsimp only
  split <;> rfl

theorem recorded_idle {track : Track} {app : App} {point : GPSPoint}
    (idle : ¬ 0 < app.engine.state.lapStartTime) : recorded track app point = app.recorder :=
  if_neg idle

/-- A fix whose lap point restarts the clock without completing a lap. -/
theorem fixStep_restart {track : Track} {app : App} {fix : Fix}
    (starts : SetsStart track.config app.engine fix.point)
    (quiet : ∀ event ∈ (processPoint track.config app.engine fix.point).2,
      event.type ≠ .lapCompleted)
    (silent : 0 < app.engine.state.lapStartTime →
      RestartsSilently track.config app.engine fix.point) :
    FixStep track app fix (processFix track app fix).1 := by
  have lap : lapAfter track app fix.point = advanceLap track app fix.point
      (processPoint track.config app.engine fix.point).1 := foldl_observe_quiet _ quiet
  by_cases running : 0 < app.engine.state.lapStartTime
  · have same := lap.trans (advanceLap_else fun other => other.1 running)
    exact .silent (silent running) starts running (congrArg Lap.recorder same)
      (congrArg Lap.delta same)
  · by_cases after :
      0 < (processPoint track.config app.engine fix.point).1.state.lapStartTime
    · have same := lap.trans (advanceLap_started running after)
      exact .anchored starts after (congrArg Lap.distance same) (congrArg Lap.recorder same)
        (congrArg Lap.delta same)
    · have same := lap.trans (advanceLap_else fun other => after other.2)
      exact .unanchored running after
        ((congrArg Lap.recorder same).trans (recorded_idle running)) (congrArg Lap.delta same)

/-- A fix that leaves the lap clock alone. -/
theorem fixStep_kept {track : Track} {app : App} {fix : Fix}
    (stays : ¬ SetsStart track.config app.engine fix.point)
    (lapStart : (processPoint track.config app.engine fix.point).1.state.lapStartTime =
      app.engine.state.lapStartTime)
    (quiet : ∀ event ∈ (processPoint track.config app.engine fix.point).2,
      event.type ≠ .lapCompleted) : FixStep track app fix (processFix track app fix).1 := by
  have lap : lapAfter track app fix.point = advanceLap track app fix.point
      (processPoint track.config app.engine fix.point).1 := foldl_observe_quiet _ quiet
  have same := lap.trans (advanceLap_else fun other => other.1 (lapStart ▸ other.2))
  exact .kept stays lapStart (congrArg Lap.distance same) (congrArg Lap.recorder same)
    (congrArg Lap.delta same)

theorem processFix_step (track : Track) (app : App) (fix : Fix) :
    FixStep track app fix (processFix track app fix).1 := by
  cases processPoint_step track.config app.engine fix.point with
  | quiet missed same noLap =>
      have stays : ¬ SetsStart track.config app.engine fix.point := by
        rintro ⟨idx, line, hit, accepted, found, _⟩
        rw [missed] at found
        cases found
      exact fixStep_kept stays same.lapStart noLap
  | crossed prev idx line hit accepted pits known found met same noLap state emitted =>
      cases handleLapPoint_step track.config accepted idx line hit fix.point with
      | first idle clock number best silent =>
          have starts : SetsStart track.config app.engine fix.point :=
            ⟨idx, line, hit, accepted, found, by simp [startsLap, idle]⟩
          rw [silent, List.append_nil] at emitted
          refine fixStep_restart starts (emitted ▸ noLap) ?_
          intro running
          rw [← same.lapStart, idle] at running
          exact absurd running (lt_irrefl 0)
      | abandoned running zero short clock number best silent =>
          subst zero
          have starts : SetsStart track.config app.engine fix.point :=
            ⟨0, line, hit, accepted, found, by simp [startsLap]⟩
          rw [silent, List.append_nil] at emitted
          refine fixStep_restart starts (emitted ▸ noLap) ?_
          intro positive
          exact ⟨line, hit, accepted, found, same.lapStart ▸ positive, short⟩
      | completed running zero progress long valid verdict clock number best events =>
          subst zero
          have starts : SetsStart track.config app.engine fix.point :=
            ⟨0, line, hit, accepted, found, by simp [startsLap]⟩
          rw [events] at emitted
          obtain ⟨event, folded⟩ := foldl_observe_lap
            (advanceLap track app fix.point (processPoint track.config app.engine fix.point).1)
            noLap
          have lap : lapAfter track app fix.point = (advanceLap track app fix.point
              (processPoint track.config app.engine fix.point).1).complete event := by
            rw [lapAfter, emitted, folded]
          refine .completed starts event (congrArg Lap.distance lap) (congrArg Lap.recorder lap) ?_
          refine (congrArg Lap.delta lap).trans ?_
          rw [Lap.complete, advanceLap_recorder, advanceLap_delta]
          rfl
      | sector running nonzero lapStart segment done number best events =>
          have stays : ¬ SetsStart track.config app.engine fix.point := by
            rintro ⟨other, _, _, _, again, starts⟩
            rw [found] at again
            cases again
            simp [startsLap, running, nonzero] at starts
          rw [events] at emitted
          refine fixStep_kept stays ?_ ?_
          · rw [state, lapStart, same.lapStart]
          · rw [emitted]
            intro event member
            rcases List.mem_append.mp member with pit | sector
            · exact noLap event pit
            · rw [List.mem_singleton.mp sector]
              exact EventType.noConfusion

theorem SinceStart.restart {track : Track} {fixes : List Fix} {fix : Fix}
    (starts : SetsStart track.config (processFixes track {} fixes).engine fix.point) :
    SinceStart track (fixes ++ [fix]) fixes fix [] := by
  refine ⟨rfl, starts, ?_⟩
  intro before other after empty
  simp at empty

theorem SinceStart.append {track : Track} {fixes earlier later : List Fix} {start fix : Fix}
    (since : SinceStart track fixes earlier start later)
    (stays : ¬ SetsStart track.config (processFixes track {} fixes).engine fix.point) :
    SinceStart track (fixes ++ [fix]) earlier start (later ++ [fix]) := by
  refine ⟨?_, since.started, ?_⟩
  · rw [since.split, List.append_assoc, List.cons_append]
  · intro before other after whole
    rcases List.eq_nil_or_concat' after with none | ⟨front, last, rest⟩
    · subst none
      obtain ⟨same, one⟩ := List.append_inj' whole rfl
      cases one
      rw [← same, ← since.split]
      exact stays
    · rw [rest, ← List.cons_append, ← List.append_assoc] at whole
      obtain ⟨same, _⟩ := List.append_inj' whole rfl
      exact since.latest before other front same

/-- The last fix started the clock, so no fix came after the start. -/
theorem SinceStart.later_nil {track : Track} {fixes earlier later : List Fix} {start fix : Fix}
    (starts : SetsStart track.config (processFixes track {} fixes).engine fix.point)
    (since : SinceStart track (fixes ++ [fix]) earlier start later) : later = [] := by
  rcases List.eq_nil_or_concat' later with none | ⟨front, last, whole⟩
  · exact none
  · have split := since.split
    rw [whole, ← List.cons_append, ← List.append_assoc] at split
    obtain ⟨same, one⟩ := List.append_inj' split rfl
    cases one
    exact absurd (same ▸ starts) (since.latest front fix [] whole)

/-- Curves only ever move forward, whatever the engine does. -/
structure WellFormed (app : App) : Prop where
  recorder : Increasing app.recorder.dist app.recorder.time
  reference : ∀ reference, app.delta.reference = some reference →
    Increasing reference.distances reference.times

theorem recorded_increasing {track : Track} {app : App} (formed : WellFormed app)
    (point : GPSPoint) :
    Increasing (recorded track app point).dist (recorded track app point).time := by
  unfold recorded
  split
  · exact add_increasing formed.recorder _ _
  · exact formed.recorder

theorem offered_increasing {track : Track} {app : App} (formed : WellFormed app)
    (point : GPSPoint) (lapStart : ℚ) : Increasing (offered track app point lapStart).dist
      (offered track app point lapStart).time := by
  unfold offered
  split
  · exact increasing_nil
  · exact recorded_increasing formed point

/-- What an offer of the recorder's curve makes the reference. -/
theorem offer_complete {tracker : DeltaTracker} {recorder : LapRecorder} {lapTime : ℚ}
    {valid : Bool} {reference : ReferenceLap}
    (known : (tracker.offer (recorder.complete lapTime) valid).reference = some reference) :
    tracker.reference = some reference ∨
      recorder.dist ≠ [] ∧ reference = ⟨recorder.dist, recorder.time, lapTime⟩ := by
  rcases tracker.offer_cases (recorder.complete lapTime) valid with same | ⟨lap, candidate, adopted⟩
  · rw [same] at known
    exact Or.inl known
  · rw [adopted] at known
    cases known
    unfold LapRecorder.complete at candidate
    split at candidate
    · cases candidate
    · rename_i long
      cases candidate
      refine Or.inr ⟨?_, rfl⟩
      intro none
      rw [none] at long
      simp at long

theorem processFix_wellFormed {track : Track} {app : App} (formed : WellFormed app) (fix : Fix) :
    WellFormed (processFix track app fix).1 := by
  cases processFix_step track app fix with
  | kept stays lapStart distance recorder delta =>
      exact ⟨recorder ▸ recorded_increasing formed fix.point, delta ▸ formed.reference⟩
  | anchored starts running distance recorder delta =>
      refine ⟨?_, delta ▸ formed.reference⟩
      rw [recorder]
      exact increasing_nil
  | completed starts event distance recorder delta =>
      constructor
      · rw [recorder]
        exact increasing_nil
      · intro reference known
        rw [delta] at known
        rcases offer_complete known with old | ⟨_, fresh⟩
        · exact formed.reference reference old
        · rw [fresh]
          exact offered_increasing formed fix.point _
  | unanchored idle still recorder delta =>
      exact ⟨recorder ▸ formed.recorder, delta ▸ formed.reference⟩
  | silent restarts starts running recorder delta =>
      exact ⟨recorder ▸ recorded_increasing formed fix.point, delta ▸ formed.reference⟩

theorem processFixes_wellFormed (track : Track) (fixes : List Fix) :
    WellFormed (processFixes track {} fixes) := by
  induction fixes using List.reverseRecOn with
  | nil => exact ⟨increasing_nil, fun reference known => absurd known (by simp [processFixes])⟩
  | append_singleton fixes fix ih =>
      rw [processFixes_concat]
      exact processFix_wellFormed ih fix

/-- The distance model after `later`: the path length, and where the last fix was. -/
def measured (track : Track) (later : List Fix) : DistanceModel where
  lapDistance := pathLength track.haversine (later.map Fix.point)
  prev := (later.map Fix.point).getLast?.map fun gps => (gps.lat, gps.lon)

/-- The invariant of a run in which the clock is never restarted silently. -/
structure Sound (track : Track) (fixes : List Fix) : Prop where
  running : 0 < (processFixes track {} fixes).engine.state.lapStartTime →
    ∃ earlier start later, SinceStart track fixes earlier start later ∧
      (processFixes track {} fixes).distance = measured track later ∧
      (pairs (processFixes track {} fixes).recorder).Sublist
        (curve track.haversine (processFixes track {} fixes).engine.state.lapStartTime
          (later.map Fix.point))
  idle : ¬ 0 < (processFixes track {} fixes).engine.state.lapStartTime →
    (processFixes track {} fixes).recorder = {}
  reference : ∀ reference, (processFixes track {} fixes).delta.reference = some reference →
    OwnCurve track fixes reference

theorem measured_update (track : Track) (later : List Fix) (fix : Fix) :
    (measured track later).update track.haversine fix.point.lat fix.point.lon =
      measured track (later ++ [fix]) := by
  unfold measured DistanceModel.update
  rw [List.map_append, List.map_singleton, pathLength_concat, List.getLast?_concat]
  cases (later.map Fix.point).getLast? with
  | none => simp
  | some last => rfl

/-- The samples recorded in a running lap follow its curve up to the current fix. -/
theorem recorded_curve {track : Track} {app : App} {later : List Fix} {fix : Fix}
    (running : 0 < app.engine.state.lapStartTime)
    (paired : app.recorder.dist.length = app.recorder.time.length)
    (distance : app.distance = measured track later)
    (sublist : (pairs app.recorder).Sublist
      (curve track.haversine app.engine.state.lapStartTime (later.map Fix.point))) :
    (pairs (recorded track app fix.point)).Sublist
      (curve track.haversine app.engine.state.lapStartTime ((later ++ [fix]).map Fix.point)) := by
  have add : recorded track app fix.point = app.recorder.add
      (measured track (later ++ [fix])).lapDistance
      (fix.point.timestamp - app.engine.state.lapStartTime) := by
    rw [← measured_update, ← distance]
    exact if_pos running
  rw [add, List.map_append, List.map_singleton, curve_concat]
  have grown := pairs_add paired sublist (measured track (later ++ [fix])).lapDistance
    (fix.point.timestamp - app.engine.state.lapStartTime)
  rw [measured, List.map_append, List.map_singleton] at grown
  rw [measured, List.map_append, List.map_singleton]
  exact grown

theorem OwnCurve.append {track : Track} {fixes : List Fix} {reference : ReferenceLap}
    (own : OwnCurve track fixes reference) (fix : Fix) :
    OwnCurve track (fixes ++ [fix]) reference := by
  obtain ⟨seen, finish, rest, earlier, start, later, split, since, sublist⟩ := own
  refine ⟨seen, finish, rest ++ [fix], earlier, start, later, ?_, since, sublist⟩
  rw [split, List.append_assoc, List.cons_append]

/-- The curve that a completed lap offers is its own. -/
theorem offered_own {track : Track} {fixes : List Fix} (sound : Sound track fixes) (fix : Fix)
    (lapStart lapTime : ℚ)
    (present : (offered track (processFixes track {} fixes) fix.point lapStart).dist ≠ []) :
    OwnCurve track (fixes ++ [fix])
      ⟨(offered track (processFixes track {} fixes) fix.point lapStart).dist,
        (offered track (processFixes track {} fixes) fix.point lapStart).time, lapTime⟩ := by
  by_cases running : 0 < (processFixes track {} fixes).engine.state.lapStartTime
  · have same : offered track (processFixes track {} fixes) fix.point lapStart =
        recorded track (processFixes track {} fixes) fix.point := if_neg fun both => both.1 running
    obtain ⟨earlier, start, later, since, distance, sublist⟩ := sound.running running
    have paired := (processFixes_wellFormed track fixes).recorder.paired
    rw [same]
    exact ⟨fixes, fix, [], earlier, start, later, rfl, since,
      recorded_curve running paired distance sublist⟩
  · have empty : (offered track (processFixes track {} fixes) fix.point lapStart).dist = [] := by
      unfold offered
      split
      · rfl
      · rw [recorded_idle running, sound.idle running]
    exact absurd empty present

theorem sound_nil (track : Track) : Sound track [] := by
  refine ⟨fun running => absurd running (lt_irrefl 0), fun _ => rfl, ?_⟩
  intro reference known
  cases known

/-- One fix that does not restart the clock silently. -/
theorem sound_concat {track : Track} {fixes : List Fix} {fix : Fix} (sound : Sound track fixes)
    (loud : ¬ RestartsSilently track.config (processFixes track {} fixes).engine fix.point) :
    Sound track (fixes ++ [fix]) := by
  have paired := (processFixes_wellFormed track fixes).recorder.paired
  have restarted : ∀ starts : SetsStart track.config (processFixes track {} fixes).engine fix.point,
      (processFix track (processFixes track {} fixes) fix).1.distance = .startLap →
      (processFix track (processFixes track {} fixes) fix).1.recorder = {} →
      ∃ earlier start later, SinceStart track (fixes ++ [fix]) earlier start later ∧
        (processFix track (processFixes track {} fixes) fix).1.distance = measured track later ∧
        (pairs (processFix track (processFixes track {} fixes) fix).1.recorder).Sublist
          (curve track.haversine
            (processFix track (processFixes track {} fixes) fix).1.engine.state.lapStartTime
            (later.map Fix.point)) := by
    intro starts distance recorder
    refine ⟨fixes, fix, [], SinceStart.restart starts, distance, ?_⟩
    rw [recorder]
    exact List.nil_sublist _
  have old : ∀ reference, (processFixes track {} fixes).delta.reference = some reference →
      OwnCurve track (fixes ++ [fix]) reference :=
    fun reference known => (sound.reference reference known).append fix
  have step := processFix_step track (processFixes track {} fixes) fix
  constructor <;> rw [processFixes_concat]
  · intro running
    cases step with
    | kept stays lapStart distance recorder delta =>
        rw [lapStart] at running ⊢
        obtain ⟨earlier, start, later, since, before, sublist⟩ := sound.running running
        refine ⟨earlier, start, later ++ [fix], since.append stays, ?_, ?_⟩
        · rw [distance, before, measured_update]
        · rw [recorder]
          exact recorded_curve running paired before sublist
    | anchored starts _ distance recorder delta => exact restarted starts distance recorder
    | completed starts event distance recorder delta => exact restarted starts distance recorder
    | unanchored idle still recorder delta => exact absurd running still
    | silent restarts starts _ recorder delta => exact absurd restarts loud
  · intro idle
    cases step with
    | kept stays lapStart distance recorder delta =>
        rw [lapStart] at idle
        rw [recorder, recorded_idle idle, sound.idle idle]
    | anchored starts running distance recorder delta => exact recorder
    | completed starts event distance recorder delta => exact recorder
    | unanchored before still recorder delta => rw [recorder, sound.idle before]
    | silent restarts starts _ recorder delta => exact absurd restarts loud
  · intro reference known
    cases step with
    | kept stays lapStart distance recorder delta => exact old reference (delta ▸ known)
    | anchored starts running distance recorder delta => exact old reference (delta ▸ known)
    | completed starts event distance recorder delta =>
        rw [delta] at known
        rcases offer_complete known with before | ⟨present, fresh⟩
        · exact old reference before
        · rw [fresh]
          exact offered_own sound fix _ _ present
    | unanchored before still recorder delta => exact old reference (delta ▸ known)
    | silent restarts starts running recorder delta => exact old reference (delta ▸ known)

/-- No fix of the sequence restarts a running clock silently. -/
def NeverSilent (track : Track) (fixes : List Fix) : Prop :=
  ∀ earlier fix rest, fixes = earlier ++ fix :: rest →
    ¬ RestartsSilently track.config (processFixes track {} earlier).engine fix.point

theorem sound_of_neverSilent {track : Track} {fixes : List Fix}
    (loud : NeverSilent track fixes) : Sound track fixes := by
  induction fixes using List.reverseRecOn with
  | nil => exact sound_nil track
  | append_singleton fixes fix ih =>
      apply sound_concat (ih ?_) (loud fixes fix [] rfl)
      intro earlier other rest split
      exact loud earlier other (rest ++ [fix]) (by rw [split, List.append_assoc, List.cons_append])

theorem Sound.anchored {track : Track} {fixes : List Fix} (sound : Sound track fixes) :
    Anchored track fixes := by
  intro running
  obtain ⟨earlier, start, later, since, distance, sublist⟩ := sound.running running
  exact ⟨earlier, start, later, since, congrArg DistanceModel.lapDistance distance, sublist⟩

theorem OwnCurve.times {track : Track} {fixes : List Fix} {reference : ReferenceLap}
    (own : OwnCurve track fixes reference)
    (paired : reference.distances.length = reference.times.length)
    (ordered : fixes.Pairwise fun earlier later => earlier.tWallMs ≤ later.tWallMs) :
    reference.times.Pairwise (· ≤ ·) := by
  obtain ⟨seen, finish, rest, earlier, start, later, split, since, sublist⟩ := own
  have part : (later ++ [finish]).Sublist fixes := by
    rw [split, since.split]
    refine List.Sublist.append ?_ (List.singleton_sublist.mpr List.mem_cons_self)
    exact (List.sublist_cons_self start later).trans (List.sublist_append_right _ _)
  have stamps : ((later ++ [finish]).map Fix.point).Pairwise
      fun earlier later => earlier.timestamp ≤ later.timestamp := by
    rw [List.pairwise_map]
    refine (ordered.sublist part).imp ?_
    intro first second before
    exact div_le_div_of_nonneg_right before (by norm_num)
  have times : (reference.distances.zip reference.times).map Prod.snd = reference.times := by
    rw [List.map_snd_zip]
    exact paired.ge
  rw [← times]
  exact (curve_times stamps).1.sublist (sublist.map Prod.snd)

theorem Sound.references {track : Track} {fixes : List Fix} (sound : Sound track fixes) :
    ReferenceSound track fixes := by
  intro reference known
  have increasing := (processFixes_wellFormed track fixes).reference reference known
  have own := sound.reference reference known
  exact ⟨increasing.grows, own, own.times increasing.paired⟩

theorem processFixes_prev (track : Track) (fixes : List Fix) :
    (processFixes track {} fixes).engine.prev = fixes.getLast?.map Fix.point := by
  induction fixes using List.reverseRecOn with
  | nil => rfl
  | append_singleton fixes fix ih =>
      rw [processFixes_concat, List.getLast?_concat]
      exact processPoint_prev _ _ _

/-- A silent restart keeps the recorder and moves the clock to the crossing. -/
theorem silent_keeps {track : Track} {app : App} {fix : Fix}
    (silent : RestartsSilently track.config app.engine fix.point) :
    (processFix track app fix).1.recorder = recorded track app fix.point ∧
      0 < app.engine.state.lapStartTime ∧
      ∃ prev line hit, app.engine.prev = some prev ∧
        crossing track.config.projection prev fix.point line = some hit ∧
        (processFix track app fix).1.engine.state.lapStartTime = hit.time := by
  obtain ⟨line, hit, accepted, found, running, short⟩ := silent
  cases processPoint_step track.config app.engine fix.point with
  | quiet missed same noLap =>
      rw [missed] at found
      cases found
  | crossed prev idx line' hit' accepted' pits known again met same noLap state emitted =>
      rw [found] at again
      cases again
      cases handleLapPoint_step track.config accepted 0 line hit fix.point with
      | first idle clock number best silent => exact absurd idle (ne_of_gt running)
      | abandoned _ _ _ clock number best silent =>
          rw [silent, List.append_nil] at emitted
          have before : 0 < app.engine.state.lapStartTime := same.lapStart ▸ running
          have lap : lapAfter track app fix.point = advanceLap track app fix.point
              (processPoint track.config app.engine fix.point).1 :=
            foldl_observe_quiet _ (emitted ▸ noLap)
          have kept := lap.trans (advanceLap_else fun other => other.1 before)
          refine ⟨congrArg Lap.recorder kept, before, prev, line, hit, known, met, ?_⟩
          exact (congrArg TimingState.lapStartTime state).trans clock.lapStart
      | completed _ _ progress long valid verdict clock number best events =>
          rcases short with none | soon
          · exact absurd none progress
          · exact absurd long (not_le.mpr soon)
      | sector _ nonzero _ _ _ _ _ _ => exact absurd rfl nonzero

/-- After a silent restart the recorder still holds the sample of that very fix, so the
origin is lost. -/
theorem not_anchored_of_silent {track : Track} {fixes : List Fix} {fix : Fix}
    (silent : RestartsSilently track.config (processFixes track {} fixes).engine fix.point)
    (positive : ∀ other ∈ fixes ++ [fix], 0 < other.tWallMs) :
    ¬ Anchored track (fixes ++ [fix]) := by
  intro anchored
  obtain ⟨recorder, running, prev, line, hit, known, met, moved⟩ := silent_keeps silent
  have stamp : ∀ other ∈ fixes ++ [fix], 0 < other.point.timestamp := by
    intro other member
    exact div_pos (positive other member) (by norm_num)
  have before : 0 < prev.timestamp := by
    rw [processFixes_prev] at known
    obtain ⟨last, present, same⟩ := Option.map_eq_some_iff.mp known
    rw [← same]
    exact stamp last (List.mem_append_left _ (List.mem_of_getLast? present))
  have time := crossing_positive met before (stamp fix (by simp))
  have starts : SetsStart track.config (processFixes track {} fixes).engine fix.point := by
    obtain ⟨line, hit, accepted, found, _⟩ := silent
    exact ⟨0, line, hit, accepted, found, by simp [startsLap]⟩
  unfold Anchored at anchored
  rw [processFixes_concat, moved] at anchored
  obtain ⟨earlier, start, later, since, _, sublist⟩ := anchored time
  have empty := SinceStart.later_nil starts since
  rw [empty, recorder] at sublist
  have none : pairs (recorded track (processFixes track {} fixes) fix.point) = [] :=
    List.sublist_nil.mp sublist
  have increasing : Increasing (recorded track (processFixes track {} fixes) fix.point).dist
      (recorded track (processFixes track {} fixes) fix.point).time :=
    recorded_increasing (processFixes_wellFormed track fixes) fix.point
  have present : (recorded track (processFixes track {} fixes) fix.point).dist ≠ [] := by
    rw [recorded, if_pos running]
    exact add_ne_nil _ _ _
  have length := congrArg List.length none
  rw [pairs, List.length_zip, ← increasing.paired, Nat.min_self] at length
  exact present (List.eq_nil_of_length_eq_zero length)

/-- For every track and every sequence of fixes: if no fix restarts a running lap clock
silently, then in every state with a running clock the lap distance and the recorded
samples count from the fix that last set `lap_start_time`, and every adopted reference
has strictly increasing distances and, for non-decreasing timestamps, non-decreasing
times, all measured from the start of its own lap. With positive timestamps this is
also the only way: one silent restart and the origin is wrong. -/
theorem distance_origin (track : Track) (fixes : List Fix) :
    (NeverSilent track fixes →
      ∀ seen, seen <+: fixes → Anchored track seen ∧ ReferenceSound track seen) ∧
    ((∀ fix ∈ fixes, 0 < fix.tWallMs) →
      (∀ seen, seen <+: fixes → Anchored track seen ∧ ReferenceSound track seen) →
      NeverSilent track fixes) := by
  constructor
  · rintro loud seen ⟨rest, whole⟩
    have sound : Sound track seen := by
      apply sound_of_neverSilent
      intro earlier fix after split
      exact loud earlier fix (after ++ rest) (by rw [← whole, split, List.append_assoc,
        List.cons_append])
    exact ⟨sound.anchored, sound.references⟩
  · intro positive origin earlier fix rest split silent
    have front : earlier ++ [fix] <+: fixes := ⟨rest, by rw [split, List.append_assoc]; rfl⟩
    refine not_anchored_of_silent silent ?_ (origin _ front).1
    intro other member
    exact positive other (front.subset member)

/-- The straight with distances along its axes, in metres per degree. -/
def meter : Track where
  config := straight []
  haversine lat1 lon1 lat2 lon2 := 111195 * (|lat2 - lat1| + |lon2 - lon1|)

/-- Over the line, around the sector line, and over the start/finish line again. -/
def spin : List Fix :=
  [⟨0, -1 / 2, 1000⟩, ⟨0, 1 / 2, 3000⟩, ⟨5, 1 / 2, 13000⟩, ⟨5, -1 / 2, 23000⟩,
    ⟨0, -1 / 2, 33000⟩]

theorem spin_silent : RestartsSilently meter.config (processFixes meter {} spin).engine
    (Fix.point ⟨0, 1 / 2, 43000⟩) := by
  have found : (lapHit meter.config (processFixes meter {} spin).engine
      (Fix.point ⟨0, 1 / 2, 43000⟩)).map
        (fun found => (found.1, found.2.2.2.lapStartTime, found.2.2.2.sectorsDone)) =
      some (0, 2, 0) := by decide +kernel
  obtain ⟨⟨idx, line, hit, accepted⟩, same, fields⟩ := Option.map_eq_some_iff.mp found
  simp only [Prod.mk.injEq] at fields
  obtain ⟨rfl, running, progress⟩ := fields
  exact ⟨line, hit, accepted, same, by rw [running]; norm_num, Or.inl progress⟩

/-- A car that comes round to the line without a sector restarts the clock, and keeps
the distance and the samples of the abandoned lap. -/
theorem spin_origin_lost :
    ¬ ∀ seen, seen <+: spin ++ [⟨0, 1 / 2, 43000⟩] →
      Anchored meter seen ∧ ReferenceSound meter seen := by
  intro origin
  refine not_anchored_of_silent spin_silent ?_ (origin _ (List.prefix_refl _)).1
  decide +kernel

end OpenLaps.TimingApp

import OpenLaps.Pit.TimingExtrapolator.Service

/- The service rejects the events of a run without a trace exactly if each of them is usable. -/
namespace OpenLaps.PitClocks
open Ingest

variable {runtime : Runtime} {engine : TimingExtrapolator}

/-- The clocks show the same. -/
structure SameClocks (runtime : Runtime) (engine engine' : TimingExtrapolator) : Prop where
  lap : engine'.lapStartedAt = engine.lapStartedAt
  sector : engine'.sectorStartedAt = engine.sectorStartedAt
  best : engine'.bestLapS = engine.bestLapS
  ticks : ∀ now, engine'.tick runtime now = engine.tick runtime now

theorem SameClocks.refl (runtime : Runtime) (engine : TimingExtrapolator) :
    SameClocks runtime engine engine := ⟨rfl, rfl, rfl, fun _ => rfl⟩

/-- What is raised is caught, with the clocks as they were. -/
def Contained (runtime : Runtime) (engine : TimingExtrapolator)
    (outcome : TimingExtrapolator × Except Raised Values) : Prop :=
  ∀ raised, outcome.2 = .error raised → caught raised = true ∧ SameClocks runtime engine outcome.1

theorem contained_ok (engine' : TimingExtrapolator) (values : Values) :
    Contained runtime engine (engine', .ok values) := by
  intro raised impossible
  cases impossible

theorem contained_exception_iff {engine' : TimingExtrapolator} {error : PyError} :
    Contained runtime engine (engine', .error (.exception error)) ↔
      SameClocks runtime engine engine' := by
  constructor
  · intro contained
    exact (contained _ rfl).2
  · intro same raised here
    cases here
    exact ⟨rfl, same⟩

theorem not_contained {engine' : TimingExtrapolator} {raised : Raised}
    (uncaught : caught raised = false) : ¬Contained runtime engine (engine', .error raised) := by
  intro contained
  rw [(contained raised rfl).1] at uncaught
  cases uncaught

/-- The sector's clock is set before its number is read. -/
theorem observeSector_contained_iff (event : List (String × Json)) (crossedAt : PyFloat) :
    Contained runtime engine (engine.observeSector runtime event crossedAt) ↔
      ∀ split, runtime.number event "split_time" = .ok split →
        (∃ sector, runtime.sector event = .ok sector) ∨
          engine.sectorStartedAt = some crossedAt := by
  unfold TimingExtrapolator.observeSector
  cases read : runtime.number event "split_time" with
  | error error =>
    refine iff_of_true (contained_exception_iff.mpr (.refl runtime engine)) ?_
    intro split impossible
    cases impossible
  | ok split =>
    dsimp only
    cases number : runtime.sector event with
    | ok sector => exact iff_of_true (contained_ok _ _) fun _ _ => .inl ⟨sector, rfl⟩
    | error error =>
      rw [contained_exception_iff]
      constructor
      · intro same _ _
        exact .inr same.sector.symm
      · intro given
        rcases given split rfl with ⟨sector, impossible⟩ | already
        · cases impossible
        · rw [← already]
          exact .refl runtime engine

/-- Both clocks are set before the lap time is read. -/
theorem observeLap_contained_iff (event : List (String × Json)) (crossedAt : PyFloat) :
    Contained runtime engine (engine.observeLap runtime event crossedAt) ↔
      (∃ lapTime, runtime.number event "lap_time" = .ok lapTime) ∨
        engine.lapStartedAt = some crossedAt ∧ engine.sectorStartedAt = some crossedAt := by
  unfold TimingExtrapolator.observeLap
  cases read : runtime.number event "lap_time" with
  | ok lapTime => exact iff_of_true (contained_ok _ _) (.inl ⟨lapTime, rfl⟩)
  | error error =>
    dsimp only
    rw [contained_exception_iff]
    constructor
    · intro same
      exact .inr ⟨same.lap.symm, same.sector.symm⟩
    · rintro (⟨lapTime, impossible⟩ | ⟨lap, sector⟩)
      · cases impossible
      · have same : { engine with lapStartedAt := some crossedAt, sectorStartedAt := some crossedAt } =
            engine := by
          rw [← sector]
          nth_rewrite 1 [sector]
          rw [← lap]
        rw [same]
        exact .refl runtime engine

theorem lap_not_sector {event : List (String × Json)}
    (sector : isType event "sector_completed" = true) : isType event "lap_completed" = false := by
  unfold isType at *
  split at sector
  · simp only [decide_eq_true_eq] at sector
    rw [sector]
    decide
  · cases sector

/-- An object's part of `observe`. -/
theorem object_contained_iff (event : List (String × Json)) :
    Contained runtime engine
      (match runtime.number event "time" with
        | .error error => (engine, .error (.exception error))
        | .ok crossedAt =>
          if isType event "sector_completed" then engine.observeSector runtime event crossedAt
          else if isType event "lap_completed" then engine.observeLap runtime event crossedAt
          else (engine, .ok [])) ↔
      ∀ crossedAt, runtime.number event "time" = .ok crossedAt →
        (isType event "sector_completed" = true → ∀ split,
          runtime.number event "split_time" = .ok split →
            (∃ sector, runtime.sector event = .ok sector) ∨
              engine.sectorStartedAt = some crossedAt) ∧
        (isType event "lap_completed" = true →
          (∃ lapTime, runtime.number event "lap_time" = .ok lapTime) ∨
            engine.lapStartedAt = some crossedAt ∧ engine.sectorStartedAt = some crossedAt) := by
  cases read : runtime.number event "time" with
  | error error =>
    refine iff_of_true (contained_exception_iff.mpr (.refl runtime engine)) ?_
    intro crossedAt impossible
    cases impossible
  | ok crossedAt =>
    dsimp only
    by_cases sector : isType event "sector_completed" = true
    · have lap := lap_not_sector sector
      rw [if_pos sector, observeSector_contained_iff]
      constructor
      · rintro given _ ⟨⟩
        exact ⟨fun _ => given, fun other => absurd (lap.symm.trans other) (by decide)⟩
      · exact fun given => (given crossedAt rfl).1 sector
    · rw [if_neg sector]
      by_cases lap : isType event "lap_completed" = true
      · rw [if_pos lap, observeLap_contained_iff]
        constructor
        · rintro given _ ⟨⟩
          exact ⟨fun other => absurd other sector, fun _ => given⟩
        · exact fun given => (given crossedAt rfl).2 lap
      · rw [if_neg lap]
        exact iff_of_true (contained_ok _ _) fun _ _ =>
          ⟨fun other => absurd other sector, fun other => absurd other lap⟩

theorem observeEvent_contained_iff (text : String) :
    Contained runtime engine (engine.observeEvent runtime text) ↔ Usable runtime engine text := by
  unfold TimingExtrapolator.observeEvent Runtime.loads Usable
  cases deep : runtime.text.deep text with
  | true =>
    rw [if_pos rfl]
    refine iff_of_false (not_contained rfl) ?_
    rintro ⟨impossible, -⟩
    cases impossible
  | false =>
    rw [if_neg (by decide)]
    simp only [true_and]
    cases loaded : runtime.text.loads text with
    | none =>
      refine iff_of_true (contained_exception_iff.mpr (.refl runtime engine)) ?_
      intro json impossible
      cases impossible
    | some json =>
      cases json with
      | object event =>
        refine (object_contained_iff event).trans ?_
        constructor
        · rintro given _ ⟨⟩
          exact ⟨event, rfl, given⟩
        · intro usable
          obtain ⟨event', same, given⟩ := usable _ rfl
          cases same
          exact given
      | _ =>
        refine iff_of_false (not_contained rfl) ?_
        intro usable
        obtain ⟨event, impossible, -⟩ := usable _ rfl
        cases impossible

/-- Only a `lap.event` can fail to be contained. -/
theorem observe_contained_iff (channel : String) (value : Option SampleValue) :
    Contained runtime engine (engine.observe runtime channel value) ↔
      (channel = "lap.event" → Usable runtime engine (runtime.text.toStr (jsonOf value))) := by
  unfold TimingExtrapolator.observe
  split
  · rename_i clock
    refine iff_of_true (contained_ok _ _) ?_
    rintro rfl
    exact absurd clock (by decide)
  · split
    · rename_i best
      have other : ¬channel = "lap.event" := by
        rw [best]
        decide
      refine iff_of_true ?_ fun event => absurd event other
      cases runtime.text.toFloat (jsonOf value) with
      | error error => exact contained_exception_iff.mpr (.refl runtime engine)
      | ok best => exact contained_ok _ _
    · split
      · rename_i event
        rw [observeEvent_contained_iff]
        exact ⟨fun usable _ => usable, fun usable => usable event⟩
      · rename_i other
        exact iff_of_true (contained_ok _ _) fun event => absurd event other

section Service

variable {service : TimingService}

/-- What the engine shows goes out on the channels that the service may publish. -/
def Listed (outcome : TimingExtrapolator × Except Raised Values) : Prop :=
  ∀ values, outcome.2 = .ok values → ∀ item ∈ values, item.1 ∈ outputChannels

theorem listed_error (raised : Raised) : Listed (engine, .error raised) := by
  intro values impossible
  cases impossible

theorem listed_nil : Listed (engine, .ok []) := by
  intro values same item member
  cases same
  cases member

theorem listed_one {channel : String} (listed : channel ∈ outputChannels) (value : ClockValue) :
    Listed (engine, .ok [(channel, value)]) := by
  intro values same item member
  cases same
  rw [List.mem_singleton.mp member]
  exact listed

theorem observeSector_listed (event : List (String × Json)) (crossedAt : PyFloat) :
    Listed (engine.observeSector runtime event crossedAt) := by
  unfold TimingExtrapolator.observeSector
  split
  · exact listed_error _
  · dsimp only
    split
    · exact listed_error _
    · exact listed_one (by decide) _

theorem observeLap_listed (event : List (String × Json)) (crossedAt : PyFloat) :
    Listed (engine.observeLap runtime event crossedAt) := by
  unfold TimingExtrapolator.observeLap
  dsimp only
  split
  · exact listed_error _
  · exact listed_one (by decide) _

theorem observeEvent_listed (text : String) : Listed (engine.observeEvent runtime text) := by
  unfold TimingExtrapolator.observeEvent
  split
  · exact listed_error _
  · split
    · exact listed_error _
    · split_ifs
      · exact observeSector_listed _ _
      · exact observeLap_listed _ _
      · exact listed_nil
  · exact listed_error _

theorem observe_listed (channel : String) (value : Option SampleValue) :
    Listed (engine.observe runtime channel value) := by
  unfold TimingExtrapolator.observe
  split_ifs
  · exact listed_nil
  · split
    · exact listed_error _
    · exact listed_nil
  · exact observeEvent_listed _
  · exact listed_nil

theorem tick_channels (runtime : Runtime) (engine : TimingExtrapolator) (now : PyFloat) :
    ∀ item ∈ engine.tick runtime now, item.1 ∈ outputChannels := by
  intro item member
  obtain ⟨clock, listed, shown⟩ := List.mem_filterMap.mp member
  obtain ⟨startedAt, -, rfl⟩ := Option.map_eq_some_iff.mp shown
  have each : ∀ clock ∈ [(lapElapsed, engine.lapStartedAt), (sectorElapsed, engine.sectorStartedAt)],
      clock.1 ∈ outputChannels := by
    simp [outputChannels]
  exact each clock listed

theorem emit_ok (service : TimingService) (now : ℚ) {values : Values}
    (listed : ∀ item ∈ values, item.1 ∈ outputChannels) :
    ∃ outbox drops, service.emit now values = ({ service with
      outbox := outbox, health := { service.health with mqttDrops := drops } }, .ok ()) := by
  induction values generalizing service with
  | nil => exact ⟨service.outbox, service.health.mqttDrops, rfl⟩
  | cons first rest ih =>
    obtain ⟨channel, value⟩ := first
    have here : channel ∈ outputChannels := listed (channel, value) List.mem_cons_self
    have later : ∀ item ∈ rest, item.1 ∈ outputChannels :=
      fun item member => listed item (List.mem_cons_of_mem _ member)
    rw [TimingService.emit, TimingService.queuePublish, if_neg (not_not.mpr here)]
    split_ifs
    · exact ih _ later
    · exact ih _ later

/-- A sample is rejected without a trace. -/
def CleanVisit (runtime : Runtime) (visit : Visit) : Prop :=
  (visit.1.handleSample runtime visit.2).2 = .ok () ∧ KeepsClocks runtime visit

theorem cleanVisit_iff (visit : Visit) : CleanVisit runtime visit ↔ UsableVisit runtime visit := by
  obtain ⟨service, sample⟩ := visit
  unfold CleanVisit KeepsClocks UsableVisit TimingService.handleSample
  dsimp only
  by_cases input : sample.channel.name ∈ inputChannels
  · rw [if_neg (not_not.mpr input), ← observe_contained_iff]
    have listed : Listed (service.engine.observe runtime sample.channel.name sample.value) :=
      observe_listed _ _
    generalize service.engine.observe runtime sample.channel.name sample.value = observed at listed ⊢
    obtain ⟨engine', outcome⟩ := observed
    cases outcome with
    | ok values =>
      obtain ⟨outbox, drops, emitted⟩ := emit_ok { service with engine := engine' }
        (sample.captureUnixMs / 1000) (listed values rfl)
      dsimp only
      rw [emitted]
      exact iff_of_true ⟨rfl, fun counted => absurd rfl counted⟩ (contained_ok _ _)
    | error raised =>
      dsimp only
      cases catches : caught raised with
      | true =>
        rw [if_pos rfl]
        constructor
        · rintro ⟨-, keeps⟩ raised' same
          cases same
          obtain ⟨lap, sector, best, ticks⟩ := keeps (Nat.succ_ne_self _)
          exact ⟨catches, lap, sector, best, ticks⟩
        · intro contained
          have same := (contained raised rfl).2
          exact ⟨rfl, fun _ => ⟨same.lap, same.sector, same.best, same.ticks⟩⟩
      | false =>
        rw [if_neg (by decide)]
        refine iff_of_false ?_ (not_contained catches)
        rintro ⟨impossible, -⟩
        cases impossible
  · rw [if_pos input]
    refine iff_of_true ⟨rfl, fun counted => absurd rfl counted⟩ ?_
    intro event
    rw [event] at input
    exact absurd (by decide) input

theorem samples_clean_iff (samples : List DecodedSample) :
    ((service.handleSamples runtime samples).2 = .ok () ∧
        ∀ visit ∈ sampleVisits runtime service samples, KeepsClocks runtime visit) ↔
      ∀ visit ∈ sampleVisits runtime service samples, CleanVisit runtime visit := by
  induction samples generalizing service with
  | nil => simp [TimingService.handleSamples, sampleVisits]
  | cons sample rest ih =>
    rw [TimingService.handleSamples, sampleVisits, List.forall_mem_cons, List.forall_mem_cons]
    have head : CleanVisit runtime (service, sample) ↔
        (service.handleSample runtime sample).2 = .ok () ∧
          KeepsClocks runtime (service, sample) := Iff.rfl
    rw [head]
    obtain ⟨next, outcome⟩ := service.handleSample runtime sample
    cases outcome with
    | error raised =>
      refine iff_of_false ?_ ?_
      · rintro ⟨impossible, -⟩
        cases impossible
      · rintro ⟨⟨impossible, -⟩, -⟩
        cases impossible
    | ok =>
      rw [← ih]
      simp only [true_and]
      exact and_left_comm

theorem message_clean_iff (message : Message) :
    ((service.handleMessage runtime message).2 = .ok () ∧
        ∀ visit ∈ messageVisits runtime service message, KeepsClocks runtime visit) ↔
      ∀ visit ∈ messageVisits runtime service message, CleanVisit runtime visit := by
  cases message with
  | registry payload => cases payload <;> simp [TimingService.handleMessage, messageVisits]
  | batch payload =>
    cases payload with
    | none => simp [TimingService.handleMessage, messageVisits]
    | some batch => exact samples_clean_iff _

theorem step_clean_iff (runtime : Runtime) (service : TimingService) (step : TimingService.Step) :
    ((service.step runtime step).2 = .ok () ∧
        ∀ visit ∈ stepVisits runtime service step, KeepsClocks runtime visit) ↔
      ∀ visit ∈ stepVisits runtime service step, CleanVisit runtime visit := by
  cases step with
  | message message => exact message_clean_iff message
  | tick now =>
    obtain ⟨outbox, drops, emitted⟩ := emit_ok service now
      (tick_channels runtime service.engine (.finite now))
    rw [TimingService.step, TimingService.publishTick, emitted]
    simp [stepVisits]
  | sent => simp [TimingService.step, stepVisits]

theorem run_clean_iff (steps : List TimingService.Step) : RejectsCleanly runtime service steps ↔
    ∀ visit ∈ visits runtime service steps, CleanVisit runtime visit := by
  induction steps generalizing service with
  | nil => simp [RejectsCleanly, TimingService.run, visits]
  | cons first rest ih =>
    have head := step_clean_iff runtime service first
    unfold RejectsCleanly
    rw [TimingService.run, visits, List.forall_mem_append, List.forall_mem_append, ← head]
    generalize service.step runtime first = stepped
    obtain ⟨next, outcome⟩ := stepped
    cases outcome with
    | error raised => simp
    | ok =>
      rw [← ih, RejectsCleanly]
      simp only [true_and]
      exact and_left_comm

/-- The service rejects the events of a run without a trace exactly if every one of them that
it comes to is usable. -/
theorem rejects_cleanly (runtime : Runtime) (service : TimingService)
    (steps : List TimingService.Step) : RejectsCleanly runtime service steps ↔
      ∀ visit ∈ visits runtime service steps, UsableVisit runtime visit :=
  (run_clean_iff steps).trans (forall₂_congr fun visit _ => cleanVisit_iff visit)

end Service

section Events

def listEvent : String := "[]"

/-- A split whose sector is not a number. -/
def sectorEvent : String :=
  "\x7b\"type\": \"sector_completed\", \"time\": 60.5, \"split_time\": 20.5, \"sector\": null\x7d"

def eventRuntime : Runtime where
  text := {
    deep := fun _ => false
    loads := fun text =>
      if text = listEvent then some (.list [])
      else if text = sectorEvent then
        some (.object [("type", .str "sector_completed"), ("time", .float (.finite (121 / 2))),
          ("split_time", .float (.finite (41 / 2))), ("sector", .null)])
      else none
    float := fun _ => none
    int := fun _ => none
    str := fun _ => "" }
  upper := id

def lapEvents : ChannelRegistry := ⟨1, "car", 0, [⟨1, "lap.event", "", "", .string, 0, 0⟩]⟩

def eventRun (text : String) : List TimingService.Step :=
  [.message (.registry (some lapEvents)), .message (.batch (some ⟨1, 0, 0, [⟨1, 0, some (.s text)⟩], 1⟩))]

def freshService : TimingService := { engine := { policy := {} } }

/-- A text that is no object stops the service, and a split with a sector that is no number
restarts the sector's clock. -/
theorem bad_events_leave_traces : ¬RejectsCleanly eventRuntime freshService (eventRun listEvent) ∧
    ¬RejectsCleanly eventRuntime freshService (eventRun sectorEvent) := by
  constructor
  · rintro ⟨returned, -⟩
    exact absurd returned (by decide)
  · rintro ⟨-, keeps⟩
    have kept := (keeps _ (List.mem_singleton.mpr rfl) (by decide)).2.1
    exact absurd kept (by decide)

end Events

end OpenLaps.PitClocks

import OpenLaps.Pit.Watch.Service

/- Engines that differ only in the order in which their readings were first made: they hear,
tick and change sessions alike, and samples of different channels may be heard in either
order. -/
namespace OpenLaps.Watch

namespace WatchEngine

/-- The readings are the same as a map. -/
structure Same (engine other : WatchEngine) : Prop where
  config : engine.config = other.config
  monitors : engine.monitors = other.monitors
  readings : ∀ channel, engine.readings.get? channel = other.readings.get? channel
  pitStatus : engine.pitStatus = other.pitStatus
  pitTime : engine.pitTime = other.pitTime
  lastTick : engine.lastTick = other.lastTick

variable {engine other third : WatchEngine}

theorem Same.refl (engine : WatchEngine) : engine.Same engine := ⟨rfl, rfl, fun _ => rfl, rfl, rfl, rfl⟩

theorem Same.symm (same : engine.Same other) : other.Same engine :=
  ⟨same.config.symm, same.monitors.symm, fun channel => (same.readings channel).symm,
    same.pitStatus.symm, same.pitTime.symm, same.lastTick.symm⟩

theorem Same.trans (same : engine.Same other) (next : other.Same third) : engine.Same third :=
  ⟨same.config.trans next.config, same.monitors.trans next.monitors,
    fun channel => (same.readings channel).trans (next.readings channel),
    same.pitStatus.trans next.pitStatus, same.pitTime.trans next.pitTime,
    same.lastTick.trans next.lastTick⟩

/-- The engine with other readings. -/
def reread (engine : WatchEngine) (readings : Dict String Reading) : WatchEngine :=
  { engine with readings := readings }

theorem Same.reread (same : engine.Same other) : other = engine.reread other.readings := by
  cases engine
  cases other
  obtain ⟨config, monitors, _, pitStatus, pitTime, lastTick⟩ := same
  dsimp only at config monitors pitStatus pitTime lastTick
  rw [config, monitors, pitStatus, pitTime, lastTick]
  rfl

theorem same_reread (engine : WatchEngine) {readings : Dict String Reading}
    (same : ∀ channel, engine.readings.get? channel = readings.get? channel) :
    engine.Same (engine.reread readings) := ⟨rfl, rfl, same, rfl, rfl, rfl⟩

end WatchEngine

section Hearing

variable (numerics : Numerics) (text : Ingest.PyText)

/-- One sample of the second, with the numbers that `uuid4` has not given out. -/
def hear (state : Nat × WatchEngine) (sample : Observation) : Nat × WatchEngine :=
  match state.2.observe numerics text state.1 sample with
  | .error _ => state
  | .ok next => next

/-- The reading that the engine makes of a sample, if it makes one. -/
def noted (engine : WatchEngine) (sample : Observation) : Option Reading :=
  if sample.channel ∉ engine.inputChannels then none
  else if engine.lastTick.any fun last => sample.time ≤ last then none
  else
    (sample.value.bind real?).bind fun value =>
      if (engine.readings.get? sample.channel).all fun previous => previous.time ≤ sample.time then
        some ⟨value, sample.time, sample.unit⟩
      else none

/-- The engine with what it makes of a sample that is no event. -/
def note (engine : WatchEngine) (sample : Observation) : WatchEngine :=
  match noted engine sample with
  | none => engine
  | some reading => engine.reread (engine.readings.set sample.channel reading)

variable {numerics text} {ids : Nat} {engine other : WatchEngine} {sample : Observation}

theorem observe_note (numerics : Numerics) (text : Ingest.PyText) (ids : Nat) (engine : WatchEngine)
    (plain : sample.channel ≠ "lap.event") :
    engine.observe numerics text ids sample = .ok (ids, note engine sample) := by
  unfold WatchEngine.observe note noted
  by_cases foreign : sample.channel ∉ engine.inputChannels
  · rw [if_pos foreign, if_pos foreign]
  · rw [if_neg foreign, if_neg foreign]
    by_cases late : (engine.lastTick.any fun last => sample.time ≤ last) = true
    · rw [if_pos late, if_pos late]
    · rw [if_neg late, if_neg late, if_neg plain]
      cases sample.value.bind real? with
      | none => rfl
      | some value =>
        dsimp only [Option.bind_some]
        by_cases newest : ((engine.readings.get? sample.channel).all
            fun previous => previous.time ≤ sample.time) = true
        · rw [if_pos newest, if_pos newest]
          rfl
        · rw [if_neg newest, if_neg newest]

theorem hear_note (ids : Nat) (engine : WatchEngine) (plain : sample.channel ≠ "lap.event") :
    hear numerics text (ids, engine) sample = (ids, note engine sample) := by
  unfold hear
  rw [observe_note numerics text ids engine plain]

/-- What is noted of a sample depends on its own channel only. -/
theorem noted_congr (sample : Observation) (config : engine.config = other.config)
    (lastTick : engine.lastTick = other.lastTick)
    (reading : engine.readings.get? sample.channel = other.readings.get? sample.channel) :
    noted engine sample = noted other sample := by
  unfold noted WatchEngine.inputChannels
  rw [config, lastTick, reading]

/-- What a `lap.event` does to an engine, and what of it it leaves alone. -/
theorem observe_event (numerics : Numerics) (text : Ingest.PyText) (ids : Nat) (engine : WatchEngine)
    (event : sample.channel = "lap.event") (readings : Dict String Reading) :
    (engine.reread readings).observe numerics text ids sample =
      (engine.observe numerics text ids sample).map fun next => (next.1, next.2.reread readings) := by
  have told : ∀ (engine : WatchEngine) (event : LapEvent) (time : ℚ),
      (engine.reread readings).lapEvent numerics ids event time =
        ((engine.lapEvent numerics ids event time).1,
          (engine.lapEvent numerics ids event time).2.reread readings) := by
    intro engine event time
    unfold WatchEngine.lapEvent
    dsimp only
    split
    · rfl
    · split <;> rfl
  unfold WatchEngine.observe
  by_cases foreign : sample.channel ∉ engine.inputChannels
  · rw [if_pos foreign, if_pos (show sample.channel ∉ (engine.reread readings).inputChannels from foreign)]
    rfl
  · rw [if_neg foreign, if_neg (show ¬sample.channel ∉ (engine.reread readings).inputChannels from foreign)]
    show (if engine.lastTick.any (fun last => sample.time ≤ last) then _ else _) = _
    by_cases late : (engine.lastTick.any fun last => sample.time ≤ last) = true
    · rw [if_pos late, if_pos late]
      rfl
    · rw [if_neg late, if_neg late, if_pos event, if_pos event]
      cases sample.value with
      | none => rfl
      | some value =>
        cases value with
        | str payload =>
          dsimp only
          by_cases deep : text.deep payload = true
          · rw [if_pos deep, if_pos deep]
            rfl
          · rw [if_neg deep, if_neg deep]
            cases text.loads payload with
            | none => rfl
            | some loaded =>
              cases loaded with
              | object fields =>
                show (if engine.pitTime.all (fun newest => newest ≤ sample.time) then _ else _) =
                  Except.map _
                    (if engine.pitTime.all (fun newest => newest ≤ sample.time) then _ else _)
                split
                · exact congrArg Except.ok (told
                    { engine with
                      pitStatus := List.lookup "pit_status" fields
                      pitTime := some sample.time } fields sample.time)
                · rfl
              | _ => rfl
        | _ => rfl

theorem hear_reread (numerics : Numerics) (text : Ingest.PyText) (ids : Nat)
    (engine : WatchEngine) (event : sample.channel = "lap.event") (readings : Dict String Reading) :
    hear numerics text (ids, engine.reread readings) sample =
      ((hear numerics text (ids, engine) sample).1,
        (hear numerics text (ids, engine) sample).2.reread readings) := by
  unfold hear
  dsimp only
  rw [observe_event numerics text ids engine event readings]
  cases engine.observe numerics text ids sample <;> rfl

/-- Neither the configuration nor the last tick is changed by a sample. -/
theorem observe_frame {next : Nat × WatchEngine}
    (heard : engine.observe numerics text ids sample = .ok next) :
    next.2.config = engine.config ∧ next.2.lastTick = engine.lastTick := by
  have told : ∀ (engine : WatchEngine) (event : LapEvent) (time : ℚ),
      (engine.lapEvent numerics ids event time).2.config = engine.config ∧
        (engine.lapEvent numerics ids event time).2.lastTick = engine.lastTick := by
    intro engine event time
    unfold WatchEngine.lapEvent
    dsimp only
    split
    · exact ⟨rfl, rfl⟩
    · split <;> exact ⟨rfl, rfl⟩
  by_cases event : sample.channel = "lap.event"
  · unfold WatchEngine.observe at heard
    by_cases foreign : sample.channel ∉ engine.inputChannels
    · rw [if_pos foreign] at heard
      cases heard
      exact ⟨rfl, rfl⟩
    · rw [if_neg foreign] at heard
      by_cases late : (engine.lastTick.any fun last => sample.time ≤ last) = true
      · rw [if_pos late] at heard
        cases heard
        exact ⟨rfl, rfl⟩
      · rw [if_neg late, if_pos event] at heard
        split at heard
        · split at heard
          · cases heard
          · split at heard
            · cases heard
            · split at heard
              · cases heard
                exact told _ _ _
              · cases heard
                exact ⟨rfl, rfl⟩
            · cases heard
              exact ⟨rfl, rfl⟩
        · cases heard
          exact ⟨rfl, rfl⟩
  · rw [observe_note numerics text ids engine event] at heard
    cases heard
    unfold note
    split <;> exact ⟨rfl, rfl⟩

theorem hear_frame (numerics : Numerics) (text : Ingest.PyText) (ids : Nat) (engine : WatchEngine)
    (sample : Observation) :
    (hear numerics text (ids, engine) sample).2.config = engine.config ∧
      (hear numerics text (ids, engine) sample).2.lastTick = engine.lastTick := by
  unfold hear
  split
  · exact ⟨rfl, rfl⟩
  · rename_i next heard
    exact observe_frame heard

theorem hear_readings (numerics : Numerics) (text : Ingest.PyText) (ids : Nat)
    (engine : WatchEngine) (event : sample.channel = "lap.event") :
    (hear numerics text (ids, engine) sample).2.readings = engine.readings := by
  have same := hear_reread numerics text ids engine event engine.readings
  change hear numerics text (ids, engine) sample = _ at same
  rw [same]
  rfl

/-- Numbers and engines that are the same. -/
def Alike (first second : Nat × WatchEngine) : Prop := first.1 = second.1 ∧ first.2.Same second.2

theorem note_same (same : engine.Same other) : (note engine sample).Same (note other sample) := by
  unfold note
  rw [noted_congr sample same.config same.lastTick (same.readings sample.channel)]
  split
  · exact same
  · refine ⟨same.config, same.monitors, ?_, same.pitStatus, same.pitTime, same.lastTick⟩
    intro channel
    show (engine.readings.set _ _).get? channel = (other.readings.set _ _).get? channel
    rw [Dict.get?_set, Dict.get?_set, same.readings channel]

theorem hear_same {first second : Nat × WatchEngine} (alike : Alike first second)
    (sample : Observation) : Alike (hear numerics text first sample) (hear numerics text second sample) := by
  obtain ⟨ids, engine⟩ := first
  obtain ⟨ids', other⟩ := second
  obtain ⟨numbers, same⟩ := alike
  dsimp only at numbers same
  rw [← numbers]
  by_cases event : sample.channel = "lap.event"
  · rw [same.reread, hear_reread numerics text ids engine event]
    refine ⟨rfl, WatchEngine.same_reread _ ?_⟩
    intro channel
    rw [hear_readings numerics text ids engine event]
    exact same.readings channel
  · rw [hear_note ids engine event, hear_note ids other event]
    exact ⟨rfl, note_same same⟩

/-- An event and a sample of another channel. -/
theorem hear_swap (numerics : Numerics) (text : Ingest.PyText) {event plain : Observation}
    (lap : event.channel = "lap.event") (other : plain.channel ≠ "lap.event") (ids : Nat)
    (engine : WatchEngine) :
    Alike (hear numerics text (hear numerics text (ids, engine) event) plain)
      (hear numerics text (hear numerics text (ids, engine) plain) event) := by
  have frame := hear_frame numerics text ids engine event
  have readings := hear_readings numerics text ids engine lap
  generalize after : hear numerics text (ids, engine) event = next at frame readings ⊢
  obtain ⟨ids', engine'⟩ := next
  dsimp only at frame readings
  rw [hear_note ids' engine' other, hear_note ids engine other]
  unfold note
  rw [noted_congr plain frame.1 frame.2 (by rw [readings])]
  cases noted engine plain with
  | none =>
    rw [after]
    exact ⟨rfl, .refl _⟩
  | some reading =>
    dsimp only
    rw [hear_reread numerics text ids engine lap, after, readings]
    exact ⟨rfl, .refl _⟩

/-- What is noted of one channel does not depend on another. -/
theorem noted_note {first second : Observation} (apart : first.channel ≠ second.channel)
    (engine : WatchEngine) : noted (note engine first) second = noted engine second := by
  unfold note
  split
  · rfl
  · refine noted_congr _ rfl rfl ?_
    show (engine.readings.set _ _).get? second.channel = _
    rw [Dict.get?_set, if_neg apart]

theorem note_comm {first second : Observation} (apart : first.channel ≠ second.channel)
    (engine : WatchEngine) :
    (note (note engine first) second).Same (note (note engine second) first) := by
  have one := noted_note apart engine
  have two := noted_note apart.symm engine
  unfold note at one two ⊢
  rw [one, two]
  cases noted engine first with
  | none => exact .refl _
  | some reading =>
    cases noted engine second with
    | none => exact .refl _
    | some reading' =>
      refine ⟨rfl, rfl, ?_, rfl, rfl, rfl⟩
      intro channel
      show ((engine.readings.set _ _).set _ _).get? channel =
        ((engine.readings.set _ _).set _ _).get? channel
      rw [Dict.get?_set, Dict.get?_set, Dict.get?_set, Dict.get?_set]
      by_cases here : first.channel = channel
      · rw [if_pos here, if_neg (fun there => apart (here.trans there.symm)), if_pos here]
      · rw [if_neg here, if_neg here]

/-- Samples of different channels may be heard in either order. -/
theorem hear_comm {first second : Observation} (apart : first.channel ≠ second.channel)
    (state : Nat × WatchEngine) :
    Alike (hear numerics text (hear numerics text state first) second)
      (hear numerics text (hear numerics text state second) first) := by
  obtain ⟨ids, engine⟩ := state
  by_cases event : first.channel = "lap.event"
  · apply hear_swap numerics text event
    rw [← event]
    exact apart.symm
  · by_cases event' : second.channel = "lap.event"
    · obtain ⟨numbers, same⟩ := hear_swap numerics text event' event ids engine
      exact ⟨numbers.symm, same.symm⟩
    · rw [hear_note ids engine event, hear_note ids _ event', hear_note ids engine event',
        hear_note ids _ event]
      exact ⟨rfl, note_comm apart engine⟩

end Hearing

section Ticking

variable {engine other : WatchEngine}

theorem evaluate_reread (numerics : Numerics) (ids : Nat) (engine : WatchEngine) (time : Int)
    (active : Bool) {readings : Dict String Reading}
    (same : ∀ channel, engine.readings.get? channel = readings.get? channel) (name : String)
    (monitor : Monitor) :
    (engine.reread readings).evaluate numerics ids time active name monitor =
      engine.evaluate numerics ids time active name monitor := by
  have map : (engine.reread readings).readings.get? = engine.readings.get? :=
    funext fun channel => (same channel).symm
  unfold WatchEngine.evaluate WatchEngine.valid WatchEngine.fresh
  rw [map]
  rfl

theorem raising_same (same : engine.Same other) (time : Int) (active : Bool) :
    engine.raising time active = other.raising time active := by
  have map : engine.readings.get? = other.readings.get? := funext same.readings
  unfold WatchEngine.raising WatchEngine.valid WatchEngine.fresh
  rw [same.monitors, map, same.pitStatus, same.config]

theorem tick_same (numerics : Numerics) (ids : Nat) (same : engine.Same other) (time : Int)
    (active : Bool) :
    (engine.tick numerics ids time active).1.Same (other.tick numerics ids time active).1 ∧
      (engine.tick numerics ids time active).2 = (other.tick numerics ids time active).2 := by
  have judged : ∀ name monitor, other.evaluate numerics ids time active name monitor =
      engine.evaluate numerics ids time active name monitor := by
    intro name monitor
    rw [same.reread]
    exact evaluate_reread numerics ids engine time active same.readings name monitor
  have judging : other.evaluate numerics ids time active = engine.evaluate numerics ids time active :=
    funext fun name => funext fun monitor => judged name monitor
  have breaking : ∀ raised, other.broken numerics ids time active raised =
      engine.broken numerics ids time active raised := by
    intro raised
    have map : engine.readings.get? = other.readings.get? := funext same.readings
    funext name monitor
    unfold WatchEngine.broken WatchEngine.turn
    rw [judging, ← same.monitors, map]
  unfold WatchEngine.tick
  rw [← same.lastTick, ← raising_same same time active]
  split
  · exact ⟨same, rfl⟩
  · cases engine.raising time active with
    | none =>
      dsimp only
      rw [judging, same.monitors]
      exact ⟨⟨same.config, rfl, same.readings, same.pitStatus, same.pitTime, rfl⟩, rfl⟩
    | some raised =>
      dsimp only
      rw [breaking, same.monitors]
      exact ⟨⟨same.config, rfl, same.readings, same.pitStatus, same.pitTime, rfl⟩, rfl⟩

end Ticking

section Context

variable {engine other : WatchEngine} {service service' : WatchService}

/-- Services whose engines are the same, in the same session and stint. -/
structure WatchService.Same (service service' : WatchService) : Prop where
  engine : service.engine.Same service'.engine
  session : service.session = service'.session
  stint : service.stint = service'.stint
  initialized : service.initialized = service'.initialized

theorem WatchService.Same.refl (service : WatchService) : service.Same service :=
  ⟨.refl _, rfl, rfl, rfl⟩

theorem WatchService.Same.trans {third : WatchService} (same : service.Same service')
    (next : service'.Same third) : service.Same third :=
  ⟨same.engine.trans next.engine, same.session.trans next.session, same.stint.trans next.stint,
    same.initialized.trans next.initialized⟩

theorem WatchService.Same.symm (same : service.Same service') : service'.Same service :=
  ⟨same.engine.symm, same.session.symm, same.stint.symm, same.initialized.symm⟩

theorem replace_same (same : engine.Same other) (name : String) (monitor : Monitor) :
    (engine.replace name monitor).Same (other.replace name monitor) :=
  ⟨same.config, congrArg (Dict.set · name monitor) same.monitors, same.readings, same.pitStatus,
    same.pitTime, same.lastTick⟩

theorem restart_same (settings : Settings) (answers : Answers) (session : Option String)
    (stint : Nat) (names : List String) (same : engine.Same other) :
    (settings.restart answers session stint engine names).1.Same
        (settings.restart answers session stint other names).1 ∧
      (settings.restart answers session stint engine names).2 =
        (settings.restart answers session stint other names).2 := by
  induction names generalizing engine other with
  | nil => exact ⟨same, rfl⟩
  | cons name rest ih =>
    unfold Settings.restart
    rw [← same.config]
    cases engine.config.monitors.get? name with
    | none => exact ⟨same, rfl⟩
    | some config =>
      dsimp only
      cases settings.freshMonitor answers session stint name (buildMonitor config) with
      | error error => exact ⟨replace_same same name _, rfl⟩
      | ok fresh => exact ih (replace_same same name fresh.1)

theorem kept_same (same : engine.Same other) : engine.kept = other.kept := by
  unfold WatchEngine.kept
  rw [same.monitors]

theorem changeStint_same (settings : Settings) (answers : Answers) (same : service.Same service')
    (session : Option String) (stint : Nat) :
    (service.changeStint settings answers session stint).1.Same
        (service'.changeStint settings answers session stint).1 ∧
      (service.changeStint settings answers session stint).2 =
        (service'.changeStint settings answers session stint).2 := by
  unfold WatchService.changeStint
  dsimp only
  rw [← same.engine.monitors]
  generalize (service.engine.monitors.entries.filter fun entry => stintStart entry.2).map Prod.fst = names
  have restarted := restart_same settings answers session stint names same.engine
  generalize settings.restart answers session stint service.engine names = done at restarted ⊢
  generalize settings.restart answers session stint service'.engine names = done' at restarted ⊢
  obtain ⟨engine, outcome⟩ := done
  obtain ⟨engine', outcome'⟩ := done'
  obtain ⟨engines, outcomes⟩ := restarted
  dsimp only at engines outcomes ⊢
  rw [← outcomes, ← kept_same engines]
  have with_stint : ∀ stint, WatchService.Same { service with engine := engine, stint := stint }
      { service' with engine := engine', stint := stint } :=
    fun stint => ⟨engines, same.session, rfl, same.initialized⟩
  have without : WatchService.Same { service with engine := engine } { service' with engine := engine' } :=
    ⟨engines, same.session, same.stint, same.initialized⟩
  cases outcome with
  | error error => exact ⟨without, rfl⟩
  | ok ended =>
    dsimp only
    split
    · exact ⟨with_stint stint, rfl⟩
    · cases answers.closePrevious with
      | error error => exact ⟨without, rfl⟩
      | ok closed => exact ⟨with_stint stint, rfl⟩

theorem changeSession_same (settings : Settings) (answers : Answers) (same : service.Same service')
    (session : Option String) (stint : Nat) :
    (service.changeSession settings answers session stint).1.Same
        (service'.changeSession settings answers session stint).1 ∧
      (service.changeSession settings answers session stint).2 =
        (service'.changeSession settings answers session stint).2 := by
  unfold WatchService.changeSession
  dsimp only
  cases settings.freshMonitors answers session stint (WatchEngine.new settings.config)
      (WatchEngine.new settings.config).monitors.entries with
  | error error => exact ⟨same, rfl⟩
  | ok made =>
    dsimp only
    cases answers.closePrevious with
    | error error => exact ⟨same, rfl⟩
    | ok closed => exact ⟨⟨.refl _, rfl, rfl, rfl⟩, rfl⟩

/-- A `_context` does not look at the readings. -/
theorem context_same (settings : Settings) (answers : Answers) (same : service.Same service') :
    (service.context settings answers).1.Same (service'.context settings answers).1 ∧
      (service.context settings answers).2 = (service'.context settings answers).2 := by
  unfold WatchService.context
  cases answers.seen with
  | error error => exact ⟨same, rfl⟩
  | ok context =>
    obtain ⟨session, stint⟩ := context
    dsimp only
    rw [← same.initialized, ← same.session, ← same.stint]
    split
    · split
      · exact ⟨same, rfl⟩
      · exact changeStint_same settings answers same session stint
    · exact changeSession_same settings answers same session stint

/-- The service with other samples waiting. -/
def WatchService.await (service : WatchService)
    (pending : ReorderBuffer.Buffer Observation.time) : WatchService :=
  { service with pending := pending }

/-- What waits is not looked at before it is due. -/
theorem context_await (settings : Settings) (answers : Answers) (service : WatchService)
    (pending : ReorderBuffer.Buffer Observation.time) :
    (service.await pending).context settings answers =
      ((service.context settings answers).1.await pending, (service.context settings answers).2) := by
  unfold WatchService.context
  cases answers.seen with
  | error error => rfl
  | ok context =>
    obtain ⟨session, stint⟩ := context
    dsimp only
    show (if service.initialized ∧ session = service.session then _ else _) = _
    split
    · show (if stint = service.stint then _ else _) = _
      split
      · rfl
      · unfold WatchService.changeStint
        dsimp only
        rw [show (service.await pending).engine = service.engine from rfl]
        generalize (service.engine.monitors.entries.filter fun entry => stintStart entry.2).map
          Prod.fst = changed
        generalize settings.restart answers session stint service.engine changed = done
        obtain ⟨engine, outcome⟩ := done
        cases outcome with
        | error error => rfl
        | ok ended =>
          dsimp only
          split
          · rfl
          · cases answers.closePrevious <;> rfl
    · unfold WatchService.changeSession
      dsimp only
      cases settings.freshMonitors answers session stint (WatchEngine.new settings.config)
          (WatchEngine.new settings.config).monitors.entries with
      | error error => rfl
      | ok made => cases answers.closePrevious <;> rfl

theorem context_pending (settings : Settings) (answers : Answers) (service : WatchService) :
    (service.context settings answers).1.pending = service.pending :=
  congrArg (fun result => result.1.pending) (context_await settings answers service service.pending)

end Context

end OpenLaps.Watch

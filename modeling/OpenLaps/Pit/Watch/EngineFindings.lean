import OpenLaps.Pit.Watch.Checkpoint
import OpenLaps.Pit.Watch.FindingLifecycle
import OpenLaps.Pit.Watch.FindingRows

/- The findings of the engine beside the open rows of their monitors: what laps, pit visits
and ticks do to the two. -/
namespace OpenLaps.Watch

def Monitor.held (monitor : Monitor) : Option Nat := monitor.finding.map Finding.findingId

/-- The state of a monitor that the service works with: its finding is open and its own, and
a report waits only until the lap has observations. -/
structure Monitor.Kept (config : WatchConfig) (ids : Nat) (name : String) (monitor : Monitor) :
    Prop where
  configured : config.monitors.get? name = some monitor.kind.config
  live : ∀ finding, monitor.finding = some finding →
    finding.closedAt = none ∧ Owns config ids name finding.findingId
  waits : ∀ report, monitor.kind.waiting = some report →
    monitor.kind.lapN = 0 ∧ Database.Writable config ids name report ∧
      monitor.held = if report.closedAt = none then some report.findingId else none

/-- The open rows are the finding's, but for a report that is still to be written. -/
def Monitor.Agrees (isOpen : Nat → Prop) (monitor : Monitor) : Prop :=
  match monitor.kind.waiting with
  | none => ∀ findingId, isOpen findingId ↔ monitor.held = some findingId
  | some report => ∀ findingId, isOpen findingId → findingId = report.findingId

variable {config : WatchConfig} {ids ids' : Nat} {name : String} {monitor : Monitor}
  {isOpen : Nat → Prop}

theorem Database.Writable.later {finding : Finding}
    (writable : Database.Writable config ids name finding) (more : ids ≤ ids') :
    Database.Writable config ids' name finding := ⟨writable.owns.later more, writable.closes⟩

theorem Monitor.Kept.later (kept : monitor.Kept config ids name) (more : ids ≤ ids') :
    monitor.Kept config ids' name where
  configured := kept.configured
  live finding held := ⟨(kept.live finding held).1, (kept.live finding held).2.later more⟩
  waits report waiting :=
    have before := kept.waits report waiting
    ⟨before.1, before.2.1.later more, before.2.2⟩

/-- What a transition reports of a finding that is open, and what it leaves. -/
structure Turned (config : WatchConfig) (ids : Nat) (name : String) (finding report next : Option Finding) :
    Prop where
  live : ∀ found, next = some found → found.closedAt = none ∧ Owns config ids name found.findingId
  written : ∀ found, report = some found → Database.Writable config ids name found ∧
    next.map Finding.findingId = if found.closedAt = none then some found.findingId else none
  quiet : report = none → finding = none ∧ next = none
  same : ∀ found, report = some found → ∀ before, finding = some before →
    before.findingId = found.findingId

theorem transition_turned {finding : Option Finding} {fresh : Nat} {time : ℚ}
    (judgement : Judgement)
    (live : ∀ found, finding = some found → found.closedAt = none ∧ Owns config ids name found.findingId)
    (owns : Owns config ids name fresh) (later : time ≠ 0) :
    Turned config ids name finding (transition finding fresh time judgement).1
      (transition finding fresh time judgement).2 := by
  unfold transition
  cases judgement.openNow with
  | false =>
    rw [if_neg (by decide)]
    cases finding with
    | none =>
      constructor
      · intro found next
        cases next
      · intro found report
        cases report
      · exact fun _ => ⟨rfl, rfl⟩
      · intro found report
        cases report
    | some current =>
      have own := (live current rfl).2
      constructor
      · intro found next
        cases next
      · intro found report
        cases report
        refine ⟨⟨own, ?_⟩, rfl⟩
        intro zero
        exact later (Option.some.inj zero)
      · intro none
        cases none
      · intro found report before same
        cases report
        cases same
        rfl
  | true =>
    rw [if_pos rfl]
    dsimp only
    have current : ∀ found : Finding, found.closedAt = none →
        Owns config ids name found.findingId →
        ∀ updated, updated = (if found.peakScore ≤ judgement.score then
          { found with peakScore := judgement.score, summary := judgement.summary }
          else found) → updated.findingId = found.findingId ∧ updated.closedAt = none := by
      intro found unclosed _ updated made
      rw [made]
      split
      · exact ⟨rfl, unclosed⟩
      · exact ⟨rfl, unclosed⟩
    have opened : ∃ found : Finding, finding.getD
          ⟨fresh, time, none, judgement.severity, judgement.score, judgement.summary⟩ = found ∧
        found.closedAt = none ∧ Owns config ids name found.findingId ∧
        ∀ before, finding = some before → before.findingId = found.findingId := by
      cases finding with
      | none =>
        refine ⟨_, rfl, rfl, owns, ?_⟩
        intro before same
        cases same
      | some before =>
        refine ⟨before, rfl, (live before rfl).1, (live before rfl).2, ?_⟩
        intro other same
        cases same
        rfl
    obtain ⟨found, made, unclosed, own, before⟩ := opened
    rw [made]
    obtain ⟨number, still⟩ := current found unclosed own _ rfl
    constructor
    · intro updated next
      cases next
      rw [number]
      exact ⟨still, own⟩
    · intro updated report
      cases report
      refine ⟨⟨?_, ?_⟩, ?_⟩
      · rw [number]
        exact own
      · rw [still]
        exact fun closed => by cases closed
      · rw [if_pos still]
        rfl
    · intro none
      cases none
    · intro updated report old same
      cases report
      rw [number]
      exact before old same

/-- The row of a report closes or keeps what was open under its number. -/
theorem reported_iff {report : Finding} {held : Option Nat}
    (only : ∀ findingId, isOpen findingId → findingId = report.findingId)
    (next : held = if report.closedAt = none then some report.findingId else none)
    (findingId : Nat) : Database.Reported isOpen (some report) findingId ↔ held = some findingId := by
  unfold Database.Reported
  dsimp only
  rw [next]
  split
  · rename_i own
    rw [own]
    split
    · rename_i unclosed
      simp [unclosed]
    · rename_i closed
      simp [closed]
  · rename_i other
    constructor
    · intro found
      exact absurd (only findingId found) other
    · intro same
      split at same
      · exact absurd (Option.some.inj same).symm other
      · cases same

section Laps

variable (numerics : Numerics) {event : LapEvent} {fresh : Nat} {time : ℚ}

theorem onPit_kept (kept : monitor.Kept config ids name) : monitor.onPit.Kept config ids name := by
  obtain ⟨kind, finding⟩ := monitor
  cases kind with
  | drift state => exact ⟨kept.configured, kept.live, kept.waits⟩
  | envelope state => exact kept
  | ratio state => exact kept
  | counter state => exact kept
  | wholeCar state => exact kept

theorem onPit_agrees (agrees : monitor.Agrees isOpen) : monitor.onPit.Agrees isOpen := by
  obtain ⟨kind, finding⟩ := monitor
  cases kind with
  | drift state => exact agrees
  | envelope state => exact agrees
  | ratio state => exact agrees
  | counter state => exact agrees
  | wholeCar state => exact agrees

/-- What a lap does to a monitor: nothing to its finding and its report, or one transition
where no report waits. -/
theorem onLap_cases :
    ((monitor.onLap numerics fresh event time).finding = monitor.finding ∧
      (monitor.onLap numerics fresh event time).kind.waiting = monitor.kind.waiting ∧
      (monitor.kind.lapN = 0 → (monitor.onLap numerics fresh event time).kind.lapN = 0)) ∨
    ∃ judgement, 0 < monitor.kind.lapN ∧
      (monitor.onLap numerics fresh event time).kind.lapN = 0 ∧
      transition monitor.finding fresh time judgement =
        ((monitor.onLap numerics fresh event time).kind.waiting,
          (monitor.onLap numerics fresh event time).finding) := by
  obtain ⟨kind, finding⟩ := monitor
  cases kind with
  | envelope state => exact .inl ⟨rfl, rfl, id⟩
  | ratio state => exact .inl ⟨rfl, rfl, id⟩
  | counter state => exact .inl ⟨rfl, rfl, id⟩
  | wholeCar state => exact .inl ⟨rfl, rfl, id⟩
  | drift state =>
    have cases := Drift.onLap_cases numerics state finding.isSome event time
    simp only [Monitor.onLap]
    rcases cases with ⟨unjudged, same⟩ | ⟨lap, mean, scale, enough, _, _, _, judged⟩
    · left
      cases made : state.onLap numerics finding.isSome event time with
      | mk next judgement =>
        rw [made] at unjudged same
        dsimp only at unjudged same
        rw [unjudged]
        rcases same with same | ⟨lap, learned⟩
        · rw [same]
          exact ⟨rfl, rfl, fun _ => rfl⟩
        · rw [learned]
          unfold Drift.learn
          dsimp only
          split
          · exact ⟨rfl, rfl, fun _ => rfl⟩
          · exact ⟨rfl, rfl, fun _ => rfl⟩
    · right
      rw [judged]
      have samples := state.config.samples
      exact ⟨_, Nat.lt_of_lt_of_le samples enough, rfl, rfl⟩

theorem onLap_kept (kept : monitor.Kept config ids name) (more : ids ≤ ids')
    (owns : Owns config ids' name fresh) (later : time ≠ 0) :
    (monitor.onLap numerics fresh event time).Kept config ids' name := by
  have kept := kept.later more
  have configured := call_config numerics monitor (.between (.onLap fresh event time))
  change (monitor.onLap numerics fresh event time).kind.config = monitor.kind.config at configured
  rcases onLap_cases numerics with ⟨finding, waiting, laps⟩ | ⟨judgement, _, empty, turned⟩
  · constructor
    · rw [configured]
      exact kept.configured
    · rw [finding]
      exact kept.live
    · intro report waits
      rw [waiting] at waits
      have before := kept.waits report waits
      unfold Monitor.held
      rw [finding]
      exact ⟨laps before.1, before.2⟩
  · have turn := transition_turned judgement kept.live owns later
    rw [turned] at turn
    dsimp only at turn
    constructor
    · rw [configured]
      exact kept.configured
    · exact turn.live
    · intro report waits
      exact ⟨empty, turn.written report waits⟩

theorem onLap_agrees (kept : monitor.Kept config ids name) (more : ids ≤ ids')
    (agrees : monitor.Agrees isOpen) (owns : Owns config ids' name fresh) (later : time ≠ 0) :
    (monitor.onLap numerics fresh event time).Agrees isOpen := by
  have kept := kept.later more
  rcases onLap_cases numerics with ⟨finding, waiting, _⟩ | ⟨judgement, observed, _, turned⟩
  · unfold Monitor.Agrees Monitor.held at agrees ⊢
    rw [waiting, finding]
    exact agrees
  · have turn := transition_turned judgement kept.live owns later
    rw [turned] at turn
    dsimp only at turn
    have settled : monitor.kind.waiting = none := by
      cases waits : monitor.kind.waiting with
      | none => rfl
      | some report =>
        have empty := (kept.waits report waits).1
        omega
    unfold Monitor.Agrees at agrees ⊢
    rw [settled] at agrees
    dsimp only at agrees
    split
    · rename_i silent
      obtain ⟨before, after⟩ := turn.quiet silent
      intro findingId
      rw [agrees]
      unfold Monitor.held
      rw [before, after]
    · rename_i report waits
      intro findingId found
      rw [agrees] at found
      obtain ⟨current, held, number⟩ := Option.map_eq_some_iff.mp found
      rw [← number]
      exact turn.same report waits current held

end Laps

section Ticks

variable (numerics : Numerics) {evaluation : Evaluation}

/-- What an `evaluate` does to a monitor: it hands over the report that waits, or makes one
transition where none does. -/
theorem evaluate_cases :
    ((monitor.evaluate numerics evaluation).1.finding = monitor.kind.waiting ∧
      (monitor.evaluate numerics evaluation).2.finding = monitor.finding) ∨
    ∃ judgement, monitor.kind.waiting = none ∧
      transition monitor.finding evaluation.fresh evaluation.time judgement =
        ((monitor.evaluate numerics evaluation).1.finding,
          (monitor.evaluate numerics evaluation).2.finding) := by
  have report := evaluate_report numerics monitor.kind evaluation.time evaluation.readings
    evaluation.valid
  unfold Monitor.evaluate
  dsimp only
  rcases report with ⟨unjudged, handed⟩ | ⟨judged, settled⟩
  · left
    rw [unjudged]
    exact ⟨handed, rfl⟩
  · right
    obtain ⟨judgement, made⟩ := Option.isSome_iff_exists.mp judged
    rw [made]
    exact ⟨judgement, settled, rfl⟩

theorem evaluate_settled : (monitor.evaluate numerics evaluation).2.kind.waiting = none := by
  rw [evaluate_kind]
  exact evaluate_waiting numerics _ _ _ _

theorem evaluate_kept (kept : monitor.Kept config ids name) (more : ids ≤ ids')
    (owns : Owns config ids' name evaluation.fresh) (later : evaluation.time ≠ 0) :
    (monitor.evaluate numerics evaluation).2.Kept config ids' name := by
  have kept := kept.later more
  constructor
  · rw [evaluate_kind, evaluate_config]
    exact kept.configured
  · rcases evaluate_cases numerics with ⟨_, finding⟩ | ⟨judgement, _, turned⟩
    · rw [finding]
      exact kept.live
    · have turn := transition_turned judgement kept.live owns later
      rw [turned] at turn
      dsimp only at turn
      exact turn.live
  · intro report waits
    rw [evaluate_settled] at waits
    cases waits

/-- What the row reports can be written, and makes the open rows those of the finding. -/
theorem evaluate_reports (kept : monitor.Kept config ids name) (more : ids ≤ ids')
    (agrees : monitor.Agrees isOpen) (owns : Owns config ids' name evaluation.fresh)
    (later : evaluation.time ≠ 0) :
    (∀ finding, (monitor.evaluate numerics evaluation).1.finding = some finding →
      Database.Writable config ids' name finding) ∧
      ∀ findingId, Database.Reported isOpen (monitor.evaluate numerics evaluation).1.finding findingId ↔
        (monitor.evaluate numerics evaluation).2.held = some findingId := by
  have kept := kept.later more
  unfold Monitor.Agrees at agrees
  unfold Monitor.held
  rcases evaluate_cases numerics with ⟨handed, finding⟩ | ⟨judgement, settled, turned⟩
  · rw [handed, finding]
    cases waits : monitor.kind.waiting with
    | none =>
      rw [waits] at agrees
      refine ⟨?_, agrees⟩
      intro finding none
      cases none
    | some report =>
      rw [waits] at agrees
      have before := kept.waits report waits
      refine ⟨?_, reported_iff agrees before.2.2⟩
      intro finding same
      cases same
      exact before.2.1
  · have turn := transition_turned judgement kept.live owns later
    rw [turned] at turn
    dsimp only at turn
    rw [settled] at agrees
    dsimp only at agrees
    cases report : (monitor.evaluate numerics evaluation).1.finding with
    | none =>
      obtain ⟨before, after⟩ := turn.quiet report
      refine ⟨?_, ?_⟩
      · intro finding none
        cases none
      · intro findingId
        rw [after]
        unfold Database.Reported
        dsimp only
        rw [agrees]
        unfold Monitor.held
        rw [before]
    | some reported =>
      have written := turn.written reported report
      refine ⟨?_, reported_iff ?_ written.2⟩
      · intro finding same
        cases same
        exact written.1
      · intro findingId found
        rw [agrees] at found
        obtain ⟨current, held, number⟩ := Option.map_eq_some_iff.mp found
        rw [← number]
        exact turn.same reported report current held

end Ticks

/-- An engine of the configuration whose monitors are kept. -/
structure WatchEngine.Kept (config : WatchConfig) (ids : Nat) (engine : WatchEngine) : Prop where
  configured : engine.config = config
  keys : engine.monitors.keys = config.monitors.keys
  monitors : ∀ name monitor, engine.monitors.get? name = some monitor →
    monitor.Kept config ids name

def WatchEngine.Agrees (database : Database) (engine : WatchEngine) : Prop :=
  ∀ name monitor, engine.monitors.get? name = some monitor →
    monitor.Agrees (database.IsOpen name)

variable {engine : WatchEngine} {database : Database} {settings : Settings} {service : WatchService}

theorem WatchEngine.Kept.later (kept : engine.Kept config ids) (more : ids ≤ ids') :
    engine.Kept config ids' :=
  ⟨kept.configured, kept.keys, fun name monitor found => (kept.monitors name monitor found).later more⟩

theorem WatchEngine.Kept.listed (kept : engine.Kept config ids)
    (found : engine.monitors.get? name = some monitor) : name ∈ config.monitors.keys := by
  rw [← kept.keys]
  exact Dict.mem_keys found

theorem WatchEngine.Kept.size (kept : engine.Kept config ids) :
    engine.monitors.entries.length = config.monitors.keys.length := by
  rw [← kept.keys]
  exact (List.length_map _).symm

/-- The number of a monitor's turn in a round of the engine. -/
theorem WatchEngine.Kept.turn (kept : engine.Kept config ids)
    (rounds : ids % config.monitors.keys.length = 0)
    (found : engine.monitors.get? name = some monitor) :
    Owns config (ids + engine.monitors.entries.length) name (ids + engine.turn name) := by
  unfold WatchEngine.turn
  rw [kept.size, kept.keys]
  exact owns_turn rounds (kept.listed found)

theorem round_more (kept : engine.Kept config ids)
    (rounds : ids % config.monitors.keys.length = 0) :
    (ids + engine.monitors.entries.length) % config.monitors.keys.length = 0 := by
  rw [kept.size, Nat.add_mod_right]
  exact rounds

/-- A service in the middle of a second, with the numbers it has not given out. -/
structure Working (config : WatchConfig) (database : Database) (ids : Nat) (engine : WatchEngine) :
    Prop where
  rounds : ids % config.monitors.keys.length = 0
  kept : engine.Kept config ids
  agrees : engine.Agrees database

theorem lapEvent_working (numerics : Numerics) (working : Working config database ids engine)
    (event : LapEvent) {time : ℚ} (later : time ≠ 0) :
    ids ≤ (engine.lapEvent numerics ids event time).1 ∧
      Working config database (engine.lapEvent numerics ids event time).1
        (engine.lapEvent numerics ids event time).2 := by
  have kept := working.kept
  unfold WatchEngine.lapEvent
  dsimp only
  split
  · refine ⟨Nat.le_add_right _ _, round_more kept working.rounds, ⟨kept.configured, ?_, ?_⟩, ?_⟩
    · rw [Dict.keys_mapEntries]
      exact kept.keys
    · intro name monitor found
      rw [Dict.get?_mapEntries] at found
      obtain ⟨before, present, told⟩ := Option.map_eq_some_iff.mp found
      rw [← told]
      exact onLap_kept numerics (kept.monitors name before present)
        (Nat.le_add_right ids engine.monitors.entries.length) (kept.turn working.rounds present) later
    · intro name monitor found
      dsimp only at found
      rw [Dict.get?_mapEntries] at found
      obtain ⟨before, present, told⟩ := Option.map_eq_some_iff.mp found
      rw [← told]
      exact onLap_agrees numerics (kept.monitors name before present)
        (Nat.le_add_right ids engine.monitors.entries.length) (working.agrees name before present)
        (kept.turn working.rounds present) later
  · split
    · refine ⟨Nat.le_refl _, working.rounds, ⟨kept.configured, ?_, ?_⟩, ?_⟩
      · rw [Dict.keys_mapValues]
        exact kept.keys
      · intro name monitor found
        rw [Dict.get?_mapValues] at found
        obtain ⟨before, present, told⟩ := Option.map_eq_some_iff.mp found
        rw [← told]
        exact onPit_kept (kept.monitors name before present)
      · intro name monitor found
        dsimp only at found
        rw [Dict.get?_mapValues] at found
        obtain ⟨before, present, told⟩ := Option.map_eq_some_iff.mp found
        rw [← told]
        exact onPit_agrees (working.agrees name before present)
    · exact ⟨Nat.le_refl _, working⟩

theorem observe_working {numerics : Numerics} {text : Ingest.PyText} {sample : Observation}
    {observed : Nat × WatchEngine} (working : Working config database ids engine)
    (later : sample.time ≠ 0)
    (made : engine.observe numerics text ids sample = .ok observed) :
    ids ≤ observed.1 ∧ Working config database observed.1 observed.2 := by
  have same : ∀ after : WatchEngine, after.config = engine.config →
      after.monitors = engine.monitors → Working config database ids after := by
    intro after config monitors
    refine ⟨working.rounds, ⟨config.trans working.kept.configured, ?_, ?_⟩, ?_⟩
    · rw [monitors]
      exact working.kept.keys
    · rw [monitors]
      exact working.kept.monitors
    · unfold WatchEngine.Agrees
      rw [monitors]
      exact working.agrees
  unfold WatchEngine.observe at made
  split at made
  · cases made
    exact ⟨Nat.le_refl _, working⟩
  · split at made
    · cases made
      exact ⟨Nat.le_refl _, working⟩
    · split at made
      · split at made
        · split at made
          · cases made
          · split at made
            · cases made
            · split at made
              · cases made
                apply lapEvent_working numerics ?_ _ later
                exact same _ rfl rfl
              · cases made
                exact ⟨Nat.le_refl _, working⟩
            · cases made
              exact ⟨Nat.le_refl _, working⟩
        · cases made
          exact ⟨Nat.le_refl _, working⟩
      · split at made
        · split at made
          · cases made
            exact ⟨Nat.le_refl _, same _ rfl rfl⟩
          · cases made
            exact ⟨Nat.le_refl _, working⟩
        · cases made
          exact ⟨Nat.le_refl _, working⟩

theorem WatchService.observe_working (settings : Settings) {state : Nat × WatchEngine × Health}
    (working : Working config database state.1 state.2.1)
    {sample : Observation} (later : sample.time ≠ 0) :
    state.1 ≤ (WatchService.observe settings state sample).1.1 ∧
      Working config database (WatchService.observe settings state sample).1.1
        (WatchService.observe settings state sample).1.2.1 := by
  obtain ⟨ids, engine, health⟩ := state
  unfold WatchService.observe
  dsimp only
  cases heard : engine.observe settings.numerics settings.text ids sample with
  | ok next => exact Watch.observe_working working later heard
  | error error =>
    dsimp only
    split <;> exact ⟨Nat.le_refl _, working⟩

end OpenLaps.Watch

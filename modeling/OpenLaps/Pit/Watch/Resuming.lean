import OpenLaps.Lib.Attempt
import OpenLaps.Pit.Watch.EngineFindings

/- What the service takes over from the checkpoints when the session or the stint changes,
and the rows it closes. -/
namespace OpenLaps.Watch

/-- The finding that a checkpoint holds. -/
def Model.finding : Model → Option Finding
  | .envelope model => model.finding
  | .drift model => model.finding
  | .ratio model => model.finding
  | .counter model => model.finding
  | .wholeCar model => model.finding

theorem snapshot_finding (monitor : Monitor) : monitor.snapshot.finding = monitor.finding := by
  obtain ⟨kind, finding⟩ := monitor
  cases kind <;> rfl

/-- A restored monitor holds the finding of its checkpoint, and nothing waits. -/
structure Restored (monitor : Monitor) (finding : Option Finding) (restored : Monitor) : Prop where
  config : restored.kind.config = monitor.kind.config
  waiting : restored.kind.waiting = monitor.kind.waiting
  finding : restored.finding = finding

theorem restore_restored {monitor restored : Monitor} {model : Model}
    (ok : monitor.restore model = .ok restored) : Restored monitor model.finding restored := by
  obtain ⟨kind, finding⟩ := monitor
  unfold Monitor.restore at ok
  dsimp only at ok
  split at ok
  · obtain ⟨fields, -, made⟩ := Attempt.map_ok.mp ok
    rw [← made]
    exact ⟨rfl, rfl, rfl⟩
  · obtain ⟨fields, -, made⟩ := Attempt.map_ok.mp ok
    rw [← made]
    exact ⟨rfl, rfl, rfl⟩
  · obtain ⟨fields, -, made⟩ := Attempt.map_ok.mp ok
    rw [← made]
    exact ⟨rfl, rfl, rfl⟩
  · obtain ⟨fields, -, made⟩ := Attempt.map_ok.mp ok
    rw [← made]
    exact ⟨rfl, rfl, rfl⟩
  · obtain ⟨fields, -, made⟩ := Attempt.map_ok.mp ok
    rw [← made]
    exact ⟨rfl, rfl, rfl⟩
  · cases ok

variable {settings : Settings} {session : Option String} {stint : Nat}

theorem sourcedFrom_restored (monitor : Monitor) (session : Option String) (stint : Option Nat) :
    Restored monitor monitor.finding (monitor.sourcedFrom session stint) := by
  obtain ⟨kind, finding⟩ := monitor
  cases kind <;> exact ⟨rfl, rfl, rfl⟩

theorem restoreStored_restored {monitor restored : Monitor}
    (ok : settings.restoreStored monitor = .ok restored) : Restored monitor none restored := by
  unfold Settings.restoreStored at ok
  dsimp only at ok
  split at ok
  · cases ok
  · split at ok
    · cases ok
    · rename_i inner made
      split at ok
      · have before := restore_restored made
        cases ok
        refine ⟨?_, ?_, rfl⟩
        · rw [← before.config]
          cases inner.kind <;> rfl
        · rw [← before.waiting]
          cases inner.kind <;> rfl
      · cases ok

theorem startFresh_restored {monitor restored : Monitor} (new : monitor.finding = none)
    (ok : settings.startFresh session stint monitor = .ok restored) :
    Restored monitor none restored := by
  unfold Settings.startFresh at ok
  split at ok
  · exact restoreStored_restored ok
  · cases ok
    rw [← new]
    exact sourcedFrom_restored monitor _ _
  · cases ok
    rw [← new]
    exact sourcedFrom_restored monitor _ _
  · cases ok
    exact ⟨rfl, rfl, new⟩

theorem buildMonitor_new (config : MonitorConfig) :
    (buildMonitor config).kind.config = config ∧ (buildMonitor config).kind.waiting = none ∧
      (buildMonitor config).finding = none := by
  cases config <;> exact ⟨rfl, rfl, rfl⟩

/-- The finding that a monitor takes over in a session and a stint. -/
def Database.resumed (database : Database) (session : Option String) (stint : Nat) (name : String)
    (config : MonitorConfig) : Option Finding :=
  (named session).bind fun session =>
    (database.baselines.get? (session, slot stint (buildMonitor config), name)).bind fun saved =>
      saved.model.finding

variable {config : WatchConfig} {ids : Nat} {name : String} {database : Database}
  {replies : Replies}

theorem freshMonitor_restored {own : MonitorConfig} {monitor : Monitor} {saved : Option Saved}
    (ok : settings.freshMonitor (replies.answers database) session stint name (buildMonitor own) =
      .ok (monitor, saved)) :
    Restored (buildMonitor own) (database.resumed session stint name own) monitor := by
  have started : ∀ result, ((settings.startFresh session stint (buildMonitor own)).map fun monitor =>
      ((monitor, none) : Monitor × Option Saved)) = .ok result →
      Restored (buildMonitor own) none result.1 := by
    intro result made
    cases begun : settings.startFresh session stint (buildMonitor own) with
    | error error =>
      rw [begun] at made
      cases made
    | ok restored =>
      rw [begun] at made
      cases made
      exact startFresh_restored (buildMonitor_new own).2.2 begun
  unfold Settings.freshMonitor at ok
  unfold Database.resumed
  dsimp only at ok
  cases inside : named session with
  | none =>
    rw [inside] at ok
    exact started _ ok
  | some session' =>
    rw [inside] at ok
    dsimp only [Replies.answers] at ok
    rw [Option.bind_some]
    by_cases unread : name ∈ replies.unread
    · rw [if_pos unread] at ok
      cases ok
    · rw [if_neg unread] at ok
      cases found : database.baselines.get? (session', slot stint (buildMonitor own), name) with
      | none =>
        rw [found] at ok
        exact started _ ok
      | some model =>
        rw [found] at ok
        dsimp only at ok
        split at ok
        · cases ok
        · rename_i restored made
          cases ok
          exact restore_restored made

/-- The tables as far as the service of the configuration has brought them. `visited` is
where it has been, newest first. -/
structure Database.Kept (config : WatchConfig) (ids : Nat)
    (visited : List (Option String × Nat)) (database : Database) : Prop where
  owned : database.Owned config ids
  live : ∀ key saved, database.baselines.get? key = some saved → ∀ finding,
    saved.model.finding = some finding →
    finding.closedAt = none ∧ Owns config ids key.2.2 finding.findingId
  seen : ∀ key saved, database.baselines.get? key = some saved →
    (∃ stint, (some key.1, stint) ∈ visited) ∧
      ∀ own, config.monitors.get? key.2.2 = some own → own.baseline = .stintStart →
        (some key.1, key.2.1) ∈ visited
  current : ∀ session stint, visited.head? = some (session, stint) → ∀ name own,
    config.monitors.get? name = some own → ∀ finding,
    database.resumed session stint name own = some finding →
    database.IsOpen name finding.findingId

variable {visited : List (Option String × Nat)} {engine : WatchEngine}

theorem Database.Kept.later {ids' : Nat} (kept : database.Kept config ids visited)
    (more : ids ≤ ids') : database.Kept config ids' visited where
  owned findingId row found := (kept.owned findingId row found).later more
  live key saved found finding held :=
    ⟨(kept.live key saved found finding held).1,
      (kept.live key saved found finding held).2.later more⟩
  seen := kept.seen
  current := kept.current

theorem Database.resumed_cases {own : MonitorConfig} {finding : Finding}
    (resumed : database.resumed session stint name own = some finding) :
    ∃ running saved, named session = some running ∧
      database.baselines.get? (running, slot stint (buildMonitor own), name) = some saved ∧
      saved.model.finding = some finding := by
  obtain ⟨running, inside, rest⟩ := Option.bind_eq_some_iff.mp resumed
  obtain ⟨saved, found, held⟩ := Option.bind_eq_some_iff.mp rest
  exact ⟨running, saved, inside, found, held⟩

/-- A monitor that is taken over is kept. -/
theorem Restored.kept (kept : database.Kept config ids visited) {own : MonitorConfig}
    (configured : config.monitors.get? name = some own) {monitor : Monitor}
    (restored : Restored (buildMonitor own) (database.resumed session stint name own) monitor) :
    monitor.Kept config ids name := by
  obtain ⟨same, settled, _⟩ := buildMonitor_new own
  constructor
  · rw [restored.config, same]
    exact configured
  · intro finding held
    rw [restored.finding] at held
    obtain ⟨running, saved, _, found, own⟩ := Database.resumed_cases held
    exact kept.live _ saved found finding own
  · intro report waits
    rw [restored.waiting, settled] at waits
    cases waits

theorem buildMonitor_kept {own : MonitorConfig}
    (configured : config.monitors.get? name = some own) :
    (buildMonitor own).Kept config ids name := by
  obtain ⟨same, settled, empty⟩ := buildMonitor_new own
  constructor
  · rw [same]
    exact configured
  · intro finding held
    rw [empty] at held
    cases held
  · intro report waits
    rw [settled] at waits
    cases waits

theorem new_kept : (WatchEngine.new config).Kept config ids := by
  refine ⟨rfl, Dict.keys_mapValues _ _, ?_⟩
  intro name monitor found
  rw [WatchEngine.new, Dict.get?_mapValues] at found
  obtain ⟨own, configured, made⟩ := Option.map_eq_some_iff.mp found
  rw [← made]
  exact buildMonitor_kept configured

theorem WatchEngine.Kept.replace (kept : engine.Kept config ids) {monitor : Monitor}
    (listed : name ∈ config.monitors.keys) (own : monitor.Kept config ids name) :
    (engine.replace name monitor).Kept config ids := by
  refine ⟨kept.configured, ?_, ?_⟩
  · unfold WatchEngine.replace
    dsimp only
    rw [Dict.keys_set]
    · exact kept.keys
    · rw [kept.keys]
      exact listed
  · intro other found present
    unfold WatchEngine.replace at present
    dsimp only at present
    rw [Dict.get?_set] at present
    split at present
    · rename_i same
      cases present
      rw [← same]
      exact own
    · exact kept.monitors other found present

/-- The engine's monitor is the one taken over. -/
def WatchEngine.Resumed (config : WatchConfig) (database : Database) (session : Option String)
    (stint : Nat) (engine : WatchEngine) (name : String) : Prop :=
  ∀ own, config.monitors.get? name = some own → ∃ monitor,
    engine.monitors.get? name = some monitor ∧ monitor.kind.waiting = none ∧
      monitor.finding = database.resumed session stint name own

theorem get?_replace (engine : WatchEngine) (name : String) (monitor : Monitor) (other : String) :
    (engine.replace name monitor).monitors.get? other =
      if name = other then some monitor else engine.monitors.get? other :=
  Dict.get?_set _ _ _ _

theorem Resumed.replaced {own : MonitorConfig} (configured : config.monitors.get? name = some own)
    {monitor : Monitor}
    (restored : Restored (buildMonitor own) (database.resumed session stint name own) monitor) :
    (engine.replace name monitor).Resumed config database session stint name := by
  intro own' configured'
  have same : own = own' := Option.some.inj (configured.symm.trans configured')
  refine ⟨monitor, ?_, ?_, ?_⟩
  · rw [get?_replace, if_pos rfl]
  · rw [restored.waiting]
    exact (buildMonitor_new own).2.1
  · rw [← same]
    exact restored.finding

theorem WatchEngine.Resumed.other (resumed : engine.Resumed config database session stint name)
    {first : String} {monitor : Monitor} (apart : first ≠ name) :
    (engine.replace first monitor).Resumed config database session stint name := by
  intro own configured
  obtain ⟨found, present, facts⟩ := resumed own configured
  refine ⟨found, ?_, facts⟩
  rw [get?_replace, if_neg apart]
  exact present

/-- Replacing the first monitor of a list leaves those behind it to be taken over. -/
theorem Resumed.next {own : MonitorConfig} {first : String} {rest : List String}
    (configured : config.monitors.get? first = some own) {monitor : Monitor}
    (restored : Restored (buildMonitor own) (database.resumed session stint first own) monitor)
    (either : name ∈ first :: rest ∨ engine.Resumed config database session stint name) :
    name ∈ rest ∨ (engine.replace first monitor).Resumed config database session stint name := by
  by_cases here : first = name
  · right
    rw [← here]
    exact Resumed.replaced configured restored
  · rcases either with member | resumed
    · rcases List.mem_cons.mp member with same | later
      · exact absurd same.symm here
      · exact .inl later
    · exact .inr (resumed.other here)

/-- After the loop of a change of stint, even one that failed. -/
theorem restart_spec (settings : Settings) (session : Option String) (stint : Nat)
    (replies : Replies) (tables : database.Kept config ids visited) (names : List String)
    (kept : engine.Kept config ids) :
    let done := settings.restart (replies.answers database) session stint engine names
    done.1.Kept config ids ∧
      (∀ name ∉ names, done.1.monitors.get? name = engine.monitors.get? name) ∧
      (done.2 = .ok () → ∀ name, name ∈ names ∨ engine.Resumed config database session stint name →
        done.1.Resumed config database session stint name) := by
  induction names generalizing engine with
  | nil =>
    refine ⟨kept, fun _ _ => rfl, ?_⟩
    intro _ name either
    rcases either with member | resumed
    · cases member
    · exact resumed
  | cons first rest ih =>
    rw [Settings.restart, kept.configured]
    cases configured : config.monitors.get? first with
    | none =>
      refine ⟨kept, fun _ _ => rfl, ?_⟩
      intro failed
      cases failed
    | some own =>
      have listed := Dict.mem_keys configured
      dsimp only
      cases made : settings.freshMonitor (replies.answers database) session stint first
          (buildMonitor own) with
      | error error =>
        refine ⟨kept.replace listed (buildMonitor_kept configured), ?_, ?_⟩
        · intro name absent
          rw [get?_replace, if_neg]
          intro same
          apply absent
          rw [same]
          exact List.mem_cons_self
        · intro failed
          cases failed
      | ok result =>
        obtain ⟨monitor, saved⟩ := result
        have restored := freshMonitor_restored made
        have next := ih (kept.replace listed (restored.kept tables configured))
        refine ⟨next.1, ?_, ?_⟩
        · intro name absent
          rw [List.mem_cons, not_or] at absent
          dsimp only
          rw [next.2.1 name absent.2, get?_replace, if_neg fun same => absent.1 same.symm]
        · intro ended name either
          apply next.2.2 ended
          exact Resumed.next configured restored either

/-- After the loop of a change of session that did not fail. -/
theorem freshMonitors_spec (tables : database.Kept config ids visited)
    (entries : List (String × Monitor))
    (built : ∀ entry ∈ entries, ∃ own, config.monitors.get? entry.1 = some own ∧
      entry.2 = buildMonitor own) (kept : engine.Kept config ids)
    {done : WatchEngine × List Saved}
    (ok : settings.freshMonitors (replies.answers database) session stint engine entries = .ok done) :
    done.1.Kept config ids ∧ ∀ name, name ∈ entries.map Prod.fst ∨
      engine.Resumed config database session stint name →
        done.1.Resumed config database session stint name := by
  induction entries generalizing engine done with
  | nil =>
    cases ok
    refine ⟨kept, ?_⟩
    intro name either
    rcases either with member | resumed
    · cases member
    · exact resumed
  | cons first rest ih =>
    obtain ⟨name, monitor⟩ := first
    obtain ⟨own, configured, new⟩ := built (name, monitor) List.mem_cons_self
    dsimp only at configured new
    rw [Settings.freshMonitors, new] at ok
    cases made : settings.freshMonitor (replies.answers database) session stint name
        (buildMonitor own) with
    | error error =>
      rw [made] at ok
      cases ok
    | ok result =>
      obtain ⟨fresh, saved⟩ := result
      rw [made] at ok
      dsimp only at ok
      have restored := freshMonitor_restored made
      have listed := Dict.mem_keys configured
      cases others : settings.freshMonitors (replies.answers database) session stint
          (engine.replace name fresh) rest with
      | error error =>
        rw [others] at ok
        cases ok
      | ok later =>
        rw [others] at ok
        cases ok
        have next := ih (fun entry member => built entry (List.mem_cons_of_mem _ member))
          (kept.replace listed (restored.kept tables configured)) others
        refine ⟨next.1, ?_⟩
        intro other either
        apply next.2
        exact Resumed.next configured restored either

end OpenLaps.Watch

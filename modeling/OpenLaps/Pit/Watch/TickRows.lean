import OpenLaps.Pit.Watch.ContextRows

/- The second half of a tick: the samples of the second, the rows of the monitors and the
transaction after which the tables match the engine. -/
namespace OpenLaps.Watch

variable {settings : Settings} {config : WatchConfig} {ids : Nat} {database : Database}
  {visited : List (Option String × Nat)} {engine : WatchEngine} {service : WatchService}
  {session : Option String} {stint : Nat} {replies : Replies}

/-- After the samples of a second, however far they get. -/
theorem drain_working (settings : Settings) (time : Int) (rounds : ids % config.monitors.keys.length = 0)
    (kept : service.engine.Kept config ids) (agrees : service.engine.Agrees database)
    (later : ∀ sample ∈ service.pending.items, 0 < sample.time) :
    ids ≤ (service.drain settings ids time).1 ∧
      Working config database (service.drain settings ids time).1
        (service.drain settings ids time).2.1.engine ∧
      (service.drain settings ids time).2.1.session = service.session ∧
      (service.drain settings ids time).2.1.stint = service.stint ∧
      (service.drain settings ids time).2.1.initialized = service.initialized ∧
      ∀ sample ∈ (service.drain settings ids time).2.1.pending.items, 0 < sample.time := by
  have due : ∀ sample ∈ service.pending.due (time : ℚ), sample.time ≠ 0 := by
    intro sample member
    have listed : sample ∈ service.pending.items :=
      ((List.takeWhile_sublist _).map ReorderBuffer.Entry.item).subset member
    exact ne_of_gt (later sample listed)
  have start : ids ≤ ids ∧ Working config database ids service.engine :=
    ⟨Nat.le_refl _, rounds, kept, agrees⟩
  have done := ReorderBuffer.handOut_kept service.pending (WatchService.observe settings)
    (ids, service.engine, service.health)
    (fun state => ids ≤ state.1 ∧ Working config database state.1 state.2.1) (time : ℚ) start
    (by
      intro sample member state good
      obtain ⟨more, next⟩ := WatchService.observe_working settings good.2 (due sample member)
      exact ⟨good.1.trans more, next⟩)
  have fewer := (ReorderBuffer.handOut_waiting (WatchService.observe settings) (time : ℚ)
    service.pending (ids, service.engine, service.health)).1
  refine ⟨done.1, done.2, rfl, rfl, rfl, ?_⟩
  intro sample member
  exact later sample ((fewer.map ReorderBuffer.Entry.item).subset member)

/-- The open rows of the configured monitors are the findings that the engine holds. -/
def WatchEngine.Matches (database : Database) (engine : WatchEngine) : Prop :=
  ∀ name monitor, engine.monitors.get? name = some monitor → ∀ findingId,
    database.IsOpen name findingId ↔ monitor.held = some findingId

theorem matches_agrees (same : engine.Matches database)
    (settled : ∀ name monitor, engine.monitors.get? name = some monitor → monitor.kind.waiting = none) :
    engine.Agrees database := by
  intro name monitor found
  unfold Monitor.Agrees
  rw [settled name monitor found]
  exact same name monitor found

/-- A transaction that waits for its commit: with it, the tables match the engine. -/
structure Writing (config : WatchConfig) (ids : Nat) (visited : List (Option String × Nat))
    (database : Database) (engine : WatchEngine) : Prop where
  tables : database.Kept config ids visited
  same : engine.Matches database
  settled : ∀ name monitor, engine.monitors.get? name = some monitor → monitor.kind.waiting = none

/-- The engine changes only the status of the row that a monitor makes. -/
theorem evaluate_monitor (ids : Nat) (engine : WatchEngine) (numerics : Numerics) (time : Int) (active : Bool)
    (name : String) (monitor : Monitor) : ∃ evaluation : Evaluation,
      evaluation.fresh = ids + engine.turn name ∧ evaluation.time = time ∧
      (engine.evaluate numerics ids time active name monitor).1.finding =
        (monitor.evaluate numerics evaluation).1.finding ∧
      (engine.evaluate numerics ids time active name monitor).2 =
        (monitor.evaluate numerics evaluation).2 := by
  unfold WatchEngine.evaluate
  dsimp only
  split
  · exact ⟨_, rfl, rfl, rfl, rfl⟩
  · split
    · exact ⟨_, rfl, rfl, rfl, rfl⟩
    · exact ⟨_, rfl, rfl, rfl, rfl⟩

/-- What a tick of the engine does to each monitor. -/
structure Judged (config : WatchConfig) (database : Database) (ids : Nat) (name : String)
    (row : Row) (next : Monitor) : Prop where
  kept : next.Kept config ids name
  settled : next.kind.waiting = none
  writable : ∀ finding, row.finding = some finding → Database.Writable config ids name finding
  reported : ∀ findingId, Database.Reported (database.IsOpen name) row.finding findingId ↔
    next.held = some findingId

theorem evaluate_judged (numerics : Numerics) (working : Working config database ids engine)
    {time : Int} (later : 0 < time) (active : Bool) {name : String} {monitor : Monitor}
    (found : engine.monitors.get? name = some monitor) :
    Judged config database (ids + engine.monitors.entries.length) name
      (engine.evaluate numerics ids time active name monitor).1
      (engine.evaluate numerics ids time active name monitor).2 := by
  obtain ⟨evaluation, fresh, at', finding, next⟩ :=
    evaluate_monitor ids engine numerics time active name monitor
  have kept := working.kept.monitors name monitor found
  have more := Nat.le_add_right ids engine.monitors.entries.length
  have owns := working.kept.turn working.rounds found
  rw [← fresh] at owns
  have nonzero : evaluation.time ≠ 0 := by
    rw [at']
    exact_mod_cast later.ne'
  have reports := evaluate_reports numerics kept more (working.agrees name monitor found) owns nonzero
  constructor
  · rw [next]
    exact evaluate_kept numerics kept more owns nonzero
  · rw [next]
    exact evaluate_settled numerics
  · rw [finding]
    exact reports.1
  · rw [finding, next]
    exact reports.2

/-- A monitor that only took its units. -/
theorem interrupted_kept {name : String} {monitor : Monitor} (kept : monitor.Kept config ids name)
    (readings : Readings) :
    Monitor.Kept config ids name { monitor with kind := monitor.kind.interrupted readings } := by
  obtain ⟨kind, finding⟩ := monitor
  cases kind <;> exact ⟨kept.configured, kept.live, kept.waits⟩

theorem broken_kept (numerics : Numerics) (working : Working config database ids engine)
    {time : Int} (later : 0 < time) (active : Bool) (raised : String) {name : String}
    {monitor : Monitor} (found : engine.monitors.get? name = some monitor) :
    (engine.broken numerics ids time active raised name monitor).Kept config
      (ids + engine.monitors.entries.length) name := by
  have kept := (working.kept.monitors name monitor found).later
    (Nat.le_add_right ids engine.monitors.entries.length)
  unfold WatchEngine.broken
  split
  · exact (evaluate_judged numerics working later active found).kept
  · split
    · exact interrupted_kept kept _
    · exact kept

/-- What the tick of the engine comes to: nothing, a row of each monitor, or an error on the
way. -/
inductive Rounds (config : WatchConfig) (database : Database) (ids : Nat) (engine : WatchEngine) :
    WatchEngine × Except PyError (Dict String Row) → Prop
  | nothing : Rounds config database ids engine (engine, .ok .empty)
  | judged {next : WatchEngine} {rows : Dict String Row} (configured : next.config = config)
      (keys : next.monitors.keys = config.monitors.keys) (listed : rows.keys = config.monitors.keys)
      (each : ∀ name after, next.monitors.get? name = some after → ∃ row,
        rows.get? name = some row ∧
          Judged config database (ids + engine.monitors.entries.length) name row after) :
      Rounds config database ids engine (next, .ok rows)
  | broken {next : WatchEngine} (error : PyError)
      (kept : next.Kept config (ids + engine.monitors.entries.length)) :
      Rounds config database ids engine (next, .error error)

theorem tick_rounds (numerics : Numerics) (working : Working config database ids engine)
    {time : Int} (later : 0 < time) (active : Bool) :
    Rounds config database ids engine (engine.tick numerics ids time active) := by
  unfold WatchEngine.tick
  split
  · exact .nothing
  · cases engine.raising time active with
    | none =>
      refine .judged working.kept.configured ?_ ?_ ?_
      · rw [Dict.keys_mapValues, Dict.keys_mapEntries]
        exact working.kept.keys
      · rw [Dict.keys_mapValues, Dict.keys_mapEntries]
        exact working.kept.keys
      · intro name next found
        rw [Dict.get?_mapValues, Dict.get?_mapEntries] at found
        obtain ⟨result, made, last⟩ := Option.map_eq_some_iff.mp found
        obtain ⟨monitor, before, judged⟩ := Option.map_eq_some_iff.mp made
        refine ⟨result.1, ?_, ?_⟩
        · rw [Dict.get?_mapValues, Dict.get?_mapEntries, made]
          rfl
        · rw [← last, ← judged]
          exact evaluate_judged numerics working later active before
    | some raised =>
      refine .broken _ ⟨working.kept.configured, ?_, ?_⟩
      · rw [Dict.keys_mapEntries]
        exact working.kept.keys
      · intro name next found
        rw [Dict.get?_mapEntries] at found
        obtain ⟨monitor, before, judged⟩ := Option.map_eq_some_iff.mp found
        rw [← judged]
        exact broken_kept numerics working later active raised before

/-- A round that an evaluation ends leaves every finding and every report as they were. -/
def WatchEngine.Unbroken (numerics : Numerics) (ids : Nat) (engine : WatchEngine) (time : Int)
    (active : Bool) : Prop :=
  ∀ error, (engine.tick numerics ids time active).2 = .error error → ∀ name before after,
    engine.monitors.get? name = some before →
      (engine.tick numerics ids time active).1.monitors.get? name = some after →
        before.held = after.held ∧ before.kind.waiting = after.kind.waiting

/-- An engine that holds and reports as before agrees with the tables as before. -/
theorem unbroken_agrees {next : WatchEngine} (working : Working config database ids engine)
    (keys : next.monitors.keys = config.monitors.keys)
    (same : ∀ name before after, engine.monitors.get? name = some before →
      next.monitors.get? name = some after →
        before.held = after.held ∧ before.kind.waiting = after.kind.waiting) :
    next.Agrees database := by
  intro name after found
  obtain ⟨before, present⟩ := Dict.exists_of_mem_keys (show name ∈ engine.monitors.keys by
    rw [working.kept.keys, ← keys]
    exact Dict.mem_keys found)
  obtain ⟨held, waiting⟩ := same name before after present found
  have agrees := working.agrees name before present
  unfold Monitor.Agrees at agrees ⊢
  rw [waiting, held] at agrees
  exact agrees

theorem slot_configured (stint : Nat) (monitor : Monitor) :
    slot stint monitor = slot stint (buildMonitor monitor.kind.config) := by
  unfold slot stintStart
  rw [(buildMonitor_new _).1]

/-- The transaction of a tick: with it the tables match the engine. -/
theorem write_matches {rows : Dict String Row} (tables : database.Kept config ids visited)
    (current : visited.head? = some (session, stint)) (time : Int)
    (kept : engine.monitors.keys = config.monitors.keys) (listed : rows.keys = config.monitors.keys)
    (judged : ∀ name next, engine.monitors.get? name = some next → ∃ row,
      rows.get? name = some row ∧ Judged config database ids name row next) :
    Writing config ids visited (database.writeTick
      { session := session
        rows := rows
        models := engine.monitors.mapValues fun monitor => ⟨monitor.snapshot, some time⟩
        stints := engine.monitors.mapValues (slot stint) }) engine := by
  generalize transaction : WriteTick.mk session rows
    (engine.monitors.mapValues fun monitor => ⟨monitor.snapshot, some time⟩)
    (engine.monitors.mapValues (slot stint)) = call
  have parts : call.session = session ∧ call.rows = rows ∧
      (∀ name, call.models.get? name =
        (engine.monitors.get? name).map fun monitor => ⟨monitor.snapshot, some time⟩) ∧
      ∀ name, call.stints.get? name = (engine.monitors.get? name).map (slot stint) := by
    rw [← transaction]
    exact ⟨rfl, rfl, Dict.get?_mapValues _ _, Dict.get?_mapValues _ _⟩
  obtain ⟨running, written, models, stints⟩ := parts
  have present : ∀ name, name ∈ config.monitors.keys → ∃ next row,
      engine.monitors.get? name = some next ∧ call.rows.get? name = some row ∧
        Judged config database ids name row next := by
    intro name member
    rw [← kept] at member
    obtain ⟨next, found⟩ := Dict.exists_of_mem_keys member
    obtain ⟨row, made, facts⟩ := judged name next found
    rw [written]
    exact ⟨next, row, found, made, facts⟩
  have spec := database.writeTick_spec call tables.owned fun name row made finding report => by
    have member := Dict.mem_keys made
    rw [written, listed] at member
    obtain ⟨next, row', _, made', facts⟩ := present name member
    rw [made] at made'
    cases made'
    exact facts.writable finding report
  have same : engine.Matches (database.writeTick call) := by
    intro name next found findingId
    obtain ⟨row, made, facts⟩ := judged name next found
    rw [spec.2, written, made]
    exact facts.reported findingId
  have saves : ∀ name next, engine.monitors.get? name = some next →
      ∀ inside, named session = some inside →
        Database.Saves call name (inside, slot stint next, name) ⟨next.snapshot, some time⟩ := by
    intro name next found inside there
    refine ⟨rfl, ?_, ?_, ?_⟩
    · rw [running]
      exact there
    · rw [stints, found]
      rfl
    · rw [models, found]
      rfl
  have saved : ∀ name key model, Database.Saves call name key model → ∃ next,
      engine.monitors.get? name = some next ∧ model = ⟨next.snapshot, some time⟩ ∧
        key.2.1 = slot stint next ∧ session = some key.1 ∧ key.2.2 = name := by
    rintro name key model ⟨own, inside, place, stored⟩
    rw [models] at stored
    obtain ⟨next, found, made⟩ := Option.map_eq_some_iff.mp stored
    rw [stints, found] at place
    rw [running] at inside
    exact ⟨next, found, made.symm, place.symm, named_eq inside, own⟩
  have newest : (session, stint) ∈ visited := List.mem_of_mem_head? current
  refine ⟨⟨spec.1, ?_, ?_, ?_⟩, same, ?_⟩
  · intro key model found finding held
    rcases Database.writeTick_get? found with ⟨name, new⟩ | old
    · obtain ⟨next, here, made, _, _, own⟩ := saved name key model new
      obtain ⟨row, _, facts⟩ := judged name next here
      rw [made, snapshot_finding] at held
      rw [own]
      exact facts.kept.live finding held
    · exact tables.live key model old finding held
  · intro key model found
    rcases Database.writeTick_get? found with ⟨name, new⟩ | old
    · obtain ⟨next, here, _, place, there, own⟩ := saved name key model new
      rw [← there]
      refine ⟨⟨stint, newest⟩, ?_⟩
      intro config' configured starts
      obtain ⟨row, _, facts⟩ := judged name next here
      have same := facts.kept.configured
      rw [own, same] at configured
      cases configured
      have mine : key.2.1 = stint := by
        rw [place]
        unfold slot stintStart
        rw [starts]
        rfl
      rw [mine]
      exact newest
    · exact tables.seen key model old
  · intro session' stint' head name own configured finding taken
    rw [current] at head
    cases head
    obtain ⟨inside, model, there, found, held⟩ := Database.resumed_cases taken
    obtain ⟨next, row, here, made, facts⟩ := present name (Dict.mem_keys configured)
    have same' := facts.kept.configured
    rw [configured] at same'
    cases same'
    rw [← slot_configured] at found
    rw [(saves name next here inside there).written
      (by rw [written, listed]; exact Dict.mem_keys configured)] at found
    cases found
    rw [snapshot_finding] at held
    rw [same name next here]
    exact congrArg (Option.map Finding.findingId) held
  · intro name next found
    obtain ⟨row, _, facts⟩ := judged name next found
    exact facts.settled

/-- What the service keeps of a transaction that it waits for, and of the copy it goes back
to. -/
structure Waiting (config : WatchConfig) (ids : Nat) (visited : List (Option String × Nat))
    (service : WatchService) (previous : WatchEngine) : Prop where
  kept : service.engine.Kept config ids
  copy : previous.Kept config ids
  later : ∀ sample ∈ service.pending.items, 0 < sample.time
  entered : service.initialized = true → (service.session, service.stint) ∈ visited

/-- A service whose engine agrees with the tables is settled. -/
theorem Waiting.settled {previous : WatchEngine}
    (waiting : Waiting config ids visited service previous) {engine : WatchEngine}
    (kept : engine.Kept config ids) (agrees : engine.Agrees database) :
    Settled config ids visited database { service with engine := engine } :=
  ⟨kept, waiting.later, waiting.entered, fun _ _ _ name monitor found _ =>
    agrees name monitor found⟩

/-- The second half of a tick. -/
theorem evaluate_writing (working : Working settings.config database ids service.engine)
    (tables : database.Kept settings.config ids visited)
    (current : visited.head? = some (service.session, service.stint)) {time : Int} (later : 0 < time)
    (samples : ∀ sample ∈ service.pending.items, 0 < sample.time) :
    let done := service.evaluate settings ids time
    ids ≤ done.1 ∧ done.1 % settings.config.monitors.keys.length = 0 ∧
      Waiting settings.config done.1 visited done.2.1 service.engine ∧
      match done.2.2 with
      | .error _ => service.engine.Unbroken settings.numerics ids time service.session.isSome →
          done.2.1.engine.Agrees database
      | .ok none => done.2.1.engine = service.engine
      | .ok (some call) =>
        Writing settings.config done.1 visited (database.writeTick call) done.2.1.engine := by
  have entered : (service.session, service.stint) ∈ visited := List.mem_of_mem_head? current
  unfold WatchService.evaluate
  have outcome := tick_rounds settings.numerics working later service.session.isSome
  unfold WatchEngine.Unbroken
  generalize service.engine.tick settings.numerics ids time service.session.isSome = result
    at outcome
  cases outcome with
  | nothing =>
    dsimp only
    rw [if_pos (show (Dict.empty : Dict String Row).entries = [] from rfl)]
    exact ⟨Nat.le_refl _, working.rounds, ⟨working.kept, working.kept, samples, fun _ => entered⟩,
      rfl⟩
  | @judged engine rows configured kept listed each =>
    have some' : rows.entries ≠ [] := by
      intro empty
      apply settings.config.nonEmpty
      have none : rows.keys = [] := by
        unfold Dict.keys
        rw [empty]
        rfl
      rw [listed] at none
      exact List.map_eq_nil_iff.mp none
    dsimp only
    rw [if_neg some']
    dsimp only
    have more : ids ≤ ids + engine.monitors.entries.length := Nat.le_add_right _ _
    have size : engine.monitors.entries.length = service.engine.monitors.entries.length := by
      rw [working.kept.size, ← kept]
      exact (List.length_map _).symm
    have after : engine.Kept settings.config (ids + engine.monitors.entries.length) := by
      refine ⟨configured, kept, ?_⟩
      intro name next found
      obtain ⟨row, _, facts⟩ := each name next found
      rw [size]
      exact facts.kept
    refine ⟨more, ?_, ⟨after, working.kept.later more, samples, fun _ => entered⟩, ?_⟩
    · rw [size]
      exact round_more working.kept working.rounds
    · apply write_matches (tables.later more) current time kept listed
      rw [size]
      exact each
  | @broken engine error kept =>
    dsimp only
    have size : engine.monitors.entries.length = service.engine.monitors.entries.length := by
      rw [working.kept.size, kept.size]
    rw [size]
    have more : ids ≤ ids + service.engine.monitors.entries.length := Nat.le_add_right _ _
    refine ⟨more, round_more working.kept working.rounds,
      ⟨kept, working.kept.later more, samples, fun _ => entered⟩, ?_⟩
    intro unbroken
    exact unbroken_agrees working kept.keys (unbroken error rfl)

end OpenLaps.Watch

import OpenLaps.Pit.Watch.Resuming

/- The open rows of findings and what the engine holds, over a `_context`: a change of
session or stint, with the calls that fail on the way. -/
namespace OpenLaps.Watch

variable {settings : Settings} {config : WatchConfig} {ids : Nat} {database : Database}
  {visited : List (Option String × Nat)} {engine : WatchEngine} {service : WatchService}
  {session : Option String} {stint : Nat} {replies : Replies}

theorem mem_kept {findingId : Nat} :
    findingId ∈ engine.kept ↔
      ∃ name monitor, engine.monitors.get? name = some monitor ∧ monitor.held = some findingId := by
  unfold WatchEngine.kept
  rw [List.mem_filterMap]
  constructor
  · rintro ⟨entry, member, held⟩
    exact ⟨entry.1, entry.2, (engine.monitors.get?_eq_some entry.1 entry.2).mpr member, held⟩
  · rintro ⟨name, monitor, found, held⟩
    exact ⟨(name, monitor), (engine.monitors.get?_eq_some name monitor).mp found, held⟩

/-- Rows are closed only of findings that nothing takes over. -/
theorem closing_kept (kept : engine.Kept config ids) (tables : database.Kept config ids visited)
    (current : visited.head? = some (session, stint)) (time : Int) (call : ClosePrevious)
    (keeps : call.keep = engine.kept)
    (resumed : ∀ name ∈ call.monitors, engine.Resumed config database session stint name) :
    (database.closePrevious time call).Kept config ids visited ∧
      ∀ name monitor, engine.monitors.get? name = some monitor → name ∈ call.monitors →
        monitor.Agrees ((database.closePrevious time call).IsOpen name) := by
  have closed := Database.closePrevious_spec time call tables.owned
  constructor
  · refine ⟨closed.1, tables.live, tables.seen, ?_⟩
    intro session' stint' head name own configured finding taken
    rw [current] at head
    cases head
    rw [closed.2]
    refine ⟨tables.current session stint current name own configured finding taken, ?_⟩
    intro listed
    obtain ⟨monitor, found, _, held⟩ := resumed name listed own configured
    rw [keeps, mem_kept]
    refine ⟨name, monitor, found, ?_⟩
    unfold Monitor.held
    rw [held]
    exact congrArg (Option.map Finding.findingId) taken
  · intro name monitor found listed
    have configured := (kept.monitors name monitor found).configured
    obtain ⟨same, present, settled, held⟩ := resumed name listed _ configured
    rw [found] at present
    cases present
    unfold Monitor.Agrees
    rw [settled]
    intro findingId
    rw [closed.2]
    constructor
    · rintro ⟨isOpen, kept'⟩
      have member := kept' listed
      rw [keeps, mem_kept] at member
      obtain ⟨other, monitor', present, held'⟩ := member
      obtain ⟨finding, own, number⟩ := Option.map_eq_some_iff.mp held'
      have theirs := ((kept.monitors other monitor' present).live finding own).2
      rw [number] at theirs
      have same := (tables.owned.isOpen isOpen).same theirs
      rw [← same, found] at present
      cases present
      exact held'
    · intro taken
      obtain ⟨finding, own, number⟩ := Option.map_eq_some_iff.mp taken
      refine ⟨?_, ?_⟩
      · rw [← number]
        apply tables.current session stint current name _ configured
        rw [← held]
        exact own
      · intro _
        rw [keeps, mem_kept]
        exact ⟨name, monitor, found, taken⟩

/-- The session was not left before, and a stint that was left has no finding to take over. -/
structure Entered (config : WatchConfig) (visited : List (Option String × Nat))
    (database : Database) (session : Option String) (stint : Nat) : Prop where
  sameSession : session ≠ none → ∀ other, (session, other) ∈ visited →
    ∃ latest, visited.head? = some (session, latest)
  sameStint : ∀ name own, config.monitors.get? name = some own → own.baseline = .stintStart →
    (session, stint) ∈ visited → visited.head? = some (session, stint) ∨
      database.resumed session stint name own = none

theorem named_eq {session : Option String} {running : String} (inside : named session = some running) :
    session = some running := (Option.filter_eq_some_iff.mp inside).1

/-- What a session and a stint take over is still open when they are seen again. -/
theorem Database.Kept.visit (tables : database.Kept config ids visited)
    (entered : Entered config visited database session stint) :
    database.Kept config ids ((session, stint) :: visited) := by
  refine ⟨tables.owned, tables.live, ?_, ?_⟩
  · intro key saved found
    obtain ⟨⟨other, member⟩, stints⟩ := tables.seen key saved found
    refine ⟨⟨other, List.mem_cons_of_mem _ member⟩, ?_⟩
    intro own configured starts
    exact List.mem_cons_of_mem _ (stints own configured starts)
  · intro session' stint' head name own configured finding taken
    cases head
    obtain ⟨running, saved, inside, found, held⟩ := Database.resumed_cases taken
    obtain ⟨⟨other, member⟩, stints⟩ := tables.seen _ saved found
    dsimp only at member stints
    rw [← named_eq inside] at member stints
    have present : session ≠ none := by
      rw [named_eq inside]
      exact Option.some_ne_none running
    obtain ⟨latest, newest⟩ := entered.sameSession present other member
    by_cases starts : own.baseline = .stintStart
    · have same : slot stint (buildMonitor own) = stint := by
        unfold slot stintStart
        rw [(buildMonitor_new own).1, starts]
        rfl
      have before := stints own configured starts
      rw [same] at before
      rcases entered.sameStint name own configured starts before with again | nothing
      · exact tables.current session stint again name own configured finding taken
      · rw [nothing] at taken
        cases taken
    · apply tables.current session latest newest name own configured finding
      rw [← taken]
      unfold Database.resumed slot stintStart
      rw [(buildMonitor_new own).1]
      simp only [starts, decide_false, Bool.false_eq_true, if_false]

/-- The service between two ticks. Its monitors agree with the tables unless a change of
session or stint has failed half-way. -/
structure Settled (config : WatchConfig) (ids : Nat) (visited : List (Option String × Nat))
    (database : Database) (service : WatchService) : Prop where
  kept : service.engine.Kept config ids
  later : ∀ sample ∈ service.pending.items, 0 < sample.time
  entered : service.initialized = true → (service.session, service.stint) ∈ visited
  agrees : service.initialized = true → ∀ latest, visited.head? = some (service.session, latest) →
    ∀ name monitor, service.engine.monitors.get? name = some monitor →
      (stintStart monitor = true → service.stint = latest) →
      monitor.Agrees (database.IsOpen name)

theorem IsOpen.congr {database' : Database} {name : String} {monitor : Monitor}
    (same : ∀ findingId, database'.IsOpen name findingId ↔ database.IsOpen name findingId)
    (agrees : monitor.Agrees (database.IsOpen name)) :
    monitor.Agrees (database'.IsOpen name) := by
  unfold Monitor.Agrees at agrees ⊢
  simp only [same]
  exact agrees

theorem Settled.reports (settled : Settled config ids visited database service) (health : Health) :
    Settled config ids visited database { service with health := health } :=
  ⟨settled.kept, settled.later, settled.entered, settled.agrees⟩

/-- What `_context` comes to. -/
structure Arrived (config : WatchConfig) (ids : Nat) (visited : List (Option String × Nat))
    (database : Database) (outcome : Except TickError Unit) (service : WatchService) : Prop where
  tables : database.Kept config ids visited
  settled : Settled config ids visited database service
  ready : outcome = .ok () → service.engine.Agrees database ∧ service.initialized = true ∧
    visited.head? = some (service.session, service.stint)

theorem seen_unnamed {answers : Answers} (seen : answers.seen = .ok (session, stint))
    (unnamed : named session = none) : stint = 0 := by
  unfold Answers.seen at seen
  split at seen
  · cases seen
  · split at seen
    · cases seen
      rfl
    · rename_i running inside
      cases answered : answers.stint with
      | error error =>
        rw [answered] at seen
        cases seen
      | ok number =>
        rw [answered] at seen
        cases seen
        rw [unnamed] at inside
        cases inside

theorem mem_changed {name : String} {monitor : Monitor}
    (found : engine.monitors.get? name = some monitor) :
    name ∈ (engine.monitors.entries.filter fun entry => stintStart entry.2).map Prod.fst ↔
      stintStart monitor = true := by
  rw [List.mem_map]
  constructor
  · rintro ⟨entry, member, same⟩
    obtain ⟨listed, starts⟩ := List.mem_filter.mp member
    have present := (engine.monitors.get?_eq_some entry.1 entry.2).mpr listed
    rw [same, found] at present
    cases present
    exact starts
  · intro starts
    refine ⟨(name, monitor), List.mem_filter.mpr ⟨?_, starts⟩, rfl⟩
    exact (engine.monitors.get?_eq_some name monitor).mp found

theorem stintStart_configured {name : String} {monitor : Monitor} (kept : monitor.Kept config ids name) :
    ∃ own, config.monitors.get? name = some own ∧
      (stintStart monitor = true ↔ own.baseline = .stintStart) :=
  ⟨_, kept.configured, by unfold stintStart; exact decide_eq_true_iff⟩

/-- A driver change, or one that failed: then the monitors of the stint are left out. -/
theorem changeStint_arrived (time : Int) (settled : Settled settings.config ids visited database service)
    (tables : database.Kept settings.config ids ((session, stint) :: visited))
    (running : service.initialized = true) (same : service.session = session)
    (changed : service.stint ≠ stint)
    (newest : ∃ latest, visited.head? = some (service.session, latest)) :
    let done := service.changeStint settings (replies.answers database) session stint
    Arrived settings.config ids ((session, stint) :: visited)
      (database.closed time replies done.2.1) done.2.2 done.1 := by
  obtain ⟨latest, head⟩ := newest
  have spec := restart_spec settings session stint replies tables
    ((service.engine.monitors.entries.filter fun entry => stintStart entry.2).map Prod.fst)
    settled.kept
  unfold WatchService.changeStint
  dsimp only
  generalize restarted : settings.restart (replies.answers database) session stint service.engine
    ((service.engine.monitors.entries.filter fun entry => stintStart entry.2).map Prod.fst) = done
    at spec ⊢
  obtain ⟨engine, outcome⟩ := done
  dsimp only at spec ⊢
  obtain ⟨kept, others, taken⟩ := spec
  generalize list : (service.engine.monitors.entries.filter fun entry => stintStart entry.2).map
    Prod.fst = names at others taken ⊢
  -- The monitors that a change of stint passes by are those of before.
  have spared : ∀ name monitor, engine.monitors.get? name = some monitor →
      (stintStart monitor = true ↔ name ∈ names) ∧
        (name ∉ names → monitor.Agrees (database.IsOpen name)) := by
    intro name monitor found
    obtain ⟨own, configured, starts⟩ := stintStart_configured (kept.monitors name monitor found)
    have listed : name ∈ service.engine.monitors.keys := by
      rw [settled.kept.keys, ← kept.keys]
      exact Dict.mem_keys found
    obtain ⟨before, present⟩ := Dict.exists_of_mem_keys listed
    obtain ⟨own', configured', starts'⟩ :=
      stintStart_configured (settled.kept.monitors name before present)
    rw [configured] at configured'
    cases configured'
    have member := mem_changed present
    rw [list] at member
    refine ⟨starts.trans (starts'.symm.trans member.symm), ?_⟩
    intro absent
    rw [others name absent, present] at found
    cases found
    apply settled.agrees running latest head name monitor present
    intro here
    exact absurd (member.mpr here) absent
  have between : ∀ (after : Database) (stint' : Nat),
      (∀ name, name ∉ names → ∀ findingId, after.IsOpen name findingId ↔
        database.IsOpen name findingId) →
      (stint' = stint → ∀ name monitor, engine.monitors.get? name = some monitor → name ∈ names →
        monitor.Agrees (after.IsOpen name)) →
      (stint' = stint ∨ stint' = service.stint) →
      Settled settings.config ids ((session, stint) :: visited) after
        { service with engine := engine, stint := stint' } := by
    intro after stint' apart own either
    refine ⟨kept, settled.later, ?_, ?_⟩
    · intro _
      rcases either with now | still
      · rw [now]
        show (service.session, stint) ∈ (session, stint) :: visited
        rw [same]
        exact List.mem_cons_self
      · rw [still]
        exact List.mem_cons_of_mem _ (settled.entered running)
    · intro _ latest' head' name monitor found starts
      have now : latest' = stint := by
        cases head'
        rfl
      by_cases listed : name ∈ names
      · have here := starts (((spared name monitor found).1).mpr listed)
        exact own (here.trans now) name monitor found listed
      · exact IsOpen.congr (apart name listed) ((spared name monitor found).2 listed)
  have unchanged : ∀ name, name ∉ names → ∀ findingId, database.IsOpen name findingId ↔
      database.IsOpen name findingId := fun _ _ _ => Iff.rfl
  have torn : ∀ after : Database,
      (∀ name, name ∉ names → ∀ findingId, after.IsOpen name findingId ↔
        database.IsOpen name findingId) →
      Settled settings.config ids ((session, stint) :: visited) after
        { service with engine := engine } := by
    intro after apart
    apply between after service.stint apart ?_ (.inr rfl)
    intro now
    exact absurd now changed
  cases outcome with
  | error error => exact ⟨tables, torn database unchanged, fun failed => by cases failed⟩
  | ok ended =>
    have all : ∀ name ∈ names, engine.Resumed settings.config database session stint name :=
      fun name member => taken rfl name (.inl member)
    dsimp only
    split
    · -- No monitor starts with the stint.
      rename_i none
      have empty : ∀ name, name ∉ names := by
        intro name member
        rw [none] at member
        cases member
      refine ⟨tables, ?_, ?_⟩
      · apply between database stint unchanged ?_ (.inl rfl)
        intro _ name _ _ member
        exact absurd member (empty name)
      · intro _
        refine ⟨?_, running, by rw [List.head?_cons]; show _ = some (service.session, stint); rw [same]⟩
        intro name monitor found
        exact (spared name monitor found).2 (empty name)
    · have closing := closing_kept kept tables rfl time ⟨names, engine.kept, "stint_changed"⟩ rfl all
      have rows := Database.closePrevious_spec time ⟨names, engine.kept, "stint_changed"⟩ tables.owned
      have apart : ∀ name, name ∉ names → ∀ findingId,
          (database.closePrevious time ⟨names, engine.kept, "stint_changed"⟩).IsOpen name findingId ↔
            database.IsOpen name findingId := by
        intro name absent findingId
        rw [rows.2]
        constructor
        · exact fun both => both.1
        · exact fun isOpen => ⟨isOpen, fun listed => absurd listed absent⟩
      unfold Replies.answers
      dsimp only
      by_cases normal : replies.closePrevious = .normal
      · rw [if_pos normal]
        dsimp only
        unfold Database.closed
        dsimp only
        rw [if_neg (by rw [normal]; decide)]
        refine ⟨closing.1, ?_, ?_⟩
        · apply between _ stint apart ?_ (.inl rfl)
          intro _ name monitor found listed
          exact closing.2 name monitor found listed
        · intro _
          refine ⟨?_, running, by rw [List.head?_cons]; show _ = some (service.session, stint); rw [same]⟩
          intro name monitor found
          by_cases listed : name ∈ names
          · exact closing.2 name monitor found listed
          · exact IsOpen.congr (apart name listed) ((spared name monitor found).2 listed)
      · rw [if_neg normal]
        dsimp only
        unfold Database.closed
        dsimp only
        split
        · exact ⟨tables, torn database unchanged, fun failed => by cases failed⟩
        · exact ⟨closing.1, torn _ apart, fun failed => by cases failed⟩

/-- Another session, or the first tick of the process: only its success changes the
service. -/
theorem changeSession_arrived (time : Int)
    (settled : Settled settings.config ids visited database service)
    (tables : database.Kept settings.config ids ((session, stint) :: visited))
    (other : ¬(service.initialized = true ∧ session = service.session)) :
    let done := service.changeSession settings (replies.answers database) session stint
    Arrived settings.config ids ((session, stint) :: visited)
      (database.closed time replies done.2.1) done.2.2 done.1 := by
  have still : ∀ after : Database, Settled settings.config ids ((session, stint) :: visited) after
      service := by
    intro after
    refine ⟨settled.kept, settled.later, ?_, ?_⟩
    · intro running
      exact List.mem_cons_of_mem _ (settled.entered running)
    · intro running latest head
      have same : session = service.session := by
        cases head
        rfl
      exact absurd ⟨running, same⟩ other
  unfold WatchService.changeSession
  dsimp only
  cases made : settings.freshMonitors (replies.answers database) session stint
      (WatchEngine.new settings.config) (WatchEngine.new settings.config).monitors.entries with
  | error error => exact ⟨tables, still database, fun failed => by cases failed⟩
  | ok done =>
    obtain ⟨engine, models⟩ := done
    have new : (WatchEngine.new settings.config).Kept settings.config ids := new_kept
    have spec := freshMonitors_spec tables _ (fun entry member => by
      have found := ((WatchEngine.new settings.config).monitors.get?_eq_some entry.1 entry.2).mpr member
      rw [WatchEngine.new, Dict.get?_mapValues] at found
      obtain ⟨own, configured, built⟩ := Option.map_eq_some_iff.mp found
      exact ⟨own, configured, built.symm⟩) new made
    dsimp only at spec ⊢
    obtain ⟨kept, taken⟩ := spec
    have all : ∀ name ∈ engine.monitors.keys,
        engine.Resumed settings.config database session stint name := by
      intro name member
      apply taken name
      left
      rw [kept.keys, ← new.keys] at member
      exact member
    have closing := closing_kept kept tables rfl time
      ⟨engine.monitors.keys, engine.kept, "session_changed"⟩ rfl all
    unfold Replies.answers
    dsimp only
    by_cases normal : replies.closePrevious = .normal
    · rw [if_pos normal]
      dsimp only
      unfold Database.closed
      dsimp only
      rw [if_neg (by rw [normal]; decide)]
      have agrees : ∀ name monitor, engine.monitors.get? name = some monitor →
          monitor.Agrees ((database.closePrevious time
            ⟨engine.monitors.keys, engine.kept, "session_changed"⟩).IsOpen name) :=
        fun name monitor found => closing.2 name monitor found (Dict.mem_keys found)
      refine ⟨closing.1, ⟨⟨kept.configured, kept.keys, kept.monitors⟩, settled.later, ?_, ?_⟩, ?_⟩
      · intro _
        exact List.mem_cons_self
      · intro _ _ _ name monitor found _
        exact agrees name monitor found
      · intro _
        exact ⟨agrees, rfl, rfl⟩
    · rw [if_neg normal]
      dsimp only
      unfold Database.closed
      dsimp only
      split
      · exact ⟨tables, still database, fun failed => by cases failed⟩
      · exact ⟨closing.1, still _, fun failed => by cases failed⟩

/-- No finding is open, neither in the tables nor in the engine. -/
def WatchEngine.Calm (database : Database) (engine : WatchEngine) : Prop :=
  ∀ name monitor, engine.monitors.get? name = some monitor →
    monitor.held = none ∧ ∀ findingId, ¬database.IsOpen name findingId

theorem WatchEngine.Calm.agrees (calm : engine.Calm database) : engine.Agrees database := by
  intro name monitor found
  obtain ⟨nothing, closed⟩ := calm name monitor found
  unfold Monitor.Agrees
  split
  · intro findingId
    constructor
    · exact fun isOpen => absurd isOpen (closed findingId)
    · intro held
      rw [nothing] at held
      cases held
  · exact fun findingId isOpen => absurd isOpen (closed findingId)

/-- A change that can fail half-way: out of no session, or of a stint that a monitor starts
with. -/
def Changeable (config : WatchConfig) (session : Option String) : Prop :=
  session = none ∨ ∃ name own, config.monitors.get? name = some own ∧ own.baseline = .stintStart

/-- What the sessions and stints of a run are like: none that was left comes back with a
finding, and a change that failed is not taken back while a finding is open. -/
structure Admits (config : WatchConfig) (visited : List (Option String × Nat))
    (database : Database) (service : WatchService) (session : Option String) (stint : Nat) :
    Prop where
  entered : Entered config visited database session stint
  forward : Changeable config session → service.initialized = true → service.session = session →
    service.stint = stint → visited.head? = some (session, stint) ∨ service.engine.Calm database

/-- A tick that sees what the service has: its engine agrees with the tables. -/
theorem unchanged_agrees (settled : Settled config ids visited database service)
    (admits : Admits config visited database service service.session service.stint)
    (running : service.initialized = true) : service.engine.Agrees database := by
  have newest : visited.head? = some (service.session, service.stint) →
      service.engine.Agrees database := by
    intro head name monitor found
    apply settled.agrees running service.stint head name monitor found
    exact fun _ => rfl
  by_cases changeable : Changeable config service.session
  · rcases admits.forward changeable running rfl rfl with head | calm
    · exact newest head
    · exact calm.agrees
  · unfold Changeable at changeable
    rw [not_or] at changeable
    obtain ⟨inside, fixed⟩ := changeable
    obtain ⟨latest, head⟩ := admits.entered.sameSession inside _ (settled.entered running)
    intro name monitor found
    apply settled.agrees running latest head name monitor found
    intro starts
    obtain ⟨own, configured, same⟩ := stintStart_configured (settled.kept.monitors name monitor found)
    exact absurd ⟨name, own, configured, same.mp starts⟩ fixed

theorem context_arrived (time : Int) (settled : Settled settings.config ids visited database service)
    (tables : database.Kept settings.config ids visited)
    (unnamed : ∀ context ∈ visited, named context.1 = none → context.2 = 0)
    (admits : ∀ session stint, (replies.answers database).seen = .ok (session, stint) →
      Admits settings.config visited database service session stint) :
    let done := service.context settings (replies.answers database)
    Arrived settings.config ids ((replies.answers database).visit visited)
      (database.closed time replies done.2.1) done.2.2 done.1 := by
  unfold WatchService.context Answers.visit
  cases seen : (replies.answers database).seen with
  | error error => exact ⟨tables, settled, fun failed => by cases failed⟩
  | ok context =>
    obtain ⟨session, stint⟩ := context
    have admitted := admits session stint seen
    have visiting := tables.visit admitted.entered
    dsimp only
    split
    · rename_i here
      obtain ⟨running, same⟩ := here
      split
      · rename_i unchanged
        have agrees : service.engine.Agrees database := by
          apply unchanged_agrees settled ?_ running
          rw [← same, ← unchanged]
          exact admitted
        refine ⟨visiting, ⟨settled.kept, settled.later, ?_, ?_⟩, ?_⟩
        · intro _
          rw [← same, ← unchanged]
          exact List.mem_cons_self
        · intro _ _ _ name monitor found _
          exact agrees name monitor found
        · intro _
          refine ⟨agrees, running, ?_⟩
          rw [List.head?_cons, same, unchanged]
      · rename_i changed
        apply changeStint_arrived time settled visiting running same.symm
        · exact fun equal => changed equal.symm
        · have before := settled.entered running
          have present : session ≠ none := by
            intro absent
            apply changed
            have noName : named session = none := by rw [absent]; rfl
            rw [seen_unnamed seen noName]
            rw [same] at noName
            exact (unnamed _ before noName).symm
          rw [← same] at before ⊢
          exact admitted.entered.sameSession present _ before
    · rename_i other
      exact changeSession_arrived time settled visiting other

end OpenLaps.Watch

import OpenLaps.Lib.Machine
import OpenLaps.Pit.Watch.Arrivals
import OpenLaps.Pit.Watch.TickRows

/- The open rows of findings beside the findings that the engine holds, over changes of
session and stint, failed calls, lost replies and restarts. -/
namespace OpenLaps.Watch

variable {settings : Settings} {config : WatchConfig} {ids : Nat} {database : Database}
  {visited : List (Option String × Nat)} {engine : WatchEngine} {service : WatchService}
  {session : Option String} {stint : Nat} {replies : Replies}

/-- What every run of the service keeps. -/
structure System.Kept (settings : Settings) (system : System) : Prop where
  rounds : system.ids % settings.config.monitors.keys.length = 0
  unnamed : ∀ context ∈ system.visited, named context.1 = none → context.2 = 0
  tables : system.database.Kept settings.config system.ids system.visited
  process : match system.process with
    | none => True
    | some ⟨service, .idle⟩ =>
      Settled settings.config system.ids system.visited system.database service
    | some ⟨service, .writing call _ previous⟩ =>
      Waiting settings.config system.ids system.visited service previous ∧
        previous.Agrees system.database ∧
        Writing settings.config system.ids system.visited (system.database.writeTick call)
          service.engine
    | some ⟨service, .committed _ _ previous⟩ =>
      Waiting settings.config system.ids system.visited service previous ∧
        Writing settings.config system.ids system.visited system.database service.engine

theorem system_init : System.Kept settings {} := by
  refine ⟨Nat.zero_mod _, by simp, ⟨?_, ?_, ?_, ?_⟩, trivial⟩
  · intro findingId row found
    cases found
  · intro key saved found
    cases found
  · intro key saved found
    cases found
  · intro session stint head
    cases head

theorem new_settled : Settled settings.config ids visited database (.new settings) := by
  refine ⟨new_kept, ?_, ?_, ?_⟩
  · intro sample member
    cases member
  · intro running
    cases running
  · intro running
    cases running

/-- What arrives is later than the first half minute. -/
theorem handle_pending {now : ℚ} (late : 60 < now) (message : Message)
    (later : ∀ sample ∈ service.pending.items, 0 < sample.time) :
    (service.handle now message).engine = service.engine ∧
      (service.handle now message).session = service.session ∧
      (service.handle now message).stint = service.stint ∧
      (service.handle now message).initialized = service.initialized ∧
      ∀ sample ∈ (service.handle now message).pending.items, 0 < sample.time := by
  obtain ⟨handled, pending⟩ := handle_frame now service message
  refine ⟨handled.engine, handled.session, handled.stint, handled.initialized, ?_⟩
  intro sample member
  rw [pending] at member
  rcases ReorderBuffer.items_foldl_push member with old | fresh
  · exact later sample old
  · have live := arrivals_live now service message sample fresh
    unfold Backfill backfillMaxAge at live
    rw [not_or, not_lt] at live
    linarith [live.1]

/-- No session is seen again once it was left. -/
def SessionsLeft (system : System) : Event → Prop
  | .tick _ replies => ∀ session stint,
      (replies.answers system.database).seen = .ok (session, stint) → session ≠ none →
      ∀ other, (session, other) ∈ system.visited →
        ∃ latest, system.visited.head? = some (session, latest)
  | _ => True

/-- The engine that the round of a tick starts from, with the numbers not given out. -/
def System.drained (settings : Settings) (system : System) (service : WatchService) (time : Int)
    (replies : Replies) : Nat × WatchService :=
  let middle := (service.context settings (replies.answers system.database)).1
  ((middle.drain settings system.ids time).1, (middle.drain settings system.ids time).2.1)

/-- No stint comes back after it was left while the checkpoint of a monitor that starts with
it holds a finding; a change of session or stint that failed is not taken back while a
finding is open; no evaluation raises after a monitor before it opened, closed or reported a
finding; and a reply is lost to a process that goes on only where the tick opened and closed
nothing. -/
def Spared (settings : Settings) (system : System) : Event → Prop
  | .tick time replies => (∀ session stint,
      (replies.answers system.database).seen = .ok (session, stint) →
      (∀ name own, settings.config.monitors.get? name = some own → own.baseline = .stintStart →
        (session, stint) ∈ system.visited → system.visited.head? = some (session, stint) ∨
          system.database.resumed session stint name own = none) ∧
      (Changeable settings.config session → ∀ service, system.process = some ⟨service, .idle⟩ →
        service.initialized = true → service.session = session → service.stint = stint →
        system.visited.head? = some (session, stint) ∨ service.engine.Calm system.database)) ∧
      ∀ service, system.process = some ⟨service, .idle⟩ →
        let drained := system.drained settings service time replies
        drained.2.engine.Unbroken settings.numerics drained.1 time drained.2.session.isSome
  | .lose => ∀ service call time previous,
      system.process = some ⟨service, .committed call time previous⟩ →
      ∀ name before after, previous.monitors.get? name = some before →
        service.engine.monitors.get? name = some after → before.held = after.held
  | _ => True

/-- A copy of the engine that holds what the tables show agrees with them. -/
theorem copy_agrees {previous : WatchEngine} (copy : previous.Kept config ids)
    (kept : engine.Kept config ids) (same : engine.Matches database)
    (held : ∀ name before after, previous.monitors.get? name = some before →
      engine.monitors.get? name = some after → before.held = after.held) :
    previous.Agrees database := by
  intro name before found
  obtain ⟨after, present⟩ := Dict.exists_of_mem_keys
    (show name ∈ engine.monitors.keys by rw [kept.keys]; exact copy.listed found)
  have rows := same name after present
  rw [← held name before after found present] at rows
  unfold Monitor.Agrees
  split
  · exact rows
  · rename_i report waits
    intro findingId isOpen
    have own := ((copy.monitors name before found).waits report waits).2.2
    rw [rows, own] at isOpen
    split at isOpen
    · exact (Option.some.inj isOpen).symm
    · cases isOpen

theorem tick_kept {system : System} (kept : system.Kept settings) {time : Int} (later : 0 < time)
    (running : system.process = some ⟨service, .idle⟩)
    (left : SessionsLeft system (.tick time replies))
    (spared : Spared settings system (.tick time replies)) :
    System.Kept settings (system.tick settings service time replies) := by
  have settled := kept.process
  rw [running] at settled
  dsimp only at settled
  have arrived := context_arrived time settled kept.tables kept.unnamed fun session stint seen =>
    ⟨⟨left session stint seen, (spared.1 session stint seen).1⟩,
      fun changeable => (spared.1 session stint seen).2 changeable service running⟩
  have quiet := spared.2 service running
  have unnamed : ∀ context ∈ (replies.answers system.database).visit system.visited,
      named context.1 = none → context.2 = 0 := by
    unfold Answers.visit
    split
    · exact kept.unnamed
    · rename_i context seen
      intro other member absent
      rcases List.mem_cons.mp member with here | before
      · rw [here] at absent ⊢
        exact seen_unnamed seen absent
      · exact kept.unnamed other before absent
  unfold System.drained at quiet
  unfold System.tick
  dsimp only at arrived quiet ⊢
  generalize service.context settings (replies.answers system.database) = result
    at arrived quiet ⊢
  obtain ⟨after, closed, outcome⟩ := result
  dsimp only at arrived quiet ⊢
  cases outcome with
  | error error =>
    exact ⟨kept.rounds, unnamed, arrived.tables, arrived.settled.reports _⟩
  | ok ended =>
    obtain ⟨agrees, initialized, current⟩ := arrived.ready rfl
    obtain ⟨more, working, session, stint, _, samples⟩ :=
      drain_working settings time kept.rounds arrived.settled.kept agrees
        arrived.settled.later
    rw [← session, ← stint] at current
    obtain ⟨more', rounds, waiting, written⟩ := evaluate_writing working
      (arrived.tables.later more) current later samples
    generalize after.drain settings system.ids time = drained at *
    obtain ⟨ids, middle, raised⟩ := drained
    dsimp only at *
    cases raised with
    | some error =>
      have stopped : Settled settings.config ids
          ((replies.answers system.database).visit system.visited)
          (system.database.closed time replies closed) middle :=
        ⟨working.kept, samples, fun _ => List.mem_of_mem_head? current,
          fun _ _ _ name monitor found _ => working.agrees name monitor found⟩
      exact ⟨working.rounds, unnamed, arrived.tables.later more, stopped.reports _⟩
    | none =>
      dsimp only
      generalize middle.evaluate settings ids time = last at more' rounds waiting written ⊢
      obtain ⟨ids', final, call⟩ := last
      dsimp only at more' rounds waiting written ⊢
      have tables := arrived.tables.later (Nat.le_trans more more')
      refine ⟨rounds, unnamed, tables, ?_⟩
      cases call with
      | error error =>
        dsimp only at written ⊢
        exact (waiting.settled waiting.kept (written quiet)).reports _
      | ok call =>
        cases call with
        | none =>
          dsimp only at written ⊢
          have agrees : final.engine.Agrees (system.database.closed time replies closed) := by
            rw [written]
            exact working.agrees
          exact waiting.settled waiting.kept agrees
        | some call =>
          dsimp only at written ⊢
          exact ⟨waiting, working.agrees, written⟩

theorem step_kept {system next : System} (kept : system.Kept settings) {event : Event}
    (left : SessionsLeft system event) (spared : Spared settings system event)
    (taken : system.step settings event = some next) : next.Kept settings := by
  have process := kept.process
  cases event with
  | start =>
    unfold System.step at taken
    dsimp only at taken
    split at taken
    · cases taken
      exact ⟨kept.rounds, kept.unnamed, kept.tables, new_settled⟩
    · cases taken
  | crash =>
    obtain ⟨_, _, same⟩ := Option.map_eq_some_iff.mp taken
    rw [← same]
    exact ⟨kept.rounds, kept.unnamed, kept.tables, trivial⟩
  | receive now message =>
    unfold System.step at taken
    dsimp only at taken
    split at taken
    · rename_i running here
      split at taken
      · rename_i late
        cases taken
        refine ⟨kept.rounds, kept.unnamed, kept.tables, ?_⟩
        rw [here] at process
        obtain ⟨service, pc⟩ := running
        dsimp only
        cases pc with
        | idle =>
          dsimp only at process ⊢
          obtain ⟨engine, session, stint, initialized, later⟩ :=
            handle_pending late message process.later
          refine ⟨?_, later, ?_, ?_⟩
          · rw [engine]
            exact process.kept
          · rw [initialized, session, stint]
            exact process.entered
          · rw [initialized, session, stint, engine]
            exact process.agrees
        | writing call time previous =>
          dsimp only at process ⊢
          obtain ⟨waiting, agrees, writing⟩ := process
          obtain ⟨engine, session, stint, initialized, later⟩ :=
            handle_pending late message waiting.later
          refine ⟨⟨?_, waiting.copy, later, ?_⟩, agrees, ?_⟩
          · rw [engine]
            exact waiting.kept
          · rw [initialized, session, stint]
            exact waiting.entered
          · rw [engine]
            exact writing
        | committed call time previous =>
          dsimp only at process ⊢
          obtain ⟨waiting, writing⟩ := process
          obtain ⟨engine, session, stint, initialized, later⟩ :=
            handle_pending late message waiting.later
          refine ⟨⟨?_, waiting.copy, later, ?_⟩, ?_⟩
          · rw [engine]
            exact waiting.kept
          · rw [initialized, session, stint]
            exact waiting.entered
          · rw [engine]
            exact writing
      · cases taken
    · cases taken
  | tick time replies =>
    unfold System.step at taken
    dsimp only at taken
    split at taken
    · rename_i service running
      split at taken
      · rename_i later
        cases taken
        exact tick_kept kept later running left spared
      · cases taken
    · cases taken
  | commit =>
    unfold System.step at taken
    dsimp only at taken
    split at taken
    · rename_i service call time previous running
      cases taken
      rw [running] at process
      dsimp only at process
      obtain ⟨waiting, _, writing⟩ := process
      exact ⟨kept.rounds, kept.unnamed, writing.tables, waiting, writing⟩
    · cases taken
  | refuse =>
    unfold System.step at taken
    dsimp only at taken
    split at taken
    · rename_i service call time previous running
      cases taken
      rw [running] at process
      dsimp only at process
      obtain ⟨waiting, agrees, _⟩ := process
      have back := waiting.settled waiting.copy agrees
      exact ⟨kept.rounds, kept.unnamed, kept.tables, back.reports _⟩
    · cases taken
  | lose =>
    unfold System.step at taken
    dsimp only at taken
    split at taken
    · rename_i service call time previous running
      cases taken
      have held := spared service call time previous running
      rw [running] at process
      dsimp only at process
      obtain ⟨waiting, writing⟩ := process
      have agrees := copy_agrees waiting.copy waiting.kept writing.same held
      have back := waiting.settled waiting.copy agrees
      exact ⟨kept.rounds, kept.unnamed, kept.tables, back.reports _⟩
    · cases taken
  | reply =>
    unfold System.step at taken
    dsimp only at taken
    split at taken
    · rename_i service call time previous running
      cases taken
      rw [running] at process
      dsimp only at process
      obtain ⟨waiting, writing⟩ := process
      have agrees := matches_agrees writing.same writing.settled
      have after := waiting.settled waiting.kept agrees
      exact ⟨kept.rounds, kept.unnamed, kept.tables, after.reports _⟩
    · cases taken

/-- The open rows of every configured monitor are the finding that its monitor holds. -/
def System.Matches (settings : Settings) (system : System) : Prop :=
  ∃ service, system.process = some ⟨service, .idle⟩ ∧
    ∀ name ∈ settings.config.monitors.keys, ∃ monitor,
      service.engine.monitors.get? name = some monitor ∧
      ∀ findingId, system.database.IsOpen name findingId ↔ monitor.held = some findingId

/-- After every tick whose transaction was answered, in a run where no lost reply hides a
finding that opened or closed and no stint returns, the tables match the engine. -/
theorem open_rows_match (settings : Settings) (events : List Event)
    (fair : Machine.Along (System.step settings)
      (fun system event => SessionsLeft system event ∧ Spared settings system event) {} events)
    (system next : System) (reached : Machine.run (System.step settings) {} events = some system)
    (answered : system.step settings .reply = some next) : next.Matches settings := by
  have always : Machine.Always (System.step settings) (System.Kept settings) {} events :=
    Machine.always_of_along (System.Kept settings) (fun _ kept => kept)
      (fun _ _ _ kept allowed taken => step_kept kept allowed.1 allowed.2 taken) events {}
      system_init fair
  have process := (always.final reached).process
  unfold System.step at answered
  dsimp only at answered
  split at answered
  · rename_i service call time previous running
    cases answered
    rw [running] at process
    dsimp only at process
    obtain ⟨waiting, writing⟩ := process
    refine ⟨_, rfl, ?_⟩
    intro name listed
    rw [← waiting.kept.keys] at listed
    obtain ⟨monitor, found⟩ := Dict.exists_of_mem_keys listed
    exact ⟨monitor, found, writing.same name monitor found⟩
  · cases answered

/-- One counter of errors. -/
def counting : Settings where
  config :=
    { baselineRpmMin := 1000
      maxAgeSeconds := 10
      monitors := ⟨[("errors", .counter errorCounter)], by decide⟩
      rpmNonneg := by norm_num
      agePos := by norm_num
      nonEmpty := by simp }
  directory := "profiles"
  numerics := plainNumerics
  text :=
    { deep := fun _ => false
      loads := fun text =>
        if text = "track" then some (.object [("pit_status", .str "track")]) else none
      float := fun _ => none
      int := fun _ => none
      str := fun _ => "" }
  readModel := fun path => .error (.valueError path)

def countingRegistry : ChannelRegistry :=
  ⟨1, "car", 0,
    [⟨1, "car.rpm", "", "rpm", .double, 0, 0⟩, ⟨2, "car.errors", "", "count", .double, 0, 0⟩,
      ⟨3, "car.load", "", "", .double, 0, 0⟩, ⟨4, "lap.event", "", "", .string, 0, 0⟩]⟩

/-- A batch on the track. -/
def onTrack (second : Nat) (errors : ℚ) : SampleBatch :=
  ⟨1, 1000 * second, 0, [⟨1, 0, some (.d (.finite 4000))⟩, ⟨2, 0, some (.d (.finite errors))⟩,
    ⟨3, 0, some (.d (.finite 1))⟩, ⟨4, 0, some (.s "track")⟩], 1⟩

def inRace (stint : Nat) : Replies := ⟨.ok (some "race"), .ok stint, [], .normal⟩

/-- Errors that rise, with the end of the transaction that opens the finding. -/
def rising (ending : Event) : List Event :=
  [.start, .receive 100 (.registry (some countingRegistry)), .receive 100 (.batch (some (onTrack 100 0))),
    .tick 100 (inRace 1), .commit, .reply, .receive 112 (.batch (some (onTrack 112 5))),
    .tick 112 (inRace 1), .commit, ending, .tick 113 (inRace 1), .commit]

/-- `SessionsLeft` in a run over one session, as a test. -/
def oneSession (system : System) : Event → Bool
  | .tick _ replies =>
    match (replies.answers system.database).seen with
    | .error _ => true
    | .ok context => system.visited.all fun other => other.1 = context.1
  | _ => true

/-- `Spared` in a run over one session and stint that loses no reply and in which nothing
raises, as a test. -/
def oneStint (system : System) : Event → Bool
  | .tick time replies =>
    (match (replies.answers system.database).seen with
      | .error _ => true
      | .ok context =>
        system.visited.head? = some context || (system.visited.isEmpty &&
          system.process.all fun process => !process.service.initialized)) &&
      system.process.all fun process =>
        let drained := system.drained counting process.service time replies
        (drained.2.engine.tick counting.numerics drained.1 time drained.2.session.isSome).2.isOk
  | .lose => false
  | _ => true

theorem oneSession_sessionsLeft {system : System} {event : Event}
    (tested : oneSession system event = true) : SessionsLeft system event := by
  cases event with
  | tick time replies =>
    intro session stint seen _ other member
    unfold oneSession at tested
    dsimp only at tested
    rw [seen] at tested
    have all := List.all_eq_true.mp tested
    cases visits : system.visited with
    | nil =>
      rw [visits] at member
      cases member
    | cons newest rest =>
      have same := all newest (by rw [visits]; exact List.mem_cons_self)
      have own : newest.1 = session := of_decide_eq_true same
      refine ⟨newest.2, ?_⟩
      rw [List.head?_cons, ← own]
  | start => trivial
  | crash => trivial
  | receive now message => trivial
  | commit => trivial
  | refuse => trivial
  | lose => trivial
  | reply => trivial

theorem oneStint_spared {system : System} {event : Event} (tested : oneStint system event = true) :
    Spared counting system event := by
  cases event with
  | tick time replies =>
    unfold oneStint at tested
    dsimp only at tested
    obtain ⟨tested, fine⟩ := (Bool.and_eq_true _ _).mp tested
    refine ⟨?_, ?_⟩
    swap
    · intro service running drained error raised
      rw [running, Option.all_some] at fine
      change (drained.2.engine.tick counting.numerics drained.1 time
        drained.2.session.isSome).2.isOk = true at fine
      rw [raised] at fine
      cases fine
    intro session stint seen
    rw [seen] at tested
    dsimp only at tested
    rcases (Bool.or_eq_true _ _).mp tested with newest | first
    · have head := of_decide_eq_true newest
      exact ⟨fun _ _ _ _ _ => .inl head, fun _ _ _ _ _ _ => .inl head⟩
    · obtain ⟨empty, fresh⟩ := (Bool.and_eq_true _ _).mp first
      rw [List.isEmpty_iff] at empty
      constructor
      · intro _ _ _ _ member
        rw [empty] at member
        cases member
      · intro _ service running initialized
        rw [running, Option.all_some, initialized] at fresh
        cases fresh
  | lose => cases tested
  | start => trivial
  | crash => trivial
  | receive now message => trivial
  | commit => trivial
  | refuse => trivial
  | reply => trivial

/-- With every transaction answered the counter's finding is the one open row. -/
theorem open_rows_match_rising : ∃ system next,
    Machine.run (System.step counting) {} (rising .reply) = some system ∧
      system.step counting .reply = some next ∧ next.database.openIds "errors" = [1] ∧
      next.Matches counting := by
  have ends : ((Machine.run (System.step counting) {} (rising .reply)).bind fun system =>
      system.step counting .reply).map (fun next => next.database.openIds "errors") = some [1] := by
    decide +kernel
  obtain ⟨next, taken, opened⟩ := Option.map_eq_some_iff.mp ends
  obtain ⟨system, reached, answered⟩ := Option.bind_eq_some_iff.mp taken
  refine ⟨system, next, reached, answered, opened, ?_⟩
  apply open_rows_match counting (rising .reply) ?_ system next reached answered
  have session : Machine.checks (System.step counting) oneSession {} (rising .reply) = true := by
    decide +kernel
  have stint : Machine.checks (System.step counting) oneStint {} (rising .reply) = true := by
    decide +kernel
  apply Machine.along_and
  · apply Machine.Along.imp (Machine.along_of_checks _ _ session)
    intro system event
    exact oneSession_sessionsLeft
  · apply Machine.Along.imp (Machine.along_of_checks _ _ stint)
    intro system event
    exact oneStint_spared

/-- A whole-car model of three channels that learns one second and then finds every second
ten sigma away. -/
def learning : Settings :=
  { counting with
    numerics := { plainNumerics with residual := fun _ _ => ⟨10, [], by norm_num⟩ }
    config :=
      { counting.config with
        monitors := ⟨[("car", .wholeCar
          { channels := ["car.rpm", "car.errors", "car.load"]
            baseline := .stintStart
            storedFile := none
            baselineMinutes := 1 / 60
            scoreWindow := 1
            openFindingAbove := 1
            severity := .warning
            enough := by decide
            distinct := by decide
            baselines := by decide
            minutes := by norm_num
            windowPos := errorCounter.opensAt
            opensAt := errorCounter.opensAt })], by decide⟩
        nonEmpty := by simp } }

/-- The finding of the first stint is closed with it, and taken over again when the stint
returns to a car that sends nothing. -/
def returning : List Event :=
  [.start, .receive 100 (.registry (some countingRegistry)), .receive 100 (.batch (some (onTrack 100 0))),
    .tick 100 (inRace 1), .commit, .reply, .tick 101 (inRace 1), .commit, .reply,
    .tick 102 (inRace 2), .commit, .reply, .tick 150 (inRace 1), .commit]

/-- A run over sessions that do not return, after whose last answer the tables do not match. -/
def Mismatch (settings : Settings) (events : List Event) : Prop :=
  ∃ system next, Machine.Along (System.step settings) SessionsLeft {} events ∧
    Machine.run (System.step settings) {} events = some system ∧
    system.step settings .reply = some next ∧ ¬next.Matches settings

/-- What a monitor of the engine holds. -/
def System.holds (system : System) (name : String) : Option Nat :=
  ((system.process.bind fun process => process.service.engine.monitors.get? name).bind Monitor.held)

/-- The tables and the engine differ about one finding. -/
theorem mismatch_of {events : List Event} (name : String) (opened : List Nat) (held : Option Nat)
    (configured : name ∈ settings.config.monitors.keys)
    (tested : Machine.checks (System.step settings) oneSession {} events = true)
    (ends : ((Machine.run (System.step settings) {} events).bind fun system =>
      system.step settings .reply).map (fun next =>
        (next.database.openIds name, next.holds name)) = some (opened, held))
    (findingId : Nat) (apart : ¬(findingId ∈ opened ↔ held = some findingId)) :
    Mismatch settings events := by
  obtain ⟨next, taken, facts⟩ := Option.map_eq_some_iff.mp ends
  obtain ⟨system, reached, answered⟩ := Option.bind_eq_some_iff.mp taken
  obtain ⟨open', holds⟩ := Prod.mk.inj facts
  refine ⟨system, next, ?_, reached, answered, ?_⟩
  · apply Machine.Along.imp (Machine.along_of_checks _ _ tested)
    intro system event
    exact oneSession_sessionsLeft
  · rintro ⟨service, running, each⟩
    obtain ⟨monitor, found, rows⟩ := each name configured
    have own : monitor.held = held := by
      unfold System.holds at holds
      rw [running, Option.bind_some, found] at holds
      exact holds
    apply apart
    rw [← open', Database.mem_openIds, rows findingId, own]

/-- The counter, and a band of it by the load in bins of a half. -/
def banded : Settings :=
  { counting with
    config :=
      { counting.config with
        monitors := ⟨[("errors", .counter errorCounter), ("band", .envelope
          { target := "car.errors"
            conditionedOn := [⟨"car.load", 1 / 2, none, by norm_num⟩]
            baseline := .sessionStart
            storedFile := none
            baselineSeconds := 60
            minBinSamples := 2
            residualSigma := 1
            minScale := 1
            scoreWindow := 1
            openFindingAbove := 1 / 2
            severity := .warning
            conditions := by decide
            baselines := by decide
            seconds := by decide
            samples := by decide
            sigmaPos := errorCounter.opensAt
            scalePos := errorCounter.opensAt
            windowPos := errorCounter.opensAt
            opensAt := by norm_num })], by decide⟩
        nonEmpty := by simp } }

/-- A batch on the track with a load of `1.7e308`. -/
def loaded (second : Nat) : SampleBatch :=
  { onTrack second 5 with
    samples := [⟨1, 0, some (.d (.finite 4000))⟩, ⟨2, 0, some (.d (.finite 5))⟩,
      ⟨3, 0, some (.d (.finite (17 * 10 ^ 307)))⟩, ⟨4, 0, some (.s "track")⟩] }

/-- The errors rise no more in the second of the load that has no bin. -/
def overflowing : List Event :=
  (rising .reply).take 9 ++ [.reply, .receive 130 (.batch (some (loaded 130))), .tick 130 (inRace 1),
    .receive 131 (.batch (some (onTrack 131 5))), .tick 131 (inRace 1), .commit]

/-- A reply lost with the transaction that opens a finding leaves the first of two rows open;
a stint that returns holds a finding whose row is closed; and a finding that closes before
another evaluation raises leaves its row open. -/
theorem open_rows_mismatch :
    Mismatch counting (rising .lose) ∧ Mismatch learning returning ∧ Mismatch banded overflowing :=
  ⟨mismatch_of "errors" [1, 2] (some 2) (by decide) (by decide +kernel) (by decide +kernel) 1
      (by decide),
    mismatch_of "car" [] (some 1) (by decide) (by decide +kernel) (by decide +kernel) 1 (by decide),
    mismatch_of "errors" [2] none (by decide) (by decide +kernel) (by decide +kernel) 2 (by decide)⟩

end OpenLaps.Watch

import OpenLaps.Pit.Watch.SameEngine

/- Runs of the service on its live stream: the samples that it accepts, and what its ticks
leave. -/
namespace OpenLaps.Watch

deriving instance DecidableEq for Observation

/-- What the engine is given of a decoded sample. -/
def observation (sample : DecodedSample) : Observation :=
  ⟨sample.channel.name, sample.value, sample.captureUnixMs / 1000, sample.channel.units⟩

/-- The samples of one channel and one capture time, as they came. -/
abbrev samplesOf (channel : String) (moment : ℚ) (items : List Observation) : List Observation :=
  ReorderBuffer.bucket Observation.time Observation.channel channel moment items

namespace WatchService

/-- A sample that goes to those that wait. -/
def Takes (now : ℚ) (service : WatchService) (sample : DecodedSample) : Prop :=
  sample.channel.name ∈ service.engine.inputChannels ∧
    ¬Backfill now (sample.captureUnixMs / 1000) ∧ service.pending.entries.length < maxPending

instance (now : ℚ) (service : WatchService) (sample : DecodedSample) :
    Decidable (service.Takes now sample) := inferInstanceAs (Decidable (_ ∧ _ ∧ _))

/-- What is accepted of the samples of a batch. -/
def taken (now : ℚ) : WatchService → List DecodedSample → List Observation
  | _, [] => []
  | service, sample :: rest =>
    let others := taken now (service.accept now sample) rest
    if service.Takes now sample then observation sample :: others else others

/-- What is accepted of a message. -/
def arrivals (now : ℚ) (service : WatchService) : Message → List Observation
  | .batch (some raw) =>
    if Backfill now ((raw.batchEpochUnixMs : ℚ) / 1000) then []
    else
      match (service.cache.decodeBatch raw).2 with
      | .error _ => []
      | .ok batch => service.taken now batch.samples
  | _ => []

end WatchService

/-- The service in a run, the first number that `uuid4` has not given out, and every sample
accepted so far, as they came. -/
structure Watching where
  ids : Nat := 0
  service : WatchService
  taken : List Observation := []

inductive Input where
  | receive (now : ℚ) (message : Message)
  | tick (time : Int)

/-- What a tick leaves, beside all that was accepted before it. -/
structure Ticked where
  time : Int
  taken : List Observation
  engine : WatchEngine
  session : Option String
  stint : Nat
  closed : Option ClosePrevious
  write : Option WriteTick

namespace Watching

variable (settings : Settings) (answers : Int → Answers)

/-- The first state of a process. -/
def start : Watching := { service := .new settings }

def receive (now : ℚ) (message : Message) (state : Watching) : Watching :=
  { state with
    service := state.service.handle now message
    taken := state.taken ++ state.service.arrivals now message }

/-- `tick`, with a transaction that is written. The database answers a time in one way. -/
def tick (time : Int) (state : Watching) : Watching × Ticked :=
  let (service, closed, outcome) := state.service.context settings (answers time)
  match outcome with
  | .error _ =>
    ({ state with service := service.failed },
      ⟨time, state.taken, service.engine, service.session, service.stint, closed, none⟩)
  | .ok () =>
    let (ids, service, raised) := service.drain settings state.ids time
    match raised with
    | some _ =>
      ({ state with ids := ids, service := service.failed },
        ⟨time, state.taken, service.engine, service.session, service.stint, closed, none⟩)
    | none =>
      let (ids, service, write) := service.evaluate settings ids time
      let ended := match write with
        | .error _ => service.failed
        | .ok none => service
        | .ok (some call) => service.written time call.rows
      ({ state with ids := ids, service := ended },
        ⟨time, state.taken, service.engine, service.session, service.stint, closed,
          write.toOption.join⟩)

def step (state : Watching) : Input → Watching × Option Ticked
  | .receive now message => (state.receive now message, none)
  | .tick time => ((state.tick settings answers time).1, some (state.tick settings answers time).2)

/-- The state after all inputs. -/
def after (state : Watching) (inputs : List Input) : Watching :=
  inputs.foldl (fun state input => (state.step settings answers input).1) state

/-- What the ticks of a run leave. -/
def run : Watching → List Input → List Ticked
  | _, [] => []
  | state, input :: rest =>
    (state.step settings answers input).2.toList ++ run (state.step settings answers input).1 rest

end Watching

section Receiving

variable {now : ℚ} {service service' : WatchService}

/-- What a message leaves alone of the service. -/
structure WatchService.Handled (service after : WatchService) : Prop where
  engine : after.engine = service.engine
  session : after.session = service.session
  stint : after.stint = service.stint
  initialized : after.initialized = service.initialized

theorem WatchService.Handled.same (handled : service.Handled service') : service'.Same service where
  engine := by
    rw [handled.engine]
    exact .refl _
  session := handled.session
  stint := handled.stint
  initialized := handled.initialized

theorem WatchService.Handled.trans {third : WatchService} (first : service.Handled service')
    (next : service'.Handled third) : service.Handled third :=
  ⟨next.engine.trans first.engine, next.session.trans first.session,
    next.stint.trans first.stint, next.initialized.trans first.initialized⟩

/-- A sample changes nothing but what waits. -/
theorem accept_frame (now : ℚ) (service : WatchService) (sample : DecodedSample) :
    service.Handled (service.accept now sample) ∧
      (service.accept now sample).pending =
        if service.Takes now sample then service.pending.push (observation sample)
        else service.pending := by
  unfold WatchService.accept
  dsimp only
  by_cases foreign : sample.channel.name ∉ service.engine.inputChannels
  · rw [if_pos foreign, if_neg fun taken : service.Takes now sample => foreign taken.1]
    exact ⟨⟨rfl, rfl, rfl, rfl⟩, rfl⟩
  · rw [if_neg foreign]
    by_cases old : Backfill now (sample.captureUnixMs / 1000)
    · rw [if_pos old, if_neg fun taken : service.Takes now sample => taken.2.1 old]
      exact ⟨⟨rfl, rfl, rfl, rfl⟩, rfl⟩
    · rw [if_neg old]
      by_cases full : maxPending ≤ service.pending.entries.length
      · rw [if_pos full, if_neg fun taken : service.Takes now sample =>
          Nat.not_lt.mpr full taken.2.2]
        exact ⟨⟨rfl, rfl, rfl, rfl⟩, rfl⟩
      · rw [if_neg full, if_pos (show service.Takes now sample from
          ⟨not_not.mp foreign, old, Nat.not_le.mp full⟩)]
        exact ⟨⟨rfl, rfl, rfl, rfl⟩, rfl⟩

/-- Neither the cache nor the counters matter. -/
theorem taken_congr (engine : service.engine = service'.engine)
    (pending : service.pending = service'.pending) (samples : List DecodedSample) :
    service.taken now samples = service'.taken now samples := by
  induction samples generalizing service service' with
  | nil => rfl
  | cons sample rest ih =>
    obtain ⟨kept, waits⟩ := accept_frame now service sample
    obtain ⟨kept', waits'⟩ := accept_frame now service' sample
    have takes : service.Takes now sample ↔ service'.Takes now sample := by
      unfold WatchService.Takes
      rw [engine, pending]
    have others : (service.accept now sample).taken now rest =
        (service'.accept now sample).taken now rest := by
      apply ih
      · rw [kept.engine, kept'.engine, engine]
      · rw [waits, waits', pending]
        simp only [takes]
    unfold WatchService.taken
    simp only [others, takes]

theorem foldl_accept (now : ℚ) (samples : List DecodedSample) (service : WatchService) :
    service.Handled (samples.foldl (WatchService.accept now) service) ∧
      (samples.foldl (WatchService.accept now) service).pending =
        (service.taken now samples).foldl ReorderBuffer.Buffer.push service.pending := by
  induction samples generalizing service with
  | nil => exact ⟨⟨rfl, rfl, rfl, rfl⟩, rfl⟩
  | cons sample rest ih =>
    obtain ⟨first, waits⟩ := accept_frame now service sample
    obtain ⟨others, pending⟩ := ih (service.accept now sample)
    refine ⟨first.trans others, ?_⟩
    rw [List.foldl_cons, pending, waits, WatchService.taken]
    by_cases takes : service.Takes now sample
    · rw [if_pos takes, if_pos takes]
      rfl
    · rw [if_neg takes, if_neg takes]

/-- The service with what the decoding of a batch changed. -/
def WatchService.decoding (service : WatchService) (cache : RegistryCache) : WatchService :=
  { service with
    cache := cache
    health := { service.health with
      unknownRegistry := cache.unknownSeqBatches
      badVersion := cache.badVersionBatches } }

theorem handle_batch {raw : SampleBatch} (live : ¬Backfill now ((raw.batchEpochUnixMs : ℚ) / 1000)) :
    service.handle now (.batch (some raw)) =
      match (service.cache.decodeBatch raw).2 with
      | .error _ => service.decoding (service.cache.decodeBatch raw).1
      | .ok batch =>
        batch.samples.foldl (WatchService.accept now)
          (service.decoding (service.cache.decodeBatch raw).1) := by
  unfold WatchService.handle
  dsimp only
  rw [if_neg live]
  rfl

theorem arrivals_batch {raw : SampleBatch} (live : ¬Backfill now ((raw.batchEpochUnixMs : ℚ) / 1000)) :
    service.arrivals now (.batch (some raw)) =
      match (service.cache.decodeBatch raw).2 with
      | .error _ => []
      | .ok batch => (service.decoding (service.cache.decodeBatch raw).1).taken now batch.samples := by
  unfold WatchService.arrivals
  dsimp only
  rw [if_neg live]
  cases (service.cache.decodeBatch raw).2 with
  | error reject => rfl
  | ok batch =>
    dsimp only
    apply taken_congr
    · rfl
    · rfl

/-- A message changes nothing but what waits: what it brings joins it. -/
theorem handle_frame (now : ℚ) (service : WatchService) (message : Message) :
    service.Handled (service.handle now message) ∧
      (service.handle now message).pending =
        (service.arrivals now message).foldl ReorderBuffer.Buffer.push service.pending := by
  cases message with
  | registry parsed => cases parsed <;> exact ⟨⟨rfl, rfl, rfl, rfl⟩, rfl⟩
  | batch parsed =>
    cases parsed with
    | none => exact ⟨⟨rfl, rfl, rfl, rfl⟩, rfl⟩
    | some raw =>
      by_cases old : Backfill now ((raw.batchEpochUnixMs : ℚ) / 1000)
      · unfold WatchService.handle WatchService.arrivals
        dsimp only
        rw [if_pos old, if_pos old]
        exact ⟨⟨rfl, rfl, rfl, rfl⟩, rfl⟩
      · rw [handle_batch old, arrivals_batch old]
        cases (service.cache.decodeBatch raw).2 with
        | error reject => exact ⟨⟨rfl, rfl, rfl, rfl⟩, rfl⟩
        | ok batch =>
          obtain ⟨others, pending⟩ := foldl_accept now batch.samples
            (service.decoding (service.cache.decodeBatch raw).1)
          exact ⟨⟨others.engine, others.session, others.stint, others.initialized⟩, pending⟩

/-- What is accepted is of the live window. -/
theorem taken_live (samples : List DecodedSample) (service : WatchService) :
    ∀ item ∈ service.taken now samples, ¬Backfill now item.time := by
  induction samples generalizing service with
  | nil =>
    intro item member
    cases member
  | cons sample rest ih =>
    intro item member
    unfold WatchService.taken at member
    dsimp only at member
    split at member
    · rename_i takes
      rcases List.mem_cons.mp member with here | later
      · rw [here]
        exact takes.2.1
      · exact ih _ item later
    · exact ih _ item member

theorem arrivals_live (now : ℚ) (service : WatchService) (message : Message) :
    ∀ item ∈ service.arrivals now message, ¬Backfill now item.time := by
  unfold WatchService.arrivals
  split
  · split
    · exact fun _ member => nomatch member
    · split
      · exact fun _ member => nomatch member
      · exact taken_live _ service
  · exact fun _ member => nomatch member

end Receiving

end OpenLaps.Watch

import OpenLaps.Lib.ReorderBuffer
import OpenLaps.Pit.RegistryCache
import OpenLaps.Pit.Watch.Engine

/- The service (`service.py`): the live window, the samples that wait for their second, the
session and stint of the engine, and the tick up to its transaction. The rows that go out
live are left out. -/
namespace OpenLaps.Watch

/-- Deploy-time wiring, with the parts of the runtime that the service only calls:
`readModel` is a stored model file, parsed. -/
structure Settings where
  config : WatchConfig
  directory : String
  numerics : Numerics
  text : Ingest.PyText
  readModel : String → Except PyError Model

/-- What ends a tick before its time. -/
inductive TickError where
  | database
  | python (error : PyError)
  deriving DecidableEq, Repr

/-- A row of `watch_baselines`: a snapshot with the tick it was taken at. -/
structure Saved where
  model : Model
  lastTick : Option Int

structure Health where
  unknownRegistry : Nat := 0
  badVersion : Nat := 0
  backfillSkipped : Nat := 0
  dropped : Nat := 0
  malformed : Nat := 0
  databaseOk : Bool := false
  lastTick : Option Int := none
  status : List (String × Status) := []

structure WatchService where
  engine : WatchEngine
  cache : RegistryCache := .empty
  health : Health := {}
  session : Option String := none
  stint : Nat := 0
  initialized : Bool := false
  pending : ReorderBuffer.Buffer Observation.time := .empty

/-- A message of the stream. Its bytes are represented by what `ParseFromString` makes of
them, `none` standing for a `DecodeError`. -/
inductive Message where
  | registry (parsed : Option ChannelRegistry)
  | batch (parsed : Option SampleBatch)

def backfillMaxAge : ℚ := 30

def futureTolerance : ℚ := 5

def maxPending : Nat := 50000

/-- Outside the live window around `now`. -/
def Backfill (now time : ℚ) : Prop := time < now - backfillMaxAge ∨ now + futureTolerance < time

instance (now time : ℚ) : Decidable (Backfill now time) := inferInstanceAs (Decidable (_ ∨ _))

/-- The truth of a session id that may be absent. -/
def named (session : Option String) : Option String := session.filter (· ≠ "")

namespace WatchService

/-- `WatchService(settings)`. -/
def new (settings : Settings) : WatchService := { engine := .new settings.config }

def accept (now : ℚ) (service : WatchService) (sample : DecodedSample) : WatchService :=
  let time := sample.captureUnixMs / 1000
  let health := service.health
  if sample.channel.name ∉ service.engine.inputChannels then service
  else if Backfill now time then { service with health := { health with dropped := health.dropped + 1 } }
  else if maxPending ≤ service.pending.entries.length then
    { service with health := { health with dropped := health.dropped + 1 } }
  else
    { service with
      pending := service.pending.push
        ⟨sample.channel.name, sample.value, time, sample.channel.units⟩ }

def handle (now : ℚ) (service : WatchService) : Message → WatchService
  | .registry none | .batch none =>
    { service with health := { service.health with malformed := service.health.malformed + 1 } }
  | .registry (some registry) => { service with cache := service.cache.addRegistry registry }
  | .batch (some raw) =>
    if Backfill now ((raw.batchEpochUnixMs : ℚ) / 1000) then
      { service with
        health := { service.health with backfillSkipped := service.health.backfillSkipped + 1 } }
    else
      let (cache, decoded) := service.cache.decodeBatch raw
      let service := { service with
        cache := cache
        health := { service.health with
          unknownRegistry := cache.unknownSeqBatches
          badVersion := cache.badVersionBatches } }
      match decoded with
      | .error _ => service
      | .ok batch => batch.samples.foldl (accept now) service

end WatchService

/-- What the database gives the calls of one `_context`: the load is of one monitor, in a
session and a slot. -/
structure Answers where
  session : Except TickError (Option String)
  stint : Except TickError Nat
  load : String → String → Nat → Except TickError (Option Saved)
  closePrevious : Except TickError Unit

/-- The session and the stint that the database gives, if it gives both. -/
def Answers.seen (answers : Answers) : Except TickError (Option String × Nat) :=
  match answers.session with
  | .error error => .error error
  | .ok session =>
    match named session with
    | none => .ok (session, 0)
    | some _ => answers.stint.map fun stint => (session, stint)

/-- The arguments of a `close_previous`. -/
structure ClosePrevious where
  monitors : List String
  keep : List Nat
  reason : String

def stintStart (monitor : Monitor) : Bool := monitor.kind.config.baseline = .stintStart

/-- The checkpoint slot of a monitor: the stint, or 0 for a baseline of the session. -/
def slot (stint : Nat) (monitor : Monitor) : Nat := if stintStart monitor then stint else 0

def Kind.withScore (score : ℚ) : Kind → Kind
  | .envelope state => .envelope { state with score := score }
  | .drift state => .drift { state with score := score }
  | .ratio state => .ratio { state with score := score }
  | .counter state => .counter { state with score := score }
  | .wholeCar state => .wholeCar { state with score := score }

/-- A monitor whose baseline is a file; the finding of the file is not its own. -/
def Settings.restoreStored (settings : Settings) (monitor : Monitor) : Except TickError Monitor :=
  let path := settings.directory ++ "/" ++ monitor.kind.config.storedFile.getD ""
  match settings.readModel path with
  | .error error => .error (.python error)
  | .ok model =>
    match monitor.restore model with
    | .error error => .error (.python error)
    | .ok restored =>
      if restored.kind.frozen then .ok ⟨restored.kind.withScore 0, none⟩
      else .error (.python (.valueError (path ++ ": stored baseline is not frozen")))

/-- A monitor without a checkpoint. -/
def Settings.startFresh (settings : Settings) (session : Option String) (stint : Nat)
    (monitor : Monitor) : Except TickError Monitor :=
  match monitor.kind.config.baseline with
  | .stored => settings.restoreStored monitor
  | .sessionStart => .ok (monitor.sourcedFrom (named session) none)
  | .stintStart => .ok (monitor.sourcedFrom (named session) (some stint))
  | .unchanged => .ok monitor

/-- `_fresh_monitor` on the monitor that the engine has under the name. -/
def Settings.freshMonitor (settings : Settings) (answers : Answers) (session : Option String)
    (stint : Nat) (name : String) (monitor : Monitor) : Except TickError (Monitor × Option Saved) :=
  let saved : Except TickError (Option Saved) := match named session with
    | none => .ok none
    | some session => answers.load name session (slot stint monitor)
  match saved with
  | .error error => .error error
  | .ok (some saved) =>
    match monitor.restore saved.model with
    | .error error => .error (.python error)
    | .ok restored => .ok (restored, some saved)
  | .ok none => (settings.startFresh session stint monitor).map fun monitor => (monitor, none)

/-- The findings that the engine holds open. -/
def WatchEngine.kept (engine : WatchEngine) : List Nat :=
  engine.monitors.entries.filterMap fun entry => entry.2.finding.map Finding.findingId

def WatchEngine.replace (engine : WatchEngine) (name : String) (monitor : Monitor) : WatchEngine :=
  { engine with monitors := engine.monitors.set name monitor }

/-- The loop of `_context` over a new engine, with the checkpoints it found. -/
def Settings.freshMonitors (settings : Settings) (answers : Answers) (session : Option String)
    (stint : Nat) : WatchEngine → List (String × Monitor) →
      Except TickError (WatchEngine × List Saved)
  | engine, [] => .ok (engine, [])
  | engine, (name, monitor) :: rest =>
    match settings.freshMonitor answers session stint name monitor with
    | .error error => .error error
    | .ok (monitor, saved) =>
      (settings.freshMonitors answers session stint (engine.replace name monitor) rest).map
        fun (engine, others) => (engine, saved.toList ++ others)

/-- The loop over the monitors that a change of stint starts again. It works on the engine
in use, so that a failure leaves it half done. -/
def Settings.restart (settings : Settings) (answers : Answers) (session : Option String)
    (stint : Nat) : WatchEngine → List String → WatchEngine × Except TickError Unit
  | engine, [] => (engine, .ok ())
  | engine, name :: rest =>
    match engine.config.monitors.get? name with
    | none => (engine, .error (.python (.keyError name)))
    | some config =>
      match settings.freshMonitor answers session stint name (buildMonitor config) with
      | .error error => (engine.replace name (buildMonitor config), .error error)
      | .ok (monitor, _) =>
        settings.restart answers session stint (engine.replace name monitor) rest

namespace WatchService

variable (settings : Settings) (answers : Answers) (service : WatchService)

/-- A driver change. The result is the service, the `close_previous` it made, and how the
call ended. -/
def changeStint (session : Option String) (stint : Nat) :
    WatchService × Option ClosePrevious × Except TickError Unit :=
  let changed := (service.engine.monitors.entries.filter fun entry => stintStart entry.2).map Prod.fst
  let (engine, outcome) := settings.restart answers session stint service.engine changed
  let service := { service with engine := engine }
  match outcome with
  | .error error => (service, none, .error error)
  | .ok () =>
    if changed = [] then ({ service with stint := stint }, none, .ok ())
    else
      let call := ⟨changed, engine.kept, "stint_changed"⟩
      match answers.closePrevious with
      | .error error => (service, some call, .error error)
      | .ok () => ({ service with stint := stint }, some call, .ok ())

/-- Another session, or the first tick of the process. -/
def changeSession (session : Option String) (stint : Nat) :
    WatchService × Option ClosePrevious × Except TickError Unit :=
  let engine := WatchEngine.new settings.config
  match settings.freshMonitors answers session stint engine engine.monitors.entries with
  | .error error => (service, none, .error error)
  | .ok (engine, models) =>
    let call := ⟨engine.monitors.keys, engine.kept, "session_changed"⟩
    match answers.closePrevious with
    | .error error => (service, some call, .error error)
    | .ok () =>
      let engine := { engine with lastTick := (models.filterMap Saved.lastTick).max? }
      ({ service with engine := engine, session := session, stint := stint, initialized := true },
        some call, .ok ())

/-- `_context`. -/
def context : WatchService × Option ClosePrevious × Except TickError Unit :=
  match answers.seen with
  | .error error => (service, none, .error error)
  | .ok (session, stint) =>
    if service.initialized ∧ session = service.session then
      if stint = service.stint then (service, none, .ok ())
      else service.changeStint settings answers session stint
    else service.changeSession settings answers session stint

end WatchService

/-- The arguments of a `write_tick`. -/
structure WriteTick where
  session : Option String
  rows : Dict String Row
  models : Dict String Saved
  stints : Dict String Nat

/-- `except (ValueError, TypeError)`. -/
def caught : PyError → Bool
  | .configError _ => true
  | .valueError _ => true
  | .typeError _ => true
  | .keyError _ => false
  | .overflowError _ => false
  | .recursionError _ => false

namespace WatchService

variable (settings : Settings)

/-- One sample of the second; one that cannot be read is counted, and what is no
`ValueError` or `TypeError` ends the tick. -/
def observe (state : Nat × WatchEngine × Health) (sample : Observation) :
    (Nat × WatchEngine × Health) × Option PyError :=
  let (ids, engine, health) := state
  match engine.observe settings.numerics settings.text ids sample with
  | .ok (ids, engine) => ((ids, engine, health), none)
  | .error error =>
    if caught error then
      ((ids, engine, { health with malformed := health.malformed + 1 }), none)
    else (state, some error)

/-- The samples that are due, as far as they get. -/
def drain (ids : Nat) (service : WatchService) (time : Int) :
    Nat × WatchService × Option PyError :=
  let (pending, (ids, engine, health), error) :=
    service.pending.handOut (observe settings) (time : ℚ) (ids, service.engine, service.health)
  (ids, { service with pending := pending, engine := engine, health := health }, error)

/-- The rows of a tick and the transaction they go into, if there are any. -/
def evaluate (ids : Nat) (service : WatchService) (time : Int) :
    Nat × WatchService × Except PyError (Option WriteTick) :=
  let (engine, outcome) := service.engine.tick settings.numerics ids time service.session.isSome
  let service := { service with engine := engine }
  match outcome with
  | .error error => (ids + engine.monitors.entries.length, service, .error error)
  | .ok rows =>
    if rows.entries = [] then (ids, service, .ok none)
    else
      (ids + engine.monitors.entries.length, service,
        .ok (some {
          session := service.session
          rows := rows
          models := engine.monitors.mapValues fun monitor => ⟨monitor.snapshot, some time⟩
          stints := engine.monitors.mapValues (slot service.stint) }))

/-- The end of a tick whose transaction was written. -/
def written (service : WatchService) (time : Int) (rows : Dict String Row) : WatchService :=
  { service with
    health := { service.health with
      databaseOk := true
      lastTick := some time
      status := rows.entries.map fun entry => (entry.1, entry.2.baselineStatus) } }

/-- What the loop does with a tick that raised. -/
def failed (service : WatchService) : WatchService :=
  { service with health := { service.health with databaseOk := false } }

end WatchService

end OpenLaps.Watch

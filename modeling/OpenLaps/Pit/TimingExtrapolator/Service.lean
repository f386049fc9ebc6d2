import OpenLaps.Pit.RegistryCache
import OpenLaps.Pit.TimingExtrapolator.Engine

/- The messages of the timing service (`pit/timing_extrapolator/service.py`), and which
`lap.event` texts it rejects without a trace. Log texts are left out. -/
namespace OpenLaps.PitClocks
open Ingest

structure HealthState where
  mqttDrops : Nat := 0
  registries : Nat := 0
  unknownSeqBatches : Nat := 0
  badVersionBatches : Nat := 0
  malformedPayloads : Nat := 0
  malformedEvents : Nat := 0

abbrev Item := String × ClockValue × ℚ

structure TimingService where
  engine : TimingExtrapolator
  cache : RegistryCache := .empty
  outbox : List Item := []
  health : HealthState := {}

def inputChannels : List String :=
  ["lap.event", "lap.best_time", "lap.sector", "sys.host.clock_offset_s",
    "sys.host.clock_stratum", "sys.host.clock_source"]

def outputChannels : List String := [lapElapsed, sectorElapsed]

def outboxSize : Nat := 2

/-- A message by its header, and what its payload parses to. -/
inductive Message where
  | registry (payload : Option ChannelRegistry)
  | batch (payload : Option SampleBatch)

/-- `except (json.JSONDecodeError, KeyError, TypeError, ValueError, OverflowError)`. -/
def caught : Raised → Bool
  | .exception _ => true
  | .attributeError _ => false
  | .recursionError _ => false

namespace TimingService

variable (runtime : Runtime)

/-- `_queue_publish`. -/
def queuePublish (service : TimingService) (item : Item) : TimingService × Except Raised Unit :=
  if item.1 ∉ outputChannels then
    (service, .error (.exception (.valueError ("refusing non-pit output " ++ item.1))))
  else if outboxSize ≤ service.outbox.length then
    let byChannel := (Dict.ofRows Prod.fst id service.outbox).set item.1 item
    ({ service with
        outbox := (byChannel.entries.map Prod.snd).take outboxSize
        health := { service.health with mqttDrops := service.health.mqttDrops + 1 } }, .ok ())
  else ({ service with outbox := service.outbox ++ [item] }, .ok ())

/-- `_emit`. -/
def emit (service : TimingService) (now : ℚ) : Values → TimingService × Except Raised Unit
  | [] => (service, .ok ())
  | (channel, value) :: rest =>
    match service.queuePublish (channel, value, now) with
    | (service, .error raised) => (service, .error raised)
    | (service, .ok ()) => service.emit now rest

/-- `_publish_tick`. -/
def publishTick (service : TimingService) (now : ℚ) : TimingService × Except Raised Unit :=
  service.emit now (service.engine.tick runtime (.finite now))

/-- One turn of the loop over the decoded samples. -/
def handleSample (service : TimingService) (sample : DecodedSample) :
    TimingService × Except Raised Unit :=
  if sample.channel.name ∉ inputChannels then (service, .ok ())
  else
    match service.engine.observe runtime sample.channel.name sample.value with
    | (engine, .error raised) =>
      if caught raised then
        ({ service with
            engine := engine
            health := { service.health with
              malformedEvents := service.health.malformedEvents + 1 } }, .ok ())
      else ({ service with engine := engine }, .error raised)
    | (engine, .ok values) =>
      ({ service with engine := engine } : TimingService).emit (sample.captureUnixMs / 1000) values

def handleSamples (service : TimingService) : List DecodedSample →
    TimingService × Except Raised Unit
  | [] => (service, .ok ())
  | sample :: rest =>
    match service.handleSample runtime sample with
    | (service, .error raised) => (service, .error raised)
    | (service, .ok ()) => service.handleSamples rest

def malformedPayload (service : TimingService) : TimingService :=
  { service with
      health := { service.health with malformedPayloads := service.health.malformedPayloads + 1 } }

/-- The service with the batch decoded, and its samples. -/
def decodeBatch (service : TimingService) (batch : SampleBatch) :
    TimingService × List DecodedSample :=
  let decoded := service.cache.decodeBatch batch
  ({ service with
      cache := decoded.1
      health := { service.health with
        unknownSeqBatches := decoded.1.unknownSeqBatches
        badVersionBatches := decoded.1.badVersionBatches } },
    match decoded.2 with
    | .ok decoded => decoded.samples
    | .error _ => [])

/-- `_handle_message`. -/
def handleMessage (service : TimingService) : Message → TimingService × Except Raised Unit
  | .registry none => (service.malformedPayload, .ok ())
  | .registry (some registry) =>
    ({ service with
        cache := service.cache.addRegistry registry
        health := { service.health with registries := service.health.registries + 1 } }, .ok ())
  | .batch none => (service.malformedPayload, .ok ())
  | .batch (some batch) =>
    let (service, samples) := service.decodeBatch batch
    service.handleSamples runtime samples

/-- What the tasks of the service do: a message, a tick, or an item that leaves for MQTT. -/
inductive Step where
  | message (message : Message)
  | tick (now : ℚ)
  | sent

def step (service : TimingService) : Step → TimingService × Except Raised Unit
  | .message message => service.handleMessage runtime message
  | .tick now => service.publishTick runtime now
  | .sent => ({ service with outbox := service.outbox.tail }, .ok ())

/-- A run ends with the first exception. -/
def run (service : TimingService) : List Step → TimingService × Except Raised Unit
  | [] => (service, .ok ())
  | first :: rest =>
    match service.step runtime first with
    | (service, .error raised) => (service, .error raised)
    | (service, .ok ()) => service.run rest

end TimingService

/-- A decoded sample, and the service it is handed to. -/
abbrev Visit := TimingService × DecodedSample

def sampleVisits (runtime : Runtime) (service : TimingService) : List DecodedSample → List Visit
  | [] => []
  | sample :: rest =>
    (service, sample) ::
      match service.handleSample runtime sample with
      | (_, .error _) => []
      | (service, .ok ()) => sampleVisits runtime service rest

def messageVisits (runtime : Runtime) (service : TimingService) : Message → List Visit
  | .batch (some batch) =>
    let (service, samples) := service.decodeBatch batch
    sampleVisits runtime service samples
  | _ => []

def stepVisits (runtime : Runtime) (service : TimingService) : TimingService.Step → List Visit
  | .message message => messageVisits runtime service message
  | _ => []

/-- The samples of a run. -/
def visits (runtime : Runtime) (service : TimingService) : List TimingService.Step → List Visit
  | [] => []
  | first :: rest =>
    stepVisits runtime service first ++
    match service.step runtime first with
    | (_, .error _) => []
    | (service, .ok ()) => visits runtime service rest

/-- A sample that was counted as malformed has left the clocks alone. -/
def KeepsClocks (runtime : Runtime) (visit : Visit) : Prop :=
  let after := (visit.1.handleSample runtime visit.2).1
  after.health.malformedEvents ≠ visit.1.health.malformedEvents →
    after.engine.lapStartedAt = visit.1.engine.lapStartedAt ∧
    after.engine.sectorStartedAt = visit.1.engine.sectorStartedAt ∧
    after.engine.bestLapS = visit.1.engine.bestLapS ∧
    ∀ now, after.engine.tick runtime now = visit.1.engine.tick runtime now

/-- Nothing is raised, and malformed samples leave no trace. -/
def RejectsCleanly (runtime : Runtime) (service : TimingService)
    (steps : List TimingService.Step) : Prop :=
  (service.run runtime steps).2 = .ok () ∧ ∀ visit ∈ visits runtime service steps,
    KeepsClocks runtime visit

/-- What a `lap.event` text must be for that: one that `json.loads` refuses or reads as an
object, and where the crossing would be stored, one whose remaining field is a number. -/
def Usable (runtime : Runtime) (engine : TimingExtrapolator) (text : String) : Prop :=
  runtime.text.deep text = false ∧ ∀ json, runtime.text.loads text = some json →
    ∃ event, json = .object event ∧ ∀ crossedAt, runtime.number event "time" = .ok crossedAt →
      (isType event "sector_completed" = true → ∀ split,
        runtime.number event "split_time" = .ok split →
          (∃ sector, runtime.sector event = .ok sector) ∨
            engine.sectorStartedAt = some crossedAt) ∧
      (isType event "lap_completed" = true →
        (∃ lapTime, runtime.number event "lap_time" = .ok lapTime) ∨
          engine.lapStartedAt = some crossedAt ∧ engine.sectorStartedAt = some crossedAt)

/-- The sample is of another channel, or its text is usable. -/
def UsableVisit (runtime : Runtime) (visit : Visit) : Prop :=
  visit.2.channel.name = "lap.event" →
    Usable runtime visit.1.engine (runtime.text.toStr (jsonOf visit.2.value))

end OpenLaps.PitClocks

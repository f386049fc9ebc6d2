import OpenLaps.Core.Batcher
import OpenLaps.Core.Rbe
import OpenLaps.Lib.Windows
import Mathlib.Data.List.Sort

/- The sample pipeline: mapper, report-by-exception filter and batcher. The app
taps re-enter `ingest` with derived samples before the tapped sample goes on, so
a run with apps is a longer sequence of the calls modelled here. What `ingest`
and `flush` only log is left out. -/
namespace OpenLaps.Pipeline

/-- One staged entry: source class, channel id and sample. -/
abbrev Staged := String × (Nat × Sample)

def stamp (entry : Staged) : Int := entry.2.2.tMonoNs

/-- A pipeline over a runtime catalog, whose mapped ids all have a policy;
`Batcher` insists on the tick bounds. -/
structure Settings where
  catalog : RuntimeCatalog
  tickMs : Nat
  wallClock : Int → ℚ
  f32 : PyFloat → PyFloat
  bounds : 10 ≤ tickMs ∧ tickMs ≤ 50
  resolves : ∀ sourceRef entry, catalog.sourceMap.get? sourceRef = some entry →
    catalog.policiesById.contains entry.1 = true

theorem defaultTick_bounds : 10 ≤ 20 ∧ 20 ≤ 50 := by decide

/-- `wall_clock(t) = c + t / 10^6`. -/
def wallClockAt (c : ℚ) (tMonoNs : Int) : ℚ := c + tMonoNs / 1000000

structure State where
  rbe : Rbe.RbeFilter
  staged : List Staged
  pending : Dict String (List (Nat × Sample))
  unmappedRefs : Nat
  encodeFailures : Nat

def init : State := ⟨.fresh, [], .empty, 0, 0⟩

def ingest (settings : Settings) (state : State) (sourceClass : String) (sample : Sample) : State :=
  match settings.catalog.sourceMap.get? sample.sourceRef with
  | none => { state with unmappedRefs := state.unmappedRefs + 1 }
  | some (channelId, policy) =>
      match Rbe.accept state.rbe channelId sample policy.rbe with
      -- A `TypeError` is noted; an `OverflowError` leaves `ingest` with the state as it was.
      | .error _ => state
      | .ok (rbe, true) =>
          { state with rbe := rbe, staged := state.staged ++ [(sourceClass, channelId, sample)] }
      | .ok (rbe, false) => { state with rbe := rbe }

/-- `staged.sort(key=…)`, which is stable. -/
def sortStaged (staged : List Staged) : List Staged :=
  staged.insertionSort fun first second => stamp first ≤ stamp second

/-- Greedy tick windows over the sorted samples. -/
def windows (settings : Settings) (staged : List Staged) : List (Windows.Window Staged) :=
  Windows.split stamp (Batcher.tickNs settings.tickMs) (sortStaged staged)

/-- `round(wall_clock(epoch_mono_ns))` of a window. -/
def epochUnixMs (settings : Settings) (window : Windows.Window Staged) : Int :=
  Rounding.halfEven (settings.wallClock (window.anchor stamp))

def msgId (sourceClass : String) (epochUnixMs : Int) : String :=
  sourceClass ++ ":" ++ toString epochUnixMs

def tickBatch (settings : Settings) (window : Windows.Window Staged)
    (entry : String × SampleBatch) : TickBatch SampleBatch :=
  ⟨entry.1, entry.2, epochUnixMs settings window, window.anchor stamp,
    msgId entry.1 (epochUnixMs settings window)⟩

/-- `except (TypeError, ValueError)`. -/
def caught : PyError → Bool
  | .configError _ => true
  | .valueError _ => true
  | .typeError _ => true
  | .keyError _ => false
  | .overflowError _ => false
  | .recursionError _ => false

/-- One iteration of the outer loop of `flush`. -/
def flushWindow (settings : Settings) (state : State) (window : Windows.Window Staged) :
    State × Except PyError (List (TickBatch SampleBatch)) :=
  match Batcher.addAll settings.catalog.policiesById state.pending window.items with
  | (pending, some error) => ({ state with pending := pending }, .error error)
  | (pending, none) =>
      let drained := { state with pending := .empty }
      match Batcher.tick settings.f32 settings.catalog.registry.registrySeq
          settings.catalog.policiesById settings.tickMs (epochUnixMs settings window)
          (window.anchor stamp) pending with
      | .ok emitted => (drained, .ok (emitted.map (tickBatch settings window)))
      | .error error =>
          if caught error then ({ drained with encodeFailures := state.encodeFailures + 1 }, .ok [])
          else (drained, .error error)

def flushWindows (settings : Settings) : State → List (Windows.Window Staged) →
    State × Except PyError (List (TickBatch SampleBatch))
  | state, [] => (state, .ok [])
  | state, window :: rest =>
      match flushWindow settings state window with
      | (next, .error error) => (next, .error error)
      | (next, .ok batches) =>
          match flushWindows settings next rest with
          | (final, .error error) => (final, .error error)
          | (final, .ok later) => (final, .ok (batches ++ later))

/-- `Pipeline.flush`. -/
def flush (settings : Settings) (state : State) :
    State × Except PyError (List (TickBatch SampleBatch)) :=
  flushWindows settings { state with staged := [] } (windows settings state.staged)

end OpenLaps.Pipeline

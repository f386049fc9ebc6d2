import OpenLaps.Collectors.Nmea

/- How the serial collector takes its lines from the port (`collectors/serial/transport.py`):
`readline` also returns what has come when the line pauses, and the collector decodes that as
a line of its own. -/
namespace OpenLaps.Nmea
open Strings

def maxSentenceBytes : Nat := 1024

/-- The counters of the read loop. -/
structure SerialTransportStats where
  lines : Nat := 0
  samples : Nat := 0
  oversizedLines : Nat := 0
  deriving DecidableEq, Repr

/-- The collector, with the samples that it has emitted. -/
structure SerialCollector where
  decoder : NmeaDecoder
  stats : SerialTransportStats := {}
  emitted : List Sample := []

namespace SerialCollector

variable (runtime : Runtime) (wallClock : Int → ℚ) (collector : SerialCollector)

/-- `handle_line`, and how many values it emitted. -/
def handleLine (line : Bytes) (tMonoNs : Int) : Except PyError (SerialCollector × Nat) :=
  let decoded := collector.decoder.decode runtime (.bytes line)
  let tWallMs := wallClock tMonoNs
  decoded.2.map fun values =>
    ({ decoder := decoded.1,
       stats := { collector.stats with
         lines := collector.stats.lines + 1, samples := collector.stats.samples + values.length },
       emitted := collector.emitted ++
         values.map fun (sourceRef, value) => ⟨sourceRef, tMonoNs, tWallMs, value⟩ },
      values.length)

/-- A line without its end. -/
def oversized (line : Bytes) : Prop :=
  maxSentenceBytes < line.length ∧ ¬(line.getLast? = some 10 ∨ line.getLast? = some 13)

instance (line : Bytes) : Decidable (oversized line) := inferInstanceAs (Decidable (_ ∧ _))

/-- What `_read_until_error` does with a result of `port.readline`. -/
def readLine (line : Bytes) (tMonoNs : Int) : Except PyError SerialCollector :=
  if line = [] then .ok collector
  else if oversized line then
    .ok { collector with
      stats := { collector.stats with oversizedLines := collector.stats.oversizedLines + 1 } }
  else (collector.handleLine runtime wallClock line tMonoNs).map Prod.fst

/-- The source refs and values emitted so far. -/
def told : Values := collector.emitted.map fun sample => (sample.sourceRef, sample.value)

end SerialCollector

/-- What comes from the receiver: a byte, or a pause longer than the read timeout. -/
inductive Arrival where
  | byte (value : UInt8) (tMonoNs : Int)
  | pause (tMonoNs : Int)
  deriving DecidableEq, Repr

/-- A call of `port.readline` in progress: `pending` has come since it began. `pieces` are the
results that hold the beginning of the current line, and `lines` the lines that the receiver
has ended; neither is ever read. -/
structure Reading where
  collector : SerialCollector
  pending : Bytes := []
  pieces : List Bytes := []
  lines : List Bytes := []

namespace Reading

variable (runtime : Runtime) (wallClock : Int → ℚ)

def start (decoder : NmeaDecoder) : Reading := { collector := { decoder := decoder } }

/-- `readline` returns at a newline, when it holds as many bytes as it may, and at a pause. -/
def step (reading : Reading) : Arrival → Option Reading
  | .byte value tMonoNs =>
      let chunk := reading.pending ++ [value]
      let read := reading.collector.readLine runtime wallClock chunk tMonoNs
      if value = 10 then
        read.toOption.map fun collector =>
          { collector := collector, lines := reading.lines ++ [(reading.pieces ++ [chunk]).flatten] }
      else if chunk.length = maxSentenceBytes + 1 then
        read.toOption.map fun collector =>
          { reading with collector := collector, pending := [], pieces := reading.pieces ++ [chunk] }
      else some { reading with pending := chunk }
  | .pause tMonoNs =>
      (reading.collector.readLine runtime wallClock reading.pending tMonoNs).toOption.map
        fun collector =>
          { reading with
            collector := collector, pending := [], pieces := reading.pieces ++ [reading.pending] }

end Reading

end OpenLaps.Nmea

import Mathlib.Algebra.Order.Ring.Rat
import Mathlib.Algebra.Ring.Int.Defs

/- Samples as the collectors stamp them, and the messages that cross the wire
(`proto/telemetry.proto`). A serialized payload is represented by the message
it encodes: protobuf serialisation is lossless on the fields kept here. -/
namespace OpenLaps

/-- A Python float under exact arithmetic: a rational, or one of the
non-finite values. Rounding to 53 bits is not modelled. -/
inductive PyFloat where
  | finite (value : ℚ)
  | posInf
  | negInf
  | nan
  deriving DecidableEq, Repr

/-- `SampleValue = float | int | bool | str`. -/
inductive SampleValue where
  | float (value : PyFloat)
  | int (value : Int)
  | bool (value : Bool)
  | str (value : String)
  deriving DecidableEq, Repr

/-- A source-native telemetry value stamped at capture time. -/
structure Sample where
  sourceRef : String
  tMonoNs : Int
  tWallMs : ℚ
  value : SampleValue
  deriving DecidableEq, Repr

inductive ValueType where
  | unspecified
  | double
  | int64
  | bool
  | string
  | float
  | uint
  deriving DecidableEq, Repr

/-- One channel definition of a registry. -/
structure Channel where
  id : Nat
  name : String
  sourceRef : String
  units : String
  type : ValueType
  scale : ℚ
  offset : ℚ
  deriving DecidableEq, Repr

structure ChannelRegistry where
  registrySeq : Nat
  vehicleId : String
  createdUnixMs : Nat
  channels : List Channel
  deriving DecidableEq, Repr

/-- The `oneof value` arms of a wire sample. -/
inductive WireValue where
  | d (value : PyFloat)
  | i (value : Int)
  | b (value : Bool)
  | s (value : String)
  | f (value : PyFloat)
  | u (value : Nat)
  deriving DecidableEq, Repr

/-- One wire sample; `value` is `none` when no arm of the oneof is set. -/
structure WireSample where
  channelId : Nat
  tOffsetUs : Nat
  value : Option WireValue
  deriving DecidableEq, Repr

structure SampleBatch where
  registrySeq : Nat
  batchEpochUnixMs : Nat
  batchEpochMonoNs : Nat
  samples : List WireSample
  formatVersion : Nat
  deriving DecidableEq, Repr

/-- One batch ready for the publisher, over any payload representation. -/
structure TickBatch (π : Type) where
  sourceClass : String
  payload : π
  epochUnixMs : Int
  epochMonoNs : Int
  msgId : String
  deriving DecidableEq, Repr

end OpenLaps

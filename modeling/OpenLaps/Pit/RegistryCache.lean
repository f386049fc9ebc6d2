import OpenLaps.Core.Numbers

/- The decode half every pit consumer shares. What the cache remembers only to
log a rejection once is left out. -/
namespace OpenLaps

/-- Why a batch was not decoded. -/
inductive Reject where
  | unknownRegistrySeq
  | badFormatVersion
  deriving DecidableEq, Repr

/-- One sample resolved to its channel and physical value. -/
structure DecodedSample where
  captureUnixMs : ℚ
  channel : Channel
  value : Option SampleValue
  deriving DecidableEq, Repr

/-- One batch resolved against its own registry generation. -/
structure DecodedBatch where
  registrySeq : Nat
  epochUnixMs : Nat
  epochMonoNs : Nat
  samples : List DecodedSample
  deriving DecidableEq, Repr

/-- Every generation seen on the stream, keyed by sequence. -/
structure RegistryCache where
  registries : Dict Nat ChannelRegistry
  channels : Dict Nat (Dict Nat Channel)
  unknownSeqBatches : Nat
  badVersionBatches : Nat

namespace RegistryCache

def empty : RegistryCache := ⟨.empty, .empty, 0, 0⟩

def channelsById (registry : ChannelRegistry) : Dict Nat Channel :=
  Dict.ofRows Channel.id id registry.channels

def addRegistry (cache : RegistryCache) (registry : ChannelRegistry) : RegistryCache :=
  { cache with
    registries := cache.registries.set registry.registrySeq registry
    channels := cache.channels.set registry.registrySeq (channelsById registry) }

def known (cache : RegistryCache) (registrySeq : Nat) : Bool := cache.channels.contains registrySeq

def supported (formatVersion : Nat) : Bool := formatVersion = 0 || formatVersion = 1

/-- The Python value of the arm that is set. -/
def wireValue : WireValue → SampleValue
  | .d value => .float value
  | .i value => .int value
  | .b value => .bool value
  | .s value => .str value
  | .f value => .float value
  | .u value => .int value

/-- `value * scale + offset` in floating point, an integer being converted first. -/
def physical (channel : Channel) (number : PyFloat) : PyFloat :=
  ((number.rounded.mul (.finite channel.scale)).rounded.add (.finite channel.offset)).rounded

/-- The fixed-point convention applies to numbers of scaled channels. -/
def decodeValue (channel : Channel) (value : SampleValue) : SampleValue :=
  match value.number? with
  | none => value
  | some number => if channel.scale ≠ 0 then .float (physical channel number) else value

/-- `batch.batch_epoch_unix_ms + sample.t_offset_us / 1000.0`. -/
def captureUnixMs (epochUnixMs tOffsetUs : Nat) : ℚ :=
  Binary64.round (Binary64.round epochUnixMs + Binary64.round ((tOffsetUs : ℚ) / 1000))

def decodeSample (channels : Dict Nat Channel) (epochUnixMs : Nat) (sample : WireSample) :
    Option DecodedSample :=
  (channels.get? sample.channelId).map fun channel =>
    ⟨captureUnixMs epochUnixMs sample.tOffsetUs, channel,
      sample.value.map fun wire => decodeValue channel (wireValue wire)⟩

def decodeBatch (cache : RegistryCache) (batch : SampleBatch) :
    RegistryCache × Except Reject DecodedBatch :=
  if ¬ supported batch.formatVersion then
    ({ cache with badVersionBatches := cache.badVersionBatches + 1 }, .error .badFormatVersion)
  else
    match cache.channels.get? batch.registrySeq with
    | none =>
      ({ cache with unknownSeqBatches := cache.unknownSeqBatches + 1 },
        .error .unknownRegistrySeq)
    | some channels =>
      (cache, .ok ⟨batch.registrySeq, batch.batchEpochUnixMs, batch.batchEpochMonoNs,
        batch.samples.filterMap (decodeSample channels batch.batchEpochUnixMs)⟩)

end RegistryCache

end OpenLaps

import OpenLaps.Core.Catalog
import OpenLaps.Core.Numbers
import OpenLaps.Lib.Attempt

/- Batching of mapped samples. `f32` is the rounding a `float` wire field applies;
what protobuf rejects on assignment is a `ValueError`. -/
namespace OpenLaps.Batcher

def outOfRange (value : Int) : PyError := .valueError ("Value out of range: " ++ toString value)

def requireNumber (value : SampleValue) (policy : ChannelPolicy) : Except PyError PyFloat :=
  match value.number? with
  | some number => .ok number
  | none => .error (.typeError (policy.name ++ " requires a numeric value"))

/-- The number as a float; an integer may be too large for one. -/
def requireFloat (value : SampleValue) (policy : ChannelPolicy) : Except PyError PyFloat :=
  match value with
  | .int exactly => floatOfInt exactly
  | _ => requireNumber value policy

/-- `(value - policy.offset) / policy.scale`. -/
def unscale (policy : ChannelPolicy) (number : PyFloat) : PyFloat :=
  ((number.sub (.finite policy.offset)).rounded.div policy.scale).rounded

/-- The integer put on the wire for an integer channel. -/
def wireInteger (value : SampleValue) (policy : ChannelPolicy) : Except PyError Int :=
  if policy.scale ≠ 0 then
    match requireFloat value policy with
    | .error error => .error error
    | .ok number => (unscale policy number).round
  else
    match requireNumber value policy with
    | .error error => .error error
    | .ok number =>
      match number with
      | .finite exactly =>
        if exactly.den = 1 then .ok exactly.num
        else .error (.typeError ("unscaled " ++ policy.name ++ " requires an integer value"))
      | _ => .error (.typeError ("unscaled " ++ policy.name ++ " requires an integer value"))

def wireBool (value : SampleValue) (policy : ChannelPolicy) : Except PyError WireValue :=
  match value with
  | .bool flag => .ok (.b flag)
  | _ =>
    match value.number? with
    | some (.finite exactly) =>
      if exactly = 0 ∨ exactly = 1 then .ok (.b (decide (exactly ≠ 0)))
      else .error (.typeError (policy.name ++ " requires a bool value"))
    | _ => .error (.typeError (policy.name ++ " requires a bool value"))

section

variable (f32 : PyFloat → PyFloat)

/-- `_encode_value`. -/
def encodeValue (value : SampleValue) (policy : ChannelPolicy) : Except PyError WireValue :=
  match policy.valueType with
  | .double =>
    match requireFloat value policy with
    | .error error => .error error
    | .ok number => .ok (.d number)
  | .float =>
    match requireFloat value policy with
    | .error error => .error error
    | .ok number => .ok (.f (f32 number))
  | .int64 =>
    match wireInteger value policy with
    | .error error => .error error
    | .ok wire => if -2 ^ 63 ≤ wire ∧ wire < 2 ^ 63 then .ok (.i wire) else .error (outOfRange wire)
  | .uint =>
    match wireInteger value policy with
    | .error error => .error error
    | .ok wire =>
      if wire < 0 then .error (.valueError (policy.name ++ " encoded to a negative UINT value"))
      else if wire < 2 ^ 64 then .ok (.u wire.toNat)
      else .error (outOfRange wire)
  | .bool => wireBool value policy
  | .string =>
    match value with
    | .str text => .ok (.s text)
    | _ => .error (.typeError (policy.name ++ " requires a string value"))
  | .unspecified => .error (.valueError "unsupported value type 0")

variable (registrySeq : Nat) (policiesById : Dict Nat ChannelPolicy) (tickMs : Nat)

/-- Nanoseconds in one tick. -/
def tickNs : Int := tickMs * 1000000

/-- One iteration of the inner loop of `tick`. -/
def encodeSample (batchEpochMonoNs : Int) (entry : Nat × Sample) : Except PyError WireSample :=
  let offsetNs := entry.2.tMonoNs - batchEpochMonoNs
  let offsetUs := offsetNs / 1000
  if 0 ≤ offsetNs ∧ offsetNs < tickNs tickMs then
    match policiesById.get? entry.1 with
    | none => .error (.keyError (toString entry.1))
    | some policy =>
      match encodeValue f32 entry.2.value policy with
      | .error error => .error error
      | .ok wire => .ok ⟨entry.1, offsetUs.toNat, some wire⟩
  else
    .error (.valueError ("sample timestamp offset " ++ toString offsetUs ++
      " us falls outside tick window [0, " ++ toString (tickMs * 1000) ++ ") us"))

/-- The batch of one source class; both epochs are `fixed64`. -/
def encodeClass (batchEpochUnixMs batchEpochMonoNs : Int) (entry : String × List (Nat × Sample)) :
    Except PyError (String × SampleBatch) :=
  if ¬ (0 ≤ batchEpochUnixMs ∧ batchEpochUnixMs < 2 ^ 64) then .error (outOfRange batchEpochUnixMs)
  else if ¬ (0 ≤ batchEpochMonoNs ∧ batchEpochMonoNs < 2 ^ 64) then
    .error (outOfRange batchEpochMonoNs)
  else
    match Attempt.all (encodeSample f32 policiesById tickMs batchEpochMonoNs) entry.2 with
    | .error error => .error error
    | .ok samples => .ok (entry.1,
        ⟨registrySeq, batchEpochUnixMs.toNat, batchEpochMonoNs.toNat, samples, 1⟩)

/-- `Batcher.tick`: all batches of the pending samples, or nothing. -/
def tick (batchEpochUnixMs batchEpochMonoNs : Int) (pending : Dict String (List (Nat × Sample))) :
    Except PyError (List (String × SampleBatch)) :=
  Attempt.all (encodeClass f32 registrySeq policiesById tickMs batchEpochUnixMs batchEpochMonoNs)
    pending.entries

/-- `Batcher.add` for the samples of one window: the pending dictionary, and the
`KeyError` of the first unknown channel. -/
def addAll : Dict String (List (Nat × Sample)) → List (String × (Nat × Sample)) →
    Dict String (List (Nat × Sample)) × Option PyError
  | pending, [] => (pending, none)
  | pending, item :: rest =>
    if policiesById.contains item.2.1 then addAll (pending.push item.1 item.2) rest
    else (pending, some (.keyError ("unknown channel_id " ++ toString item.2.1)))

end

end OpenLaps.Batcher

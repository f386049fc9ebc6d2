import OpenLaps.Core.Wire
import OpenLaps.Lib.Dict

/- Validated contents of `catalog.yaml`. The checks of the config models are
fields, so only an accepted configuration can be built. The `apps` section is
not read by the code modelled here. -/
namespace OpenLaps

/-- Exceptions the modelled functions raise; `ConfigError` is a `ValueError`. -/
inductive PyError where
  | configError (message : String)
  | valueError (message : String)
  | typeError (message : String)
  | keyError (message : String)
  | overflowError (message : String)
  | recursionError (message : String)
  deriving DecidableEq, Repr

/-- `0 <= value`, false for NaN. -/
def PyFloat.nonneg : PyFloat → Bool
  | .finite value => 0 ≤ value
  | .posInf => true
  | .negInf => false
  | .nan => false

/-- Report-by-exception policy, with its intervals already parsed to nanoseconds. -/
structure RbeConfig where
  deadband : Option PyFloat
  minIntervalNs : Option Int
  maxIntervalNs : Option Int
  deadbandNonneg : ∀ band, deadband = some band → band.nonneg = true
  intervalsOrdered : ∀ low high, minIntervalNs = some low → maxIntervalNs = some high → low ≤ high

inductive EncodingType where
  | double
  | float
  | uint
  | int
  deriving DecidableEq, Repr

/-- Value arm and optional fixed-point encoding of a channel. -/
structure EncodeConfig where
  type : EncodingType
  scale : ℚ
  offset : ℚ
  unscaledOffset : scale = 0 → offset = 0
  integerOnly : type ≠ .uint → type ≠ .int → scale = 0 ∧ offset = 0
  scaleNonneg : 0 ≤ scale

inductive ChannelType where
  | double
  | int
  | bool
  | string
  deriving DecidableEq, Repr

/-- Mapping and policy of one canonical channel. -/
structure ChannelConfig where
  sourceRef : String
  units : String
  type : ChannelType
  rbe : Option RbeConfig
  encode : Option EncodeConfig
  sourceGiven : sourceRef ≠ ""
  encodeNumeric : type = .bool ∨ type = .string → encode = none

theorem unencoded (type : ChannelType) :
    type = .bool ∨ type = .string → (none : Option EncodeConfig) = none := fun _ => rfl

/-- A fixed lead followed by one or more of the allowed characters. -/
def namedUnder (lead : String) (allowed : Char → Bool) (name : String) : Bool :=
  let rest := name.toList.drop lead.length
  name.toList.take lead.length == lead.toList && !rest.isEmpty && rest.all allowed

def channelChar (char : Char) : Bool := char.isLower || char.isDigit || char == '_'

/-- `_CHANNEL_RE`. -/
def channelName (name : String) : Bool :=
  namedUnder "car." channelChar name || namedUnder "position." channelChar name ||
    namedUnder "sys." (fun char => channelChar char || char == '.') name

/-- The channels of `catalog.yaml`, in file order. -/
structure CatalogConfig where
  channels : Dict String ChannelConfig
  nonempty : channels.entries ≠ []
  named : ∀ name ∈ channels.keys, channelName name = true

end OpenLaps

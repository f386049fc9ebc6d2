import OpenLaps.Core.Config
import OpenLaps.Lib.Readable

namespace OpenLaps

def derivedIdStart : Nat := 2 ^ 31

/-- Pipeline policy attached to a mapped channel. -/
structure ChannelPolicy where
  name : String
  valueType : ValueType
  rbe : Option RbeConfig
  scale : ℚ
  offset : ℚ

/-- A channel emitted inside the agent rather than by a collector. -/
structure DerivedChannel where
  name : String
  valueType : ValueType
  units : String
  deriving DecidableEq, Repr

def defaultDerivedChannels : List DerivedChannel :=
  [⟨"lap.event", .string, ""⟩, ⟨"lap.number", .int64, ""⟩, ⟨"lap.sector", .int64, ""⟩,
    ⟨"lap.last_time", .double, "s"⟩, ⟨"lap.best_time", .double, "s"⟩,
    ⟨"timing.delta_best", .double, "s"⟩, ⟨"timing.predicted_lap", .double, "s"⟩,
    ⟨"timing.distance", .double, "m"⟩, ⟨"timing.lap_elapsed", .double, "s"⟩]

/-- The tables the startup loops fill in. -/
structure Tables where
  sourceMap : Dict String (Nat × ChannelPolicy)
  channelIds : Dict String Nat
  policiesById : Dict Nat ChannelPolicy
  channels : List Channel

def Tables.empty : Tables := ⟨.empty, .empty, .empty, []⟩

/-- Immutable startup product used by the mapper and the batcher. -/
structure RuntimeCatalog where
  sourceMap : Dict String (Nat × ChannelPolicy)
  channelIds : Dict String Nat
  policiesById : Dict Nat ChannelPolicy
  registry : ChannelRegistry
  catalogHash : String

def EncodingType.valueType : EncodingType → ValueType
  | .double => .double
  | .float => .float
  | .uint => .uint
  | .int => .int64

def ChannelType.valueType : ChannelType → ValueType
  | .double => .double
  | .int => .int64
  | .bool => .bool
  | .string => .string

def channelPolicy (name : String) (channel : ChannelConfig) : ChannelPolicy :=
  match channel.encode with
  | none => ⟨name, channel.type.valueType, channel.rbe, 0, 0⟩
  | some encoding =>
    ⟨name, encoding.type.valueType, channel.rbe, encoding.scale, encoding.offset⟩

/-- The protobuf enum number of a value type. -/
def ValueType.number : ValueType → Nat
  | .unspecified => 0
  | .double => 1
  | .int64 => 2
  | .bool => 3
  | .string => 4
  | .float => 5
  | .uint => 6

section

variable (printable : Char → Bool)

/-- Python's `repr` of a string. -/
def reprStr (text : String) : String := String.ofList (Text.stringText printable text.toList)

def reprDerived (channel : DerivedChannel) : List Char :=
  '(' :: (Text.stringText printable channel.name.toList ++
    (", ".toList ++ ((toString channel.valueType.number).toList ++
      (", ".toList ++ (Text.stringText printable channel.units.toList ++ [')'])))))

/-- `repr([(d.name, d.value_type, d.units) for d in derived_channels])`. -/
def reprDerivedChannels (derived : List DerivedChannel) : String :=
  String.ofList (Text.listText (reprDerived printable) derived)

def addMapping (path : String) (sourceMap : Dict String (Nat × ChannelPolicy)) (sourceRef : String)
    (channelId : Nat) (policy : ChannelPolicy) :
    Except PyError (Dict String (Nat × ChannelPolicy)) :=
  match sourceMap.get? sourceRef with
  | some other => .error (.configError (path ++ "/catalog.yaml: channels." ++ policy.name ++
      ".from: source reference " ++ reprStr printable sourceRef ++ " is already mapped by " ++
      reprStr printable other.2.name))
  | none => .ok (sourceMap.set sourceRef (channelId, policy))

/-- `registry.channels.add`, whose `id` is a `uint32`. -/
def registerChannel (tables : Tables) (sourceMap : Dict String (Nat × ChannelPolicy))
    (policy : ChannelPolicy) (channel : Channel) : Except PyError Tables :=
  if channel.id < 2 ^ 32 then
    .ok ⟨sourceMap, tables.channelIds.set channel.name channel.id,
      tables.policiesById.set channel.id policy, tables.channels ++ [channel]⟩
  else
    .error (.valueError ("Value out of range: " ++ toString channel.id))

def addChannel (path : String) (channelId : Nat) (name : String) (config : ChannelConfig)
    (tables : Tables) : Except PyError Tables :=
  let policy := channelPolicy name config
  match addMapping printable path tables.sourceMap config.sourceRef channelId policy with
  | .error error => .error error
  | .ok sourceMap =>
    registerChannel tables sourceMap policy ⟨channelId, name, config.sourceRef, config.units,
      policy.valueType, policy.scale, policy.offset⟩

def addDerived (path : String) (channelId : Nat) (derived : DerivedChannel) (tables : Tables) :
    Except PyError Tables :=
  if tables.channelIds.contains derived.name then
    .error (.configError (path ++ "/catalog.yaml: duplicate derived channel " ++
      reprStr printable derived.name))
  else
    let sourceRef := "derived:" ++ derived.name
    let policy : ChannelPolicy := ⟨derived.name, derived.valueType, none, 0, 0⟩
    match addMapping printable path tables.sourceMap sourceRef channelId policy with
    | .error error => .error error
    | .ok sourceMap =>
      registerChannel tables sourceMap policy ⟨channelId, derived.name, sourceRef, derived.units,
        derived.valueType, 0, 0⟩

/-- `enumerate(loaded.catalog.channels.items(), start=1)`. -/
def addChannels (path : String) : Nat → List (String × ChannelConfig) → Tables →
    Except PyError Tables
  | _, [], tables => .ok tables
  | channelId, entry :: rest, tables =>
    match addChannel printable path channelId entry.1 entry.2 tables with
    | .error error => .error error
    | .ok next => addChannels path (channelId + 1) rest next

def addDerivedChannels (path : String) : Nat → List DerivedChannel → Tables →
    Except PyError Tables
  | _, [], tables => .ok tables
  | channelId, derived :: rest, tables =>
    match addDerived printable path channelId derived tables with
    | .error error => .error error
    | .ok next => addDerivedChannels path (channelId + 1) rest next

def buildTables (path : String) (catalog : CatalogConfig) (derived : List DerivedChannel) :
    Except PyError Tables :=
  match addChannels printable path 1 catalog.channels.entries Tables.empty with
  | .error error => .error error
  | .ok tables => addDerivedChannels printable path derivedIdStart derived tables

end

/-- SHA-256 as the generation counter relies on it: lower-case hexadecimal, and
no two inputs with one digest. -/
structure HexDigest where
  hexdigest : ByteArray → String
  injective : Function.Injective hexdigest
  hexadecimal : ∀ bytes, ∀ char ∈ (hexdigest bytes).toList, char ∈ "0123456789abcdef".toList

/-- The registry state file: absent, unreadable as a state, or a state. -/
inductive StateFile where
  | missing
  | invalid (reason : String)
  | stored (catalogHash : String) (registrySeq : Int)
  deriving DecidableEq, Repr

/-- Operating-system errors met on the way, by their `strerror`: taking the lock,
reading the state, replacing it, or releasing the lock after all was done. -/
structure StateIo where
  lock : Option String
  read : Option String
  write : Option String
  release : Option String
  deriving DecidableEq, Repr

def updateRegistryStateLocked (statePath : String) (io : StateIo) (file : StateFile)
    (catalogHash : String) : StateFile × Except PyError Nat :=
  let advance (previousHash : Option String) (previousSeq : Int) :
      StateFile × Except PyError Nat :=
    let registrySeq := if previousHash = some catalogHash then previousSeq else previousSeq + 1
    if 1 ≤ registrySeq ∧ registrySeq ≤ 2 ^ 32 - 1 then
      if previousHash = some catalogHash then (file, .ok registrySeq.toNat)
      else
        match io.write with
        | some reason => (file, .error (.configError
            (statePath ++ ": unable to persist registry state: " ++ reason)))
        | none => (.stored catalogHash registrySeq, .ok registrySeq.toNat)
    else
      (file, .error (.configError (statePath ++ ": registry_seq exhausted uint32 range")))
  match io.read with
  | some reason => (file, .error (.configError
      (statePath ++ ": unable to read registry state: " ++ reason)))
  | none =>
    match file with
    | .missing => advance none 0
    | .invalid reason => (file, .error (.configError
        (statePath ++ ": invalid registry state: " ++ reason)))
    | .stored previousHash previousSeq => advance (some previousHash) previousSeq

def updateRegistryState (statePath : String) (io : StateIo) (file : StateFile)
    (catalogHash : String) : StateFile × Except PyError Nat :=
  let failed (reason : String) : Except PyError Nat :=
    .error (.configError (statePath ++ ": unable to update registry state: " ++ reason))
  match io.lock with
  | some reason => (file, failed reason)
  | none =>
    match updateRegistryStateLocked statePath io file catalogHash, io.release with
    | (next, .ok _), some reason => (next, failed reason)
    | outcome, _ => outcome

/-- One call: the profile as the disk held it, and what the system answered.
`vehicle` is the id of a loaded `vehicle.yaml`, or why the profile did not load
apart from its catalog. -/
structure Run where
  path : String
  statePath : String
  catalogBytes : ByteArray
  vehicle : Except PyError String
  derived : List DerivedChannel
  createdUnixMs : Int
  io : StateIo

section

variable (sha256 : HexDigest) (printable : Char → Bool)
  (parse : ByteArray → Except PyError CatalogConfig)

/-- The digest that names a generation: catalog file and derived set together. -/
def registryHash (run : Run) : String :=
  sha256.hexdigest (sha256.hexdigest run.catalogBytes ++ "\x00" ++
    reprDerivedChannels printable run.derived).toUTF8

def buildRegistry (run : Run) (vehicleId : String) (catalog : CatalogConfig) (registrySeq : Nat) :
    Except PyError RuntimeCatalog :=
  if 0 ≤ run.createdUnixMs ∧ run.createdUnixMs < 2 ^ 64 then
    match buildTables printable run.path catalog run.derived with
    | .error error => .error error
    | .ok tables => .ok ⟨tables.sourceMap, tables.channelIds, tables.policiesById,
        ⟨registrySeq, vehicleId, run.createdUnixMs.toNat, tables.channels⟩,
        sha256.hexdigest run.catalogBytes⟩
  else
    .error (.valueError ("Value out of range: " ++ toString run.createdUnixMs))

/-- `build_runtime_catalog`: the state file afterwards, and the catalog or the
exception. The generation is persisted before the tables are built. -/
def buildRuntimeCatalog (file : StateFile) (run : Run) :
    StateFile × Except PyError RuntimeCatalog :=
  match run.vehicle, parse run.catalogBytes with
  | .error error, _ => (file, .error error)
  | .ok _, .error error => (file, .error error)
  | .ok vehicleId, .ok catalog =>
    match updateRegistryState run.statePath run.io file (registryHash sha256 printable run) with
    | (next, .error error) => (next, .error error)
    | (next, .ok registrySeq) =>
      (next, buildRegistry sha256 printable run vehicleId catalog registrySeq)

/-- Successive runs against one state file, each with its outcome. -/
def buildRuns : StateFile → List Run → List (Run × Except PyError RuntimeCatalog)
  | _, [] => []
  | file, run :: rest =>
    let outcome := buildRuntimeCatalog sha256 printable parse file run
    (run, outcome.2) :: buildRuns outcome.1 rest

end

end OpenLaps

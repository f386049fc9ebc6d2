import OpenLaps.Core.Strings
import OpenLaps.Core.Wire
import OpenLaps.Lib.Dict

/- The fusion app of the agent (`agent/fusion_app.py`): samples of single channels reassembled
into IMU readings and GNSS fixes for the engine, and the samples its output becomes. The engine
is a parameter. -/
namespace OpenLaps.FusionApp
open Strings

/-- The two CAN frames of the IMU. -/
inductive Sensor where
  | accel
  | gyro
  deriving DecidableEq, Repr

inductive StdRole where
  | latStd
  | lonStd
  | altStd
  deriving DecidableEq, Repr

inductive FixRole where
  | lat
  | lon
  | speed
  | course
  | mode
  deriving DecidableEq, Repr

/-- What a channel is to the app. -/
inductive Role where
  | imu (sensor : Sensor) (axis : Fin 3)
  | alt
  | std (role : StdRole)
  | fix (role : FixRole)
  deriving DecidableEq, Repr

/-- Three numbers along the axes of the sensor or of the vehicle. -/
abbrev Vec := Fin 3 → PyFloat

structure GnssFix where
  lat : PyFloat
  lon : PyFloat
  speedMps : PyFloat
  courseDeg : PyFloat
  mode : Text

/-- What the app reads of the engine's output. -/
structure FusionOutput where
  status : String
  lat : Option PyFloat
  lon : Option PyFloat
  alt : Option PyFloat
  speedMps : PyFloat
  courseDeg : PyFloat
  velUpMps : Option PyFloat
  rollDeg : Option PyFloat
  pitchDeg : Option PyFloat
  yawDeg : Option PyFloat
  yawRateDps : Option PyFloat
  accelLongG : Option PyFloat
  accelLatG : Option PyFloat
  accelVertG : Option PyFloat
  slipAngleDeg : Option PyFloat
  gradePct : Option PyFloat
  posStdM : PyFloat
  gnssAgeS : PyFloat

/-- `FusionEngine` as the app uses it, over its states. -/
structure Engine (ε : Type) where
  aligned : ε → Bool
  imu : ε → PyFloat → Vec → Vec → ε × Except PyError Unit
  gnssFix : ε → PyFloat → GnssFix → ε × Except PyError Unit
  gnssStd : ε → PyFloat → PyFloat → PyFloat → PyFloat → ε × Except PyError Unit
  gnssAlt : ε → PyFloat → PyFloat → ε × Except PyError Unit
  output : ε → Except PyError (Option FusionOutput)

/-- What the constructor derives from the catalog and the configuration. -/
structure Setup where
  roleById : Dict Nat Role
  accelScale : ℚ
  gyroScale : ℚ
  speedScale : ℚ
  mount : Vec → Vec
  needsMode : Bool
  emitPeriodNs : Int

/-- Two halves of one IMU reading further apart than this are not the same reading. -/
def maxPairSkewNs : Int := 20000000

/-- `_Vector`: three per-axis samples of one frame. -/
structure Vector where
  tMonoNs : Int := -1
  tWallMs : ℚ := 0
  values : Option (Fin 3 → Option PyFloat) := none
  fresh : Bool := false

structure App (ε : Type) where
  engine : ε
  lastEmitNs : Option Int := none
  lastStatus : Option String := none
  accel : Vector := {}
  gyro : Vector := {}
  fix : Dict FixRole Sample := .empty
  std : Dict StdRole Sample := .empty

/-- `float(value)`. -/
def number (runtime : Runtime) : SampleValue → Except PyError PyFloat
  | .float value => .ok value
  | .int value => (floatOfInt value).map runtime.rounded
  | .bool value => .ok (.finite (if value then 1 else 0))
  | .str value => runtime.float value.toList

/-- `t_mono_ns / 1e9`. -/
def seconds (runtime : Runtime) (tMonoNs : Int) : Except PyError PyFloat :=
  (floatOfInt tMonoNs).map fun nanoseconds =>
    runtime.rounded ((runtime.rounded nanoseconds).div 1000000000)

namespace Vector

/-- The vector that a sample belongs to: the one at hand, or an empty one at its stamp. -/
def frameOf (vector : Vector) (sample : Sample) : Vector :=
  if sample.tMonoNs ≠ vector.tMonoNs ∨ vector.values.isNone then
    { vector with
        tMonoNs := sample.tMonoNs, tWallMs := sample.tWallMs, values := some fun _ => none }
  else vector

/-- The three numbers, once there are three. -/
def complete (vector : Vector) : Option Vec := do
  let values ← vector.values
  let x ← values 0
  let y ← values 1
  let z ← values 2
  return fun axis => if axis = 0 then x else if axis = 1 then y else z

def put (vector : Vector) (axis : Fin 3) (value : PyFloat) : Vector :=
  { vector with values := vector.values.map fun values => Function.update values axis (some value) }

/-- `_Vector.offer`. -/
def offer (runtime : Runtime) (vector : Vector) (axis : Fin 3) (sample : Sample) :
    Vector × Except PyError Bool :=
  let vector := vector.frameOf sample
  match number runtime sample.value with
  | .error error => (vector, .error error)
  | .ok value =>
      let vector := vector.put axis value
      if vector.complete.isSome then ({ vector with fresh := true }, .ok true)
      else (vector, .ok false)

end Vector

/-- A reading of a sensor as it is used. -/
structure Reading where
  tMonoNs : Int
  values : Vec

/-- A call of `engine.imu`: its arguments, and the readings that they come from. -/
structure ImuCall where
  t : PyFloat
  force : Vec
  rate : Vec
  accel : Reading
  gyro : Reading

/-- What a call of `observe` leaves, raises or returns, and the call of `engine.imu` in it. -/
structure Observed (ε : Type) where
  app : App ε
  result : Except PyError (List Sample)
  call : Option ImuCall := none

/-- `value if math.isfinite(value) else None`. -/
def finite? : PyFloat → Option PyFloat
  | .finite value => some (.finite value)
  | _ => none

/-- The values of an output that come after its position. -/
def outputValues (out : FusionOutput) : List (String × Option PyFloat) :=
  [("alt", out.alt), ("speed", some (out.speedMps.mul (.finite (36 / 10)))),
    ("course", some out.courseDeg), ("vel_up", out.velUpMps), ("roll", out.rollDeg),
    ("pitch", out.pitchDeg), ("yaw", out.yawDeg), ("yaw_rate", out.yawRateDps),
    ("accel_long", out.accelLongG), ("accel_lat", out.accelLatG), ("accel_vert", out.accelVertG),
    ("slip_angle", out.slipAngleDeg), ("grade", out.gradePct), ("pos_std", some out.posStdM),
    ("gnss_age", finite? out.gnssAgeS)]

/-- `_emit_output`, as the names and values it emits. -/
def emitOutput (out : FusionOutput) : List (String × PyFloat) :=
  (match out.lat, out.lon with
    | some lat, some lon => [("lat", lat), ("lon", lon)]
    | _, _ => []) ++
  (outputValues out).filterMap fun entry => entry.2.map fun value => (entry.1, value)

section

variable {ε : Type} (runtime : Runtime) (engine : Engine ε) (setup : Setup)

/-- A sample the app emits. -/
def fused (tMonoNs : Int) (tWallMs : ℚ) (name : String) (value : SampleValue) : Sample :=
  ⟨"derived:fused." ++ name, tMonoNs, tWallMs, value⟩

namespace App

/-- `_outputs`. -/
def outputs (app : App ε) (tMonoNs : Int) (tWallMs : ℚ) (full : Bool) :
    App ε × Except PyError (List Sample) :=
  match engine.output app.engine with
  | .error error => (app, .error error)
  | .ok out =>
      let status := (out.map FusionOutput.status).getD "aligning"
      let changed := if app.lastStatus = some status then []
        else [fused tMonoNs tWallMs "status" (.str status)]
      let app := { app with lastStatus := some status }
      match out with
      | none => (app, .ok changed)
      | some out =>
          if !full || (app.lastEmitNs.any fun last =>
              tMonoNs - last < setup.emitPeriodNs - 1000000) then (app, .ok changed)
          else
            ({ app with lastEmitNs := some tMonoNs },
              .ok (changed ++ (emitOutput out).map fun entry =>
                fused tMonoNs tWallMs entry.1 (.float entry.2)))

/-- `np.asarray(values) * scale`; a component that is `None` has no product. -/
def scaled (vector : Vector) (scale : ℚ) : Except PyError Vec :=
  match vector.complete with
  | none => .error (.typeError "unsupported operand type(s) for *: 'NoneType' and 'float'")
  | some values => .ok fun axis => runtime.rounded ((values axis).mul (.finite scale))

/-- The reading of a vector that is complete. -/
def reading (vector : Vector) : Reading :=
  ⟨vector.tMonoNs, (vector.complete).getD fun _ => .nan⟩

/-- The arguments of `engine.imu`. -/
def imuCall (accel gyro later : Vector) : Except PyError ImuCall := do
  let force ← scaled runtime accel setup.accelScale
  let rate ← scaled runtime gyro setup.gyroScale
  let t ← seconds runtime later.tMonoNs
  return ⟨t, setup.mount force, setup.mount rate, reading accel, reading gyro⟩

/-- `_maybe_step`. -/
def maybeStep (app : App ε) : Observed ε :=
  if !(app.accel.fresh && app.gyro.fresh) then ⟨app, .ok [], none⟩
  else if maxPairSkewNs < |app.accel.tMonoNs - app.gyro.tMonoNs| then
    -- Keep whichever is newer and wait for its partner.
    (if app.gyro.tMonoNs < app.accel.tMonoNs then
      ⟨{ app with gyro := { app.gyro with fresh := false } }, .ok [], none⟩
    else ⟨{ app with accel := { app.accel with fresh := false } }, .ok [], none⟩)
  else
    let app := { app with
      accel := { app.accel with fresh := false }
      gyro := { app.gyro with fresh := false } }
    let later := if app.gyro.tMonoNs ≤ app.accel.tMonoNs then app.accel else app.gyro
    match imuCall runtime setup app.accel app.gyro later with
    | .error error => ⟨app, .error error, none⟩
    | .ok call =>
        match engine.imu app.engine call.t call.force call.rate with
        | (state, .error error) => ⟨{ app with engine := state }, .error error, some call⟩
        | (state, .ok ()) =>
            let app := { app with engine := state }
            let (app, result) :=
              app.outputs engine setup later.tMonoNs later.tWallMs (engine.aligned app.engine)
            ⟨app, result, some call⟩

/-- `_complete`. -/
def completeAt {κ : Type} [DecidableEq κ] (parts : Dict κ Sample) (roles : List κ)
    (tMonoNs : Int) : Bool :=
  roles.all fun role => (parts.get? role).any fun part => part.tMonoNs = tMonoNs

/-- `float(parts[role].value)` of a part that is there. -/
def part {κ : Type} [DecidableEq κ] (parts : Dict κ Sample) (role : κ) : Except PyError PyFloat :=
  match parts.get? role with
  | none => .error (.keyError "")
  | some sample => number runtime sample.value

def stdRoles : List StdRole := [.latStd, .lonStd, .altStd]

def fixRoles (needsMode : Bool) : List FixRole :=
  [.lat, .lon, .speed, .course] ++ if needsMode then [.mode] else []

/-- `str(value)` of a mode; numbers are printed by `printed`. -/
def modeText (printed : SampleValue → Text) (app : App ε) : Text :=
  match app.fix.get? .mode with
  | some ⟨_, _, _, .str value⟩ => value.toList
  | some sample => printed sample.value
  | none => []

/-- The fix that its parts make. -/
def fixOf (printed : SampleValue → Text) (app : App ε) : Except PyError GnssFix := do
  let lat ← part runtime app.fix .lat
  let lon ← part runtime app.fix .lon
  let speed ← part runtime app.fix .speed
  let course ← part runtime app.fix .course
  return ⟨lat, lon, runtime.rounded (speed.mul (.finite setup.speedScale)), course,
    if setup.needsMode then app.modeText printed else ['A']⟩

/-- `_observe_gnss` for a fix role. -/
def observeFix (printed : SampleValue → Text) (app : App ε) (role : FixRole) (sample : Sample)
    (t : PyFloat) : App ε × Except PyError Bool :=
  let app := { app with fix := app.fix.set role sample }
  if !completeAt app.fix (fixRoles setup.needsMode) sample.tMonoNs then (app, .ok false)
  else
    match app.fixOf runtime setup printed with
    | .error error => (app, .error error)
    | .ok fix =>
        match engine.gnssFix app.engine t fix with
        | (state, .error error) => ({ app with engine := state }, .error error)
        | (state, .ok ()) => ({ app with engine := state, fix := .empty }, .ok true)

/-- The three sigmas of a GST sentence. -/
def stdOf (app : App ε) : Except PyError (PyFloat × PyFloat × PyFloat) := do
  let latStd ← part runtime app.std .latStd
  let lonStd ← part runtime app.std .lonStd
  let altStd ← part runtime app.std .altStd
  return (latStd, lonStd, altStd)

/-- `_observe_gnss` for a sigma. -/
def observeStd (app : App ε) (role : StdRole) (sample : Sample) (t : PyFloat) :
    App ε × Except PyError Bool :=
  let app := { app with std := app.std.set role sample }
  if !completeAt app.std stdRoles sample.tMonoNs then (app, .ok false)
  else
    match app.stdOf runtime with
    | .error error => (app, .error error)
    | .ok (latStd, lonStd, altStd) =>
        match engine.gnssStd app.engine t latStd lonStd altStd with
        | (state, .error error) => ({ app with engine := state }, .error error)
        | (state, .ok ()) => ({ app with engine := state, std := .empty }, .ok false)

/-- `_observe_gnss` for a height. -/
def observeAlt (app : App ε) (sample : Sample) (t : PyFloat) : App ε × Except PyError Bool :=
  match number runtime sample.value with
  | .error error => (app, .error error)
  | .ok alt =>
      match engine.gnssAlt app.engine t alt with
      | (state, .error error) => ({ app with engine := state }, .error error)
      | (state, .ok ()) => ({ app with engine := state }, .ok false)

/-- `_observe_gnss`. -/
def observeGnss (printed : SampleValue → Text) (app : App ε) (role : Role) (sample : Sample) :
    App ε × Except PyError Bool :=
  match seconds runtime sample.tMonoNs with
  | .error error => (app, .error error)
  | .ok t =>
      match role with
      | .imu .. => (app, .ok false)
      | .alt => app.observeAlt runtime engine sample t
      | .std role => app.observeStd runtime engine role sample t
      | .fix role => app.observeFix runtime engine setup printed role sample t

/-- `except (TypeError, ValueError)`. -/
def caught : PyError → Bool
  | .configError _ => true
  | .valueError _ => true
  | .typeError _ => true
  | .keyError _ => false
  | .overflowError _ => false
  | .recursionError _ => false

def vector (app : App ε) : Sensor → Vector
  | .accel => app.accel
  | .gyro => app.gyro

def withVector (app : App ε) (sensor : Sensor) (vector : Vector) : App ε :=
  match sensor with
  | .accel => { app with accel := vector }
  | .gyro => { app with gyro := vector }

/-- The part of `observe` for an axis of the IMU. -/
def observeImu (app : App ε) (sensor : Sensor) (axis : Fin 3) (sample : Sample) : Observed ε :=
  match (app.vector sensor).offer runtime axis sample with
  | (vector, .error error) => ⟨app.withVector sensor vector, .error error, none⟩
  | (vector, .ok false) => ⟨app.withVector sensor vector, .ok [], none⟩
  | (vector, .ok true) => (app.withVector sensor vector).maybeStep runtime engine setup

/-- `FusionApp.observe`. -/
def observe (printed : SampleValue → Text) (app : App ε) (channelId : Nat) (sample : Sample) :
    Observed ε :=
  match setup.roleById.get? channelId with
  | none => ⟨app, .ok [], none⟩
  | some (.imu sensor axis) => app.observeImu runtime engine setup sensor axis sample
  | some role =>
      match app.observeGnss runtime engine setup printed role sample with
      | (app, .error error) => ⟨app, if caught error then .ok [] else .error error, none⟩
      | (app, .ok fixDone) =>
          -- Passthrough: GNSS drives the output.
          if fixDone && !engine.aligned app.engine then
            let (app, result) := app.outputs engine setup sample.tMonoNs sample.tWallMs true
            ⟨app, result, none⟩
          else ⟨app, .ok [], none⟩

end App

end

end OpenLaps.FusionApp

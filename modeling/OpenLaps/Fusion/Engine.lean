import Mathlib.Algebra.Order.Floor.Ring
import Mathlib.Data.Rat.Floor
import OpenLaps.Core.Wire

/- The lifecycle of the inertial filter (`fusion/engine.py`): alignment, IMU health,
outages. What is computed with matrices is a parameter; `output` is left out. -/
namespace OpenLaps.Fusion

/-- Three numbers of a sensor, as they came in. -/
structure Vec where
  x : PyFloat
  y : PyFloat
  z : PyFloat
  deriving DecidableEq, Repr

def isFinite : PyFloat → Bool
  | .finite _ => true
  | _ => false

def Vec.finite (vec : Vec) : Bool := isFinite vec.x && isFinite vec.y && isFinite vec.z

/-- `posMode` of an RMC sentence. -/
inductive Mode where
  | rtkFixed
  | rtkFloat
  | dgnss
  | autonomous
  | estimated
  deriving DecidableEq, Repr

/-- A mode that is not in the table counts as autonomous. -/
def modeOf (text : String) : Mode :=
  if text = "R" then .rtkFixed
  else if text = "F" then .rtkFloat
  else if text = "D" then .dgnss
  else if text = "E" then .estimated
  else .autonomous

/-- Horizontal, vertical and velocity sigma. -/
structure Sigmas where
  horizontal : ℚ
  vertical : ℚ
  velocity : ℚ
  deriving DecidableEq, Repr

def modeSigmas : Mode → Sigmas
  | .rtkFixed => ⟨3 / 100, 5 / 100, 5 / 100⟩
  | .rtkFloat => ⟨4 / 10, 6 / 10, 8 / 100⟩
  | .dgnss => ⟨8 / 10, 15 / 10, 12 / 100⟩
  | .autonomous => ⟨25 / 10, 4, 15 / 100⟩
  | .estimated => ⟨10, 15, 1⟩

structure Gst where
  t : ℚ
  latStd : ℚ
  lonStd : ℚ
  altStd : ℚ
  deriving DecidableEq, Repr

/-- One fix of the receiver. -/
structure GnssFix where
  t : ℚ
  lat : ℚ
  lon : ℚ
  speedMps : ℚ
  courseDeg : ℚ
  mode : Mode
  deriving DecidableEq, Repr

structure EngineSettings where
  latencyS : ℚ := 3 / 100
  alignSpeedMps : ℚ := 5
  maxOutageS : ℚ := 10
  gstMaxAgeS : ℚ := 1
  minCourseSpeedMps : ℚ := 1
  imuTimeoutS : ℚ := 25 / 100
  imuRecoveryS : ℚ := 1
  /-- Floors on reported receiver error: GST is often optimistic. -/
  minHorizontalSigma : ℚ := 15 / 1000
  minVerticalSigma : ℚ := 3 / 100

/-- What an alignment starts from: the parked averages when there are enough of them, the
fix, its sigmas, the lag of the state behind it and the last specific force. -/
structure Alignment (σ : Type) where
  level : Option (σ × σ × Nat)
  fix : GnssFix
  sigmas : Sigmas
  lag : ℚ
  lastF : Option Vec

/-- The numerics of numpy, `fusion.ins` and `fusion.geodesy`, with the lever arm and the
noise of the settings. -/
structure Numerics where
  Ins : Type
  Frame : Type
  Sum : Type
  norm : Vec → ℚ
  radians : ℚ → ℚ
  horizontalStd : ℚ → ℚ → ℚ
  localFrame : ℚ → ℚ → ℚ → Frame
  gravity : Frame → ℚ
  height : Frame → ℚ
  raised : Frame → ℚ → Frame
  zero : Sum
  add : Sum → Vec → Sum
  halve : Sum → Sum
  propagate : Ins → Vec → Vec → ℚ → Ins
  initialized : Frame → Alignment Sum → Ins
  /-- The position update, and whether the gate let it through. -/
  updatePosition : Frame → Ins → GnssFix → ℚ → ℚ → Option ℚ → Ins × Bool
  /-- `_reanchor` with the ungated position update after it. -/
  reanchor : Frame → Ins → GnssFix → ℚ → ℚ → Ins
  updateVelocity : Ins → GnssFix → ℚ → ℚ → Option ℚ → Ins
  antennaDown : Ins → ℚ → ℚ
  updateHeight : Ins → ℚ → ℚ → ℚ → Ins
  speed : Ins → ℚ
  holdStill : Ins → Ins
  holdVertical : Ins → Ins

structure EngineStats where
  imuSteps : Nat := 0
  imuGaps : Nat := 0
  fixes : Nat := 0
  fixesRejected : Nat := 0
  forcedReanchors : Nat := 0
  alignments : Nat := 0
  outagesLost : Nat := 0
  imuFailovers : Nat := 0
  imuBadSamples : Nat := 0
  deriving DecidableEq, Repr

/-- One IMU sample as the screen judged it. -/
structure Screened where
  t : ℚ
  accepted : Bool
  deriving DecidableEq, Repr

/-- The engine; `screened` records every IMU sample in order and is never read. -/
structure FusionEngine (num : Numerics) where
  stats : EngineStats := {}
  frame : Option num.Frame := none
  ins : Option num.Ins := none
  tImu : Option ℚ := none
  lastF : Option Vec := none
  lastFixT : Option ℚ := none
  lastMode : Mode := .autonomous
  gst : Option Gst := none
  haveAltRef : Bool := false
  rejectedSince : Option ℚ := none
  lastNhcT : Option ℚ := none
  levelSum : num.Sum := num.zero
  gyroSum : num.Sum := num.zero
  levelN : Nat := 0
  still : Bool := false
  imuFault : Bool := false
  imuGoodSince : Option ℚ := none
  frozenRun : Nat := 0
  prevRaw : Option (Vec × Vec) := none
  fix : Option GnssFix := none
  screened : List Screened := []

namespace FusionEngine

variable {num : Numerics}

def aligned (engine : FusionEngine num) : Bool := engine.ins.isSome

def imuHealthy (settings : EngineSettings) (engine : FusionEngine num) (now : ℚ) : Bool :=
  !engine.imuFault && engine.tImu.any fun last => now - last ≤ settings.imuTimeoutS

def failOver (engine : FusionEngine num) : FusionEngine num :=
  match engine.ins with
  | none => engine
  | some _ =>
      { engine with
        ins := none
        haveAltRef := false
        levelSum := num.zero
        gyroSum := num.zero
        levelN := 0
        stats := { engine.stats with imuFailovers := engine.stats.imuFailovers + 1 } }

def maxSpecificForce : ℚ := 30 * (980665 / 100000)

def frozenSamples : Nat := 50

def frozenCheckSpeed : ℚ := 3

/-- A reading no automotive IMU gives. -/
def implausible (num : Numerics) (f w : Vec) : Bool :=
  !(f.finite && w.finite) || maxSpecificForce < num.norm f || num.radians 1800 < num.norm w

/-- A plausible reading of a moving car that is the one before, bit by bit. -/
def repeated (engine : FusionEngine num) (f w : Vec) : Bool :=
  ! implausible num f w && (engine.fix.any fun fix => frozenCheckSpeed < fix.speedMps) &&
    engine.prevRaw = some (f, w)

/-- Whether the screen refuses a reading. -/
def bad (engine : FusionEngine num) (f w : Vec) : Bool :=
  if engine.repeated f w then frozenSamples ≤ engine.frozenRun + 1 else implausible num f w

/-- The bookkeeping of `_imu_sample_ok` before its verdict. -/
def remember (engine : FusionEngine num) (t : ℚ) (f w : Vec) : FusionEngine num :=
  { engine with
    frozenRun := if engine.repeated f w then engine.frozenRun + 1 else 0
    prevRaw := some (f, w)
    screened := engine.screened ++ [⟨t, !engine.bad f w⟩] }

/-- A refused sample latches a fault. -/
def latch (engine : FusionEngine num) : FusionEngine num :=
  let engine := { engine with
    stats := { engine.stats with imuBadSamples := engine.stats.imuBadSamples + 1 }
    imuGoodSince := none }
  if engine.imuFault then engine else { engine with imuFault := true }.failOver

/-- A good sample starts the good time, or ends the fault when that is long enough. -/
def good (settings : EngineSettings) (engine : FusionEngine num) (t : ℚ) : FusionEngine num :=
  let since := engine.imuGoodSince.getD t
  { engine with
    imuGoodSince := some since
    imuFault := engine.imuFault && !(settings.imuRecoveryS ≤ t - since : Bool) }

/-- `_imu_sample_ok`. -/
def imuSampleOk (settings : EngineSettings) (engine : FusionEngine num) (t : ℚ) (f w : Vec) :
    FusionEngine num × Bool :=
  if engine.bad f w then ((engine.remember t f w).latch, false)
  else ((engine.remember t f w).good settings t, true)

/-- `_track_stillness`. -/
def trackStillness (engine : FusionEngine num) (f w : Vec) : FusionEngine num :=
  let gravity := (engine.frame.map num.gravity).getD (98 / 10)
  let still := |num.norm f - gravity| < 4 / 10 && num.norm w < num.radians 2
  if still && !engine.aligned then
    let full := 500 ≤ engine.levelN
    { engine with
      levelSum := num.add (if full then num.halve engine.levelSum else engine.levelSum) f
      gyroSum := num.add (if full then num.halve engine.gyroSum else engine.gyroSum) w
      levelN := (if full then engine.levelN / 2 else engine.levelN) + 1
      still := still }
  else { engine with still := still }

/-- `_check_outage`. -/
def checkOutage (settings : EngineSettings) (engine : FusionEngine num) (t : ℚ) :
    FusionEngine num :=
  if engine.lastFixT.any fun last => settings.maxOutageS < t - last then
    { engine with
      ins := none
      levelSum := num.zero
      gyroSum := num.zero
      levelN := 0
      haveAltRef := false
      stats := { engine.stats with outagesLost := engine.stats.outagesLost + 1 } }
  else engine

/-- `_constraints`. -/
def constraints (engine : FusionEngine num) (t : ℚ) : FusionEngine num :=
  match engine.ins with
  | none => engine
  | some ins =>
      if engine.lastNhcT.any fun last => t - last < 1 / 10 then engine
      else
        let engine := { engine with lastNhcT := some t }
        if engine.still && num.speed ins < 5 / 10 then { engine with ins := some (num.holdStill ins) }
        else if !engine.haveAltRef then { engine with ins := some (num.holdVertical ins) }
        else engine

/-- One step of the filter, or several shorter ones over a gap of the CAN bus. -/
def propagated (ins : num.Ins) (f w : Vec) (dt : ℚ) : num.Ins :=
  if 1 / 10 < dt then
    let steps := min 50 ⌈dt / (1 / 100)⌉.toNat
    (List.range steps).foldl (fun ins _ => num.propagate ins f w (dt / steps)) ins
  else num.propagate ins f w dt

/-- The end of `imu`: the sample moves the filter on, unless there is nothing to move. -/
def advance (settings : EngineSettings) (engine : FusionEngine num) (previous : Option ℚ)
    (t : ℚ) (f w : Vec) : FusionEngine num :=
  match engine.ins, previous with
  | some ins, some previous =>
      let dt := t - previous
      if dt ≤ 0 then engine
      else
        let gaps := engine.stats.imuGaps + if 1 / 10 < dt then 1 else 0
        let engine := { engine with
          ins := some (propagated ins f w dt)
          stats := { engine.stats with imuGaps := gaps, imuSteps := engine.stats.imuSteps + 1 } }
        (engine.checkOutage settings t).constraints t
  | _, _ => engine

/-- A sample that comes after too long a silence. -/
def backFromSilence (settings : EngineSettings) (engine : FusionEngine num) (t : ℚ) : Bool :=
  engine.tImu.any fun previous => settings.imuTimeoutS < t - previous

/-- The stamp of an accepted sample; back from silence, the recovery time counts from now. -/
def stamp (settings : EngineSettings) (engine : FusionEngine num) (t : ℚ) : FusionEngine num :=
  let stamped := { engine with tImu := some t }
  if engine.backFromSilence settings t then { stamped.failOver with imuGoodSince := some t }
  else stamped

/-- An accepted sample. -/
def accepted (settings : EngineSettings) (engine : FusionEngine num) (t : ℚ) (f w : Vec) :
    FusionEngine num :=
  let previous := if engine.backFromSilence settings t then none else engine.tImu
  let tracked := { engine.stamp settings t with lastF := some f }.trackStillness f w
  tracked.advance settings previous t f w

def imu (settings : EngineSettings) (engine : FusionEngine num) (t : ℚ) (f w : Vec) :
    FusionEngine num :=
  let screened := engine.imuSampleOk settings t f w
  if screened.2 then screened.1.accepted settings t f w else screened.1

def gnssStd (engine : FusionEngine num) (t latStd lonStd altStd : ℚ) : FusionEngine num :=
  { engine with gst := some ⟨t, latStd, lonStd, altStd⟩ }

/-- `_imu_recovered`. -/
def imuRecovered (settings : EngineSettings) (engine : FusionEngine num) (now : ℚ) : Bool :=
  engine.imuGoodSince.any fun since =>
    engine.stats.imuFailovers = 0 || settings.imuRecoveryS ≤ now - since

/-- `_lag`. -/
def lag (settings : EngineSettings) (engine : FusionEngine num) (tMeas : ℚ) : ℚ :=
  engine.tImu.getD tMeas - (tMeas - settings.latencyS)

/-- `_sigmas`. -/
def sigmas (settings : EngineSettings) (engine : FusionEngine num) (t : ℚ) (mode : Mode) :
    Sigmas :=
  let table := modeSigmas mode
  let reported := match engine.gst with
    | some gst =>
        if t - gst.t ≤ settings.gstMaxAgeS then
          { table with
            horizontal := max (num.horizontalStd gst.latStd gst.lonStd) (1 / 1000)
            vertical := gst.altStd }
        else table
    | none => table
  { reported with
    horizontal := max reported.horizontal settings.minHorizontalSigma
    vertical := max reported.vertical settings.minVerticalSigma }

/-- `_try_align`. -/
def tryAlign (settings : EngineSettings) (engine : FusionEngine num) (frame : num.Frame)
    (fix : GnssFix) : FusionEngine num :=
  if fix.speedMps < settings.alignSpeedMps || engine.tImu.isNone then engine
  else
    let level := if 50 ≤ engine.levelN then some (engine.levelSum, engine.gyroSum, engine.levelN)
      else none
    let ins := num.initialized frame
      ⟨level, fix, engine.sigmas settings fix.t fix.mode, engine.lag settings fix.t, engine.lastF⟩
    { engine with
      ins := some ins
      lastFixT := some fix.t
      haveAltRef := false
      stats := { engine.stats with alignments := engine.stats.alignments + 1 } }

/-- A fix that the filter takes in, refuses or is anchored to anew. -/
def fuse (settings : EngineSettings) (engine : FusionEngine num) (frame : num.Frame)
    (ins : num.Ins) (fix : GnssFix) : FusionEngine num :=
  let engine := { engine with stats := { engine.stats with fixes := engine.stats.fixes + 1 } }
  let lag := engine.lag settings fix.t
  let sigmas := engine.sigmas settings fix.t fix.mode
  let recovering := engine.lastFixT.any fun last => 1 < fix.t - last
  let gate := if recovering then none else some (138 / 10)
  let updated := num.updatePosition frame ins fix lag sigmas.horizontal gate
  if updated.2 then
    let ins := if settings.minCourseSpeedMps ≤ fix.speedMps then
        num.updateVelocity updated.1 fix lag sigmas.velocity gate
      else updated.1
    { engine with ins := some ins, rejectedSince := none, lastFixT := some fix.t }
  else
    let engine := { engine with
      ins := some updated.1
      stats := { engine.stats with fixesRejected := engine.stats.fixesRejected + 1 } }
    match engine.rejectedSince with
    | none => { engine with rejectedSince := some fix.t }
    | some since =>
        if 1 < fix.t - since then
          { engine with
            ins := some (num.reanchor frame updated.1 fix lag sigmas.horizontal)
            stats := { engine.stats with forcedReanchors := engine.stats.forcedReanchors + 1 }
            rejectedSince := none
            lastFixT := some fix.t }
        else engine

/-- What a fix does before the filter sees it: an aligned filter without an IMU goes. -/
def received (settings : EngineSettings) (engine : FusionEngine num) (frame : num.Frame)
    (fix : GnssFix) : FusionEngine num :=
  let engine := { engine with lastMode := fix.mode, fix := some fix, frame := some frame }
  if engine.aligned && !engine.imuHealthy settings fix.t then engine.failOver else engine

/-- `gnss_fix`. -/
def gnssFix (settings : EngineSettings) (engine : FusionEngine num) (fix : GnssFix) :
    FusionEngine num :=
  let frame := engine.frame.getD (num.localFrame fix.lat fix.lon 0)
  let engine := engine.received settings frame fix
  match engine.ins with
  | some ins => engine.fuse settings frame ins fix
  | none =>
      if engine.imuHealthy settings fix.t && engine.imuRecovered settings fix.t then
        engine.tryAlign settings frame fix
      else engine

/-- `gnss_alt`. -/
def gnssAlt (settings : EngineSettings) (engine : FusionEngine num) (t alt : ℚ) :
    FusionEngine num :=
  match engine.ins, engine.frame with
  | some ins, some frame =>
      let lag := engine.lag settings t
      if !engine.haveAltRef then
        { engine with
          frame := some (num.raised frame (alt + num.antennaDown ins lag))
          haveAltRef := true }
      else
        let sigma := (engine.sigmas settings t engine.lastMode).vertical
        { engine with ins := some (num.updateHeight ins (num.height frame - alt) lag sigma) }
  | _, _ => engine

end FusionEngine

/-- The calls of the app. -/
inductive Call where
  | imu (t : ℚ) (f w : Vec)
  | gnssFix (t lat lon speedMps courseDeg : ℚ) (mode : String)
  | gnssStd (t latStd lonStd altStd : ℚ)
  | gnssAlt (t alt : ℚ)
  deriving DecidableEq, Repr

def Call.t : Call → ℚ
  | .imu t _ _ => t
  | .gnssFix t _ _ _ _ _ => t
  | .gnssStd t _ _ _ => t
  | .gnssAlt t _ => t

def FusionEngine.call {num : Numerics} (settings : EngineSettings) (engine : FusionEngine num) :
    Call → FusionEngine num
  | .imu t f w => engine.imu settings t f w
  | .gnssFix t lat lon speedMps courseDeg mode =>
      engine.gnssFix settings ⟨t, lat, lon, speedMps, courseDeg, modeOf mode⟩
  | .gnssStd t latStd lonStd altStd => engine.gnssStd t latStd lonStd altStd
  | .gnssAlt t alt => engine.gnssAlt settings t alt

/-- The engine after a sequence of calls. -/
def FusionEngine.run (num : Numerics) (settings : EngineSettings) (calls : List Call) :
    FusionEngine num := calls.foldl (FusionEngine.call settings) {}

end OpenLaps.Fusion

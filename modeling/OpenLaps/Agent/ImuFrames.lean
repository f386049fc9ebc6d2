import Mathlib.Tactic.FinCases
import OpenLaps.Agent.FusionApp
import OpenLaps.Lib.Attempt

/- Which readings the engine is called with: complete ones of one stamp each, at most once. -/
namespace OpenLaps.FusionApp
open Strings

variable {ε : Type} {runtime : Runtime} {engine : Engine ε} {setup : Setup}
  {printed : SampleValue → Text}

/-- A sequence of samples with their channels, and the calls of `engine.imu`. -/
def App.observeAll (runtime : Runtime) (engine : Engine ε) (setup : Setup)
    (printed : SampleValue → Text) : App ε → List (Nat × Sample) → App ε × List ImuCall
  | app, [] => (app, [])
  | app, (channelId, sample) :: rest =>
      let observed := app.observe runtime engine setup printed channelId sample
      let later := observed.app.observeAll runtime engine setup printed rest
      (later.1, observed.call.toList ++ later.2)

/-- The axis of a sensor that a sample is for, with its stamp. -/
def imuKey (setup : Setup) (entry : Nat × Sample) : Option (Sensor × Fin 3 × Int) :=
  match setup.roleById.get? entry.1 with
  | some (.imu sensor axis) => some (sensor, axis, entry.2.tMonoNs)
  | _ => none

/-- The axes and stamps of the samples of the IMU. -/
def offers (setup : Setup) (samples : List (Nat × Sample)) : List (Sensor × Fin 3 × Int) :=
  samples.filterMap (imuKey setup)

/-- A sample gave this number for the axis at this stamp. -/
def Offered (runtime : Runtime) (setup : Setup) (samples : List (Nat × Sample)) (sensor : Sensor)
    (axis : Fin 3) (stamp : Int) (value : PyFloat) : Prop :=
  ∃ entry ∈ samples, imuKey setup entry = some (sensor, axis, stamp) ∧
    number runtime entry.2.value = .ok value

/-- A call with three numbers of each sensor, captured together and not far from each other. -/
structure WellFormed (runtime : Runtime) (setup : Setup) (samples : List (Nat × Sample))
    (call : ImuCall) : Prop where
  accel : ∀ axis, Offered runtime setup samples .accel axis call.accel.tMonoNs (call.accel.values axis)
  gyro : ∀ axis, Offered runtime setup samples .gyro axis call.gyro.tMonoNs (call.gyro.values axis)
  skew : |call.accel.tMonoNs - call.gyro.tMonoNs| ≤ maxPairSkewNs
  force : call.force = setup.mount fun axis =>
    runtime.rounded ((call.accel.values axis).mul (.finite setup.accelScale))
  rate : call.rate = setup.mount fun axis =>
    runtime.rounded ((call.gyro.values axis).mul (.finite setup.gyroScale))

theorem Offered.mem_offers {samples : List (Nat × Sample)} {sensor : Sensor} {axis : Fin 3}
    {stamp : Int} {value : PyFloat}
    (offered : Offered runtime setup samples sensor axis stamp value) :
    (sensor, axis, stamp) ∈ offers setup samples := by
  obtain ⟨entry, member, key, -⟩ := offered
  exact List.mem_filterMap.mpr ⟨entry, member, key⟩

theorem Offered.append {samples : List (Nat × Sample)} {sensor : Sensor} {axis : Fin 3}
    {stamp : Int} {value : PyFloat}
    (offered : Offered runtime setup samples sensor axis stamp value)
    (more : List (Nat × Sample)) :
    Offered runtime setup (samples ++ more) sensor axis stamp value := by
  obtain ⟨entry, member, rest⟩ := offered
  exact ⟨entry, List.mem_append_left more member, rest⟩

theorem WellFormed.append {samples : List (Nat × Sample)} {call : ImuCall}
    (wellFormed : WellFormed runtime setup samples call) (more : List (Nat × Sample)) :
    WellFormed runtime setup (samples ++ more) call where
  accel := fun axis => (wellFormed.accel axis).append more
  gyro := fun axis => (wellFormed.gyro axis).append more
  skew := wellFormed.skew
  force := wellFormed.force
  rate := wellFormed.rate

namespace Vector

variable {vector : Vector}

theorem complete_eq_some {values : Vec} : vector.complete = some values ↔
    ∃ parts, vector.values = some parts ∧ ∀ axis, parts axis = some (values axis) := by
  unfold complete
  constructor
  · intro given
    simp only [Option.bind_eq_bind, Option.bind_eq_some_iff] at given
    obtain ⟨parts, held, x, isX, y, isY, z, isZ, same⟩ := given
    cases same
    refine ⟨parts, held, ?_⟩
    intro axis
    fin_cases axis
    · exact isX
    · exact isY
    · exact isZ
  · rintro ⟨parts, held, each⟩
    simp only [held, each 0, each 1, each 2, Option.bind_eq_bind, Option.bind_some]
    congr 1
    funext axis
    fin_cases axis <;> rfl

end Vector

/-- What is known of the vector of a sensor, given the samples so far and the stamps of its
readings that were used. -/
structure Vector.Sound (runtime : Runtime) (setup : Setup) (samples : List (Nat × Sample))
    (sensor : Sensor) (used : List Int) (vector : Vector) : Prop where
  origin : ∀ parts axis value, vector.values = some parts → parts axis = some value →
    Offered runtime setup samples sensor axis vector.tMonoNs value
  spent : ∀ stamp ∈ used, ∀ axis, (sensor, axis, stamp) ∈ offers setup samples
  -- a vector that is fresh but no longer complete says nothing
  unused : vector.fresh = true → vector.complete.isSome = true → vector.tMonoNs ∉ used

namespace Vector.Sound

variable {samples : List (Nat × Sample)} {sensor : Sensor} {used : List Int} {vector : Vector}

theorem initial (sensor : Sensor) : Vector.Sound runtime setup [] sensor [] {} where
  origin := by
    intro parts axis value held
    cases held
  spent := fun _ member => absurd member List.not_mem_nil
  unused := fun _ _ => List.not_mem_nil

/-- Samples for other vectors change nothing. -/
theorem append (sound : Vector.Sound runtime setup samples sensor used vector)
    (more : List (Nat × Sample)) :
    Vector.Sound runtime setup (samples ++ more) sensor used vector where
  origin := fun parts axis value held part => (sound.origin parts axis value held part).append more
  spent := by
    intro stamp member axis
    rw [offers, List.filterMap_append]
    exact List.mem_append_left _ (sound.spent stamp member axis)
  unused := sound.unused

theorem rested (sound : Vector.Sound runtime setup samples sensor used vector) :
    Vector.Sound runtime setup samples sensor used { vector with fresh := false } where
  origin := sound.origin
  spent := sound.spent
  unused := fun impossible => absurd impossible Bool.false_ne_true

/-- Every axis of a complete vector was offered at its stamp. -/
theorem offered (sound : Vector.Sound runtime setup samples sensor used vector) {values : Vec}
    (complete : vector.complete = some values) (axis : Fin 3) :
    Offered runtime setup samples sensor axis vector.tMonoNs (values axis) := by
  obtain ⟨parts, held, each⟩ := Vector.complete_eq_some.mp complete
  exact sound.origin parts axis (values axis) held (each axis)

/-- The reading of a complete vector is used. -/
theorem use (sound : Vector.Sound runtime setup samples sensor used vector)
    (complete : vector.complete.isSome = true) :
    Vector.Sound runtime setup samples sensor (used ++ [vector.tMonoNs])
      { vector with fresh := false } where
  origin := sound.origin
  spent := by
    intro stamp member axis
    rcases List.mem_append.mp member with before | now
    · exact sound.spent stamp before axis
    · obtain ⟨values, held⟩ := Option.isSome_iff_exists.mp complete
      rw [List.mem_singleton.mp now]
      exact (sound.offered held axis).mem_offers
  unused := fun impossible => absurd impossible Bool.false_ne_true

theorem frameOf (sound : Vector.Sound runtime setup samples sensor used vector) (sample : Sample) :
    (vector.frameOf sample).tMonoNs = sample.tMonoNs ∧
      ∀ parts axis value, (vector.frameOf sample).values = some parts → parts axis = some value →
        Offered runtime setup samples sensor axis sample.tMonoNs value := by
  unfold Vector.frameOf
  split
  · refine ⟨rfl, ?_⟩
    intro parts axis value held part
    cases held
    cases part
  · rename_i here
    have same : sample.tMonoNs = vector.tMonoNs := not_not.mp fun other => here (.inl other)
    refine ⟨same.symm, ?_⟩
    rw [same]
    exact sound.origin

/-- A vector at a stamp that was not used. -/
theorem ofUnused {stamp : Int} (here : vector.tMonoNs = stamp)
    (origin : ∀ parts axis value, vector.values = some parts → parts axis = some value →
      Offered runtime setup samples sensor axis stamp value)
    (spent : ∀ stamp ∈ used, ∀ axis, (sensor, axis, stamp) ∈ offers setup samples)
    (other : stamp ∉ used) : Vector.Sound runtime setup samples sensor used vector where
  origin := by rwa [here]
  spent := spent
  unused := fun _ _ => by rwa [here]

/-- A sample of an axis that was not offered at its stamp before. -/
theorem offer (sound : Vector.Sound runtime setup samples sensor used vector) {axis : Fin 3}
    {channelId : Nat} {sample : Sample}
    (key : imuKey setup (channelId, sample) = some (sensor, axis, sample.tMonoNs))
    (new : (sensor, axis, sample.tMonoNs) ∉ offers setup samples) :
    Vector.Sound runtime setup (samples ++ [(channelId, sample)]) sensor used
      (vector.offer runtime axis sample).1 := by
  obtain ⟨stamp, origin⟩ := sound.frameOf sample
  have spent := (sound.append [(channelId, sample)]).spent
  -- a reading that was used has all its axes behind it
  have other : sample.tMonoNs ∉ used := fun member => new (sound.spent _ member axis)
  unfold Vector.offer
  dsimp only
  cases read : number runtime sample.value with
  | error error =>
      exact ofUnused stamp (fun parts axis value held part => (origin parts axis value held part).append _)
        spent other
  | ok value =>
      have put : ∀ parts axis' value',
          ((vector.frameOf sample).put axis value).values = some parts → parts axis' = some value' →
            Offered runtime setup (samples ++ [(channelId, sample)]) sensor axis' sample.tMonoNs
              value' := by
        intro parts axis' value' held part
        obtain ⟨before, isBefore, rfl⟩ := Option.map_eq_some_iff.mp held
        by_cases here : axis' = axis
        · rw [here, Function.update_self] at part
          cases part
          exact ⟨_, by simp, here ▸ key, read⟩
        · rw [Function.update_of_ne here] at part
          exact (origin before axis' value' isBefore part).append _
      dsimp only
      split
      · exact ofUnused stamp put spent other
      · exact ofUnused stamp put spent other

end Vector.Sound

/-- What is known of the app after its samples and the calls that they led to. -/
structure App.Sound (runtime : Runtime) (setup : Setup) (samples : List (Nat × Sample))
    (calls : List ImuCall) (app : App ε) : Prop where
  accel : Vector.Sound runtime setup samples .accel (calls.map fun call => call.accel.tMonoNs) app.accel
  gyro : Vector.Sound runtime setup samples .gyro (calls.map fun call => call.gyro.tMonoNs) app.gyro
  formed : ∀ call ∈ calls, WellFormed runtime setup samples call
  accelOnce : (calls.map fun call => call.accel.tMonoNs).Nodup
  gyroOnce : (calls.map fun call => call.gyro.tMonoNs).Nodup

theorem scaled_ok {vector : Vector} {scale : ℚ} {product : Vec}
    (made : App.scaled runtime vector scale = .ok product) :
    ∃ values, vector.complete = some values ∧
      product = fun axis => runtime.rounded ((values axis).mul (.finite scale)) := by
  unfold App.scaled at made
  split at made
  · cases made
  · rename_i values complete
    cases made
    exact ⟨values, complete, rfl⟩

theorem reading_of {vector : Vector} {values : Vec} (complete : vector.complete = some values) :
    App.reading vector = ⟨vector.tMonoNs, values⟩ := by
  rw [App.reading, complete]
  rfl

/-- A call is made of two complete vectors. -/
theorem imuCall_ok {accel gyro later : Vector} {call : ImuCall}
    (made : App.imuCall runtime setup accel gyro later = .ok call) :
    ∃ force rate, accel.complete = some force ∧ gyro.complete = some rate ∧
      call.accel = ⟨accel.tMonoNs, force⟩ ∧ call.gyro = ⟨gyro.tMonoNs, rate⟩ ∧
      (call.force = setup.mount fun axis =>
        runtime.rounded ((force axis).mul (.finite setup.accelScale))) ∧
      call.rate = setup.mount fun axis =>
        runtime.rounded ((rate axis).mul (.finite setup.gyroScale)) := by
  unfold App.imuCall at made
  obtain ⟨force, isForce, made⟩ := Attempt.bind_ok.mp made
  obtain ⟨rate, isRate, made⟩ := Attempt.bind_ok.mp made
  obtain ⟨t, -, made⟩ := Attempt.bind_ok.mp made
  cases made
  obtain ⟨forces, isForces, rfl⟩ := scaled_ok isForce
  obtain ⟨rates, isRates, rfl⟩ := scaled_ok isRate
  refine ⟨forces, rates, isForces, isRates, ?_, ?_, rfl, rfl⟩
  · exact reading_of isForces
  · exact reading_of isRates

theorem outputs_keeps (engine : Engine ε) (setup : Setup) (app : App ε) (tMonoNs : Int)
    (tWallMs : ℚ) (full : Bool) :
    (app.outputs engine setup tMonoNs tWallMs full).1.accel = app.accel ∧
      (app.outputs engine setup tMonoNs tWallMs full).1.gyro = app.gyro := by
  unfold App.outputs
  split
  · exact ⟨rfl, rfl⟩
  · dsimp only
    split
    · exact ⟨rfl, rfl⟩
    · split <;> exact ⟨rfl, rfl⟩

namespace App.Sound

variable {samples : List (Nat × Sample)} {calls : List ImuCall} {app app' : App ε}

theorem initial (start : ε) : App.Sound runtime setup [] [] ({ engine := start } : App ε) where
  accel := .initial .accel
  gyro := .initial .gyro
  formed := fun _ member => absurd member List.not_mem_nil
  accelOnce := List.nodup_nil
  gyroOnce := List.nodup_nil

/-- The vectors are all that counts. -/
theorem congr (sound : App.Sound runtime setup samples calls app) (accel : app'.accel = app.accel)
    (gyro : app'.gyro = app.gyro) : App.Sound runtime setup samples calls app' where
  accel := accel ▸ sound.accel
  gyro := gyro ▸ sound.gyro
  formed := sound.formed
  accelOnce := sound.accelOnce
  gyroOnce := sound.gyroOnce

/-- A call with two complete vectors that are fresh. -/
theorem call (sound : App.Sound runtime setup samples calls app) {call : ImuCall} {later : Vector}
    (freshAccel : app.accel.fresh = true) (freshGyro : app.gyro.fresh = true)
    (skew : |app.accel.tMonoNs - app.gyro.tMonoNs| ≤ maxPairSkewNs)
    (made : App.imuCall runtime setup { app.accel with fresh := false }
      { app.gyro with fresh := false } later = .ok call)
    (accel : app'.accel = { app.accel with fresh := false })
    (gyro : app'.gyro = { app.gyro with fresh := false }) :
    App.Sound runtime setup samples (calls ++ [call]) app' := by
  obtain ⟨force, rate, isForce, isRate, ofAccel, ofGyro, forced, rated⟩ := imuCall_ok made
  have completeAccel : app.accel.complete = some force := isForce
  have completeGyro : app.gyro.complete = some rate := isRate
  have someAccel : app.accel.complete.isSome = true := by rw [completeAccel]; rfl
  have someGyro : app.gyro.complete.isSome = true := by rw [completeGyro]; rfl
  have stampAccel : call.accel.tMonoNs = app.accel.tMonoNs := by rw [ofAccel]
  have stampGyro : call.gyro.tMonoNs = app.gyro.tMonoNs := by rw [ofGyro]
  refine ⟨?_, ?_, ?_, ?_, ?_⟩
  · rw [List.map_append, List.map_singleton, stampAccel, accel]
    exact sound.accel.use someAccel
  · rw [List.map_append, List.map_singleton, stampGyro, gyro]
    exact sound.gyro.use someGyro
  · intro each member
    rcases List.mem_append.mp member with before | now
    · exact sound.formed each before
    · rw [List.mem_singleton.mp now]
      refine ⟨?_, ?_, by rw [stampAccel, stampGyro]; exact skew, ?_, ?_⟩
      · rw [ofAccel]
        exact sound.accel.offered completeAccel
      · rw [ofGyro]
        exact sound.gyro.offered completeGyro
      · rw [forced, ofAccel]
      · rw [rated, ofGyro]
  · rw [List.map_append, List.map_singleton, stampAccel]
    rw [← List.concat_eq_append]
    exact sound.accelOnce.concat (sound.accel.unused freshAccel someAccel)
  · rw [List.map_append, List.map_singleton, stampGyro]
    rw [← List.concat_eq_append]
    exact sound.gyroOnce.concat (sound.gyro.unused freshGyro someGyro)

/-- `_maybe_step` keeps it. -/
theorem maybeStep (sound : App.Sound runtime setup samples calls app) :
    App.Sound runtime setup samples (calls ++ (app.maybeStep runtime engine setup).call.toList)
      (app.maybeStep runtime engine setup).app := by
  unfold App.maybeStep
  split
  · simpa using sound
  · rename_i both
    obtain ⟨freshAccel, freshGyro⟩ : app.accel.fresh = true ∧ app.gyro.fresh = true := by
      simpa using both
    split
    · split
      · rw [Option.toList_none, List.append_nil]
        exact { sound with gyro := sound.gyro.rested }
      · rw [Option.toList_none, List.append_nil]
        exact { sound with accel := sound.accel.rested }
    · rename_i near
      have skew := not_lt.mp near
      dsimp only
      split
      · rw [Option.toList_none, List.append_nil]
        exact { sound with accel := sound.accel.rested, gyro := sound.gyro.rested }
      · rename_i call made
        split
        · exact sound.call freshAccel freshGyro skew made rfl rfl
        · rename_i state _
          let stepped := { app with
            engine := state
            accel := { app.accel with fresh := false }
            gyro := { app.gyro with fresh := false } }
          obtain ⟨accel, gyro⟩ := outputs_keeps engine setup stepped _ _ _
          exact sound.call freshAccel freshGyro skew made accel gyro

theorem withVector (sound : App.Sound runtime setup samples calls app) {sensor : Sensor}
    {vector : Vector} (more : List (Nat × Sample))
    (kept : ∀ used, Vector.Sound runtime setup samples sensor used (app.vector sensor) →
      Vector.Sound runtime setup (samples ++ more) sensor used vector) :
    App.Sound runtime setup (samples ++ more) calls (app.withVector sensor vector) := by
  have formed : ∀ call ∈ calls, WellFormed runtime setup (samples ++ more) call :=
    fun call member => (sound.formed call member).append more
  cases sensor with
  | accel => exact ⟨kept _ sound.accel, sound.gyro.append more, formed, sound.accelOnce, sound.gyroOnce⟩
  | gyro => exact ⟨sound.accel.append more, kept _ sound.gyro, formed, sound.accelOnce, sound.gyroOnce⟩

theorem append (sound : App.Sound runtime setup samples calls app) (more : List (Nat × Sample)) :
    App.Sound runtime setup (samples ++ more) calls app where
  accel := sound.accel.append more
  gyro := sound.gyro.append more
  formed := fun call member => (sound.formed call member).append more
  accelOnce := sound.accelOnce
  gyroOnce := sound.gyroOnce

theorem observeImu (sound : App.Sound runtime setup samples calls app) {sensor : Sensor}
    {axis : Fin 3} {channelId : Nat} {sample : Sample}
    (key : imuKey setup (channelId, sample) = some (sensor, axis, sample.tMonoNs))
    (new : (sensor, axis, sample.tMonoNs) ∉ offers setup samples) :
    App.Sound runtime setup (samples ++ [(channelId, sample)])
      (calls ++ (app.observeImu runtime engine setup sensor axis sample).call.toList)
      (app.observeImu runtime engine setup sensor axis sample).app := by
  have offered := sound.withVector [(channelId, sample)] fun used kept => kept.offer key new
  unfold App.observeImu
  generalize (app.vector sensor).offer runtime axis sample = outcome at offered ⊢
  obtain ⟨vector, result⟩ := outcome
  cases result with
  | error error =>
      rw [Option.toList_none, List.append_nil]
      exact offered
  | ok done =>
      cases done with
      | false =>
          rw [Option.toList_none, List.append_nil]
          exact offered
      | true => exact offered.maybeStep

/-- A GNSS sample leaves the vectors alone. -/
theorem observeGnss_keeps (runtime : Runtime) (engine : Engine ε) (setup : Setup)
    (printed : SampleValue → Text) (app : App ε) (role : Role) (sample : Sample) :
    (app.observeGnss runtime engine setup printed role sample).1.accel = app.accel ∧
      (app.observeGnss runtime engine setup printed role sample).1.gyro = app.gyro := by
  unfold App.observeGnss App.observeAlt App.observeStd App.observeFix
  split
  · exact ⟨rfl, rfl⟩
  · split
    · exact ⟨rfl, rfl⟩
    · split
      · exact ⟨rfl, rfl⟩
      · split <;> exact ⟨rfl, rfl⟩
    · dsimp only
      split
      · exact ⟨rfl, rfl⟩
      · split
        · exact ⟨rfl, rfl⟩
        · split <;> exact ⟨rfl, rfl⟩
    · dsimp only
      split
      · exact ⟨rfl, rfl⟩
      · split
        · exact ⟨rfl, rfl⟩
        · split <;> exact ⟨rfl, rfl⟩

/-- `observe` keeps it, for a sample of the IMU whose axis and stamp are new. -/
theorem observe (sound : App.Sound runtime setup samples calls app) {channelId : Nat}
    {sample : Sample}
    (new : ∀ key, imuKey setup (channelId, sample) = some key → key ∉ offers setup samples) :
    App.Sound runtime setup (samples ++ [(channelId, sample)])
      (calls ++ (app.observe runtime engine setup printed channelId sample).call.toList)
      (app.observe runtime engine setup printed channelId sample).app := by
  have next := sound.append [(channelId, sample)]
  unfold App.observe
  split
  · simpa using next
  · rename_i sensor axis role
    have key : imuKey setup (channelId, sample) = some (sensor, axis, sample.tMonoNs) := by
      rw [imuKey, role]
    exact sound.observeImu key (new _ key)
  · rename_i role _ _
    obtain ⟨accel, gyro⟩ := observeGnss_keeps runtime engine setup printed app role sample
    split
    · rename_i app' error outcome
      rw [outcome] at accel gyro
      simpa using next.congr accel gyro
    · rename_i app' fixDone outcome
      rw [outcome] at accel gyro
      split
      · obtain ⟨accel', gyro'⟩ := outputs_keeps engine setup app' sample.tMonoNs sample.tWallMs true
        simpa using next.congr (accel'.trans accel) (gyro'.trans gyro)
      · simpa using next.congr accel gyro

/-- And so does a sequence of samples. -/
theorem observeAll (sound : App.Sound runtime setup samples calls app) (engine : Engine ε)
    (printed : SampleValue → Text) {more : List (Nat × Sample)}
    (once : (offers setup (samples ++ more)).Nodup) :
    App.Sound runtime setup (samples ++ more)
      (calls ++ (app.observeAll runtime engine setup printed more).2)
      (app.observeAll runtime engine setup printed more).1 := by
  induction more generalizing samples calls app with
  | nil => simpa [App.observeAll] using sound
  | cons first rest ih =>
      obtain ⟨channelId, sample⟩ := first
      have whole : samples ++ (channelId, sample) :: rest =
          samples ++ [(channelId, sample)] ++ rest := by simp
      rw [whole] at once ⊢
      have new : ∀ key, imuKey setup (channelId, sample) = some key → key ∉ offers setup samples := by
        intro key isKey member
        rw [offers, List.filterMap_append, List.filterMap_append, List.append_assoc] at once
        refine List.disjoint_of_nodup_append once member ?_
        rw [List.filterMap_cons, isKey]
        exact List.mem_cons_self
      rw [App.observeAll, ← List.append_assoc]
      exact ih (sound.observe new) once

end App.Sound

/-- Whatever the queues lose, the engine is called with three numbers of each sensor that were
captured together, the two stamps at most 20 ms apart, and with no reading twice. -/
theorem imu_frames (runtime : Runtime) (engine : Engine ε) (setup : Setup)
    (printed : SampleValue → Text) (start : ε) (samples : List (Nat × Sample))
    (once : (offers setup samples).Nodup) :
    let calls := (({ engine := start } : App ε).observeAll runtime engine setup printed samples).2
    (∀ call ∈ calls, WellFormed runtime setup samples call) ∧
      (calls.map fun call => call.accel.tMonoNs).Nodup ∧
      (calls.map fun call => call.gyro.tMonoNs).Nodup := by
  have sound : App.Sound runtime setup samples _ _ :=
    (App.Sound.initial start).observeAll engine printed once
  exact ⟨sound.formed, sound.accelOnce, sound.gyroOnce⟩

/-- An engine without a state that has nothing to show. -/
def idleEngine : Engine Unit where
  aligned := fun _ => false
  imu := fun state _ _ _ => (state, .ok ())
  gnssFix := fun state _ _ => (state, .ok ())
  gnssStd := fun state _ _ _ _ => (state, .ok ())
  gnssAlt := fun state _ _ => (state, .ok ())
  output := fun _ => .ok none

def imuSetup : Setup where
  roleById := Dict.ofRows Prod.fst Prod.snd
    ((List.finRange 3).map (fun axis => (1 + axis.val, .imu .accel axis)) ++
      (List.finRange 3).map fun axis => (4 + axis.val, .imu .gyro axis))
  accelScale := 1
  gyroScale := 1
  speedScale := 1
  mount := id
  needsMode := false
  emitPeriodNs := 20000000

/-- An acceleration whose `z` at 0 was lost, and a reading of both sensors after it. -/
def lossyFrames : List (Nat × Sample) :=
  [(1, 0), (2, 0), (1, 1000), (4, 3000), (2, 1000), (5, 3000), (6, 3000), (3, 1000)].map
    fun entry => (entry.1, ⟨"can", entry.2, 0, .float (.finite 1)⟩)

theorem imu_frames_lossy :
    let calls := (({ engine := () } : App Unit).observeAll plainRuntime idleEngine imuSetup
      (fun _ => []) lossyFrames).2
    calls.map (fun call => (call.accel.tMonoNs, call.gyro.tMonoNs)) = [(1000, 3000)] ∧
      (∀ call ∈ calls, WellFormed plainRuntime imuSetup lossyFrames call) ∧
      (calls.map fun call => call.accel.tMonoNs).Nodup ∧
      (calls.map fun call => call.gyro.tMonoNs).Nodup :=
  ⟨by decide +kernel, imu_frames plainRuntime idleEngine imuSetup (fun _ => []) () lossyFrames
    (by decide +kernel)⟩

end OpenLaps.FusionApp

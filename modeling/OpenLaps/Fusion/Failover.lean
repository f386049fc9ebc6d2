import Mathlib.Data.List.Induction
import OpenLaps.Fusion.Engine

/- Health of the IMU over whole runs: a latched fault keeps the filter out, and after a
failover it comes back only once the IMU has been good for long enough. -/
namespace OpenLaps.Fusion

/-- The times of the accepted samples, in order. -/
def takenAt (screened : List Screened) : List ℚ := (screened.filter (·.accepted)).map (·.t)

/-- The times of the bad samples, in order. -/
def refusedAt (screened : List Screened) : List ℚ := (screened.filter (!·.accepted)).map (·.t)

/-- The times at which a silence longer than `timeout` ended. -/
def silenceEnds (timeout : ℚ) : List ℚ → List ℚ
  | [] => []
  | [_] => []
  | earlier :: later :: rest =>
      (if timeout < later - earlier then [later] else []) ++ silenceEnds timeout (later :: rest)

/-- The IMU is current at `t`, and neither refused nor silent in the recovery time before. -/
structure Recovered (settings : EngineSettings) (screened : List Screened) (t : ℚ) : Prop where
  fresh : ∃ last, (takenAt screened).getLast? = some last ∧ t - last ≤ settings.imuTimeoutS
  credible : ∀ bad ∈ refusedAt screened, settings.imuRecoveryS ≤ t - bad
  unbroken : ∀ ending ∈ silenceEnds settings.imuTimeoutS (takenAt screened),
    settings.imuRecoveryS ≤ t - ending

@[simp] theorem takenAt_append (screened : List Screened) (sample : Screened) :
    takenAt (screened ++ [sample]) =
      takenAt screened ++ if sample.accepted then [sample.t] else [] := by
  by_cases taken : sample.accepted <;> simp [takenAt, taken]

@[simp] theorem refusedAt_append (screened : List Screened) (sample : Screened) :
    refusedAt (screened ++ [sample]) =
      refusedAt screened ++ if sample.accepted then [] else [sample.t] := by
  by_cases taken : sample.accepted <;> simp [refusedAt, taken]

theorem silenceEnds_append (timeout : ℚ) (taken : List ℚ) (t : ℚ) :
    silenceEnds timeout (taken ++ [t]) =
      silenceEnds timeout taken ++
        if taken.getLast?.any fun last => timeout < t - last then [t] else [] := by
  induction taken with
  | nil => simp [silenceEnds]
  | cons first rest ih =>
    cases rest with
    | nil => simp [silenceEnds]
    | cons second rest =>
      simp only [List.cons_append] at ih
      simp [silenceEnds, ih]

theorem takenAt_le {screened : List Screened} {t : ℚ} (past : ∀ sample ∈ screened, sample.t ≤ t) :
    ∀ taken ∈ takenAt screened, taken ≤ t := by
  intro taken member
  obtain ⟨sample, kept, rfl⟩ := List.mem_map.1 member
  exact past sample (List.mem_of_mem_filter kept)

theorem refusedAt_le {screened : List Screened} {t : ℚ}
    (past : ∀ sample ∈ screened, sample.t ≤ t) : ∀ bad ∈ refusedAt screened, bad ≤ t := by
  intro bad member
  obtain ⟨sample, kept, rfl⟩ := List.mem_map.1 member
  exact past sample (List.mem_of_mem_filter kept)

theorem mem_of_mem_silenceEnds {timeout t : ℚ} {taken : List ℚ}
    (ending : t ∈ silenceEnds timeout taken) : t ∈ taken := by
  induction taken with
  | nil => simp [silenceEnds] at ending
  | cons first rest ih =>
    cases rest with
    | nil => simp [silenceEnds] at ending
    | cons second rest =>
      simp only [silenceEnds, List.mem_append] at ending
      by_cases silent : timeout < second - first
      · have here : t = second ∨ t ∈ silenceEnds timeout (second :: rest) := by
          simpa [silent] using ending
        cases here with
        | inl same => simp [same]
        | inr later => exact List.mem_cons_of_mem first (ih later)
      · exact List.mem_cons_of_mem first (ih (by simpa [silent] using ending))

variable {num : Numerics} {settings : EngineSettings}

/-- What the flags of the engine say about the samples so far, none later than `now`. -/
structure Health (settings : EngineSettings) (engine : FusionEngine num) (now : ℚ) : Prop where
  latched : engine.imuFault = true → engine.ins = none
  stamp : engine.tImu = (takenAt engine.screened).getLast?
  past : ∀ sample ∈ engine.screened, sample.t ≤ now
  credible : ∀ since, engine.imuGoodSince = some since →
    ∀ bad ∈ refusedAt engine.screened, bad ≤ since
  unbroken : ∀ since, engine.imuGoodSince = some since →
    ∀ ending ∈ silenceEnds settings.imuTimeoutS (takenAt engine.screened), ending ≤ since

namespace FusionEngine

@[simp] theorem failOver_ins (engine : FusionEngine num) : engine.failOver.ins = none := by
  cases aligned : engine.ins <;> simp [failOver, aligned]

@[simp] theorem failOver_tImu (engine : FusionEngine num) :
    engine.failOver.tImu = engine.tImu := by
  cases aligned : engine.ins <;> simp [failOver, aligned]

@[simp] theorem failOver_screened (engine : FusionEngine num) :
    engine.failOver.screened = engine.screened := by
  cases aligned : engine.ins <;> simp [failOver, aligned]

end FusionEngine

/-- A step that leaves the health of the IMU alone and aligns nothing. -/
structure Kept (engine next : FusionEngine num) : Prop where
  fault : next.imuFault = engine.imuFault
  stamp : next.tImu = engine.tImu
  since : next.imuGoodSince = engine.imuGoodSince
  screened : next.screened = engine.screened
  unaligned : engine.ins = none → next.ins = none

namespace Kept

theorem refl (engine : FusionEngine num) : Kept engine engine := ⟨rfl, rfl, rfl, rfl, id⟩

theorem trans {first second third : FusionEngine num} (earlier : Kept first second)
    (later : Kept second third) : Kept first third where
  fault := by rw [later.fault, earlier.fault]
  stamp := by rw [later.stamp, earlier.stamp]
  since := by rw [later.since, earlier.since]
  screened := by rw [later.screened, earlier.screened]
  unaligned := fun none => later.unaligned (earlier.unaligned none)

theorem failOver (engine : FusionEngine num) : Kept engine engine.failOver := by
  cases aligned : engine.ins <;> constructor <;> simp [FusionEngine.failOver, aligned]

theorem trackStillness (engine : FusionEngine num) (f w : Vec) :
    Kept engine (engine.trackStillness f w) := by
  unfold FusionEngine.trackStillness
  extract_lets gravity still full
  by_cases averaged : (still && !engine.aligned) = true <;> simp only [averaged] <;>
    constructor <;> simp

theorem checkOutage (engine : FusionEngine num) (t : ℚ) :
    Kept engine (engine.checkOutage settings t) := by
  unfold FusionEngine.checkOutage
  split <;> constructor <;> simp

theorem constraints (engine : FusionEngine num) (t : ℚ) : Kept engine (engine.constraints t) := by
  unfold FusionEngine.constraints
  cases aligned : engine.ins with
  | none => exact refl engine
  | some ins =>
    simp only
    repeat' split
    all_goals constructor <;> simp [aligned]

theorem advance (engine : FusionEngine num) (previous : Option ℚ) (t : ℚ) (f w : Vec) :
    Kept engine (engine.advance settings previous t f w) := by
  unfold FusionEngine.advance
  split
  · rename_i ins previous aligned
    extract_lets dt
    split
    · exact refl engine
    · rename_i gaps stats moved later
      have propagated : Kept engine moved := by constructor <;> simp [moved, aligned]
      exact propagated.trans ((checkOutage moved t).trans (constraints _ t))
  · exact refl engine

theorem fuse (engine : FusionEngine num) (frame : num.Frame) (ins : num.Ins) (fix : GnssFix)
    (aligned : engine.ins = some ins) : Kept engine (engine.fuse settings frame ins fix) := by
  unfold FusionEngine.fuse
  simp only
  repeat' split
  all_goals constructor <;> simp [aligned]

theorem received (engine : FusionEngine num) (frame : num.Frame) (fix : GnssFix) :
    Kept engine (engine.received settings frame fix) := by
  unfold FusionEngine.received
  extract_lets read
  have kept : Kept engine read := by constructor <;> simp [read]
  split
  · exact kept.trans (failOver read)
  · exact kept

theorem gnssAlt (engine : FusionEngine num) (t alt : ℚ) :
    Kept engine (engine.gnssAlt settings t alt) := by
  unfold FusionEngine.gnssAlt
  repeat' split
  all_goals constructor <;> simp_all

end Kept

namespace Health

variable {engine next : FusionEngine num} {now t : ℚ}

theorem initial : Health settings ({} : FusionEngine num) now := by
  constructor <;> simp [takenAt, refusedAt]

theorem later (health : Health settings engine now) (order : now ≤ t) :
    Health settings engine t :=
  { health with past := fun sample member => (health.past sample member).trans order }

theorem kept (health : Health settings engine now) (step : Kept engine next) :
    Health settings next now where
  latched := by
    rw [step.fault]
    exact fun fault => step.unaligned (health.latched fault)
  stamp := by rw [step.stamp, step.screened, health.stamp]
  past := by simpa [step.screened] using health.past
  credible := by simpa only [step.since, step.screened] using health.credible
  unbroken := by simpa only [step.since, step.screened] using health.unbroken

/-- A bad sample latches the fault and drops the solution. -/
theorem refused (health : Health settings engine t) (f w : Vec) (bad : engine.bad f w = true) :
    Health settings (engine.remember t f w).latch t := by
  have past : ∀ sample ∈ engine.screened ++ [⟨t, false⟩], sample.t ≤ t := by
    simpa [or_imp, forall_and] using health.past
  by_cases fault : engine.imuFault = true
  · have dropped := health.latched fault
    constructor <;>
      simp_all [FusionEngine.remember, FusionEngine.latch, health.stamp]
  · cases aligned : engine.ins <;> constructor <;>
      simp_all [FusionEngine.remember, FusionEngine.latch, FusionEngine.failOver, health.stamp]

/-- What a good sample finds: it is in the record already, and its time is still to stamp. -/
structure Judged (settings : EngineSettings) (engine : FusionEngine num) (t start : ℚ)
    (before : List Screened) : Prop where
  recorded : engine.screened = before ++ [⟨t, true⟩]
  past : ∀ sample ∈ before, sample.t ≤ t
  stamp : engine.tImu = (takenAt before).getLast?
  latched : engine.imuFault = true → engine.ins = none
  since : engine.imuGoodSince = some start
  credible : ∀ bad ∈ refusedAt before, bad ≤ start
  unbroken : ∀ ending ∈ silenceEnds settings.imuTimeoutS (takenAt before), ending ≤ start

theorem good (health : Health settings engine t) (f w : Vec) (fine : ¬engine.bad f w = true) :
    ∃ start, Judged settings ((engine.remember t f w).good settings t) t start
      engine.screened := by
  have recorded : ((engine.remember t f w).good settings t).screened =
      engine.screened ++ [⟨t, true⟩] := by simp [FusionEngine.good, FusionEngine.remember, fine]
  have latched (fault : ((engine.remember t f w).good settings t).imuFault = true) :
      engine.ins = none := by
    simp only [FusionEngine.good, FusionEngine.remember, Bool.and_eq_true] at fault
    exact health.latched fault.1
  cases since : engine.imuGoodSince with
  | none =>
    refine ⟨t, recorded, health.past, health.stamp, latched, ?_, refusedAt_le health.past, ?_⟩
    · simp [FusionEngine.good, FusionEngine.remember, since]
    · intro ending member
      exact takenAt_le health.past ending (mem_of_mem_silenceEnds member)
  | some start =>
    refine ⟨start, recorded, health.past, health.stamp, latched, ?_,
      health.credible start since, health.unbroken start since⟩
    simp [FusionEngine.good, FusionEngine.remember, since]

/-- An accepted sample ends a silence only where the engine restarts the good time. -/
theorem stamped {start : ℚ} {before : List Screened}
    (judged : Judged settings engine t start before) :
    Health settings (engine.stamp settings t) t := by
  have past : ∀ sample ∈ before ++ [⟨t, true⟩], sample.t ≤ t := by
    simpa [or_imp, forall_and] using judged.past
  have ends := silenceEnds_append settings.imuTimeoutS (takenAt before) t
  rw [← judged.stamp] at ends
  by_cases silent : engine.backFromSilence settings t = true
  · have all : ∀ taken ∈ takenAt (before ++ [⟨t, true⟩]), taken ≤ t := takenAt_le past
    constructor <;> simp only [FusionEngine.stamp, silent, if_true, FusionEngine.failOver_screened,
      FusionEngine.failOver_tImu, FusionEngine.failOver_ins, judged.recorded]
    · simp
    · simp
    · exact past
    · simpa using refusedAt_le judged.past
    · intro since now ending member
      simp only [Option.some.injEq] at now
      exact now ▸ all ending (mem_of_mem_silenceEnds member)
  · have quiet : (engine.tImu.any fun last => settings.imuTimeoutS < t - last) = false := by
      simpa [FusionEngine.backFromSilence] using silent
    constructor <;> simp only [FusionEngine.stamp, silent, judged.recorded]
    · exact judged.latched
    · simp
    · exact past
    · simpa [judged.since] using judged.credible
    · simpa [judged.since, ends, quiet] using judged.unbroken

theorem accepted {start : ℚ} {before : List Screened}
    (judged : Judged settings engine t start before) (f w : Vec) :
    Health settings (engine.accepted settings t f w) t := by
  have read : Kept (engine.stamp settings t) { engine.stamp settings t with lastF := some f } := by
    constructor <;> simp
  exact (stamped judged).kept
    (read.trans ((Kept.trackStillness _ f w).trans (Kept.advance _ _ t f w)))

/-- Whatever the screen says, one sample keeps the record in step with the flags. -/
theorem imu (health : Health settings engine t) (f w : Vec) :
    Health settings (engine.imu settings t f w) t := by
  by_cases bad : engine.bad f w = true
  · simpa [FusionEngine.imu, FusionEngine.imuSampleOk, bad] using health.refused f w bad
  · obtain ⟨start, judged⟩ := health.good f w bad
    simpa [FusionEngine.imu, FusionEngine.imuSampleOk, bad] using accepted judged f w

theorem tryAlign (health : Health settings engine now) (frame : num.Frame) (fix : GnssFix)
    (clear : engine.imuFault = false) :
    Health settings (engine.tryAlign settings frame fix) now := by
  unfold FusionEngine.tryAlign
  split
  · exact health
  · constructor <;> simp only [clear]
    · simp
    · exact health.stamp
    · exact health.past
    · exact health.credible
    · exact health.unbroken

theorem gnssFix (health : Health settings engine now) (fix : GnssFix) :
    Health settings (engine.gnssFix settings fix) now := by
  unfold FusionEngine.gnssFix
  extract_lets frame engine'
  have received : Health settings engine' now := health.kept (Kept.received engine frame fix)
  split
  · rename_i ins aligned
    exact received.kept (Kept.fuse engine' frame ins fix aligned)
  · split
    · rename_i ready
      refine received.tryAlign frame fix ?_
      simp only [FusionEngine.imuHealthy, Bool.and_eq_true, Bool.not_eq_true'] at ready
      exact ready.1.1
    · exact received

theorem call (call : Call) (health : Health settings engine call.t) :
    Health settings (engine.call settings call) call.t := by
  cases call with
  | imu t f w => exact health.imu f w
  | gnssFix t lat lon speedMps courseDeg mode => exact health.gnssFix _
  | gnssStd t latStd lonStd altStd => exact health.kept (by constructor <;> simp [FusionEngine.call,
      FusionEngine.gnssStd])
  | gnssAlt t alt => exact health.kept (Kept.gnssAlt engine t alt)

theorem run (calls : List Call) (ordered : calls.Pairwise (·.t ≤ ·.t)) (now : ℚ)
    (past : ∀ call ∈ calls, call.t ≤ now) :
    Health settings (FusionEngine.run num settings calls) now := by
  induction calls using List.reverseRecOn generalizing now with
  | nil => exact initial
  | append_singleton calls call ih =>
    rw [List.pairwise_append] at ordered
    have before := ih ordered.1 call.t fun earlier member => ordered.2.2 earlier member call (by simp)
    have after := (before.call call).later (past call (by simp))
    simpa [FusionEngine.run] using after

/-- The good time covers the whole recovery time before `t`. -/
theorem recovered (health : Health settings engine now)
    (healthy : engine.imuHealthy settings t = true)
    (ready : engine.imuRecovered settings t = true) (failed : 0 < engine.stats.imuFailovers) :
    Recovered settings engine.screened t := by
  have never : engine.stats.imuFailovers ≠ 0 := by omega
  simp only [FusionEngine.imuHealthy, Bool.and_eq_true, Option.any_eq_true,
    decide_eq_true_eq, health.stamp] at healthy
  simp only [FusionEngine.imuRecovered, Option.any_eq_true, Bool.or_eq_true, decide_eq_true_eq,
    never, false_or] at ready
  obtain ⟨since, good, long⟩ := ready
  refine ⟨healthy.2, ?_, ?_⟩
  · intro bad member
    linarith [health.credible since good bad member]
  · intro ending member
    linarith [health.unbroken since good ending member]

end Health

namespace FusionEngine

variable {engine : FusionEngine num}

theorem imu_unaligned (t : ℚ) (f w : Vec) (unaligned : engine.ins = none) :
    (engine.imu settings t f w).ins = none := by
  by_cases bad : engine.bad f w = true
  · by_cases fault : engine.imuFault = true <;>
      simp [imu, imuSampleOk, bad, latch, remember, fault, unaligned]
  · have read : Kept (((engine.remember t f w).good settings t).stamp settings t)
        { ((engine.remember t f w).good settings t).stamp settings t with lastF := some f } := by
      constructor <;> simp
    have stamped : (((engine.remember t f w).good settings t).stamp settings t).ins = none := by
      unfold stamp
      split <;> simp [good, remember, unaligned]
    simpa [imu, imuSampleOk, bad, accepted] using
      (read.trans ((Kept.trackStillness _ f w).trans (Kept.advance _ _ t f w))).unaligned stamped

theorem gnssFix_aligns (fix : GnssFix) (unaligned : engine.ins = none)
    (aligned : (engine.gnssFix settings fix).ins ≠ none) :
    engine.imuHealthy settings fix.t = true ∧ engine.imuRecovered settings fix.t = true := by
  by_contra unready
  have waiting : (engine.imuHealthy settings fix.t && engine.imuRecovered settings fix.t) = false := by
    simpa using unready
  have read (frame : num.Frame) : engine.received settings frame fix =
      { engine with lastMode := fix.mode, fix := some fix, frame := some frame } := by
    simp [received, FusionEngine.aligned, unaligned]
  apply aligned
  simp only [gnssFix, read]
  split
  · simp_all
  · change (if engine.imuHealthy settings fix.t && engine.imuRecovered settings fix.t then _
      else _ : FusionEngine num).ins = none
    simp [waiting, unaligned]

end FusionEngine

def Call.isFix : Call → Bool
  | .gnssFix .. => true
  | _ => false

/-- Only a fix aligns, and only over an IMU that is healthy and has recovered. -/
theorem call_aligns {engine : FusionEngine num} {call : Call} (unaligned : engine.ins = none)
    (aligned : (engine.call settings call).ins ≠ none) :
    call.isFix ∧ engine.imuHealthy settings call.t = true ∧
      engine.imuRecovered settings call.t = true := by
  cases call with
  | imu t f w => exact absurd (FusionEngine.imu_unaligned t f w unaligned) aligned
  | gnssFix t lat lon speedMps courseDeg mode =>
    exact ⟨rfl, FusionEngine.gnssFix_aligns ⟨t, lat, lon, speedMps, courseDeg, modeOf mode⟩
      unaligned aligned⟩
  | gnssStd t latStd lonStd altStd => exact absurd unaligned aligned
  | gnssAlt t alt => exact absurd ((Kept.gnssAlt engine t alt).unaligned unaligned) aligned

theorem exists_latest (calls : List Call) : ∃ now, ∀ call ∈ calls, call.t ≤ now := by
  induction calls with
  | nil => simp
  | cons first rest ih =>
    obtain ⟨now, past⟩ := ih
    refine ⟨max first.t now, ?_⟩
    simpa using fun call member => Or.inr (past call member)

/-- In every run a latched fault keeps the filter out, and after a failover only a fix over
a recovered IMU brings it back. -/
theorem realigns_only_recovered (num : Numerics) (settings : EngineSettings) (calls : List Call)
    (ordered : calls.Pairwise (·.t ≤ ·.t)) :
    let engine := FusionEngine.run num settings calls
    (engine.imuFault = true → engine.aligned = false) ∧
      ∀ earlier call, earlier ++ [call] <+: calls →
        let before := FusionEngine.run num settings earlier
        before.aligned = false → (before.call settings call).aligned = true →
          call.isFix ∧
            (0 < before.stats.imuFailovers → Recovered settings before.screened call.t) := by
  intro engine
  constructor
  · intro fault
    obtain ⟨now, past⟩ := exists_latest calls
    simpa [FusionEngine.aligned] using (Health.run calls ordered now past).latched fault
  · intro earlier call begins before unaligned aligned
    have order := ordered.sublist begins.sublist
    rw [List.pairwise_append] at order
    have health : Health settings before call.t :=
      Health.run earlier order.1 call.t fun prior member => order.2.2 prior member call (by simp)
    obtain ⟨fix, healthy, ready⟩ := call_aligns (by simpa [FusionEngine.aligned] using unaligned)
      (by simpa [FusionEngine.aligned, Option.isSome_iff_ne_none] using aligned)
    exact ⟨fix, health.recovered healthy ready⟩

/-- A numerics without a filter, over which the gates alone decide. -/
def gatesOnly : Numerics where
  Ins := Unit
  Frame := Unit
  Sum := Unit
  norm := fun _ => 0
  radians := id
  horizontalStd := max
  localFrame := fun _ _ _ => ()
  gravity := fun _ => 98 / 10
  height := fun _ => 0
  raised := fun _ _ => ()
  zero := ()
  add := fun _ _ => ()
  halve := id
  propagate := fun _ _ _ _ => ()
  initialized := fun _ _ => ()
  updatePosition := fun _ _ _ _ _ _ => ((), true)
  reanchor := fun _ _ _ _ _ => ()
  updateVelocity := fun _ _ _ _ _ => ()
  antennaDown := fun _ _ => 0
  updateHeight := fun _ _ _ _ => ()
  speed := fun _ => 0
  holdStill := id
  holdVertical := id

/-- Aligned, then a bad sample at 1, good samples at 2 and 3 and the fix that aligns again. -/
def faultAndRecovery : List Call :=
  let rest : Vec := ⟨.finite 0, .finite 0, .finite 0⟩
  [.imu 0 rest rest, .gnssFix 0 0 0 10 0 "A", .imu 1 ⟨.nan, .finite 0, .finite 0⟩ rest,
    .imu 2 rest rest, .imu 3 rest rest]

theorem realigns_after_fault :
    let settings : EngineSettings := { imuTimeoutS := 3 }
    let before := FusionEngine.run gatesOnly settings faultAndRecovery
    before.stats.imuFailovers = 1 ∧ Recovered settings before.screened 3 :=
  ⟨by decide +kernel,
    ((realigns_only_recovered gatesOnly { imuTimeoutS := 3 }
      (faultAndRecovery ++ [.gnssFix 3 0 0 10 0 "A"]) (by decide +kernel)).2 faultAndRecovery
      (.gnssFix 3 0 0 10 0 "A") (List.prefix_refl _) (by decide +kernel) (by decide +kernel)).2
      (by decide +kernel)⟩

end OpenLaps.Fusion

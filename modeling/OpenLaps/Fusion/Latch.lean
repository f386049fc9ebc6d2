import Mathlib.Data.List.Chain
import Mathlib.Data.List.Pairwise
import OpenLaps.Fusion.Failover

/- How a latched fault of the IMU ends: after good samples only, and never over a silence,
except the one that the sample which ends the fault comes out of. -/
namespace OpenLaps.Fusion

/-- Which silences count against the time from `start` on: those between two samples of it, or
also the one that began before it. -/
inductive Silence where
  | inside
  | reaching

def Silence.counts : Silence → ℚ → ℚ → ℚ → Prop
  | .inside, start, earlier, _ => start ≤ earlier
  | .reaching, start, _, later => start < later

variable {num : Numerics} {settings : EngineSettings} {silence : Silence}
  {engine next : FusionEngine num} {now t : ℚ}

/-- The samples on record when a fault ends at `t`: all are good in the recovery time before,
one of them stands at its start behind the last bad one, and no silence breaks it. -/
structure Sustained (settings : EngineSettings) (silence : Silence) (screened : List Screened)
    (t : ℚ) : Prop where
  good : ∀ sample ∈ screened, t - settings.imuRecoveryS ≤ sample.t → sample.accepted = true
  covered : ∃ earlier sample later, screened = earlier ++ sample :: later ∧
    sample.accepted = true ∧ sample.t ≤ t - settings.imuRecoveryS ∧
    ∀ after ∈ later, after.accepted = true
  unbroken : (takenAt screened).IsChain fun first second =>
    silence.counts (t - settings.imuRecoveryS) first second →
      second - first ≤ settings.imuTimeoutS

/-- A sample that comes out of a silence that counts, or whose recovery time begins with the
very stamp of a bad sample. -/
def Interrupted (settings : EngineSettings) (silence : Silence) (engine : FusionEngine num)
    (t : ℚ) : Prop :=
  (∃ last ∈ engine.tImu, settings.imuTimeoutS < t - last ∧
      silence.counts (t - settings.imuRecoveryS) last t) ∨
    ∃ bad ∈ refusedAt engine.screened, bad = t - settings.imuRecoveryS

def Call.isImu : Call → Bool
  | .imu .. => true
  | _ => false

/-- A good sample that finds the fault latched and the good time long enough. -/
structure Clearing (settings : EngineSettings) (engine : FusionEngine num) (t : ℚ) (f w : Vec) :
    Prop where
  fault : engine.imuFault = true
  fine : engine.bad f w = false
  long : settings.imuRecoveryS ≤ t - engine.imuGoodSince.getD t

/-- The good time began with a good sample, and good samples only came after it. -/
def Started (engine : FusionEngine num) : Prop :=
  ∀ since, engine.imuGoodSince = some since →
    ∃ earlier later, engine.screened = earlier ++ ⟨since, true⟩ :: later ∧
      ∀ after ∈ later, after.accepted = true

namespace Started

theorem kept (started : Started engine) (step : Kept engine next) : Started next := by
  unfold Started
  rw [step.since, step.screened]
  exact started

theorem refused (f w : Vec) : Started (engine.remember t f w).latch := by
  intro since good
  unfold FusionEngine.latch at good
  dsimp only at good
  split at good
  · cases good
  · rw [(Kept.failOver _).since] at good
    cases good

theorem good (started : Started engine) (f w : Vec) (fine : engine.bad f w = false) :
    Started ((engine.remember t f w).good settings t) := by
  intro since same
  have recorded : ((engine.remember t f w).good settings t).screened =
      engine.screened ++ [⟨t, true⟩] := by
    simp [FusionEngine.good, FusionEngine.remember, fine]
  have begun : engine.imuGoodSince.getD t = since := Option.some.inj same
  rw [recorded]
  cases before : engine.imuGoodSince with
  | none =>
      rw [before] at begun
      refine ⟨engine.screened, [], ?_, by simp⟩
      rw [← begun]
      rfl
  | some start =>
      rw [before] at begun
      obtain ⟨earlier, later, split, all⟩ := started start before
      refine ⟨earlier, later ++ [⟨t, true⟩], ?_, ?_⟩
      · rw [split, ← begun]
        simp
      · intro after member
        rcases List.mem_append.mp member with old | new
        · exact all after old
        · rw [List.mem_singleton.mp new]

theorem stamped (started : Started engine)
    (last : ∃ earlier, engine.screened = earlier ++ [⟨t, true⟩]) :
    Started (engine.stamp settings t) := by
  unfold FusionEngine.stamp
  dsimp only
  split
  · intro since same
    cases same
    obtain ⟨earlier, split⟩ := last
    refine ⟨earlier, [], ?_, by simp⟩
    show (FusionEngine.failOver _).screened = _
    rw [FusionEngine.failOver_screened]
    exact split
  · exact started

end Started

namespace FusionEngine

/-- A fix leaves the record and the good time alone. -/
theorem gnssFix_record (engine : FusionEngine num) (fix : GnssFix) :
    (engine.gnssFix settings fix).screened = engine.screened ∧
      (engine.gnssFix settings fix).imuGoodSince = engine.imuGoodSince := by
  unfold gnssFix
  extract_lets frame engine'
  have received : Kept engine engine' := Kept.received engine frame fix
  split
  · rename_i ins aligned
    have fused : Kept engine (engine'.fuse settings frame ins fix) :=
      received.trans (Kept.fuse engine' frame ins fix aligned)
    exact ⟨fused.screened, fused.since⟩
  · split
    · unfold tryAlign
      split
      · exact ⟨received.screened, received.since⟩
      · exact ⟨received.screened, received.since⟩
    · exact ⟨received.screened, received.since⟩

/-- What `imu` does with an accepted sample after its stamp leaves the flags alone. -/
theorem stamp_accepted (engine : FusionEngine num) (t : ℚ) (f w : Vec) :
    Kept (engine.stamp settings t) (engine.accepted settings t f w) := by
  have read : Kept (engine.stamp settings t) { engine.stamp settings t with lastF := some f } := by
    constructor <;> simp
  exact read.trans ((Kept.trackStillness _ f w).trans (Kept.advance _ _ t f w))

theorem stamp_fault (engine : FusionEngine num) (t : ℚ) :
    (engine.stamp settings t).imuFault = engine.imuFault := by
  unfold stamp
  dsimp only
  split
  · exact (Kept.failOver { engine with tImu := some t }).fault
  · rfl

theorem stamp_screened (engine : FusionEngine num) (t : ℚ) :
    (engine.stamp settings t).screened = engine.screened := by
  unfold stamp
  dsimp only
  split
  · exact failOver_screened _
  · rfl

theorem latch_screened (engine : FusionEngine num) : engine.latch.screened = engine.screened := by
  unfold latch
  dsimp only
  split
  · rfl
  · exact failOver_screened _

theorem latch_fault (engine : FusionEngine num) : engine.latch.imuFault = true := by
  unfold latch
  dsimp only
  split
  · assumption
  · exact (Kept.failOver _).fault

theorem imu_fine (f w : Vec) (fine : engine.bad f w = false) :
    engine.imu settings t f w =
      ((engine.remember t f w).good settings t).accepted settings t f w := by
  simp [imu, imuSampleOk, fine]

theorem imu_bad (f w : Vec) (bad : engine.bad f w = true) :
    engine.imu settings t f w = (engine.remember t f w).latch := by
  simp [imu, imuSampleOk, bad]

/-- Every sample goes on the record. -/
theorem imu_screened (engine : FusionEngine num) (t : ℚ) (f w : Vec) :
    (engine.imu settings t f w).screened = engine.screened ++ [⟨t, !engine.bad f w⟩] := by
  cases verdict : engine.bad f w with
  | true =>
      rw [imu_bad f w verdict, latch_screened]
      simp [remember, verdict]
  | false =>
      rw [imu_fine f w verdict, (stamp_accepted _ t f w).screened, stamp_screened]
      simp [good, remember, verdict]

/-- Only a good sample after a long enough good time ends the fault. -/
theorem imu_clears (fault : engine.imuFault = true) (f w : Vec) :
    (engine.imu settings t f w).imuFault = false ↔ Clearing settings engine t f w := by
  cases verdict : engine.bad f w with
  | true =>
      rw [imu_bad f w verdict, latch_fault]
      constructor
      · intro ended
        cases ended
      · intro clearing
        rw [clearing.fine] at verdict
        cases verdict
  | false =>
      rw [imu_fine f w verdict, (stamp_accepted _ t f w).fault, stamp_fault]
      have flag : ((engine.remember t f w).good settings t).imuFault =
          (engine.imuFault && !decide (settings.imuRecoveryS ≤ t - engine.imuGoodSince.getD t)) :=
        rfl
      rw [flag, fault, Bool.true_and, Bool.not_eq_false', decide_eq_true_eq]
      exact ⟨fun long => ⟨fault, verdict, long⟩, fun clearing => clearing.long⟩

end FusionEngine

theorem Started.imu (started : Started engine) (f w : Vec) :
    Started (engine.imu settings t f w) := by
  cases verdict : engine.bad f w with
  | true =>
      rw [FusionEngine.imu_bad f w verdict]
      exact Started.refused f w
  | false =>
      rw [FusionEngine.imu_fine f w verdict]
      refine ((started.good f w verdict).stamped ⟨engine.screened, ?_⟩).kept
        (FusionEngine.stamp_accepted _ t f w)
      simp [FusionEngine.good, FusionEngine.remember, verdict]

/-- What holds of the record after every run whose IMU samples come in order. -/
structure Recorded (settings : EngineSettings) (engine : FusionEngine num) (now : ℚ) : Prop where
  health : Health settings engine now
  started : Started engine
  sorted : engine.screened.Pairwise (·.t ≤ ·.t)

namespace Recorded

theorem initial : Recorded settings ({} : FusionEngine num) now where
  health := Health.initial
  started := by
    intro since none
    cases none
  sorted := List.Pairwise.nil

theorem later (recorded : Recorded settings engine now) (order : now ≤ t) :
    Recorded settings engine t :=
  { recorded with health := recorded.health.later order }

theorem kept (recorded : Recorded settings engine now) (step : Kept engine next) :
    Recorded settings next now where
  health := recorded.health.kept step
  started := recorded.started.kept step
  sorted := by
    rw [step.screened]
    exact recorded.sorted

theorem imu (recorded : Recorded settings engine t) (f w : Vec) :
    Recorded settings (engine.imu settings t f w) t where
  health := recorded.health.imu f w
  started := recorded.started.imu f w
  sorted := by
    rw [FusionEngine.imu_screened, List.pairwise_append]
    refine ⟨recorded.sorted, List.pairwise_singleton _ _, ?_⟩
    intro earlier member sample only
    rw [List.mem_singleton.mp only]
    exact recorded.health.past earlier member

theorem gnssFix (recorded : Recorded settings engine now) (fix : GnssFix) :
    Recorded settings (engine.gnssFix settings fix) now := by
  have same : (engine.gnssFix settings fix).screened = engine.screened ∧
      (engine.gnssFix settings fix).imuGoodSince = engine.imuGoodSince :=
    FusionEngine.gnssFix_record engine fix
  refine ⟨recorded.health.gnssFix fix, ?_, ?_⟩
  · unfold Started
    rw [same.1, same.2]
    exact recorded.started
  · rw [same.1]
    exact recorded.sorted

/-- A call at the time it carries; only an IMU sample has to come in order. -/
theorem call (call : Call) (recorded : Recorded settings engine now)
    (order : call.isImu = true → now ≤ call.t) :
    Recorded settings (engine.call settings call) (if call.isImu then call.t else now) := by
  cases call with
  | imu t f w => exact (recorded.later (order rfl)).imu f w
  | gnssFix t lat lon speedMps courseDeg mode => exact recorded.gnssFix _
  | gnssStd t latStd lonStd altStd =>
      exact recorded.kept (by constructor <;> simp [FusionEngine.call, FusionEngine.gnssStd])
  | gnssAlt t alt => exact recorded.kept (Kept.gnssAlt engine t alt)

theorem run (calls : List Call) (ordered : (calls.filter Call.isImu).Pairwise (·.t ≤ ·.t))
    (now : ℚ) (past : ∀ call ∈ calls, call.isImu = true → call.t ≤ now) :
    Recorded settings (FusionEngine.run num settings calls) now := by
  induction calls using List.reverseRecOn generalizing now with
  | nil => exact initial
  | append_singleton calls call ih =>
    have folded : FusionEngine.run num settings (calls ++ [call]) =
        (FusionEngine.run num settings calls).call settings call := by simp [FusionEngine.run]
    rw [folded]
    rw [List.filter_append, List.pairwise_append] at ordered
    cases kind : call.isImu with
    | false =>
      have before := ih ordered.1 now fun earlier member imu => past earlier (by simp [member]) imu
      have after := before.call call fun imu => by simp [kind] at imu
      simpa [kind] using after
    | true =>
      have before := ih ordered.1 call.t fun earlier member imu =>
        ordered.2.2 earlier (List.mem_filter.mpr ⟨member, imu⟩) call (by simp [kind])
      have after := before.call call fun _ => le_refl call.t
      rw [if_pos kind] at after
      exact after.later (past call (by simp) kind)

/-- The silences before the good time are the only ones that the record still shows. -/
theorem ends_before {timeout since : ℚ} {taken : List ℚ}
    (ended : ∀ ending ∈ silenceEnds timeout taken, ending ≤ since) :
    taken.IsChain fun first second => timeout < second - first → second ≤ since := by
  induction taken with
  | nil => exact List.IsChain.nil
  | cons first rest ih =>
    cases rest with
    | nil => exact List.IsChain.singleton first
    | cons second rest =>
      refine List.isChain_cons_cons.mpr ⟨?_, ih fun ending member => ended ending ?_⟩
      · intro silent
        exact ended second (by simp [silenceEnds, silent])
      · rw [silenceEnds]
        exact List.mem_append_right _ member

theorem takenAt_sorted {screened : List Screened} (sorted : screened.Pairwise (·.t ≤ ·.t)) :
    (takenAt screened).Pairwise (· ≤ ·) :=
  List.pairwise_map.mpr (sorted.sublist List.filter_sublist)

/-- What stood on record before the sample that ends a fault, and where the good time began. -/
theorem credited (recorded : Recorded settings engine t) {f w : Vec}
    (clearing : Clearing settings engine t f w) :
    ∃ since ≤ t - settings.imuRecoveryS,
      (∀ bad ∈ refusedAt engine.screened, bad ≤ since) ∧
      (∀ ending ∈ silenceEnds settings.imuTimeoutS (takenAt engine.screened), ending ≤ since) ∧
      ∃ earlier later, engine.screened ++ [⟨t, true⟩] = earlier ++ ⟨since, true⟩ :: later ∧
        ∀ after ∈ later, after.accepted = true := by
  have fine : ¬engine.bad f w = true := by simp [clearing.fine]
  obtain ⟨start, judged⟩ := recorded.health.good f w fine
  have begun : engine.imuGoodSince.getD t = start := Option.some.inj judged.since
  have long := clearing.long
  rw [begun] at long
  have started : Started ((engine.remember t f w).good settings t) :=
    recorded.started.good f w clearing.fine
  have good := started start judged.since
  rw [judged.recorded] at good
  exact ⟨start, by linarith, judged.credible, judged.unbroken, good⟩

/-- The silences on record do not count, unless the sample itself comes out of one that does. -/
theorem unbroken_before (recorded : Recorded settings engine t) {since start : ℚ}
    (early : since ≤ start)
    (ended : ∀ ending ∈ silenceEnds settings.imuTimeoutS (takenAt engine.screened),
      ending ≤ since)
    (quiet : ∀ last ∈ engine.tImu, silence.counts start last t →
      t - last ≤ settings.imuTimeoutS) :
    (takenAt engine.screened).IsChain fun first second =>
      silence.counts start first second → second - first ≤ settings.imuTimeoutS := by
  refine (ends_before ended).imp_of_mem_imp ?_
  intro first second firstTaken _ before counts
  by_contra silent
  have secondEarly : second ≤ since := before (not_le.mp silent)
  cases silence with
  | reaching =>
      have late : start < second := counts
      linarith
  | inside =>
      have inside : start ≤ first := counts
      have some := List.ne_nil_of_mem firstTaken
      have stamp := recorded.health.stamp
      rw [List.getLast?_eq_some_getLast some] at stamp
      have last : first ≤ (takenAt engine.screened).getLast some :=
        (takenAt_sorted recorded.sorted).rel_getLast firstTaken
      have past := takenAt_le recorded.health.past _ (List.getLast_mem some)
      have here := quiet _ stamp (show start ≤ _ by linarith)
      have gap : settings.imuTimeoutS < second - first := not_le.mp silent
      linarith

/-- Where the good time is long enough, the record shows a sustained one exactly if nothing
interrupts it. -/
theorem sustained_iff (recorded : Recorded settings engine t) {f w : Vec}
    (clearing : Clearing settings engine t f w) :
    Sustained settings silence (engine.imu settings t f w).screened t ↔
      ¬Interrupted settings silence engine t := by
  have screened : (engine.imu settings t f w).screened = engine.screened ++ [⟨t, true⟩] := by
    rw [FusionEngine.imu_screened, clearing.fine, Bool.not_false]
  have taken : takenAt (engine.screened ++ [⟨t, true⟩]) = takenAt engine.screened ++ [t] := by simp
  rw [screened]
  constructor
  · rintro sustained (⟨last, stamp, silent, counts⟩ | ⟨bad, refused, first⟩)
    · have chain := sustained.unbroken
      rw [taken, List.isChain_append] at chain
      rw [recorded.health.stamp] at stamp
      have short := chain.2.2 last stamp t rfl counts
      linarith
    · obtain ⟨sample, member, rfl⟩ := List.mem_map.mp refused
      obtain ⟨old, rejected⟩ := List.mem_filter.mp member
      have good := sustained.good sample (List.mem_append_left _ old) first.ge
      simp [good] at rejected
  · intro free
    obtain ⟨since, early, credible, ended, began⟩ := recorded.credited clearing
    have quiet (last : ℚ) (stamp : last ∈ engine.tImu)
        (counts : silence.counts (t - settings.imuRecoveryS) last t) :
        t - last ≤ settings.imuTimeoutS := by
      by_contra silent
      exact free (.inl ⟨last, stamp, not_le.mp silent, counts⟩)
    refine ⟨?_, ?_, ?_⟩
    · intro sample member inside
      rcases List.mem_append.mp member with old | new
      · by_contra rejected
        have refused : sample.t ∈ refusedAt engine.screened :=
          List.mem_map.mpr ⟨sample, List.mem_filter.mpr ⟨old, by simp [rejected]⟩, rfl⟩
        have order := credible sample.t refused
        exact free (.inr ⟨sample.t, refused, le_antisymm (order.trans early) inside⟩)
      · rw [List.mem_singleton.mp new]
    · obtain ⟨earlier, later, split, all⟩ := began
      exact ⟨earlier, ⟨since, true⟩, later, split, rfl, early, all⟩
    · rw [taken, List.isChain_append]
      refine ⟨recorded.unbroken_before early ended quiet, List.isChain_singleton t, ?_⟩
      intro last stamp second only
      rw [← recorded.health.stamp] at stamp
      cases only
      exact quiet last stamp

end Recorded

/-- In every run whose IMU samples come in order, the faults end on sustained good data exactly
if no sample that ends one is interrupted. -/
theorem clears_sustained (num : Numerics) (settings : EngineSettings) (silence : Silence)
    (calls : List Call) (ordered : (calls.filter Call.isImu).Pairwise (·.t ≤ ·.t)) :
    (∀ earlier t f w, earlier ++ [.imu t f w] <+: calls →
      let before := FusionEngine.run num settings earlier
      let after := before.call settings (.imu t f w)
      before.imuFault = true → after.imuFault = false →
        Sustained settings silence after.screened t) ↔
    ∀ earlier t f w, earlier ++ [.imu t f w] <+: calls →
      let before := FusionEngine.run num settings earlier
      Clearing settings before t f w → ¬Interrupted settings silence before t := by
  have recorded {earlier : List Call} {t : ℚ} {f w : Vec}
      (begins : earlier ++ [.imu t f w] <+: calls) :
      Recorded settings (FusionEngine.run num settings earlier) t := by
    have order := ordered.sublist (begins.sublist.filter Call.isImu)
    rw [List.filter_append, List.pairwise_append] at order
    refine Recorded.run earlier order.1 t ?_
    intro call member imu
    exact order.2.2 call (List.mem_filter.mpr ⟨member, imu⟩) (.imu t f w) (by simp [Call.isImu])
  constructor
  · intro sustained earlier t f w begins before clearing
    have ended := (FusionEngine.imu_clears clearing.fault f w).mpr clearing
    exact ((recorded begins).sustained_iff clearing).mp
      (sustained earlier t f w begins clearing.fault ended)
  · intro free earlier t f w begins before after fault ended
    have clearing := (FusionEngine.imu_clears fault f w).mp ended
    exact ((recorded begins).sustained_iff clearing).mpr (free earlier t f w begins clearing)

/-- A bad sample at 9/10, then good ones that the stamps `good` give. -/
def latchedThen (good : List ℚ) : List Call :=
  let rest : Vec := ⟨.finite 0, .finite 0, .finite 0⟩
  .imu 0 rest rest :: .imu (9 / 10) ⟨.nan, .finite 0, .finite 0⟩ rest ::
    good.map fun t => .imu t rest rest

/-- The last sample ends the fault after 8/10 of silence. -/
theorem clears_over_silence :
    let settings : EngineSettings := {}
    let before := FusionEngine.run gatesOnly settings (latchedThen [1, 12 / 10])
    let rest : Vec := ⟨.finite 0, .finite 0, .finite 0⟩
    let after := before.call settings (.imu 2 rest rest)
    (latchedThen [1, 12 / 10, 2]).Pairwise (·.t ≤ ·.t) ∧ before.imuFault = true ∧
      after.imuFault = false ∧ ∀ silence, ¬Sustained settings silence after.screened 2 := by
  intro settings before rest after
  have taken : takenAt after.screened = [0, 1, 12 / 10, 2] := by decide +kernel
  refine ⟨by decide +kernel, by decide +kernel, by decide +kernel, ?_⟩
  intro silence sustained
  have chain := sustained.unbroken
  rw [taken] at chain
  simp only [List.isChain_cons_cons] at chain
  have counts : silence.counts (2 - settings.imuRecoveryS) (12 / 10) 2 := by
    cases silence with
    | inside => show (2 : ℚ) - 1 ≤ 12 / 10; norm_num
    | reaching => show (2 : ℚ) - 1 < 2; norm_num
  have short : (2 : ℚ) - 12 / 10 ≤ 25 / 100 := chain.2.2.1 counts
  norm_num at short

/-- A second of good data with no silence in it ends a fault. -/
theorem clears_on_good_data :
    let settings : EngineSettings := { imuTimeoutS := 3 }
    let rest : Vec := ⟨.finite 0, .finite 0, .finite 0⟩
    let before := FusionEngine.run gatesOnly settings
      [.imu 0 ⟨.nan, .finite 0, .finite 0⟩ rest, .imu 1 rest rest]
    Sustained settings .inside (before.call settings (.imu 2 rest rest)).screened 2 := by
  intro settings rest before
  have free : ∀ earlier t f w, earlier ++ [.imu t f w] <+:
      [.imu 0 ⟨.nan, .finite 0, .finite 0⟩ rest, .imu 1 rest rest, .imu 2 rest rest] →
      Clearing settings (FusionEngine.run gatesOnly settings earlier) t f w →
        ¬Interrupted settings .inside (FusionEngine.run gatesOnly settings earlier) t := by
    intro earlier t f w begins clearing
    rcases earlier with - | ⟨first, - | ⟨second, - | ⟨third, later⟩⟩⟩
    · exact absurd clearing.fault (by decide +kernel)
    · simp only [List.cons_append, List.nil_append, List.cons_prefix_cons, Call.imu.injEq] at begins
      obtain ⟨rfl, ⟨rfl, rfl, rfl⟩, -⟩ := begins
      exact absurd clearing.long (by decide +kernel)
    · simp only [List.cons_append, List.nil_append, List.cons_prefix_cons, Call.imu.injEq] at begins
      obtain ⟨rfl, rfl, ⟨rfl, rfl, rfl⟩, -⟩ := begins
      rintro (⟨last, stamp, silent, -⟩ | ⟨bad, refused, first⟩)
      · have at1 : last = 1 := by
          have stamped : (FusionEngine.run gatesOnly settings
            [.imu 0 ⟨.nan, .finite 0, .finite 0⟩ rest, .imu 1 rest rest]).tImu = some 1 := by
              decide +kernel
          rw [stamped] at stamp
          exact (Option.some.inj stamp).symm
        rw [at1] at silent
        exact absurd silent (by decide +kernel)
      · have only : refusedAt (FusionEngine.run gatesOnly settings
            [.imu 0 ⟨.nan, .finite 0, .finite 0⟩ rest, .imu 1 rest rest]).screened = [0] := by
          decide +kernel
        rw [only, List.mem_singleton] at refused
        rw [refused] at first
        exact absurd first (by decide +kernel)
    · simp [List.cons_prefix_cons] at begins
  exact (clears_sustained gatesOnly settings .inside _ (by decide +kernel)).mpr free
    [.imu 0 ⟨.nan, .finite 0, .finite 0⟩ rest, .imu 1 rest rest] 2 rest rest
    (List.prefix_refl _) (by decide +kernel) (by decide +kernel)

end OpenLaps.Fusion

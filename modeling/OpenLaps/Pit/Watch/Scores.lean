import Mathlib.Tactic.Linarith
import Mathlib.Tactic.NormNum
import OpenLaps.Pit.Watch.Outcomes

/- Every score of a monitor, of its rows and of its findings lies between zero and one. -/
namespace OpenLaps.Watch

def InUnit (score : ℚ) : Prop := 0 ≤ score ∧ score ≤ 1

/-- A finding that is open, with a score of the scale. -/
def Finding.Live (finding : Finding) : Prop := finding.closedAt = none ∧ InUnit finding.peakScore

/-- The score of a whole-car monitor is a distance, the others are of the scale. -/
def Kind.Sound : Kind → Prop
  | .envelope state => InUnit state.score
  | .ratio state => InUnit state.score
  | .counter state => InUnit state.score
  | .wholeCar state => 0 ≤ state.score
  | .drift state =>
    InUnit state.score ∧ 0 ≤ state.cusumUp ∧ 0 ≤ state.cusumDown ∧
      ∀ report, state.pending = some report → InUnit report.peakScore

/-- The scores of a row, its finding aside. -/
def Row.Scored (row : Row) : Prop := ∀ score, row.score = some score → InUnit score

structure Outcome.Sound (outcome : Outcome Kind) : Prop where
  state : outcome.state.Sound
  row : outcome.row.Scored
  report : ∀ report, outcome.row.finding = some report → InUnit report.peakScore
  judgement : ∀ judgement, outcome.judgement = some judgement → InUnit judgement.score

variable (numerics : Numerics)

theorem smooth_eq (window score next : ℚ) : smooth numerics window score next =
    (1 - numerics.ema window) * score + numerics.ema window * next := by
  unfold smooth
  ring

theorem smooth_nonneg {window score next : ℚ} (positive : 0 < window) (before : 0 ≤ score)
    (towards : 0 ≤ next) : 0 ≤ smooth numerics window score next := by
  have low := numerics.emaPos window positive
  have high := numerics.emaLtOne window positive
  have kept : 0 ≤ 1 - numerics.ema window := by linarith
  rw [smooth_eq]
  exact add_nonneg (mul_nonneg kept before) (mul_nonneg low.le towards)

theorem smooth_inUnit {window score next : ℚ} (positive : 0 < window) (before : InUnit score)
    (towards : InUnit next) : InUnit (smooth numerics window score next) := by
  have low := numerics.emaPos window positive
  have high := numerics.emaLtOne window positive
  have kept : 0 ≤ 1 - numerics.ema window := by linarith
  refine ⟨smooth_nonneg numerics positive before.1 towards.1, ?_⟩
  have stays := mul_le_mul_of_nonneg_left before.2 kept
  have moves := mul_le_mul_of_nonneg_left towards.2 low.le
  rw [smooth_eq]
  linarith

theorem outside_inUnit (outside : Prop) [Decidable outside] :
    InUnit (if outside then 1 else 0) := by
  by_cases far : outside <;> simp [InUnit, far]

theorem fraction_inUnit {value limit : ℚ} (positive : 0 < limit) (nonneg : 0 ≤ value) :
    InUnit (min 1 (value / limit)) :=
  ⟨le_min one_pos.le (div_nonneg nonneg positive.le), min_le_left _ _⟩

/-- A quiet second of a kind keeps it sound. -/
theorem Outcome.Quiet.sound {State Config : Type} {config : State → Config} {score : State → ℚ}
    {before : State} {outcome : Outcome State} (quiet : outcome.Quiet config score before)
    (kind : State → Kind) (kept : (kind outcome.state).Sound) :
    Outcome.Sound ⟨outcome.row, kind outcome.state, outcome.judgement⟩ where
  state := kept
  row := by
    intro score shown
    rw [quiet.rowScore] at shown
    simp at shown
  report := by
    intro report shown
    rw [quiet.finding] at shown
    simp at shown
  judgement := by
    intro judgement made
    rw [quiet.judgement] at made
    simp at made

/-- A judged second whose score is of the scale keeps a kind sound. -/
theorem judged_sound {kind : Kind} {row : Row} {judgement : Judgement} (sound : kind.Sound)
    (unit : InUnit judgement.score) (score : row.score = some judgement.score)
    (finding : row.finding = none) : Outcome.Sound ⟨row, kind, some judgement⟩ where
  state := sound
  row := by
    intro shown same
    rw [score, Option.some.injEq] at same
    rw [← same]
    exact unit
  report := by
    intro report shown
    rw [finding] at shown
    simp at shown
  judgement := by
    intro made same
    rw [Option.some.injEq] at same
    rw [← same]
    exact unit

theorem evaluate_sound {kind : Kind} (time : ℚ) (readings : Readings) (valid : Bool)
    (sound : kind.Sound) : (kind.evaluate numerics time readings valid).Sound := by
  cases kind with
  | envelope state =>
    obtain quiet | ⟨units, observed, stats, judged⟩ :=
      Envelope.evaluate_cases numerics time readings valid state
    · apply quiet.sound Kind.envelope
      simpa only [Kind.Sound, quiet.score] using sound
    · have unit := smooth_inUnit numerics state.config.windowPos sound
        (outside_inUnit (state.config.residualSigma <
          |(observed - stats.median) / scaleOf state.config.minScale stats|))
      simp only [Kind.evaluate, judged]
      exact judged_sound unit unit rfl rfl
  | ratio state =>
    obtain quiet | ⟨units, observed, stats, judged⟩ :=
      Ratio.evaluate_cases numerics time readings valid state
    · apply quiet.sound Kind.ratio
      simpa only [Kind.Sound, quiet.score] using sound
    · have unit := smooth_inUnit numerics state.config.windowPos sound
        (outside_inUnit (state.config.residualSigma <
          |(observed - stats.median) / scaleOf state.config.minScale stats|))
      simp only [Kind.evaluate, judged]
      exact judged_sound unit unit rfl rfl
  | counter state =>
    obtain quiet | ⟨units, history, observed, first, span, long, judged⟩ :=
      Counter.evaluate_cases time readings valid state
    · apply quiet.sound Kind.counter
      simpa only [Kind.Sound, quiet.score] using sound
    · have rises : 0 ≤ max 0 (observed - first) * 60 / span :=
        div_nonneg (mul_nonneg (le_max_left _ _) (by norm_num)) long.le
      have unit := fraction_inUnit state.config.opensAt rises
      simp only [Kind.evaluate, judged]
      exact judged_sound unit unit rfl rfl
  | wholeCar state =>
    obtain quiet | ⟨units, values, fit, judged⟩ :=
      WholeCar.evaluate_cases numerics time readings valid state
    · apply quiet.sound Kind.wholeCar
      simpa only [Kind.Sound, quiet.score] using sound
    · have nonneg := smooth_nonneg numerics state.config.windowPos sound
        (numerics.residual fit values).distanceNonneg
      simp only [Kind.evaluate, judged]
      exact judged_sound nonneg (fraction_inUnit state.config.opensAt nonneg) rfl rfl
  | drift state =>
    have counted := Drift.evaluate_counted time readings valid state
    obtain ⟨unit, up, down, pending⟩ := sound
    refine ⟨?_, ?_, ?_, ?_⟩
    · obtain ⟨units, sum, n, after⟩ := counted.state
      simp only [Kind.evaluate, after]
      exact ⟨unit, up, down, by simp⟩
    · intro score shown
      cases counted.rowScore with
      | inl none => simp [Kind.evaluate, none] at shown
      | inr some =>
        simp only [Kind.evaluate, some, Option.some.injEq] at shown
        rw [← shown]
        exact unit
    · intro report shown
      simp only [Kind.evaluate, counted.finding] at shown
      exact pending report shown
    · intro judgement made
      simp [Kind.evaluate, counted.judgement] at made

end OpenLaps.Watch

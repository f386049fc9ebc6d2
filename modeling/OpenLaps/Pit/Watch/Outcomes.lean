import Mathlib.Tactic.Linarith
import Mathlib.Tactic.NormNum
import OpenLaps.Pit.Watch.Monitors

/- What a second can do to a monitor: it is quiet about the finding, or it judges it. -/
namespace OpenLaps.Watch

/-- A second that leaves the finding and the score alone. -/
structure Outcome.Quiet {State Config : Type} (config : State → Config) (score : State → ℚ)
    (before : State) (outcome : Outcome State) : Prop where
  judgement : outcome.judgement = none
  finding : outcome.row.finding = none
  rowScore : outcome.row.score = none
  score : score outcome.state = score before
  config : config outcome.state = config before

/-- The report that waits for the next row. -/
def Kind.waiting : Kind → Option Finding
  | .drift state => state.pending
  | _ => none

/-- The observations of the current lap. -/
def Kind.lapN : Kind → Nat
  | .drift state => state.lapN
  | _ => 0

variable (numerics : Numerics) (time : ℚ) (readings : Readings) (valid : Bool)

theorem Envelope.learn_quiet (state : Envelope) (key : String) (observed : ℚ) :
    (state.learn key observed).score = state.score ∧
      (state.learn key observed).config = state.config := by
  by_cases full : state.config.baselineSeconds ≤ state.learned + 1 <;>
    simp [Envelope.learn, Envelope.freeze, full]

theorem Envelope.evaluate_cases (state : Envelope) :
    (state.evaluate numerics time readings valid).Quiet Envelope.config Envelope.score state ∨
      ∃ units observed stats, state.evaluate numerics time readings valid =
        { state with units := units }.judge numerics time readings observed stats := by
  unfold Envelope.evaluate
  dsimp only
  split
  · exact .inl ⟨rfl, rfl, rfl, rfl, rfl⟩
  · split
    · exact .inl ⟨rfl, rfl, rfl, rfl, rfl⟩
    · split
      · have learned := Envelope.learn_quiet
          { state with units := readings.units state.config.channels }
        exact .inl ⟨rfl, rfl, rfl, (learned _ _).1, (learned _ _).2⟩
      · split
        · exact .inl ⟨rfl, rfl, rfl, rfl, rfl⟩
        · exact .inr ⟨_, _, _, rfl⟩

theorem Ratio.learn_quiet (state : Ratio) (key : String) (observed : ℚ) :
    (state.learn key observed).score = state.score ∧
      (state.learn key observed).config = state.config := by
  by_cases full : state.config.baselineSeconds ≤ state.learned + 1 <;>
    simp [Ratio.learn, Ratio.freeze, full]

theorem Ratio.evaluate_cases (state : Ratio) :
    (state.evaluate numerics time readings valid).Quiet Ratio.config Ratio.score state ∨
      ∃ units observed stats, state.evaluate numerics time readings valid =
        { state with units := units }.judge numerics time readings observed stats := by
  unfold Ratio.evaluate
  dsimp only
  split
  · exact .inl ⟨rfl, rfl, rfl, rfl, rfl⟩
  · split
    · exact .inl ⟨rfl, rfl, rfl, rfl, rfl⟩
    · split
      · exact .inl ⟨rfl, rfl, rfl, rfl, rfl⟩
      · split
        · have learned := Ratio.learn_quiet
            { state with units := readings.units state.config.channels }
          exact .inl ⟨rfl, rfl, rfl, (learned _ _).1, (learned _ _).2⟩
        · split
          · exact .inl ⟨rfl, rfl, rfl, rfl, rfl⟩
          · exact .inr ⟨_, _, _, rfl⟩

theorem Counter.evaluate_cases (state : Counter) :
    (state.evaluate time readings valid).Quiet Counter.config Counter.score state ∨
      ∃ units history observed first span, 0 < span ∧
        (state.evaluate time readings valid) =
          { state with units := units, history := history }.judge time readings observed first
            span := by
  unfold Counter.evaluate
  dsimp only
  split
  · exact .inl ⟨rfl, rfl, rfl, rfl, rfl⟩
  · split
    · exact .inl ⟨rfl, rfl, rfl, rfl, rfl⟩
    · rename_i long
      have window : 0 < min state.config.scoreWindow 10 := lt_min state.config.windowPos (by norm_num)
      exact .inr ⟨_, _, _, _, _, window.trans_le (not_lt.1 long), rfl⟩

theorem WholeCar.learn_quiet (state : WholeCar) (values : List ℚ) :
    (state.learn numerics values).score = state.score ∧
      (state.learn numerics values).config = state.config := by
  by_cases full : state.config.baselineSeconds ≤ state.learned + 1 <;>
    simp [WholeCar.learn, WholeCar.freeze, full]

theorem WholeCar.evaluate_cases (state : WholeCar) :
    (state.evaluate numerics time readings valid).Quiet WholeCar.config WholeCar.score state ∨
      ∃ units values fit, state.evaluate numerics time readings valid =
        { state with units := units }.judge numerics time readings values fit := by
  unfold WholeCar.evaluate
  dsimp only
  split
  · exact .inl ⟨rfl, rfl, rfl, rfl, rfl⟩
  · split
    · exact .inl ⟨rfl, rfl, rfl, rfl, rfl⟩
    · split
      · have learned := WholeCar.learn_quiet numerics
          { state with units := readings.units state.config.channels }
        exact .inl ⟨rfl, rfl, rfl, (learned _).1, (learned _).2⟩
      · split
        · exact .inl ⟨rfl, rfl, rfl, rfl, rfl⟩
        · exact .inr ⟨_, _, _, rfl⟩

/-- A second of a drift monitor hands over the pending report and judges nothing. -/
structure Drift.Counted (before : Drift) (outcome : Outcome Drift) : Prop where
  judgement : outcome.judgement = none
  finding : outcome.row.finding = before.pending
  rowScore : outcome.row.score = none ∨ outcome.row.score = some before.score
  state : ∃ units sum n, outcome.state =
    { before with units := units, lapSum := sum, lapN := n, pending := none }

theorem Drift.evaluate_counted (state : Drift) :
    Drift.Counted state (state.evaluate time readings valid) := by
  unfold Drift.evaluate
  dsimp only
  split
  · exact ⟨rfl, rfl, .inl rfl, _, _, _, rfl⟩
  · split
    · exact ⟨rfl, rfl, .inl rfl, _, _, _, rfl⟩
    · split
      · split
        · exact ⟨rfl, rfl, .inl rfl, _, _, _, rfl⟩
        · exact ⟨rfl, rfl, .inl rfl, _, _, _, rfl⟩
      · split
        · exact ⟨rfl, rfl, .inr rfl, _, _, _, rfl⟩
        · exact ⟨rfl, rfl, .inr rfl, _, _, _, rfl⟩

/-- A lap without a judgement starts the next lap, with one more lap of the baseline at
most. -/
theorem Drift.onLap_cases (state : Drift) (found : Bool) (event : LapEvent) (time : ℚ) :
    ((state.onLap numerics found event time).2 = none ∧
      ((state.onLap numerics found event time).1 =
          { state with lapSum := 0, lapN := 0, lapDirty := false } ∨
        ∃ lap, (state.onLap numerics found event time).1 =
          { state with lapSum := 0, lapN := 0, lapDirty := false }.learn numerics lap)) ∨
      ∃ lap mean scale, state.config.minLapSamples ≤ state.lapN ∧ state.frozen = true ∧
        state.mean = some mean ∧ state.scale = some scale ∧
        state.onLap numerics found event time =
          ({ state with lapSum := 0, lapN := 0, lapDirty := false }.judge found lap mean
            scale).map id some := by
  unfold Drift.onLap
  dsimp only
  split
  · exact .inl ⟨rfl, .inl rfl⟩
  · rename_i clean
    simp only [Bool.not_eq_true', Bool.not_eq_false, Bool.and_eq_true, decide_eq_true_eq] at clean
    split
    · exact .inl ⟨rfl, .inr ⟨_, rfl⟩⟩
    · rename_i frozen
      split
      · rename_i mean scale known spread
        exact .inr ⟨_, mean, scale, clean.2, by simpa using frozen, known, spread, rfl⟩
      · exact .inl ⟨rfl, .inl rfl⟩

theorem evaluate_waiting (kind : Kind) :
    (kind.evaluate numerics time readings valid).state.waiting = none := by
  cases kind with
  | envelope state => rfl
  | ratio state => rfl
  | wholeCar state => rfl
  | counter state => rfl
  | drift state =>
    obtain ⟨units, sum, n, counted⟩ := (Drift.evaluate_counted time readings valid state).state
    show (state.evaluate time readings valid).state.pending = none
    rw [counted]

theorem evaluate_kind (monitor : Monitor) (evaluation : Evaluation) :
    (monitor.evaluate numerics evaluation).2.kind =
      (monitor.kind.evaluate numerics evaluation.time evaluation.readings
        evaluation.valid).state := by
  unfold Monitor.evaluate
  dsimp only
  split <;> rfl

/-- Numbers of the right kind, for a run that reads none of them. -/
def plainNumerics : Numerics where
  ema := fun window => 1 / (1 + window)
  pstdev := fun _ => 0
  fit := fun _ _ _ => ⟨[], [], [], [], []⟩
  residual := fun _ _ => ⟨0, [], le_refl 0⟩
  emaPos := by
    intro window positive
    apply div_pos one_pos
    linarith
  emaLtOne := by
    intro window positive
    rw [div_lt_one (by linarith)]
    linarith

/-- Errors counted over twenty seconds. -/
def errorCounter : CounterConfig where
  channel := "car.errors"
  gates := []
  scoreWindow := 20
  openFindingAbove := 1
  severity := .warning
  conditions := by decide
  windowPos := by norm_num
  opensAt := by norm_num

def errorsAt (fresh : Nat) (time errors : ℚ) : Evaluation :=
  ⟨fresh, time, fun _ => some ⟨errors, time, "count"⟩, true⟩

end OpenLaps.Watch

import OpenLaps.Lib.Lifecycle
import OpenLaps.Pit.Watch.Scores

/- Findings over a whole run: what happens between two ticks is in the row of the next, and
every finding is reported open, then closed once. -/
namespace OpenLaps.Watch

/-- What the engine does to a monitor in one second: laps and pit visits, then one
`evaluate`. -/
structure Second where
  between : List LapCall
  evaluation : Evaluation

def LapCall.ids : LapCall → List Nat
  | .onPit => []
  | .onLap fresh _ _ => [fresh]

def Second.ids (second : Second) : List Nat :=
  second.between.flatMap LapCall.ids ++ [second.evaluation.fresh]

namespace Monitor

def tell (numerics : Numerics) (monitor : Monitor) (calls : List LapCall) : Monitor :=
  calls.foldl (Monitor.told numerics) monitor

def second (numerics : Numerics) (monitor : Monitor) (second : Second) : Row × Monitor :=
  (monitor.tell numerics second.between).evaluate numerics second.evaluation

def through (numerics : Numerics) (monitor : Monitor) (seconds : List Second) : Monitor :=
  seconds.foldl (fun monitor second => (monitor.second numerics second).2) monitor

/-- The rows of a run of seconds. -/
def secondRows (numerics : Numerics) (monitor : Monitor) : List Second → List Row
  | [] => []
  | second :: rest =>
    (monitor.second numerics second).1 :: (monitor.second numerics second).2.secondRows numerics rest

end Monitor

/-- How the rows' findings are read. -/
def findingReading : Lifecycle.Reading Finding Nat ℚ where
  key := Finding.findingId
  peak := Finding.peakScore
  closed := fun finding => finding.closedAt.isSome

/-- What a transition reports is a turn of the finding's life. -/
theorem transition_step {current : Option Finding} {fresh : Nat} (time : ℚ)
    (judgement : Judgement) {ids : List Nat} (issued : fresh ∈ ids)
    (live : ∀ finding, current = some finding → finding.Live) :
    Lifecycle.Step findingReading ids current (transition current fresh time judgement).1
      (transition current fresh time judgement).2 := by
  unfold transition
  cases opens : judgement.openNow with
  | false =>
    cases current with
    | none => exact .quiet none
    | some finding =>
      apply Lifecycle.Step.closes finding
      · rfl
      · exact le_refl finding.peakScore
      · simp [findingReading]
  | true =>
    cases current with
    | none =>
      simp only [if_true, Option.getD_none, le_refl]
      apply Lifecycle.Step.opens
      · exact issued
      · simp [findingReading]
    | some finding =>
      have active := (live finding rfl).1
      simp only [if_true, Option.getD_some]
      by_cases higher : finding.peakScore ≤ judgement.score
      · simp only [higher, if_true]
        apply Lifecycle.Step.goesOn finding
        · rfl
        · exact higher
        · simp [findingReading, active]
      · simp only [higher, if_false]
        apply Lifecycle.Step.goesOn finding
        · rfl
        · exact le_refl finding.peakScore
        · simp [findingReading, active]

/-- A transition keeps findings live and reports scores of the scale. -/
theorem transition_live {current : Option Finding} (fresh : Nat) (time : ℚ)
    {judgement : Judgement} (live : ∀ finding, current = some finding → finding.Live)
    (unit : InUnit judgement.score) :
    (∀ finding, (transition current fresh time judgement).2 = some finding → finding.Live) ∧
      ∀ report, (transition current fresh time judgement).1 = some report →
        InUnit report.peakScore := by
  unfold transition
  cases opens : judgement.openNow with
  | false =>
    cases current with
    | none => simp
    | some finding =>
      have alive := live finding rfl
      refine ⟨by simp, ?_⟩
      intro report same
      simp only [Bool.false_eq_true, if_false, Option.some.injEq] at same
      rw [← same]
      exact alive.2
  | true =>
    have kept : ∀ finding : Finding, finding.Live →
        (if finding.peakScore ≤ judgement.score then
          { finding with peakScore := judgement.score, summary := judgement.summary }
          else finding).Live := by
      intro finding alive
      split
      · exact ⟨alive.1, unit⟩
      · exact alive
    have now := kept (current.getD ⟨fresh, time, none, judgement.severity, judgement.score,
      judgement.summary⟩) (by
        cases current with
        | none => exact ⟨rfl, unit⟩
        | some finding => exact live finding rfl)
    simp only [if_true, Option.some.injEq]
    constructor
    · intro finding same
      rw [← same]
      exact now
    · intro report same
      rw [← same]
      exact now.2

/-- A monitor with a sound state and a live finding. -/
structure Monitor.Sound (monitor : Monitor) : Prop where
  kind : monitor.kind.Sound
  live : ∀ finding, monitor.finding = some finding → finding.Live

theorem restarted_nonneg (settled : Prop) [Decidable settled] {value : ℚ} (nonneg : 0 ≤ value) :
    0 ≤ if settled then 0 else value := by
  split
  · exact le_refl 0
  · exact nonneg

theorem accumulated_nonneg (counts : Prop) [Decidable counts] {value : ℚ} (next : ℚ)
    (nonneg : 0 ≤ value) : 0 ≤ if counts then max 0 next else value := by
  split
  · exact le_max_left 0 next
  · exact nonneg

theorem judge_sound (state : Drift) (found : Bool) (lap : BaselineLap) (mean scale : ℚ)
    (up : 0 ≤ state.cusumUp) (down : 0 ≤ state.cusumDown) :
    0 ≤ (state.judge found lap mean scale).1.cusumUp ∧
      0 ≤ (state.judge found lap mean scale).1.cusumDown ∧
      InUnit (state.judge found lap mean scale).1.score ∧
      (state.judge found lap mean scale).2.score = (state.judge found lap mean scale).1.score := by
  have upwards : 0 ≤ (state.judge found lap mean scale).1.cusumUp := by
    apply restarted_nonneg
    apply accumulated_nonneg
    exact up
  have downwards : 0 ≤ (state.judge found lap mean scale).1.cusumDown := by
    apply restarted_nonneg
    apply accumulated_nonneg
    exact down
  have statistic : 0 ≤ max (state.judge found lap mean scale).1.cusumUp
      (state.judge found lap mean scale).1.cusumDown := le_max_of_le_left upwards
  exact ⟨upwards, downwards, fraction_inUnit state.config.thresholdPos statistic, rfl⟩

/-- What has happened since the last row: nothing to the finding, or one transition, after
which no lap has observations until the next `evaluate`. -/
def SinceRow (start : Option Finding) (ids : List Nat) (monitor : Monitor) : Prop :=
  (monitor.finding = start ∧ monitor.kind.waiting = none) ∨
    (monitor.kind.lapN = 0 ∧ ∃ fresh ∈ ids, ∃ time judgement, InUnit judgement.score ∧
      transition start fresh time judgement = (monitor.kind.waiting, monitor.finding))

variable (numerics : Numerics)

/-- A lap that is not judged leaves everything that concerns the finding alone. -/
theorem onLap_unjudged (state : Drift) (found : Bool) (event : LapEvent) (time : ℚ)
    (sound : (Kind.drift state).Sound)
    (unjudged : (state.onLap numerics found event time).2 = none) :
    (Kind.drift (state.onLap numerics found event time).1).Sound ∧
      (state.onLap numerics found event time).1.pending = state.pending ∧
      (state.onLap numerics found event time).1.lapN = 0 := by
  obtain ⟨_, same | ⟨lap, learned⟩⟩ | ⟨lap, mean, scale, _, _, _, _, judged⟩ :=
    Drift.onLap_cases numerics state found event time
  · rw [same]
    exact ⟨sound, rfl, rfl⟩
  · rw [learned]
    unfold Drift.learn
    dsimp only
    split
    · exact ⟨sound, rfl, rfl⟩
    · exact ⟨sound, rfl, rfl⟩
  · rw [judged] at unjudged
    simp at unjudged

/-- A judged lap had observations, and starts the next one without any. -/
theorem onLap_judged (state : Drift) (found : Bool) (event : LapEvent) (time : ℚ)
    (judgement : Judgement) (sound : (Kind.drift state).Sound)
    (judged : (state.onLap numerics found event time).2 = some judgement) :
    0 < state.lapN ∧ (state.onLap numerics found event time).1.lapN = 0 ∧
      InUnit judgement.score ∧
      ∀ pending, (∀ report, pending = some report → InUnit report.peakScore) →
        (Kind.drift { (state.onLap numerics found event time).1 with pending := pending }).Sound := by
  obtain ⟨none, _⟩ | ⟨lap, mean, scale, enough, _, _, _, made⟩ :=
    Drift.onLap_cases numerics state found event time
  · rw [none] at judged
    simp at judged
  · have samples := state.config.samples
    obtain ⟨_, up, down, _⟩ := sound
    have rules := judge_sound { state with lapSum := 0, lapN := 0, lapDirty := false } found lap
      mean scale up down
    rw [made] at judged ⊢
    simp only [Prod.map_snd, Option.some.injEq] at judged
    rw [← judged]
    refine ⟨by omega, rfl, ?_, ?_⟩
    · rw [rules.2.2.2]
      exact rules.2.2.1
    · intro pending unit
      exact ⟨rules.2.2.1, rules.1, rules.2.1, unit⟩

theorem told_sinceRow {start : Option Finding}
    (live : ∀ finding, start = some finding → finding.Live) {ids : List Nat} {monitor : Monitor}
    (sound : monitor.kind.Sound) (since : SinceRow start ids monitor) (call : LapCall) :
    SinceRow start (ids ++ call.ids) (monitor.told numerics call) ∧
      (monitor.told numerics call).kind.Sound ∧
      ((monitor.told numerics call).finding = monitor.finding ∨ monitor.finding = start) := by
  have later : ∀ after : Monitor, after.finding = monitor.finding →
      after.kind.waiting = monitor.kind.waiting →
      (monitor.kind.lapN = 0 → after.kind.lapN = 0) → SinceRow start (ids ++ call.ids) after := by
    intro after finding waiting lap
    unfold SinceRow
    rw [finding, waiting]
    cases since with
    | inl untouched => exact .inl untouched
    | inr changed =>
      obtain ⟨empty, fresh, issued, made⟩ := changed
      exact .inr ⟨lap empty, fresh, List.mem_append_left _ issued, made⟩
  obtain ⟨kind, finding⟩ := monitor
  cases kind with
  | envelope state => cases call <;> exact ⟨later _ rfl rfl id, sound, .inl rfl⟩
  | ratio state => cases call <;> exact ⟨later _ rfl rfl id, sound, .inl rfl⟩
  | counter state => cases call <;> exact ⟨later _ rfl rfl id, sound, .inl rfl⟩
  | wholeCar state => cases call <;> exact ⟨later _ rfl rfl id, sound, .inl rfl⟩
  | drift state =>
    cases call with
    | onPit => exact ⟨later _ rfl rfl id, sound, .inl rfl⟩
    | onLap fresh event time =>
      have unjudged := onLap_unjudged numerics state finding.isSome event time sound
      have judged := onLap_judged numerics state finding.isSome event time
      simp only [Monitor.told, Monitor.onLap]
      cases made : state.onLap numerics finding.isSome event time with
      | mk next judgement =>
        simp only [made] at unjudged judged
        cases judgement with
        | none =>
          have facts := unjudged rfl
          exact ⟨later _ rfl facts.2.1 fun _ => facts.2.2, facts.1, .inl rfl⟩
        | some judgement =>
          have facts := judged judgement sound rfl
          have untouched : finding = start ∧ state.pending = none := by
            cases since with
            | inl same => exact same
            | inr changed =>
              have empty : state.lapN = 0 := changed.1
              omega
          rw [untouched.1]
          have alive := transition_live fresh time live facts.2.2.1
          refine ⟨.inr ⟨facts.2.1, fresh, ?_, time, judgement, facts.2.2.1, rfl⟩, ?_, .inr rfl⟩
          · exact List.mem_append_right _ (by simp [LapCall.ids])
          · exact facts.2.2.2 _ alive.2

/-- What the laps between two rows come to. -/
theorem tell_sinceRow {start : Option Finding}
    (live : ∀ finding, start = some finding → finding.Live) (calls : List LapCall) {ids : List Nat}
    {monitor : Monitor} (sound : monitor.kind.Sound) (since : SinceRow start ids monitor) :
    SinceRow start (ids ++ calls.flatMap LapCall.ids) (monitor.tell numerics calls) ∧
      (monitor.tell numerics calls).kind.Sound ∧
      ((monitor.tell numerics calls).finding = monitor.finding ∨ monitor.finding = start) := by
  induction calls generalizing ids monitor with
  | nil => exact ⟨by simpa [Monitor.tell] using since, sound, .inl rfl⟩
  | cons call rest ih =>
    have one := told_sinceRow numerics live sound since call
    have more := ih one.2.1 one.1
    rw [List.append_assoc, ← List.flatMap_cons] at more
    refine ⟨more.1, more.2.1, ?_⟩
    cases one.2.2 with
    | inl same =>
      have final := more.2.2
      rw [same] at final
      exact final
    | inr here => exact .inr here

/-- A second hands over the waiting report, or judges where none waits. -/
theorem evaluate_report (kind : Kind) (time : ℚ) (readings : Readings) (valid : Bool) :
    ((kind.evaluate numerics time readings valid).judgement = none ∧
        (kind.evaluate numerics time readings valid).row.finding = kind.waiting) ∨
      ((kind.evaluate numerics time readings valid).judgement.isSome ∧ kind.waiting = none) := by
  cases kind with
  | envelope state =>
    obtain quiet | ⟨_, _, _, judged⟩ := Envelope.evaluate_cases numerics time readings valid state
    · exact .inl ⟨quiet.judgement, quiet.finding⟩
    · exact .inr ⟨by simp only [Kind.evaluate, judged, Envelope.judge, Option.isSome_some], rfl⟩
  | ratio state =>
    obtain quiet | ⟨_, _, _, judged⟩ := Ratio.evaluate_cases numerics time readings valid state
    · exact .inl ⟨quiet.judgement, quiet.finding⟩
    · exact .inr ⟨by simp only [Kind.evaluate, judged, Ratio.judge, Option.isSome_some], rfl⟩
  | counter state =>
    obtain quiet | ⟨_, _, _, _, _, _, judged⟩ := Counter.evaluate_cases time readings valid state
    · exact .inl ⟨quiet.judgement, quiet.finding⟩
    · exact .inr ⟨by simp only [Kind.evaluate, judged, Counter.judge, Option.isSome_some], rfl⟩
  | wholeCar state =>
    obtain quiet | ⟨_, _, _, judged⟩ := WholeCar.evaluate_cases numerics time readings valid state
    · exact .inl ⟨quiet.judgement, quiet.finding⟩
    · exact .inr ⟨by simp only [Kind.evaluate, judged, WholeCar.judge, Option.isSome_some], rfl⟩
  | drift state =>
    have counted := Drift.evaluate_counted time readings valid state
    exact .inl ⟨counted.judgement, counted.finding⟩

/-- What a second comes to for the finding. -/
structure SecondDone (numerics : Numerics) (monitor : Monitor) (second : Second) : Prop where
  step : Lifecycle.Step findingReading second.ids monitor.finding
    (monitor.second numerics second).1.finding (monitor.second numerics second).2.finding
  sound : (monitor.second numerics second).2.Sound
  settled : (monitor.second numerics second).2.kind.waiting = none
  scored : (monitor.second numerics second).1.Scored
  reported : ∀ report, (monitor.second numerics second).1.finding = some report →
    InUnit report.peakScore
  /-- The `evaluate` changes the finding only where no lap did. -/
  changesOnce : (monitor.second numerics second).2.finding =
      (monitor.tell numerics second.between).finding ∨
    (monitor.tell numerics second.between).finding = monitor.finding

/-- What the row of a second reports is a turn of the finding's life, with the changes of all
laps before it. -/
theorem second_done {monitor : Monitor} (sound : monitor.Sound)
    (settled : monitor.kind.waiting = none) (second : Second) :
    SecondDone numerics monitor second := by
  have start : SinceRow monitor.finding [] monitor := .inl ⟨rfl, settled⟩
  obtain ⟨since, kindSound, _⟩ :=
    tell_sinceRow numerics sound.live second.between sound.kind start
  rw [List.nil_append] at since
  have after := evaluate_sound numerics second.evaluation.time second.evaluation.readings
    second.evaluation.valid kindSound
  have waiting : (monitor.second numerics second).2.kind.waiting = none := by
    rw [Monitor.second, evaluate_kind]
    apply evaluate_waiting
  have early : ∀ fresh ∈ second.between.flatMap LapCall.ids, fresh ∈ second.ids :=
    fun fresh member => List.mem_append_left _ member
  have last : second.evaluation.fresh ∈ second.ids := List.mem_append_right _ (by simp)
  obtain ⟨quiet, report⟩ | ⟨judges, none⟩ := evaluate_report numerics
    (monitor.tell numerics second.between).kind second.evaluation.time second.evaluation.readings
    second.evaluation.valid
  · have made : monitor.second numerics second =
        (((monitor.tell numerics second.between).kind.evaluate numerics second.evaluation.time
          second.evaluation.readings second.evaluation.valid).row,
        ⟨((monitor.tell numerics second.between).kind.evaluate numerics second.evaluation.time
          second.evaluation.readings second.evaluation.valid).state,
          (monitor.tell numerics second.between).finding⟩) := by
      simp only [Monitor.second, Monitor.evaluate, quiet]
    have lived : Lifecycle.Step findingReading second.ids monitor.finding
          (monitor.tell numerics second.between).kind.waiting
          (monitor.tell numerics second.between).finding ∧
        ∀ finding, (monitor.tell numerics second.between).finding = some finding →
          finding.Live := by
      cases since with
      | inl untouched =>
        rw [untouched.1, untouched.2]
        exact ⟨.quiet _, sound.live⟩
      | inr changed =>
        obtain ⟨_, fresh, issued, time, judgement, unit, made⟩ := changed
        have step := transition_step time judgement (early fresh issued) sound.live
        have live := transition_live fresh time sound.live unit
        rw [made] at step live
        exact ⟨step, live.1⟩
    constructor
    · rw [made, report]
      exact lived.1
    · rw [made]
      exact ⟨after.state, lived.2⟩
    · exact waiting
    · rw [made]
      exact after.row
    · rw [made]
      exact after.report
    · rw [made]
      exact .inl rfl
  · obtain ⟨judgement, judged⟩ := Option.isSome_iff_exists.1 judges
    have same : (monitor.tell numerics second.between).finding = monitor.finding := by
      cases since with
      | inl untouched => exact untouched.1
      | inr changed =>
        obtain ⟨_, fresh, issued, time, judgement, _, made⟩ := changed
        have step := transition_step time judgement (early fresh issued) sound.live
        rw [made, none] at step
        exact step.eq_of_quiet
    have made : monitor.second numerics second =
        ({ ((monitor.tell numerics second.between).kind.evaluate numerics second.evaluation.time
            second.evaluation.readings second.evaluation.valid).row with
          finding := (transition monitor.finding second.evaluation.fresh second.evaluation.time
            judgement).1 },
        ⟨((monitor.tell numerics second.between).kind.evaluate numerics second.evaluation.time
          second.evaluation.readings second.evaluation.valid).state,
          (transition monitor.finding second.evaluation.fresh second.evaluation.time
            judgement).2⟩) := by
      simp only [Monitor.second, Monitor.evaluate, judged, same]
    have step := transition_step second.evaluation.time judgement last sound.live
    have live := transition_live second.evaluation.fresh second.evaluation.time sound.live
      (after.judgement judgement judged)
    constructor
    · rw [made]
      exact step
    · rw [made]
      exact ⟨after.state, live.1⟩
    · exact waiting
    · rw [made]
      exact after.row
    · rw [made]
      exact live.2
    · exact .inr same

theorem build_sound (config : MonitorConfig) (session : Option String) (stint : Option Nat) :
    ((buildMonitor config).sourcedFrom session stint).Sound := by
  have zero : InUnit 0 := ⟨le_refl 0, one_pos.le⟩
  cases config with
  | envelope config => exact ⟨zero, by simp [buildMonitor, Monitor.sourcedFrom]⟩
  | ratio config => exact ⟨zero, by simp [buildMonitor, Monitor.sourcedFrom]⟩
  | counter config => exact ⟨zero, by simp [buildMonitor, Monitor.sourcedFrom]⟩
  | wholeCar config => exact ⟨le_refl (0 : ℚ), by simp [buildMonitor, Monitor.sourcedFrom]⟩
  | drift config =>
    exact ⟨⟨zero, le_refl (0 : ℚ), le_refl (0 : ℚ), by simp⟩,
      by simp [buildMonitor, Monitor.sourcedFrom]⟩

theorem build_settled (config : MonitorConfig) (session : Option String) (stint : Option Nat) :
    ((buildMonitor config).sourcedFrom session stint).kind.waiting = none ∧
      ((buildMonitor config).sourcedFrom session stint).finding = none := by
  cases config <;> exact ⟨rfl, rfl⟩

theorem through_sound {monitor : Monitor} (sound : monitor.Sound)
    (settled : monitor.kind.waiting = none) (seconds : List Second) :
    (monitor.through numerics seconds).Sound ∧
      (monitor.through numerics seconds).kind.waiting = none := by
  induction seconds generalizing monitor with
  | nil => exact ⟨sound, settled⟩
  | cons second rest ih =>
    have done := second_done numerics sound settled second
    exact ih done.sound done.settled

/-- The turns of a run: the ids of each second and its row's finding. -/
def Monitor.turns (numerics : Numerics) (monitor : Monitor) :
    List Second → List (List Nat × Option Finding)
  | [] => []
  | second :: rest =>
    (second.ids, (monitor.second numerics second).1.finding) ::
      (monitor.second numerics second).2.turns numerics rest

theorem turns_issued (monitor : Monitor) (seconds : List Second) :
    Lifecycle.issued (monitor.turns numerics seconds) = seconds.flatMap Second.ids := by
  induction seconds generalizing monitor with
  | nil => rfl
  | cons second rest ih =>
    have tail := ih (monitor.second numerics second).2
    unfold Lifecycle.issued at tail ⊢
    rw [Monitor.turns, List.flatMap_cons, List.flatMap_cons, tail]

theorem turns_reports (monitor : Monitor) (seconds : List Second) :
    Lifecycle.reports (monitor.turns numerics seconds) =
      (monitor.secondRows numerics seconds).filterMap Row.finding := by
  induction seconds generalizing monitor with
  | nil => rfl
  | cons second rest ih =>
    have tail := ih (monitor.second numerics second).2
    unfold Lifecycle.reports at tail ⊢
    rw [Monitor.turns, Monitor.secondRows, List.filterMap_cons, List.filterMap_cons, tail]

theorem turns_snoc (monitor : Monitor) (seconds : List Second) (last : Second) :
    monitor.turns numerics (seconds ++ [last]) = monitor.turns numerics seconds ++
      [(last.ids, ((monitor.through numerics seconds).second numerics last).1.finding)] := by
  induction seconds generalizing monitor with
  | nil => rfl
  | cons second rest ih =>
    have tail := ih (monitor.second numerics second).2
    rw [List.cons_append, Monitor.turns, tail]
    rfl

theorem turns_course {monitor : Monitor} (sound : monitor.Sound)
    (settled : monitor.kind.waiting = none) (unopened : monitor.finding = none)
    (seconds : List Second) :
    Lifecycle.Course findingReading (monitor.turns numerics seconds)
      (monitor.through numerics seconds).finding := by
  induction seconds using List.reverseRecOn with
  | nil =>
    rw [Monitor.through, List.foldl_nil, unopened]
    exact .start
  | append_singleton seconds last ih =>
    obtain ⟨kept, quiet⟩ := through_sound numerics sound settled seconds
    have done := second_done numerics kept quiet last
    have after : monitor.through numerics (seconds ++ [last]) =
        ((monitor.through numerics seconds).second numerics last).2 := by
      simp [Monitor.through, List.foldl_append]
    rw [turns_snoc, after]
    exact ih.turn done.step

/-- A change of the finding in a second is what its row reports. -/
structure ChangeReported (start finish report : Option Finding) : Prop where
  opened : ∀ finding, start = none → finish = some finding →
    report = some finding ∧ finding.closedAt = none
  closed : ∀ finding, start = some finding → finish = none →
    ∃ last, report = some last ∧ last.findingId = finding.findingId ∧ last.closedAt.isSome
  kept : ∀ finding next, start = some finding → finish = some next →
    next.findingId = finding.findingId ∧ finding.peakScore ≤ next.peakScore ∧
      (report = some next ∨ report = none ∧ next = finding)
  quiet : start = none → finish = none → report = none

theorem step_reported {ids : List Nat} {start report finish : Option Finding}
    (step : Lifecycle.Step findingReading ids start report finish) :
    ChangeReported start finish report := by
  cases step with
  | quiet =>
    constructor
    · intro finding before after
      rw [before] at after
      simp at after
    · intro finding before after
      rw [before] at after
      simp at after
    · intro finding next before after
      rw [before, Option.some.injEq] at after
      exact ⟨by rw [after], by rw [after], .inr ⟨rfl, after.symm⟩⟩
    · exact fun _ _ => rfl
  | opens first issued active =>
    constructor
    · intro finding _ after
      rw [Option.some.injEq] at after
      rw [← after]
      exact ⟨rfl, by simpa [findingReading] using active⟩
    · simp
    · simp
    · simp
  | goesOn current next same higher active =>
    constructor
    · simp
    · simp
    · intro finding after before finish
      rw [Option.some.injEq] at before finish
      rw [← before, ← finish]
      exact ⟨same, higher, .inl rfl⟩
    · simp
  | closes current last same higher closed =>
    constructor
    · simp
    · intro finding before _
      rw [Option.some.injEq] at before
      rw [← before]
      exact ⟨last, rfl, same, closed⟩
    · simp
    · simp

/-- A gated second only hands over the report that waits. -/
def Monitor.handedOver (monitor : Monitor) : Monitor :=
  match monitor.kind with
  | .drift state => { monitor with kind := .drift { state with pending := none } }
  | _ => monitor

theorem evaluate_gated (monitor : Monitor) (evaluation : Evaluation)
    (gated : evaluation.valid = false) :
    (monitor.evaluate numerics evaluation).2 = monitor.handedOver := by
  obtain ⟨kind, finding⟩ := monitor
  cases kind <;> simp only [Monitor.evaluate, Kind.evaluate, Envelope.evaluate, Ratio.evaluate,
    Counter.evaluate, WholeCar.evaluate, Drift.evaluate, gated] <;> rfl

theorem secondRows_scored {monitor : Monitor} (sound : monitor.Sound)
    (settled : monitor.kind.waiting = none) (seconds : List Second) {row : Row}
    (member : row ∈ monitor.secondRows numerics seconds) :
    row.Scored ∧ ∀ report, row.finding = some report → InUnit report.peakScore := by
  induction seconds generalizing monitor with
  | nil => simp [Monitor.secondRows] at member
  | cons second rest ih =>
    have done := second_done numerics sound settled second
    rw [Monitor.secondRows, List.mem_cons] at member
    cases member with
    | inl first =>
      rw [first]
      exact ⟨done.scored, done.reported⟩
    | inr later => exact ih done.sound done.settled later

/-- In every run of a monitor with distinct ids: the reports are orderly; the change of each
second is in its row, and no lap between two rows opens or closes a finding that the row does not
report; scores are of the scale; and a gated second hands over the waiting report and changes
nothing else. -/
theorem finding_lifecycle (config : MonitorConfig) (session : Option String) (stint : Option Nat)
    (seconds : List Second) (distinct : (seconds.flatMap Second.ids).Nodup) :
    let monitor := (buildMonitor config).sourcedFrom session stint
    Lifecycle.Orderly findingReading
        ((monitor.secondRows numerics seconds).filterMap Row.finding) ∧
      (∀ before second after, seconds = before ++ second :: after →
        let start := monitor.through numerics before
        let finish := (start.second numerics second).2
        ChangeReported start.finding finish.finding (start.second numerics second).1.finding ∧
          ∀ calls rest, second.between = calls ++ rest →
            (start.tell numerics calls).finding = start.finding ∨
              (start.tell numerics calls).finding = finish.finding) ∧
      (∀ row ∈ monitor.secondRows numerics seconds,
        row.Scored ∧ ∀ report, row.finding = some report → InUnit report.peakScore) ∧
      ∀ (anyone : Monitor) (evaluation : Evaluation), evaluation.valid = false →
        (anyone.evaluate numerics evaluation).2 = anyone.handedOver := by
  have sound := build_sound config session stint
  obtain ⟨settled, unopened⟩ := build_settled config session stint
  generalize (buildMonitor config).sourcedFrom session stint = monitor at sound settled unopened
  refine ⟨?_, ?_, ?_, ?_⟩
  · have course := turns_course numerics sound settled unopened seconds
    have tracks := course.tracks (by rw [turns_issued]; exact distinct)
    rw [turns_reports] at tracks
    exact tracks.1.orderly
  · intro before second after _
    obtain ⟨kept, quiet⟩ := through_sound numerics sound settled before
    have done := second_done numerics kept quiet second
    refine ⟨step_reported done.step, ?_⟩
    intro calls rest split
    have start : SinceRow (monitor.through numerics before).finding []
        (monitor.through numerics before) := .inl ⟨rfl, quiet⟩
    have first := tell_sinceRow numerics kept.live calls kept.kind start
    have second_half := tell_sinceRow numerics kept.live rest first.2.1 first.1
    have all : (monitor.through numerics before).tell numerics second.between =
        ((monitor.through numerics before).tell numerics calls).tell numerics rest := by
      rw [split, Monitor.tell, List.foldl_append]
      rfl
    cases second_half.2.2 with
    | inr same => exact .inl same
    | inl same =>
      rw [← all] at same
      cases done.changesOnce with
      | inl here => exact .inr (by rw [here, same])
      | inr early => exact .inl (by rw [← same, early])
  · intro row member
    exact secondRows_scored numerics sound settled seconds member
  · intro anyone evaluation gated
    exact evaluate_gated numerics anyone evaluation gated

/-- A counter that rises, stands still, and is gated once while its finding is open. -/
def risingSeconds : List Second :=
  [⟨[], errorsAt 1 0 0⟩, ⟨[.onPit], errorsAt 2 15 5⟩,
    ⟨[.onLap 3 [] 16], { errorsAt 4 17 5 with valid := false }⟩, ⟨[], errorsAt 5 37 5⟩]

theorem rising_lifecycle :
    let monitor := (buildMonitor (.counter errorCounter)).sourcedFrom (some "race") none
    Lifecycle.Orderly findingReading
        ((monitor.secondRows plainNumerics risingSeconds).filterMap Row.finding) ∧
      (∀ before second after, risingSeconds = before ++ second :: after →
        let start := monitor.through plainNumerics before
        let finish := (start.second plainNumerics second).2
        ChangeReported start.finding finish.finding
            (start.second plainNumerics second).1.finding ∧
          ∀ calls rest, second.between = calls ++ rest →
            (start.tell plainNumerics calls).finding = start.finding ∨
              (start.tell plainNumerics calls).finding = finish.finding) ∧
      (∀ row ∈ monitor.secondRows plainNumerics risingSeconds,
        row.Scored ∧ ∀ report, row.finding = some report → InUnit report.peakScore) ∧
      ∀ (anyone : Monitor) (evaluation : Evaluation), evaluation.valid = false →
        (anyone.evaluate plainNumerics evaluation).2 = anyone.handedOver :=
  finding_lifecycle plainNumerics (.counter errorCounter) (some "race") none risingSeconds
    (by decide)

end OpenLaps.Watch

import OpenLaps.Pit.Watch.Outcomes

/- A checkpoint taken after an `evaluate` holds all of a monitor: restored into a fresh one,
it goes on the same, whatever ids its later findings get. -/
namespace OpenLaps.Watch

theorem lastOf_length_le {α : Type} (count : Nat) (items : List α) :
    (lastOf count items).length ≤ count := by
  simp only [lastOf, List.length_drop]
  omega

theorem lastOf_short {α : Type} {count : Nat} {items : List α} (short : items.length ≤ count) :
    lastOf count items = items := by
  have all : items.length - count = 0 := by omega
  simp [lastOf, all]

/-- What a checkpoint cuts or leaves to the fresh monitor is short or as in a fresh one. -/
def Kind.Restorable : Kind → Prop
  | .drift state => state.laps.length ≤ maxLapSeries
  | .counter state =>
    state.learned = 0 ∧ state.frozen = true ∧ state.history.length ≤ maxCounterHistory
  | _ => True

variable (numerics : Numerics)

theorem Counter.evaluate_restorable {state : Counter} (time : ℚ) (readings : Readings)
    (valid : Bool) (before : (Kind.counter state).Restorable) :
    (Kind.counter (state.evaluate time readings valid).state).Restorable := by
  have short : (state.remember time (readings.value state.config.channel)).length ≤
      maxCounterHistory := by
    apply ((List.dropWhile_suffix _).length_le).trans
    apply lastOf_length_le
  have counted : state.learned = 0 ∧ state.frozen = true ∧
      (state.remember time (readings.value state.config.channel)).length ≤ maxCounterHistory :=
    ⟨before.1, before.2.1, short⟩
  unfold Counter.evaluate
  dsimp only
  split
  · exact before
  · split
    · simpa only [Kind.Restorable] using counted
    · simpa only [Kind.Restorable, Counter.judge] using counted

theorem evaluate_restorable {kind : Kind} (time : ℚ) (readings : Readings) (valid : Bool)
    (before : kind.Restorable) :
    (kind.evaluate numerics time readings valid).state.Restorable := by
  cases kind with
  | envelope state => trivial
  | ratio state => trivial
  | wholeCar state => trivial
  | counter state => exact Counter.evaluate_restorable time readings valid before
  | drift state =>
    obtain ⟨units, sum, n, counted⟩ := (Drift.evaluate_counted time readings valid state).state
    show (state.evaluate time readings valid).state.laps.length ≤ maxLapSeries
    rw [counted]
    exact before

theorem onLap_laps {state : Drift} (found : Bool) (event : LapEvent) (time : ℚ)
    (before : state.laps.length ≤ maxLapSeries) :
    (state.onLap numerics found event time).1.laps.length ≤ maxLapSeries := by
  obtain ⟨_, same | ⟨lap, learned⟩⟩ | ⟨lap, mean, scale, _, _, _, _, judged⟩ :=
    Drift.onLap_cases numerics state found event time
  · rw [same]
    exact before
  · rw [learned]
    unfold Drift.learn
    dsimp only
    split
    · exact before
    · exact before
  · rw [judged]
    simp only [Prod.map_fst, id, Drift.judge]
    apply lastOf_length_le

theorem told_restorable {monitor : Monitor} (call : LapCall) (before : monitor.kind.Restorable) :
    (monitor.told numerics call).kind.Restorable := by
  obtain ⟨kind, finding⟩ := monitor
  cases call with
  | onPit => cases kind <;> exact before
  | onLap fresh event time =>
    cases kind with
    | envelope state => trivial
    | ratio state => trivial
    | wholeCar state => trivial
    | counter state => exact before
    | drift state =>
      have short := onLap_laps numerics finding.isSome event time before
      simp only [Monitor.told, Monitor.onLap]
      split
      · rename_i next quiet
        rw [quiet] at short
        exact short
      · rename_i next judgement judged
        rw [judged] at short
        exact short

theorem call_restorable {monitor : Monitor} (call : Call) (before : monitor.kind.Restorable) :
    (monitor.call numerics call).2.kind.Restorable := by
  cases call with
  | between call => exact told_restorable numerics call before
  | evaluate evaluation =>
    show (monitor.evaluate numerics evaluation).2.kind.Restorable
    rw [evaluate_kind]
    exact evaluate_restorable numerics _ _ _ before

theorem after_restorable {monitor : Monitor} (calls : List Call)
    (before : monitor.kind.Restorable) : (monitor.after numerics calls).kind.Restorable := by
  induction calls generalizing monitor with
  | nil => exact before
  | cons call rest ih => exact ih (call_restorable numerics call before)

theorem evaluate_config (kind : Kind) (time : ℚ) (readings : Readings) (valid : Bool) :
    (kind.evaluate numerics time readings valid).state.config = kind.config := by
  cases kind with
  | envelope state =>
    obtain quiet | ⟨_, _, _, judged⟩ := Envelope.evaluate_cases numerics time readings valid state
    · simp only [Kind.evaluate, Kind.config, quiet.config]
    · simp only [Kind.evaluate, Kind.config, judged, Envelope.judge]
  | ratio state =>
    obtain quiet | ⟨_, _, _, judged⟩ := Ratio.evaluate_cases numerics time readings valid state
    · simp only [Kind.evaluate, Kind.config, quiet.config]
    · simp only [Kind.evaluate, Kind.config, judged, Ratio.judge]
  | counter state =>
    obtain quiet | ⟨_, _, _, _, _, _, judged⟩ := Counter.evaluate_cases time readings valid state
    · simp only [Kind.evaluate, Kind.config, quiet.config]
    · simp only [Kind.evaluate, Kind.config, judged, Counter.judge]
  | wholeCar state =>
    obtain quiet | ⟨_, _, _, judged⟩ := WholeCar.evaluate_cases numerics time readings valid state
    · simp only [Kind.evaluate, Kind.config, quiet.config]
    · simp only [Kind.evaluate, Kind.config, judged, WholeCar.judge]
  | drift state =>
    obtain ⟨_, _, _, counted⟩ := (Drift.evaluate_counted time readings valid state).state
    simp only [Kind.evaluate, Kind.config, counted]

theorem onLap_config (state : Drift) (found : Bool) (event : LapEvent) (time : ℚ) :
    (state.onLap numerics found event time).1.config = state.config := by
  obtain ⟨_, same | ⟨lap, learned⟩⟩ | ⟨lap, mean, scale, _, _, _, _, judged⟩ :=
    Drift.onLap_cases numerics state found event time
  · rw [same]
  · rw [learned]
    unfold Drift.learn
    dsimp only
    split <;> rfl
  · rw [judged]
    simp only [Prod.map_fst, id, Drift.judge]

theorem call_config (monitor : Monitor) (call : Call) :
    (monitor.call numerics call).2.kind.config = monitor.kind.config := by
  cases call with
  | evaluate evaluation =>
    show (monitor.evaluate numerics evaluation).2.kind.config = _
    rw [evaluate_kind, evaluate_config]
  | between call =>
    obtain ⟨kind, finding⟩ := monitor
    cases call with
    | onPit => cases kind <;> rfl
    | onLap fresh event time =>
      cases kind with
      | envelope state => rfl
      | ratio state => rfl
      | wholeCar state => rfl
      | counter state => rfl
      | drift state =>
        have kept := onLap_config numerics state finding.isSome event time
        simp only [Monitor.call, Monitor.told, Monitor.onLap]
        split
        · rename_i next quiet
          rw [quiet] at kept
          exact congrArg MonitorConfig.drift kept
        · rename_i next judgement judged
          rw [judged] at kept
          exact congrArg MonitorConfig.drift kept

theorem after_config (monitor : Monitor) (calls : List Call) :
    (monitor.after numerics calls).kind.config = monitor.kind.config := by
  induction calls generalizing monitor with
  | nil => rfl
  | cons call rest ih =>
    show ((monitor.call numerics call).2.after numerics rest).kind.config = _
    rw [ih, call_config]

/-- A fresh monitor restored from the checkpoint of another is that monitor. -/
theorem restore_snapshot (monitor : Monitor) (restorable : monitor.kind.Restorable)
    (reported : monitor.kind.waiting = none) :
    (buildMonitor monitor.kind.config).restore monitor.snapshot = .ok monitor := by
  obtain ⟨kind, finding⟩ := monitor
  cases kind with
  | envelope state =>
    simp [Kind.config, buildMonitor, Monitor.restore, Monitor.snapshot, Envelope.snapshot,
      Checkpoint.fitting, Except.map, Envelope.restore]
  | ratio state =>
    simp [Kind.config, buildMonitor, Monitor.restore, Monitor.snapshot, Ratio.snapshot,
      Checkpoint.fitting, Except.map, Ratio.restore]
  | wholeCar state =>
    simp [Kind.config, buildMonitor, Monitor.restore, Monitor.snapshot, WholeCar.snapshot,
      Checkpoint.fitting, Except.map, WholeCar.restore]
  | counter state =>
    obtain ⟨learned, frozen, short⟩ := restorable
    simp [Kind.config, buildMonitor, Monitor.restore, Monitor.snapshot, Counter.snapshot,
      Checkpoint.fitting, Except.map, Counter.restore, lastOf_short short, ← learned, ← frozen]
  | drift state =>
    have short : state.laps.length ≤ maxLapSeries := restorable
    have none : state.pending = none := reported
    simp [Kind.config, buildMonitor, Monitor.restore, Monitor.snapshot, Drift.snapshot,
      Checkpoint.fitting, Except.map, Drift.restore, lastOf_short short, ← none]

/-- The ids of findings renamed. -/
def Finding.rename (rename : Nat → Nat) (finding : Finding) : Finding :=
  { finding with findingId := rename finding.findingId }

def Row.rename (rename : Nat → Nat) (row : Row) : Row :=
  { row with finding := row.finding.map (Finding.rename rename) }

def Drift.rename (rename : Nat → Nat) (state : Drift) : Drift :=
  { state with pending := state.pending.map (Finding.rename rename) }

/-- Only a pending report names a finding. -/
def Kind.rename (rename : Nat → Nat) : Kind → Kind
  | .drift state => .drift (state.rename rename)
  | kind => kind

def Monitor.rename (rename : Nat → Nat) (monitor : Monitor) : Monitor :=
  ⟨monitor.kind.rename rename, monitor.finding.map (Finding.rename rename)⟩

/-- The same call, where `uuid4` gives another id. -/
def Call.rename (rename : Nat → Nat) : Call → Call
  | .between .onPit => .between .onPit
  | .between (.onLap fresh event time) => .between (.onLap (rename fresh) event time)
  | .evaluate evaluation => .evaluate { evaluation with fresh := rename evaluation.fresh }

variable (rename : Nat → Nat)

theorem transition_rename (finding : Option Finding) (fresh : Nat) (time : ℚ)
    (judgement : Judgement) :
    transition (finding.map (Finding.rename rename)) (rename fresh) time judgement =
      (transition finding fresh time judgement).map (Option.map (Finding.rename rename))
        (Option.map (Finding.rename rename)) := by
  unfold transition
  cases judgement.openNow with
  | false => cases finding <;> rfl
  | true =>
    cases finding with
    | none => simp [Finding.rename]
    | some current =>
      by_cases higher : current.peakScore ≤ judgement.score <;> simp [Finding.rename, higher]

theorem Drift.onLap_rename (state : Drift) (found : Bool) (event : LapEvent) (time : ℚ) :
    (state.rename rename).onLap numerics found event time =
      (state.onLap numerics found event time).map (Drift.rename rename) id := by
  unfold Drift.onLap Drift.rename
  dsimp only
  split
  · rfl
  · split
    · unfold Drift.learn
      dsimp only
      split <;> rfl
    · cases state.mean with
      | none => rfl
      | some mean =>
        cases state.scale with
        | none => rfl
        | some scale => simp only [Prod.map, id, Drift.judge]

theorem Drift.evaluate_rename (state : Drift) (time : ℚ) (readings : Readings) (valid : Bool) :
    (state.rename rename).evaluate time readings valid =
      ⟨(state.evaluate time readings valid).row.rename rename,
        (state.evaluate time readings valid).state.rename rename,
        (state.evaluate time readings valid).judgement⟩ := by
  unfold Drift.evaluate Drift.rename
  dsimp only
  split
  · rfl
  · split
    · rfl
    · split
      · split <;> rfl
      · split <;> rfl

theorem onLap_rename (state : Drift) (finding : Option Finding) (fresh : Nat) (event : LapEvent)
    (time : ℚ) :
    (Monitor.rename rename ⟨.drift state, finding⟩).onLap numerics (rename fresh) event time =
      (Monitor.onLap numerics ⟨.drift state, finding⟩ fresh event time).rename rename := by
  have lap := Drift.onLap_rename numerics rename state finding.isSome event time
  simp only [Monitor.onLap, Monitor.rename, Kind.rename, Option.isSome_map, lap]
  cases made : state.onLap numerics finding.isSome event time with
  | mk next judgement =>
    cases judgement with
    | none => rfl
    | some judgement =>
      simp only [Prod.map_apply, id, transition_rename]
      rfl

theorem row_rename_quiet {row : Row} (quiet : row.finding = none) : row.rename rename = row := by
  unfold Row.rename
  rw [quiet, Option.map_none, ← quiet]

theorem Kind.evaluate_rename (kind : Kind) (time : ℚ) (readings : Readings) (valid : Bool) :
    (kind.rename rename).evaluate numerics time readings valid =
      ⟨(kind.evaluate numerics time readings valid).row.rename rename,
        (kind.evaluate numerics time readings valid).state.rename rename,
        (kind.evaluate numerics time readings valid).judgement⟩ := by
  cases kind with
  | drift state =>
    simp only [Kind.rename, Kind.evaluate, Drift.evaluate_rename]
  | envelope state =>
    have row : (state.evaluate numerics time readings valid).row.finding = none := by
      obtain quiet | ⟨_, _, _, judged⟩ :=
        Envelope.evaluate_cases numerics time readings valid state
      · exact quiet.finding
      · rw [judged, Envelope.judge]
    simp only [Kind.rename, Kind.evaluate, row_rename_quiet rename row]
  | ratio state =>
    have row : (state.evaluate numerics time readings valid).row.finding = none := by
      obtain quiet | ⟨_, _, _, judged⟩ := Ratio.evaluate_cases numerics time readings valid state
      · exact quiet.finding
      · rw [judged, Ratio.judge]
    simp only [Kind.rename, Kind.evaluate, row_rename_quiet rename row]
  | counter state =>
    have row : (state.evaluate time readings valid).row.finding = none := by
      obtain quiet | ⟨_, _, _, _, _, _, judged⟩ := Counter.evaluate_cases time readings valid state
      · exact quiet.finding
      · rw [judged, Counter.judge]
    simp only [Kind.rename, Kind.evaluate, row_rename_quiet rename row]
  | wholeCar state =>
    have row : (state.evaluate numerics time readings valid).row.finding = none := by
      obtain quiet | ⟨_, _, _, judged⟩ :=
        WholeCar.evaluate_cases numerics time readings valid state
      · exact quiet.finding
      · rw [judged, WholeCar.judge]
    simp only [Kind.rename, Kind.evaluate, row_rename_quiet rename row]

theorem Monitor.evaluate_rename (monitor : Monitor) (evaluation : Evaluation) :
    (monitor.rename rename).evaluate numerics
        { evaluation with fresh := rename evaluation.fresh } =
      (monitor.evaluate numerics evaluation).map (Row.rename rename) (Monitor.rename rename) := by
  simp only [Monitor.evaluate, Monitor.rename, Kind.evaluate_rename]
  cases (monitor.kind.evaluate numerics evaluation.time evaluation.readings
      evaluation.valid).judgement with
  | none => rfl
  | some judgement =>
    simp only [transition_rename]
    rfl

/-- A call with other ids does the same, with these ids. -/
theorem call_rename (monitor : Monitor) (call : Call) :
    (monitor.rename rename).call numerics (call.rename rename) =
      (monitor.call numerics call).map (Option.map (Row.rename rename))
        (Monitor.rename rename) := by
  cases call with
  | evaluate evaluation =>
    simp only [Call.rename, Monitor.call, Monitor.evaluate_rename]
    rfl
  | between call =>
    obtain ⟨kind, finding⟩ := monitor
    cases call with
    | onPit => cases kind <;> rfl
    | onLap fresh event time =>
      cases kind with
      | drift state =>
        simp only [Call.rename, Monitor.call, Monitor.told, onLap_rename]
        rfl
      | envelope state => rfl
      | ratio state => rfl
      | counter state => rfl
      | wholeCar state => rfl

theorem rows_rename (monitor : Monitor) (calls : List Call) :
    (monitor.rename rename).rows numerics (calls.map (Call.rename rename)) =
      (monitor.rows numerics calls).map (Row.rename rename) := by
  induction calls generalizing monitor with
  | nil => rfl
  | cons call rest ih =>
    simp only [List.map_cons, Monitor.rows, call_rename, Prod.map_fst, Prod.map_snd, ih,
      List.map_append]
    cases (monitor.call numerics call).1 <;> rfl

/-- Renaming leaves a monitor alone whose open finding keeps its id. -/
theorem rename_fixed {monitor : Monitor} (reported : monitor.kind.waiting = none)
    (fixed : ∀ finding, monitor.finding = some finding →
      rename finding.findingId = finding.findingId) : monitor.rename rename = monitor := by
  obtain ⟨kind, finding⟩ := monitor
  have same : finding.map (Finding.rename rename) = finding := by
    cases finding with
    | none => rfl
    | some finding => simp [Finding.rename, fixed finding rfl]
  have unnamed : kind.rename rename = kind := by
    cases kind with
    | drift state =>
      have none : state.pending = none := reported
      have kept : state.rename rename = state := by
        unfold Drift.rename
        rw [none, Option.map_none, ← none]
      exact congrArg Kind.drift kept
    | envelope state => rfl
    | ratio state => rfl
    | counter state => rfl
    | wholeCar state => rfl
  simp only [Monitor.rename, same, unnamed]

theorem build_restorable (config : MonitorConfig) (session : Option String) (stint : Option Nat) :
    ((buildMonitor config).sourcedFrom session stint).kind.Restorable := by
  cases config with
  | drift config => exact Nat.zero_le _
  | counter config => exact ⟨rfl, rfl, Nat.zero_le _⟩
  | envelope config => trivial
  | ratio config => trivial
  | wholeCar config => trivial

theorem config_build (config : MonitorConfig) (session : Option String) (stint : Option Nat) :
    ((buildMonitor config).sourcedFrom session stint).kind.config = config := by
  cases config <;> rfl

/-- After any history that ends with an `evaluate`, a fresh monitor restored from the snapshot
goes on as the original does, with other ids for the findings that open later. -/
theorem checkpoint_transparent (config : MonitorConfig) (session : Option String)
    (stint : Option Nat) (history : List Call) (last : Evaluation) (later : List Call)
    (fixed : ∀ finding, (((buildMonitor config).sourcedFrom session stint).after numerics
      (history ++ [.evaluate last])).finding = some finding →
        rename finding.findingId = finding.findingId) :
    ∃ restored, (buildMonitor config).restore
        (((buildMonitor config).sourcedFrom session stint).after numerics
          (history ++ [.evaluate last])).snapshot = .ok restored ∧
      restored.rows numerics (later.map (Call.rename rename)) =
        ((((buildMonitor config).sourcedFrom session stint).after numerics
          (history ++ [.evaluate last])).rows numerics later).map (Row.rename rename) := by
  have same := after_config numerics ((buildMonitor config).sourcedFrom session stint)
    (history ++ [.evaluate last])
  have restorable := after_restorable numerics (history ++ [.evaluate last])
    (build_restorable config session stint)
  rw [config_build] at same
  have reported : (((buildMonitor config).sourcedFrom session stint).after numerics
      (history ++ [.evaluate last])).kind.waiting = none := by
    simp only [Monitor.after, List.foldl_append, List.foldl_cons, List.foldl_nil, Monitor.call,
      Prod.map_snd, id, evaluate_kind]
    apply evaluate_waiting
  generalize ((buildMonitor config).sourcedFrom session stint).after numerics
    (history ++ [.evaluate last]) = monitor at *
  have restored := restore_snapshot monitor restorable reported
  rw [same] at restored
  have renamed := rows_rename numerics rename monitor later
  rw [rename_fixed rename reported fixed] at renamed
  exact ⟨monitor, restored, renamed⟩

/-- A restart while the finding with id 7 is open. -/
theorem errors_transparent :
    ∃ restored, (buildMonitor (.counter errorCounter)).restore
        (((buildMonitor (.counter errorCounter)).sourcedFrom (some "race") none).after
          plainNumerics ([.evaluate (errorsAt 6 0 0)] ++
            [.evaluate (errorsAt 7 15 5)])).snapshot = .ok restored ∧
      restored.rows plainNumerics ([.evaluate (errorsAt 8 16 6)].map
          (Call.rename fun id => if id = 7 then 7 else id + 100)) =
        ((((buildMonitor (.counter errorCounter)).sourcedFrom (some "race") none).after
          plainNumerics ([.evaluate (errorsAt 6 0 0)] ++
            [.evaluate (errorsAt 7 15 5)])).rows plainNumerics [.evaluate (errorsAt 8 16 6)]).map
          (Row.rename fun id => if id = 7 then 7 else id + 100) := by
  apply checkpoint_transparent
  intro finding found
  have opened : ((((buildMonitor (.counter errorCounter)).sourcedFrom (some "race") none).after
      plainNumerics ([.evaluate (errorsAt 6 0 0)] ++ [.evaluate (errorsAt 7 15 5)])).finding.map
        Finding.findingId) = some 7 := by
    decide +kernel
  rw [found, Option.map_some, Option.some.injEq] at opened
  simp [opened]

end OpenLaps.Watch

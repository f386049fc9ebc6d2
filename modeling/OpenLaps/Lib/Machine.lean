import Mathlib.Data.List.Basic

/- Runs of a partial step function over lists of events, with the induction
rules the protocol proofs use. Nothing here knows which system is run. -/
namespace Machine

universe u v

variable {σ : Type u} {ε : Type v}

/-- The state after all events; `none` as soon as one of them is not enabled. -/
def run (step : σ → ε → Option σ) : σ → List ε → Option σ
  | state, [] => some state
  | state, event :: rest => (step state event).bind fun next => run step next rest

@[simp] theorem run_nil (step : σ → ε → Option σ) (state : σ) :
    run step state [] = some state := rfl

theorem run_cons (step : σ → ε → Option σ) (state : σ) (event : ε) (rest : List ε) :
    run step state (event :: rest) = (step state event).bind fun next => run step next rest := rfl

theorem run_append (step : σ → ε → Option σ) (state : σ) (first second : List ε) :
    run step state (first ++ second) = (run step state first).bind fun next => run step next second := by
  induction first generalizing state with
  | nil => rfl
  | cons event rest ih =>
    rw [List.cons_append, run_cons, run_cons, Option.bind_assoc]
    exact congrArg _ (funext fun next => ih next)

/-- Every step taken along the run meets `allowed` in the state it starts from. -/
def Along (step : σ → ε → Option σ) (allowed : σ → ε → Prop) : σ → List ε → Prop
  | _, [] => True
  | state, event :: rest =>
    ∀ next, step state event = some next → allowed state event ∧ Along step allowed next rest

/-- Every state visited along the run, first and last included, meets `holds`. -/
def Always (step : σ → ε → Option σ) (holds : σ → Prop) : σ → List ε → Prop
  | state, [] => holds state
  | state, event :: rest =>
    holds state ∧ ∀ next, step state event = some next → Always step holds next rest

theorem Always.start {step : σ → ε → Option σ} {holds : σ → Prop} {state : σ} {events : List ε}
    (always : Always step holds state events) : holds state := by
  cases events with
  | nil => exact always
  | cons event rest => exact always.1

/-- The invariant rule for all runs. -/
theorem run_invariant {step : σ → ε → Option σ} (holds : σ → Prop)
    (preserved : ∀ state event next, holds state → step state event = some next → holds next)
    (events : List ε) (state final : σ) (start : holds state)
    (reached : run step state events = some final) : holds final := by
  induction events generalizing state with
  | nil =>
    cases reached
    exact start
  | cons event rest ih =>
    rw [run_cons] at reached
    obtain ⟨next, taken, later⟩ := Option.bind_eq_some_iff.mp reached
    exact ih next (preserved state event next start taken) later

/-- The invariant rule for runs whose steps are all `allowed`. -/
theorem always_of_along {step : σ → ε → Option σ} {allowed : σ → ε → Prop}
    {holds : σ → Prop} (invariant : σ → Prop) (implies : ∀ state, invariant state → holds state)
    (preserved : ∀ state event next, invariant state → allowed state event →
      step state event = some next → invariant next)
    (events : List ε) (state : σ) (start : invariant state)
    (along : Along step allowed state events) : Always step holds state events := by
  induction events generalizing state with
  | nil => exact implies state start
  | cons event rest ih =>
    refine ⟨implies state start, ?_⟩
    intro next taken
    obtain ⟨permitted, later⟩ := along next taken
    exact ih next (preserved state event next start permitted taken) later

/-- When a step that is not `allowed` breaks `holds` at once, the runs that keep
`holds` are exactly the runs of `allowed` steps. -/
theorem always_iff_along {step : σ → ε → Option σ} {allowed : σ → ε → Prop}
    {holds : σ → Prop} (invariant : σ → Prop) (implies : ∀ state, invariant state → holds state)
    (preserved : ∀ state event next, invariant state → allowed state event →
      step state event = some next → invariant next)
    (needed : ∀ state event next, invariant state → step state event = some next →
      holds next → allowed state event)
    (events : List ε) (state : σ) (start : invariant state) :
    Always step holds state events ↔ Along step allowed state events := by
  refine ⟨?_, always_of_along invariant implies preserved events state start⟩
  induction events generalizing state with
  | nil => exact fun _ => trivial
  | cons event rest ih =>
    intro always next taken
    have later := always.2 next taken
    have permitted := needed state event next start taken later.start
    exact ⟨permitted, ih next (preserved state event next start permitted taken) later⟩

/-- Events that are allowed in any state. -/
theorem along_of_forall {step : σ → ε → Option σ} {allowed : σ → ε → Prop} (events : List ε)
    (state : σ) (each : ∀ event ∈ events, ∀ state, allowed state event) :
    Along step allowed state events := by
  induction events generalizing state with
  | nil => trivial
  | cons event rest ih =>
    intro next taken
    refine ⟨each event List.mem_cons_self state, ih next ?_⟩
    intro other member
    exact each other (List.mem_cons_of_mem event member)

/-- `Along` by running. -/
def checks (step : σ → ε → Option σ) (test : σ → ε → Bool) : σ → List ε → Bool
  | _, [] => true
  | state, event :: rest =>
    match step state event with
    | none => true
    | some next => test state event && checks step test next rest

theorem along_of_checks {step : σ → ε → Option σ} {test : σ → ε → Bool} (events : List ε)
    (state : σ) (checked : checks step test state events = true) :
    Along step (fun state event => test state event = true) state events := by
  induction events generalizing state with
  | nil => trivial
  | cons event rest ih =>
    intro next taken
    rw [checks, taken] at checked
    obtain ⟨here, later⟩ := (Bool.and_eq_true _ _).mp checked
    exact ⟨here, ih next later⟩

theorem Along.imp {step : σ → ε → Option σ} {first second : σ → ε → Prop} {events : List ε}
    {state : σ} (along : Along step first state events)
    (weaker : ∀ state event, first state event → second state event) :
    Along step second state events := by
  induction events generalizing state with
  | nil => trivial
  | cons event rest ih =>
    intro next taken
    have ⟨here, later⟩ := along next taken
    exact ⟨weaker state event here, ih later⟩

theorem along_and {step : σ → ε → Option σ} {first second : σ → ε → Prop} (events : List ε)
    (state : σ) (one : Along step first state events) (two : Along step second state events) :
    Along step (fun state event => first state event ∧ second state event) state events := by
  induction events generalizing state with
  | nil => trivial
  | cons event rest ih =>
    intro next taken
    have ⟨here, later⟩ := one next taken
    have ⟨too, rest⟩ := two next taken
    exact ⟨⟨here, too⟩, ih next later rest⟩

/-- Two conditions on steps that agree wherever an invariant holds, one of which keeps
it, hold along the same runs. -/
theorem along_congr {step : σ → ε → Option σ} {first second : σ → ε → Prop} (invariant : σ → Prop)
    (preserved : ∀ state event next, invariant state → second state event →
      step state event = some next → invariant next)
    (agree : ∀ state event next, invariant state → step state event = some next →
      (first state event ↔ second state event))
    (events : List ε) (state : σ) (start : invariant state) :
    Along step first state events ↔ Along step second state events := by
  induction events generalizing state with
  | nil => exact Iff.rfl
  | cons event rest ih =>
    constructor
    · intro along next taken
      have ⟨here, later⟩ := along next taken
      have permitted := (agree state event next start taken).mp here
      exact ⟨permitted, (ih next (preserved state event next start permitted taken)).mp later⟩
    · intro along next taken
      have ⟨permitted, later⟩ := along next taken
      refine ⟨(agree state event next start taken).mpr permitted, ?_⟩
      exact (ih next (preserved state event next start permitted taken)).mpr later

/-- What holds throughout a run holds at its end. -/
theorem Always.final {step : σ → ε → Option σ} {holds : σ → Prop} {events : List ε}
    {state final : σ} (always : Always step holds state events)
    (reached : run step state events = some final) : holds final := by
  induction events generalizing state with
  | nil =>
    cases reached
    exact always
  | cons event rest ih =>
    rw [run_cons] at reached
    obtain ⟨next, taken, later⟩ := Option.bind_eq_some_iff.mp reached
    exact ih (always.2 next taken) later

/-- A run takes all its events just where each is enabled when its turn comes. -/
theorem run_some_iff {step : σ → ε → Option σ} {events : List ε} {state : σ} :
    (∃ final, run step state events = some final) ↔
      ∀ before event after, events = before ++ event :: after → ∀ held,
        run step state before = some held → ∃ next, step held event = some next := by
  induction events generalizing state with
  | nil =>
    constructor
    · intro _ before event after split
      exact absurd split.symm (by simp)
    · exact fun _ => ⟨state, rfl⟩
  | cons event rest ih =>
    rw [run_cons]
    cases taken : step state event with
    | none =>
      constructor
      · rintro ⟨final, reached⟩
        cases reached
      · intro enabled
        obtain ⟨next, here⟩ := enabled [] event rest rfl state rfl
        rw [taken] at here
        cases here
    | some next =>
      rw [Option.bind_some, ih]
      constructor
      · intro enabled before other after split held reached
        cases before with
        | nil =>
          cases split
          cases reached
          exact ⟨next, taken⟩
        | cons first more =>
          cases split
          rw [run_cons, taken] at reached
          exact enabled more other after rfl held reached
      · intro enabled before other after split held reached
        apply enabled (event :: before) other after (congrArg (List.cons event) split) held
        rw [run_cons, taken]
        exact reached

end Machine

import OpenLaps.Lib.Machine
import OpenLaps.Lib.Selection
import OpenLaps.Pit.Session.Database
import OpenLaps.Pit.Strategy.Fuel

/- The race plan from the operator's form to the strategy: the checks on what is typed
(`pit/session_control/plan.py`), the revisions in `race_plans` under the checks of the table,
and the revision the strategy computes from. -/
namespace OpenLaps.Plans

open Ingest (Json)
open Session (strip timestamp)
open Strategy (Authority StopType PlannedStop PlanFacts)

abbrev Fields := List (String × Json)

inductive Failure where
  | planError (message : String)
  | python (error : PyError)
deriving DecidableEq

def driverLimitKeys : List String := ["max_continuous_min", "max_total_min", "min_rest_min"]

def maxStops : Nat := 50

def maxText : Nat := 80

structure RacePlan where
  raceEndAtMs : Option Int
  raceEndLaps : Option Int
  endAuthority : Authority
  tankL : ℚ
  usableFuelL : ℚ
  refuelMinS : Int
  serviceTypicalS : Int
  driverLimits : Dict String Int
  plannedStops : List PlannedStop
  carNumber : Option String
  updatedBy : Option String

/-- `float(value)` of an int: the nearest of the doubles, ties to even. -/
def floatOfInt (value : Int) : Except PyError ℚ :=
  let unit : ℚ := 2 ^ (Nat.log2 value.natAbs + 1 - 53)
  let rounded := (Rounding.halfEven (value / unit) : ℚ) * unit
  if 2 ^ 1024 ≤ |rounded| then .error (.overflowError "int too large to convert to float")
  else .ok rounded

theorem floatOfInt_small {value : Int} (small : value.natAbs < 2 ^ 53) :
    floatOfInt value = .ok value := by
  have bits : Nat.log2 value.natAbs + 1 - 53 = 0 := by
    rcases Nat.eq_zero_or_pos value.natAbs with zero | positive
    · simp [zero]
    · have := (Nat.log2_lt (by omega)).mpr small
      omega
  have bound : |(value : ℚ)| < 2 ^ 1024 := by
    rw [← Int.cast_abs, ← Nat.cast_natAbs]
    calc ((value.natAbs : Nat) : ℚ) < ((2 ^ 53 : Nat) : ℚ) := Nat.cast_lt.mpr small
      _ = 2 ^ 53 := by push_cast; rfl
      _ ≤ 2 ^ 1024 := pow_le_pow_right₀ (by norm_num) (by norm_num)
  simp only [floatOfInt, bits, pow_zero, div_one, Rounding.halfEven_intCast, mul_one]
  rw [if_neg (not_le.mpr bound)]

/-- `_number(body, key, required=False)`. -/
def number? (body : Fields) (key : String) : Except Failure (Option ℚ) :=
  match body.lookup key with
  | none | some .null => .ok none
  | some (.str text) =>
    if text = "" then .ok none else .error (.planError (key ++ " must be a number"))
  | some (.int value) =>
    match floatOfInt value with
    | .error error => .error (.python error)
    | .ok number => .ok (some number)
  | some (.float (.finite value)) => .ok (some value)
  | some (.float _) => .error (.planError (key ++ " must be finite"))
  | some _ => .error (.planError (key ++ " must be a number"))

/-- `_integer(body, key, required=False)`. -/
def integer? (body : Fields) (key : String) : Except Failure (Option Int) :=
  match number? body key with
  | .error error => .error error
  | .ok none => .ok none
  | .ok (some value) =>
    if value.den = 1 then .ok (some value.num)
    else .error (.planError (key ++ " must be a whole number"))

/-- The same two with `required=True`. -/
def required {α : Type} (key : String) : Except Failure (Option α) → Except Failure α
  | .error error => .error error
  | .ok none => .error (.planError (key ++ " is required"))
  | .ok (some value) => .ok value

/-- `_text`. -/
def text? (value : Option Json) (key : String) : Except Failure (Option String) :=
  match value with
  | none | some .null => .ok none
  | some (.str text) =>
    let kept := String.ofList ((strip text).toList.take maxText)
    .ok (if kept = "" then none else some kept)
  | some _ => .error (.planError (key ++ " must be text"))

def check (bad : Bool) (message : String) : Except Failure Unit :=
  if bad then .error (.planError message) else .ok ()

def authorityOf (value : Option Json) (raceEndAtMs : Option Int) : Except Failure Authority :=
  let usual : Authority := if raceEndAtMs.isSome then .time else .laps
  match value with
  | none | some .null => .ok usual
  | some (.str text) =>
    if text = "" then .ok usual
    else if text = "time" then .ok .time
    else if text = "laps" then .ok .laps
    else .error (.planError "end_authority must be time or laps")
  | some _ => .error (.planError "end_authority must be time or laps")

def isBlank : Json → Bool
  | .null => true
  | .str text => text = ""
  | _ => false

def limitsFrom : Fields → Dict String Int → Except Failure (Dict String Int)
  | [], limits => .ok limits
  | (key, value) :: rest, limits => do
    check (!driverLimitKeys.contains key) ("driver_limits." ++ key ++ " is not a known limit")
    if isBlank value then limitsFrom rest limits
    else
      let minutes ← required key (integer? [(key, value)] key)
      check (minutes < 0) ("driver_limits." ++ key ++ " cannot be negative")
      limitsFrom rest (limits.set key minutes)

def limitsOf (body : Fields) : Except Failure (Dict String Int) :=
  match body.lookup "driver_limits" with
  | none | some .null => .ok .empty
  | some (.object fields) => limitsFrom fields .empty
  | some _ => .error (.planError "driver_limits must be an object")

def stopType (index : Nat) (value : Option Json) : Except Failure StopType :=
  let unknown : Failure := .planError s!"planned_stops[{index}].type must be refuel or service"
  match value with
  | some (.str text) =>
    if text = "refuel" then .ok .refuel
    else if text = "service" then .ok .service
    else .error unknown
  | _ => .error unknown

def stopOf (index : Nat) (raw : Json) : Except Failure PlannedStop :=
  match raw with
  | .object fields => do
    let type ← stopType index (fields.lookup "type")
    let atLap ← integer? fields "at_lap"
    let atMs ← integer? fields "at_ms"
    check (atLap.isNone == atMs.isNone)
      s!"planned_stops[{index}] needs exactly one of at_lap / at_ms"
    check (atLap.any (· ≤ 0)) s!"planned_stops[{index}].at_lap must be positive"
    let driverIn ← text? (fields.lookup "driver_in") "driver_in"
    .ok ⟨type, atLap, atMs, driverIn⟩
  | _ => .error (.planError s!"planned_stops[{index}] must be an object")

def stopsFrom : Nat → List Json → Except Failure (List PlannedStop)
  | _, [] => .ok []
  | index, raw :: rest => do
    let stop ← stopOf index raw
    let later ← stopsFrom (index + 1) rest
    .ok (stop :: later)

def stopsOf (body : Fields) : Except Failure (List PlannedStop) :=
  match body.lookup "planned_stops" with
  | none | some .null => .ok []
  | some (.list items) => do
    check (maxStops < items.length) s!"planned_stops: at most {maxStops} stops"
    stopsFrom 0 items
  | some _ => .error (.planError "planned_stops must be a list")

/-- `validate_plan`. -/
def validatePlan (body : Fields) : Except Failure RacePlan := do
  let raceEndAtMs ← integer? body "race_end_at_ms"
  let raceEndLaps ← integer? body "race_end_laps"
  check (raceEndAtMs.isNone && raceEndLaps.isNone)
    "the race needs an end: race_end_at_ms, race_end_laps, or both"
  check (raceEndLaps.any (· ≤ 0)) "race_end_laps must be positive"
  let endAuthority ← authorityOf (body.lookup "end_authority") raceEndAtMs
  check (endAuthority = .time && raceEndAtMs.isNone)
    "end_authority is time but race_end_at_ms is missing"
  check (endAuthority = .laps && raceEndLaps.isNone)
    "end_authority is laps but race_end_laps is missing"
  let tankL ← required "tank_l" (number? body "tank_l")
  let usableFuelL ← required "usable_fuel_l" (number? body "usable_fuel_l")
  check (tankL ≤ 0) "tank_l must be positive"
  check (usableFuelL ≤ 0) "usable_fuel_l must be positive"
  check (tankL < usableFuelL) "usable_fuel_l cannot exceed tank_l"
  let refuelMinS ← required "refuel_min_s" (integer? body "refuel_min_s")
  let serviceTypicalS ← required "service_typical_s" (integer? body "service_typical_s")
  check (refuelMinS < 0 || serviceTypicalS < 0) "stop durations cannot be negative"
  let driverLimits ← limitsOf body
  let plannedStops ← stopsOf body
  let carNumber ← text? (body.lookup "car_number") "car_number"
  let updatedBy ← text? (body.lookup "updated_by") "updated_by"
  .ok
    { raceEndAtMs := raceEndAtMs, raceEndLaps := raceEndLaps, endAuthority := endAuthority,
      tankL := tankL, usableFuelL := usableFuelL, refuelMinS := refuelMinS,
      serviceTypicalS := serviceTypicalS, driverLimits := driverLimits,
      plannedStops := plannedStops, carNumber := carNumber, updatedBy := updatedBy }

/-- One place, a positive lap where it is a lap, and a name of no more than `maxText` characters. -/
structure StopValid (stop : PlannedStop) : Prop where
  place : stop.atLap.isSome ≠ stop.atMs.isSome
  lap : ∀ lap, stop.atLap = some lap → 0 < lap
  driver : ∀ driver, stop.driverIn = some driver → driver.length ≤ maxText

/-- What the operator is promised of a plan that is taken. -/
structure RacePlan.Valid (plan : RacePlan) : Prop where
  ends : plan.raceEndAtMs.isSome = true ∨ plan.raceEndLaps.isSome = true
  laps : ∀ laps, plan.raceEndLaps = some laps → 0 < laps
  byTime : plan.endAuthority = .time → plan.raceEndAtMs.isSome = true
  byLaps : plan.endAuthority = .laps → plan.raceEndLaps.isSome = true
  usable : 0 < plan.usableFuelL
  tank : plan.usableFuelL ≤ plan.tankL
  refuel : 0 ≤ plan.refuelMinS
  service : 0 ≤ plan.serviceTypicalS
  limits : ∀ key minutes, plan.driverLimits.get? key = some minutes →
    key ∈ driverLimitKeys ∧ 0 ≤ minutes
  stops : ∀ stop ∈ plan.plannedStops, StopValid stop
  few : plan.plannedStops.length ≤ maxStops

@[simp] theorem check_ok {bad : Bool} {message : String} {done : Unit} :
    check bad message = .ok done ↔ bad = false := by
  cases bad <;> simp [check]

theorem limitsFrom_known {fields : Fields} {limits result : Dict String Int}
    (read : limitsFrom fields limits = .ok result)
    (known : ∀ key minutes, limits.get? key = some minutes → key ∈ driverLimitKeys ∧ 0 ≤ minutes) :
    ∀ key minutes, result.get? key = some minutes → key ∈ driverLimitKeys ∧ 0 ≤ minutes := by
  induction fields generalizing limits with
  | nil =>
    cases read
    exact known
  | cons entry rest ih =>
    rw [limitsFrom, Attempt.bind_ok] at read
    obtain ⟨_, listed, read⟩ := read
    split at read
    · exact ih read known
    · simp only [Attempt.bind_ok, check_ok] at read
      obtain ⟨minutes, -, _, nonneg, read⟩ := read
      apply ih read
      intro key value found
      rw [Dict.get?_set] at found
      split at found
      · rename_i same
        cases found
        rw [check_ok, Bool.not_eq_false', List.contains_iff_mem] at listed
        exact ⟨same ▸ listed, by simpa using nonneg⟩
      · exact known key value found

theorem limitsOf_known {body : Fields} {limits : Dict String Int}
    (read : limitsOf body = .ok limits) :
    ∀ key minutes, limits.get? key = some minutes → key ∈ driverLimitKeys ∧ 0 ≤ minutes := by
  have none : ∀ key minutes, (Dict.empty : Dict String Int).get? key = some minutes →
      key ∈ driverLimitKeys ∧ 0 ≤ minutes := by
    intro key minutes found
    cases found
  unfold limitsOf at read
  split at read
  · cases read
    exact none
  · cases read
    exact none
  · exact limitsFrom_known read none
  · cases read

theorem text_length {value : Option Json} {key text : String}
    (read : text? value key = .ok (some text)) : text.length ≤ maxText := by
  unfold text? at read
  split at read
  · cases read
  · cases read
  · dsimp only at read
    split_ifs at read
    · cases read
    · rw [← Option.some.inj (Except.ok.inj read), String.length_ofList, List.length_take]
      exact Nat.min_le_left _ _
  · cases read

theorem stopOf_valid {index : Nat} {raw : Json} {stop : PlannedStop}
    (read : stopOf index raw = .ok stop) : StopValid stop := by
  unfold stopOf at read
  split at read
  · simp only [Attempt.bind_ok, check_ok] at read
    obtain ⟨type, -, atLap, -, atMs, -, _, one, _, positive, driverIn, named, built⟩ := read
    cases built
    constructor
    · cases atLap <;> cases atMs <;> simp_all
    · rintro lap rfl
      simpa using positive
    · rintro driver rfl
      exact text_length named
  · cases read

theorem stopsFrom_valid {index : Nat} {items : List Json} {stops : List PlannedStop}
    (read : stopsFrom index items = .ok stops) :
    stops.length = items.length ∧ ∀ stop ∈ stops, StopValid stop := by
  induction items generalizing index stops with
  | nil =>
    cases read
    simp
  | cons raw rest ih =>
    simp only [stopsFrom, Attempt.bind_ok] at read
    obtain ⟨stop, first, later, remaining, built⟩ := read
    cases built
    obtain ⟨length, valid⟩ := ih remaining
    exact ⟨by simp [length], List.forall_mem_cons.mpr ⟨stopOf_valid first, valid⟩⟩

theorem stopsOf_valid {body : Fields} {stops : List PlannedStop}
    (read : stopsOf body = .ok stops) :
    stops.length ≤ maxStops ∧ ∀ stop ∈ stops, StopValid stop := by
  unfold stopsOf at read
  split at read
  · cases read
    simp
  · cases read
    simp
  · simp only [Attempt.bind_ok, check_ok] at read
    obtain ⟨_, few, read⟩ := read
    obtain ⟨length, valid⟩ := stopsFrom_valid read
    exact ⟨by simpa [length] using few, valid⟩
  · cases read

theorem validatePlan_valid {body : Fields} {plan : RacePlan}
    (accepted : validatePlan body = .ok plan) : plan.Valid := by
  simp only [validatePlan, Attempt.bind_ok, check_ok] at accepted
  obtain ⟨endMs, -, endLaps, -, _, ends, _, laps, authority, -, _, byTime, _, byLaps, tank, -,
    usable, -, _, -, _, usablePositive, _, fits, refuel, -, service, -, _, durations, limits,
    limited, stops, stopped, carNumber, -, updatedBy, -, built⟩ := accepted
  cases built
  obtain ⟨few, valid⟩ := stopsOf_valid stopped
  rw [Bool.or_eq_false_iff, decide_eq_false_iff_not, decide_eq_false_iff_not] at durations
  constructor
  · cases endMs <;> cases endLaps <;> simp_all
  · rintro laps rfl
    simpa using laps
  · intro time
    cases endMs <;> simp_all
  · intro lapped
    cases endLaps <;> simp_all
  · simpa using usablePositive
  · simpa using fits
  · exact not_lt.mp durations.1
  · exact not_lt.mp durations.2
  · exact limitsOf_known limited
  · exact valid
  · exact few

/-- The columns of `race_plans` that the insert gives, times in microseconds. -/
structure PlanRow where
  sessionId : String
  revision : Int
  raceEndAt : Option Int
  raceEndLaps : Option Int
  endAuthority : Authority
  tankL : ℚ
  usableFuelL : ℚ
  refuelMinS : Int
  serviceTypicalS : Int
  driverLimits : Dict String Int
  plannedStops : List PlannedStop
  carNumber : Option String
  updatedBy : Option String

namespace PlanRow

/-- The checks of the table. -/
def checks (row : PlanRow) : Bool :=
  1 ≤ row.revision && row.raceEndLaps.all (0 < ·) && 0 < row.tankL &&
    (0 < row.usableFuelL && row.usableFuelL ≤ row.tankL) && 0 ≤ row.refuelMinS &&
    0 ≤ row.serviceTypicalS && (row.raceEndAt.isSome || row.raceEndLaps.isSome) &&
    (row.endAuthority ≠ .time || row.raceEndAt.isSome) &&
    (row.endAuthority ≠ .laps || row.raceEndLaps.isSome)

/-- Within `INT`. -/
def int4 (value : Int) : Bool := -2147483648 ≤ value && value ≤ 2147483647

/-- Without a NUL, which PostgreSQL has in neither `TEXT` nor `JSONB`. -/
def printable (text : String) : Bool := !text.toList.contains (Char.ofNat 0)

/-- The values fit their columns. -/
def fits (row : PlanRow) : Bool :=
  printable row.sessionId && int4 row.revision && row.raceEndLaps.all int4 &&
    int4 row.refuelMinS && int4 row.serviceTypicalS && row.driverLimits.keys.all printable &&
    row.plannedStops.all (fun stop => stop.driverIn.all printable) &&
    row.carNumber.all printable && row.updatedBy.all printable

end PlanRow

/-- A row the table holds. -/
structure StoredPlan where
  row : PlanRow
  checked : row.checks = true

/-- `_timestamp(plan.race_end_at_ms) if plan.race_end_at_ms else None`. -/
def stampOf : Option Int → Except PyError (Option Int)
  | none => .ok none
  | some ms => if ms = 0 then .ok none else (timestamp ms).map some

def rowOf (sessionId : String) (revision : Int) (plan : RacePlan) : Except PyError PlanRow := do
  let raceEndAt ← stampOf plan.raceEndAtMs
  .ok
    { sessionId := sessionId, revision := revision, raceEndAt := raceEndAt,
      raceEndLaps := plan.raceEndLaps, endAuthority := plan.endAuthority, tankL := plan.tankL,
      usableFuelL := plan.usableFuelL, refuelMinS := plan.refuelMinS,
      serviceTypicalS := plan.serviceTypicalS, driverLimits := plan.driverLimits,
      plannedStops := plan.plannedStops, carNumber := plan.carNumber, updatedBy := plan.updatedBy }

def plansOf (plans : List StoredPlan) (sessionId : String) : List StoredPlan :=
  plans.filter fun stored => stored.row.sessionId = sessionId

/-- `COALESCE(MAX(revision), 0) + 1`. -/
def nextRevision (plans : List StoredPlan) (sessionId : String) : Int :=
  ((plansOf plans sessionId).map fun stored => stored.row.revision).max?.getD 0 + 1

inductive InsertError where
  | python (error : PyError)
  | dataError
  | integrityError

/-- `_insert_plan`: a column refuses a value before the checks and the reference to the
session are looked at. -/
def insertPlan (sessions : List String) (plans : List StoredPlan) (sessionId : String)
    (plan : RacePlan) : Except InsertError StoredPlan :=
  match rowOf sessionId (nextRevision plans sessionId) plan with
  | .error error => .error (.python error)
  | .ok row =>
    if !row.fits then .error .dataError
    else if checked : row.checks = true then
      if sessionId ∈ sessions then .ok ⟨row, checked⟩ else .error .integrityError
    else .error .integrityError

/-- `v_race_plan` of one session. -/
def vRacePlan (plans : List StoredPlan) (sessionId : String) : List StoredPlan :=
  newest (fun stored => stored.row.revision) (plansOf plans sessionId)

theorem StoredPlan.spec (stored : StoredPlan) :
    1 ≤ stored.row.revision ∧ 0 < stored.row.usableFuelL ∧
      stored.row.usableFuelL ≤ stored.row.tankL ∧
      (stored.row.endAuthority = .time → stored.row.raceEndAt.isSome = true) ∧
      (stored.row.endAuthority = .laps → stored.row.raceEndLaps.isSome = true) := by
  have checked := stored.checked
  simp only [PlanRow.checks, Bool.and_eq_true, Bool.or_eq_true, decide_eq_true_eq] at checked
  obtain ⟨⟨⟨⟨⟨⟨⟨⟨revision, -⟩, -⟩, usable, tank⟩, -⟩, -⟩, -⟩, byTime⟩, byLaps⟩ := checked
  exact ⟨revision, usable, tank, fun time => byTime.resolve_left (absurd time),
    fun lapped => byLaps.resolve_left (absurd lapped)⟩

/-- What `read_inputs` makes of the row of the view. -/
def StoredPlan.facts (stored : StoredPlan) : PlanFacts where
  revision := stored.row.revision
  raceEndAt := stored.row.raceEndAt.map fun (micros : Int) => (micros : ℚ) / 1000000
  raceEndLaps := stored.row.raceEndLaps
  endAuthority := stored.row.endAuthority
  tankL := stored.row.tankL
  usableFuelL := stored.row.usableFuelL
  refuelMinS := stored.row.refuelMinS
  serviceTypicalS := stored.row.serviceTypicalS
  driverLimits := stored.row.driverLimits
  plannedStops := stored.row.plannedStops
  usablePositive := stored.spec.2.1

/-- Times of the years 1 to 9999, and numbers and texts that their columns hold. -/
structure RacePlan.Fits (plan : RacePlan) : Prop where
  ends : ∀ ms, plan.raceEndAtMs = some ms → -62135596800000 ≤ ms ∧ ms < 253402300800000
  laps : ∀ laps, plan.raceEndLaps = some laps → laps ≤ 2147483647
  refuel : plan.refuelMinS ≤ 2147483647
  service : plan.serviceTypicalS ≤ 2147483647
  drivers : ∀ stop ∈ plan.plannedStops, ∀ driver, stop.driverIn = some driver →
    PlanRow.printable driver = true
  carNumber : ∀ number, plan.carNumber = some number → PlanRow.printable number = true
  updatedBy : ∀ name, plan.updatedBy = some name → PlanRow.printable name = true

/-- The end by the clock is the epoch itself, which the insert takes for no end. -/
def RacePlan.EndsAtEpoch (plan : RacePlan) : Prop :=
  plan.endAuthority = .time ∧ plan.raceEndAtMs = some 0

theorem timestamp_ok (ms : Int) :
    (∃ micros, timestamp ms = .ok micros) ↔ -62135596800000 ≤ ms ∧ ms < 253402300800000 := by
  have exact_ : Rounding.halfEven ((ms : ℚ) / 1000 * 1000000) = ms * 1000 := by
    rw [← Rounding.halfEven_intCast (ms * 1000)]
    congr 1
    push_cast
    ring
  unfold timestamp Ingest.fromTimestamp
  dsimp only
  rw [exact_]
  split
  · rename_i years
    refine ⟨fun _ => by omega, fun _ => ⟨_, rfl⟩⟩
  · rename_i years
    constructor
    · rintro ⟨micros, impossible⟩
      cases impossible
    · intro within
      omega

theorem stampOf_ok (ms : Option Int) :
    (∃ time, stampOf ms = .ok time) ↔
      ∀ value, ms = some value → -62135596800000 ≤ value ∧ value < 253402300800000 := by
  cases ms with
  | none => simp [stampOf]
  | some value =>
    by_cases zero : value = 0
    · simp [stampOf, zero]
    · simp only [stampOf, Option.some.injEq, forall_eq', zero, ← timestamp_ok]
      constructor
      · rintro ⟨time, done⟩
        obtain ⟨micros, read, -⟩ := Attempt.map_ok.mp done
        exact ⟨micros, read⟩
      · rintro ⟨micros, read⟩
        exact ⟨some micros, Attempt.map_ok.mpr ⟨micros, read, rfl⟩⟩

theorem stampOf_isSome {ms : Option Int} {time : Option Int} (read : stampOf ms = .ok time) :
    time.isSome = true ↔ ∃ value, ms = some value ∧ value ≠ 0 := by
  cases ms with
  | none =>
    cases read
    simp
  | some value =>
    by_cases zero : value = 0
    · rw [stampOf, if_pos zero] at read
      cases read
      simp [zero]
    · rw [stampOf, if_neg zero] at read
      obtain ⟨micros, -, rfl⟩ := Attempt.map_ok.mp read
      simp [zero]

section Insert

variable {plan : RacePlan} {sessionId : String} {revision : Int} {row : PlanRow}

theorem rowOf_ok : rowOf sessionId revision plan = .ok row ↔
    ∃ raceEndAt, stampOf plan.raceEndAtMs = .ok raceEndAt ∧ row =
      { sessionId := sessionId, revision := revision, raceEndAt := raceEndAt,
        raceEndLaps := plan.raceEndLaps, endAuthority := plan.endAuthority, tankL := plan.tankL,
        usableFuelL := plan.usableFuelL, refuelMinS := plan.refuelMinS,
        serviceTypicalS := plan.serviceTypicalS, driverLimits := plan.driverLimits,
        plannedStops := plan.plannedStops, carNumber := plan.carNumber,
        updatedBy := plan.updatedBy } := by
  rw [rowOf, Attempt.bind_ok]
  constructor
  · rintro ⟨raceEndAt, read, built⟩
    cases built
    exact ⟨raceEndAt, read, rfl⟩
  · rintro ⟨raceEndAt, read, rfl⟩
    exact ⟨raceEndAt, read, rfl⟩

theorem printable_limit {key : String} (known : key ∈ driverLimitKeys) :
    PlanRow.printable key = true := by
  simp only [driverLimitKeys, List.mem_cons, List.not_mem_nil, or_false] at known
  rcases known with rfl | rfl | rfl <;> decide

theorem rowOf_fits (valid : plan.Valid) (plain : PlanRow.printable sessionId = true)
    (positive : 1 ≤ revision) (room : revision ≤ 2147483647) :
    (∃ row, rowOf sessionId revision plan = .ok row ∧ row.fits = true) ↔ plan.Fits := by
  simp only [rowOf_ok]
  constructor
  · rintro ⟨row, ⟨raceEndAt, read, rfl⟩, fits⟩
    simp only [PlanRow.fits, PlanRow.int4, Bool.and_eq_true, decide_eq_true_eq,
      Option.all_eq_true, List.all_eq_true, and_assoc] at fits
    obtain ⟨-, -, -, laps, -, refuel, -, service, -, drivers, carNumber, updatedBy⟩ := fits
    exact {
      ends := (stampOf_ok plan.raceEndAtMs).mp ⟨raceEndAt, read⟩
      laps := fun value is => (laps value is).2
      refuel := refuel
      service := service
      drivers := drivers
      carNumber := carNumber
      updatedBy := updatedBy }
  · intro fits
    obtain ⟨raceEndAt, read⟩ := (stampOf_ok plan.raceEndAtMs).mpr fits.ends
    refine ⟨_, ⟨raceEndAt, read, rfl⟩, ?_⟩
    have laps : ∀ value, plan.raceEndLaps = some value →
        -2147483648 ≤ value ∧ value ≤ 2147483647 := by
      intro value is
      have := valid.laps value is
      have := fits.laps value is
      omega
    have keys : ∀ key ∈ plan.driverLimits.keys, PlanRow.printable key = true := by
      intro key listed
      obtain ⟨minutes, found⟩ := Dict.exists_of_mem_keys listed
      exact printable_limit (valid.limits key minutes found).1
    have refuel := valid.refuel
    have service := valid.service
    simp only [PlanRow.fits, PlanRow.int4, Bool.and_eq_true, decide_eq_true_eq,
      Option.all_eq_true, List.all_eq_true, and_assoc]
    exact ⟨plain, by omega, room, laps, by omega, fits.refuel, by omega, fits.service, keys,
      fits.drivers, fits.carNumber, fits.updatedBy⟩

theorem rowOf_checks (valid : plan.Valid) (positive : 1 ≤ revision)
    (built : rowOf sessionId revision plan = .ok row) : row.checks = true ↔ ¬ plan.EndsAtEpoch := by
  obtain ⟨raceEndAt, read, rfl⟩ := rowOf_ok.mp built
  have stamp := stampOf_isSome read
  have tank : 0 < plan.tankL := lt_of_lt_of_le valid.usable valid.tank
  simp only [PlanRow.checks, Bool.and_eq_true, Bool.or_eq_true, decide_eq_true_eq,
    Option.all_eq_true, RacePlan.EndsAtEpoch]
  constructor
  · rintro ⟨⟨-, byTime⟩, -⟩ ⟨time, epoch⟩
    obtain ⟨value, is, nonzero⟩ := stamp.mp (byTime.resolve_left (absurd time))
    rw [epoch] at is
    cases is
    exact nonzero rfl
  · intro real
    have byTime : plan.endAuthority = .time → raceEndAt.isSome = true := by
      intro time
      obtain ⟨value, is⟩ := Option.isSome_iff_exists.mp (valid.byTime time)
      refine stamp.mpr ⟨value, is, ?_⟩
      rintro rfl
      exact real ⟨time, is⟩
    have ends : raceEndAt.isSome = true ∨ plan.raceEndLaps.isSome = true := by
      cases authority : plan.endAuthority with
      | time => exact .inl (byTime authority)
      | laps => exact .inr (valid.byLaps authority)
    exact ⟨⟨⟨⟨⟨⟨⟨⟨positive, valid.laps⟩, tank⟩, valid.usable, valid.tank⟩, valid.refuel⟩,
      valid.service⟩, ends⟩, Decidable.not_or_of_imp byTime⟩, Decidable.not_or_of_imp valid.byLaps⟩

end Insert

theorem nextRevision_pos (plans : List StoredPlan) (sessionId : String) :
    1 ≤ nextRevision plans sessionId := by
  unfold nextRevision
  cases largest : ((plansOf plans sessionId).map fun stored => stored.row.revision).max? with
  | none => simp
  | some revision =>
    obtain ⟨stored, -, rfl⟩ := List.mem_map.mp (List.max?_mem largest)
    have := stored.spec.1
    simp only [Option.getD_some]
    omega

def raceBody : Fields :=
  [("race_end_laps", .int 320), ("tank_l", .float (.finite 60)), ("usable_fuel_l", .int 57),
    ("refuel_min_s", .int 180), ("service_typical_s", .int 90),
    ("driver_limits", .object [("max_continuous_min", .int 120)]),
    ("planned_stops", .list [.object [("type", .str "refuel"), ("at_lap", .int 40)]])]

def racePlan : RacePlan where
  raceEndAtMs := none
  raceEndLaps := some 320
  endAuthority := .laps
  tankL := 60
  usableFuelL := 57
  refuelMinS := 180
  serviceTypicalS := 90
  driverLimits := Dict.empty.set "max_continuous_min" 120
  plannedStops := [⟨.refuel, some 40, none, none⟩]
  carNumber := none
  updatedBy := none

def epochBody : Fields := ("race_end_at_ms", .int 0) :: raceBody

def epochPlan : RacePlan := { racePlan with raceEndAtMs := some 0, endAuthority := .time }

theorem racePlan_accepted :
    validatePlan raceBody = .ok racePlan ∧ validatePlan epochBody = .ok epochPlan := by
  have tank : ¬ (60 : ℚ) ≤ 0 := by norm_num
  have usable : ¬ (57 : ℚ) ≤ 0 := by norm_num
  have fits : ¬ (60 : ℚ) < 57 := by norm_num
  constructor <;>
    simp [validatePlan, limitsOf, stopsOf, epochBody, raceBody, epochPlan, racePlan, stopsFrom,
      stopOf, stopType, limitsFrom, integer?, number?, floatOfInt_small, required, text?,
      authorityOf, isBlank, check, List.lookup_cons, List.lookup_nil, driverLimitKeys, maxStops,
      bind, Except.bind, tank, usable, fits]

theorem racePlan_fits : racePlan.Fits ∧ epochPlan.Fits := by
  constructor <;> constructor <;> simp [epochPlan, racePlan]

/-- A session and the plan posted for it. -/
abbrev Request := String × RacePlan

inductive Answer where
  | saved (stored : StoredPlan)
  | badRequest (message : String)
  | conflict (message : String)
  | unavailable (message : String)
  | internalError

def Answer.saved? : Answer → Option StoredPlan
  | .saved stored => some stored
  | _ => none

/-- What becomes of a commit that nobody waits for any longer. -/
inductive Fate where
  | landed
  | lost
  | undecided

/-- How the insert of a save ends: it is answered, it fails or times out, or the request is
cancelled. -/
inductive Outcome where
  | answered
  | failed (commit : Fate)
  | cancelled (commit : Fate)

/-- Session-control and the tables behind it. `waiting` are the requests at the lock of the
database, first come first served, and `undecided` the transactions that outlive their
connection; `accepted` and `answers` are the record of what was asked and answered. -/
structure Desk where
  session : String := ""
  sessions : List String := []
  plans : List StoredPlan := []
  undecided : List StoredPlan := []
  connected : Bool := false
  waiting : List Request := []
  accepted : List Request := []
  answers : List Answer := []

inductive Action where
  | session (sessionId : String)
  | recorded (sessionId : String)
  | connection (up : Bool)
  | post (body : Fields)
  | save (outcome : Outcome)
  | abandon (index : Nat)
  | settle (index : Nat) (landed : Bool)
  | restart

namespace Desk

def answer (desk : Desk) (given : Answer) : Desk :=
  { desk with answers := desk.answers ++ [given] }

def confirmed (desk : Desk) : List StoredPlan := desk.answers.filterMap Answer.saved?

/-- `plan_set` up to the lock of the database. -/
def planSet (desk : Desk) (body : Fields) : Desk :=
  if desk.session = "" then
    desk.answer (.conflict "no session: start one before entering its race plan")
  else
    match validatePlan body with
    | .error (.planError message) => desk.answer (.badRequest message)
    | .error (.python _) => desk.answer .internalError
    | .ok plan =>
      { desk with
        waiting := desk.waiting ++ [(desk.session, plan)]
        accepted := desk.accepted ++ [(desk.session, plan)] }

/-- The server decides a transaction that outlived its connection. -/
def settle (desk : Desk) (index : Nat) (landed : Bool) : Desk :=
  { desk with
    plans := if landed then desk.plans ++ (desk.undecided[index]?).toList else desk.plans
    undecided := desk.undecided.eraseIdx index }

/-- The transaction that holds the revision of a row, if one does. -/
def holder (desk : Desk) (stored : StoredPlan) : Option Nat :=
  desk.undecided.findIdx? fun other =>
    other.row.sessionId = stored.row.sessionId && other.row.revision = stored.row.revision

/-- A commit that nobody waits for; behind another on its revision it is not even sent. -/
def leave (desk : Desk) (stored : StoredPlan) (commit : Fate) : Desk :=
  match desk.holder stored, commit with
  | none, .landed => { desk with plans := desk.plans ++ [stored] }
  | none, .undecided => { desk with undecided := desk.undecided ++ [stored] }
  | _, _ => desk

def notSaved : Answer := .unavailable "database unavailable; the plan was not saved"

def notYet : Answer := .unavailable "the session is not in the database yet; try again shortly"

def busy : Answer := .unavailable "service busy"

/-- `save_plan`. A row whose revision another transaction holds waits for that one, and when
it lands is refused like one without its session. -/
def savePlan (desk : Desk) (request : Request) (outcome : Outcome) : Desk :=
  if !desk.connected then desk.answer notSaved
  else
    match insertPlan desk.sessions desk.plans request.1 request.2, outcome with
    | .ok stored, .answered =>
      match desk.holder stored with
      | some index => (desk.settle index true).answer notYet
      | none => { desk with plans := desk.plans ++ [stored] }.answer (.saved stored)
    | .ok stored, .failed commit =>
      { desk.leave stored commit with connected := false }.answer notSaved
    | .ok stored, .cancelled commit => (desk.leave stored commit).answer busy
    | .error .integrityError, .answered => desk.answer notYet
    | .error _, .answered => desk.answer .internalError
    | .error _, .failed _ => { desk with connected := false }.answer notSaved
    | .error _, .cancelled _ => desk.answer busy

def step (desk : Desk) : Action → Option Desk
  | .session sessionId => some { desk with session := sessionId }
  | .recorded sessionId => some { desk with sessions := desk.sessions ++ [sessionId] }
  | .connection up => some { desk with connected := up }
  | .post body => some (desk.planSet body)
  | .save outcome =>
    match desk.waiting with
    | [] => none
    | request :: rest => some ({ desk with waiting := rest }.savePlan request outcome)
  | .abandon index =>
    some ({ desk with waiting := desk.waiting.eraseIdx index }.answer busy)
  | .settle index landed => some (desk.settle index landed)
  | .restart => some { desk with connected := false, waiting := [] }

end Desk

/-- The row that a request makes. -/
def Holds (stored : StoredPlan) (request : Request) : Prop :=
  rowOf request.1 stored.row.revision request.2 = .ok stored.row

def requestsOf (requests : List Request) (sessionId : String) : List Request :=
  requests.filter fun request => request.1 = sessionId

def revisions (count : Nat) : List Int := (List.range count).map fun (index : Nat) => (index : Int) + 1

/-- The bounds of the form on what the strategy reads of a plan. -/
structure Sound (facts : PlanFacts) : Prop where
  tank : facts.usableFuelL ≤ facts.tankL
  byTime : facts.endAuthority = .time → facts.raceEndAt.isSome = true
  byLaps : facts.endAuthority = .laps → facts.raceEndLaps.isSome = true
  laps : ∀ laps, facts.raceEndLaps = some laps → 0 < laps
  refuel : 0 ≤ facts.refuelMinS
  service : 0 ≤ facts.serviceTypicalS
  limits : ∀ key minutes, facts.driverLimits.get? key = some minutes →
    key ∈ driverLimitKeys ∧ 0 ≤ minutes
  stops : ∀ stop ∈ facts.plannedStops, StopValid stop
  few : facts.plannedStops.length ≤ maxStops

theorem plansOf_append (first second : List StoredPlan) (sessionId : String) :
    plansOf (first ++ second) sessionId = plansOf first sessionId ++ plansOf second sessionId :=
  List.filter_append first second

theorem plansOf_apart {plans : List StoredPlan} {sessionId : String}
    (apart : ∀ stored ∈ plans, stored.row.sessionId ≠ sessionId) : plansOf plans sessionId = [] := by
  rw [plansOf, List.filter_eq_nil_iff]
  simpa using apart

theorem plansOf_single (stored : StoredPlan) (sessionId : String) :
    plansOf [stored] sessionId = if stored.row.sessionId = sessionId then [stored] else [] := by
  simp [plansOf, List.filter_cons]

theorem requestsOf_cons (request : Request) (rest : List Request) (sessionId : String) :
    requestsOf (request :: rest) sessionId =
      (if request.1 = sessionId then [request] else []) ++ requestsOf rest sessionId := by
  by_cases same : request.1 = sessionId <;> simp [requestsOf, same]

theorem holds_sessionId {stored : StoredPlan} {request : Request} (holds : Holds stored request) :
    stored.row.sessionId = request.1 := by
  obtain ⟨raceEndAt, -, built⟩ := rowOf_ok.mp holds
  rw [built]

theorem insertPlan_holds {sessions : List String} {plans : List StoredPlan} {request : Request}
    {stored : StoredPlan} (done : insertPlan sessions plans request.1 request.2 = .ok stored) :
    Holds stored request ∧ stored.row.revision = nextRevision plans request.1 := by
  unfold insertPlan at done
  split at done
  · cases done
  · rename_i row built
    split_ifs at done
    cases done
    obtain ⟨raceEndAt, read, same⟩ := rowOf_ok.mp built
    have revision : row.revision = nextRevision plans request.1 := by rw [same]
    refine ⟨?_, revision⟩
    unfold Holds
    rw [revision]
    exact built

theorem revisions_succ (count : Nat) : revisions (count + 1) = revisions count ++ [(count : Int) + 1] := by
  simp [revisions, List.range_succ]

theorem max_revisions (count : Nat) : (revisions count).max?.getD 0 = count := by
  cases count with
  | zero => rfl
  | succ count =>
    have largest : (revisions (count + 1)).max? = some ((count : Int) + 1) := by
      rw [List.max?_eq_some_iff]
      constructor
      · rw [revisions_succ]
        exact List.mem_concat_self
      · intro revision member
        obtain ⟨index, below, rfl⟩ := List.mem_map.mp member
        have := List.mem_range.mp below
        omega
    rw [largest]
    rfl

/-- The revisions of every session, with the transactions and the requests on their way. -/
structure Ordered (plans undecided : List StoredPlan) (waiting accepted : List Request) : Prop where
  numbered : ∀ sessionId, (plansOf plans sessionId).map (fun stored => stored.row.revision) =
    revisions (plansOf plans sessionId).length
  next : ∀ stored ∈ undecided, stored.row.revision = nextRevision plans stored.row.sessionId
  alone : undecided.Pairwise fun first second => first.row.sessionId ≠ second.row.sessionId
  order : ∀ sessionId, ∃ landed left,
    List.Forall₂ Holds (plansOf plans sessionId) landed ∧
      List.Forall₂ Holds (plansOf undecided sessionId) left ∧
      (landed ++ left ++ requestsOf waiting sessionId).Sublist (requestsOf accepted sessionId)

namespace Ordered

variable {plans undecided before after : List StoredPlan} {waiting fewer accepted : List Request}
  {stored : StoredPlan} {request : Request}

theorem nextRevision_eq (ordered : Ordered plans undecided waiting accepted) (sessionId : String) :
    nextRevision plans sessionId = (plansOf plans sessionId).length + 1 := by
  rw [nextRevision, ordered.numbered, max_revisions]

theorem start : Ordered [] [] [] [] where
  numbered := fun _ => rfl
  next := by simp
  alone := .nil
  order := fun _ => ⟨[], [], .nil, .nil, List.nil_sublist _⟩

theorem give_up (ordered : Ordered plans undecided waiting accepted)
    (remain : fewer.Sublist waiting) : Ordered plans undecided fewer accepted where
  numbered := ordered.numbered
  next := ordered.next
  alone := ordered.alone
  order := by
    intro sessionId
    obtain ⟨landed, left, inTable, onTheWay, kept⟩ := ordered.order sessionId
    have fewerOf : (requestsOf fewer sessionId).Sublist (requestsOf waiting sessionId) :=
      remain.filter _
    exact ⟨landed, left, inTable, onTheWay, (fewerOf.append_left _).trans kept⟩

theorem accept (ordered : Ordered plans undecided waiting accepted) (request : Request) :
    Ordered plans undecided (waiting ++ [request]) (accepted ++ [request]) where
  numbered := ordered.numbered
  next := ordered.next
  alone := ordered.alone
  order := by
    intro sessionId
    obtain ⟨landed, left, inTable, onTheWay, kept⟩ := ordered.order sessionId
    refine ⟨landed, left, inTable, onTheWay, ?_⟩
    rw [requestsOf, requestsOf, List.filter_append, List.filter_append, ← List.append_assoc]
    exact kept.append_right _

/-- An insert reaches its commit. -/
theorem send (ordered : Ordered plans undecided (request :: waiting) accepted)
    (holds : Holds stored request) (revision : stored.row.revision = nextRevision plans request.1)
    (free : ∀ other ∈ undecided, other.row.sessionId ≠ request.1) :
    Ordered plans (undecided ++ [stored]) waiting accepted where
  numbered := ordered.numbered
  next := by
    intro other member
    rcases List.mem_append.mp member with earlier | last
    · exact ordered.next other earlier
    · rw [List.mem_singleton.mp last, holds_sessionId holds]
      exact revision
  alone := by
    rw [List.pairwise_append]
    refine ⟨ordered.alone, List.pairwise_singleton _ _, ?_⟩
    intro other earlier last is
    rw [List.mem_singleton.mp is, holds_sessionId holds]
    exact free other earlier
  order := by
    intro sessionId
    obtain ⟨landed, left, inTable, onTheWay, kept⟩ := ordered.order sessionId
    rw [requestsOf_cons] at kept
    rw [plansOf_append, plansOf_single, holds_sessionId holds]
    by_cases same : request.1 = sessionId
    · subst same
      rw [plansOf_apart free] at onTheWay ⊢
      cases onTheWay
      rw [if_pos rfl] at kept ⊢
      exact ⟨landed, [request], inTable, .cons holds .nil, by simpa using kept⟩
    · rw [if_neg same] at kept ⊢
      rw [List.append_nil]
      exact ⟨landed, left, inTable, onTheWay, kept⟩

/-- A transaction is rolled back. -/
theorem lose (ordered : Ordered plans (before ++ stored :: after) waiting accepted) :
    Ordered plans (before ++ after) waiting accepted where
  numbered := ordered.numbered
  next := fun other member => ordered.next other (by
    rcases List.mem_append.mp member with earlier | later
    · exact List.mem_append_left _ earlier
    · exact List.mem_append_right _ (List.mem_cons_of_mem _ later))
  alone := ordered.alone.sublist ((List.sublist_cons_self stored after).append_left before)
  order := by
    intro sessionId
    obtain ⟨landed, left, inTable, onTheWay, kept⟩ := ordered.order sessionId
    have fewer : (plansOf (before ++ after) sessionId).Sublist
        (plansOf (before ++ stored :: after) sessionId) :=
      ((List.sublist_cons_self stored after).append_left before).filter _
    obtain ⟨remain, remainOf, still⟩ := Attempt.forall₂_sublist onTheWay fewer
    exact ⟨landed, remain, inTable, still, (((remainOf.append_left landed).append_right _).trans kept)⟩

/-- A transaction lands. -/
theorem land (ordered : Ordered plans (before ++ stored :: after) waiting accepted) :
    Ordered (plans ++ [stored]) (before ++ after) waiting accepted := by
  have alone := List.pairwise_append.mp ordered.alone
  have earlier : ∀ other ∈ before, other.row.sessionId ≠ stored.row.sessionId :=
    fun other member => alone.2.2 other member stored List.mem_cons_self
  have later : ∀ other ∈ after, other.row.sessionId ≠ stored.row.sessionId :=
    fun other member => ((List.pairwise_cons.mp alone.2.1).1 other member).symm
  have apart : ∀ other ∈ before ++ after, other.row.sessionId ≠ stored.row.sessionId := by
    intro other member
    exact (List.mem_append.mp member).elim (earlier other) (later other)
  have revision : stored.row.revision = (plansOf plans stored.row.sessionId).length + 1 := by
    rw [← ordered.nextRevision_eq]
    exact ordered.next stored (by simp)
  constructor
  · intro sessionId
    rw [plansOf_append, plansOf_single]
    by_cases same : stored.row.sessionId = sessionId
    · subst same
      simp [ordered.numbered, revisions_succ, revision]
    · simp [same, ordered.numbered]
  · intro other member
    rw [ordered.lose.next other member, nextRevision, nextRevision, plansOf_append,
      plansOf_single, if_neg (apart other member).symm, List.append_nil]
  · exact ordered.lose.alone
  · intro sessionId
    by_cases same : stored.row.sessionId = sessionId
    · subst same
      obtain ⟨landed, left, inTable, onTheWay, kept⟩ := ordered.order stored.row.sessionId
      rw [plansOf_append, plansOf_apart earlier, ← List.singleton_append (l := after), plansOf_append,
        plansOf_apart later, plansOf_single, if_pos rfl] at onTheWay
      obtain ⟨request, none, holds, nothing, rfl⟩ := List.forall₂_cons_left_iff.mp onTheWay
      cases nothing
      refine ⟨landed ++ [request], [], ?_, ?_, by simpa using kept⟩
      · rw [plansOf_append, plansOf_single, if_pos rfl]
        exact List.rel_append inTable (.cons holds .nil)
      · rw [plansOf_apart apart]
        exact .nil
    · obtain ⟨landed, left, inTable, onTheWay, kept⟩ := ordered.lose.order sessionId
      refine ⟨landed, left, ?_, onTheWay, kept⟩
      rw [plansOf_append, plansOf_single, if_neg same, List.append_nil]
      exact inTable

end Ordered

namespace Desk

structure Inv (desk : Desk) : Prop where
  ordered : Ordered desk.plans desk.undecided desk.waiting desk.accepted
  confirmed : desk.confirmed.Sublist desk.plans
  valid : ∀ request ∈ desk.accepted, request.2.Valid

theorem confirmed_answer (desk : Desk) (given : Answer) :
    (desk.answer given).confirmed = desk.confirmed ++ given.saved?.toList := by
  rw [confirmed, confirmed, answer, List.filterMap_append]
  cases given <;> rfl

theorem Inv.answer {desk : Desk} (inv : desk.Inv) {given : Answer} (other : given.saved? = none) :
    (desk.answer given).Inv where
  ordered := inv.ordered
  confirmed := by
    rw [confirmed_answer, other, Option.toList_none, List.append_nil]
    exact inv.confirmed
  valid := inv.valid

theorem eraseIdx_split {α : Type} {items : List α} {index : Nat} {item : α}
    (found : items[index]? = some item) :
    ∃ before after, items = before ++ item :: after ∧ items.eraseIdx index = before ++ after := by
  obtain ⟨inside, here⟩ := List.getElem?_eq_some_iff.mp found
  refine ⟨items.take index, items.drop (index + 1), ?_, List.eraseIdx_eq_take_drop_succ items index⟩
  rw [← here, List.getElem_cons_drop, List.take_append_drop]

theorem Inv.settle {desk : Desk} (inv : desk.Inv) (index : Nat) (landed : Bool) :
    (desk.settle index landed).Inv := by
  cases found : desk.undecided[index]? with
  | none =>
    have same : desk.settle index landed = desk := by
      rw [Desk.settle, found, List.eraseIdx_of_length_le (List.getElem?_eq_none_iff.mp found)]
      simp
    rw [same]
    exact inv
  | some stored =>
    obtain ⟨before, after, split, erased⟩ := eraseIdx_split found
    have ordered := inv.ordered
    rw [split] at ordered
    unfold Desk.settle
    rw [found, erased]
    cases landed with
    | true => exact ⟨ordered.land, inv.confirmed.trans (List.sublist_append_left _ _), inv.valid⟩
    | false => exact ⟨ordered.lose, inv.confirmed, inv.valid⟩

section Save

variable {desk : Desk} {request : Request} {stored : StoredPlan}

theorem holder_none
    (ordered : Ordered desk.plans desk.undecided (request :: desk.waiting) desk.accepted)
    (done : insertPlan desk.sessions desk.plans request.1 request.2 = .ok stored)
    (free : desk.holder stored = none) : ∀ other ∈ desk.undecided, other.row.sessionId ≠ request.1 := by
  intro other member same
  obtain ⟨holds, revision⟩ := insertPlan_holds done
  have apart := List.findIdx?_eq_none_iff.mp free other member
  have next := ordered.next other member
  rw [same, ← revision] at next
  simp [same, next, holds_sessionId holds] at apart

/-- The row goes to the table when no transaction holds its revision. -/
theorem ordered_insert
    (ordered : Ordered desk.plans desk.undecided (request :: desk.waiting) desk.accepted)
    (done : insertPlan desk.sessions desk.plans request.1 request.2 = .ok stored)
    (free : desk.holder stored = none) :
    Ordered (desk.plans ++ [stored]) desk.undecided desk.waiting desk.accepted := by
  obtain ⟨holds, revision⟩ := insertPlan_holds done
  have sent := ordered.send holds revision (holder_none ordered done free)
  have landed := sent.land
  rw [List.append_nil] at landed
  exact landed

theorem leave_inv
    (ordered : Ordered desk.plans desk.undecided (request :: desk.waiting) desk.accepted)
    (inv : desk.Inv) (done : insertPlan desk.sessions desk.plans request.1 request.2 = .ok stored)
    (commit : Fate) : (desk.leave stored commit).Inv := by
  unfold leave
  split
  · rename_i free
    exact ⟨ordered_insert ordered done free,
      inv.confirmed.trans (List.sublist_append_left _ _), inv.valid⟩
  · rename_i free
    obtain ⟨holds, revision⟩ := insertPlan_holds done
    exact ⟨ordered.send holds revision (holder_none ordered done free), inv.confirmed, inv.valid⟩
  · exact inv

theorem savePlan_inv (desk : Desk)
    (ordered : Ordered desk.plans desk.undecided (request :: desk.waiting) desk.accepted)
    (confirmed : desk.confirmed.Sublist desk.plans)
    (valid : ∀ asked ∈ desk.accepted, asked.2.Valid) (outcome : Outcome) :
    (desk.savePlan request outcome).Inv := by
  have inv : desk.Inv := ⟨ordered.give_up (List.sublist_cons_self _ _), confirmed, valid⟩
  unfold savePlan
  split
  · exact inv.answer rfl
  · split
    · rename_i stored done
      split
      · exact (inv.settle _ true).answer rfl
      · rename_i free
        refine ⟨ordered_insert ordered done free, ?_, valid⟩
        rw [confirmed_answer]
        exact confirmed.append_right [stored]
    · rename_i stored commit done
      have left := leave_inv ordered inv done commit
      have cut : Inv { desk.leave stored commit with connected := false } :=
        ⟨left.ordered, left.confirmed, left.valid⟩
      exact cut.answer rfl
    · rename_i stored commit done
      exact (leave_inv ordered inv done commit).answer rfl
    · exact inv.answer rfl
    · exact inv.answer rfl
    · have cut : Inv { desk with connected := false } := ⟨inv.ordered, inv.confirmed, inv.valid⟩
      exact cut.answer rfl
    · exact inv.answer rfl

end Save

theorem planSet_inv {desk : Desk} (inv : desk.Inv) (body : Fields) : (desk.planSet body).Inv := by
  unfold planSet
  split
  · exact inv.answer rfl
  · split
    · exact inv.answer rfl
    · exact inv.answer rfl
    · rename_i plan accepted
      refine ⟨inv.ordered.accept _, inv.confirmed, ?_⟩
      intro request member
      rcases List.mem_append.mp member with earlier | last
      · exact inv.valid request earlier
      · rw [List.mem_singleton.mp last]
        exact validatePlan_valid accepted

theorem step_inv {desk next : Desk} {action : Action} (inv : desk.Inv)
    (stepped : desk.step action = some next) : next.Inv := by
  cases action with
  | save outcome =>
    cases queue : desk.waiting with
    | nil =>
      rw [step, queue] at stepped
      cases stepped
    | cons request rest =>
      rw [step, queue] at stepped
      cases stepped
      have ordered := inv.ordered
      rw [queue] at ordered
      exact savePlan_inv { desk with waiting := rest } ordered inv.confirmed inv.valid outcome
  | post body =>
    cases stepped
    exact planSet_inv inv body
  | settle index landed =>
    cases stepped
    exact inv.settle index landed
  | abandon index =>
    cases stepped
    have fewer : Inv { desk with waiting := desk.waiting.eraseIdx index } :=
      ⟨inv.ordered.give_up (List.eraseIdx_sublist _ _), inv.confirmed, inv.valid⟩
    exact fewer.answer rfl
  | restart =>
    cases stepped
    exact ⟨inv.ordered.give_up (List.nil_sublist _), inv.confirmed, inv.valid⟩
  | session sessionId | recorded sessionId | connection up =>
    cases stepped
    exact ⟨inv.ordered, inv.confirmed, inv.valid⟩

end Desk

theorem newest_revision {plans : List StoredPlan}
    (numbered : plans.map (fun stored => stored.row.revision) = revisions plans.length) :
    newest (fun stored => stored.row.revision) plans = plans.getLast?.toList := by
  cases final : plans.getLast? with
  | none =>
    rw [List.getLast?_eq_none_iff.mp final]
    rfl
  | some last =>
    obtain ⟨items, rfl⟩ := List.getLast?_eq_some_iff.mp final
    rw [List.map_append, List.length_append, List.length_singleton, revisions_succ] at numbered
    obtain ⟨earlier, latest⟩ := List.append_inj' numbered rfl
    have count : last.row.revision = items.length + 1 := (List.cons.inj latest).1
    refine newest_concat fun stored member => ?_
    have listed : stored.row.revision ∈ revisions items.length := by
      rw [← earlier]
      exact List.mem_map_of_mem member
    obtain ⟨index, below, is⟩ := List.mem_map.mp listed
    have := List.mem_range.mp below
    omega

theorem sound_facts {stored : StoredPlan} {request : Request} (holds : Holds stored request)
    (valid : request.2.Valid) : Sound stored.facts := by
  have spec := stored.spec
  obtain ⟨raceEndAt, -, built⟩ := rowOf_ok.mp holds
  constructor
  · exact spec.2.2.1
  · intro time
    have ends := spec.2.2.2.1 time
    rwa [← Option.isSome_map (f := fun (micros : Int) => (micros : ℚ) / 1000000)] at ends
  · exact spec.2.2.2.2
  · have same : stored.facts.raceEndLaps = request.2.raceEndLaps :=
      congrArg PlanRow.raceEndLaps built
    exact same ▸ valid.laps
  · have same : stored.facts.refuelMinS = request.2.refuelMinS := congrArg PlanRow.refuelMinS built
    exact same ▸ valid.refuel
  · have same : stored.facts.serviceTypicalS = request.2.serviceTypicalS :=
      congrArg PlanRow.serviceTypicalS built
    exact same ▸ valid.service
  · have same : stored.facts.driverLimits = request.2.driverLimits :=
      congrArg PlanRow.driverLimits built
    exact same ▸ valid.limits
  · have same : stored.facts.plannedStops = request.2.plannedStops :=
      congrArg PlanRow.plannedStops built
    exact same ▸ valid.stops
  · have same : stored.facts.plannedStops = request.2.plannedStops :=
      congrArg PlanRow.plannedStops built
    exact same ▸ valid.few

/-- The plans of every session as the table, its view and the strategy have them. -/
structure Desk.History (desk : Desk) : Prop where
  numbered : ∀ sessionId, (plansOf desk.plans sessionId).map (fun stored => stored.row.revision) =
    revisions (plansOf desk.plans sessionId).length
  shown : ∀ sessionId, vRacePlan desk.plans sessionId =
    (plansOf desk.plans sessionId).getLast?.toList
  asked : ∀ sessionId, ∃ landed, List.Forall₂ Holds (plansOf desk.plans sessionId) landed ∧
    landed.Sublist (requestsOf desk.accepted sessionId)
  confirmed : desk.confirmed.Sublist desk.plans
  sound : ∀ stored ∈ desk.plans, Sound stored.facts

theorem Desk.Inv.history {desk : Desk} (inv : desk.Inv) : desk.History where
  numbered := inv.ordered.numbered
  shown := fun sessionId => newest_revision (inv.ordered.numbered sessionId)
  asked := by
    intro sessionId
    obtain ⟨landed, left, inTable, -, kept⟩ := inv.ordered.order sessionId
    refine ⟨landed, inTable, List.Sublist.trans ?_ kept⟩
    rw [List.append_assoc]
    exact List.sublist_append_left landed _
  confirmed := inv.confirmed
  sound := by
    intro stored member
    obtain ⟨landed, left, inTable, -, kept⟩ := inv.ordered.order stored.row.sessionId
    have own : stored ∈ plansOf desk.plans stored.row.sessionId := by
      simp [plansOf, member]
    obtain ⟨request, present, holds⟩ := Attempt.forall₂_exists inTable own
    have asked : request ∈ requestsOf desk.accepted stored.row.sessionId :=
      kept.subset (by simp [present])
    exact sound_facts holds (inv.valid request (List.mem_of_mem_filter asked))

/-- However saves are posted, answered, timed out, cancelled or cut off by a restart, and
whatever becomes of the transactions they leave behind: a session's plans are numbered 1, 2, …
in the order they were accepted, the view shows the last, a plan confirmed to the operator is
in the table, and what the strategy reads is sound. -/
theorem plan_history (actions : List Action) :
    Machine.Always Desk.step Desk.History {} actions :=
  Machine.always_of_along Desk.Inv (fun _ => Desk.Inv.history)
    (fun _ _ _ inv (_ : True) => Desk.step_inv inv) actions {} ⟨.start, List.nil_sublist _, by simp⟩
    (Machine.along_of_forall actions _ fun _ _ _ => trivial)

end OpenLaps.Plans

import OpenLaps.Lib.Attempt
import OpenLaps.Lib.Machine
import OpenLaps.Pit.TimingFeed.Shapes

/- Which snapshots and messages are answered, and which raise something else: `int` refuses an
infinity or NaN, and `float` an integer that is too large. -/
namespace OpenLaps.Field.Shapes

open Ingest (Json)

/-- A number that a conversion refuses. -/
inductive Oddity where
  | infinite
  | nan
  | huge
  deriving DecidableEq, Repr

def Oddity.error : Oddity → PyError
  | .infinite => .overflowError "cannot convert float infinity to integer"
  | .nan => .valueError "cannot convert float NaN to integer"
  | .huge => .overflowError "int too large to convert to float"

def oddFloat : PyFloat → Option Oddity
  | .finite _ => none
  | .nan => some .nan
  | _ => some .infinite

section Oddities

variable (py : Python)

/-- What is odd about a whole number, also one in a text. -/
def oddWhole : Json → Option Oddity
  | .null => none
  | .bool _ => none
  | .int _ => none
  | .float number => oddFloat number
  | value =>
    (text? (some (toStr py value))).bind fun text =>
      match py.int text with
      | some _ => none
      | none => (py.float text).bind oddFloat

/-- What is odd about seconds or a gap. -/
def oddReal : Json → Option Oddity
  | .int value => if |value| < PyFloat.limit then none else some .huge
  | _ => none

def oddValue (kind : Kind) (value : Json) : Option Oddity :=
  match kind with
  | .int => oddWhole py (paired value)
  | .seconds => oddReal (paired value)
  | .delta => oddReal (paired value)
  | _ => none

/-- The first oddity among the fields of a car. -/
def oddCar (mapping : Mapping) : Option Oddity :=
  mapping.findSome? fun entry => (carFields.lookup entry.1).bind fun kind => oddValue py kind entry.2

/-- The number that a car has after all its fields. -/
def carNumber (mapping : Mapping) : Option String :=
  mapping.foldl (fun number entry =>
    if entry.1 = "car_number" then clip py (paired entry.2) else number) none

/-- The first oddity of a session. -/
def oddSession (session : Mapping) : Option Oddity :=
  if session = [] then none
  else (oddWhole py (session.get "laps_remaining")).or
    ((oddReal (session.get "time_remaining_s")).or
      ((oddReal (session.get "time_elapsed_s")).or (oddReal (session.get "track_temp"))))

/-- The first oddity of a relay's cars up to one that is refused; if none is, the session's. -/
def oddRelay (session : Option Oddity) : List String → List Json → Option Oddity
  | _, [] => session
  | seen, .object entry :: rest =>
    (oddCar py entry).or (match carNumber py entry with
      | none => none
      | some number => if number ∈ seen then none else oddRelay session (number :: seen) rest)
  | _, _ :: _ => none

/-- The first oddity that is read of a body. -/
def oddBody (body : Mapping) : Option Oddity :=
  match body.get "cars" with
  | .list cars =>
    if maxCars < cars.length then none
    else match body.get "session" with
      | .null => oddRelay py none [] cars
      | .object session => oddRelay py (oddSession py session) [] cars
      | _ => none
  | _ => none

/-- The first oddity of Timing71's cars up to one that is refused; if none is, the session's. -/
def oddRows (columns : List (Option String)) (session : Option Oddity) : List Json → Option Oddity
  | [] => session
  | .list entry :: rest =>
    let mapping := T71Translator.named columns entry
    (oddCar py mapping).or
      (if (carNumber py mapping).isSome then oddRows columns session rest else none)
  | _ :: _ => none

/-- The first oddity of Timing71's session. -/
def oddTrack (translator : T71Translator) : Json → Option Oddity
  | .object session =>
    (((translator.trackTempIndex.bind (T71Translator.trackAt
      (Mapping.get session "trackData"))).bind oddReal).or
        ((oddWhole py (Mapping.get session "lapsRemain")).or
          ((oddReal (Mapping.get session "timeRemain")).or
            (oddReal (Mapping.get session "timeElapsed")))))
  | _ => none

/-- The first oddity that is read of a state. -/
def oddState (translator : T71Translator) (state : Mapping) : Option Oddity :=
  if translator.columns = [] then none
  else match state.get "cars" with
    | .list cars =>
      if maxCars < cars.length then none
      else oddRows py translator.columns (oddTrack py translator (state.get "session")) cars
    | _ => none

/-- The first oddity that is read of a message. -/
def oddMessage (translator : T71Translator) : Json → Option Oddity
  | .object fields =>
    match Mapping.get fields "type" with
    | .str "STATE_UPDATE" =>
      match Mapping.get fields "state" with
      | .object state => oddState py translator state
      | _ => none
    | _ => none
  | _ => none

end Oddities

/-! ### What is raised -/

section Faults

variable {ε α β : Type}

/-- What a fallible call raises. -/
def faultOf : Except ε α → Option ε
  | .error error => some error
  | .ok _ => none

@[simp] theorem faultOf_ok (value : α) : faultOf (.ok value : Except ε α) = none := rfl

@[simp] theorem faultOf_error (error : ε) : faultOf (.error error : Except ε α) = some error := rfl

@[simp] theorem faultOf_map (result : Except ε α) (make : α → β) :
    faultOf (result.map make) = faultOf result := by
  cases result <;> rfl

theorem faultOf_bind (first : Except ε α) (next : α → Except ε β) {later : Option ε}
    (same : ∀ value, first = .ok value → faultOf (next value) = later) :
    faultOf (first >>= next) = (faultOf first).or later := by
  cases first with
  | error error => rfl
  | ok value => exact same value rfl

theorem ok_of_faultOf {result : Except ε α} (none : faultOf result = none) :
    ∃ value, result = .ok value := by
  cases result with
  | error error => cases none
  | ok value => exact ⟨value, rfl⟩

theorem error_of_faultOf {result : Except ε α} {error : ε} (raised : faultOf result = some error) :
    result = .error error := by
  cases result with
  | error other =>
    cases raised
    rfl
  | ok value => cases raised

/-- What a reading raises that is no refusal. -/
def raised : Except ShapeFailure α → Option PyError
  | .error (.other error) => some error
  | _ => none

end Faults

section Fields

variable {py : Python}

theorem faultOf_truncate (number : PyFloat) :
    faultOf (truncate number) = (oddFloat number).map Oddity.error := by
  cases number <;> rfl

theorem faultOf_int (value : Json) : faultOf (int py value) = (oddWhole py value).map Oddity.error := by
  have whole (number : PyFloat) : faultOf (do
      let whole ← truncate number
      pure (if sameFloat number (.finite whole) then some whole else none)) =
        (oddFloat number).map Oddity.error := by
    rw [← faultOf_truncate]
    cases truncate number <;> rfl
  have read (text : Option String) : faultOf (int? py.toRuntime text) =
      ((text? text).bind fun text =>
        match py.int text with
        | some _ => none
        | none => (py.float text).bind oddFloat).map Oddity.error := by
    unfold int?
    cases text? text with
    | none => rfl
    | some text =>
      rw [Option.bind_some]
      dsimp only
      cases py.int text with
      | some number => rfl
      | none =>
        cases py.float text with
        | none => rfl
        | some number => exact whole number
  cases value with
  | null => rfl
  | bool value => rfl
  | int value => rfl
  | float value => exact whole value
  | str value => exact read (some (toStr py (.str value)))
  | list items => exact read (some (toStr py (.list items)))
  | object fields => exact read (some (toStr py (.object fields)))

theorem faultOf_floatOfInt (value : Int) :
    faultOf (floatOfInt value) = (oddReal (.int value)).map Oddity.error := by
  rw [oddReal]
  by_cases small : |value| < PyFloat.limit
  · rw [floatOfInt_small small, if_pos small]
    rfl
  · rw [floatOfInt_large small, if_neg small]
    rfl

theorem faultOf_seconds (py : Python) (value : Json) :
    faultOf (seconds py value) = (oddReal value).map Oddity.error := by
  cases value with
  | int value =>
    rw [seconds, faultOf_map]
    exact faultOf_floatOfInt value
  | _ => rfl

theorem faultOf_delta (value : Json) : faultOf (delta py value) = (oddReal value).map Oddity.error := by
  cases value with
  | null => rfl
  | bool value => rfl
  | float value => rfl
  | int value =>
    rw [delta, faultOf_map]
    exact faultOf_floatOfInt value
  | _ =>
    unfold delta
    dsimp only
    split <;> rfl

theorem faultOf_coerce (kind : Kind) (value : Json) :
    faultOf (coerce py kind value) = (oddValue py kind value).map Oddity.error := by
  cases kind with
  | text => rfl
  | bool => rfl
  | int =>
    show faultOf ((int py (paired value)).map _) = _
    rw [faultOf_map, faultOf_int]
    rfl
  | seconds =>
    show faultOf ((seconds py (paired value)).map _) = _
    rw [faultOf_map, faultOf_seconds]
    rfl
  | delta =>
    show faultOf ((delta py (paired value)).map _) = _
    rw [faultOf_map, faultOf_delta]
    rfl

/-- The fields raise what the first of them raises. -/
theorem faultOf_readFields (py : Python) (mapping : Mapping) (values : Dict String Cell) :
    faultOf (readFields py mapping values) = (oddCar py mapping).map Oddity.error := by
  induction mapping generalizing values with
  | nil => rfl
  | cons entry rest ih =>
    obtain ⟨key, raw⟩ := entry
    unfold readFields oddCar
    rw [List.findSome?_cons]
    cases carFields.lookup key with
    | none => exact ih values
    | some kind =>
      rw [Option.bind_some]
      dsimp only
      rw [faultOf_bind _ _ fun cell _ => ih _, faultOf_coerce]
      cases oddValue py kind raw <;> rfl

/-- The number among the values of a car. -/
def numberOf (values : Dict String Cell) : Option String :=
  match values.get? "car_number" with
  | some (.text number) => some number
  | _ => none

theorem numberOf_set (values : Dict String Cell) (key : String) (cell : Cell) :
    numberOf (values.set key cell) =
      if key = "car_number" then (match cell with | .text number => some number | _ => none)
      else numberOf values := by
  unfold numberOf
  rw [Dict.get?_set]
  by_cases same : key = "car_number"
  · rw [if_pos same, if_pos same]
    cases cell <;> rfl
  · rw [if_neg same, if_neg same]

theorem numberOf_readFields {mapping : Mapping} {values result : Dict String Cell}
    (read : readFields py mapping values = .ok result) :
    numberOf result = mapping.foldl (fun number entry =>
      if entry.1 = "car_number" then clip py (paired entry.2) else number) (numberOf values) := by
  induction mapping generalizing values with
  | nil =>
    cases read
    rfl
  | cons entry rest ih =>
    obtain ⟨key, raw⟩ := entry
    rw [List.foldl_cons]
    unfold readFields at read
    cases kind : carFields.lookup key with
    | none =>
      rw [kind] at read
      have other : key ≠ "car_number" := by
        rintro rfl
        cases kind
      rw [if_neg other]
      exact ih read
    | some known =>
      rw [kind] at read
      obtain ⟨cell, made, later⟩ := Attempt.bind_ok.mp read
      rw [ih later, numberOf_set]
      congr 1
      by_cases same : key = "car_number"
      · rw [same] at kind ⊢
        cases kind
        cases made
        rw [if_pos (by decide), if_pos rfl]
        cases clip py (paired raw) <;> rfl
      · rw [if_neg same, if_neg]
        split
        · decide
        · exact same

theorem clip_ne_empty {value : Json} {text : String} (clipped : clip py value = some text) :
    text ≠ "" := by
  have cut (whole : String) (found : (text? (some whole)).map (fun text =>
      String.ofList (text.toList.take maxText)) = some text) : text ≠ "" := by
    obtain ⟨held, read, rfl⟩ := Option.map_eq_some_iff.mp found
    obtain ⟨-, some⟩ := Option.filter_eq_some_iff.mp read
    intro none
    have chars : held.toList.take maxText = [] := String.ofList_eq_empty_iff.mp none
    rcases List.take_eq_nil_iff.mp chars with zero | nil
    · cases zero
    · rw [String.toList_eq_nil_iff.mp nil] at some
      cases some
  cases value with
  | null => cases clipped
  | bool value => exact cut (toStr py (.bool value)) clipped
  | int value => exact cut (toStr py (.int value)) clipped
  | float value => exact cut (toStr py (.float value)) clipped
  | str value => exact cut (toStr py (.str value)) clipped
  | list items => exact cut (toStr py (.list items)) clipped
  | object fields => exact cut (toStr py (.object fields)) clipped

theorem foldl_ne_empty (mapping : Mapping) {start : Option String}
    (fine : ∀ text ∈ start, text ≠ "") :
    ∀ text ∈ mapping.foldl (fun number entry =>
      if entry.1 = "car_number" then clip py (paired entry.2) else number) start, text ≠ "" := by
  induction mapping generalizing start with
  | nil => exact fine
  | cons entry rest ih =>
    rw [List.foldl_cons]
    apply ih
    intro text found
    split at found
    · exact clip_ne_empty found
    · exact fine text found

/-- A car's number is no empty text. -/
theorem carNumber_ne_empty {mapping : Mapping} {number : String}
    (named : carNumber py mapping = some number) : number ≠ "" :=
  foldl_ne_empty mapping (fun _ found => absurd found (Option.not_mem_none _)) number named

/-! ### One car -/

theorem numberOf_read {mapping : Mapping} {values : Dict String Cell}
    (read : readFields py mapping .empty = .ok values) : numberOf values = carNumber py mapping := by
  rw [numberOf_readFields read]
  rfl

theorem carFrom_odd {mapping : Mapping} {oddity : Oddity} (odd : oddCar py mapping = some oddity)
    (at_ : ℚ) (source : String) (index : Nat) :
    carFrom py mapping at_ source index = .error (.other oddity.error) := by
  have fault := faultOf_readFields py mapping .empty
  rw [odd] at fault
  rw [carFrom, error_of_faultOf fault]

theorem carFrom_nameless {mapping : Mapping} (fine : oddCar py mapping = none)
    (nameless : carNumber py mapping = none) (at_ : ℚ) (source : String) (index : Nat) :
    carFrom py mapping at_ source index = .error (.shape s!"cars[{index}] has no car_number") := by
  have fault := faultOf_readFields py mapping .empty
  rw [fine] at fault
  obtain ⟨values, read⟩ := ok_of_faultOf fault
  rw [← numberOf_read read, numberOf] at nameless
  rw [carFrom, read]
  dsimp only
  split
  · rename_i number found
    rw [found] at nameless
    cases nameless
  · rfl

theorem carFrom_named {mapping : Mapping} {number : String} (fine : oddCar py mapping = none)
    (named : carNumber py mapping = some number) (at_ : ℚ) (source : String) (index : Nat) :
    ∃ row, carFrom py mapping at_ source index = .ok row ∧ row.carNumber = number := by
  have fault := faultOf_readFields py mapping .empty
  rw [fine] at fault
  obtain ⟨values, read⟩ := ok_of_faultOf fault
  rw [← numberOf_read read, numberOf] at named
  rw [carFrom, read]
  dsimp only
  split
  · rename_i other found
    rw [found] at named
    exact ⟨_, rfl, Option.some.inj named⟩
  · rename_i missing
    split at named
    · rename_i number found
      exact absurd found (missing number)
    · cases named

theorem carFrom_ne_empty {mapping : Mapping} {at_ : ℚ} {source : String} {index : Nat} {row : CarRow}
    (made : carFrom py mapping at_ source index = .ok row) : row.carNumber ≠ "" := by
  cases odd : oddCar py mapping with
  | some oddity =>
    rw [carFrom_odd odd] at made
    cases made
  | none =>
    cases named : carNumber py mapping with
    | none =>
      rw [carFrom_nameless odd named] at made
      cases made
    | some number =>
      obtain ⟨same, found, rfl⟩ := carFrom_named odd named at_ source index
      rw [found] at made
      cases made
      exact carNumber_ne_empty named

end Fields

/-! ### Rows -/

/-- At most so many cars, each with a number of its own. -/
structure Bounded (snapshot : Snapshot) : Prop where
  few : snapshot.cars.length ≤ maxCars
  named : ∀ car ∈ snapshot.cars, car.carNumber ≠ ""
  distinct : (snapshot.cars.map CarRow.carNumber).Nodup

/-- Rows with numbers of their own, none of them seen before. -/
structure Numbered (seen : List String) (rows : List CarRow) : Prop where
  named : ∀ row ∈ rows, row.carNumber ≠ ""
  fresh : ∀ row ∈ rows, row.carNumber ∉ seen
  distinct : (rows.map CarRow.carNumber).Nodup

theorem Numbered.nil (seen : List String) : Numbered seen [] where
  named _ member := absurd member List.not_mem_nil
  fresh _ member := absurd member List.not_mem_nil
  distinct := List.nodup_nil

theorem Numbered.cons {seen : List String} {row : CarRow} {rows : List CarRow}
    (named : row.carNumber ≠ "") (fresh : row.carNumber ∉ seen)
    (later : Numbered (row.carNumber :: seen) rows) : Numbered seen (row :: rows) where
  named := List.forall_mem_cons.mpr ⟨named, later.named⟩
  fresh := by
    refine List.forall_mem_cons.mpr ⟨fresh, ?_⟩
    intro other member
    exact fun old => later.fresh other member (List.mem_cons_of_mem _ old)
  distinct := by
    rw [List.map_cons, List.nodup_cons]
    refine ⟨?_, later.distinct⟩
    intro twice
    obtain ⟨other, member, same⟩ := List.mem_map.mp twice
    exact later.fresh other member (same ▸ List.mem_cons_self)

section Rows

variable {py : Python} {at_ : ℚ} {source : String}

theorem relayRows_numbered {index : Nat} {seen : List String} {cars : List Json} {rows : List CarRow}
    (read : relayRows py at_ source index seen cars = .ok rows) :
    rows.length = cars.length ∧ Numbered seen rows := by
  induction cars generalizing index seen rows with
  | nil =>
    cases read
    exact ⟨rfl, .nil seen⟩
  | cons entry rest ih =>
    cases entry with
    | object entry =>
      obtain ⟨row, made, later⟩ := Attempt.bind_ok.mp read
      split at later
      · cases later
      · rename_i fresh
        obtain ⟨others, tail, done⟩ := Attempt.bind_ok.mp later
        cases done
        obtain ⟨long, numbered⟩ := ih tail
        exact ⟨congrArg (· + 1) long, .cons (carFrom_ne_empty made) fresh numbered⟩
    | _ => cases read

theorem carRows_numbered {columns : List (Option String)} {index : Nat} {seen : List String}
    {cars : List Json} {rows : List CarRow}
    (read : T71Translator.carRows py columns at_ source index seen cars = .ok rows) :
    rows.length ≤ cars.length ∧ Numbered seen rows := by
  induction cars generalizing index seen rows with
  | nil =>
    cases read
    exact ⟨le_rfl, .nil seen⟩
  | cons entry rest ih =>
    cases entry with
    | list entry =>
      obtain ⟨row, made, later⟩ := Attempt.bind_ok.mp read
      split at later
      · obtain ⟨short, numbered⟩ := ih later
        exact ⟨Nat.le_succ_of_le short, numbered⟩
      · rename_i fresh
        obtain ⟨others, tail, done⟩ := Attempt.bind_ok.mp later
        cases done
        obtain ⟨short, numbered⟩ := ih tail
        exact ⟨Nat.succ_le_succ short, .cons (carFrom_ne_empty made) fresh numbered⟩
    | _ => cases read

/-- A relay's cars raise, with what follows them, what is odd about them. -/
theorem raised_relayRows {α : Type} (next : List CarRow → Except ShapeFailure α)
    (session : Option Oddity) (same : ∀ rows, raised (next rows) = session.map Oddity.error)
    (index : Nat) (seen : List String) (cars : List Json) :
    raised (relayRows py at_ source index seen cars >>= next) =
      (oddRelay py session seen cars).map Oddity.error := by
  induction cars generalizing next index seen with
  | nil => exact same []
  | cons entry rest ih =>
    cases entry with
    | object entry =>
      rw [relayRows, oddRelay, bind_assoc]
      cases odd : oddCar py entry with
      | some oddity =>
        rw [carFrom_odd odd]
        rfl
      | none =>
        cases named : carNumber py entry with
        | none =>
          rw [carFrom_nameless odd named]
          rfl
        | some number =>
          obtain ⟨row, made, rfl⟩ := carFrom_named odd named at_ source index
          rw [made]
          show raised ((if row.carNumber ∈ seen then _ else _ : Except ShapeFailure _) >>= next) =
            (if row.carNumber ∈ seen then _ else _ : Option Oddity).map Oddity.error
          split
          · rfl
          · rw [bind_assoc]
            exact ih (fun rows => next (row :: rows)) (fun rows => same (row :: rows)) _ _
    | _ => rfl

/-- Timing71's cars raise, with what follows them, what is odd about them. -/
theorem raised_carRows {α : Type} {columns : List (Option String)}
    (next : List CarRow → Except ShapeFailure α) (session : Option Oddity)
    (same : ∀ rows, raised (next rows) = session.map Oddity.error) (index : Nat)
    (seen : List String) (cars : List Json) :
    raised (T71Translator.carRows py columns at_ source index seen cars >>= next) =
      (oddRows py columns session cars).map Oddity.error := by
  induction cars generalizing next index seen with
  | nil => exact same []
  | cons entry rest ih =>
    cases entry with
    | list entry =>
      rw [T71Translator.carRows, oddRows, bind_assoc]
      cases odd : oddCar py (T71Translator.named columns entry) with
      | some oddity =>
        rw [carFrom_odd odd]
        rfl
      | none =>
        cases named : carNumber py (T71Translator.named columns entry) with
        | none =>
          rw [carFrom_nameless odd named]
          rfl
        | some number =>
          obtain ⟨row, made, rfl⟩ := carFrom_named odd named at_ source index
          rw [made]
          show raised ((if row.carNumber ∈ seen then _ else _ : Except ShapeFailure _) >>= next) =
            (oddRows py columns session rest).map Oddity.error
          split
          · exact ih next same _ _
          · rw [bind_assoc]
            exact ih (fun rows => next (row :: rows)) (fun rows => same (row :: rows)) _ _
    | _ => rfl

theorem faultOf_sessionFrom (session : Mapping) :
    faultOf (sessionFrom py session at_ source) = (oddSession py session).map Oddity.error := by
  unfold sessionFrom oddSession
  split
  · rfl
  · dsimp only
    rw [Option.map_or, Option.map_or, Option.map_or, ← faultOf_int, ← faultOf_seconds py,
      ← faultOf_seconds py, ← faultOf_seconds py]
    refine faultOf_bind _ _ fun laps _ => ?_
    refine faultOf_bind _ _ fun remaining _ => ?_
    refine faultOf_bind _ _ fun elapsed _ => ?_
    refine (faultOf_bind _ _ fun track _ => ?_).trans Option.or_none
    rfl

end Rows

/-! ### Snapshots -/

section Snapshots

variable {py : Python} {at_ : ℚ} {source : String}

theorem raised_snapshotFromJson (body : Mapping) :
    raised (snapshotFromJson py body at_ source) = (oddBody py body).map Oddity.error := by
  unfold snapshotFromJson oddBody
  cases body.get "cars" with
  | list cars =>
    dsimp only
    split
    · rfl
    · cases body.get "session" with
      | null =>
        refine raised_relayRows _ none ?_ 0 [] cars
        intro rows
        rfl
      | object session =>
        refine raised_relayRows _ (oddSession py session) ?_ 0 [] cars
        intro rows
        rw [← faultOf_sessionFrom]
        cases sessionFrom py session at_ ((clip py (body.get "source")).getD source) <;> rfl
      | _ => rfl
  | _ => rfl

theorem bounded_of_rows {cars : List Json} {snapshot : Snapshot} (few : ¬ maxCars < cars.length)
    (short : snapshot.cars.length ≤ cars.length) (numbered : Numbered [] snapshot.cars) :
    Bounded snapshot where
  few := short.trans (Nat.le_of_not_lt few)
  named := numbered.named
  distinct := numbered.distinct

theorem snapshotFromJson_bounded {body : Mapping} {snapshot : Snapshot}
    (made : snapshotFromJson py body at_ source = .ok snapshot) : Bounded snapshot := by
  unfold snapshotFromJson at made
  split at made
  · rename_i cars _
    split at made
    · cases made
    · rename_i few
      have finish {label : String} {next : List CarRow → Except ShapeFailure Snapshot}
          (done : (relayRows py at_ label 0 [] cars >>= next) = .ok snapshot)
          (kept : ∀ rows, next rows = .ok snapshot → snapshot.cars = rows) : Bounded snapshot := by
        obtain ⟨rows, read, later⟩ := Attempt.bind_ok.mp done
        have ⟨long, numbered⟩ := relayRows_numbered read
        rw [← kept rows later] at long numbered
        exact bounded_of_rows few long.le numbered
      dsimp only at made
      split at made
      · refine finish made fun rows later => ?_
        cases later
        rfl
      · refine finish made fun rows later => ?_
        split at later
        · cases later
        · cases later
          rfl
      · cases made
  · cases made

theorem faultOf_temperature (py : Python) (value : Json) :
    faultOf (T71Translator.temperature py value) = (oddReal value).map Oddity.error := by
  cases value with
  | int value =>
    rw [T71Translator.temperature, faultOf_map]
    exact faultOf_floatOfInt value
  | _ => rfl

theorem faultOf_sessionMapping (translator : T71Translator) (session : Mapping) :
    faultOf (translator.sessionMapping py session) =
      ((translator.trackTempIndex.bind (T71Translator.trackAt (session.get "trackData"))).bind
        oddReal).map Oddity.error := by
  unfold T71Translator.sessionMapping
  cases translator.trackTempIndex.bind (T71Translator.trackAt (session.get "trackData")) with
  | none =>
    rw [Option.bind_none, Option.map_none]
    rfl
  | some value =>
    rw [Option.bind_some, ← faultOf_temperature py]
    dsimp only
    cases T71Translator.temperature py value <;> rfl

/-- The temperature that a state hands on is a number or nothing. -/
theorem oddReal_temperature {value track : Json}
    (read : T71Translator.temperature py value = .ok track) : oddReal track = none := by
  cases value with
  | int value =>
    rw [T71Translator.temperature] at read
    obtain ⟨number, _, rfl⟩ := Attempt.map_ok.mp read
    rfl
  | str value =>
    rw [T71Translator.temperature] at read
    rw [← Except.ok.inj read]
    cases seconds? py.toRuntime _ <;> rfl
  | _ =>
    rw [T71Translator.temperature] at read
    · rw [← Except.ok.inj read]
      rfl
    all_goals simp

theorem Mapping.get_cons (key wanted : String) (value : Json) (rest : Mapping) :
    Mapping.get ((key, value) :: rest) wanted = if wanted = key then value else rest.get wanted := by
  rw [Mapping.get, List.lookup_cons]
  by_cases same : wanted = key
  · rw [if_pos same, beq_iff_eq.mpr same]
    rfl
  · rw [if_neg same, beq_eq_false_iff_ne.mpr same]
    rfl

theorem oddSession_mapping {translator : T71Translator} {session mapping : Mapping}
    (made : translator.sessionMapping py session = .ok mapping) :
    oddSession py mapping =
      (oddWhole py (session.get "lapsRemain")).or
        ((oddReal (session.get "timeRemain")).or (oddReal (session.get "timeElapsed"))) := by
  unfold T71Translator.sessionMapping at made
  dsimp only at made
  have none : oddReal (Mapping.get [] "track_temp") = none := rfl
  split at made
  · cases made
    simp [oddSession, Mapping.get_cons, none]
  · obtain ⟨track, read, done⟩ := Attempt.bind_ok.mp made
    cases done
    simp [oddSession, Mapping.get_cons, oddReal_temperature read]

theorem faultOf_sessionOf (translator : T71Translator) (session : Json) :
    faultOf (translator.sessionOf py session at_) = (oddTrack py translator session).map Oddity.error := by
  cases session with
  | object session =>
    rw [oddTrack, Option.map_or, ← faultOf_sessionMapping]
    refine faultOf_bind _ _ fun mapping made => ?_
    rw [faultOf_sessionFrom, oddSession_mapping made]
  | _ => rfl

theorem raised_state (translator : T71Translator) (state : Mapping) :
    raised (translator.state py state at_) = (oddState py translator state).map Oddity.error := by
  unfold T71Translator.state oddState
  split
  · rfl
  · cases state.get "cars" with
    | list cars =>
      dsimp only
      split
      · rfl
      · refine raised_carRows _ (oddTrack py translator (state.get "session")) ?_ 0 [] cars
        intro rows
        rw [← faultOf_sessionOf ]
        cases translator.sessionOf py (state.get "session") at_ <;> rfl
    | _ => rfl

theorem state_bounded {translator : T71Translator} {state : Mapping} {snapshot : Snapshot}
    (made : translator.state py state at_ = .ok snapshot) : Bounded snapshot := by
  unfold T71Translator.state at made
  split at made
  · cases made
  · split at made
    · rename_i cars _
      split at made
      · cases made
      · rename_i few
        obtain ⟨rows, read, later⟩ := Attempt.bind_ok.mp made
        have ⟨short, numbered⟩ := carRows_numbered read
        split at later
        · cases later
        · cases later
          exact bounded_of_rows few short numbered
    · cases made

end Snapshots

/-! ### Answers -/

/-- Every number that is read of a body converts. -/
def Convertible (py : Python) (body : Mapping) : Prop := oddBody py body = none

/-- `json.loads` does not give up on the body, and the numbers of an object convert. -/
def Answerable (py : Python) : Loaded → Prop
  | .json (.object fields) => Convertible py fields
  | .json _ => True
  | .refused => True
  | .deep => False

/-- `json.loads` does not give up on the message, and the first number read of it that does not
convert, if there is one, is a NaN. -/
def Bearable (py : Python) (translator : T71Translator) : Loaded → Prop
  | .json value => ∀ oddity ∈ oddMessage py translator value, oddity = .nan
  | .refused => True
  | .deep => False

/-- What comes of a message: it is applied, of another kind, or counted as rejected. -/
inductive Handled (py : Python) (held : Connection) (message : Loaded × ℚ)
    (next : Connection) : Prop where
  | manifest (fields manifest : Mapping) (translator : T71Translator)
      (object : message.1 = .json (.object fields))
      (kind : fields.get "type" = .str "MANIFEST_UPDATE")
      (carried : fields.get "manifest" = .object manifest)
      (adopted : held.translator.manifest py manifest = .ok translator)
      (after : next = { translator := translator, service := { held.service with
        ingestT71Messages := held.service.ingestT71Messages + 1 } })
  | state (fields state : Mapping) (snapshot : Snapshot)
      (object : message.1 = .json (.object fields))
      (kind : fields.get "type" = .str "STATE_UPDATE")
      (carried : fields.get "state" = .object state)
      (read : held.translator.state py state message.2 = .ok snapshot)
      (bounded : Bounded snapshot)
      (after : next = { translator := held.translator, service := { held.service with
        ingestT71Messages := held.service.ingestT71Messages + 1,
        sunk := held.service.sunk ++ [snapshot] } })
  | ignored (fields : Mapping) (object : message.1 = .json (.object fields))
      (other : fields.get "type" ≠ .str "MANIFEST_UPDATE" ∧ fields.get "type" ≠ .str "STATE_UPDATE")
      (after : next = held)
  | rejected (translator : next.translator = held.translator)
      (service : next.service = { held.service with
        ingestRejected := held.service.ingestRejected + 1 })

section Answers

variable {py : Python}

theorem raised_eq_none {α : Type} {result : Except ShapeFailure α} :
    raised result = none ↔ (∃ value, result = .ok value) ∨ ∃ message, result = .error (.shape message) := by
  cases result with
  | ok value => exact iff_of_true rfl (.inl ⟨value, rfl⟩)
  | error failure =>
    cases failure with
    | shape message => exact iff_of_true rfl (.inr ⟨message, rfl⟩)
    | other error =>
      constructor
      · intro impossible
        cases impossible
      · rintro (⟨value, impossible⟩ | ⟨message, impossible⟩)
        · cases impossible
        · cases impossible

theorem snapshotFromJson_iff (body : Mapping) (at_ : ℚ) (source : String) :
    ((∃ snapshot, snapshotFromJson py body at_ source = .ok snapshot ∧ Bounded snapshot) ∨
      ∃ message, snapshotFromJson py body at_ source = .error (.shape message)) ↔ Convertible py body := by
  rw [Convertible, ← Option.map_eq_none_iff (f := Oddity.error), ← raised_snapshotFromJson,
    raised_eq_none]
  refine or_congr_left (exists_congr fun snapshot => ?_)
  exact ⟨And.left, fun made => ⟨made, snapshotFromJson_bounded made⟩⟩

theorem doPost_object (service : Service) (fields : Mapping) (at_ : ℚ) :
    (∃ status ∈ [200, 400], (doPost py service (.json (.object fields)) at_).2 = .ok status) ↔
      Convertible py fields := by
  rw [← snapshotFromJson_iff fields at_ "relay", doPost]
  cases made : snapshotFromJson py fields at_ "relay" with
  | ok snapshot =>
    exact iff_of_true ⟨200, by decide, rfl⟩ (.inl ⟨snapshot, rfl, snapshotFromJson_bounded made⟩)
  | error failure =>
    cases failure with
    | shape message => exact iff_of_true ⟨400, by decide, rfl⟩ (.inr ⟨message, rfl⟩)
    | other error =>
      constructor
      · rintro ⟨status, _, impossible⟩
        cases impossible
      · rintro (⟨snapshot, impossible, _⟩ | ⟨message, impossible⟩)
        · cases impossible
        · cases impossible

theorem doPost_iff (service : Service) (body : Loaded) (at_ : ℚ) :
    (∃ status ∈ [200, 400], (doPost py service body at_).2 = .ok status) ↔ Answerable py body := by
  cases body with
  | json value =>
    cases value with
    | object fields => exact doPost_object service fields at_
    | _ => exact iff_of_true ⟨400, by decide, rfl⟩ trivial
  | refused => exact iff_of_true ⟨400, by decide, rfl⟩ trivial
  | deep =>
    refine iff_of_false ?_ id
    rintro ⟨status, _, impossible⟩
    cases impossible

theorem raised_map {α β : Type} (result : Except ShapeFailure α) (make : α → β) :
    raised (result.map make) = raised result := by
  cases result with
  | ok value => rfl
  | error failure => cases failure <;> rfl

theorem raised_manifest (translator : T71Translator) (manifest : Mapping) :
    raised (translator.manifest py manifest) = none := by
  unfold T71Translator.manifest
  cases manifest.get "colSpec" <;> rfl

theorem raised_attempt (py : Python) (connection : Connection) (message : Json) (at_ : ℚ) :
    raised (connection.attempt py message at_) =
      (oddMessage py connection.translator message).map Oddity.error := by
  unfold Connection.attempt oddMessage
  cases message with
  | object fields =>
    dsimp only
    split
    · rename_i kind
      rw [kind]
      cases Mapping.get fields "manifest" with
      | object manifest =>
        dsimp only
        rw [raised_map, raised_manifest]
        rfl
      | _ => rfl
    · rename_i kind
      rw [kind]
      cases Mapping.get fields "state" with
      | object state =>
        dsimp only
        rw [raised_map, raised_state]
        rfl
      | _ => rfl
    · rename_i other
      split
      · rename_i kind
        exact absurd kind other
      · rfl
  | _ => rfl

theorem caught_error (oddity : Oddity) :
    Connection.caught (.other oddity.error) = true ↔ oddity = .nan := by
  cases oddity <;> decide

theorem message_iff (connection : Connection) (message : Loaded × ℚ) :
    (∃ next, connection.message py message = some next) ↔
      Bearable py connection.translator message.1 := by
  obtain ⟨text, at_⟩ := message
  cases text with
  | refused => exact iff_of_true ⟨connection.rejected, rfl⟩ trivial
  | deep =>
    refine iff_of_false ?_ id
    rintro ⟨next, impossible⟩
    cases impossible
  | json value =>
    have odd := raised_attempt py connection value at_
    rw [Connection.message, Bearable]
    dsimp only
    cases outcome : connection.attempt py value at_ with
    | ok next =>
      rw [outcome] at odd
      rw [Option.map_eq_none_iff.mp odd.symm]
      refine iff_of_true ⟨next, rfl⟩ ?_
      intro oddity impossible
      cases impossible
    | error failure =>
      rw [outcome] at odd
      dsimp only
      cases failure with
      | shape message =>
        rw [Option.map_eq_none_iff.mp odd.symm]
        refine iff_of_true ⟨connection.rejected, rfl⟩ ?_
        intro oddity impossible
        cases impossible
      | other error =>
        obtain ⟨oddity, read, rfl⟩ := Option.map_eq_some_iff.mp odd.symm
        rw [read]
        by_cases nan : oddity = .nan
        · rw [if_pos ((caught_error oddity).mpr nan)]
          refine iff_of_true ⟨connection.rejected, rfl⟩ ?_
          intro other same
          cases same
          exact nan
        · rw [if_neg fun bears => nan ((caught_error oddity).mp bears)]
          constructor
          · rintro ⟨next, impossible⟩
            cases impossible
          · exact fun bears => absurd (bears oddity rfl) nan

theorem handled_of_attempt {held next : Connection} {value : Json} {at_ : ℚ}
    (applied : held.attempt py value at_ = .ok next) : Handled py held (.json value, at_) next := by
  unfold Connection.attempt at applied
  split at applied
  · rename_i fields
    split at applied
    · rename_i kind
      split at applied
      · rename_i manifest carried
        obtain ⟨translator, adopted, rfl⟩ := Attempt.map_ok.mp applied
        exact .manifest fields manifest translator rfl kind carried adopted rfl
      · cases applied
    · rename_i kind
      split at applied
      · rename_i state carried
        obtain ⟨snapshot, read, rfl⟩ := Attempt.map_ok.mp applied
        exact .state fields state snapshot rfl kind carried read (state_bounded read) rfl
      · cases applied
    · rename_i manifest state
      cases applied
      exact .ignored fields rfl ⟨manifest, state⟩ rfl
  · cases applied

theorem handled_of_message {held next : Connection} {message : Loaded × ℚ}
    (taken : held.message py message = some next) : Handled py held message next := by
  obtain ⟨text, at_⟩ := message
  cases text with
  | refused =>
    cases taken
    exact .rejected rfl rfl
  | deep => cases taken
  | json value =>
    rw [Connection.message] at taken
    dsimp only at taken
    split at taken
    · rename_i applied
      cases taken
      exact handled_of_attempt applied
    · split at taken
      · cases taken
        exact .rejected rfl rfl
      · cases taken

/-- All messages are taken, and each is handled. -/
structure Served (py : Python) (connection : Connection) (messages : List (Loaded × ℚ)) : Prop where
  kept : ∃ final, Machine.run (Connection.message py) connection messages = some final
  handled : ∀ before message after, messages = before ++ message :: after → ∀ held next,
    Machine.run (Connection.message py) connection before = some held →
      held.message py message = some next → Handled py held message next

theorem served_iff (connection : Connection) (messages : List (Loaded × ℚ)) :
    Served py connection messages ↔
      ∀ before message after, messages = before ++ message :: after → ∀ held,
        Machine.run (Connection.message py) connection before = some held →
          Bearable py held.translator message.1 := by
  have kept : (∃ final, Machine.run (Connection.message py) connection messages = some final) ↔ _ :=
    Machine.run_some_iff
  constructor
  · intro served before message after split held reached
    exact (message_iff held message).mp (kept.mp served.kept before message after split held reached)
  · intro bears
    refine ⟨kept.mpr ?_, fun _ _ _ _ _ _ _ taken => handled_of_message taken⟩
    intro before message after split held reached
    exact (message_iff held message).mpr (bears before message after split held reached)

end Answers

/-- A runtime that prints a number as the text "1" and knows no other text. -/
def onePython : Python where
  lower text := text
  upper text := text
  int _ := none
  float _ := none
  fromTimestamp _ := .ok 0
  fromString _ := .error "syntax error"
  str _ := "1"
  isDigit _ := false

def endlessLaps : List Json :=
  [.object [("type", .str "MANIFEST_UPDATE"), ("manifest", .object
      [("colSpec", .list [.list [.str "num"], .list [.str "laps"]])])],
    .object [("type", .str "STATE_UPDATE"), ("state", .object
      [("cars", .list [.list [.str "1", .float .posInf]])])]]

end OpenLaps.Field.Shapes

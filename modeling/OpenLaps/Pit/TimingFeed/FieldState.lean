import Mathlib.Data.List.Sort
import OpenLaps.Pit.TimingFeed.Readings

/- The field in memory: the lines of the leaderboard, the registry, the session, and the
rows each document changes. Times are seconds. -/
namespace OpenLaps.Field

open Session (strip)

def maxCars : Nat := 200

structure SessionRow where
  time : ℚ
  source : String
  sessionName : Option String
  eventType : Option String
  flagState : Option String
  subStatus : Option String
  timeRemainingS : Option PyFloat
  lapsRemaining : Option Int
  timeElapsedS : Option PyFloat
  trackTemp : Option PyFloat
deriving DecidableEq

def SessionRow.new (time : ℚ) (source : String) : SessionRow :=
  { time := time, source := source, sessionName := none, eventType := none, flagState := none,
    subStatus := none, timeRemainingS := none, lapsRemaining := none, timeElapsedS := none,
    trackTemp := none }

/-- No reading is NaN, which equals nothing. -/
def comparable (readings : List (Option PyFloat)) : Bool := !readings.contains (some .nan)

/-- `same_as`: equal in everything but the timestamp. -/
def SessionRow.sameAs (row other : SessionRow) : Bool :=
  comparable [row.timeRemainingS, row.timeElapsedS, row.trackTemp] &&
    { row with time := other.time } = other

/-- What the timing screen shows for one car. -/
structure Standing where
  source : String
  carNumber : String
  competitorId : Option String
  carClass : Option String
  position : Option Int
  classPosition : Option Nat
  laps : Option Int
  lastLapS : Option PyFloat
  bestLapS : Option PyFloat
  gapLeadS : Option PyFloat
  gapNextS : Option PyFloat
  sec1S : Option PyFloat
  sec2S : Option PyFloat
  sec3S : Option PyFloat
  pitCount : Option Int
  inPit : Option Bool
  pitFlag : Option String
  driver : Option String
  state : Option String
deriving DecidableEq

/-- One `field_cars` row: a standing and its timestamps. -/
structure CarRow where
  time : ℚ
  epoch : ℚ
  shown : Standing
deriving DecidableEq

/-- `same_as`: equal in everything but the timestamps. -/
def CarRow.sameAs (row other : CarRow) : Bool :=
  comparable [row.shown.lastLapS, row.shown.bestLapS, row.shown.gapLeadS, row.shown.gapNextS,
    row.shown.sec1S, row.shown.sec2S, row.shown.sec3S] && row.shown = other.shown

structure LapRow where
  time : ℚ
  source : String
  carNumber : String
  competitorId : Option String
  lapNumber : Int
  lapTimeS : Option PyFloat
  position : Option Int
  classPosition : Option Nat
  gapLeadS : Option PyFloat
  gapNextS : Option PyFloat
  pitCount : Option Int
  sec1S : Option PyFloat
  sec2S : Option PyFloat
  sec3S : Option PyFloat
  flagState : Option String
  subStatus : Option String
deriving DecidableEq

structure PassingRow where
  time : ℚ
  source : String
  competitorId : String
  line : String
  passingType : Option Int
  active : Option String
  tod : Option ℚ
  carNumber : Option String
deriving DecidableEq

/-- Everything one document changed. -/
structure Batch where
  session : Option SessionRow
  cars : List CarRow
  laps : List LapRow
  passings : List PassingRow
  document : String

structure Competitor where
  competitorId : String
  number : String
  carClass : Option String
  drivers : Dict String String

def Competitor.driverName (competitor : Competitor) (driverId : Option String) : Option String :=
  match driverId.bind competitor.drivers.get? with
  | some name => some name
  | none => (competitor.drivers.entries.head?).map Prod.snd

structure Snapshot where
  at_ : ℚ
  source : String
  session : Option SessionRow
  cars : List CarRow

/-- `DocumentError`, and what else a document can raise. -/
inductive FeedError where
  | documentError (message : String)
  | other (error : PyError)
deriving DecidableEq, Repr

abbrev Lines := Dict Int (Dict String String)

structure FieldState where
  source : String
  competitors : Dict String Competitor
  lines : Lines
  cars : Dict String CarRow
  session : Option SessionRow
  epoch : Option ℚ
  documents : Nat
  unknownTags : Dict String Nat

def FieldState.new (source : String) : FieldState :=
  { source := source, competitors := .empty, lines := .empty, cars := .empty, session := none,
    epoch := none, documents := 0, unknownTags := .empty }

/-- `dict.update`. -/
def updated (attributes : Dict String String) (more : List (String × String)) :
    Dict String String :=
  more.foldl (fun attributes entry => attributes.set entry.1 entry.2) attributes

def competitorOf (entry : Element) (competitorId : String) : Competitor :=
  let number := match entry.get "Number" with
    | some number => if number.isEmpty then competitorId else number
    | none => competitorId
  { competitorId := competitorId, number := strip number, carClass := text? (entry.get "Class"),
    drivers := (entry.iter "Driver").foldl
      (fun drivers driver =>
        match driver.get "ID", text? (driver.get "Name") with
        | some driverId, some name => drivers.set driverId name
        | _, _ => drivers) .empty }

/-- `_competitor_list`: the new registry. -/
def competitorList (element : Element) : Dict String Competitor :=
  (element.iter "Competitor").foldl
    (fun registry entry =>
      match entry.get "ID" with
      | none => registry
      | some competitorId => registry.set competitorId (competitorOf entry competitorId)) .empty

/-- The attributes of a position and of its details for all drivers. -/
def positionAttributes (position : Element) : Dict String String :=
  (position.iter "Detail").foldl
    (fun attributes detail =>
      let drivers := (detail.get "Driv").filter fun text => !text.isEmpty
      if drivers.getD "All" = "All" then
        updated attributes (detail.attrib.entries.filter fun entry => entry.1 ≠ "Driv")
      else attributes) position.attrib

/-- The positions of a leaderboard by line. -/
def incoming (py : Runtime) : List Element → Lines → Except PyError Lines
  | [], lines => .ok lines
  | position :: rest, lines => do
    match ← int? py (position.get "Line") with
    | none => incoming py rest lines
    | some line => incoming py rest (lines.set line (positionAttributes position))

/-- `kind == "part"`. -/
def isPart (py : Runtime) (element : Element) : Bool :=
  py.lower (((element.get "Type").filter fun text => !text.isEmpty).getD "full") = "part"

/-- The lines held after a leaderboard: merged from a part, replaced by a full one. -/
def mergeLines (part : Bool) (held incoming : Lines) : Lines :=
  if part then
    incoming.entries.foldl
      (fun lines entry =>
        lines.set entry.1 (updated ((lines.get? entry.1).getD .empty) entry.2.entries)) held
  else incoming

/-- The standing of one line. `place` is its place among the positions of a class. -/
def standingOf (py : Runtime) (source : String) (competitors : Dict String Competitor) (line : Int)
    (attributes : Dict String String) (place : Option String → Nat) : Except PyError Standing := do
  let competitorId := attributes.get? "Comp"
  let competitor := competitors.get? (competitorId.getD "")
  let fallback := match competitorId with
    | some text => if text.isEmpty then toString line else text
    | none => toString line
  let position ← int? py (attributes.get? "Pos")
  let carClass := competitor.bind Competitor.carClass
  let pitFlag := text? (attributes.get? "PitLaneFlag")
  let inPit := pitFlag = some "P"
  let laps ← int? py (attributes.get? "LastLap")
  let pitCount ← int? py (attributes.get? "PitStops")
  let state ← carState py (attributes.get? "Pos") inPit (attributes.get? "OutLap")
  pure
    { source := source,
      carNumber := (competitor.map Competitor.number).getD fallback,
      competitorId := competitorId,
      carClass := carClass,
      position := position,
      classPosition := position.map fun _ => place carClass,
      laps := laps,
      lastLapS := seconds? py (attributes.get? "LastTime"),
      bestLapS := seconds? py (attributes.get? "FastTime"),
      gapLeadS := seconds? py (attributes.get? "GapLeadTime"),
      gapNextS := seconds? py (attributes.get? "GapNextTime"),
      sec1S := seconds? py (attributes.get? "LastSec1Time"),
      sec2S := seconds? py (attributes.get? "LastSec2Time"),
      sec3S := seconds? py (attributes.get? "LastSec3Time"),
      pitCount := pitCount,
      inPit := some inPit,
      pitFlag := pitFlag,
      driver := competitor.bind fun competitor => competitor.driverName (attributes.get? "Driv"),
      state := some state }

/-- The loop of `_rows_from_lines`, with the positions counted so far in each class. -/
def standingsLoop (py : Runtime) (source : String) (competitors : Dict String Competitor) :
    List (Int × Dict String String) → Dict (Option String) Nat → Except PyError (List Standing)
  | [], _ => .ok []
  | entry :: rest, counts => do
    let standing ← standingOf py source competitors entry.1 entry.2 fun carClass =>
      (counts.get? carClass).getD 0 + 1
    let counted := match standing.classPosition with
      | some place => counts.set standing.carClass place
      | none => counts
    let later ← standingsLoop py source competitors rest counted
    pure (standing :: later)

/-- The standings the lines and the registry come to, by line. -/
def FieldState.standings (py : Runtime) (state : FieldState) : Except PyError (List Standing) :=
  standingsLoop py state.source state.competitors
    (state.lines.entries.insertionSort fun first second => first.1 ≤ second.1) .empty

/-- `_rows_from_lines`. -/
def FieldState.rowsFromLines (py : Runtime) (state : FieldState) (at_ : ℚ) :
    Except PyError (List CarRow) :=
  (state.standings py).map fun standings =>
    standings.map fun standing => ⟨at_, state.epoch.getD at_, standing⟩

/-- `_lap`. -/
def lapOf (source : String) (session : Option SessionRow) (row : CarRow) : LapRow :=
  { time := row.time, source := source, carNumber := row.shown.carNumber,
    competitorId := row.shown.competitorId, lapNumber := row.shown.laps.getD 0,
    lapTimeS := row.shown.lastLapS, position := row.shown.position,
    classPosition := row.shown.classPosition, gapLeadS := row.shown.gapLeadS,
    gapNextS := row.shown.gapNextS, pitCount := row.shown.pitCount, sec1S := row.shown.sec1S,
    sec2S := row.shown.sec2S, sec3S := row.shown.sec3S,
    flagState := session.bind SessionRow.flagState,
    subStatus := session.bind SessionRow.subStatus }

/-- The lap count rose. -/
def rises (before now : Option Int) : Bool :=
  match before, now with
  | some before, some now => before < now
  | _, _ => false

/-- The loop of `_diff` so far: the cars held, and what was emitted. -/
structure Emitted where
  cars : Dict String CarRow
  changed : List CarRow
  laps : List LapRow

/-- One turn of the loop of `_diff`. -/
def emitRow (source : String) (session : Option SessionRow) (epoch : ℚ) (emitted : Emitted)
    (row : CarRow) : Emitted :=
  let row := { row with epoch := epoch }
  match emitted.cars.get? row.shown.carNumber with
  | none =>
    { cars := emitted.cars.set row.shown.carNumber row, changed := emitted.changed ++ [row],
      laps := emitted.laps }
  | some previous =>
    if row.sameAs previous then emitted
    else
      { cars := emitted.cars.set row.shown.carNumber row, changed := emitted.changed ++ [row],
        laps := if rises previous.shown.laps row.shown.laps
          then emitted.laps ++ [lapOf source session row] else emitted.laps }

/-- A different set of cars is a different standings table. -/
def FieldState.resets (state : FieldState) (numbers : List String) (full : Bool) : Bool :=
  full && (state.epoch.isNone ||
    !(numbers.all state.cars.contains && state.cars.keys.all numbers.contains))

/-- `_diff`. -/
def FieldState.diff (state : FieldState) (rows : List CarRow) (at_ : ℚ) (full : Bool) :
    FieldState × List CarRow × List LapRow :=
  let state :=
    if state.resets (rows.map fun row => row.shown.carNumber) full
      then { state with epoch := some at_, cars := .empty } else state
  let emitted := rows.foldl (emitRow state.source state.session (state.epoch.getD at_))
    ⟨state.cars, [], []⟩
  ({ state with cars := emitted.cars }, emitted.changed, emitted.laps)

/-- What one element changed; a batch collects them. -/
structure Changes where
  session : Option SessionRow
  cars : List CarRow
  laps : List LapRow
  passings : List PassingRow

def Changes.none : Changes := ⟨.none, [], [], []⟩

/-- The rows of the lines held, against what was last emitted. -/
def FieldState.rederive (py : Runtime) (state : FieldState) (at_ : ℚ) (full : Bool) :
    FieldState × Except FeedError Changes :=
  match state.rowsFromLines py at_ with
  | .error error => (state, .error (.other error))
  | .ok rows =>
    let diffed := state.diff rows at_ full
    (diffed.1, .ok { Changes.none with cars := diffed.2.1, laps := diffed.2.2 })

/-- `_leaderboard`. The lines are held before the cap is checked. -/
def FieldState.leaderboard (py : Runtime) (state : FieldState) (element : Element) (at_ : ℚ) :
    FieldState × Except FeedError Changes :=
  match incoming py (element.iter "Position") .empty with
  | .error error => (state, .error (.other error))
  | .ok lines =>
    let held := { state with lines := mergeLines (isPart py element) state.lines lines }
    if maxCars < held.lines.entries.length then
      (held, .error (.documentError ("leaderboard has " ++ toString held.lines.entries.length ++
        " lines; the cap is " ++ toString maxCars)))
    else held.rederive py at_ (!isPart py element)

/-- The registry is replaced, and the cars renamed where there are lines. -/
def FieldState.register (py : Runtime) (state : FieldState) (element : Element) (at_ : ℚ) :
    FieldState × Except FeedError Changes :=
  let held := { state with competitors := competitorList element }
  if held.lines.entries.isEmpty then (held, .ok .none) else held.rederive py at_ false

/-- The part of `_session_update` for the clock and the name. -/
def sessionClock (py : Runtime) (row : SessionRow) (element : Element) :
    Except PyError SessionRow := do
  if element.tag = "Counters" then
    let kind := py.lower ((element.get "Type").getD "")
    let count := seconds? py (element.get "Count")
    let elapsed := seconds? py (element.get "Elapsed")
    let row := match elapsed with
      | some elapsed => { row with timeElapsedS := some elapsed }
      | none => row
    match count with
    | none => pure row
    | some count =>
      if kind = "time" ∨ kind = "countdown" then
        pure { row with timeRemainingS := some count }
      else if kind = "laps" then
        let laps ← truncate count
        pure { row with lapsRemaining := some laps }
      else if kind = "elapsed" ∧ elapsed = none then
        pure { row with timeElapsedS := some count }
      else pure row
  else if element.tag = "Event" then
    let name := (text? (element.get "Description1")).or (text? (element.get "Code"))
    pure { row with
      sessionName := name.or row.sessionName,
      eventType := (text? (element.get "Type")).or row.eventType }
  else pure row

/-- `_session_update`. -/
def FieldState.sessionUpdate (py : Runtime) (state : FieldState) (element : Element) (at_ : ℚ) :
    FieldState × Except FeedError Changes :=
  let current := { state.session.getD (.new at_ state.source) with time := at_ }
  let flagged := match element.get "Status" with
    | some status => { current with flagState := flagState py status }
    | none => current
  let marked := match element.get "SubStatus" with
    | some status => { flagged with subStatus := subStatus py status }
    | none => flagged
  let warmed := match seconds? py (element.get "TrackTemp") with
    | some temp => { marked with trackTemp := some temp }
    | none => marked
  match sessionClock py warmed element with
  | .error error => (state, .error (.other error))
  | .ok row =>
    if state.session.any row.sameAs then (state, .ok .none)
    else ({ state with session := some row }, .ok { Changes.none with session := some row })

/-- `_passing`. -/
def FieldState.passing (py : Runtime) (state : FieldState) (element : Element) (at_ : ℚ) :
    Except PyError (Option PassingRow) := do
  match text? (element.get "ID") with
  | none => pure none
  | some competitorId =>
    let code ← int? py (element.get "Type")
    let tod ← match seconds? py (element.get "Time") with
      | some seconds =>
        if !seconds.le (.finite 1000000000) && seconds ≠ .nan
          then (py.fromTimestamp seconds).map some else pure none
      | none => pure none
    let fallback := match code with
      | some code => toString code
      | none => "unknown"
    pure (some
      { time := at_, source := state.source, competitorId := competitorId,
        line := (passingLines.lookup (code.getD (-1))).getD fallback,
        passingType := code, active := text? (element.get "Active"), tod := tod,
        carNumber := (state.competitors.get? competitorId).map Competitor.number })

/-- One element of a document. -/
def FieldState.applyElement (py : Runtime) (at_ : ℚ) (state : FieldState) (element : Element) :
    FieldState × Except FeedError Changes :=
  if element.tag = "Leaderboard" then state.leaderboard py element at_
  else if element.tag = "CompetitorList" then state.register py element at_
  else if element.tag ∈ ["Counters", "Status", "Heartbeat", "Flag", "Event"] then
    state.sessionUpdate py element at_
  else if element.tag ∈ ["Passing", "Seen"] then
    match state.passing py element at_ with
    | .error error => (state, .error (.other error))
    | .ok row => (state, .ok { Changes.none with passings := row.toList })
  else
    ({ state with
        unknownTags :=
          state.unknownTags.set element.tag ((state.unknownTags.get? element.tag).getD 0 + 1) },
      .ok .none)

/-- The elements one by one; the first that raises ends the document. -/
def FieldState.applyElements (py : Runtime) (at_ : ℚ) :
    FieldState → List Element → Changes → FieldState × Except FeedError Changes
  | state, [], so => (state, .ok so)
  | state, element :: rest, so =>
    match state.applyElement py at_ element with
    | (next, .error error) => (next, .error error)
    | (next, .ok changes) => next.applyElements py at_ rest
        { session := changes.session.or so.session, cars := so.cars ++ changes.cars,
          laps := so.laps ++ changes.laps, passings := so.passings ++ changes.passings }

/-- The elements a document brings: a `New` brings several. -/
def Element.parts (root : Element) : List Element :=
  if root.tag = "New" then root.children else [root]

/-- `apply_document`. -/
def FieldState.applyDocument (py : Runtime) (state : FieldState) (text : String) (at_ : ℚ) :
    FieldState × Except FeedError Batch :=
  match py.fromString text with
  | .error message => (state, .error (.documentError ("not XML: " ++ message)))
  | .ok root =>
    let applied := { state with documents := state.documents + 1 }.applyElements py at_
      root.parts .none
    (applied.1, applied.2.map fun changes =>
      { session := changes.session, cars := changes.cars, laps := changes.laps,
        passings := changes.passings, document := text })

/-- `apply_snapshot`. The session is taken before the cap is checked. -/
def FieldState.applySnapshot (state : FieldState) (snapshot : Snapshot) :
    FieldState × Except FeedError Batch :=
  let counted := { state with documents := state.documents + 1 }
  let merged := snapshot.session.map fun row =>
    { row with time := snapshot.at_, source := state.source }
  let session := merged.filter fun row => !state.session.any row.sameAs
  let told := { counted with session := session.or counted.session }
  let rows := snapshot.cars.map fun car =>
    { car with time := snapshot.at_, shown := { car.shown with source := state.source } }
  if maxCars < rows.length then
    (told, .error (.documentError ("snapshot has " ++ toString rows.length ++
      " cars; the cap is " ++ toString maxCars)))
  else
    let diffed := told.diff rows snapshot.at_ true
    (diffed.1, .ok ⟨session, diffed.2.1, diffed.2.2, [], ""⟩)

end OpenLaps.Field

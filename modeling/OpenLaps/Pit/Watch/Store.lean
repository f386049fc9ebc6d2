import OpenLaps.Pit.Watch.Service

/- The tables of the watch (`store.py`), with the rows of one vehicle and its configured
monitors, and the service at work on them: any call may fail, a transaction may commit with
its reply lost, and the process may end between any two steps. -/
namespace OpenLaps.Watch

/-- A row of `watch_findings`, by its id. -/
structure FindingRow where
  monitor : String
  openedAt : ℚ
  closedAt : Option ℚ
  severity : Severity
  peakScore : ℚ
  summary : Summary
  closedReason : Option String := none

/-- `watch_findings` and `watch_baselines`; a checkpoint is found by session, slot and
monitor. -/
structure Database where
  findings : Dict Nat FindingRow := .empty
  baselines : Dict (String × Nat × String) Saved := .empty

namespace Database

/-- The upsert of a finding. A time of closing that is zero is written as none. -/
def recordFinding (database : Database) (monitor : String) (finding : Finding) : Database :=
  let closedAt := finding.closedAt.filter (· ≠ 0)
  let row : FindingRow :=
    match database.findings.get? finding.findingId with
    | some row =>
      { row with
        closedAt := closedAt
        peakScore := finding.peakScore
        summary := finding.summary
        closedReason := none }
    | none =>
      { monitor := monitor
        openedAt := finding.openedAt
        closedAt := closedAt
        severity := finding.severity
        peakScore := finding.peakScore
        summary := finding.summary }
  { database with findings := database.findings.set finding.findingId row }

def recordReport (database : Database) (monitor : String) : Option Finding → Database
  | none => database
  | some finding => database.recordFinding monitor finding

/-- The upsert of a monitor's checkpoint, where there is a session. -/
def saveModel (call : WriteTick) (database : Database) (name : String) : Database :=
  match named call.session, call.models.get? name with
  | some session, some model =>
    { database with
      baselines := database.baselines.set
        (session, (call.stints.get? name).getD 0, name) model }
  | _, _ => database

/-- What the transaction does for one monitor. -/
def writeRow (call : WriteTick) (database : Database) (name : String) (row : Row) : Database :=
  (database.recordReport name row.finding).saveModel call name

def writeTick (database : Database) (call : WriteTick) : Database :=
  call.rows.entries.foldl (fun database entry => database.writeRow call entry.1 entry.2) database

def closePrevious (database : Database) (time : Int) (call : ClosePrevious) : Database :=
  { database with
    findings := database.findings.mapEntries fun findingId row =>
      if row.monitor ∈ call.monitors ∧ row.closedAt = none ∧ findingId ∉ call.keep then
        { row with closedAt := some time, closedReason := some call.reason }
      else row }

end Database

/-- How a transaction ends for the service, and whether it was committed. -/
inductive Reply where
  | normal
  | refused
  | lost
  deriving DecidableEq, Repr

/-- How the calls of one `_context` end; the loads of the monitors in `unread` fail. -/
structure Replies where
  session : Except TickError (Option String)
  stint : Except TickError Nat
  unread : List String
  closePrevious : Reply

def Replies.answers (replies : Replies) (database : Database) : Answers where
  session := replies.session
  stint := replies.stint
  load name session slot :=
    if name ∈ replies.unread then .error .database
    else .ok (database.baselines.get? (session, slot, name))
  closePrevious := if replies.closePrevious = .normal then .ok () else .error .database

/-- The tables after the `close_previous` of a tick, if it made one. -/
def Database.closed (database : Database) (time : Int) (replies : Replies) :
    Option ClosePrevious → Database
  | none => database
  | some call =>
    if replies.closePrevious = .refused then database else database.closePrevious time call

/-- The sessions and stints that were seen, with those of one more tick. -/
def Answers.visit (answers : Answers) (visited : List (Option String × Nat)) :
    List (Option String × Nat) :=
  match answers.seen with
  | .error _ => visited
  | .ok context => context :: visited

/-- Where the tick loop is. -/
inductive Pc where
  | idle
  /-- `write_tick` was called; `previous` is the copy of the engine. -/
  | writing (call : WriteTick) (time : Int) (previous : WatchEngine)
  /-- The transaction is committed and its reply is on the way. -/
  | committed (call : WriteTick) (time : Int) (previous : WatchEngine)

structure Process where
  service : WatchService
  pc : Pc := .idle

/-- The process, while it runs, the tables and the numbers that `uuid4` has not given out.
`visited` records the sessions and stints the service has seen, newest first, and is never
read. -/
structure System where
  process : Option Process := none
  database : Database := {}
  ids : Nat := 0
  visited : List (Option String × Nat) := []

inductive Event where
  | start
  | crash
  | receive (now : ℚ) (message : Message)
  | tick (time : Int) (replies : Replies)
  | commit
  | refuse
  | lose
  | reply

namespace System

variable (settings : Settings)

/-- A tick from its start to the call of `write_tick`, or to its end where there is none. -/
def tick (system : System) (service : WatchService) (time : Int) (replies : Replies) : System :=
  let answers := replies.answers system.database
  let (service, closed, outcome) := service.context settings answers
  let database := system.database.closed time replies closed
  let visited := answers.visit system.visited
  match outcome with
  | .error _ =>
    { system with process := some ⟨service.failed, .idle⟩, database := database, visited := visited }
  | .ok () =>
    let (ids, service, raised) := service.drain settings system.ids time
    match raised with
    | some _ =>
      ⟨some ⟨service.failed, .idle⟩, database, ids, visited⟩
    | none =>
      let previous := service.engine
      let (ids, service, call) := service.evaluate settings ids time
      let process : Process := match call with
        | .error _ => ⟨service.failed, .idle⟩
        | .ok none => ⟨service, .idle⟩
        | .ok (some call) => ⟨service, .writing call time previous⟩
      ⟨some process, database, ids, visited⟩

/-- One step. The clock of the service is past the first minute of 1970. -/
def step (system : System) : Event → Option System
  | .start =>
    match system.process with
    | none => some { system with process := some ⟨.new settings, .idle⟩ }
    | some _ => none
  | .crash => system.process.map fun _ => { system with process := none }
  | .receive now message =>
    match system.process with
    | some process =>
      if 60 < now then
        some { system with
          process := some { process with service := process.service.handle now message } }
      else none
    | none => none
  | .tick time replies =>
    match system.process with
    | some ⟨service, .idle⟩ =>
      if 0 < time then some (system.tick settings service time replies) else none
    | _ => none
  | .commit =>
    match system.process with
    | some ⟨service, .writing call time previous⟩ =>
      some { system with
        process := some ⟨service, .committed call time previous⟩
        database := system.database.writeTick call }
    | _ => none
  | .refuse =>
    match system.process with
    | some ⟨service, .writing _ _ previous⟩ =>
      some { system with process := some ⟨{ service with engine := previous }.failed, .idle⟩ }
    | _ => none
  | .lose =>
    match system.process with
    | some ⟨service, .committed _ _ previous⟩ =>
      some { system with process := some ⟨{ service with engine := previous }.failed, .idle⟩ }
    | _ => none
  | .reply =>
    match system.process with
    | some ⟨service, .committed call time _⟩ =>
      some { system with process := some ⟨service.written time call.rows, .idle⟩ }
    | _ => none

end System

end OpenLaps.Watch

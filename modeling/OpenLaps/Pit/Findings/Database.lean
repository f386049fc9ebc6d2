import Mathlib.Data.Rat.Defs
import Mathlib.Algebra.Order.Ring.Rat
import OpenLaps.Lib.Dict

/- The open findings of the strategy and timing-feed services: the rows of
`watch_findings` that are theirs, and the map from monitor to open row each keeps in
memory. The map is changed while the transaction that changes the rows is still
under way. -/
namespace OpenLaps.Findings

structure Finding where
  monitor : String
  severity : String
  score : ℚ
  summary : String
deriving DecidableEq, Repr

/-- A row of `watch_findings`. Ids are numbers that are never drawn twice. -/
structure Row where
  id : Nat
  monitor : String
  openedAt : Int
  severity : String
  peakScore : ℚ
  summary : String
  closedAt : Option Int
deriving DecidableEq, Repr

def Row.isOpen (row : Row) : Bool := row.closedAt.isNone

/-- The committed rows, what the service holds in memory, and how many ids have been
drawn. -/
structure System where
  rows : List Row
  openFindings : Dict String Nat
  uuids : Nat

def System.new : System := { rows := [], openFindings := Dict.empty, uuids := 0 }

/-- A transaction under way: `failsAt` statements from now one fails. -/
structure Work extends System where
  failsAt : Option Nat

/-- `conn.execute`: the failing one leaves memory as it is at that moment. -/
def execute (statement : List Row → List Row) (work : Work) : Except System Work :=
  if work.failsAt = some 0 then
    .error work.toSystem
  else
    .ok { work with rows := statement work.rows, failsAt := work.failsAt.map (· - 1) }

def newRow (id : Nat) (time : Int) (finding : Finding) : Row :=
  { id := id, monitor := finding.monitor, openedAt := time, severity := finding.severity,
    peakScore := finding.score, summary := finding.summary, closedAt := none }

/-- `_UPDATE_FINDING`. -/
def updateRow (finding : Finding) (id : Nat) (row : Row) : Row :=
  if row.id = id then
    { row with severity := finding.severity, peakScore := max row.peakScore finding.score,
               summary := finding.summary }
  else row

/-- `_CLOSE_FINDING`. -/
def closeRow (time : Int) (id : Nat) (row : Row) : Row :=
  if row.id = id ∧ row.closedAt = none then { row with closedAt := some time } else row

/-- One turn of the loop over the active findings. The map learns of the row after
its insert. -/
def openFinding (time : Int) (finding : Finding) (work : Work) : Except System Work :=
  match work.openFindings.get? finding.monitor with
  | none =>
    let id := work.uuids
    match execute (fun rows => rows ++ [newRow id time finding]) { work with uuids := id + 1 } with
    | .error left => .error left
    | .ok done => .ok { done with openFindings := done.openFindings.set finding.monitor id }
  | some existing => execute (fun rows => rows.map (updateRow finding existing)) work

/-- One turn of the loop over the open findings. `pop` is evaluated before the
statement is sent. -/
def closeFinding (time : Int) (active : Dict String Finding) (monitor : String) (work : Work) :
    Except System Work :=
  if active.contains monitor then
    .ok work
  else
    match work.openFindings.get? monitor with
    | none => .error work.toSystem
    | some id => execute (fun rows => rows.map (closeRow time id))
        { work with openFindings := work.openFindings.erase monitor }

/-- A loop whose turns may raise. -/
def forEach {α : Type} (turn : α → Work → Except System Work) : List α → Work → Except System Work
  | [], work => .ok work
  | item :: rest, work =>
    match turn item work with
    | .error left => .error left
    | .ok done => forEach turn rest done

def activeFindings (findings : List Finding) : Dict String Finding :=
  Dict.ofRows (·.monitor) id findings

/-- `_reconcile_findings` of the strategy, and the body of the timing feed's
`reconcile_findings`. -/
def reconcileFindings (time : Int) (findings : List Finding) (work : Work) :
    Except System Work :=
  let active := activeFindings findings
  match forEach (openFinding time) (active.entries.map Prod.snd) work with
  | .error left => .error left
  | .ok opened => forEach (closeFinding time active) opened.openFindings.keys opened

inductive Service where
  | strategy
  | timingFeed
deriving DecidableEq, Repr

/-- The statements before the findings: the transaction's begin, and the strategy's
state row. -/
def Service.preamble : Service → List Unit
  | .strategy => [(), ()]
  | .timingFeed => [()]

/-- A call that writes findings, and which statement of its transaction fails, the
commit included. -/
structure Call where
  findings : List Finding
  time : Int
  failsAt : Option Nat
deriving DecidableEq, Repr

def transaction (service : Service) (call : Call) (work : Work) : Except System Work :=
  match forEach (fun _ => execute fun rows => rows) service.preamble work with
  | .error left => .error left
  | .ok begun =>
    match reconcileFindings call.time call.findings begun with
    | .error left => .error left
    | .ok reconciled => execute (fun rows => rows) reconciled

/-- `write` and `reconcile_findings`: whether the call committed, and what it left.
A transaction that fails takes its rows back, not what memory learned. -/
def write (service : Service) (system : System) (call : Call) : Bool × System :=
  match transaction service call { system with failsAt := call.failsAt } with
  | .error left => (false, { left with rows := system.rows })
  | .ok done => (true, done.toSystem)

/-- `adopt_open_findings`, which a service that starts runs once. -/
def adoptOpenFindings (system : System) : System :=
  { system with
    openFindings := Dict.ofRows (·.monitor) (·.id) (system.rows.filter Row.isOpen) }

inductive Event where
  | call (call : Call)
  | restart
deriving DecidableEq, Repr

def step (service : Service) (system : System) : Event → Option System
  | .call call => some (write service system call).2
  | .restart => some (adoptOpenFindings system)

end OpenLaps.Findings

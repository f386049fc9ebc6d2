import Mathlib.Algebra.Order.Ring.Rat
import OpenLaps.Lib.Dict

/- The notifier's book of alerts: what is firing and what has been acknowledged.
Times are seconds. -/
namespace OpenLaps.Notifier

inductive Status where
  | firing
  | resolved
deriving DecidableEq, Repr

structure Alert where
  fingerprint : String
  name : String
  status : Status
  severity : String
  startedAt : ℚ
  labels : Dict String String
  annotations : Dict String String
  ruleUid : Option String
  summary : String

def testAlertName : String := "notifier-test"

/-- A delivery channel: what it wants to hear, and how often an alert that nobody
acknowledges is repeated on it. -/
structure Channel where
  name : String
  minSeverity : String
  repeatS : Option ℚ
deriving DecidableEq, Repr

/-- A channel and its place among the channels, which tells it from another of the
same name. -/
abbrev Slot := Channel × Nat

/-- A repeat message that was created: for which channel, when, and whether its first
attempt delivered it. -/
structure RepeatMade where
  slot : Slot
  at_ : ℚ
  delivered : Bool
deriving DecidableEq, Repr

/-- `repeats` is not in the code: it records the repeat messages created for this
alert. -/
structure ActiveAlert where
  alert : Alert
  firstSeen : ℚ
  lastSeen : ℚ
  ackedAt : Option ℚ
  ackedBy : Option String
  note : Option String
  lastNotified : Dict String ℚ
  repeats : List RepeatMade

def ActiveAlert.new (alert : Alert) (now : ℚ) : ActiveAlert :=
  { alert := alert, firstSeen := now, lastSeen := now, ackedAt := none, ackedBy := none,
    note := none, lastNotified := Dict.empty, repeats := [] }

def ActiveAlert.acknowledged (entry : ActiveAlert) : Bool := entry.ackedAt.isSome

inductive Kind where
  | firing
  | resolved
  | repeat
  | ack
deriving DecidableEq, Repr

structure Event where
  kind : Kind
  alert : Alert
  at_ : ℚ
  by_ : Option String
  note : Option String

def Event.of (kind : Kind) (alert : Alert) (now : ℚ) : Event :=
  { kind := kind, alert := alert, at_ := now, by_ := none, note := none }

structure AlertBook where
  heartbeatRule : String
  active : Dict String ActiveAlert
  heartbeatSeen : Option ℚ
  heartbeats : Nat
  notifications : Nat

def AlertBook.new (heartbeatRule : String) : AlertBook :=
  { heartbeatRule := heartbeatRule, active := Dict.empty, heartbeatSeen := none, heartbeats := 0,
    notifications := 0 }

def AlertBook.isHeartbeat (book : AlertBook) (alert : Alert) : Bool :=
  alert.labels.get? "kind" = some "heartbeat" || alert.ruleUid = some book.heartbeatRule ||
    alert.name = book.heartbeatRule

/-- One turn of the loop of `receive`. -/
def AlertBook.receiveOne (book : AlertBook) (alert : Alert) (now : ℚ) : AlertBook × List Event :=
  if book.isHeartbeat alert then
    match alert.status with
    | .firing => ({ book with heartbeatSeen := some now, heartbeats := book.heartbeats + 1 }, [])
    | .resolved => (book, [])
  else
    match alert.status, book.active.get? alert.fingerprint with
    | .firing, none =>
      ({ book with active := book.active.set alert.fingerprint (.new alert now) },
        [.of .firing alert now])
    | .firing, some current =>
      ({ book with
          active := book.active.set alert.fingerprint { current with lastSeen := now } }, [])
    | .resolved, none => (book, [])
    | .resolved, some _ =>
      ({ book with active := book.active.erase alert.fingerprint }, [.of .resolved alert now])

def AlertBook.receiveLoop (book : AlertBook) (now : ℚ) : List Alert → AlertBook × List Event
  | [] => (book, [])
  | alert :: rest =>
    let here := book.receiveOne alert now
    let later := here.1.receiveLoop now rest
    (later.1, here.2 ++ later.2)

def AlertBook.receive (book : AlertBook) (alerts : List Alert) (now : ℚ) :
    AlertBook × List Event :=
  AlertBook.receiveLoop { book with notifications := book.notifications + 1 } now alerts

/-- An acknowledgement; a test alert is cleared by it. -/
def AlertBook.ack (book : AlertBook) (fingerprint : String) (acker : String) (note : Option String)
    (now : ℚ) : AlertBook × Option Event :=
  match book.active.get? fingerprint with
  | none => (book, none)
  | some current =>
    let acked := { current with ackedAt := some now, ackedBy := some acker, note := note }
    let event : Event :=
      { kind := .ack, alert := current.alert, at_ := now, by_ := some acker, note := note }
    if current.alert.name = testAlertName then
      ({ book with active := book.active.erase fingerprint }, some event)
    else
      ({ book with active := book.active.set fingerprint acked }, some event)

def AlertBook.unacknowledged (book : AlertBook) : List (String × ActiveAlert) :=
  book.active.entries.filter fun entry => !entry.2.acknowledged

/-- One alert at the book: a heartbeat, a first firing, a further one, or the end. -/
theorem receiveOne_cases (book : AlertBook) (alert : Alert) (now : ℚ) :
    ((book.isHeartbeat alert = true ∨
        alert.status = .resolved ∧ book.active.get? alert.fingerprint = none) ∧
      (book.receiveOne alert now).1.active = book.active ∧ (book.receiveOne alert now).2 = []) ∨
    (book.isHeartbeat alert = false ∧ alert.status = .firing ∧
      book.active.get? alert.fingerprint = none ∧
      (book.receiveOne alert now).1.active =
        book.active.set alert.fingerprint (.new alert now) ∧
      (book.receiveOne alert now).2 = [.of .firing alert now]) ∨
    (∃ current, book.isHeartbeat alert = false ∧ alert.status = .firing ∧
      book.active.get? alert.fingerprint = some current ∧
      (book.receiveOne alert now).1.active =
        book.active.set alert.fingerprint { current with lastSeen := now } ∧
      (book.receiveOne alert now).2 = []) ∨
    (∃ current, book.isHeartbeat alert = false ∧ alert.status = .resolved ∧
      book.active.get? alert.fingerprint = some current ∧
      (book.receiveOne alert now).1.active = book.active.erase alert.fingerprint ∧
      (book.receiveOne alert now).2 = [.of .resolved alert now]) := by
  cases heartbeat : book.isHeartbeat alert <;> cases status : alert.status <;>
    cases found : book.active.get? alert.fingerprint <;>
      simp [AlertBook.receiveOne, heartbeat, status, found]

end OpenLaps.Notifier

import OpenLaps.Pit.Notifier.Alerts

/- Delivery: the fan-out to the channels, repeats of what nobody acknowledges, and the
retry queue. -/
namespace OpenLaps.Notifier

def severities : List String := ["none", "warning", "critical"]

def severityRank (severity : String) : Nat := (severities.idxOf? severity).getD 2

structure Message where
  kind : Kind
  title : String
  body : String
  severity : String
  fingerprint : String
  at_ : ℚ
  url : Option String
deriving DecidableEq, Repr

def Kind.label : Kind → String
  | .firing => "FIRING"
  | .resolved => "resolved"
  | .repeat => "STILL FIRING"
  | .ack => "ack"

/-- `if text:` of an optional text. -/
def given (text : Option String) : Option String := text.filter fun text => !text.isEmpty

def render (event : Event) : Message :=
  let body := event.alert.summary ++ " (" ++ event.alert.severity ++ ")"
  let acknowledged := match given event.by_ with
    | some acker => body ++ " — acknowledged by " ++ acker
    | none => body
  let noted := match given event.note with
    | some note => acknowledged ++ ": " ++ note
    | none => acknowledged
  { kind := event.kind, title := event.kind.label ++ ": " ++ event.alert.summary, body := noted,
    severity := event.alert.severity, fingerprint := event.alert.fingerprint, at_ := event.at_,
    url := event.alert.annotations.get? "runbook_url" }

/-- What a channel's `deliver` can do: succeed, raise `Retryable`, or raise anything
else. -/
inductive Outcome where
  | delivered
  | retryable
  | broken
deriving DecidableEq, Repr

/-- The world the service runs in: what each call of `deliver` comes to, and what the
monotonic clock reads after it. -/
structure World where
  outcome : Nat → Outcome
  monotonic : Nat → ℚ

/-- A message waiting for its retry. `number` is not in the code: it numbers the
messages of all channels in the order they were created. -/
structure Pending where
  slot : Slot
  message : Message
  attempts : Nat
  dueAt : ℚ
  deadline : ℚ
  number : Nat
deriving DecidableEq, Repr

/-- One call of `deliver`, and the messages that were waiting when it was made. -/
structure Delivery where
  slot : Slot
  message : Message
  number : Nat
  outcome : Outcome
  waiting : List Pending
deriving DecidableEq, Repr

structure Config where
  channels : List Channel
  retryDeadlineS : ℚ
deriving DecidableEq, Repr

def Config.slots (config : Config) : List Slot := config.channels.zipIdx

/-- The service: its book and its retry queue. The last reading of the clock, the
number of calls of `deliver`, the number of messages and the calls themselves are
kept for the proofs. -/
structure Service where
  book : AlertBook
  queue : List Pending
  clock : ℚ
  calls : Nat
  created : Nat
  deliveries : List Delivery

def Service.new (heartbeatRule : String) (clock : ℚ) : Service :=
  { book := .new heartbeatRule, queue := [], clock := clock, calls := 0, created := 0,
    deliveries := [] }

def backoffS (attempts : Nat) : ℚ := ([2, 5, 15, 30, 60] : List ℚ).getD (min attempts 4) 60

/-- `channel.deliver(message)`, with the messages that wait meanwhile. -/
def Service.deliver (world : World) (service : Service) (slot : Slot) (message : Message)
    (number : Nat) (waiting : List Pending) : Service :=
  { service with
    calls := service.calls + 1,
    deliveries := service.deliveries ++
      [{ slot := slot, message := message, number := number,
         outcome := world.outcome service.calls, waiting := waiting }] }

/-- `_attempt`: the first attempt at a new message. -/
def Service.attempt (config : Config) (world : World) (service : Service) (slot : Slot)
    (message : Message) : Bool × Service :=
  let number := service.created
  let told := { service.deliver world slot message number service.queue with
    created := number + 1 }
  match world.outcome service.calls with
  | .delivered => (true, told)
  | .retryable =>
    let now := world.monotonic service.calls
    let deadline := now + config.retryDeadlineS
    (false, { told with
      queue := told.queue ++
        [{ slot := slot, message := message, attempts := 1, dueAt := now + backoffS 0,
           deadline := if deadline = 0 then now else deadline, number := number }] })
  | .broken => (false, told)

/-- `_note_notified`. -/
def noteNotified (book : AlertBook) (fingerprint : String) (channel : String) (at_ : ℚ) :
    AlertBook :=
  match book.active.get? fingerprint with
  | none => book
  | some entry =>
    { book with
      active := book.active.set fingerprint
        { entry with lastNotified := entry.lastNotified.set channel at_ } }

def wants (slot : Slot) (severity : String) : Bool :=
  severityRank slot.1.minSeverity ≤ severityRank severity

/-- One turn of the loop of `announce`. -/
def Service.announceOn (config : Config) (world : World) (event : Event) (service : Service)
    (slot : Slot) : Service :=
  if wants slot event.alert.severity then
    let result := service.attempt config world slot (render event)
    if result.1 then
      { result.2 with
        book := noteNotified result.2.book event.alert.fingerprint slot.1.name event.at_ }
    else result.2
  else service

def Service.announce (config : Config) (world : World) (service : Service) (event : Event) :
    Service :=
  config.slots.foldl (Service.announceOn config world event) service

/-- The channel has not been told for its repeat interval. -/
def repeatDue (entry : ActiveAlert) (slot : Slot) (every now : ℚ) : Bool :=
  match entry.lastNotified.get? slot.1.name with
  | none => true
  | some last => every ≤ now - last

/-- What a repeat leaves in its alert. -/
def ActiveAlert.repeated (entry : ActiveAlert) (slot : Slot) (now : ℚ) (delivered : Bool) :
    ActiveAlert :=
  { entry with
    lastNotified := if delivered then entry.lastNotified.set slot.1.name now
      else entry.lastNotified,
    repeats := entry.repeats ++ [{ slot := slot, at_ := now, delivered := delivered }] }

/-- One turn of the inner loop of `repeat_due`. -/
def Service.repeatOn (config : Config) (world : World) (now : ℚ) (fingerprint : String)
    (service : Service) (slot : Slot) : Service :=
  match service.book.active.get? fingerprint, slot.1.repeatS with
  | some entry, some every =>
    if wants slot entry.alert.severity && repeatDue entry slot every now then
      let result := service.attempt config world slot (render (.of .repeat entry.alert now))
      { result.2 with
        book := { result.2.book with
          active := result.2.book.active.set fingerprint (entry.repeated slot now result.1) } }
    else service
  | _, _ => service

def Service.repeatDue (config : Config) (world : World) (service : Service) (now : ℚ) :
    Service :=
  service.book.unacknowledged.foldl
    (fun service entry =>
      config.slots.foldl (Service.repeatOn config world now entry.1) service) service

/-- `_retry` of one message, while `later` are still to be retried. -/
def Service.retry (world : World) (service : Service) (item : Pending) (later : List Pending) :
    Service :=
  let told := service.deliver world item.slot item.message item.number (service.queue ++ later)
  match world.outcome service.calls with
  | .retryable =>
    { told with
      queue := told.queue ++
        [{ item with attempts := item.attempts + 1,
                     dueAt := world.monotonic service.calls + backoffS item.attempts }] }
  | _ => told

/-- The loop of `pump`: what is past its deadline is given up. -/
def Service.pumpLoop (world : World) (now : ℚ) : List Pending → Service → Service
  | [], service => service
  | item :: later, service =>
    if item.deadline < now then pumpLoop world now later service
    else pumpLoop world now later (service.retry world item later)

def Service.pump (world : World) (service : Service) (now : ℚ) : Service :=
  Service.pumpLoop world now (service.queue.filter fun item => item.dueAt ≤ now)
    { service with queue := service.queue.filter fun item => ¬ item.dueAt ≤ now }

/-- What happens to the service. A tick reads two clocks. -/
inductive Happening where
  | receive (alerts : List Alert) (now : ℚ)
  | ack (fingerprint : String) (acker : String) (note : Option String) (now : ℚ)
  | tick (now : ℚ) (monotonic : ℚ)

def Happening.now : Happening → ℚ
  | .receive _ now => now
  | .ack _ _ _ now => now
  | .tick now _ => now

def Service.receive (config : Config) (world : World) (service : Service) (alerts : List Alert)
    (now : ℚ) : Service :=
  let received := service.book.receive alerts now
  received.2.foldl (Service.announce config world) { service with book := received.1 }

def Service.ack (config : Config) (world : World) (service : Service) (fingerprint : String)
    (acker : String) (note : Option String) (now : ℚ) : Service :=
  let acked := service.book.ack fingerprint acker note now
  match acked.2 with
  | none => { service with book := acked.1 }
  | some event => Service.announce config world { service with book := acked.1 } event

def Service.tick (config : Config) (world : World) (service : Service) (now monotonic : ℚ) :
    Service :=
  (service.repeatDue config world now).pump world monotonic

/-- One happening; the clock does not go back. -/
def Service.step (config : Config) (world : World) (service : Service)
    (happening : Happening) : Option Service :=
  if happening.now < service.clock then none
  else
    let next := match happening with
      | .receive alerts now => service.receive config world alerts now
      | .ack fingerprint acker note now => service.ack config world fingerprint acker note now
      | .tick now monotonic => service.tick config world now monotonic
    some { next with clock := happening.now }

/-- A first attempt: one call for a new message, which is queued if it may be retried. -/
theorem attempt_spec (config : Config) (world : World) (service : Service) (slot : Slot)
    (message : Message) :
    (service.attempt config world slot message).2.book = service.book ∧
    (service.attempt config world slot message).2.created = service.created + 1 ∧
    (service.attempt config world slot message).2.deliveries = service.deliveries ++
      [⟨slot, message, service.created, world.outcome service.calls, service.queue⟩] ∧
    ((service.attempt config world slot message).2.queue = service.queue ∨
      ∃ item, item.slot = slot ∧ item.message = message ∧ item.number = service.created ∧
        world.outcome service.calls = .retryable ∧
        (service.attempt config world slot message).2.queue = service.queue ++ [item]) := by
  cases outcome : world.outcome service.calls with
  | delivered => simp [Service.attempt, Service.deliver, outcome]
  | broken => simp [Service.attempt, Service.deliver, outcome]
  | retryable => simp [Service.attempt, Service.deliver, outcome]

/-- A retry: one call for the message, which goes back to the queue if it may be tried
again. -/
theorem retry_spec (world : World) (service : Service) (item : Pending) (later : List Pending) :
    (service.retry world item later).book = service.book ∧
    (service.retry world item later).created = service.created ∧
    (service.retry world item later).deliveries = service.deliveries ++
      [⟨item.slot, item.message, item.number, world.outcome service.calls,
        service.queue ++ later⟩] ∧
    ((service.retry world item later).queue = service.queue ∨
      ∃ again, again.slot = item.slot ∧ again.message = item.message ∧
        again.number = item.number ∧ world.outcome service.calls = .retryable ∧
        (service.retry world item later).queue = service.queue ++ [again]) := by
  cases outcome : world.outcome service.calls with
  | delivered => simp [Service.retry, Service.deliver, outcome]
  | broken => simp [Service.retry, Service.deliver, outcome]
  | retryable => simp [Service.retry, Service.deliver, outcome]

end OpenLaps.Notifier

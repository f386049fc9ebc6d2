import OpenLaps.Lib.Machine
import OpenLaps.Lib.Selection
import OpenLaps.Pit.Ingest.LapRows
import OpenLaps.Pit.Session.Atomicity

/- How the session reaches the car: session-control saves and submits it
(`pit/session_control/service.py`), the latest-value publisher sends it
(`pit/session_control/publisher.py`) to the stream that keeps one message a subject, and
the agent stores it (`agent/session.py`, `agent/publisher.py`) and times under it
(`agent/agent.py`, `agent/timing_app.py`). Messages of one route arrive in order or are
lost; each process may stop at any moment. Counters that only the status pages show are
left out. -/
namespace OpenLaps.SessionFeed

open Ingest (Json PyText)
open Session

abbrev Payload := List (String × Json)

/-- What the parties read from outside: the runtime, `json.dumps` of a payload, and their
configurations. The profile knows its tracks by name. -/
structure Setting where
  py : Runtime
  text : PyText
  dumps : Payload → String
  defaultTrack : String
  known : List String
  track : String

/-- A message as the agent decodes it; `none` if it is malformed or no object. -/
def Setting.decode (setting : Setting) (message : String) : Option Payload :=
  match setting.text.loads message with
  | some (.object session) => some session
  | _ => none

/-- What became of the message of a publish that waits for its acknowledgement. -/
inductive Progress where
  | onTheWay
  | stored
  | lost
  deriving DecidableEq, Repr

structure Request where
  payload : String
  progress : Progress

structure LatestSessionPublisher where
  pending : Option String := none
  connected : Bool := false
  request : Option Request := none

namespace LatestSessionPublisher

/-- `submit`: replace any queued retry with `payload`. -/
def submit (publisher : LatestSessionPublisher) (payload : String) : LatestSessionPublisher :=
  { publisher with pending := some payload }

/-- `js.publish` of what is pending. -/
def send (publisher : LatestSessionPublisher) : Option LatestSessionPublisher :=
  match publisher.connected, publisher.request, publisher.pending with
  | true, none, some payload => some { publisher with request := some ⟨payload, .onTheWay⟩ }
  | _, _, _ => none

/-- `js.publish` returned; what was submitted meanwhile stays pending. -/
def acknowledge (publisher : LatestSessionPublisher) : Option LatestSessionPublisher :=
  match publisher.request with
  | some ⟨payload, .stored⟩ =>
    some { publisher with
      pending := if publisher.pending = some payload then none else publisher.pending
      request := none }
  | _ => none

/-- `js.publish` raised: the connection is closed and what is pending stays. -/
def fail (publisher : LatestSessionPublisher) : LatestSessionPublisher :=
  { publisher with connected := false, request := none }

/-- The message of the request while it has not arrived. -/
def onTheWay (publisher : LatestSessionPublisher) : List String :=
  match publisher.request with
  | some ⟨payload, .onTheWay⟩ => [payload]
  | _ => []

end LatestSessionPublisher

/-- An action between its save and the end of `database.record`: `prior_state` and the
payload to submit. -/
structure Acting where
  prior : Payload
  payload : Payload

/-- The session-control process, with the decoded state file that outlives it. -/
structure SessionControl where
  up : Bool := false
  file : Option Payload
  state : SessionState := {}
  acting : Option Acting := none
  publisher : LatestSessionPublisher := {}

/-- How `database.record` ends. -/
inductive RecordResult where
  | returned
  | raised
  | cancelled
  deriving DecidableEq, Repr

namespace SessionControl

/-- `act` up to its save. A call that raises changes nothing. -/
def act (setting : Setting) (control : SessionControl) (action : String) (body : Payload)
    (env : Env) : Option SessionControl :=
  if control.up ∧ control.acting.isNone then
    let prior := control.state.toDict env.clock
    match (requestedCall setting.py setting.defaultTrack control.state action body env).bind
        fun call => call.apply setting.py control.state with
    | .error _ => none
    | .ok (next, payload) =>
      match env.save with
      | .raised => some { control with state := next }
      | .refused => some { control with state := (fromDict setting.py prior).toOption.getD next }
      | .saved =>
        some { control with
          state := next
          file := some (next.toDict env.clock)
          acting := some ⟨prior, payload⟩ }
  else none

/-- `act` from the end of `record`. -/
def recorded (setting : Setting) (control : SessionControl) (result : RecordResult) (env : Env) :
    Option SessionControl :=
  match control.acting with
  | none => none
  | some ⟨prior, payload⟩ =>
    let released := { control with acting := none }
    match result with
    | .cancelled => some released
    | .returned => some { released with publisher := control.publisher.submit (setting.dumps payload) }
    | .raised =>
      match fromDict setting.py prior with
      | .error _ => some released
      | .ok state =>
        some { released with
          state := state
          file := if env.rollback = .saved then some (state.toDict env.clock)
            else control.file }

/-- The process stops; only its file remains. -/
def stop (control : SessionControl) : SessionControl := { file := control.file }

/-- `run_service` up to `republish_current`; a file that cannot be read counts as none. -/
def boot (setting : Setting) (control : SessionControl) (clock : Nat) (readable : Bool) :
    Option SessionControl :=
  if control.up then none
  else
    let state := load setting.py (if readable then control.file else none)
    some
      { up := true
        file := control.file
        state := state
        publisher :=
          if state.status = .none then {}
          else LatestSessionPublisher.submit {} (setting.dumps (state.payload clock)) }

end SessionControl

/-- `SessionStore`, with the decoded file that outlives the process. -/
structure SessionStore where
  current : Payload := []
  file : Option Payload := none
  malformedUpdates : Nat := 0

namespace SessionStore

/-- `update_from_bytes`. Persistence is best effort, but the clean-up of a file that could not
be put in place is not guarded: its error leaves the call. -/
def updateFromBytes (setting : Setting) (store : SessionStore) (message : String)
    (persisted : SaveOutcome) : SessionStore × Option Payload :=
  match setting.decode message with
  | some session =>
    let adopted := { store with current := session }
    match persisted with
    | .saved => ({ adopted with file := some session }, some session)
    | .refused => (adopted, some session)
    | .raised => (adopted, none)
  | none => ({ store with malformedUpdates := store.malformedUpdates + 1 }, none)

/-- `__init__` after a restart. -/
def reload (store : SessionStore) : SessionStore :=
  { current := store.file.getD [], file := store.file }

end SessionStore

/-- What `LapTimingApp` holds of a session. -/
structure Timing where
  session : Payload := []
  trackName : String
  trackSwitches : Nat := 0

/-- `apply_session`. -/
def Timing.applySession (known : List String) (timing : Timing) (session : Payload) : Timing :=
  let adopted := { timing with session := session }
  match session.lookup "track_name" with
  | some (.str requested) =>
    if requested ≠ "" ∧ requested ≠ timing.trackName ∧ requested ∈ known then
      { adopted with trackName := requested, trackSwitches := timing.trackSwitches + 1 }
    else adopted
  | _ => adopted

/-- A call of `_on_session_payload` in its thread, before and after the store's update. -/
inductive Handling where
  | received (message : String)
  | decoded (session : Payload)

/-- The agent: its subscription with what is due and what was pushed to it, the call the
subscription waits for, calls that outlived an earlier subscription, and the inbox of the
pipeline thread. -/
structure Agent where
  up : Bool := false
  subscribed : Bool := false
  due : Bool := false
  feed : List String := []
  serving : Option Handling := none
  orphans : List Handling := []
  store : SessionStore := {}
  inbox : Option Payload := none
  timing : Timing

namespace Agent

/-- The next half of a call: the store's update, or `_SessionInbox.put`. -/
def handle (setting : Setting) (agent : Agent) (persisted : SaveOutcome) :
    Handling → Agent × Option Handling
  | .received message =>
    let (store, session) := agent.store.updateFromBytes setting message persisted
    ({ agent with store := store }, session.map .decoded)
  | .decoded session => ({ agent with inbox := some session }, none)

/-- The stream's message is pushed to the subscription. -/
def push (agent : Agent) (stream : Option String) : Option Agent :=
  match agent.due, stream with
  | true, some payload => some { agent with due := false, feed := agent.feed ++ [payload] }
  | _, _ => none

/-- The subscription hands its next message to a thread once the last call is done. -/
def deliver (agent : Agent) : Option Agent :=
  match agent.serving, agent.feed with
  | none, payload :: rest => some { agent with serving := some (.received payload), feed := rest }
  | _, _ => none

/-- The call the subscription waits for goes on. -/
def serve (setting : Setting) (agent : Agent) (persisted : SaveOutcome) : Option Agent :=
  agent.serving.map fun call =>
    let (after, left) := agent.handle setting persisted call
    { after with serving := left }

/-- A call that outlived its subscription goes on. -/
def outlive (setting : Setting) (agent : Agent) (index : Nat) (persisted : SaveOutcome) :
    Option Agent :=
  agent.orphans[index]?.map fun call =>
    let (after, left) := agent.handle setting persisted call
    { after with orphans := left.toList ++ agent.orphans.eraseIdx index }

/-- A new subscription starts with the last message of the stream. -/
def subscribe (agent : Agent) (stream : Option String) : Option Agent :=
  if agent.up ∧ ¬ agent.subscribed then
    some { agent with subscribed := true, due := stream.isSome, feed := [] }
  else none

/-- The connection ends; a call in its thread runs on. -/
def unsubscribe (agent : Agent) : Agent :=
  { agent with
    subscribed := false
    due := false
    feed := []
    serving := none
    orphans := agent.serving.toList ++ agent.orphans }

/-- The ordered consumer starts again after the last message it handled. -/
def reset (agent : Agent) : Agent :=
  { agent with due := agent.due || !agent.feed.isEmpty, feed := [] }

/-- `_drain_and_flush` takes the inbox. -/
def take (setting : Setting) (agent : Agent) : Option (Agent × Payload) :=
  agent.inbox.map fun session =>
    ({ agent with inbox := none, timing := agent.timing.applySession setting.known session }, session)

def stop (setting : Setting) (agent : Agent) : Agent :=
  { store := agent.store, timing := { trackName := setting.track } }

/-- `__init__`: the timing starts on the profile's track under the stored session. -/
def start (setting : Setting) (agent : Agent) : Option Agent :=
  if agent.up then none
  else
    let store := agent.store.reload
    some
      { up := true
        store := store
        timing := Timing.applySession setting.known { trackName := setting.track } store.current }

end Agent

/-- The two parties, the messages on the way from earlier publishes, and the stream.
`submitted`, `stored` and `adopted` record what happened, the last since the agent's start. -/
structure System where
  control : SessionControl
  stale : List String := []
  stream : Option String := none
  agent : Agent
  submitted : List Payload := []
  stored : List String := []
  adopted : List Payload := []

inductive Event where
  | act (action : String) (body : Payload) (env : Env)
  | recorded (result : RecordResult) (env : Env)
  | stop
  | boot (clock : Nat) (readable : Bool)
  | connect
  | send
  | land (kept : Bool)
  | acknowledge
  | fail
  | subscribe
  | unsubscribe
  | reset
  | push
  | deliver
  | serve (persisted : SaveOutcome)
  | outlive (index : Nat) (persisted : SaveOutcome)
  | take
  | agentStop
  | agentStart

namespace System

/-- A message reaches the stream, which keeps the last one. -/
def store (system : System) (payload : String) (kept : Bool) : System :=
  if kept then
    { system with
      stream := some payload
      stored := system.stored ++ [payload]
      agent := { system.agent with due := system.agent.subscribed } }
  else system

/-- The first message on the way arrives or is lost. -/
def land (system : System) (kept : Bool) : Option System :=
  match system.stale, system.control.publisher.request with
  | payload :: rest, _ => some (store { system with stale := rest } payload kept)
  | [], some ⟨payload, .onTheWay⟩ =>
    let progress := if kept then Progress.stored else .lost
    some (store
      { system with
        control :=
          { system.control with
            publisher :=
              { system.control.publisher with request := some ⟨payload, progress⟩ } } }
      payload kept)
  | _, _ => none

/-- A publish is given up; its message may still arrive. -/
def giveUp (system : System) : List String := system.stale ++ system.control.publisher.onTheWay

def step (setting : Setting) (system : System) : Event → Option System
  | .act action body env =>
    (system.control.act setting action body env).map
      fun control => { system with control := control }
  | .recorded result env =>
    (system.control.recorded setting result env).map fun control =>
      { system with
        control := control
        submitted :=
          if result = .returned then
            system.submitted ++ (system.control.acting.map Acting.payload).toList
          else system.submitted }
  | .stop =>
    some { system with control := system.control.stop, stale := system.giveUp }
  | .boot clock readable =>
    (system.control.boot setting clock readable).map fun control =>
      { system with
        control := control
        submitted :=
          if control.state.status = .none then system.submitted
          else system.submitted ++ [control.state.payload clock] }
  | .connect =>
    if system.control.up then
      some { system with
        control :=
          { system.control with
            publisher := { system.control.publisher with connected := true } } }
    else none
  | .send =>
    system.control.publisher.send.map fun publisher =>
      { system with control := { system.control with publisher := publisher } }
  | .land kept => system.land kept
  | .acknowledge =>
    system.control.publisher.acknowledge.map fun publisher =>
      { system with control := { system.control with publisher := publisher } }
  | .fail =>
    some { system with
      control := { system.control with publisher := system.control.publisher.fail }
      stale := system.giveUp }
  | .subscribe =>
    (system.agent.subscribe system.stream).map fun agent => { system with agent := agent }
  | .unsubscribe => some { system with agent := system.agent.unsubscribe }
  | .reset => some { system with agent := system.agent.reset }
  | .push => (system.agent.push system.stream).map fun agent => { system with agent := agent }
  | .deliver => system.agent.deliver.map fun agent => { system with agent := agent }
  | .serve persisted =>
    (system.agent.serve setting persisted).map fun agent => { system with agent := agent }
  | .outlive index persisted =>
    (system.agent.outlive setting index persisted).map fun agent => { system with agent := agent }
  | .take =>
    (system.agent.take setting).map fun (agent, session) =>
      { system with agent := agent, adopted := system.adopted ++ [session] }
  | .agentStop => some { system with agent := system.agent.stop setting, adopted := [] }
  | .agentStart =>
    (system.agent.start setting).map fun agent =>
      { system with agent := agent, adopted := agent.store.file.toList }

/-- Nothing has happened yet; session-control may find an earlier state file. -/
def initial (setting : Setting) (file : Option Payload) : System where
  control := { file := file }
  agent := { timing := { trackName := setting.track } }

end System

namespace SessionControl

variable {setting : Setting} {control next : SessionControl}

/-- What an action leaves alone up to its save. -/
theorem act_frame {action : String} {body : Payload} {env : Env}
    (taken : control.act setting action body env = some next) :
    control.up = true ∧ control.acting = none ∧ next.up = true ∧
      next.publisher = control.publisher := by
  unfold act at taken
  split at taken
  · rename_i ready
    obtain ⟨up, free⟩ := ready
    refine ⟨up, Option.isNone_iff_eq_none.mp free, ?_⟩
    repeat' split at taken
    all_goals cases taken
    all_goals exact ⟨up, rfl⟩
  · cases taken

/-- What the end of `record` does to the publisher. -/
theorem recorded_frame {result : RecordResult} {env : Env}
    (taken : control.recorded setting result env = some next) :
    ∃ prior payload, control.acting = some ⟨prior, payload⟩ ∧ next.up = control.up ∧
      next.acting = none ∧
      next.publisher =
        if result = .returned then control.publisher.submit (setting.dumps payload)
        else control.publisher := by
  unfold recorded at taken
  split at taken
  · cases taken
  · rename_i prior payload busy
    refine ⟨prior, payload, busy, ?_⟩
    cases result with
    | cancelled =>
      cases taken
      exact ⟨rfl, rfl, rfl⟩
    | returned =>
      cases taken
      exact ⟨rfl, rfl, rfl⟩
    | raised =>
      dsimp only at taken
      split at taken
      all_goals cases taken
      all_goals exact ⟨rfl, rfl, rfl⟩

/-- `database.record` in the terms of an action. -/
def recordResult : Option Recorded → RecordResult
  | some (.returned _) => .returned
  | some (.raised _) => .raised
  | none => .cancelled

/-- The two halves of an action that nothing interrupts. -/
def wholeAct (setting : Setting) (control : SessionControl) (action : String) (body : Payload)
    (env : Env) (result : RecordResult) : Option SessionControl :=
  (control.act setting action body env).bind fun saved =>
    if saved.acting.isNone then some saved else saved.recorded setting result env

/-- The handler of an exception from `record` is that of `Controller.act`. -/
theorem recorded_raised (setting : Setting) (control : SessionControl) (controller : Controller)
    (why : Raised) (env : Env) {prior payload : Payload} (acting : control.acting = some ⟨prior, payload⟩)
    (state : control.state = controller.state) (file : control.file = controller.file) :
    let ended := controller.rollBack setting.py prior why env
    ∃ after, control.recorded setting .raised env = some after ∧
      after.state = ended.1.state ∧ after.file = ended.1.file ∧ after.acting = none ∧
      after.publisher = control.publisher ∧ ∀ returned, ended.2 ≠ .returned returned := by
  intro ended
  have kept : ended = controller.rollBack setting.py prior why env := rfl
  rw [Controller.rollBack] at kept
  rw [recorded, acting]
  dsimp only
  cases read : fromDict setting.py prior with
  | error error =>
    rw [read] at kept
    exact ⟨_, rfl, by rw [kept]; exact state, by rw [kept]; exact file, rfl, rfl,
      by rw [kept]; simp⟩
  | ok before =>
    rw [read] at kept
    dsimp only at kept
    refine ⟨_, rfl, ?_⟩
    cases back : env.rollback with
    | saved =>
      rw [back] at kept
      refine ⟨by rw [kept], by rw [kept]; rfl, rfl, rfl, fun returned => ?_⟩
      rw [kept]
      by_cases disk : why = .osError
      · simp [disk]
      · simp [disk]
    | refused =>
      rw [back] at kept
      exact ⟨by rw [kept], by rw [kept]; exact file, rfl, rfl, by rw [kept]; simp⟩
    | raised =>
      rw [back] at kept
      exact ⟨by rw [kept], by rw [kept]; exact file, rfl, rfl, by rw [kept]; simp⟩

/-- Uninterrupted, the two halves do to the state, its file and the publisher what
`Controller.act` does. -/
theorem wholeAct_agrees (vehicleId : String) (controller : Controller)
    (publisher : LatestSessionPublisher) (action : String) (body : Payload) (env : Env)
    (running : env.cancelledWaiting = false) :
    let control : SessionControl :=
      { up := true, file := controller.file, state := controller.state, publisher := publisher }
    let ended := controller.act setting.py vehicleId setting.defaultTrack action body env
    (control.act setting action body env = none ∧ ended.1 = controller) ∨
      ∃ result after, wholeAct setting control action body env result = some after ∧
        after.state = ended.1.state ∧ after.file = ended.1.file ∧ after.acting = none ∧
        after.publisher =
          match ended.2 with
          | .returned payload => publisher.submit (setting.dumps payload)
          | _ => publisher := by
  intro control ended
  have ready : control.up = true ∧ control.acting.isNone = true := ⟨rfl, rfl⟩
  have same : ((requestedCall setting.py setting.defaultTrack control.state action body env).bind
      fun call => call.apply setting.py control.state) =
        controller.transition setting.py setting.defaultTrack action body env := rfl
  have kept : ended = controller.act setting.py vehicleId setting.defaultTrack action body env := rfl
  rw [Controller.act, running, if_neg (by decide)] at kept
  unfold wholeAct SessionControl.act
  rw [if_pos ready, same]
  cases asked : controller.transition setting.py setting.defaultTrack action body env with
  | error failure =>
    rw [asked] at kept
    exact .inl ⟨rfl, by rw [kept]⟩
  | ok accepted =>
    obtain ⟨next, payload⟩ := accepted
    rw [asked] at kept
    refine .inr ?_
    dsimp only at kept ⊢
    cases saved : env.save with
    | raised =>
      rw [saved] at kept
      exact ⟨.returned, _, rfl, by rw [kept], by rw [kept], rfl, by rw [kept]⟩
    | refused =>
      rw [saved] at kept
      refine ⟨.returned, _, rfl, ?_⟩
      dsimp only at kept
      split at kept
      · rename_i error unread
        have prior : fromDict setting.py (control.state.toDict env.clock) = .error error := unread
        exact ⟨by rw [kept, prior]; rfl, by rw [kept], rfl, by rw [kept]⟩
      · rename_i state read
        have prior : fromDict setting.py (control.state.toDict env.clock) = .ok state := read
        exact ⟨by rw [kept, prior]; rfl, by rw [kept], rfl, by rw [kept]⟩
    | saved =>
      rw [saved] at kept
      dsimp only at kept
      split at kept
      · exact ⟨.returned, _, rfl, by rw [kept], by rw [kept], rfl, by rw [kept]⟩
      · rename_i database why _
        obtain ⟨after, back, state, file, free, same, unreturned⟩ :=
          recorded_raised setting
            { control with
              state := next
              file := some (next.toDict env.clock)
              acting := some ⟨control.state.toDict env.clock, payload⟩ }
            ⟨next, some (next.toDict env.clock), controller.published, database⟩ why env
            rfl rfl rfl
        refine ⟨.raised, after, back, by rw [kept]; exact state, by rw [kept]; exact file, free, ?_⟩
        rw [same, kept]
        split
        · rename_i payload returned
          exact absurd returned (unreturned payload)
        · rfl
      · exact ⟨.cancelled, _, rfl, by rw [kept], by rw [kept], rfl, by rw [kept]⟩

/-- A start reads the file, and submits the session it finds there. -/
theorem boot_frame {clock : Nat} {readable : Bool}
    (taken : control.boot setting clock readable = some next) :
    control.up = false ∧ next.up = true ∧ next.acting = none ∧ next.file = control.file ∧
      next.state = load setting.py (if readable then control.file else none) ∧
      ((next.state.status = .none ∧ next.publisher = {}) ∨
        (next.state.status ≠ .none ∧
          next.publisher =
            LatestSessionPublisher.submit {} (setting.dumps (next.state.payload clock)))) := by
  unfold boot at taken
  by_cases up : control.up = true
  · rw [if_pos up] at taken
    cases taken
  · rw [if_neg up] at taken
    cases taken
    refine ⟨Bool.eq_false_iff.mpr up, rfl, rfl, rfl, rfl, ?_⟩
    generalize load setting.py (if readable then control.file else none) = state
    by_cases idle : state.status = .none
    · exact .inl ⟨idle, if_pos idle⟩
    · exact .inr ⟨idle, if_neg idle⟩

end SessionControl

/-- `json.dumps(payload, sort_keys=True, separators=(",", ":"))` of texts without special
characters and of integers. -/
def printed (payload : Payload) : String :=
  let field : String × Json → String
    | (name, .str value) => "\"" ++ name ++ "\":\"" ++ value ++ "\""
    | (name, .int value) => "\"" ++ name ++ "\":" ++ toString value
    | (name, _) => "\"" ++ name ++ "\":null"
  "\x7b" ++ ",".intercalate
    ((payload.insertionSort fun first second => first.1 ≤ second.1).map field) ++ "\x7d"

/-- What opening a session submits, and a change to the second driver. -/
def underway (driver : String) (stint start : Int) : Payload :=
  [("session_id", .str "19700101-0000-5f2c-race"), ("session_type", .str "race"),
    ("driver", .str driver), ("track_name", .str "spa"), ("car", .str ""),
    ("stint_number", .int stint), ("session_start", .int 1000), ("stint_start", .int start),
    ("status", .str "active"), ("timestamp", .int start)]

def opened : Payload := underway "ada" 1 1000

def changed : Payload := underway "bob" 2 9000

namespace System

variable {setting : Setting} {system next : System} {event : Event}

/-- What was submitted or sent and may still be stored, in the order it would be. -/
def outstanding (system : System) : List String :=
  system.stale ++ system.control.publisher.onTheWay ++ system.control.publisher.pending.toList

/-- The stream holds submitted messages in their order, and no message that may still be
stored is older than one that is. -/
structure InOrder (setting : Setting) (system : System) : Prop where
  drawn : Selection (system.submitted.map setting.dumps) (system.stored ++ system.outstanding)
  newest : system.stream = system.stored.getLast?
  down : system.control.up = false →
    system.control.acting = none ∧ system.control.publisher = {}

/-- A submission replaces what is pending. -/
theorem InOrder.submit (order : InOrder setting system) (payload : Payload) :
    Selection ((system.submitted ++ [payload]).map setting.dumps)
      (system.stored ++
        (system.stale ++ system.control.publisher.onTheWay ++ [setting.dumps payload])) := by
  have sent : Selection (system.submitted.map setting.dumps)
      (system.stored ++ (system.stale ++ system.control.publisher.onTheWay)) := by
    refine order.drawn.sublist ?_
    rw [outstanding]
    exact (List.Sublist.refl _).append (List.sublist_append_left _ _)
  simpa only [List.map_append, List.map_singleton, List.append_assoc] using
    sent.arrive (setting.dumps payload)

/-- The next message is that of an earlier publish, or else that of the present one. -/
theorem land_cases {kept : Bool} (taken : system.land kept = some next) :
    (∃ payload rest, system.stale = payload :: rest ∧
      next = store { system with stale := rest } payload kept) ∨
    ∃ payload, system.stale = [] ∧
      system.control.publisher.request = some ⟨payload, .onTheWay⟩ ∧
      next = store
        { system with
          control :=
            { system.control with
              publisher :=
                { system.control.publisher with
                  request := some ⟨payload, if kept then .stored else .lost⟩ } } }
        payload kept := by
  unfold System.land at taken
  split at taken
  · rename_i payload rest waiting
    cases taken
    exact .inl ⟨payload, rest, waiting, rfl⟩
  · rename_i payload waiting asked
    cases taken
    exact .inr ⟨payload, waiting, asked, rfl⟩
  · cases taken

theorem InOrder.land {kept : Bool} (order : InOrder setting system)
    (taken : system.land kept = some next) : InOrder setting next := by
  obtain ⟨drawn, newest, down⟩ := order
  rcases land_cases taken with ⟨payload, rest, waiting, rfl⟩ | ⟨payload, waiting, asked, rfl⟩
  · rw [outstanding, waiting] at drawn
    cases kept with
    | true => exact ⟨by simpa [store, outstanding] using drawn, by simp [store], down⟩
    | false =>
      refine ⟨drawn.sublist ?_, newest, down⟩
      exact (List.Sublist.refl _).append (by simp [store, outstanding])
  · have sending : system.control.publisher.onTheWay = [payload] := by
      simp only [LatestSessionPublisher.onTheWay, asked]
    have running : system.control.up ≠ false := by
      intro stopped
      rw [(down stopped).2] at asked
      cases asked
    rw [outstanding, waiting, sending] at drawn
    cases kept with
    | true =>
      refine ⟨?_, by simp [store], fun stopped => absurd stopped running⟩
      simpa [store, outstanding, LatestSessionPublisher.onTheWay, waiting] using drawn
    | false =>
      refine ⟨drawn.sublist ?_, newest, fun stopped => absurd stopped running⟩
      exact (List.Sublist.refl _).append
        (by simp [store, outstanding, LatestSessionPublisher.onTheWay, waiting])

theorem step_inOrder (order : InOrder setting system)
    (taken : system.step setting event = some next) : InOrder setting next := by
  have ⟨drawn, newest, down⟩ := order
  cases event with
  | act action body env =>
    obtain ⟨control, acted, rfl⟩ := Option.map_eq_some_iff.mp taken
    obtain ⟨_, _, up, publisher⟩ := SessionControl.act_frame acted
    refine ⟨?_, newest, fun stopped => absurd (up.symm.trans stopped) (by decide)⟩
    simpa only [outstanding, publisher] using drawn
  | recorded result env =>
    obtain ⟨control, ended, rfl⟩ := Option.map_eq_some_iff.mp taken
    obtain ⟨prior, payload, busy, up, _, publisher⟩ := SessionControl.recorded_frame ended
    refine ⟨?_, newest, fun stopped => ?_⟩
    · by_cases returned : result = .returned
      · simpa [outstanding, publisher, returned, busy, LatestSessionPublisher.submit,
          LatestSessionPublisher.onTheWay] using order.submit payload
      · simpa only [outstanding, publisher, if_neg returned] using drawn
    · rw [(down (up.symm.trans stopped)).1] at busy
      cases busy
  | stop =>
    cases taken
    refine ⟨drawn.sublist ?_, newest, fun _ => ⟨rfl, rfl⟩⟩
    refine (List.Sublist.refl _).append ?_
    simp [outstanding, giveUp, SessionControl.stop, LatestSessionPublisher.onTheWay]
  | boot clock readable =>
    obtain ⟨control, booted, rfl⟩ := Option.map_eq_some_iff.mp taken
    obtain ⟨stopped, up, _, _, _, publisher⟩ := SessionControl.boot_frame booted
    have idle := (down stopped).2
    refine ⟨?_, newest, fun stopped => absurd (up.symm.trans stopped) (by decide)⟩
    rcases publisher with ⟨blank, publisher⟩ | ⟨started, publisher⟩
    · rw [outstanding, idle] at drawn
      simpa [outstanding, publisher, blank] using drawn
    · have submitted := order.submit (control.state.payload clock)
      rw [idle] at submitted
      simpa [outstanding, publisher, started, LatestSessionPublisher.submit,
        LatestSessionPublisher.onTheWay] using submitted
  | connect =>
    dsimp only [step] at taken
    split at taken
    · rename_i up
      cases taken
      exact ⟨drawn, newest, fun stopped => absurd (up.symm.trans stopped) (by decide)⟩
    · cases taken
  | send =>
    obtain ⟨publisher, sent, rfl⟩ := Option.map_eq_some_iff.mp taken
    unfold LatestSessionPublisher.send at sent
    split at sent
    · rename_i payload connected free waiting
      cases sent
      refine ⟨?_, newest, fun stopped => ?_⟩
      · have again := (show Selection (system.submitted.map setting.dumps)
            (system.stored ++ system.stale ++ [payload]) by
          simpa [outstanding, LatestSessionPublisher.onTheWay, free, waiting] using
            drawn).repeat_last
        simpa [outstanding, LatestSessionPublisher.onTheWay, waiting] using again
      · rw [(down stopped).2] at waiting
        cases waiting
    · cases sent
  | land kept => exact order.land taken
  | acknowledge =>
    obtain ⟨publisher, answered, rfl⟩ := Option.map_eq_some_iff.mp taken
    unfold LatestSessionPublisher.acknowledge at answered
    split at answered
    · rename_i payload asked
      cases answered
      refine ⟨drawn.sublist ?_, newest, fun stopped => ?_⟩
      · refine (List.Sublist.refl _).append ?_
        simp only [outstanding, LatestSessionPublisher.onTheWay, asked]
        split <;> simp
      · rw [(down stopped).2] at asked
        cases asked
    · cases answered
  | fail =>
    cases taken
    refine ⟨?_, newest, fun stopped => ⟨(down stopped).1, ?_⟩⟩
    · simpa [outstanding, giveUp, LatestSessionPublisher.fail,
        LatestSessionPublisher.onTheWay] using drawn
    · show LatestSessionPublisher.fail system.control.publisher = {}
      rw [(down stopped).2]
      rfl
  | subscribe | push | deliver | serve | outlive | take | agentStart =>
    obtain ⟨agent, _, rfl⟩ := Option.map_eq_some_iff.mp taken
    exact ⟨drawn, newest, down⟩
  | unsubscribe | reset | agentStop =>
    cases taken
    exact ⟨drawn, newest, down⟩

theorem initial_inOrder (file : Option Payload) : InOrder setting (initial setting file) :=
  ⟨.nil _, rfl, fun _ => ⟨rfl, rfl⟩⟩

/-- What the stream ever stores are submitted sessions in the order of their submission:
a retry or a late message never puts an older session over a newer one. -/
theorem stored_in_order (file : Option Payload) (events : List Event) (final : System)
    (reached : Machine.run (step setting) (initial setting file) events = some final) :
    Selection (final.submitted.map setting.dumps) final.stored ∧ final.stream = final.stored.getLast? := by
  have order := Machine.run_invariant (InOrder setting)
    (fun system event next order taken => step_inOrder order taken) events _ final
    (initial_inOrder file) reached
  exact ⟨order.drawn.sublist (List.sublist_append_left _ _), order.newest⟩

/-- No second failure: neither a save's clean-up nor the save of a rollback fails, an action is
not cancelled after its save, a start finds its file, and the clean-up of a session file that
the agent could not put in place does not fail. -/
def Faultless : System → Event → Prop
  | _, .act _ _ env => env.save ≠ .raised
  | _, .recorded result env => result ≠ .cancelled ∧ env.rollback = .saved
  | _, .boot _ readable => readable = true
  | _, .serve persisted => persisted ≠ .raised
  | _, .outlive _ persisted => persisted ≠ .raised
  | _, _ => True

/-- The payload is one of the session. -/
def Describes (state : SessionState) (payload : Payload) : Prop :=
  state.status ≠ .none ∧ ∃ timestamp, payload = state.payload timestamp

/-- Session-control holds, and finds in its file, the session it submitted last; while an
action is under way that is the session before it. -/
structure Current (setting : Setting) (system : System) : Prop where
  sound : Sound (· ≤ ·) system.control.state
  agrees : system.control.up = true →
    load setting.py system.control.file = system.control.state
  begun : system.submitted ≠ [] → (load setting.py system.control.file).status ≠ .none
  idle : system.control.up = true → system.control.acting = none →
    ∀ last, system.submitted.getLast? = some last → Describes system.control.state last
  busy : ∀ prior payload, system.control.acting = some ⟨prior, payload⟩ →
    Describes system.control.state payload ∧
      ∃ before clock, prior = SessionState.toDict before clock ∧ Sound (· ≤ ·) before ∧
        ∀ last, system.submitted.getLast? = some last → Describes before last

theorem Describes.begun {state : SessionState}
    (describes : ∀ last, system.submitted.getLast? = some last → Describes state last)
    (submitted : system.submitted ≠ []) :
    state.status ≠ .none :=
  (describes _ (List.getLast?_eq_some_getLast submitted)).1

theorem load_sound (py : Runtime) (file : Option Payload) : Sound (· ≤ ·) (load py file) := by
  cases file with
  | none => exact .idle rfl
  | some data =>
    simp only [load]
    split
    · rename_i state read
      exact fromDict_sound py data state read
    · exact .idle rfl

/-- An action either saves a session that follows from the one held, or changes nothing. -/
theorem act_saved {control after : SessionControl} {action : String} {body : Payload} {env : Env}
    (sound : Sound (· ≤ ·) control.state) (clean : env.save ≠ .raised)
    (taken : control.act setting action body env = some after) :
    after = control ∨
      ∃ state payload, Sound (· ≤ ·) state ∧ Describes state payload ∧
        after =
          { control with
            state := state
            file := some (state.toDict env.clock)
            acting := some ⟨control.state.toDict env.clock, payload⟩ } := by
  unfold SessionControl.act at taken
  split at taken
  · cases requested : requestedCall setting.py setting.defaultTrack control.state action body env with
    | error failure =>
      rw [requested] at taken
      cases taken
    | ok call =>
      rw [requested] at taken
      dsimp only [Except.bind] at taken
      split at taken
      · cases taken
      · rename_i state payload accepted
        have opening := requestedCall_opening setting.py _ _ action body env call requested
        have kept := call.apply_sound (fun instant => Int.le_refl instant) setting.py _ state
          payload sound opening accepted
        obtain ⟨begun, described⟩ := apply_described setting.py _ state call payload accepted
        cases saved : env.save with
        | raised => exact absurd saved clean
        | refused =>
          rw [saved] at taken
          have again := fromDict_written setting.py control.state _ sound
            (written_toDict control.state env.clock)
          simp only [again, Except.toOption, Option.getD_some, Option.some.injEq] at taken
          exact .inl taken.symm
        | saved =>
          rw [saved] at taken
          cases taken
          exact .inr ⟨state, payload, kept, ⟨begun, described⟩, rfl⟩
  · cases taken

theorem step_current (current : Current setting system) (order : InOrder setting system)
    (clean : Faultless system event) (taken : system.step setting event = some next) :
    Current setting next := by
  have ⟨sound, agrees, begun, idle, busy⟩ := current
  cases event with
  | act action body env =>
    obtain ⟨control, acted, rfl⟩ := Option.map_eq_some_iff.mp taken
    obtain ⟨up, free, _, _⟩ := SessionControl.act_frame acted
    rcases act_saved sound clean acted with
      rfl | ⟨state, payload, kept, described, rfl⟩
    · exact current
    · have read := load_toDict setting.py state env.clock kept
      refine ⟨kept, fun _ => read, fun _ => ?_, (fun _ free => by cases free), ?_⟩
      · show (load setting.py (some (state.toDict env.clock))).status ≠ .none
        rw [read]
        exact described.1
      · rintro prior payload' ⟨⟩
        exact ⟨described, _, env.clock, rfl, sound, idle up free⟩
  | recorded result env =>
    obtain ⟨control, ended, rfl⟩ := Option.map_eq_some_iff.mp taken
    unfold SessionControl.recorded at ended
    split at ended
    · cases ended
    · rename_i prior payload acting
      obtain ⟨now, before, clock, rfl, kept, described⟩ := busy _ _ acting
      have running : system.control.up = true := by
        by_contra stopped
        rw [(order.down (Bool.eq_false_iff.mpr stopped)).1] at acting
        cases acting
      cases result with
      | cancelled => exact absurd rfl clean.1
      | returned =>
        cases ended
        refine ⟨sound, agrees, fun _ => ?_, fun _ _ last newest => ?_,
          fun _ _ acting => by cases acting⟩
        · show (load setting.py system.control.file).status ≠ .none
          rw [agrees running]
          exact now.1
        · simp only [if_true, acting, Option.map_some, Option.toList_some,
            List.getLast?_concat, Option.some.injEq] at newest
          exact newest ▸ now
      | raised =>
        have again := fromDict_written setting.py before _ kept (written_toDict before clock)
        simp only [again, clean.2, if_true] at ended
        cases ended
        have read := load_toDict setting.py before env.clock kept
        refine ⟨kept, fun _ => read, fun submitted => ?_, fun _ _ => described,
          fun _ _ acting => by cases acting⟩
        show (load setting.py (some (before.toDict env.clock))).status ≠ .none
        rw [read]
        exact Describes.begun described submitted
  | stop =>
    cases taken
    exact ⟨.idle rfl, fun up => absurd up Bool.false_ne_true, begun,
      fun up => absurd up Bool.false_ne_true, fun _ _ acting => by cases acting⟩
  | boot clock readable =>
    obtain ⟨control, booted, rfl⟩ := Option.map_eq_some_iff.mp taken
    obtain ⟨_, _, free, file, state, publisher⟩ := SessionControl.boot_frame booted
    rw [show readable = true from clean, if_pos rfl, ← file] at state
    rw [← file] at begun
    refine ⟨state ▸ load_sound setting.py control.file, fun _ => state.symm, ?_, ?_, ?_⟩
    · by_cases blank : control.state.status = .none
      · simpa only [if_pos blank] using begun
      · exact fun _ => state ▸ blank
    · by_cases blank : control.state.status = .none
      · intro _ _ last newest
        have empty : system.submitted = [] := by
          by_contra submitted
          exact begun submitted (state ▸ blank)
        simp [blank, empty] at newest
      · intro _ _ last newest
        simp only [if_neg blank, List.getLast?_concat, Option.some.injEq] at newest
        exact ⟨blank, clock, newest.symm⟩
    · intro _ _ acting
      rw [free] at acting
      cases acting
  | connect =>
    dsimp only [step] at taken
    split at taken
    · cases taken
      exact ⟨sound, agrees, begun, idle, busy⟩
    · cases taken
  | send =>
    obtain ⟨publisher, sent, rfl⟩ := Option.map_eq_some_iff.mp taken
    exact ⟨sound, agrees, begun, idle, busy⟩
  | land kept =>
    rcases land_cases taken with ⟨payload, rest, _, rfl⟩ | ⟨payload, _, _, rfl⟩
    all_goals
      cases kept
      all_goals exact ⟨sound, agrees, begun, idle, busy⟩
  | acknowledge =>
    obtain ⟨publisher, _, rfl⟩ := Option.map_eq_some_iff.mp taken
    exact ⟨sound, agrees, begun, idle, busy⟩
  | fail =>
    cases taken
    exact ⟨sound, agrees, begun, idle, busy⟩
  | subscribe | push | deliver | serve | outlive | take | agentStart =>
    obtain ⟨agent, _, rfl⟩ := Option.map_eq_some_iff.mp taken
    exact ⟨sound, agrees, begun, idle, busy⟩
  | unsubscribe | reset | agentStop =>
    cases taken
    exact ⟨sound, agrees, begun, idle, busy⟩

/-- An acknowledged message is the last of the stream, and when nothing is pending that is
the session submitted last, with nothing on the way that could replace it. -/
structure Quiet (setting : Setting) (system : System) : Prop where
  arrived : ∀ payload, system.control.publisher.request = some ⟨payload, .stored⟩ →
    system.stream = some payload ∧ system.stale = []
  waiting : ∀ payload, system.control.publisher.pending = some payload →
    (system.submitted.map setting.dumps).getLast? = some payload
  quiet : system.control.up = true → system.control.publisher.pending = none →
    system.control.publisher.request = none ∧ system.stale = [] ∧
      system.stream = (system.submitted.map setting.dumps).getLast?

theorem Quiet.submit {publisher : LatestSessionPublisher} (quiet : Quiet setting system)
    (payload : Payload) (control : SessionControl)
    (submits : control.publisher = publisher.submit (setting.dumps payload))
    (request : publisher.request = system.control.publisher.request ∨ publisher.request = none) :
    Quiet setting { system with control := control, submitted := system.submitted ++ [payload] } := by
  refine ⟨fun other stored => ?_, fun other pending => ?_, fun _ none => ?_⟩
  · rcases request with same | free
    · rw [submits] at stored
      exact quiet.arrived other (same.symm.trans stored)
    · simp [submits, LatestSessionPublisher.submit, free] at stored
  · simpa [submits, LatestSessionPublisher.submit, eq_comm] using pending
  · simp [submits, LatestSessionPublisher.submit] at none

theorem Quiet.land {kept : Bool} (quiet : Quiet setting system)
    (taken : system.land kept = some next) : Quiet setting next := by
  have ⟨arrived, waiting, settled⟩ := quiet
  rcases land_cases taken with ⟨payload, rest, stale, rfl⟩ | ⟨payload, stale, asked, rfl⟩
  · have busy : system.control.up = true → system.control.publisher.pending ≠ none := by
      intro up idle
      rw [(settled up idle).2.1] at stale
      cases stale
    have unanswered : ∀ other, system.control.publisher.request ≠ some ⟨other, .stored⟩ := by
      intro other stored
      rw [(arrived other stored).2] at stale
      cases stale
    cases kept
    all_goals
      exact ⟨fun other stored => absurd stored (unanswered other), waiting,
        fun up idle => absurd idle (busy up)⟩
  · have busy : system.control.up = true → system.control.publisher.pending ≠ none := by
      intro up idle
      rw [(settled up idle).1] at asked
      cases asked
    cases kept with
    | true =>
      refine ⟨fun other stored => ?_, waiting, fun up idle => absurd idle (busy up)⟩
      cases stored
      exact ⟨rfl, stale⟩
    | false =>
      refine ⟨fun other stored => ?_, waiting, fun up idle => absurd idle (busy up)⟩
      cases stored

theorem step_quiet (quiet : Quiet setting system) (current : Current setting system)
    (order : InOrder setting system) (clean : Faultless system event)
    (taken : system.step setting event = some next) : Quiet setting next := by
  have ⟨arrived, waiting, settled⟩ := quiet
  cases event with
  | act action body env =>
    obtain ⟨control, acted, rfl⟩ := Option.map_eq_some_iff.mp taken
    obtain ⟨up, _, _, publisher⟩ := SessionControl.act_frame acted
    refine ⟨?_, ?_, ?_⟩
    · simpa only [publisher] using arrived
    · simpa only [publisher] using waiting
    · simpa only [publisher] using fun _ => settled up
  | recorded result env =>
    obtain ⟨control, ended, rfl⟩ := Option.map_eq_some_iff.mp taken
    obtain ⟨prior, payload, busy, up, _, publisher⟩ := SessionControl.recorded_frame ended
    by_cases returned : result = .returned
    · rw [if_pos returned] at publisher
      simpa [returned, busy] using quiet.submit payload control publisher (.inl rfl)
    · rw [if_neg returned] at publisher
      simp only [if_neg returned]
      refine ⟨?_, ?_, ?_⟩
      · simpa only [publisher] using arrived
      · simpa only [publisher] using waiting
      · simpa only [publisher, up] using settled
  | stop =>
    cases taken
    exact ⟨fun _ stored => (by cases stored), fun _ pending => (by cases pending),
      fun up => absurd up Bool.false_ne_true⟩
  | boot clock readable =>
    obtain ⟨control, booted, rfl⟩ := Option.map_eq_some_iff.mp taken
    obtain ⟨_, _, free, file, state, publisher⟩ := SessionControl.boot_frame booted
    rcases publisher with ⟨blank, publisher⟩ | ⟨started, publisher⟩
    · rw [show readable = true from clean, if_pos rfl] at state
      have empty : system.submitted = [] := by
        by_contra submitted
        exact current.begun submitted (state ▸ blank)
      have drawn := order.drawn
      rw [empty] at drawn
      obtain ⟨stored, rest⟩ := List.append_eq_nil_iff.mp drawn.of_nil
      have stale : system.stale = [] := by
        simp only [outstanding, List.append_assoc, List.append_eq_nil_iff] at rest
        exact rest.1
      have stream : system.stream = none := by
        rw [order.newest, stored]
        rfl
      refine ⟨fun _ stored => ?_, fun _ pending => ?_, fun _ _ => ⟨?_, stale, ?_⟩⟩
      · simp [publisher] at stored
      · simp [publisher] at pending
      · rw [publisher]
      · simp [blank, empty, stream]
    · simpa [started] using quiet.submit _ control publisher (.inr rfl)
  | connect =>
    dsimp only [step] at taken
    split at taken
    · cases taken
      exact ⟨arrived, waiting, settled⟩
    · cases taken
  | send =>
    obtain ⟨publisher, sent, rfl⟩ := Option.map_eq_some_iff.mp taken
    unfold LatestSessionPublisher.send at sent
    split at sent
    · rename_i payload _ _ pending
      cases sent
      refine ⟨fun _ stored => (by cases stored), waiting, fun _ idle => ?_⟩
      rw [show system.control.publisher.pending = none from idle] at pending
      cases pending
    · cases sent
  | land kept => exact quiet.land taken
  | acknowledge =>
    obtain ⟨publisher, answered, rfl⟩ := Option.map_eq_some_iff.mp taken
    unfold LatestSessionPublisher.acknowledge at answered
    split at answered
    · rename_i payload asked
      cases answered
      obtain ⟨stream, stale⟩ := arrived payload asked
      refine ⟨fun _ stored => (by cases stored), fun other pending => ?_, fun up idle => ?_⟩
      · apply waiting
        dsimp only at pending
        split at pending
        · cases pending
        · exact pending
      · refine ⟨rfl, stale, ?_⟩
        dsimp only at idle
        split at idle
        · rename_i same
          exact stream.trans (waiting payload same).symm
        · rw [(settled up idle).1] at asked
          cases asked
    · cases answered
  | fail =>
    cases taken
    refine ⟨fun _ stored => (by cases stored), waiting, fun up idle => ?_⟩
    obtain ⟨free, stale, stream⟩ := settled up idle
    exact ⟨rfl, by simp [giveUp, stale, LatestSessionPublisher.onTheWay, free], stream⟩
  | subscribe | push | deliver | serve | outlive | take | agentStart =>
    obtain ⟨agent, _, rfl⟩ := Option.map_eq_some_iff.mp taken
    exact ⟨arrived, waiting, settled⟩
  | unsubscribe | reset | agentStop =>
    cases taken
    exact ⟨arrived, waiting, settled⟩

end System

/-- What a call of the handler will hand on. -/
def Handling.session (setting : Setting) : Handling → Option Payload
  | .received message => setting.decode message
  | .decoded session => some session

theorem applySession_session (known : List String) (timing : Timing) (session : Payload) :
    (timing.applySession known session).session = session := by
  unfold Timing.applySession
  split
  · split <;> rfl
  · rfl

/-- A track that the session names and the profile knows is the one timed. -/
theorem applySession_track {known : List String} (timing : Timing) {session : Payload}
    {name : String} (named : session.lookup "track_name" = some (.str name)) (some : name ≠ "")
    (knows : name ∈ known) : (timing.applySession known session).trackName = name := by
  unfold Timing.applySession
  rw [named]
  by_cases same : name = timing.trackName
  · simp [same]
  · simp [some, same, knows]

namespace Agent

variable {setting : Setting} {agent next : Agent}

/-- The running calls; at most one unless a call outlives its subscription. -/
def calls (agent : Agent) : List Handling := agent.orphans ++ agent.serving.toList

/-- What the inbox and the running calls will hand to the pipeline. -/
def held (setting : Setting) (agent : Agent) : List Payload :=
  agent.inbox.toList ++ agent.calls.filterMap (Handling.session setting)

/-- What was or will be pushed. -/
def coming (setting : Setting) (agent : Agent) (stream : Option String) : List Payload :=
  (agent.feed ++ if agent.due then stream.toList else []).filterMap setting.decode

/-- The half of a call that runs changes what is held only by dropping a replaced inbox, or the
session itself where the store's update raises. -/
theorem handle_held (setting : Setting) (agent : Agent) (call : Handling)
    (persisted : SaveOutcome) :
    let after := agent.handle setting persisted call
    (after.1.inbox.toList ++ (after.2.toList).filterMap (Handling.session setting)).Sublist
        (agent.inbox.toList ++ [call].filterMap (Handling.session setting)) ∧
      (persisted ≠ .raised →
        (after.1.inbox.toList ++ (after.2.toList).filterMap (Handling.session setting)).getLast? =
          (agent.inbox.toList ++ [call].filterMap (Handling.session setting)).getLast?) ∧
      after.1.timing = agent.timing ∧ after.1.feed = agent.feed ∧ after.1.due = agent.due ∧
      after.1.subscribed = agent.subscribed ∧
      (∀ file ∈ after.1.store.file, file ∈ agent.store.file ∨ call.session setting = some file) := by
  cases call with
  | decoded session =>
    refine ⟨?_, ?_, rfl, rfl, rfl, rfl, fun file kept => .inl kept⟩
    · simp [handle, Handling.session]
    · simp [handle, Handling.session]
  | received message =>
    cases decoded : setting.decode message with
    | none =>
      refine ⟨?_, ?_, rfl, rfl, rfl, rfl, fun file kept => .inl ?_⟩
      · simp [handle, Handling.session, SessionStore.updateFromBytes, decoded]
      · simp [handle, Handling.session, SessionStore.updateFromBytes, decoded]
      · simpa [handle, SessionStore.updateFromBytes, decoded] using kept
    | some session =>
      refine ⟨?_, ?_, rfl, rfl, rfl, rfl, fun file kept => ?_⟩
      · cases persisted <;>
          simp [handle, Handling.session, SessionStore.updateFromBytes, decoded]
      · cases persisted <;>
          simp [handle, Handling.session, SessionStore.updateFromBytes, decoded]
      · cases persisted with
        | saved =>
          refine .inr ?_
          simpa [handle, SessionStore.updateFromBytes, decoded, Handling.session] using kept
        | refused | raised =>
          refine .inl ?_
          simpa [handle, SessionStore.updateFromBytes, decoded] using kept

/-- A running call went on by a half: what is held stays, but for a replaced inbox and, unless
it `returns`, for its own session. -/
structure Advanced (setting : Setting) (returns : Prop) (agent next : Agent) : Prop where
  fewer : (next.held setting).Sublist (agent.held setting)
  last : returns → (next.held setting).getLast? = (agent.held setting).getLast?
  single : next.calls.length ≤ 1
  timing : next.timing = agent.timing
  feed : next.feed = agent.feed
  due : next.due = agent.due
  subscribed : next.subscribed = agent.subscribed
  filed : ∀ file ∈ next.store.file, file ∈ agent.store.file ∨ file ∈ agent.held setting

theorem serve_advanced {persisted : SaveOutcome} (single : agent.calls.length ≤ 1)
    (served : agent.serve setting persisted = some next) :
    Advanced setting (persisted ≠ .raised) agent next := by
  obtain ⟨call, serving, rfl⟩ := Option.map_eq_some_iff.mp served
  have alone : agent.orphans = [] := by
    simpa [calls, serving] using single
  have left : (agent.handle setting persisted call).1.orphans = [] := by
    cases call <;> exact alone
  obtain ⟨fewer, same, timing, feed, due, subscribed, filed⟩ :=
    handle_held setting agent call persisted
  refine ⟨?_, ?_, ?_, timing, feed, due, subscribed, fun file kept => ?_⟩
  · simpa only [held, calls, left, alone, serving, List.nil_append, Option.toList_some] using fewer
  · simpa only [held, calls, left, alone, serving, List.nil_append, Option.toList_some] using same
  · simp [calls, left, Option.length_toList_le]
  · refine (filed file kept).imp_right fun handed => ?_
    simp [held, calls, alone, serving, handed]

theorem outlive_advanced {index : Nat} {persisted : SaveOutcome} (single : agent.calls.length ≤ 1)
    (outlived : agent.outlive setting index persisted = some next) :
    Advanced setting (persisted ≠ .raised) agent next := by
  obtain ⟨call, found, rfl⟩ := Option.map_eq_some_iff.mp outlived
  obtain ⟨orphans, serving, rfl⟩ : agent.orphans = [call] ∧ agent.serving = none ∧ index = 0 := by
    obtain ⟨inside, here⟩ := List.getElem?_eq_some_iff.mp found
    simp only [calls, List.length_append] at single
    obtain ⟨only, running⟩ := List.length_eq_one_iff.mp (show agent.orphans.length = 1 by omega)
    have place : index = 0 := by omega
    subst place
    have free : agent.serving.toList = [] := List.length_eq_zero_iff.mp (by omega)
    refine ⟨?_, Option.toList_eq_nil_iff.mp free, rfl⟩
    simp only [running, List.getElem_cons_zero] at here
    rw [running, here]
  have left : (agent.handle setting persisted call).1.serving = none := by
    cases call <;> exact serving
  obtain ⟨fewer, same, timing, feed, due, subscribed, filed⟩ :=
    handle_held setting agent call persisted
  refine ⟨?_, ?_, ?_, timing, feed, due, subscribed, fun file kept => ?_⟩
  · simpa [held, calls, left, orphans, serving] using fewer
  · simpa [held, calls, left, orphans, serving] using same
  · simp [calls, left, orphans, Option.length_toList_le]
  · refine (filed file kept).imp_right fun handed => ?_
    simp [held, calls, orphans, serving, handed]

end Agent

namespace System

variable {setting : Setting} {system next : System} {event : Event}

/-- A delivery begins once the calls of earlier subscriptions are done. -/
def OneAtATime : System → Event → Prop
  | system, .deliver => system.agent.orphans = []
  | _, _ => True

/-- What the agent adopted since its start, holds, and is about to receive. -/
def trail (setting : Setting) (system : System) : List Payload :=
  system.adopted ++ system.agent.held setting ++ system.agent.coming setting system.stream

/-- The timing has the last adopted session, and its track where the profile knows it. -/
def Timed (setting : Setting) (timing : Timing) (session : Payload) : Prop :=
  timing.session = session ∧
    ∀ name, session.lookup "track_name" = some (.str name) → name ≠ "" → name ∈ setting.known →
      timing.trackName = name

theorem timed_applySession (timing : Timing) (session : Payload) :
    Timed setting (timing.applySession setting.known session) session :=
  ⟨applySession_session _ _ _, fun _ named some knows =>
    applySession_track timing named some knows⟩

/-- The agent goes through the stored sessions in order, and a subscribed one whose handler
calls all return ends with the last. -/
structure Followed (setting : Setting) (returns : Prop) (system : System) : Prop where
  drawn : Selection (system.stored.filterMap setting.decode) (system.trail setting)
  stream : system.stream = system.stored.getLast?
  filed : ∀ session ∈ system.agent.store.file, session ∈ system.stored.filterMap setting.decode
  single : system.agent.calls.length ≤ 1
  newest : returns → system.agent.subscribed = true → ∀ message session,
    system.stream = some message → setting.decode message = some session →
      (system.trail setting).getLast? = some session
  timed : ∀ session, system.adopted.getLast? = some session →
    Timed setting system.agent.timing session

variable {returns : Prop}

/-- The last message may be pushed again after anything the agent has seen. -/
theorem Followed.again (followed : Followed setting returns system) {seen : List Payload}
    (drawn : Selection (system.stored.filterMap setting.decode) seen) :
    Selection (system.stored.filterMap setting.decode)
      (seen ++ system.stream.toList.filterMap setting.decode) := by
  cases held : system.stream with
  | none => simpa using drawn
  | some message =>
    rw [followed.stream] at held
    obtain ⟨before, stored⟩ := List.getLast?_eq_some_iff.mp held
    cases decoded : setting.decode message with
    | none => simpa [decoded] using drawn
    | some session =>
      have last : (system.stored.filterMap setting.decode).getLast? = some session := by
        simp [stored, List.filterMap_append, decoded]
      simpa [decoded] using drawn.last last

theorem Followed.advance {agent : Agent} {returned : Prop} (followed : Followed setting returns system)
    (advanced : Agent.Advanced setting returned system.agent agent) (sound : returns → returned) :
    Followed setting returns { system with agent := agent } := by
  have coming : agent.coming setting system.stream =
      system.agent.coming setting system.stream := by
    rw [Agent.coming, advanced.feed, advanced.due, Agent.coming]
  refine ⟨followed.drawn.sublist ?_, followed.stream, fun session kept => ?_, advanced.single,
    fun complete subscribed message session held decoded => ?_, fun session adopted => ?_⟩
  · simp only [trail, coming]
    exact ((List.Sublist.refl _).append advanced.fewer).append (List.Sublist.refl _)
  · rcases advanced.filed session kept with before | handed
    · exact followed.filed session before
    · exact followed.drawn.mem (by simp [trail, handed])
  · rw [← followed.newest complete (advanced.subscribed ▸ subscribed) message session held decoded]
    simp only [trail, coming, List.getLast?_append, advanced.last (sound complete)]
  · rw [show ({ system with agent := agent } : System).agent.timing = system.agent.timing from
      advanced.timing]
    exact followed.timed session adopted

/-- A change of what the agent is about to receive. -/
theorem Followed.receive {agent : Agent} (followed : Followed setting returns system)
    (held : agent.held setting = system.agent.held setting)
    (calls : agent.calls.length ≤ 1) (store : agent.store = system.agent.store)
    (timing : agent.timing = system.agent.timing)
    (drawn : Selection (system.stored.filterMap setting.decode)
      (system.adopted ++ system.agent.held setting ++ agent.coming setting system.stream))
    (newest : returns → agent.subscribed = true → ∀ message session,
      system.stream = some message → setting.decode message = some session →
      (system.adopted ++ system.agent.held setting ++
        agent.coming setting system.stream).getLast? = some session) :
    Followed setting returns { system with agent := agent } := by
  refine ⟨?_, followed.stream, ?_, calls, ?_, ?_⟩
  · simpa only [trail, held] using drawn
  · simpa only [store] using followed.filed
  · simpa only [trail, held] using newest
  · simpa only [timing] using followed.timed

theorem Followed.store {payload : String} {kept : Bool} (followed : Followed setting returns system) :
    Followed setting returns (system.store payload kept) := by
  have ⟨drawn, stream, filed, single, newest, timed⟩ := followed
  cases kept with
  | false => exact followed
  | true =>
    have earlier : Selection (system.stored.filterMap setting.decode)
        (system.adopted ++ system.agent.held setting ++
          system.agent.feed.filterMap setting.decode) := by
      refine drawn.sublist ?_
      simp only [trail, Agent.coming, List.filterMap_append]
      exact (List.Sublist.refl _).append (List.sublist_append_left _ _)
    have pushed : Selection ([payload].filterMap setting.decode)
        ((if system.agent.subscribed then [payload] else []).filterMap setting.decode) := by
      split
      · exact .self _
      · exact .nil _
    refine ⟨?_, ?_, ?_, single, ?_, timed⟩
    · simpa [trail, System.store, Agent.coming, Agent.held, Agent.calls,
        List.filterMap_append] using earlier.append pushed
    · simp [System.store]
    · intro session held
      simp only [System.store, if_true, List.filterMap_append, List.mem_append]
      exact .inl (filed session held)
    · intro _ subscribed message session held decoded
      simp only [System.store, if_true, Option.some.injEq] at held subscribed
      simp [trail, System.store, Agent.coming, subscribed, List.filterMap_append, held, decoded]

/-- A half of a handler call that the step runs does not raise. -/
def Returns : Event → Prop
  | .serve persisted => persisted ≠ .raised
  | .outlive _ persisted => persisted ≠ .raised
  | _ => True

theorem step_followed (followed : Followed setting returns system)
    (ordered : OneAtATime system event) (sound : returns → Returns event)
    (taken : system.step setting event = some next) : Followed setting returns next := by
  have ⟨drawn, stream, filed, single, newest, timed⟩ := followed
  cases event with
  | act | recorded | boot | send | acknowledge =>
    obtain ⟨control, _, rfl⟩ := Option.map_eq_some_iff.mp taken
    exact ⟨drawn, stream, filed, single, newest, timed⟩
  | stop | fail =>
    cases taken
    exact ⟨drawn, stream, filed, single, newest, timed⟩
  | connect =>
    dsimp only [step] at taken
    split at taken
    · cases taken
      exact ⟨drawn, stream, filed, single, newest, timed⟩
    · cases taken
  | land kept =>
    rcases land_cases taken with ⟨payload, rest, _, rfl⟩ | ⟨payload, _, _, rfl⟩
    · exact Followed.store ⟨drawn, stream, filed, single, newest, timed⟩
    · exact Followed.store ⟨drawn, stream, filed, single, newest, timed⟩
  | subscribe =>
    obtain ⟨agent, subscribed, rfl⟩ := Option.map_eq_some_iff.mp taken
    unfold Agent.subscribe at subscribed
    split at subscribed
    · cases subscribed
      have seen : Selection (system.stored.filterMap setting.decode)
          (system.adopted ++ system.agent.held setting) :=
        drawn.sublist (List.sublist_append_left _ _)
      refine followed.receive rfl single rfl rfl ?_ fun _ _ message session held decoded => ?_
      · have again := followed.again seen
        cases held : system.stream with
        | none => simpa [Agent.coming, held] using again
        | some message => simpa [Agent.coming, held] using again
      · simp [Agent.coming, held, decoded]
    · cases subscribed
  | unsubscribe =>
    cases taken
    have turned : system.agent.unsubscribe.calls = system.agent.calls := by
      simp only [Agent.calls, Agent.unsubscribe, Option.toList_none, List.append_nil]
      simp only [Agent.calls, List.length_append] at single
      cases serving : system.agent.serving with
      | none => simp
      | some call =>
        rw [serving, Option.toList_some, List.length_singleton] at single
        rw [List.length_eq_zero_iff.mp (show system.agent.orphans.length = 0 by omega)]
        rfl
    have held : system.agent.unsubscribe.held setting = system.agent.held setting := by
      rw [Agent.held, turned]
      rfl
    refine followed.receive held (turned ▸ single) rfl rfl ?_ fun _ subscribed => by
      cases subscribed
    refine drawn.sublist ?_
    simp [trail, Agent.coming, Agent.unsubscribe]
  | reset =>
    cases taken
    have seen : Selection (system.stored.filterMap setting.decode)
        (system.adopted ++ system.agent.held setting) :=
      drawn.sublist (List.sublist_append_left _ _)
    cases due : system.agent.due || !system.agent.feed.isEmpty with
    | true =>
      refine followed.receive rfl single rfl rfl ?_ fun _ _ message session held decoded => ?_
      · simpa [Agent.coming, Agent.reset, due] using followed.again seen
      · simp [Agent.coming, Agent.reset, due, held, decoded]
    | false =>
      have nothing : system.agent.coming setting system.stream = [] := by
        obtain ⟨due, empty⟩ := Bool.or_eq_false_iff.mp due
        simp only [Bool.not_eq_false', List.isEmpty_iff] at empty
        simp [Agent.coming, due, empty]
      refine followed.receive rfl single rfl rfl ?_ fun complete subscribed message session held
        decoded => ?_
      · simpa [Agent.coming, Agent.reset, due] using seen
      · have last := newest complete subscribed message session held decoded
        rw [trail, nothing] at last
        simpa [Agent.coming, Agent.reset, due] using last
  | push =>
    obtain ⟨agent, pushed, rfl⟩ := Option.map_eq_some_iff.mp taken
    unfold Agent.push at pushed
    split at pushed
    · rename_i message due held
      cases pushed
      have same : (system.agent.feed ++ [message] ++ if false then system.stream.toList else
          []).filterMap setting.decode = system.agent.coming setting system.stream := by
        simp [Agent.coming, due, held]
      exact followed.receive rfl single rfl rfl (by rw [Agent.coming, same]; exact drawn)
        (by rw [Agent.coming, same]; exact newest)
    · cases pushed
  | deliver =>
    obtain ⟨agent, delivered, rfl⟩ := Option.map_eq_some_iff.mp taken
    unfold Agent.deliver at delivered
    split at delivered
    · rename_i message rest free waiting
      cases delivered
      have alone : system.agent.orphans = [] := ordered
      have same : trail setting { system with
          agent := { system.agent with serving := some (.received message), feed := rest } } =
            system.trail setting := by
        cases decoded : setting.decode message
        all_goals
          simp [trail, Agent.held, Agent.calls, Agent.coming, alone, free, waiting,
            Handling.session, decoded]
      refine ⟨by rw [same]; exact drawn, stream, filed, ?_, ?_, timed⟩
      · simp [Agent.calls, alone]
      · rw [same]
        exact newest
    · cases delivered
  | serve persisted =>
    obtain ⟨agent, served, rfl⟩ := Option.map_eq_some_iff.mp taken
    exact followed.advance (Agent.serve_advanced single served) sound
  | outlive index persisted =>
    obtain ⟨agent, outlived, rfl⟩ := Option.map_eq_some_iff.mp taken
    exact followed.advance (Agent.outlive_advanced single outlived) sound
  | take =>
    obtain ⟨⟨agent, session⟩, took, rfl⟩ := Option.map_eq_some_iff.mp taken
    obtain ⟨pending, inbox, same⟩ := Option.map_eq_some_iff.mp took
    cases same
    have moved : trail setting { system with
        agent :=
          { system.agent with
            inbox := none
            timing := system.agent.timing.applySession setting.known session }
        adopted := system.adopted ++ [session] } = system.trail setting := by
      simp [trail, Agent.held, Agent.calls, Agent.coming, inbox]
    refine ⟨by rw [moved]; exact drawn, stream, filed, single, by rw [moved]; exact newest,
      fun other adopted => ?_⟩
    rw [List.getLast?_concat] at adopted
    cases adopted
    exact timed_applySession _ _
  | agentStop =>
    cases taken
    exact ⟨.nil _, stream, filed, Nat.zero_le 1, fun _ subscribed => (by cases subscribed),
      fun _ adopted => by cases adopted⟩
  | agentStart =>
    obtain ⟨agent, started, rfl⟩ := Option.map_eq_some_iff.mp taken
    unfold Agent.start at started
    split at started
    · cases started
    · cases started
      refine ⟨?_, stream, filed, Nat.zero_le 1, fun _ subscribed => (by cases subscribed),
        fun session adopted => ?_⟩
      · cases file : system.agent.store.file with
        | none => simpa [trail, Agent.held, Agent.calls, Agent.coming, SessionStore.reload, file]
            using Selection.nil _
        | some session =>
          simpa [trail, Agent.held, Agent.calls, Agent.coming, SessionStore.reload, file] using
            Selection.single (filed session file)
      · simp only [SessionStore.reload] at adopted ⊢
        have file : system.agent.store.file = some session := by
          cases held : system.agent.store.file with
          | none => simp [held] at adopted
          | some other => simpa [held] using adopted
        rw [file, Option.getD_some]
        exact timed_applySession _ _

theorem initial_followed (file : Option Payload) :
    Followed setting returns (initial setting file) :=
  ⟨.nil _, rfl, fun _ filed => (by cases filed), Nat.zero_le 1,
    fun _ subscribed => (by cases subscribed), fun _ adopted => by cases adopted⟩

/-- A profile with two tracks that starts on the one the session does not name; JSON is
printed as `json.dumps` prints texts and integers. -/
def demoSetting : Setting where
  py := epochRuntime
  text :=
    { deep := fun _ => false
      loads := fun message =>
        if message = printed opened then some (.object opened)
        else if message = printed changed then some (.object changed)
        else none
      float := fun _ => none
      int := fun _ => none
      str := fun _ => "" }
  dumps := printed
  defaultTrack := "spa"
  known := ["monza", "spa"]
  track := "monza"

def driverBody : Payload := [("driver", .str "bob")]

def driverEnv : Env := { startEnv (.finished .committed true) with clock := 9000 }

/-- The session is opened, its first publish fails late and is sent once more; the driver
changes while the agent restarts, and the agent takes both messages one after the other. -/
def demoRun : List Event :=
  [.boot 500 true, .connect, .act "start" startBody (startEnv (.finished .committed true)),
    .recorded .returned (startEnv (.finished .committed true)), .send, .fail, .connect, .send,
    .agentStart, .land true, .subscribe, .push, .deliver, .serve .saved, .agentStop, .land true,
    .act "driver" driverBody driverEnv, .recorded .returned driverEnv, .acknowledge, .agentStart,
    .subscribe, .push, .deliver, .serve .refused, .serve .saved, .take, .send, .land true, .push,
    .deliver, .serve .saved, .serve .saved, .take, .acknowledge]

theorem stored_in_order_demo :
    ∃ final, Machine.run (step demoSetting) (initial demoSetting none) demoRun = some final ∧
      Selection (final.submitted.map printed) final.stored ∧
      final.stored = [printed opened, printed opened, printed changed] := by
  have arrived : ((Machine.run (step demoSetting) (initial demoSetting none) demoRun).map
      System.stored) = some [printed opened, printed opened, printed changed] := by decide +kernel
  obtain ⟨final, reached, stored⟩ := Option.map_eq_some_iff.mp arrived
  exact ⟨final, reached, (stored_in_order none demoRun final reached).1, stored⟩

/-- Since its start the car is timed under submitted sessions in the order of their
submission, when no call of the handler outlives its subscription. -/
theorem adopted_in_order (file : Option Payload) (events : List Event) (final : System)
    (ordered : Machine.Along (step setting) OneAtATime (initial setting file) events)
    (reached : Machine.run (step setting) (initial setting file) events = some final) :
    Selection ((final.submitted.map setting.dumps).filterMap setting.decode) final.adopted := by
  have order := Machine.run_invariant (InOrder setting)
    (fun system event next order taken => step_inOrder order taken) events _ final
    (initial_inOrder file) reached
  have followed := (Machine.always_of_along (Followed setting False) (fun _ followed => followed)
    (fun system event next followed ordered taken => step_followed followed ordered False.elim taken)
    events _ (initial_followed file) ordered).final reached
  have stored := order.drawn.sublist (List.sublist_append_left _ _)
  refine (stored.filterMap setting.decode).trans (followed.drawn.sublist ?_)
  rw [trail, List.append_assoc]
  exact List.sublist_append_left _ _

/-- The two conditions on the steps of a run, as a test. -/
def cleanStep (system : System) : Event → Bool
  | .act _ _ env => env.save ≠ .raised
  | .recorded result env => result ≠ .cancelled ∧ env.rollback = .saved
  | .boot _ readable => readable
  | .deliver => system.agent.orphans.isEmpty
  | .serve persisted => persisted ≠ .raised
  | .outlive _ persisted => persisted ≠ .raised
  | _ => true

theorem allowed_of_cleanStep (system : System) (event : Event)
    (clean : cleanStep system event = true) :
    Faultless system event ∧ OneAtATime system event := by
  cases event <;> simp_all [cleanStep, Faultless, OneAtATime]

theorem demoRun_allowed : Machine.Along (step demoSetting)
    (fun system event => Faultless system event ∧ OneAtATime system event)
    (initial demoSetting none) demoRun := by
  have checked : Machine.checks (step demoSetting) cleanStep (initial demoSetting none) demoRun =
      true := by decide +kernel
  exact (Machine.along_of_checks demoRun _ checked).imp allowed_of_cleanStep

set_option maxRecDepth 4000 in
theorem adopted_in_order_demo :
    ∃ final, Machine.run (step demoSetting) (initial demoSetting none) demoRun = some final ∧
      Selection ((final.submitted.map printed).filterMap demoSetting.decode) final.adopted ∧
      final.adopted = [opened, opened, changed] := by
  have arrived : ((Machine.run (step demoSetting) (initial demoSetting none) demoRun).map
      System.adopted) = some [opened, opened, changed] := by rfl
  obtain ⟨final, reached, adopted⟩ := Option.map_eq_some_iff.mp arrived
  exact ⟨final, reached, adopted_in_order none demoRun final
    (demoRun_allowed.imp fun _ _ allowed => allowed.2) reached, adopted⟩

/-- Both parties run, and nothing is under way between them. -/
structure AtRest (system : System) : Prop where
  up : system.control.up = true
  free : system.control.acting = none
  sent : system.control.publisher.pending = none
  subscribed : system.agent.subscribed = true
  pushed : system.agent.due = false
  delivered : system.agent.feed = []
  handled : system.agent.calls = []
  taken : system.agent.inbox = none

/-- All the invariants of a run without second failures. -/
structure Healthy (setting : Setting) (system : System) : Prop where
  order : InOrder setting system
  current : Current setting system
  quiet : Quiet setting system
  followed : Followed setting True system

theorem returns_of_faultless (clean : Faultless system event) : Returns event := by
  cases event <;> first | exact clean | trivial

theorem initial_healthy (file : Option Payload) : Healthy setting (initial setting file) where
  order := initial_inOrder file
  current := ⟨.idle rfl, fun up => (by cases up), fun submitted => absurd rfl submitted,
    fun up => (by cases up), fun _ _ acting => by cases acting⟩
  quiet := ⟨fun _ stored => (by cases stored), fun _ pending => (by cases pending),
    fun up => by cases up⟩
  followed := initial_followed file

theorem step_healthy (healthy : Healthy setting system)
    (allowed : Faultless system event ∧ OneAtATime system event)
    (taken : system.step setting event = some next) : Healthy setting next where
  order := step_inOrder healthy.order taken
  current := step_current healthy.current healthy.order allowed.1 taken
  quiet := step_quiet healthy.quiet healthy.current healthy.order allowed.1 taken
  followed := step_followed healthy.followed allowed.2
    (fun _ => returns_of_faultless allowed.1) taken

/-- Once everything under way has come to rest, the car is timed under the session that
session-control holds in its file, and on that session's track if the profile knows it. -/
theorem timed_under_saved_session (file : Option Payload) (events : List Event) (final : System)
    (allowed : Machine.Along (step setting)
      (fun system event => Faultless system event ∧ OneAtATime system event)
      (initial setting file) events)
    (reached : Machine.run (step setting) (initial setting file) events = some final)
    (lossless : ∀ payload ∈ final.submitted, Ingest.Lossless setting.text setting.dumps payload)
    (rest : AtRest final) (submitted : final.submitted ≠ []) :
    let saved := load setting.py final.control.file
    (∃ timestamp, ∀ name, final.agent.timing.session.lookup name =
      (saved.payload timestamp).lookup name) ∧
    (saved.trackName ≠ "" → saved.trackName ∈ setting.known →
      final.agent.timing.trackName = saved.trackName) := by
  have healthy := (Machine.always_of_along (Healthy setting) (fun _ healthy => healthy)
    (fun system event next healthy allowed taken => step_healthy healthy allowed taken)
    events _ (initial_healthy file) allowed).final reached
  obtain ⟨order, current, quiet, followed⟩ := healthy
  have newest := List.getLast?_eq_some_getLast submitted
  have member := List.getLast_mem submitted
  generalize final.submitted.getLast submitted = last at newest member
  obtain ⟨_, timestamp, described⟩ := current.idle rest.up rest.free last newest
  obtain ⟨-, session, loaded, same⟩ := lossless last member
  have decoded : setting.decode (setting.dumps last) = some session := by
    rw [Setting.decode, loaded]
  have stream : final.stream = some (setting.dumps last) := by
    rw [(quiet.quiet rest.up rest.sent).2.2, List.getLast?_map, newest]
    rfl
  have adopted : final.adopted.getLast? = some session := by
    rw [← followed.newest trivial rest.subscribed _ _ stream decoded]
    simp [trail, Agent.held, Agent.coming, rest.taken, rest.handled, rest.delivered, rest.pushed]
  obtain ⟨timed, track⟩ := followed.timed session adopted
  have saved := current.agrees rest.up
  refine ⟨⟨timestamp, fun name => ?_⟩, fun some knows => track _ ?_ some knows⟩
  · rw [timed, same, described, saved]
  · rw [same, described, saved]
    rfl

/-- `AtRest`, as a test. -/
def resting (system : System) : Bool :=
  system.control.up && system.control.acting.isNone && system.control.publisher.pending.isNone &&
    system.agent.subscribed && !system.agent.due && system.agent.feed.isEmpty &&
    system.agent.calls.isEmpty && system.agent.inbox.isNone

theorem atRest_of_resting (resting : resting system = true) : AtRest system := by
  simp only [System.resting, Bool.and_eq_true, Option.isNone_iff_eq_none, List.isEmpty_iff,
    Bool.not_eq_true'] at resting
  obtain ⟨⟨⟨⟨⟨⟨⟨up, free⟩, sent⟩, subscribed⟩, pushed⟩, delivered⟩, handled⟩, taken⟩ := resting
  exact ⟨up, free, sent, subscribed, pushed, delivered, handled, taken⟩

set_option maxRecDepth 4000 in
theorem timed_under_saved_session_demo :
    ∃ final, Machine.run (step demoSetting) (initial demoSetting none) demoRun = some final ∧
      final.agent.timing.trackName = "spa" := by
  obtain ⟨final, reached⟩ : ∃ final,
      Machine.run (step demoSetting) (initial demoSetting none) demoRun = some final :=
    Option.isSome_iff_exists.mp (by decide +kernel)
  have submitted : (Machine.run (step demoSetting) (initial demoSetting none) demoRun).map
      System.submitted = some [opened, changed] := by rfl
  have rest : (Machine.run (step demoSetting) (initial demoSetting none) demoRun).all
      resting = true := by decide +kernel
  have track : ((Machine.run (step demoSetting) (initial demoSetting none) demoRun).map
      fun final => (load epochRuntime final.control.file).trackName) = some "spa" := by
    decide +kernel
  simp only [reached, Option.map_some, Option.some.injEq, Option.all_some] at submitted rest track
  have apart : printed changed ≠ printed opened := by decide +kernel
  have printedBack : ∀ payload ∈ [opened, changed],
      Ingest.Lossless demoSetting.text demoSetting.dumps payload := by
    intro payload member
    refine ⟨rfl, payload, ?_, fun _ => rfl⟩
    simp only [List.mem_cons, List.not_mem_nil, or_false] at member
    rcases member with rfl | rfl
    · simp [demoSetting]
    · simp [demoSetting, apart]
  have timed := (timed_under_saved_session none demoRun final demoRun_allowed reached
    (by rw [submitted]; exact printedBack) (atRest_of_resting rest)
    (by rw [submitted]; simp)).2
  rw [show load demoSetting.py final.control.file = load epochRuntime final.control.file from rfl,
    track] at timed
  exact ⟨final, reached, timed (by decide) (by decide)⟩

end System

end OpenLaps.SessionFeed

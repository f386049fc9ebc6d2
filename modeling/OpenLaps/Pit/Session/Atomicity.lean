import OpenLaps.Pit.Session.Convergence
import OpenLaps.Pit.Session.Service

/- When an action that does not return leaves the state and its file as they
were, and what one that returns has reached. -/
namespace OpenLaps.Session

open Ingest (Json)

/-- An accepted call ends in a session, and its payload describes that. -/
theorem apply_described (py : Runtime) (state next : SessionState) (call : Call)
    (payload : List (String × Json)) (accepted : call.apply py state = .ok (next, payload)) :
    next.status ≠ .none ∧ ∃ timestamp, payload = next.payload timestamp := by
  cases call with
  | startSession uuid sessionType driver trackName car now =>
    simp only [Call.apply, SessionState.startSession] at accepted
    repeat' split at accepted
    all_goals cases accepted
    exact ⟨by simp, now, rfl⟩
  | changeDriver driver now =>
    simp only [Call.apply, SessionState.changeDriver] at accepted
    split at accepted
    · cases accepted
    rename_i running
    repeat' split at accepted
    all_goals cases accepted
    exact ⟨fun none => running (by rw [show state.status = .none from none]; decide), now, rfl⟩
  | amendStintStart atMs =>
    simp only [Call.apply, SessionState.amendStintStart] at accepted
    split at accepted
    · cases accepted
    rename_i running
    repeat' split at accepted
    all_goals cases accepted
    exact ⟨fun none => running (by rw [show state.status = .none from none]; decide), atMs, rfl⟩
  | endSession now =>
    simp only [Call.apply, SessionState.endSession] at accepted
    repeat' split at accepted
    all_goals cases accepted
    exact ⟨by simp, now, rfl⟩

/-- A start is not backdated, so it takes its time from the clock. -/
theorem requestedCall_opening (py : Runtime) (defaultTrack : String) (state : SessionState)
    (action : String) (body : List (String × Json)) (env : Env) (call : Call)
    (requested : requestedCall py defaultTrack state action body env = .ok call) :
    0 ≤ call.opening := by
  rw [requestedCall] at requested
  cases asked : requestedTime action body env.clock with
  | error failure =>
    rw [asked] at requested
    cases requested
  | ok atMs =>
    rw [asked] at requested
    by_cases starting : action = "start"
    · have absent : atMs = none := by
        rw [requestedTime] at asked
        repeat' split at asked
        all_goals cases asked
        all_goals trivial
      subst absent
      simp only [bind, Except.bind, if_pos starting] at requested
      cases requested
      exact Int.natCast_nonneg _
    · simp only [bind, Except.bind, if_neg starting] at requested
      repeat' split at requested
      all_goals cases requested
      all_goals exact Int.le_refl 0

/-- No failure on top of another one: neither the clean-up of a save nor the
save of a rollback fails. -/
structure NoSecondFailure (env : Env) : Prop where
  save : env.save ≠ .raised
  rollback : env.rollback = .saved

/-- The state is one that `from_dict` accepts, and the file describes it. -/
structure Settled (py : Runtime) (controller : Controller) : Prop where
  sound : Sound (· ≤ ·) controller.state
  filed : load py controller.file = controller.state

theorem load_toDict (py : Runtime) (state : SessionState) (clock : Int)
    (sound : Sound (· ≤ ·) state) : load py (some (state.toDict clock)) = state := by
  simp only [load, fromDict_written py state _ sound (written_toDict state clock)]

theorem start_settled (py : Runtime) (file : Option (List (String × Json)))
    (database : SessionDatabase) : Settled py (Controller.start py file database) := by
  refine ⟨?_, rfl⟩
  show Sound (· ≤ ·) (load py file)
  cases file with
  | none => exact .idle rfl
  | some data =>
    simp only [load]
    split
    · rename_i state read
      exact fromDict_sound py data state read
    · exact .idle rfl

section Act

variable (py : Runtime) (vehicleId defaultTrack : String) (controller : Controller)
  (action : String) (body : List (String × Json)) (env : Env)

theorem transition_sound (next : SessionState) (payload : List (String × Json))
    (settled : Settled py controller)
    (accepted : controller.transition py defaultTrack action body env = .ok (next, payload)) :
    Sound (· ≤ ·) next ∧ next.sessionId ≠ "" ∧ ∃ timestamp, payload = next.payload timestamp := by
  rw [Controller.transition] at accepted
  cases requested : requestedCall py defaultTrack controller.state action body env with
  | error failure =>
    rw [requested] at accepted
    cases accepted
  | ok call =>
    rw [requested] at accepted
    have opening := requestedCall_opening py defaultTrack _ action body env call requested
    have sound := call.apply_sound (fun instant => Int.le_refl instant) py _ next payload
      settled.sound opening accepted
    obtain ⟨begun, described⟩ := apply_described py _ next call payload accepted
    exact ⟨sound, (sound.trimmed begun).nonempty, described⟩

/-- The action that changes the state is cancelled while it waits for the
database. -/
def Interrupted : Prop :=
  env.cancelledWaiting = false ∧ env.save = .saved ∧
    (∃ landed dropped, env.record = .cancelled landed dropped) ∧
    ∃ next payload, controller.transition py defaultTrack action body env = .ok (next, payload) ∧
      next ≠ controller.state

/-- The four ways an action ends: nothing was touched, the state was rolled back,
it returned, or it was cancelled after its save. -/
theorem act_cases (after : Controller) (result : ActResult) (settled : Settled py controller)
    (single : NoSecondFailure env)
    (taken : controller.act py vehicleId defaultTrack action body env = (after, result)) :
    (after = controller ∧ (∀ payload, result ≠ .returned payload) ∧
      ¬ Interrupted py defaultTrack controller action body env) ∨
    (∃ database outcome persists,
      after = ⟨controller.state, some (controller.state.toDict env.clock), controller.published,
        database⟩ ∧
      (∀ payload, result ≠ .returned payload) ∧ env.record = .finished outcome persists) ∨
    ∃ next payload database,
      controller.transition py defaultTrack action body env = .ok (next, payload) ∧
      ((∃ outcome persists landed, env.record = .finished outcome persists ∧
          controller.database.record py vehicleId (next.toDict env.clock) outcome persists =
            (database, .returned landed) ∧
          after = ⟨next, some (next.toDict env.clock), some payload, database⟩ ∧
          result = .returned payload) ∨
        (∃ landed dropped, env.record = .cancelled landed dropped ∧
          env.cancelledWaiting = false ∧ env.save = .saved ∧
          after = ⟨next, some (next.toDict env.clock), controller.published, database⟩ ∧
          result = .cancelled)) := by
  have restored := fromDict_written py controller.state _ settled.sound
    (written_toDict controller.state env.clock)
  rw [Controller.act] at taken
  split at taken
  · rename_i waiting
    cases taken
    refine Or.inl ⟨rfl, fun _ => by simp, fun interrupted => ?_⟩
    exact absurd (interrupted.1.symm.trans waiting) (by decide)
  rename_i waiting
  have entered : env.cancelledWaiting = false := by simpa using waiting
  dsimp only at taken
  split at taken
  · rename_i failure refused
    cases taken
    refine Or.inl ⟨rfl, fun _ => by simp, fun interrupted => ?_⟩
    obtain ⟨-, -, -, next, payload, accepted, -⟩ := interrupted
    exact absurd (refused.symm.trans accepted) (by simp)
  rename_i next payload accepted
  obtain ⟨sound, named, -⟩ := transition_sound py defaultTrack controller action body env next
    payload settled accepted
  split at taken
  · rename_i raised
    exact absurd raised single.save
  · rename_i refused
    rw [restored] at taken
    cases taken
    refine Or.inl ⟨rfl, fun _ => by simp, fun interrupted => ?_⟩
    exact absurd (interrupted.2.1.symm.trans refused) (by decide)
  · rename_i saved
    cases ending : env.record with
    | finished outcome persists =>
      rw [ending, Controller.recordUnder] at taken
      cases recording : controller.database.record py vehicleId (next.toDict env.clock) outcome
          persists with
      | mk database recorded =>
        rw [recording] at taken
        cases recorded with
        | returned landed =>
          cases taken
          exact Or.inr (Or.inr ⟨next, payload, database, accepted,
            Or.inl ⟨outcome, persists, landed, rfl, recording, rfl, rfl⟩⟩)
        | raised why =>
          simp only [Controller.rollBack, restored, single.rollback] at taken
          cases taken
          refine Or.inr (Or.inl ⟨database, outcome, persists, rfl, ?_, rfl⟩)
          intro claimed
          split <;> simp
    | cancelled landed dropped =>
      have read := fromDict_written py next _ sound (written_toDict next env.clock)
      simp only [ending, Controller.recordUnder, read] at taken
      cases taken
      exact Or.inr (Or.inr ⟨next, payload, _, accepted,
        Or.inr ⟨landed, dropped, rfl, entered, saved, rfl, rfl⟩⟩)

theorem act_settled (settled : Settled py controller) (single : NoSecondFailure env) :
    Settled py (controller.act py vehicleId defaultTrack action body env).1 := by
  cases taken : controller.act py vehicleId defaultTrack action body env with
  | mk after result =>
  rcases act_cases py vehicleId defaultTrack controller action body env after result settled single
    taken with ⟨same, -, -⟩ | ⟨database, outcome, persists, same, -, -⟩ |
      ⟨next, payload, database, accepted, finished⟩
  · rw [same]
    exact settled
  · rw [same]
    exact ⟨settled.sound, load_toDict py controller.state env.clock settled.sound⟩
  · have sound := (transition_sound py defaultTrack controller action body env next payload settled
      accepted).1
    have filed := load_toDict py next env.clock sound
    rcases finished with ⟨_, _, _, -, -, same, -⟩ | ⟨_, _, -, -, -, same, -⟩
    · rw [same]
      exact ⟨sound, filed⟩
    · rw [same]
      exact ⟨sound, filed⟩

end Act

/-- The tables hold the rows of a snapshot. -/
def Stored (vehicleId : String) (tables : Tables) (state : SessionState) : Prop :=
  ∃ row stints, sessionRow vehicleId state = .ok row ∧ stintRows state = .ok stints ∧
    tables.sessions.get? state.sessionId = some row ∧
    ∀ number stint, (Dict.ofRows Prod.fst Prod.snd stints).get? number = some stint →
      tables.stints.get? (state.sessionId, number) = some stint

theorem Wrote.stored {vehicleId : String} {before after : Tables} {state : SessionState}
    (wrote : Wrote vehicleId before state after) : Stored vehicleId after state := by
  obtain ⟨row, stints, header, rows, same⟩ := wrote
  subst same
  refine ⟨row, stints, header, rows, ?_, ?_⟩
  · rw [Tables.upsert, Dict.get?_set, if_pos rfl]
  · intro number stint found
    rw [upsert_stints, found, Option.some_or]

/-- A record that returned has written its snapshot or queued it. -/
theorem record_holds (py : Runtime) (vehicleId : String) (before after : SessionDatabase)
    (state : SessionState) (data : List (String × Json)) (outcome : WriteOutcome)
    (persists landed : Bool) (read : fromDict py data = .ok state) (named : state.sessionId ≠ "")
    (taken : before.record py vehicleId data outcome persists = (after, .returned landed)) :
    after.pending.get? state.sessionId = some state ∨ Stored vehicleId after.tables state := by
  rcases record_cases _ _ _ _ _ _ _ _ taken with ⟨-, why, impossible⟩ | ⟨found, reads, cases⟩
  · cases impossible
  have same : found = state := Except.ok.inj (reads.symm.trans read)
  subst same
  rcases cases with ⟨unnamed, -, -⟩ | ⟨-, tables, wrote, -, -, settled⟩ |
    ⟨-, tables, connected, -, queued⟩
  · exact absurd unnamed named
  · rw [settled]
    exact Or.inr wrote.stored
  · cases persists with
    | false => cases queued
    | true =>
      cases queued
      exact Or.inl (by rw [Dict.get?_set, if_pos rfl])

/-- An action, or whatever the retry loop did to the database in between. -/
inductive ServiceEvent where
  | act (action : String) (body : List (String × Json)) (env : Env)
  | background (database : SessionDatabase)

namespace ServiceEvent

def NoSecondFailure : ServiceEvent → Prop
  | .act _ _ env => Session.NoSecondFailure env
  | .background _ => True

def step (py : Runtime) (vehicleId defaultTrack : String) (controller : Controller) :
    ServiceEvent → Controller
  | .act action body env => (controller.act py vehicleId defaultTrack action body env).1
  | .background database => { controller with database := database }

theorem run_settled (py : Runtime) (vehicleId defaultTrack : String) (events : List ServiceEvent)
    (controller : Controller) (settled : Settled py controller)
    (single : ∀ event ∈ events, event.NoSecondFailure) :
    Settled py (events.foldl (step py vehicleId defaultTrack) controller) := by
  induction events generalizing controller with
  | nil => exact settled
  | cons event rest ih =>
    apply ih
    · have here := single event List.mem_cons_self
      cases event with
      | act action body env =>
        exact act_settled py vehicleId defaultTrack controller action body env settled here
      | background database => exact ⟨settled.sound, settled.filed⟩
    · exact fun later member => single later (List.mem_cons_of_mem event member)

end ServiceEvent

/-- In every state the service reaches, an action that does not return leaves
the state and the file alone exactly when it was not cancelled between its save
and the end of `record`; one that returns has reached every store. -/
theorem act_atomic (py : Runtime) (vehicleId defaultTrack : String)
    (file : Option (List (String × Json))) (database : SessionDatabase)
    (events : List ServiceEvent) (past : ∀ event ∈ events, event.NoSecondFailure)
    (controller : Controller)
    (reached : controller =
      events.foldl (ServiceEvent.step py vehicleId defaultTrack) (.start py file database))
    (action : String) (body : List (String × Json)) (env : Env) (single : NoSecondFailure env)
    (after : Controller) (result : ActResult)
    (taken : controller.act py vehicleId defaultTrack action body env = (after, result)) :
    (((∀ payload, result ≠ .returned payload) →
        after.state = controller.state ∧ load py after.file = load py controller.file) ↔
      ¬ Interrupted py defaultTrack controller action body env) ∧
    ∀ payload, result = .returned payload → ∃ next timestamp,
      controller.transition py defaultTrack action body env = .ok (next, payload) ∧
      payload = next.payload timestamp ∧ after.state = next ∧ load py after.file = next ∧
      after.published = some payload ∧
      (after.database.pending.get? next.sessionId = some next ∨
        Stored vehicleId after.database.tables next) := by
  have settled : Settled py controller := by
    rw [reached]
    exact ServiceEvent.run_settled py vehicleId defaultTrack events _
      (start_settled py file database) past
  rcases act_cases py vehicleId defaultTrack controller action body env after result settled single
    taken with ⟨same, unreturned, calm⟩ | ⟨database, outcome, persists, same, unreturned, ending⟩ |
      ⟨next, payload, database, accepted, finished⟩
  · rw [same]
    exact ⟨⟨fun _ => calm, fun _ _ => ⟨rfl, rfl⟩⟩, fun payload claimed =>
      absurd claimed (unreturned payload)⟩
  · rw [same]
    refine ⟨⟨?_, ?_⟩, fun payload claimed => absurd claimed (unreturned payload)⟩
    · rintro - ⟨-, -, ⟨landed, dropped, cancelled⟩, -⟩
      rw [ending] at cancelled
      cases cancelled
    · intro _ _
      rw [load_toDict py controller.state env.clock settled.sound, settled.filed]
      exact ⟨rfl, rfl⟩
  · obtain ⟨sound, named, timestamp, described⟩ := transition_sound py defaultTrack controller
      action body env next payload settled accepted
    have filed := load_toDict py next env.clock sound
    rcases finished with ⟨outcome, persists, landed, ending, recorded, same, returned⟩ |
      ⟨landed, dropped, ending, entered, saved, same, cancelled⟩
    · rw [same, returned]
      refine ⟨⟨?_, fun _ unreturned => absurd rfl (unreturned payload)⟩, ?_⟩
      · rintro - ⟨-, -, ⟨landed, dropped, cancelled⟩, -⟩
        rw [ending] at cancelled
        cases cancelled
      · rintro claimed ⟨⟩
        have read := fromDict_written py next _ sound (written_toDict next env.clock)
        exact ⟨next, timestamp, accepted, described, rfl, filed, rfl,
          record_holds py vehicleId _ _ next _ outcome persists landed read named recorded⟩
    · rw [same, cancelled]
      refine ⟨⟨?_, ?_⟩, fun payload claimed => by cases claimed⟩
      · rintro kept ⟨-, -, -, other, asked, accepted', changed⟩
        have equal : next = other := by
          rw [accepted] at accepted'
          cases accepted'
          rfl
        exact changed (equal ▸ (kept fun _ => by simp).1)
      · intro calm _
        have unchanged : next = controller.state := by
          by_contra changed
          exact calm ⟨entered, saved, ⟨landed, dropped, ending⟩, next, payload, accepted, changed⟩
        refine ⟨unchanged, ?_⟩
        rw [filed, settled.filed, unchanged]

/-- A new installation whose database is down. -/
def fresh : Controller := .start epochRuntime none ⟨noTables, .empty, false⟩

def startBody : List (String × Json) := [("session_type", .str "race"), ("driver", .str "ada")]

def startEnv (ending : RecordEnd) : Env :=
  ⟨1000, none, "5f2c", false, .saved, ending, .saved⟩

def freshStart (ending : RecordEnd) : Controller × ActResult :=
  fresh.act epochRuntime "car" "spa" "start" startBody (startEnv ending)

theorem act_atomic_freshStart :
    (((∀ payload, (freshStart (.finished .committed true)).2 ≠ .returned payload) →
        (freshStart (.finished .committed true)).1.state = fresh.state ∧
          load epochRuntime (freshStart (.finished .committed true)).1.file =
            load epochRuntime fresh.file) ↔
      ¬ Interrupted epochRuntime "spa" fresh "start" startBody
        (startEnv (.finished .committed true))) :=
  (act_atomic epochRuntime "car" "spa" none ⟨noTables, .empty, false⟩ [] (by simp) fresh rfl "start"
    startBody (startEnv (.finished .committed true)) ⟨by decide, rfl⟩ _ _ rfl).1

/-- The request times out while the start waits for the database: the operator
is told that nothing happened, and the session is active. -/
theorem cancelled_start_kept :
    ¬ ((∀ payload, (freshStart (.cancelled false false)).2 ≠ .returned payload) →
      (freshStart (.cancelled false false)).1.state = fresh.state ∧
        load epochRuntime (freshStart (.cancelled false false)).1.file =
          load epochRuntime fresh.file) := by
  intro claimed
  have ended : (freshStart (.cancelled false false)).2 = .cancelled := rfl
  have unchanged := (claimed fun payload => by rw [ended]; simp).1
  have active : (freshStart (.cancelled false false)).1.state.status = .active := by
    decide +kernel
  rw [unchanged] at active
  exact absurd active (by decide)

end OpenLaps.Session

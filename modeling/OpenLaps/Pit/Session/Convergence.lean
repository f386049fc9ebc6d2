import OpenLaps.Lib.Machine
import OpenLaps.Pit.Session.Database
import OpenLaps.Pit.Session.History

/- When the rows of a session are those of the last snapshot that was recorded,
over every order of records, retries and failures. -/
namespace OpenLaps.Session

open Ingest (Json)

/-- The tables hold exactly the rows of a snapshot for its session. -/
def Shows (vehicleId : String) (tables : Tables) (state : SessionState) : Prop :=
  ∃ row stints, sessionRow vehicleId state = .ok row ∧ stintRows state = .ok stints ∧
    tables.sessions.get? state.sessionId = some row ∧
    ∀ number, tables.stints.get? (state.sessionId, number) =
      (Dict.ofRows Prod.fst Prod.snd stints).get? number

/-- The stint numbers a snapshot writes. -/
def stintNumbers (state : SessionState) : List Int := (snapshotStints state).map Prod.fst

/-- The snapshot has every stint the tables have for its session. -/
def Covers (tables : Tables) (state : SessionState) : Prop :=
  ∀ number, (tables.stints.get? (state.sessionId, number)).isSome →
    number ∈ stintNumbers state

theorem stintRows_numbers (state : SessionState) (stints : List (Int × StintRow))
    (rows : stintRows state = .ok stints) : stints.map Prod.fst = stintNumbers state := by
  have made := Attempt.all_ok rows
  rw [stintNumbers]
  clear rows
  generalize snapshotStints state = entries at made
  induction made with
  | nil => rfl
  | @cons entry stint entries stints here later ih =>
    obtain ⟨number, driver, startMs, endMs⟩ := entry
    cases built : stintRow driver startMs endMs with
    | error error =>
      simp only [built] at here
      cases here
    | ok row =>
      simp only [built] at here
      cases here
      rw [List.map_cons, List.map_cons, ih]

section Upsert

variable (tables : Tables) (sessionId : String) (row : SessionRow) (stints : List (Int × StintRow))

theorem upsert_stints_other (other : String) (number : Int) (different : sessionId ≠ other) :
    (tables.upsert sessionId row stints).stints.get? (other, number) =
      tables.stints.get? (other, number) := by
  rw [Tables.upsert]
  generalize tables.stints = rows
  induction stints generalizing rows with
  | nil => rfl
  | cons stint rest ih =>
    rw [List.foldl_cons, ih, Dict.get?_set, if_neg]
    intro same
    exact different (congrArg Prod.fst same)

theorem upsert_stints (number : Int) :
    (tables.upsert sessionId row stints).stints.get? (sessionId, number) =
      ((Dict.ofRows Prod.fst Prod.snd stints).get? number).or
        (tables.stints.get? (sessionId, number)) := by
  rw [Tables.upsert]
  induction stints using List.reverseRecOn with
  | nil => rfl
  | append_singleton rest stint ih =>
    rw [List.foldl_append, List.foldl_cons, List.foldl_nil, Dict.get?_set, Dict.ofRows_append,
      Dict.get?_set]
    by_cases same : stint.1 = number
    · simp [same]
    · have apart : (sessionId, stint.1) ≠ (sessionId, number) :=
        fun equal => same (congrArg Prod.snd equal)
      rw [if_neg apart, if_neg same]
      exact ih

end Upsert

/-- The tables after a snapshot was committed to them. -/
def Wrote (vehicleId : String) (before : Tables) (state : SessionState) (after : Tables) : Prop :=
  ∃ row stints, sessionRow vehicleId state = .ok row ∧ stintRows state = .ok stints ∧
    after = before.upsert state.sessionId row stints

/-- A write leaves the tables alone or commits the whole snapshot. -/
theorem writeState_cases (vehicleId : String) (before after : Tables) (state : SessionState)
    (outcome : WriteOutcome) (result : WriteResult)
    (taken : writeState vehicleId before state outcome = (after, result)) :
    (after = before ∧ result ≠ .done) ∨
      (Wrote vehicleId before state after ∧
        (outcome = .committed ∧ result = .done ∨
          outcome = .failed true ∧ result = .deferred)) := by
  rw [writeState] at taken
  split at taken
  · cases taken
    exact Or.inl ⟨rfl, by simp⟩
  rename_i row header
  split at taken
  · rename_i stints rows
    cases taken
    exact Or.inr ⟨⟨row, stints, header, rows, rfl⟩, Or.inl ⟨rfl, rfl⟩⟩
  · cases taken
    exact Or.inl ⟨rfl, by simp⟩
  · rename_i stints rows
    cases taken
    exact Or.inr ⟨⟨row, stints, header, rows, rfl⟩, Or.inr ⟨rfl, rfl⟩⟩
  · cases taken
    exact Or.inl ⟨rfl, by simp⟩
  · cases taken
    exact Or.inl ⟨rfl, by simp⟩

/-- Everything `record` can do. -/
theorem record_cases (py : Runtime) (vehicleId : String) (before after : SessionDatabase)
    (data : List (String × Json)) (outcome : WriteOutcome) (persists : Bool) (recorded : Recorded)
    (taken : before.record py vehicleId data outcome persists = (after, recorded)) :
    (after = before ∧ ∃ why, recorded = .raised why) ∨
    ∃ state, fromDict py data = .ok state ∧
      ((state.sessionId = "" ∧ after = before ∧ recorded = .returned true) ∨
        (state.sessionId ≠ "" ∧ ∃ tables, Wrote vehicleId before.tables state tables ∧
          outcome = .committed ∧ recorded = .returned true ∧
          after = ⟨tables, SessionDatabase.settle before.pending state.sessionId persists,
            before.connected⟩) ∨
        (state.sessionId ≠ "" ∧ ∃ tables connected,
          (tables = before.tables ∨
            outcome = .failed true ∧ Wrote vehicleId before.tables state tables) ∧
          (after, recorded) =
            SessionDatabase.queue ⟨tables, before.pending, connected⟩ state persists)) := by
  rw [SessionDatabase.record] at taken
  split at taken
  · cases taken
    exact Or.inl ⟨rfl, _, rfl⟩
  rename_i state read
  split at taken
  · rename_i unnamed
    cases taken
    exact Or.inr ⟨state, read, Or.inl ⟨unnamed, rfl, rfl⟩⟩
  rename_i named
  split at taken
  · rename_i connected
    split at taken
    · rename_i tables written
      cases taken
      rcases writeState_cases _ _ _ _ _ _ written with kept | ⟨wrote, ⟨committed, -⟩ | ⟨-, same⟩⟩
      · exact absurd rfl kept.2
      · exact Or.inr ⟨state, read, Or.inr (Or.inl ⟨named, tables, wrote, committed, rfl, rfl⟩)⟩
      · cases same
    · rename_i tables written
      refine Or.inr ⟨state, read, Or.inr (Or.inr ⟨named, tables, false, ?_, taken.symm⟩)⟩
      rcases writeState_cases _ _ _ _ _ _ written with kept | ⟨wrote, ⟨-, same⟩ | ⟨failed, -⟩⟩
      · exact Or.inl kept.1
      · cases same
      · exact Or.inr ⟨failed, wrote⟩
    · rename_i tables why written
      cases taken
      rcases writeState_cases _ _ _ _ _ _ written with kept | ⟨wrote, ⟨-, same⟩ | ⟨-, same⟩⟩
      · rw [kept.1]
        exact Or.inl ⟨rfl, why, rfl⟩
      · cases same
      · cases same
  · exact Or.inr ⟨state, read, Or.inr (Or.inr ⟨named, before.tables, before.connected, Or.inl rfl,
      taken.symm⟩)⟩

section Wrote

variable {vehicleId : String} {before after : Tables} {state : SessionState}

/-- Once every stint of the session is covered, a write shows the snapshot. -/
theorem Wrote.shows (wrote : Wrote vehicleId before state after) (covers : Covers before state) :
    Shows vehicleId after state := by
  obtain ⟨row, stints, header, rows, same⟩ := wrote
  subst same
  refine ⟨row, stints, header, rows, ?_, ?_⟩
  · rw [Tables.upsert, Dict.get?_set, if_pos rfl]
  · intro number
    rw [upsert_stints]
    cases old : before.stints.get? (state.sessionId, number) with
    | none => rw [Option.or_none]
    | some stint =>
      have listed := covers number (by rw [old]; rfl)
      rw [← stintRows_numbers state stints rows, ← Dict.mem_keys_ofRows Prod.fst Prod.snd,
        ← Dict.contains_iff, Dict.contains] at listed
      obtain ⟨fresh, found⟩ := Option.isSome_iff_exists.mp listed
      rw [found, Option.some_or]

theorem Wrote.covers {other : SessionState} (wrote : Wrote vehicleId before state after)
    (covers : Covers before other) (same : other.sessionId = state.sessionId)
    (included : stintNumbers state ⊆ stintNumbers other) : Covers after other := by
  obtain ⟨row, stints, header, rows, written⟩ := wrote
  subst written
  intro number present
  rw [same, upsert_stints, Option.isSome_or, Bool.or_eq_true] at present
  rcases present with fresh | old
  · apply included
    rw [← stintRows_numbers state stints rows, ← Dict.mem_keys_ofRows Prod.fst Prod.snd,
      ← Dict.contains_iff]
    exact fresh
  · rw [← same] at old
    exact covers number old

/-- Other sessions keep their rows. -/
theorem Wrote.shows_other {other : SessionState} (wrote : Wrote vehicleId before state after)
    (different : other.sessionId ≠ state.sessionId) (shows : Shows vehicleId before other) :
    Shows vehicleId after other := by
  obtain ⟨row, stints, header, rows, written⟩ := wrote
  subst written
  obtain ⟨kept, stints', header', rows', session, numbers⟩ := shows
  refine ⟨kept, stints', header', rows', ?_, ?_⟩
  · rw [Tables.upsert, Dict.get?_set, if_neg different.symm]
    exact session
  · intro number
    rw [upsert_stints_other _ _ _ _ _ _ different.symm]
    exact numbers number

theorem Wrote.covers_other {other : SessionState} (wrote : Wrote vehicleId before state after)
    (different : other.sessionId ≠ state.sessionId) (covers : Covers before other) :
    Covers after other := by
  obtain ⟨row, stints, header, rows, written⟩ := wrote
  subst written
  intro number present
  rw [upsert_stints_other _ _ _ _ _ _ different.symm] at present
  exact covers number present

end Wrote

/-- The database with, for each session, the last snapshot whose `record`
returned normally. -/
structure World where
  database : SessionDatabase
  latest : String → Option SessionState

inductive Event where
  | record (data : List (String × Json)) (outcome : WriteOutcome) (persists : Bool)
  | flushOne (outcome : WriteOutcome) (persists : Bool)
  | connect
  | lose

/-- `latest` after `record` ended. -/
def remember (py : Runtime) (latest : String → Option SessionState)
    (data : List (String × Json)) : Recorded → String → Option SessionState
  | .raised _ => latest
  | .returned _ =>
    match fromDict py data with
    | .error _ => latest
    | .ok state =>
      if state.sessionId = "" then latest
      else Function.update latest state.sessionId (some state)

def World.step (py : Runtime) (vehicleId : String) (world : World) : Event → World
  | .record data outcome persists =>
    let (database, recorded) := world.database.record py vehicleId data outcome persists
    ⟨database, remember py world.latest data recorded⟩
  | .flushOne outcome persists =>
    { world with database := world.database.flushOne vehicleId outcome persists }
  | .connect => { world with database := { world.database with connected := true } }
  | .lose => { world with database := { world.database with connected := false } }

/-- Where nothing is queued for a session, its rows are those of the latest
snapshot. -/
def Converged (vehicleId : String) (world : World) : Prop :=
  ∀ sessionId state, world.latest sessionId = some state →
    world.database.pending.get? sessionId = none → Shows vehicleId world.database.tables state

/-- What the queue and the tables hold for one session, given the latest snapshot
recorded for it. -/
structure Tracked (vehicleId : String) (tables : Tables) (queued last : Option SessionState)
    (sessionId : String) : Prop where
  keyed : ∀ state, queued = some state → state.sessionId = sessionId
  own : ∀ state, last = some state → state.sessionId = sessionId
  waiting : ∀ state recorded, queued = some state → last = some recorded →
    recorded = state ∧ Covers tables state
  shown : ∀ recorded, last = some recorded → queued = none → Shows vehicleId tables recorded

def AllTracked (vehicleId : String) (world : World) : Prop :=
  ∀ sessionId, Tracked vehicleId world.database.tables (world.database.pending.get? sessionId)
    (world.latest sessionId) sessionId

theorem AllTracked.converged {vehicleId : String} {world : World}
    (tracked : AllTracked vehicleId world) : Converged vehicleId world :=
  fun sessionId state recorded absent => (tracked sessionId).shown state recorded absent

/-- A commit that `record` does not report is undone by the queued snapshot, or
is the latest one again. -/
def Harmless (queued : Option SessionState) (last state : SessionState) : Prop :=
  match queued with
  | none => last = state
  | some waiting => stintNumbers state ⊆ stintNumbers waiting

/-- What is lost without it: a record must not drop stints the tables have, must
not leave another snapshot queued behind its commit, and must not raise after
its commit landed while the latest snapshot is another one. -/
structure SafeRecord (world : World) (state : SessionState) (outcome : WriteOutcome)
    (persists : Bool) : Prop where
  covers : Covers world.database.tables state
  retained : outcome = .committed → persists = false → ∀ queued,
    world.database.pending.get? state.sessionId = some queued → queued = state
  landed : outcome = .failed true → persists = false → ∀ last,
    world.latest state.sessionId = some last →
      Harmless (world.database.pending.get? state.sessionId) last state

def Safe (py : Runtime) (world : World) : Event → Prop
  | .record data outcome persists =>
    ∀ state, fromDict py data = .ok state → SafeRecord world state outcome persists
  | _ => True

section Settle

variable (pending : Dict String SessionState) (sessionId other : String) (persists : Bool)

theorem get?_settle :
    (SessionDatabase.settle pending sessionId persists).get? other =
      if persists ∧ sessionId = other then none else pending.get? other := by
  rw [SessionDatabase.settle]
  cases found : pending.get? sessionId with
  | none =>
    by_cases same : sessionId = other
    · subst same
      cases persists <;> simp [found]
    · simp [same]
  | some retained =>
    cases persists with
    | true => simp [Dict.get?_erase]
    | false =>
      simp only [Bool.false_eq_true, if_false, false_and, Dict.get?_set, Dict.get?_erase]
      by_cases same : sessionId = other
      · subst same
        simp [found]
      · simp [same]

end Settle

section Tracked

variable {vehicleId sessionId : String} {before after : Tables} {state : SessionState}
  {queued last : Option SessionState}

/-- Writing one session leaves the others as they are. -/
theorem Tracked.frame (tracked : Tracked vehicleId before queued last sessionId)
    (wrote : Wrote vehicleId before state after) (different : sessionId ≠ state.sessionId) :
    Tracked vehicleId after queued last sessionId := by
  refine ⟨tracked.keyed, tracked.own, ?_, ?_⟩
  · intro waiting recorded present known
    obtain ⟨same, covers⟩ := tracked.waiting waiting recorded present known
    refine ⟨same, wrote.covers_other ?_ covers⟩
    rw [tracked.keyed waiting present]
    exact different
  · intro recorded known absent
    apply wrote.shows_other _ (tracked.shown recorded known absent)
    rw [tracked.own recorded known]
    exact different

/-- The snapshot is queued, whether or not a first attempt landed. -/
theorem tracked_queued (covers : Covers after state) :
    Tracked vehicleId after (some state) (some state) state.sessionId := by
  refine ⟨?_, ?_, ?_, ?_⟩
  · rintro waiting ⟨⟩
    rfl
  · rintro recorded ⟨⟩
    rfl
  · rintro waiting recorded ⟨⟩ ⟨⟩
    exact ⟨rfl, covers⟩
  · intro recorded known absent
    cases absent

/-- The snapshot was committed; what stays queued is the same snapshot. -/
theorem tracked_committed (wrote : Wrote vehicleId before state after)
    (covers : Covers before state) (same : ∀ waiting, queued = some waiting → waiting = state) :
    Tracked vehicleId after queued (some state) state.sessionId := by
  refine ⟨?_, ?_, ?_, ?_⟩
  · intro waiting present
    rw [same waiting present]
  · rintro recorded ⟨⟩
    rfl
  · rintro waiting recorded present ⟨⟩
    rw [same waiting present]
    exact ⟨rfl, wrote.covers covers rfl (List.Subset.refl _)⟩
  · rintro recorded ⟨⟩ absent
    exact wrote.shows covers

/-- A queued snapshot was committed by a retry. -/
theorem Tracked.flushed (tracked : Tracked vehicleId before (some state) last sessionId)
    (wrote : Wrote vehicleId before state after) :
    Tracked vehicleId after none last sessionId := by
  refine ⟨?_, tracked.own, ?_, ?_⟩
  · intro waiting present
    cases present
  · intro waiting recorded present
    cases present
  intro recorded known _
  obtain ⟨same, covers⟩ := tracked.waiting state recorded rfl known
  rw [same]
  exact wrote.shows covers

/-- A queued snapshot reached the tables and is still queued. -/
theorem Tracked.replayed (tracked : Tracked vehicleId before (some state) last sessionId)
    (wrote : Wrote vehicleId before state after) :
    Tracked vehicleId after (some state) last sessionId := by
  refine ⟨tracked.keyed, tracked.own, ?_, ?_⟩
  · rintro waiting recorded ⟨⟩ known
    obtain ⟨same, covers⟩ := tracked.waiting state recorded rfl known
    exact ⟨same, wrote.covers covers rfl (List.Subset.refl _)⟩
  · intro recorded known absent
    cases absent

/-- A record raised although its commit landed. -/
theorem Tracked.landed (tracked : Tracked vehicleId before queued last state.sessionId)
    (wrote : Wrote vehicleId before state after) (covers : Covers before state)
    (harmless : ∀ recorded, last = some recorded → Harmless queued recorded state) :
    Tracked vehicleId after queued last state.sessionId := by
  refine ⟨tracked.keyed, tracked.own, ?_, ?_⟩
  · intro waiting recorded present known
    obtain ⟨same, covered⟩ := tracked.waiting waiting recorded present known
    have included := harmless recorded known
    rw [present, Harmless] at included
    exact ⟨same, wrote.covers covered (tracked.keyed waiting present) included⟩
  · intro recorded known absent
    have same := harmless recorded known
    rw [absent, Harmless] at same
    rw [same]
    exact wrote.shows covers

end Tracked

section Steps

variable {py : Runtime} {vehicleId : String} {world : World}

/-- Every session but the one written keeps what it has. -/
theorem AllTracked.other {tables : Tables} {state : SessionState}
    (tracked : AllTracked vehicleId world)
    (frame : tables = world.database.tables ∨ Wrote vehicleId world.database.tables state tables)
    (sessionId : String) (different : sessionId ≠ state.sessionId) :
    Tracked vehicleId tables (world.database.pending.get? sessionId) (world.latest sessionId)
      sessionId := by
  rcases frame with same | wrote
  · rw [same]
    exact tracked sessionId
  · exact (tracked sessionId).frame wrote different

theorem remember_returned (latest : String → Option SessionState) (data : List (String × Json))
    (state : SessionState) (read : fromDict py data = .ok state) (named : state.sessionId ≠ "")
    (landed : Bool) : remember py latest data (.returned landed) =
      Function.update latest state.sessionId (some state) := by
  simp only [remember, read, if_neg named]

theorem queue_tracked (state : SessionState) (tables : Tables) (connected persists : Bool)
    (tracked : AllTracked vehicleId world)
    (frame : tables = world.database.tables ∨ Wrote vehicleId world.database.tables state tables)
    (covers : Covers world.database.tables state)
    (harmless : persists = false → Tracked vehicleId tables
      (world.database.pending.get? state.sessionId) (world.latest state.sessionId)
      state.sessionId)
    (data : List (String × Json)) (read : fromDict py data = .ok state)
    (named : state.sessionId ≠ "") (after : SessionDatabase) (recorded : Recorded)
    (taken : (after, recorded) =
      SessionDatabase.queue ⟨tables, world.database.pending, connected⟩ state persists) :
    AllTracked vehicleId ⟨after, remember py world.latest data recorded⟩ := by
  intro sessionId
  cases persists with
  | true =>
    cases taken
    rw [remember_returned world.latest data state read named]
    simp only [Dict.get?_set]
    by_cases same : sessionId = state.sessionId
    · subst same
      rw [if_pos rfl, Function.update_self]
      apply tracked_queued
      rcases frame with unchanged | wrote
      · rw [unchanged]
        exact covers
      · exact wrote.covers covers rfl (List.Subset.refl _)
    · rw [if_neg (Ne.symm same), Function.update_of_ne same]
      exact tracked.other frame sessionId same
  | false =>
    cases taken
    by_cases same : sessionId = state.sessionId
    · subst same
      exact harmless rfl
    · exact tracked.other frame sessionId same

theorem record_tracked (data : List (String × Json)) (outcome : WriteOutcome) (persists : Bool)
    (tracked : AllTracked vehicleId world)
    (safe : ∀ state, fromDict py data = .ok state → SafeRecord world state outcome persists) :
    AllTracked vehicleId (world.step py vehicleId (.record data outcome persists)) := by
  rw [World.step]
  cases taken : world.database.record py vehicleId data outcome persists with
  | mk after recorded =>
  show AllTracked vehicleId ⟨after, remember py world.latest data recorded⟩
  rcases record_cases _ _ _ _ _ _ _ _ taken with ⟨kept, why, raised⟩ | ⟨state, read, cases⟩
  · rw [kept, raised]
    exact tracked
  have condition := safe state read
  rcases cases with ⟨unnamed, kept, returned⟩ |
    ⟨named, tables, wrote, committed, returned, settled⟩ | ⟨named, tables, connected, frame, queued⟩
  · rw [kept, returned]
    simpa only [remember, read, if_pos unnamed] using tracked
  · rw [settled, returned]
    intro sessionId
    rw [remember_returned world.latest data state read named]
    simp only [get?_settle]
    by_cases same : sessionId = state.sessionId
    · subst same
      rw [Function.update_self]
      apply tracked_committed wrote condition.covers
      intro waiting present
      cases persists with
      | true => simp at present
      | false => exact condition.retained committed rfl waiting (by simpa using present)
    · rw [if_neg (fun both => same both.2.symm), Function.update_of_ne same]
      exact tracked.other (Or.inr wrote) sessionId same
  · have written : tables = world.database.tables ∨
        Wrote vehicleId world.database.tables state tables :=
      frame.imp id And.right
    apply queue_tracked state tables connected persists tracked written condition.covers _ data
      read named after recorded queued
    intro lost
    rcases frame with unchanged | ⟨failed, wrote⟩
    · rw [unchanged]
      exact tracked state.sessionId
    · exact (tracked state.sessionId).landed wrote condition.covers (condition.landed failed lost)

theorem flushOne_tracked (outcome : WriteOutcome) (persists : Bool)
    (tracked : AllTracked vehicleId world) :
    AllTracked vehicleId (world.step py vehicleId (.flushOne outcome persists)) := by
  rw [World.step, SessionDatabase.flushOne]
  split
  · exact tracked
  rename_i sessionId state rest first
  have present : world.database.pending.get? sessionId = some state := by
    rw [Dict.get?_eq_some, first]
    exact List.mem_cons_self
  have own := (tracked sessionId).keyed state present
  have entry := tracked sessionId
  rw [present] at entry
  split
  swap
  · exact tracked
  split
  · rename_i tables written
    rcases writeState_cases _ _ _ _ _ _ written with kept | ⟨wrote, -⟩
    · exact absurd rfl kept.2
    intro other
    simp only [get?_settle]
    by_cases same : other = sessionId
    · subst same
      cases persists with
      | true => simpa using entry.flushed wrote
      | false => simpa [present] using entry.replayed wrote
    · rw [if_neg (fun both => same both.2.symm)]
      exact (tracked other).frame wrote (own ▸ same)
  · rename_i tables written
    rcases writeState_cases _ _ _ _ _ _ written with kept | ⟨wrote, -⟩
    · rw [kept.1]
      exact tracked
    intro other
    by_cases same : other = sessionId
    · subst same
      simpa [present] using entry.replayed wrote
    · exact (tracked other).frame wrote (own ▸ same)
  · rename_i tables why written
    rcases writeState_cases _ _ _ _ _ _ written with kept | ⟨wrote, ⟨-, same⟩ | ⟨-, same⟩⟩
    · rw [kept.1]
      exact tracked
    · cases same
    · cases same

theorem step_tracked (event : Event) (tracked : AllTracked vehicleId world)
    (safe : Safe py world event) : AllTracked vehicleId (world.step py vehicleId event) := by
  cases event with
  | record data outcome persists => exact record_tracked data outcome persists tracked safe
  | flushOne outcome persists => exact flushOne_tracked outcome persists tracked
  | connect => exact tracked
  | lose => exact tracked

end Steps

/-- The service starts with whatever the tables and the queue file hold. -/
def World.start (tables : Tables) (pending : Dict String SessionState) (connected : Bool) : World :=
  ⟨⟨tables, pending, connected⟩, fun _ => none⟩

theorem loadPending_keyed (py : Runtime) (items : List Json) (pending : Dict String SessionState)
    (loaded : loadPending py items = .ok pending) (sessionId : String) (state : SessionState)
    (present : pending.get? sessionId = some state) : state.sessionId = sessionId := by
  rw [loadPending] at loaded
  cases read : Attempt.all (queuedSnapshot py) items with
  | error error =>
    rw [read] at loaded
    cases loaded
  | ok states =>
    rw [read] at loaded
    cases loaded
    rw [Dict.get?_ofRows, Option.map_id, id] at present
    simpa using List.find?_some present

theorem start_tracked (py : Runtime) (vehicleId : String) (tables : Tables) (items : List Json)
    (pending : Dict String SessionState) (connected : Bool)
    (loaded : loadPending py items = .ok pending) :
    AllTracked vehicleId (World.start tables pending connected) := by
  intro sessionId
  refine ⟨?_, ?_, ?_, ?_⟩
  · intro state present
    exact loadPending_keyed py items pending loaded sessionId state present
  · intro state known
    cases known
  · intro state recorded present known
    cases known
  · intro recorded known
    cases known

/-- In every run whose records are safe, whatever the order of retries, outages
and failures, the tables have converged in every state reached. -/
theorem session_database_converges (py : Runtime) (vehicleId : String) (tables : Tables)
    (items : List Json) (pending : Dict String SessionState) (connected : Bool)
    (loaded : loadPending py items = .ok pending) (events : List Event)
    (safe : Machine.Along (fun world event => some (World.step py vehicleId world event))
      (Safe py) (World.start tables pending connected) events) :
    Machine.Always (fun world event => some (World.step py vehicleId world event))
      (Converged vehicleId) (World.start tables pending connected) events := by
  apply Machine.always_of_along (AllTracked vehicleId) (fun _ tracked => tracked.converged) _
    events _ (start_tracked py vehicleId tables items pending connected loaded) safe
  intro world event next tracked allowed taken
  cases taken
  exact step_tracked event tracked allowed

/-- The session of `shortRace` just started. -/
def raceStarted : SessionState :=
  Call.run epochRuntime {} [.startSession "5f2c" "race" "ada" "spa" "" 1000]

/-- The same session ended. -/
def raceEnded : SessionState :=
  Call.run epochRuntime {} [.startSession "5f2c" "race" "ada" "spa" "" 1000, .endSession 20000]

def noTables : Tables := ⟨.empty, .empty⟩

theorem session_database_converges_raceEnded :
    Machine.Always (fun world event => some (World.step epochRuntime "car" world event))
      (Converged "car") (World.start noTables .empty true)
      [.record (raceEnded.toDict 0) .committed true] := by
  apply session_database_converges epochRuntime "car" noTables [] .empty true rfl
  intro next taken
  refine ⟨?_, trivial⟩
  intro state read
  refine ⟨?_, ?_, ?_⟩
  · intro number present
    cases present
  · intro committed lost
    cases lost
  · intro failed
    cases failed

/-- The start was queued during an outage; the end is committed while the queue
file cannot be written, so the start stays queued and is replayed over it. -/
def replayedStart : List Event :=
  [.record (raceStarted.toDict 0) .committed true, .connect,
    .record (raceEnded.toDict 0) .committed false, .flushOne .committed true]

def reopened : World :=
  replayedStart.foldl (World.step epochRuntime "car") (World.start noTables .empty false)

/-- The ended session is active again, with nothing queued for it. -/
theorem ended_session_reopened :
    ¬ Machine.Always (fun world event => some (World.step epochRuntime "car" world event))
      (Converged "car") (World.start noTables .empty false) replayedStart := by
  intro always
  have final : Converged "car" reopened :=
    ((((always.2 _ rfl).2 _ rfl).2 _ rfl).2 _ rfl)
  obtain ⟨row, stints, header, rows, session, numbers⟩ :=
    final raceEnded.sessionId raceEnded (by decide +kernel) (by decide +kernel)
  have ended : (sessionRow "car" raceEnded).toOption.map SessionRow.status = some .ended := by
    decide +kernel
  have active : (reopened.database.tables.sessions.get? raceEnded.sessionId).map
      SessionRow.status = some .active := by
    decide +kernel
  rw [header] at ended
  rw [session] at active
  exact absurd (ended.symm.trans active) (by decide)

end OpenLaps.Session

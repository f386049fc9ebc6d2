import OpenLaps.Pit.Ingest.View

/- What a flush does to the cursor machine, for each pair of outcomes. -/
namespace OpenLaps.Ingest

variable {site : Site} {system next : System} {writer : IngestWriter} {after : After}
  {outcome : FlushOutcome}

theorem Grounded.discard (grounded : Grounded site writer) {cursor : Nat} {health : HealthState} :
    Grounded site (IngestWriter.discard { writer with cursor := cursor, health := health }) :=
  ⟨grounded.learned, rfl, grounded.held⟩

theorem commits_flush (up : system.process = .up writer (.flushing after)) :
    system.commits (.flush outcome) = (writer.pendingWork && outcome.commits) := by
  unfold System.commits
  rw [up]

section Outcomes

variable {db : Database} {retry : WriteOutcome} {landed : List Nat}

theorem flush_idle (none : writer.pendingWork = false) :
    writer.flush db outcome = (writer, db, .idle) := by
  rw [IngestWriter.flush, none, if_pos Bool.false_ne_true]

theorem flush_committed (work : writer.pendingWork = true) :
    writer.flush db ⟨.committed, retry, landed⟩ = (writer.flushed true,
      db.commit (writer.transaction writer.lapRows writer.pitUpdates), .written) :=
  if_neg (not_not_intro work)

theorem flush_rolledBack (work : writer.pendingWork = true) :
    writer.flush db ⟨.rolledBack, retry, landed⟩ = (writer.operationalError, db, .kept) :=
  if_neg (not_not_intro work)

theorem flush_lost (work : writer.pendingWork = true) :
    writer.flush db ⟨.lost, retry, landed⟩ = (writer.operationalError,
      db.commit (writer.transaction writer.lapRows writer.pitUpdates), .kept) :=
  if_neg (not_not_intro work)

theorem flush_refused (work : writer.pendingWork = true) :
    writer.flush db ⟨.refused, retry, landed⟩ = writer.retryFlush db retry :=
  if_neg (not_not_intro work)

end Outcomes

/-- A flush that ends in the given memory, with the given effect. -/
theorem refined_resume (up : system.process = .up writer (.flushing after))
    {flushed : IngestWriter} (process : next.process = System.resume flushed after)
    (grounded : Grounded site flushed) (action : Cursor.Action SampleRow)
    (enabled : Cursor.Enabled (demand site) (system.upView writer) action)
    (effect : next.upView flushed = (system.upView writer).apply action)
    (committing : action.commits = (writer.pendingWork && outcome.commits))
    (skipping : action.skipped = none) : Refined site system (.flush outcome) next := by
  have running : ∃ phase : Phase, next.process = .up flushed phase ∧ phase.messages = [] := by
    rw [process]
    cases after <;> exact ⟨_, rfl, rfl⟩
  obtain ⟨phase, place, empty⟩ := running
  refine ⟨valid_up place grounded fun message member => ?_, action, ?_, ?_, ?_, ?_⟩
  · rw [empty] at member
    cases member
  · rw [System.view_up up]
    exact enabled
  · rw [System.view_up place, System.view_up up]
    exact effect
  · rw [commits_flush up]
    exact committing
  · unfold System.skips
    rw [up]
    exact skipping

/-- The database after a commit of the buffer. -/
theorem upView_commit (system : System) (writer : IngestWriter) (laps : List LapRow)
    (pitUpdates : List PitStatusUpdate) :
    { system with db := system.db.commit (writer.transaction laps pitUpdates) }.upView writer =
      (system.upView writer).write := by
  simp only [System.upView, Database.commit, IngestWriter.transaction, upsertCursor_eq,
    Cursor.State.write, List.map_append, List.map_cons, List.map_nil]

theorem apply_commit (system : System) (writer : IngestWriter) (laps : List LapRow)
    (pitUpdates : List PitStatusUpdate) (landed : List Nat) :
    (system.upView writer).apply (.commit landed) =
      ({ system with
        db := system.db.commit (writer.transaction laps pitUpdates) }.upView writer).settle
        landed := by
  rw [upView_commit]
  rfl

theorem apply_lose (system : System) (writer : IngestWriter) (laps : List LapRow)
    (pitUpdates : List PitStatusUpdate) :
    (system.upView writer).apply .lose =
      { { system with
        db := system.db.commit (writer.transaction laps pitUpdates) }.upView writer with
        doubt := !writer.rows.isEmpty } := by
  rw [upView_commit]
  rfl

/-- The second attempt, after a refusal. -/
theorem refined_retry (up : system.process = .up writer (.flushing after))
    (grounded : Grounded site writer) (work : writer.pendingWork = true)
    (refused : outcome.write = .refused) :
    Refined site system (.flush outcome) (system.flush writer after outcome) := by
  obtain ⟨write, retry, landed⟩ := outcome
  cases refused
  rw [System.flush, flush_refused work]
  cases retry with
  | committed =>
    refine refined_resume up rfl grounded.discard (.commit landed) trivial ?_
      (by rw [work]; rfl) rfl
    rw [apply_commit system writer [] []]
    rfl
  | rolledBack =>
    exact refined_resume up rfl ⟨grounded.learned, grounded.buffered, grounded.held⟩ .stay trivial
      rfl (by rw [work]; rfl) rfl
  | lost =>
    refine refined_resume up rfl ⟨grounded.learned, grounded.buffered, grounded.held⟩ .lose
      trivial ?_ (by rw [work]; rfl) rfl
    rw [apply_lose system writer [] []]
    rfl
  | refused =>
    exact refined_resume up rfl grounded.discard (.drop landed) trivial rfl (by rw [work]; rfl) rfl

theorem refined_flush (up : system.process = .up writer (.flushing after))
    (grounded : Grounded site writer) :
    Refined site system (.flush outcome) (system.flush writer after outcome) := by
  cases work : writer.pendingWork with
  | false =>
    rw [System.flush, flush_idle work]
    exact refined_resume up rfl grounded .stay trivial rfl (by rw [work]; rfl) rfl
  | true =>
    obtain ⟨write, retry, landed⟩ := outcome
    cases write with
    | committed =>
      rw [System.flush, flush_committed work]
      refine refined_resume up rfl grounded.discard (.commit landed) trivial ?_
        (by rw [work]; rfl) rfl
      rw [apply_commit system writer writer.lapRows writer.pitUpdates]
      rfl
    | rolledBack =>
      rw [System.flush, flush_rolledBack work]
      exact refined_resume up rfl ⟨grounded.learned, grounded.buffered, grounded.held⟩ .stay
        trivial rfl (by rw [work]; rfl) rfl
    | lost =>
      rw [System.flush, flush_lost work]
      refine refined_resume up rfl ⟨grounded.learned, grounded.buffered, grounded.held⟩ .lose
        trivial ?_ (by rw [work]; rfl) rfl
      rw [apply_lose system writer writer.lapRows writer.pitUpdates]
      rfl
    | refused => exact refined_retry up grounded work rfl

end OpenLaps.Ingest

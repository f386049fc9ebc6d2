import OpenLaps.Lib.Attempt
import OpenLaps.Tools.FastPath
import OpenLaps.Tools.LegacyImport

/- The cursor of a legacy import is a line boundary, and the table holds the rows of
exactly the lines before it, whatever runs were killed on the way. -/
namespace OpenLaps.LegacyImport
open Ingest

theorem readLines_ne_nil {content line : Bytes} (member : line ∈ readLines content) :
    line ≠ [] := by
  induction content generalizing line with
  | nil => simp [readLines] at member
  | cons byte rest ih =>
    rw [readLines] at member
    split at member
    · simp only [List.mem_cons] at member
      cases member with
      | inl first => simp [first]
      | inr later => exact ih later
    · cases lines : readLines rest with
      | nil => simp_all
      | cons first lines =>
        simp only [lines, List.mem_cons] at member
        cases member with
        | inl front => simp [front]
        | inr later => exact ih (by simp [lines, later])

theorem readLines_tail {content line : Bytes} {rest : List Bytes}
    (lines : readLines content = line :: rest) :
    readLines (content.drop line.length) = rest := by
  induction content generalizing line rest with
  | nil => simp [readLines] at lines
  | cons byte tail ih =>
    rw [readLines] at lines
    split at lines
    · rw [List.cons.injEq] at lines
      simp [← lines.1, ← lines.2]
    · cases below : readLines tail with
      | nil =>
        simp only [below, List.cons.injEq] at lines
        simp [← lines.1, ← lines.2, below]
      | cons first others =>
        simp only [below, List.cons.injEq] at lines
        simpa [← lines.1, ← lines.2] using ih below

/-- Reading on from the end of a line gives the lines after it. -/
theorem readLines_drop {content : Bytes} {before after : List Bytes}
    (lines : readLines content = before ++ after) :
    readLines (content.drop before.flatten.length) = after := by
  induction before generalizing content with
  | nil => simpa using lines
  | cons line before ih =>
    rw [List.cons_append] at lines
    have rest := ih (readLines_tail lines)
    rwa [List.drop_drop, ← List.length_append, ← List.flatten_cons] at rest

/-- The database holds the rows of the lines `before` the cursor and of no other line. -/
structure Synced (job : Job) (base : List SampleRow) (db : Database) (before after : List Bytes) :
    Prop where
  lines : readLines job.content = before ++ after
  cursor : db.cursor = before.flatten.length
  samples : db.samples = base ++ before.flatMap (lineRows job)

/-- A run that has read the lines `pending` since its last flush. -/
structure Reads (job : Job) (progress : Progress) (before pending : List Bytes) : Prop where
  rows : progress.rows = pending.flatMap (lineRows job)
  lastOffset : progress.lastOffset = (before ++ pending).flatten.length

variable {job : Job} {base : List SampleRow} {db : Database} {progress next : Progress}
  {before pending rest after : List Bytes} {line : Bytes} {resume checked : Bool}
  {cursor offset : Nat}

theorem Synced.commit (synced : Synced job base db before (pending ++ rest))
    (reads : Reads job progress before pending) :
    Synced job base (db.commit progress.flush) (before ++ pending) rest where
  lines := by rw [synced.lines, List.append_assoc]
  cursor := by
    have longer : before.flatten.length ≤ (before ++ pending).flatten.length := by simp
    rw [Database.commit, upsertCursor_eq, synced.cursor, Progress.flush, reads.lastOffset,
      Nat.max_eq_right longer]
  samples := by
    rw [Database.commit, synced.samples, Progress.flush, reads.rows, List.flatMap_append,
      List.append_assoc]

theorem add_rows {point : LineProtocol.LinePoint} (parsed : parseLine job line = some point)
    (added : progress.add job point = .ok next) :
    next.rows = progress.rows ++ lineRows job line ∧ next.lastOffset = progress.lastOffset := by
  unfold Progress.add at added
  by_cases bounds : inBounds job point = true
  · by_cases lap : point.measurement = "lap".toList
    · simp only [bounds, Bool.not_true, Bool.false_eq_true, if_false, lap, if_true] at added
      cases converted : convertLapPoint job point with
      | error raised => simp [converted, bind, Except.bind] at added
      | ok laps =>
        simp only [converted, bind, Except.bind, pure, Except.pure, Except.ok.injEq] at added
        simp [← added, lineRows, parsed, lap]
    · simp only [bounds, Bool.not_true, Bool.false_eq_true, if_false, lap] at added
      cases rows : pointRows job point with
      | error raised => simp [rows, bind, Except.bind] at added
      | ok made =>
        simp only [rows, bind, Except.bind, pure, Except.pure, Except.ok.injEq] at added
        have listed : lineRows job line = made := by
          simp only [lineRows, parsed, bounds, lap, rows, ne_eq, not_false_eq_true, decide_true,
            Bool.and_true, if_true]
        simp [← added, listed]
  · have same : progress = next := by simpa [bounds] using added
    simp [same, lineRows, parsed, bounds]

/-- A line beyond the cursor is counted, and its point added if it parses. -/
theorem readLine_cases (fresh : resume = true ∨ cursor < offset)
    (read : progress.readLine job resume cursor offset line = .ok (next, checked)) :
    ∃ counted : Progress, counted = { progress with
        linesSinceFlush := progress.linesSinceFlush + 1, lastOffset := offset } ∧
      (parseLine job line = none ∧ next = counted ∨
        ∃ point, parseLine job line = some point ∧ counted.add job point = .ok next) := by
  have beyond : (!resume && decide (offset ≤ cursor)) = false := by
    cases fresh with
    | inl seeks => simp [seeks]
    | inr later => simp [later]
  simp only [Progress.readLine, beyond, Bool.false_eq_true, if_false] at read
  refine ⟨_, rfl, ?_⟩
  split at read
  · rename_i malformed
    cases read
    exact .inl ⟨malformed, rfl⟩
  · rename_i point parsed
    obtain ⟨made, added, result⟩ := Attempt.bind_ok.mp read
    cases result
    exact .inr ⟨point, parsed, added⟩

/-- A line beyond the cursor leaves its rows, or none if it is malformed or out of bounds. -/
theorem readLine_rows (fresh : resume = true ∨ cursor < offset)
    (read : progress.readLine job resume cursor offset line = .ok (next, checked)) :
    next.rows = progress.rows ++ lineRows job line ∧ next.lastOffset = offset := by
  obtain ⟨counted, known, outcome⟩ := readLine_cases fresh read
  rcases outcome with ⟨malformed, same⟩ | ⟨point, parsed, added⟩
  · simp [same, known, lineRows, malformed]
  · have made := add_rows parsed added
    rw [known] at made
    exact made

theorem Reads.readLine (reads : Reads job progress before pending)
    (fresh : resume = true ∨ cursor < offset)
    (position : offset = (before ++ pending).flatten.length + line.length)
    (read : progress.readLine job resume cursor offset line = .ok (next, checked)) :
    Reads job next before (pending ++ [line]) := by
  obtain ⟨rows, stamp⟩ := readLine_rows fresh read
  constructor
  · rw [rows, reads.rows]
    simp
  · rw [stamp, position]
    simp [Nat.add_assoc]

/-! ### Runs -/

/-- What a state keeps of the lines before and after the cursor, and a run of the lines that it
has read since its last flush. -/
structure Carries {σ : Type} (job : Job) (commit : σ → Flush → σ)
    (holds : σ → List Bytes → List Bytes → Prop) (pends : Progress → List Bytes → List Bytes → Prop) :
    Prop where
  lines : ∀ state before after, holds state before after → readLines job.content = before ++ after
  start : ∀ before count,
    pends { linesSinceFlush := count, lastOffset := before.flatten.length } before []
  read : ∀ progress next before pending line resume checked cursor offset,
    pends progress before pending → (resume = true ∨ cursor < offset) →
      offset = (before ++ pending).flatten.length + line.length →
        progress.readLine job resume cursor offset line = .ok (next, checked) →
          pends next before (pending ++ [line])
  commits : ∀ state progress before pending rest, holds state before (pending ++ rest) →
    pends progress before pending → holds (commit state progress.flush) (before ++ pending) rest

section Carried

variable {σ : Type} {commit : σ → Flush → σ} {holds : σ → List Bytes → List Bytes → Prop}
  {pends : Progress → List Bytes → List Bytes → Prop} {state : σ}

/-- Wherever a run is killed, the state is at a line boundary; at its end it is at the end of
the file. -/
def Arrives (commit : σ → Flush → σ) (holds : σ → List Bytes → List Bytes → Prop) (state : σ)
    (lines : List Bytes) (run : List Flush × Bool) : Prop :=
  (∀ committed, ∃ before after, holds ((run.1.take committed).foldl commit state) before after) ∧
  (run.2 = true → holds (run.1.foldl commit state) lines [])

theorem Carries.importLines (carries : Carries job commit holds pends) (batchRows : Nat)
    {position : Nat} (held : holds state before (pending ++ rest))
    (pending' : pends progress before pending)
    (start : position = (before ++ pending).flatten.length)
    (fresh : resume = true ∨ cursor ≤ position) :
    Arrives commit holds state (readLines job.content)
      (importLines job resume batchRows cursor position progress rest) := by
  induction rest generalizing before pending state progress position with
  | nil =>
    have done := carries.commits _ _ _ _ _ held pending'
    refine ⟨fun committed => ?_, fun _ => ?_⟩
    · cases committed with
      | zero => exact ⟨before, pending ++ [], by simpa [LegacyImport.importLines] using held⟩
      | succ committed =>
        exact ⟨before ++ pending, [], by simpa [LegacyImport.importLines] using done⟩
    · have whole := carries.lines _ _ _ held
      rw [List.append_nil] at whole
      simpa [LegacyImport.importLines, whole] using done
  | cons line rest ih =>
    have member : line ∈ readLines job.content := by simp [carries.lines _ _ _ held]
    have filled := List.length_pos_iff.2 (readLines_ne_nil member)
    have beyond : resume = true ∨ cursor < position + line.length := by
      cases fresh with
      | inl seeks => exact .inl seeks
      | inr later => exact .inr (by omega)
    cases read : progress.readLine job resume cursor (position + line.length) line with
    | error raised =>
      refine ⟨fun committed => ⟨before, pending ++ line :: rest, ?_⟩, ?_⟩
      · simpa [LegacyImport.importLines, read] using held
      · simp [LegacyImport.importLines, read]
    | ok result =>
      obtain ⟨next, checked⟩ := result
      have onward : holds state before ((pending ++ [line]) ++ rest) := by simpa using held
      have reads := carries.read _ _ _ _ _ _ _ _ _ pending' beyond (by rw [start]) read
      have stop : position + line.length = (before ++ (pending ++ [line])).flatten.length := by
        simp [start, Nat.add_assoc]
      have fresh' : resume = true ∨ cursor ≤ position + line.length :=
        beyond.imp_right Nat.le_of_lt
      by_cases due : (checked && next.due batchRows) = true
      · have flushed : holds (commit state next.flush) (before ++ (pending ++ [line])) ([] ++ rest) :=
          carries.commits _ _ _ _ _ onward reads
        have cleared : pends { lastOffset := position + line.length }
            (before ++ (pending ++ [line])) [] := by
          rw [stop]
          exact carries.start _ 0
        have later := ih flushed cleared (by simpa using stop) fresh'
        refine ⟨fun committed => ?_, fun finished => ?_⟩
        · cases committed with
          | zero => exact ⟨before, _, by simpa [LegacyImport.importLines] using onward⟩
          | succ committed => simpa [LegacyImport.importLines, read, due] using later.1 committed
        · simp only [LegacyImport.importLines, read, due, if_true] at finished ⊢
          exact later.2 finished
      · have later := ih onward reads stop fresh'
        simpa [LegacyImport.importLines, read, due] using later

end Carried

/-- What a run that does not seek passes over before the cursor. -/
theorem importLines_skip (job : Job) (batchRows position : Nat) (progress : Progress)
    (rest : List Bytes) {skipped : List Bytes}
    (within : position + skipped.flatten.length ≤ cursor) :
    ∃ count, importLines job false batchRows cursor position progress (skipped ++ rest) =
      importLines job false batchRows cursor (position + skipped.flatten.length)
        { progress with
          linesSinceFlush := count
          lastOffset := if skipped = [] then progress.lastOffset
            else position + skipped.flatten.length } rest := by
  induction skipped generalizing position progress with
  | nil => exact ⟨progress.linesSinceFlush, by simp⟩
  | cons line skipped ih =>
    rw [List.flatten_cons, List.length_append] at within
    have covered : position + line.length ≤ cursor := by omega
    obtain ⟨count, same⟩ := ih (position + line.length)
      { progress with
        linesSinceFlush := progress.linesSinceFlush + 1
        lastOffset := position + line.length } (by omega)
    refine ⟨count, ?_⟩
    by_cases last : skipped = []
    · simpa [importLines, Progress.readLine, covered, last] using same
    · simpa [importLines, Progress.readLine, covered, Nat.add_assoc, last] using same

/-- Both modes come to the lines after the cursor with nothing pending. -/
theorem Carries.importPath {σ : Type} {commit : σ → Flush → σ}
    {holds : σ → List Bytes → List Bytes → Prop} {pends : Progress → List Bytes → List Bytes → Prop}
    {state : σ} (carries : Carries job commit holds pends) (held : holds state before after)
    (at_ : cursor = before.flatten.length) (resume : Bool) (batchRows : Nat) :
    Arrives commit holds state (readLines job.content)
      (importPath job resume batchRows cursor) := by
  have lines := carries.lines _ _ _ held
  have onward : holds state before ([] ++ after) := held
  by_cases laps : isLapDump job.content = true
  · exact ⟨fun committed => ⟨before, after, by simpa [LegacyImport.importPath, laps] using held⟩,
      by simp [LegacyImport.importPath, laps]⟩
  · cases resume with
    | true =>
      have start : cursor = (before ++ []).flatten.length := by simp [at_]
      have path : LegacyImport.importPath job true batchRows cursor =
          LegacyImport.importLines job true batchRows cursor cursor { lastOffset := cursor } after := by
        have rest := readLines_drop lines
        rw [← at_] at rest
        simp [LegacyImport.importPath, laps, rest]
      rw [path]
      exact carries.importLines batchRows onward (at_ ▸ carries.start before 0) start (.inl rfl)
    | false =>
      have within : 0 + before.flatten.length ≤ cursor := by simp [at_]
      obtain ⟨count, same⟩ := importLines_skip job batchRows 0 { lastOffset := cursor } after within
      have path : LegacyImport.importPath job false batchRows cursor =
          LegacyImport.importLines job false batchRows cursor 0 { lastOffset := cursor }
            (before ++ after) := by
        simp [LegacyImport.importPath, laps, lines]
      have stamp : (if before = [] then cursor else 0 + before.flatten.length) =
          before.flatten.length := by
        split <;> simp [*]
      rw [path, same, stamp]
      exact carries.importLines batchRows onward (carries.start before count) (by simp)
        (.inr (by simp [at_]))

theorem carries_samples (job : Job) (base : List SampleRow) :
    Carries job Database.commit (Synced job base) (Reads job) where
  lines _ _ _ synced := synced.lines
  start before count := ⟨rfl, by simp⟩
  read _ _ _ _ _ _ _ _ _ reads fresh position read := reads.readLine fresh position read
  commits _ _ _ _ _ synced reads := synced.commit reads

/-- Wherever a run is killed, the database is at a line boundary; at the end of the run it
holds the rows of the file. -/
def Lands (job : Job) (base : List SampleRow) (db : Database) (run : List Flush × Bool) : Prop :=
  (∀ committed, ∃ before after,
    Synced job base ((run.1.take committed).foldl Database.commit db) before after) ∧
  (run.2 = true → (run.1.foldl Database.commit db).samples = base ++ fileRows job)

theorem importPath_lands (resume : Bool) (batchRows : Nat)
    (synced : Synced job base db before after) :
    Lands job base db (importPath job resume batchRows db.cursor) := by
  obtain ⟨killed, finished⟩ :=
    (carries_samples job base).importPath synced synced.cursor resume batchRows
  exact ⟨killed, fun done => (finished done).samples⟩

theorem attempts_synced (attempts : List Attempt) (synced : Synced job base db before after) :
    ∃ before' after', Synced job base (attempts.foldl (Database.attempt job) db) before' after' := by
  induction attempts generalizing db before after with
  | nil => exact ⟨before, after, synced⟩
  | cons attempt attempts ih =>
    obtain ⟨before', after', killed⟩ :=
      (importPath_lands attempt.resume attempt.batchRows synced).1 attempt.committed
    exact ih killed

/-- However many runs were killed before it, a run that completes leaves the rows of the
file once, after the rows that were there. -/
theorem imported_exactly_once (job : Job) (base : List SampleRow) (attempts : List Attempt)
    (resume : Bool) (batchRows : Nat) (final : Database)
    (completed : (attempts.foldl (Database.attempt job) ⟨base, 0⟩).complete job resume batchRows =
      some final) : final.samples = base ++ fileRows job := by
  have fresh : Synced job base ⟨base, 0⟩ [] (readLines job.content) := ⟨rfl, rfl, by simp⟩
  obtain ⟨before, after, synced⟩ := attempts_synced attempts fresh
  have landed := importPath_lands resume batchRows synced
  by_cases finished : (importPath job resume batchRows
      (attempts.foldl (Database.attempt job) ⟨base, 0⟩).cursor).2 = true
  · have last := landed.2 finished
    simp only [Database.complete, finished, if_true, Option.some.injEq] at completed
    rwa [completed] at last
  · simp [Database.complete, finished] at completed

/-- Two samples around a malformed line. -/
def rpmDump : Job where
  content := encodeUtf8 "can,signal=RPM value=4000 17\nbad\ncan,signal=RPM value=4100 18\n"
  vehicleId := "car1"
  sinceNs := none
  untilNs := some 100
  mapping := ⟨Dict.empty.set "RPM".toList ⟨"rpm", "1/min", "double", .finite 1, .finite 0⟩,
    Dict.empty, Dict.empty⟩
  literals := LineProtocol.decimal
  upper := id
  channelKey := fun _ => 7

theorem rpmDump_exactly_once :
    let killed := Database.attempt rpmDump ⟨[], 0⟩ ⟨false, 1, 1⟩
    killed.samples.length = 1 ∧ ∃ final, killed.complete rpmDump true 5000 = some final ∧
      final.samples = [⟨0, 7, some (.finite 4000), none⟩, ⟨0, 7, some (.finite 4100), none⟩] := by
  intro killed
  have completes : (killed.complete rpmDump true 5000).isSome := by decide +kernel
  have completed := (Option.some_get completes).symm
  have rows := imported_exactly_once rpmDump [] [⟨false, 1, 1⟩] true 5000 _ completed
  exact ⟨by decide +kernel, _, completed, rows.trans (by decide +kernel)⟩

end OpenLaps.LegacyImport

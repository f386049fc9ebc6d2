import Mathlib.Algebra.Order.Field.Rat
import Mathlib.Data.List.Forall2
import Mathlib.Data.List.Infix
import Mathlib.Tactic.Linarith
import OpenLaps.Lib.Machine

/- The raw capture files (`collectors/rawlog.py`) and the tee of the serial collector that
writes them (`_raw_capture` of `collectors/serial/transport.py`). Each system call may raise,
and the power may be cut between any two of them. -/
namespace OpenLaps.RawLog

abbrev Bytes := List UInt8

inductive Raised where
  | osError
  | valueError
deriving DecidableEq

/-- The system calls of one call that raise. A `write` that does takes some of its bytes. -/
structure Faults where
  create : Bool := false
  openSegment : Bool := false
  write : Option Nat := none
  flush : Bool := false
  fsync : Bool := false
  close : Bool := false
  fsyncDir : Bool := false

/-- A segment file. `durable` of its bytes are on disk, whatever happens; `named` is whether
its directory entry is; after an `fsync` that raised, a later one promises nothing. -/
structure Segment where
  seq : Nat
  data : Bytes := []
  durable : Nat := 0
  named : Bool := false
  suspect : Bool := false
deriving DecidableEq

/-- `_segment`: an open file, one whose `close` raised, or `None`. -/
inductive Handle where
  | opened
  | shut
  | gone
deriving DecidableEq

/-- The writer and the files of its run directory; the last file is `current`. -/
structure RawLogWriter where
  rotateIntervalS : ℚ
  fsyncIntervalS : ℚ
  rotated : List Segment := []
  current : Segment
  handle : Handle := .opened
  segmentSeq : Nat
  closed : Bool := false
  rotateDue : ℚ
  fsyncDue : ℚ

/-- A call that may raise; what it did before that stays. -/
abbrev Call := RawLogWriter → RawLogWriter × Option Raised

def Call.andThen (first second : Call) : Call := fun writer =>
  match first writer with
  | (next, none) => second next
  | (next, some raised) => (next, some raised)

namespace RawLogWriter

variable (faults : Faults)

/-- `flush` and `fsync` of the segment. -/
def sync : Call := fun writer =>
  if writer.handle = .shut then (writer, some .valueError)
  else if faults.flush then (writer, some .osError)
  else if faults.fsync then
    ({ writer with current := { writer.current with suspect := true } }, some .osError)
  else if writer.current.suspect then (writer, none)
  else
    ({ writer with current := { writer.current with durable := writer.current.data.length } }, none)

def closeSegment : Call := fun writer =>
  if faults.close then ({ writer with handle := .shut }, some .osError)
  else ({ writer with handle := .gone }, none)

def fsyncDir : Call := fun writer =>
  if faults.fsyncDir then (writer, some .osError)
  else
    ({ writer with
      rotated := writer.rotated.map fun segment => { segment with named := true }
      current := { writer.current with named := true } }, none)

/-- `opened` is the reading of the clock in it. -/
def openSegment (opened : ℚ) : Call := fun writer =>
  if faults.openSegment then ({ writer with segmentSeq := writer.segmentSeq + 1 }, some .osError)
  else
    ({ writer with
      segmentSeq := writer.segmentSeq + 1
      rotated := writer.rotated ++ [writer.current]
      current := { seq := writer.segmentSeq + 1 }
      handle := .opened
      rotateDue := opened + writer.rotateIntervalS
      fsyncDue := opened + writer.fsyncIntervalS }, none)

def rotate (opened : ℚ) : Call :=
  (((sync faults).andThen (closeSegment faults)).andThen (fsyncDir faults)).andThen
    (openSegment faults opened)

def append (bytes : Bytes) (writer : RawLogWriter) : RawLogWriter :=
  { writer with current := { writer.current with data := writer.current.data ++ bytes } }

/-- `wrote` and `opened` are the readings of the clock after the write and in a rotation. -/
def writeLine (line : Bytes) (wrote opened : ℚ) : Call := fun writer =>
  if writer.closed || writer.handle = .gone then (writer, some .osError)
  else if writer.handle = .shut then (writer, some .valueError)
  else
    match faults.write with
    | some taken => (writer.append (line.take taken), some .osError)
    | none =>
        let written := writer.append line
        if written.rotateDue ≤ wrote then rotate faults opened written
        else if written.fsyncDue ≤ wrote then
          (sync faults).andThen (fun writer =>
            ({ writer with fsyncDue := wrote + writer.fsyncIntervalS }, none)) written
        else (written, none)

/-- An `OSError` in it is logged, a `ValueError` of a file that is closed already is not. -/
def close : Call := fun writer =>
  if writer.closed then (writer, none)
  else if writer.handle = .gone then ({ writer with closed := true }, none)
  else
    let ended := (((sync faults).andThen (closeSegment faults)).andThen (fsyncDir faults))
      { writer with closed := true }
    ({ ended.1 with handle := .gone }, if ended.2 = some .osError then none else ended.2)

/-- The constructor: a run directory with its manifest and a first segment. -/
def create (rotateIntervalS fsyncIntervalS created : ℚ) : Option RawLogWriter :=
  if faults.create || faults.openSegment then none
  else
    some {
      rotateIntervalS := rotateIntervalS
      fsyncIntervalS := fsyncIntervalS
      current := { seq := 1 }
      segmentSeq := 1
      rotateDue := created + rotateIntervalS
      fsyncDue := created + fsyncIntervalS }

def segments (writer : RawLogWriter) : List Segment := writer.rotated ++ [writer.current]

def written (writer : RawLogWriter) : Bytes := (writer.segments.map Segment.data).flatten

end RawLogWriter

/-- A capture run: its writer, the lines whose `write_line` returned with the readings of the
clock in it, and what a `write_line` that raised had written. -/
structure Run where
  writer : RawLogWriter
  lines : List (ℚ × Bytes) := []
  torn : Bytes := []

/-- The readings of the monotonic clock in one call of `_raw_capture`. -/
structure Readings where
  asked : ℚ
  created : ℚ
  wrote : ℚ
  opened : ℚ
  ended : ℚ
  ordered : asked ≤ created ∧ created ≤ wrote ∧ wrote ≤ opened ∧ opened ≤ ended

/-- The tee of a serial collector. `runs` are the run directories left behind, `clock` is the
last reading of the clock, and `escaped` counts the errors it did not catch. -/
structure RawCapture where
  run : Option Run := none
  rawRetryMono : ℚ := 0
  rawLogFailures : Nat := 0
  runs : List Run := []
  clock : ℚ := 0
  escaped : Nat := 0
  received : List Bytes := []

structure Intervals where
  rotateS : ℚ
  fsyncS : ℚ

def rawLogRetryS : ℚ := 60

inductive Event where
  | line (text : Bytes) (readings : Readings) (faults closing : Faults)
  | stop (closing : Faults)

namespace RawCapture

/-- The writer of this line: the one there is, or a fresh run. -/
def ensured (intervals : Intervals) (capture : RawCapture) (created : ℚ) (faults : Faults) :
    Option Run :=
  match capture.run with
  | some run => some run
  | none =>
      (RawLogWriter.create faults intervals.rotateS intervals.fsyncS created).map fun writer =>
        { writer := writer }

/-- The bytes that a call added to the run. -/
def Run.torn (before after : RawLogWriter) : Bytes := after.written.drop before.written.length

/-- `_raw_capture` of a stamped line, and `run`'s `finally`. -/
def rawCapture (intervals : Intervals) (capture : RawCapture) (text : Bytes) (readings : Readings)
    (faults closing : Faults) : RawCapture :=
  let asked := { capture with clock := readings.ended, received := capture.received ++ [text] }
  if readings.asked < capture.rawRetryMono then asked
  else
    match capture.ensured intervals readings.created faults with
    | none =>
        { asked with
          rawLogFailures := capture.rawLogFailures + 1
          rawRetryMono := readings.ended + rawLogRetryS }
    | some run =>
        match run.writer.writeLine faults text readings.wrote readings.opened with
        | (writer, none) =>
            { asked with
              run := some { run with
                writer := writer, lines := run.lines ++ [(readings.wrote, text)] } }
        | (writer, some .osError) =>
            let ended := writer.close closing
            { asked with
              rawLogFailures := capture.rawLogFailures + 1
              rawRetryMono := readings.ended + rawLogRetryS
              run := none
              runs := capture.runs ++
                [{ run with writer := ended.1, torn := Run.torn run.writer writer }]
              escaped := capture.escaped + if ended.2.isSome then 1 else 0 }
        | (writer, some .valueError) =>
            let ended := writer.close closing
            { asked with
              run := none
              runs := capture.runs ++
                [{ run with writer := ended.1, torn := Run.torn run.writer writer }]
              escaped := capture.escaped + 1 }

/-- The collector stops: the run is closed. -/
def stop (capture : RawCapture) (closing : Faults) : RawCapture :=
  match capture.run with
  | none => capture
  | some run =>
      let ended := run.writer.close closing
      { capture with
        run := none
        runs := capture.runs ++ [{ run with writer := ended.1 }]
        escaped := capture.escaped + if ended.2.isSome then 1 else 0 }

/-- The clock does not go back. -/
def step (intervals : Intervals) (capture : RawCapture) : Event → Option RawCapture
  | .line text readings faults closing =>
      if readings.asked < capture.clock then none
      else some (capture.rawCapture intervals text readings faults closing)
  | .stop closing => some (capture.stop closing)

/-- Every run directory there is. -/
def allRuns (capture : RawCapture) : List Run := capture.runs ++ capture.run.toList

end RawCapture

/-- What a power cut may leave of a segment: the durable bytes at least, and nothing that was
not written; the file may be missing while its entry is not on disk, except where the file
system writes the entry with the first bytes of the file that it syncs. -/
def Survives (entryWithData : Bool) (segment : Segment) : Option Bytes → Prop
  | some bytes => segment.data.take segment.durable <+: bytes ∧ bytes <+: segment.data
  | none => segment.named = false ∧ (entryWithData = true → segment.durable = 0)

/-- The files found after a power cut, put together in order. -/
def recovered (images : List (Option Bytes)) : Bytes :=
  (images.map fun image => image.getD []).flatten

namespace RawLogWriter

variable {writer before middle after : RawLogWriter} {part : Bytes} {faults : Faults}

/-- The directory entries of the rotated segments are on disk. -/
def Named (writer : RawLogWriter) : Prop := ∀ segment ∈ writer.rotated, segment.named = true

/-- No segment was added; `part` was written to the current one, and either nothing more of it
is on disk or all of it is. -/
structure Settled (before after : RawLogWriter) (part : Bytes) : Prop where
  rotated : after.rotated = before.rotated
  data : after.current.data = before.current.data ++ part
  durable : after.current.durable = before.current.durable ∨
    after.current.durable = after.current.data.length
  interval : after.fsyncIntervalS = before.fsyncIntervalS

theorem Settled.refl (writer : RawLogWriter) : Settled writer writer [] :=
  ⟨rfl, (List.append_nil _).symm, .inl rfl, rfl⟩

theorem Settled.trans (first : Settled before middle part) (second : Settled middle after []) :
    Settled before after part := by
  have same : after.current.data = middle.current.data := by
    rw [second.data, List.append_nil]
  refine ⟨second.rotated.trans first.rotated, same.trans first.data, ?_,
    second.interval.trans first.interval⟩
  cases second.durable with
  | inr full => exact .inr full
  | inl kept => exact first.durable.imp (kept.trans ·) fun full => by rw [kept, full, same]

theorem Settled.append (writer : RawLogWriter) (part : Bytes) :
    Settled writer (writer.append part) part :=
  ⟨rfl, rfl, .inl rfl, rfl⟩

theorem Settled.named (settled : Settled before after part) (named : before.Named) :
    after.Named := by
  rw [Named, settled.rotated]
  exact named

/-- A call that writes nothing and adds no segment. -/
def Quiet (call : Call) : Prop := ∀ writer, Named writer → Settled writer (call writer).1 []

theorem Quiet.andThen {first second : Call} (quiet : Quiet first) (later : Quiet second) :
    Quiet (first.andThen second) := by
  intro writer named
  have here := quiet writer named
  rw [Call.andThen]
  split
  · rename_i next outcome
    rw [outcome] at here
    exact here.trans (later next (here.named named))
  · rename_i next raised outcome
    rw [outcome] at here
    exact here

theorem sync_quiet (faults : Faults) : Quiet (sync faults) := by
  intro writer _
  unfold sync
  split
  · exact .refl writer
  split
  · exact .refl writer
  split
  · exact ⟨rfl, (List.append_nil _).symm, .inl rfl, rfl⟩
  split
  · exact .refl writer
  · exact ⟨rfl, (List.append_nil _).symm, .inr rfl, rfl⟩

theorem closeSegment_quiet (faults : Faults) : Quiet (closeSegment faults) := by
  intro writer _
  unfold closeSegment
  split <;> exact ⟨rfl, (List.append_nil _).symm, .inl rfl, rfl⟩

theorem fsyncDir_quiet (faults : Faults) : Quiet (fsyncDir faults) := by
  intro writer named
  unfold fsyncDir
  split
  · exact .refl writer
  · refine ⟨?_, (List.append_nil _).symm, .inl rfl, rfl⟩
    refine (List.map_congr_left fun segment member => ?_).trans (List.map_id _)
    rw [id, ← named segment member]

/-- `close` and the first part of a rotation: the segment is synced, closed and listed. -/
def settle (faults : Faults) : Call :=
  ((sync faults).andThen (closeSegment faults)).andThen (fsyncDir faults)

theorem settle_quiet (faults : Faults) : Quiet (settle faults) :=
  ((sync_quiet faults).andThen (closeSegment_quiet faults)).andThen (fsyncDir_quiet faults)

theorem close_settled (faults : Faults) (named : writer.Named) :
    Settled writer (writer.close faults).1 [] := by
  unfold close
  split
  · exact .refl writer
  split
  · exact ⟨rfl, (List.append_nil _).symm, .inl rfl, rfl⟩
  · have quiet := settle_quiet faults { writer with closed := true } named
    exact ⟨quiet.rotated, quiet.data, quiet.durable, quiet.interval⟩

/-- A writer that no call of has raised yet. -/
structure Working (writer : RawLogWriter) : Prop where
  opened : writer.handle = .opened
  unclosed : writer.closed = false
  sound : writer.current.suspect = false
  named : writer.Named

theorem settle_ok (working : Working writer) (done : settle faults writer = (after, none)) :
    after = { writer with
      current := { writer.current with durable := writer.current.data.length, named := true }
      handle := .gone } := by
  have quiet := settle_quiet faults writer working.named
  rw [done] at quiet
  have rotated := quiet.rotated
  simp only [settle, Call.andThen, sync, working.opened, working.sound, closeSegment, fsyncDir] at done
  cases flush : faults.flush with
  | true => simp [flush] at done
  | false =>
    cases fsync : faults.fsync with
    | true => simp [flush, fsync] at done
    | false =>
      cases close : faults.close with
      | true => simp [flush, fsync, close] at done
      | false =>
        cases listed : faults.fsyncDir with
        | true => simp [flush, fsync, close, listed] at done
        | false =>
          simp only [flush, fsync, close, listed, reduceCtorEq, Bool.false_eq_true, if_false,
            Prod.mk.injEq, and_true] at done
          rw [← done] at rotated ⊢
          dsimp only at rotated
          simp only [rotated, working.sound]

theorem sync_cases (working : Working writer) (faults : Faults) :
    (sync faults writer).2 = some .osError ∨
      sync faults writer = ({ writer with
        current := { writer.current with durable := writer.current.data.length } }, none) := by
  simp only [sync, working.opened, working.sound]
  cases faults.flush with
  | true => exact .inl rfl
  | false =>
    cases faults.fsync with
    | true => exact .inl rfl
    | false => exact .inr rfl

/-- Of a file whose `close` has not raised, no call raises anything but an `OSError`. -/
theorem settle_raised (writer : RawLogWriter) (unshut : writer.handle ≠ .shut) (faults : Faults) :
    (settle faults writer).2 ≠ some .valueError := by
  simp only [settle, Call.andThen, sync, unshut, if_false, closeSegment, fsyncDir]
  cases faults.flush <;> cases faults.fsync <;> cases writer.current.suspect <;>
    cases faults.close <;> cases faults.fsyncDir <;> simp

/-- All that `write_line` of a working writer can do. -/
theorem writeLine_cases (working : Working writer) (faults : Faults) (line : Bytes)
    (wrote opened : ℚ) :
    ((writer.writeLine faults line wrote opened).2 = some .osError ∧
      ∃ part, part <+: line ∧ Settled writer (writer.writeLine faults line wrote opened).1 part) ∨
    (wrote < writer.fsyncDue ∧
      writer.writeLine faults line wrote opened = (writer.append line, none)) ∨
    (writer.writeLine faults line wrote opened =
      ({ writer.append line with
        current := { (writer.append line).current with
          durable := (writer.append line).current.data.length }
        fsyncDue := wrote + writer.fsyncIntervalS }, none)) ∨
    (∃ full : Segment, full.data = writer.current.data ++ line ∧
      full.durable = full.data.length ∧ full.named = true ∧
      writer.writeLine faults line wrote opened =
        ({ writer with
          rotated := writer.rotated ++ [full]
          current := { seq := writer.segmentSeq + 1 }
          handle := .opened
          segmentSeq := writer.segmentSeq + 1
          rotateDue := opened + writer.rotateIntervalS
          fsyncDue := opened + writer.fsyncIntervalS }, none)) := by
  have appended : Working (writer.append line) :=
    ⟨working.opened, working.unclosed, working.sound, working.named⟩
  have usable : ¬(writer.closed || decide (writer.handle = .gone)) = true := by
    simp [working.unclosed, working.opened]
  have unshut : ¬writer.handle = .shut := by simp [working.opened]
  rw [writeLine, if_neg usable, if_neg unshut]
  cases faults.write with
  | some taken => exact .inl ⟨rfl, line.take taken, List.take_prefix _ _, .append writer _⟩
  | none =>
    dsimp only
    split
    · have quiet := (Settled.append writer line).trans
        (settle_quiet faults (writer.append line) appended.named)
      have raises := settle_raised (writer.append line) (by rw [appended.opened]; simp) faults
      rw [show rotate faults opened = (settle faults).andThen (openSegment faults opened) from rfl,
        Call.andThen]
      cases outcome : settle faults (writer.append line) with
      | mk next raised =>
        rw [outcome] at quiet raises
        cases raised with
        | some why =>
          cases why with
          | osError => exact .inl ⟨rfl, line, List.prefix_rfl, quiet⟩
          | valueError => exact absurd rfl raises
        | none =>
          have ended := settle_ok appended outcome
          dsimp only
          unfold openSegment
          split
          · exact .inl ⟨rfl, line, List.prefix_rfl, quiet.rotated, quiet.data, quiet.durable,
              quiet.interval⟩
          · refine .inr (.inr (.inr ⟨next.current, quiet.data, ?_, ?_, ?_⟩))
            · rw [ended]
            · rw [ended]
            · rw [ended]
              rfl
    split
    · have quiet := (Settled.append writer line).trans
        (sync_quiet faults (writer.append line) appended.named)
      rw [Call.andThen]
      obtain raised | synced := sync_cases appended faults
      · cases outcome : sync faults (writer.append line) with
        | mk next why =>
          rw [outcome] at raised quiet
          dsimp only at raised
          rw [raised]
          exact .inl ⟨rfl, line, List.prefix_rfl, quiet⟩
      · rw [synced]
        exact .inr (.inr (.inl rfl))
    · rename_i early
      exact .inr (.inl ⟨not_le.mp early, rfl⟩)

theorem writeLine_interval (working : Working writer) (faults : Faults) (line : Bytes)
    (wrote opened : ℚ) :
    (writer.writeLine faults line wrote opened).1.fsyncIntervalS = writer.fsyncIntervalS := by
  obtain ⟨_, _, _, settled⟩ | ⟨_, same⟩ | same | ⟨_, _, _, _, same⟩ :=
    writeLine_cases working faults line wrote opened
  · exact settled.interval
  · rw [same]
    rfl
  · rw [same]
    rfl
  · rw [same]

end RawLogWriter

/-- The bytes of a run that are on disk for sure. -/
def RawLogWriter.durable (writer : RawLogWriter) : Bytes :=
  (writer.rotated.map Segment.data).flatten ++ writer.current.data.take writer.current.durable

theorem RawLogWriter.written_eq (writer : RawLogWriter) :
    writer.written = (writer.rotated.map Segment.data).flatten ++ writer.current.data := by
  simp [RawLogWriter.written, RawLogWriter.segments]

def textOf (lines : List (ℚ × Bytes)) : Bytes := (lines.map Prod.snd).flatten

@[simp] theorem textOf_append (first second : List (ℚ × Bytes)) :
    textOf (first ++ second) = textOf first ++ textOf second := by
  simp [textOf]

@[simp] theorem textOf_single (reading : ℚ) (line : Bytes) : textOf [(reading, line)] = line := by
  simp [textOf]

/-- The lines of a run that a power cut can take were all written less than an interval before
the newest. -/
structure Run.Kept (run : Run) : Prop where
  rotated : ∀ segment ∈ run.writer.rotated,
    segment.durable = segment.data.length ∧ segment.named = true
  written : run.writer.written = textOf run.lines ++ run.torn
  window : ∃ synced fresh, run.lines = synced ++ fresh ∧
    textOf synced <+: run.writer.durable ∧
    ∀ late ∈ fresh, ∀ line ∈ run.lines, line.1 < late.1 + run.writer.fsyncIntervalS

/-- A run that is written to, at a time. -/
structure Run.Live (clock : ℚ) (run : Run) : Prop where
  working : run.writer.Working
  rotated : ∀ segment ∈ run.writer.rotated, segment.durable = segment.data.length
  within : run.writer.current.durable ≤ run.writer.current.data.length
  untorn : run.torn = []
  written : run.writer.written = textOf run.lines
  past : ∀ line ∈ run.lines, line.1 ≤ clock
  since : run.writer.fsyncDue ≤ clock + run.writer.fsyncIntervalS
  window : ∃ synced fresh, run.lines = synced ++ fresh ∧
    run.writer.durable = textOf synced ∧
    (∀ late ∈ fresh, run.writer.fsyncDue ≤ late.1 + run.writer.fsyncIntervalS) ∧
    (fresh ≠ [] → ∀ line ∈ run.lines, line.1 < run.writer.fsyncDue)

namespace Run

variable {run : Run} {clock : ℚ}

theorem Live.kept (live : run.Live clock) : run.Kept := by
  obtain ⟨synced, fresh, split, durable, late, early⟩ := live.window
  refine ⟨fun segment member => ⟨live.rotated segment member, live.working.named segment member⟩,
    by rw [live.written, live.untorn, List.append_nil], synced, fresh, split, ?_, ?_⟩
  · rw [durable]
  · intro last member line inside
    exact (early (List.ne_nil_of_mem member) line inside).trans_le (late last member)

/-- A run after a call that raised and the `close` that follows it. -/
theorem Live.ended (live : run.Live clock) {after : RawLogWriter} {part : Bytes}
    (settled : RawLogWriter.Settled run.writer after part) :
    Kept { run with writer := after, torn := part } := by
  have kept := live.kept
  obtain ⟨synced, fresh, split, durable, window⟩ := kept.window
  refine ⟨?_, ?_, synced, fresh, split, ?_, ?_⟩
  · rw [settled.rotated]
    exact kept.rotated
  · have written := live.written
    rw [RawLogWriter.written_eq] at written
    rw [RawLogWriter.written_eq]
    dsimp only
    rw [settled.rotated, settled.data, ← List.append_assoc, written]
  · refine durable.trans ?_
    dsimp only [RawLogWriter.durable]
    rw [settled.rotated, settled.data]
    refine (List.prefix_append_right_inj _).mpr ?_
    cases settled.durable with
    | inl same =>
      rw [same]
      exact List.IsPrefix.take (List.prefix_append _ _) _
    | inr full =>
      rw [full, settled.data, List.take_length]
      exact (List.take_prefix _ _).trans (List.prefix_append _ _)
  · rw [settled.interval]
    exact window

/-- A line kept in the buffers until the next sync is due. -/
theorem Live.buffer (live : run.Live clock) {line : Bytes} {wrote later : ℚ} (after : clock ≤ wrote)
    (before : wrote ≤ later) (early : wrote < run.writer.fsyncDue) :
    Live later { run with writer := run.writer.append line, lines := run.lines ++ [(wrote, line)] } := by
  obtain ⟨synced, fresh, split, durable, late, _⟩ := live.window
  have grown : (run.writer.append line).written = run.writer.written ++ line := by
    rw [RawLogWriter.written_eq, RawLogWriter.written_eq, List.append_assoc]
    rfl
  refine ⟨⟨live.working.opened, live.working.unclosed, live.working.sound, live.working.named⟩,
    live.rotated, ?_, live.untorn, ?_, ?_, ?_, synced, fresh ++ [(wrote, line)], ?_, ?_, ?_, ?_⟩
  · exact live.within.trans (by simp [RawLogWriter.append])
  · rw [grown, live.written]
    simp
  · intro other member
    rcases List.mem_append.mp member with old | new
    · exact ((live.past other old).trans after).trans before
    · rw [List.mem_singleton.mp new]
      exact before
  · exact live.since.trans (add_le_add (after.trans before) le_rfl)
  · dsimp only
    rw [split, List.append_assoc]
  · rw [← durable, RawLogWriter.durable, RawLogWriter.durable]
    dsimp only [RawLogWriter.append]
    rw [List.take_append_of_le_length live.within]
  · intro other member
    rcases List.mem_append.mp member with old | new
    · exact late other old
    · rw [List.mem_singleton.mp new]
      exact live.since.trans (add_le_add after le_rfl)
  · intro _ other member
    rcases List.mem_append.mp member with old | new
    · exact ((live.past other old).trans after).trans_lt early
    · rw [List.mem_singleton.mp new]
      exact early

/-- A line after which everything is on disk. -/
theorem Live.synced (live : run.Live clock) {writer : RawLogWriter} {line : Bytes}
    {wrote later : ℚ} (after : clock ≤ wrote) (before : wrote ≤ later)
    (working : writer.Working)
    (rotated : ∀ segment ∈ writer.rotated, segment.durable = segment.data.length)
    (full : writer.current.durable = writer.current.data.length)
    (written : writer.written = run.writer.written ++ line)
    (since : writer.fsyncDue ≤ later + writer.fsyncIntervalS) :
    Live later { run with writer := writer, lines := run.lines ++ [(wrote, line)] } := by
  have text : writer.written = textOf (run.lines ++ [(wrote, line)]) := by
    rw [written, live.written]
    simp
  refine ⟨working, rotated, full.le, live.untorn, text, ?_, since,
    run.lines ++ [(wrote, line)], [], (List.append_nil _).symm, ?_, ?_, ?_⟩
  · intro other member
    rcases List.mem_append.mp member with old | new
    · exact ((live.past other old).trans after).trans before
    · rw [List.mem_singleton.mp new]
      exact before
  · rw [← text, RawLogWriter.written_eq, RawLogWriter.durable]
    dsimp only
    rw [full, List.take_length]
  · exact fun other member => absurd member List.not_mem_nil
  · exact fun nonempty => absurd rfl nonempty

/-- `write_line` returns: the run goes on. -/
theorem Live.line (live : run.Live clock) {faults : Faults} {text : Bytes}
    {wrote opened later : ℚ} {writer : RawLogWriter} (after : clock ≤ wrote)
    (ordered : wrote ≤ opened ∧ opened ≤ later)
    (returned : run.writer.writeLine faults text wrote opened = (writer, none)) :
    Live later { run with writer := writer, lines := run.lines ++ [(wrote, text)] } := by
  have before := ordered.1.trans ordered.2
  obtain ⟨raised, _⟩ | ⟨early, same⟩ | same | ⟨full, data, durable, named, same⟩ :=
    RawLogWriter.writeLine_cases live.working faults text wrote opened
  · rw [returned] at raised
    cases raised
  · obtain ⟨rfl, _⟩ := Prod.mk.inj (returned.symm.trans same)
    exact live.buffer after before early
  · obtain ⟨rfl, _⟩ := Prod.mk.inj (returned.symm.trans same)
    refine live.synced after before
      ⟨live.working.opened, live.working.unclosed, live.working.sound, live.working.named⟩
      live.rotated rfl ?_ (add_le_add before le_rfl)
    rw [RawLogWriter.written_eq, RawLogWriter.written_eq, List.append_assoc]
    rfl
  · obtain ⟨rfl, _⟩ := Prod.mk.inj (returned.symm.trans same)
    refine live.synced after before ⟨rfl, live.working.unclosed, rfl, ?_⟩ ?_ rfl ?_
      (add_le_add ordered.2 le_rfl)
    · intro segment member
      rcases List.mem_append.mp member with old | new
      · exact live.working.named segment old
      · rw [List.mem_singleton.mp new]
        exact named
    · intro segment member
      rcases List.mem_append.mp member with old | new
      · exact live.rotated segment old
      · rw [List.mem_singleton.mp new]
        exact durable
    · rw [RawLogWriter.written_eq, RawLogWriter.written_eq]
      simp [data]

/-- A fresh run. -/
theorem create_live {faults : Faults} {rotate fsync created later : ℚ} {writer : RawLogWriter}
    (before : created ≤ later)
    (made : RawLogWriter.create faults rotate fsync created = some writer) :
    Live later { writer := writer } := by
  unfold RawLogWriter.create at made
  split at made
  · cases made
  · cases made
    refine ⟨⟨rfl, rfl, rfl, fun segment member => (by cases member)⟩,
      fun segment member => (by cases member), le_rfl, rfl, rfl,
      fun line member => (by cases member), add_le_add before le_rfl, [], [], rfl, rfl,
      fun late member => (by cases member), fun nonempty => absurd rfl nonempty⟩

theorem Live.later (live : run.Live clock) {later : ℚ} (passed : clock ≤ later) : run.Live later :=
  { live with
    past := fun line member => (live.past line member).trans passed
    since := live.since.trans (add_le_add passed le_rfl) }

end Run

namespace RawCapture

/-- The lines captured, run after run. -/
def captured (capture : RawCapture) : List Bytes :=
  capture.allRuns.flatMap fun run => run.lines.map Prod.snd

/-- Every run is kept, the one that is written to is live, and what was captured is a part of
what was received. -/
structure Kept (intervals : Intervals) (capture : RawCapture) : Prop where
  runs : ∀ run ∈ capture.runs, run.Kept
  torn : ∀ run ∈ capture.runs, run.torn = [] ∨ ∃ text ∈ capture.received, run.torn <+: text
  live : ∀ run, capture.run = some run → run.Live capture.clock
  interval : ∀ run ∈ capture.allRuns, run.writer.fsyncIntervalS = intervals.fsyncS
  ordered : capture.captured.Sublist capture.received

variable {intervals : Intervals} {capture next : RawCapture}

theorem Kept.all (kept : capture.Kept intervals) : ∀ run ∈ capture.allRuns, run.Kept := by
  intro run member
  rcases List.mem_append.mp member with ended | live
  · exact kept.runs run ended
  · exact (kept.live run (Option.mem_toList.mp live)).kept

theorem Kept.tears (kept : capture.Kept intervals) :
    ∀ run ∈ capture.allRuns, run.torn = [] ∨ ∃ text ∈ capture.received, run.torn <+: text := by
  intro run member
  rcases List.mem_append.mp member with ended | live
  · exact kept.torn run ended
  · exact .inl (kept.live run (Option.mem_toList.mp live)).untorn

theorem torn_of_settled {before after : RawLogWriter} {part : Bytes}
    (settled : RawLogWriter.Settled before after part) : Run.torn before after = part := by
  rw [Run.torn, RawLogWriter.written_eq, RawLogWriter.written_eq, settled.rotated, settled.data,
    ← List.append_assoc, List.drop_left]

/-- The run that a line goes to. -/
structure Ensured (intervals : Intervals) (capture : RawCapture) (created : ℚ) (run : Run) :
    Prop where
  live : run.Live created
  interval : run.writer.fsyncIntervalS = intervals.fsyncS
  lines : (capture.run.toList.flatMap fun run => run.lines.map Prod.snd) = run.lines.map Prod.snd

theorem ensured_ensures (kept : capture.Kept intervals) {created : ℚ}
    (after : capture.clock ≤ created) {faults : Faults} {run : Run}
    (made : capture.ensured intervals created faults = some run) :
    Ensured intervals capture created run := by
  unfold ensured at made
  cases held : capture.run with
  | some old =>
    rw [held] at made
    cases made
    refine ⟨(kept.live run held).later after, kept.interval run ?_, by rw [held]; simp⟩
    exact List.mem_append_right _ (by rw [held]; simp)
  | none =>
    rw [held] at made
    obtain ⟨writer, fresh, rfl⟩ := Option.map_eq_some_iff.mp made
    refine ⟨Run.create_live le_rfl fresh, ?_, by rw [held]; rfl⟩
    unfold RawLogWriter.create at fresh
    split at fresh
    · cases fresh
    · cases fresh
      rfl

/-- The run that was written to ends. -/
theorem Kept.end_run (kept : capture.Kept intervals) {created : ℚ} {run : Run}
    (ensured : Ensured intervals capture created run) {after : RawLogWriter} {part : Bytes}
    (settled : RawLogWriter.Settled run.writer after part) {received : List Bytes}
    (more : capture.received.Sublist received) (source : part = [] ∨ ∃ text ∈ received, part <+: text)
    (ended : RawCapture) (none : ended.run = none)
    (runs : ended.runs = capture.runs ++ [{ run with writer := after, torn := part }])
    (heard : ended.received = received) : ended.Kept intervals := by
  refine ⟨?_, ?_, ?_, ?_, ?_⟩
  · intro other member
    rw [runs] at member
    rcases List.mem_append.mp member with old | new
    · exact kept.runs other old
    · rw [List.mem_singleton.mp new]
      exact ensured.live.ended settled
  · intro other member
    rw [runs] at member
    rw [heard]
    rcases List.mem_append.mp member with old | new
    · exact (kept.torn other old).imp_right fun ⟨text, heard, part⟩ => ⟨text, more.subset heard, part⟩
    · rw [List.mem_singleton.mp new]
      exact source
  · intro other same
    rw [none] at same
    cases same
  · intro other member
    rw [allRuns, none, runs, Option.toList_none, List.append_nil] at member
    rcases List.mem_append.mp member with old | new
    · exact kept.interval other (List.mem_append_left _ old)
    · rw [List.mem_singleton.mp new]
      exact settled.interval.trans ensured.interval
  · have ordered := kept.ordered
    rw [captured, allRuns, List.flatMap_append, ensured.lines] at ordered
    rw [captured, allRuns, none, runs, heard]
    simpa using ordered.trans more

theorem Kept.line (kept : capture.Kept intervals) {text : Bytes} {readings : Readings}
    {faults closing : Faults} (forward : capture.clock ≤ readings.asked) :
    (capture.rawCapture intervals text readings faults closing).Kept intervals := by
  obtain ⟨asked, created, wrote, opened⟩ := readings.ordered
  have passed : capture.clock ≤ readings.ended :=
    forward.trans (asked.trans (created.trans (wrote.trans opened)))
  have more := List.sublist_append_left capture.received [text]
  have tears : ∀ run ∈ capture.runs, run.torn = [] ∨
      ∃ line ∈ capture.received ++ [text], run.torn <+: line := fun run member =>
    (kept.torn run member).imp_right fun ⟨line, heard, part⟩ => ⟨line, more.subset heard, part⟩
  have idle : ∀ failures retry, Kept intervals { capture with
      clock := readings.ended
      received := capture.received ++ [text]
      rawLogFailures := failures
      rawRetryMono := retry } := fun failures retry =>
    ⟨kept.runs, tears, fun run same => (kept.live run same).later passed, kept.interval,
      kept.ordered.trans more⟩
  unfold rawCapture
  dsimp only
  split
  · exact idle _ _
  split
  · exact idle _ _
  · rename_i run made
    have ensured := ensured_ensures kept (forward.trans asked) made
    have raised : ∀ writer why,
        run.writer.writeLine faults text readings.wrote readings.opened = (writer, some why) →
          why = .osError ∧ ∃ part, part <+: text ∧
            RawLogWriter.Settled run.writer writer part := by
      intro writer why outcome
      obtain ⟨raised, settled⟩ | ⟨_, same⟩ | same | ⟨_, _, _, _, same⟩ :=
        RawLogWriter.writeLine_cases ensured.live.working faults text readings.wrote readings.opened
      · rw [outcome] at raised settled
        exact ⟨Option.some.inj raised, settled⟩
      · cases outcome.symm.trans same
      · cases outcome.symm.trans same
      · cases outcome.symm.trans same
    split
    · rename_i writer outcome
      have live := ensured.live.line created ⟨wrote, opened⟩ outcome
      have interval : writer.fsyncIntervalS = intervals.fsyncS := by
        have same := RawLogWriter.writeLine_interval ensured.live.working faults text
          readings.wrote readings.opened
        rw [outcome] at same
        exact same.trans ensured.interval
      refine ⟨kept.runs, tears, fun other same => (by cases same; exact live), ?_, ?_⟩
      · intro other member
        rcases List.mem_append.mp member with old | new
        · exact kept.interval other (List.mem_append_left _ old)
        · rw [List.mem_singleton.mp new]
          exact interval
      · have ordered := kept.ordered
        rw [captured, allRuns, List.flatMap_append, ensured.lines] at ordered
        simpa [captured, allRuns] using ordered.append (List.Sublist.refl [text])
    · rename_i writer outcome
      obtain ⟨_, part, within, settled⟩ := raised writer .osError outcome
      have closed := settled.trans (RawLogWriter.close_settled closing
        (settled.named ensured.live.working.named))
      exact kept.end_run ensured closed more (.inr ⟨text, by simp, within⟩) _ rfl
        (by rw [torn_of_settled settled]) rfl
    · rename_i writer outcome
      cases (raised writer .valueError outcome).1

theorem Kept.stop (kept : capture.Kept intervals) (closing : Faults) :
    (capture.stop closing).Kept intervals := by
  unfold RawCapture.stop
  cases held : capture.run with
  | none => exact kept
  | some run =>
    have live := kept.live run held
    have ensured : Ensured intervals capture capture.clock run :=
      ⟨live, kept.interval run (List.mem_append_right _ (by rw [held]; simp)), by rw [held]; simp⟩
    have closed := RawLogWriter.close_settled closing live.working.named
    exact kept.end_run ensured closed (List.Sublist.refl _) (.inl rfl) _ rfl
      (by rw [← live.untorn]) rfl

theorem Kept.step {event : Event} (kept : capture.Kept intervals)
    (taken : capture.step intervals event = some next) : next.Kept intervals := by
  cases event with
  | line text readings faults closing =>
    rw [RawCapture.step] at taken
    split at taken
    · cases taken
    · rename_i forward
      cases taken
      exact kept.line (not_lt.mp forward)
  | stop closing =>
    cases taken
    exact kept.stop closing

theorem initial_kept (intervals : Intervals) : Kept intervals {} :=
  ⟨fun _ member => (by cases member), fun _ member => (by cases member),
    fun _ same => (by cases same), fun _ member => (by cases member), List.Sublist.slnil⟩

end RawCapture

variable {entryWithData : Bool}

/-- A segment that is on disk with its entry survives whole. -/
theorem survives_durable {segment : Segment} {image : Option Bytes}
    (survives : Survives entryWithData segment image)
    (durable : segment.durable = segment.data.length) (named : segment.named = true) :
    image.getD [] = segment.data := by
  cases image with
  | none =>
    rw [Survives, named] at survives
    cases survives.1
  | some bytes =>
    rw [Survives, durable, List.take_length] at survives
    exact survives.2.eq_of_length_le survives.1.length_le

theorem recovered_durable {segments : List Segment} {images : List (Option Bytes)}
    (survive : List.Forall₂ (Survives entryWithData) segments images)
    (durable : ∀ segment ∈ segments, segment.durable = segment.data.length ∧ segment.named = true) :
    recovered images = (segments.map Segment.data).flatten := by
  induction survive with
  | nil => rfl
  | cons here _ ih =>
    have first := durable _ List.mem_cons_self
    have rest := ih fun segment member => durable segment (List.mem_cons_of_mem _ member)
    rw [recovered] at rest ⊢
    rw [List.map_cons, List.flatten_cons, rest, survives_durable here first.1 first.2]
    rfl

theorem forall₂_concat {α β : Type} {relation : α → β → Prop} {items : List α} {last : α}
    {results : List β} (related : List.Forall₂ relation (items ++ [last]) results) :
    ∃ front final, results = front ++ [final] ∧ List.Forall₂ relation items front ∧
      relation last final := by
  induction items generalizing results with
  | nil =>
    cases related with
    | cons here none =>
      cases none
      exact ⟨[], _, rfl, .nil, here⟩
  | cons item rest ih =>
    cases related with
    | cons here later =>
      obtain ⟨front, final, rfl, below, end_⟩ := ih later
      exact ⟨_ :: front, final, rfl, .cons here below, end_⟩

/-- What a power cut leaves of a run. -/
theorem recovered_split {writer : RawLogWriter} {images : List (Option Bytes)}
    (rotated : ∀ segment ∈ writer.rotated,
      segment.durable = segment.data.length ∧ segment.named = true)
    (survive : List.Forall₂ (Survives entryWithData) writer.segments images) :
    ∃ image, Survives entryWithData writer.current image ∧
      recovered images = (writer.rotated.map Segment.data).flatten ++ image.getD [] := by
  obtain ⟨front, image, rfl, early, last⟩ := forall₂_concat survive
  refine ⟨image, last, ?_⟩
  have durable := recovered_durable early rotated
  rw [recovered] at durable ⊢
  rw [List.map_append, List.flatten_append, durable]
  simp

/-- A line with a newer one an interval later is among those synced. -/
theorem synced_of_older {lines synced fresh earlier later : List (ℚ × Bytes)} {line : ℚ × Bytes}
    {interval : ℚ} (split : lines = synced ++ fresh)
    (window : ∀ late ∈ fresh, ∀ line ∈ lines, line.1 < late.1 + interval)
    (place : lines = earlier ++ line :: later)
    (older : ∃ newest ∈ lines, line.1 + interval ≤ newest.1) :
    textOf (earlier ++ [line]) <+: textOf synced := by
  obtain ⟨newest, member, apart⟩ := older
  have stale : line ∉ fresh := fun inside => absurd (window line inside newest member) (not_lt.mpr apart)
  obtain ⟨middle, before, after⟩ | ⟨middle, before, after⟩ :=
    List.append_eq_append_iff.mp (split.symm.trans place)
  · rw [after] at stale
    simp at stale
  · cases middle with
    | nil =>
      rw [List.nil_append] at after
      rw [← after] at stale
      simp at stale
    | cons first rest =>
      obtain ⟨rfl, _⟩ := List.cons.inj after
      rw [before, List.append_cons earlier line rest, textOf_append _ rest]
      exact List.prefix_append _ _

/-- After a power cut at any moment of any capture, whatever system calls failed: what is found
of a run is the text of its lines and at most a beginning of one more, cut off somewhere in its
last segment; the rotated segments are whole; and where the file system lists a file with its
first synced bytes, every line is there that was written an interval or more before the newest
line of the run. -/
theorem capture_survives_power_cut (intervals : Intervals) (entryWithData : Bool)
    (events : List Event) (final : RawCapture) (run : Run) (images : List (Option Bytes))
    (reached : Machine.run (RawCapture.step intervals) {} events = some final)
    (member : run ∈ final.allRuns)
    (survive : List.Forall₂ (Survives entryWithData) run.writer.segments images) :
    recovered images <+: textOf run.lines ++ run.torn ∧
      (run.torn = [] ∨ ∃ text ∈ final.received, run.torn <+: text) ∧
      (run.writer.rotated.map Segment.data).flatten <+: recovered images ∧
      (entryWithData = true → ∀ earlier line later, run.lines = earlier ++ line :: later →
        (∃ newest ∈ run.lines, line.1 + intervals.fsyncS ≤ newest.1) →
          textOf (earlier ++ [line]) <+: recovered images) := by
  have kept := Machine.run_invariant (RawCapture.Kept intervals)
    (fun _ _ _ kept taken => kept.step taken) events {} final
    (RawCapture.initial_kept intervals) reached
  obtain ⟨rotated, written, synced, fresh, split, durable, window⟩ := kept.all run member
  obtain ⟨image, last, found⟩ := recovered_split rotated survive
  rw [RawLogWriter.written_eq] at written
  refine ⟨?_, ?_, ?_, ?_⟩
  · rw [← written, found]
    refine (List.prefix_append_right_inj _).mpr ?_
    cases image with
    | none => exact List.nil_prefix
    | some bytes => exact last.2
  · exact kept.tears run member
  · rw [found]
    exact List.prefix_append _ _
  · intro lists earlier line later place older
    rw [kept.interval run member] at window
    refine (synced_of_older split window place older).trans (durable.trans ?_)
    rw [found, RawLogWriter.durable]
    refine (List.prefix_append_right_inj _).mpr ?_
    cases image with
    | none =>
      rw [last.2 lists, List.take_zero]
      exact List.nil_prefix
    | some bytes => exact last.1

def secondly : Intervals := ⟨600, 1⟩

/-- Readings at one moment. -/
def readAt (now : ℚ) : Readings := ⟨now, now, now, now, now, by simp⟩

/-- A full disk in the third line, a new run a minute later, a rotation ten minutes on. -/
def raceEvents : List Event :=
  [.line [1, 10] (readAt 100) {} {}, .line [2, 10] (readAt (203 / 2)) {} {},
    .line [3, 10] (readAt 102) { write := some 1 } { flush := true },
    .line [4, 10] (readAt 110) {} {}, .line [5, 10] (readAt 170) {} {},
    .line [6, 10] (readAt 800) {} {}, .line [7, 10] (readAt 801) {} {},
    .line [8, 10] (readAt (1603 / 2)) {} {}]

def fullSegment : Segment := ⟨1, [5, 10, 6, 10], 4, true, false⟩

def lastSegment : Segment := ⟨2, [7, 10, 8, 10], 2, false, false⟩

def raceLines : List (ℚ × Bytes) :=
  [(170, [5, 10]), (800, [6, 10]), (801, [7, 10]), (1603 / 2, [8, 10])]

/-- The power fails with the last line in the buffers. -/
def raceImages : List (Option Bytes) := [some [5, 10, 6, 10], some [7, 10, 8]]

theorem race_survives :
    ∃ final run, Machine.run (RawCapture.step secondly) {} raceEvents = some final ∧
      run ∈ final.allRuns ∧ run.lines = raceLines ∧
      recovered raceImages <+: textOf run.lines ++ run.torn ∧
      (run.writer.rotated.map Segment.data).flatten <+: recovered raceImages ∧
      textOf [(170, [5, 10]), (800, [6, 10])] <+: recovered raceImages := by
  have ended : ((Machine.run (RawCapture.step secondly) {} raceEvents).map fun final =>
      final.run.map fun run => (run.writer.segments, run.lines)) =
        some (some ([fullSegment, lastSegment], raceLines)) := by decide +kernel
  obtain ⟨final, reached, state⟩ := Option.map_eq_some_iff.mp ended
  obtain ⟨run, live, state⟩ := Option.map_eq_some_iff.mp state
  obtain ⟨segments, lines⟩ := Prod.mk.inj state
  have member : run ∈ final.allRuns := List.mem_append_right _ (by rw [live]; simp)
  have survive : List.Forall₂ (Survives true) run.writer.segments raceImages := by
    rw [segments]
    exact .cons ⟨by decide, by decide⟩ (.cons ⟨by decide, by decide⟩ .nil)
  obtain ⟨found, _, rotated, synced⟩ := capture_survives_power_cut secondly true raceEvents final
    run _ reached member survive
  refine ⟨final, run, reached, member, lines, found, rotated, ?_⟩
  exact synced rfl [(170, [5, 10])] (800, [6, 10]) [(801, [7, 10]), (1603 / 2, [8, 10])] lines
    ⟨(1603 / 2, [8, 10]), by rw [lines]; simp [raceLines], by norm_num [secondly]⟩

/-- The bytes of every run directory, its segments put together in the order they were opened. -/
def RawCapture.files (capture : RawCapture) : List Bytes :=
  capture.allRuns.map fun run => run.writer.written

namespace RawLogWriter

variable {writer : RawLogWriter} {faults : Faults}

/-- A call that leaves no file behind whose `close` raised. -/
def Unshut (call : Call) : Prop :=
  ∀ writer, writer.handle ≠ .shut → (call writer).1.handle ≠ .shut

theorem Unshut.andThen {first second : Call} (unshut : Unshut first) (later : Unshut second) :
    Unshut (first.andThen second) := by
  intro writer open_
  have here := unshut writer open_
  rw [Call.andThen]
  split
  · rename_i next outcome
    rw [outcome] at here
    exact later next here
  · rename_i next raised outcome
    rw [outcome] at here
    exact here

theorem sync_unshut (faults : Faults) : Unshut (sync faults) := by
  intro writer open_
  unfold sync
  split
  · exact open_
  split
  · exact open_
  split
  · exact open_
  split <;> exact open_

theorem rotate_unshut (fine : faults.close = false) (opened : ℚ) : Unshut (rotate faults opened) := by
  refine (((sync_unshut faults).andThen ?_).andThen ?_).andThen ?_
  · intro writer _
    simp [closeSegment, fine]
  · intro writer open_
    unfold fsyncDir
    split <;> exact open_
  · intro writer open_
    unfold openSegment
    split
    · exact open_
    · simp

theorem writeLine_unshut (fine : faults.close = false) (line : Bytes) (wrote opened : ℚ) :
    Unshut (writeLine faults line wrote opened) := by
  intro writer open_
  by_cases closed : (writer.closed || decide (writer.handle = .gone)) = true
  · rw [writeLine, if_pos closed]
    exact open_
  rw [writeLine, if_neg closed, if_neg open_]
  cases faults.write with
  | some taken => exact open_
  | none =>
    dsimp only
    split
    · exact rotate_unshut fine opened (writer.append line) open_
    split
    · refine (sync_unshut faults).andThen ?_ (writer.append line) open_
      exact fun writer open_ => open_
    · exact open_

theorem close_returns (open_ : writer.handle ≠ .shut) (closing : Faults) :
    (writer.close closing).2 = none := by
  unfold close
  split
  · rfl
  split
  · rfl
  · have raises := settle_raised { writer with closed := true } open_ closing
    change (if (settle closing { writer with closed := true }).2 = some .osError then none
      else (settle closing { writer with closed := true }).2) = none
    cases outcome : (settle closing { writer with closed := true }).2 with
    | none => rfl
    | some why =>
      cases why with
      | osError => rfl
      | valueError => exact absurd outcome raises

end RawLogWriter

/-- No `close` of a rotation raises. -/
def Event.Closes : Event → Prop
  | .line _ _ faults _ => faults.close = false
  | .stop _ => True

namespace RawCapture

variable {intervals : Intervals} {capture next : RawCapture}

theorem escaped_step {event : Event} (kept : capture.Kept intervals) (closes : event.Closes)
    (taken : capture.step intervals event = some next) : next.escaped = capture.escaped := by
  cases event with
  | stop closing =>
    cases taken
    unfold RawCapture.stop
    cases held : capture.run with
    | none => rfl
    | some run =>
      have open_ : run.writer.handle ≠ .shut := by
        rw [(kept.live run held).working.opened]
        simp
      simp [RawLogWriter.close_returns open_ closing]
  | line text readings faults closing =>
    rw [RawCapture.step] at taken
    split at taken
    · cases taken
    · rename_i forward
      cases taken
      unfold rawCapture
      dsimp only
      split
      · rfl
      split
      · rfl
      · rename_i run made
        have ensured := ensured_ensures kept ((not_lt.mp forward).trans readings.ordered.1) made
        have working := ensured.live.working
        have open_ : run.writer.handle ≠ .shut := by
          rw [working.opened]
          simp
        have unshut := RawLogWriter.writeLine_unshut closes text readings.wrote readings.opened
          run.writer open_
        split
        · rfl
        · rename_i writer outcome
          rw [outcome] at unshut
          simp [RawLogWriter.close_returns unshut closing]
        · rename_i writer outcome
          obtain ⟨raised, _⟩ | ⟨_, same⟩ | same | ⟨_, _, _, _, same⟩ :=
            RawLogWriter.writeLine_cases working faults text readings.wrote readings.opened
          · rw [outcome] at raised
            cases raised
          · cases outcome.symm.trans same
          · cases outcome.symm.trans same
          · cases outcome.symm.trans same

end RawCapture

/-- Capture does not stop telemetry: whichever calls fail, a full disk among them, no error
leaves the tee as long as no `close` of a rotated segment raises. -/
theorem capture_never_escapes (intervals : Intervals) (events : List Event) (final : RawCapture)
    (closes : ∀ event ∈ events, event.Closes)
    (reached : Machine.run (RawCapture.step intervals) {} events = some final) :
    final.escaped = 0 := by
  have along : Machine.Along (RawCapture.step intervals) (fun _ event => event.Closes) {} events :=
    Machine.along_of_forall events _ fun event member _ => closes event member
  have always := Machine.always_of_along
    (fun capture => RawCapture.Kept intervals capture ∧ capture.escaped = 0) (fun _ held => held.2)
    (fun _ _ _ held allowed taken =>
      ⟨held.1.step taken, (RawCapture.escaped_step held.1 allowed taken).trans held.2⟩)
    events {} ⟨RawCapture.initial_kept intervals, rfl⟩ along
  exact always.final reached

theorem race_never_escapes :
    ∃ final, Machine.run (RawCapture.step secondly) {} raceEvents = some final ∧
      final.escaped = 0 := by
  have ended : ((Machine.run (RawCapture.step secondly) {} raceEvents).map fun final =>
      final.captured.length) = some 6 := by decide +kernel
  obtain ⟨final, reached, _⟩ := Option.map_eq_some_iff.mp ended
  refine ⟨final, reached, capture_never_escapes secondly raceEvents final ?_ reached⟩
  simp [raceEvents, Event.Closes]

end OpenLaps.RawLog

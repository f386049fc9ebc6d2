import OpenLaps.Agent.FlushRules
import OpenLaps.Collectors.SerialTransport
import OpenLaps.Tools.RmcSentence

/- The replay of a recorded GPS trace through the collector and the pipeline, flushed as it
goes (`tools/replay.py`). A replay of nothing but the trace is modelled; the timing app is
left out, whose samples carry the stamp of the fix they come from. -/
namespace OpenLaps.Pipeline

/-- Sorting works on both sides of a cut apart. -/
theorem sortStaged_append {early late : List Staged}
    (apart : ∀ item ∈ early, ∀ next ∈ late, stamp item ≤ stamp next) :
    sortStaged (early ++ late) = sortStaged early ++ sortStaged late := by
  induction early with
  | nil => rfl
  | cons item early ih =>
    have below := ih fun other member => apart other (List.mem_cons_of_mem item member)
    have first : ∀ next ∈ sortStaged late, stamp item ≤ stamp next := fun next member =>
      apart item List.mem_cons_self next ((sortStaged_perm late).mem_iff.mp member)
    unfold sortStaged at below first ⊢
    rw [List.cons_append, List.insertionSort_cons, below, List.insertionSort_cons]
    generalize (early.insertionSort fun first second => stamp first ≤ stamp second) = sorted
    induction sorted with
    | nil =>
      cases rest : late.insertionSort fun first second => stamp first ≤ stamp second with
      | nil => rfl
      | cons next more =>
        have before := first next (by rw [rest]; exact List.mem_cons_self)
        exact List.orderedInsert_cons_of_le _ _ before
    | cons other sorted inner =>
      rw [List.cons_append, List.orderedInsert, List.orderedInsert]
      split
      · rfl
      · rw [List.cons_append, inner]

/-- A gap of a tick is a cut between windows. -/
theorem windows_append (settings : Settings) {early late : List Staged}
    (apart : ∀ item ∈ early, ∀ next ∈ late,
      stamp item + Batcher.tickNs settings.tickMs ≤ stamp next) :
    windows settings (early ++ late) = windows settings early ++ windows settings late := by
  have positive := tickNs_pos settings
  unfold windows
  rw [sortStaged_append fun item member next later => by
    have gap := apart item member next later
    omega]
  refine Windows.split_append stamp _ _ _ fun item member next later => ?_
  have gap := apart item ((sortStaged_perm early).mem_iff.mp member) next
    ((sortStaged_perm late).mem_iff.mp later)
  omega

/-- What is staged is kept in front of what `ingest` adds. -/
theorem ingest_after (settings : Settings) (before : List Staged) (first second : State)
    (sourceClass : String) (sample : Sample) (rbe : first.rbe = second.rbe)
    (staged : first.staged = before ++ second.staged) :
    (ingest settings first sourceClass sample).rbe = (ingest settings second sourceClass sample).rbe ∧
      (ingest settings first sourceClass sample).staged =
        before ++ (ingest settings second sourceClass sample).staged ∧
      (ingest settings first sourceClass sample).pending = first.pending := by
  unfold ingest
  split
  · exact ⟨rbe, staged, rfl⟩
  · rw [rbe]
    split
    · exact ⟨rbe, staged, rfl⟩
    · exact ⟨rfl, by simp [staged], rfl⟩
    · exact ⟨rfl, staged, rfl⟩

theorem mem_ingest {settings : Settings} {state : State} {sourceClass : String} {sample : Sample}
    {entry : Staged} (member : entry ∈ (ingest settings state sourceClass sample).staged) :
    entry ∈ state.staged ∨ entry.2.2 = sample := by
  unfold ingest at member
  split at member
  · exact .inl member
  · split at member
    · exact .inl member
    · rcases List.mem_append.mp member with earlier | last
      · exact .inl earlier
      · rw [List.mem_singleton.mp last]
        exact .inr rfl
    · exact .inl member

/-- Two pipelines that differ in samples staged earlier in the first. -/
structure Ahead (settings : Settings) (before : List Staged) (first second : State) : Prop where
  rbe : first.rbe = second.rbe
  staged : first.staged = before ++ second.staged
  firstReady : Ready settings first
  secondReady : Ready settings second

theorem Ahead.ingest {settings : Settings} {before : List Staged} {first second : State}
    (ahead : Ahead settings before first second) (sourceClass : String) (sample : Sample) :
    Ahead settings before (ingest settings first sourceClass sample)
      (ingest settings second sourceClass sample) :=
  have kept := ingest_after settings before first second sourceClass sample ahead.rbe ahead.staged
  ⟨kept.1, kept.2.1, ingest_ready settings first sourceClass sample ahead.firstReady,
    ingest_ready settings second sourceClass sample ahead.secondReady⟩

/-- `ingest` of several samples of one source class. -/
def ingestAll (settings : Settings) (sourceClass : String) (state : State)
    (samples : List Sample) : State :=
  samples.foldl (fun state sample => ingest settings state sourceClass sample) state

theorem Ahead.ingestAll {settings : Settings} {before : List Staged} {first second : State}
    (ahead : Ahead settings before first second) (sourceClass : String) (samples : List Sample) :
    Ahead settings before (ingestAll settings sourceClass first samples)
      (ingestAll settings sourceClass second samples) := by
  induction samples generalizing first second with
  | nil => exact ahead
  | cons sample rest ih => exact ih (ahead.ingest sourceClass sample)

theorem mem_ingestAll {settings : Settings} {sourceClass : String} {state : State}
    {samples : List Sample} {entry : Staged}
    (member : entry ∈ (ingestAll settings sourceClass state samples).staged) :
    entry ∈ state.staged ∨ entry.2.2 ∈ samples := by
  induction samples generalizing state with
  | nil => exact .inl member
  | cons sample rest ih =>
    rcases ih member with earlier | later
    · rcases mem_ingest earlier with before | here
      · exact .inl before
      · exact .inr (here ▸ List.mem_cons_self)
    · exact .inr (List.mem_cons_of_mem sample later)

theorem flushWindow_rbe (settings : Settings) (state : State) (window : Windows.Window Staged) :
    (flushWindow settings state window).1.rbe = state.rbe := by
  unfold flushWindow
  split
  · rfl
  · dsimp only
    split
    · rfl
    · split <;> rfl

theorem flushWindows_rbe (settings : Settings) (state : State)
    (found : List (Windows.Window Staged)) :
    (flushWindows settings state found).1.rbe = state.rbe := by
  induction found generalizing state with
  | nil => rfl
  | cons window rest ih =>
    have here := flushWindow_rbe settings state window
    rw [flushWindows_cons]
    cases outcome : flushWindow settings state window with
    | mk next result =>
      rw [outcome] at here
      cases result with
      | error error => exact here
      | ok batches =>
        have later := ih next
        dsimp only
        cases remaining : flushWindows settings next rest with
        | mk final result' =>
          rw [remaining] at later
          cases result' with
          | error error => exact later.trans here
          | ok more => exact later.trans here

/-- A flush empties the stage and leaves the filter alone. -/
theorem flush_leaves (settings : Settings) (state : State) (ready : Ready settings state) :
    (flush settings state).1.rbe = state.rbe ∧ (flush settings state).1.staged = [] :=
  ⟨flushWindows_rbe settings _ _,
    (flushWindows_eq settings { state with staged := [] } _ ready.drained fun _ found item member =>
      ready.known item (mem_staged_of_window found member)).2.1⟩

end OpenLaps.Pipeline

namespace OpenLaps.Replay

open Nmea Pipeline

structure GpsRow where
  tS : ℚ
  lat : ℚ
  lon : ℚ
  speedKmh : ℚ
  headingDeg : ℚ
  deriving DecidableEq, Repr

def tickMs : Nat := 20

def flushEveryFixes : Nat := 5000

/-- What a replay is set up with. -/
structure Setup where
  settings : Pipeline.Settings
  runtime : Strings.Runtime
  sourceClass : String
  baseMonoNs : Int
  tick : settings.tickMs = tickMs

/-- The serial collector and the pipeline it emits into. -/
structure Cycle where
  collector : SerialCollector
  pipeline : Pipeline.State

/-- `int(x)`. -/
def int (number : ℚ) : Int := if 0 ≤ number then ⌊number⌋ else ⌈number⌉

def stampOf (setup : Setup) (row : GpsRow) : Int := setup.baseMonoNs + int (row.tS * 1000000000)

/-- `collector.handle_line`, which emits into the pipeline. -/
def feed (setup : Setup) (cycle : Cycle) (row : GpsRow) : Except PyError Cycle :=
  let sentence := Bench.rmcSentence row.lat row.lon row.speedKmh row.headingDeg
  (cycle.collector.handleLine setup.runtime setup.settings.wallClock sentence
    (stampOf setup row)).map fun (collector, _) =>
      ⟨collector, ingestAll setup.settings setup.sourceClass cycle.pipeline
        (collector.emitted.drop cycle.collector.emitted.length)⟩

/-- Whether the pipeline may be flushed after `row`, with `next` the row behind it. -/
def flushDue (row : GpsRow) (next : Option GpsRow) (staged : Bool) : Bool :=
  match staged, next with
  | true, some next => (tickMs : ℚ) ≤ (next.tS - row.tS) * 1000
  | _, _ => false

/-- The batches that a replay yields, and the error that ends it. -/
abbrev Yielded := List (TickBatch SampleBatch) × Option PyError

/-- The last `pipeline.flush`. -/
def finish (setup : Setup) (cycle : Cycle) : Yielded :=
  match (flush setup.settings cycle.pipeline).2 with
  | .ok batches => (batches, none)
  | .error error => ([], some error)

/-- The loop over the rows from `index` on. -/
def replayFrom (setup : Setup) (index : Nat) (cycle : Cycle) : List GpsRow → Yielded
  | [] => finish setup cycle
  | row :: rest =>
    match feed setup cycle row with
    | .error error => ([], some error)
    | .ok fed =>
      if flushDue row rest.head? (index % flushEveryFixes = 0) then
        match flush setup.settings fed.pipeline with
        | (_, .error error) => ([], some error)
        | (flushed, .ok batches) =>
          let later := replayFrom setup (index + 1) { fed with pipeline := flushed } rest
          (batches ++ later.1, later.2)
      else replayFrom setup (index + 1) fed rest

/-- `replay_cycle` of a GPS trace, with the decoder of the profile's serial source. -/
def replayCycle (setup : Setup) (decoder : NmeaDecoder) (rows : List GpsRow) : Yielded :=
  replayFrom setup 0 ⟨{ decoder := decoder }, Pipeline.init⟩ rows

def feedAll (setup : Setup) : Cycle → List GpsRow → Except PyError Cycle
  | cycle, [] => .ok cycle
  | cycle, row :: rest => (feed setup cycle row).bind fun fed => feedAll setup fed rest

/-- The plain replay: every row is fed, then the pipeline is flushed once. -/
def atOnceFrom (setup : Setup) (cycle : Cycle) (rows : List GpsRow) : Yielded :=
  match feedAll setup cycle rows with
  | .error error => ([], some error)
  | .ok fed => finish setup fed

def replayAtOnce (setup : Setup) (decoder : NmeaDecoder) (rows : List GpsRow) : Yielded :=
  atOnceFrom setup ⟨{ decoder := decoder }, Pipeline.init⟩ rows

theorem replayFrom_nil (setup : Setup) (index : Nat) (cycle : Cycle) :
    replayFrom setup index cycle [] = finish setup cycle := rfl

theorem atOnceFrom_nil (setup : Setup) (cycle : Cycle) :
    atOnceFrom setup cycle [] = finish setup cycle := rfl

/-- The line emits samples with the stamp it is handled at. -/
theorem handleLine_emitted {runtime : Strings.Runtime} {wallClock : Int → ℚ}
    {collector after : SerialCollector} {line : Bytes} {tMonoNs : Int} {count : Nat}
    (handled : collector.handleLine runtime wallClock line tMonoNs = .ok (after, count)) :
    ∀ sample ∈ after.emitted.drop collector.emitted.length, sample.tMonoNs = tMonoNs := by
  unfold SerialCollector.handleLine at handled
  dsimp only at handled
  cases read : (collector.decoder.decode runtime (.bytes line)).2 with
  | error error =>
    rw [read] at handled
    cases handled
  | ok values =>
    rw [read] at handled
    cases handled
    intro sample member
    rw [List.drop_left, List.mem_map] at member
    obtain ⟨value, _, rfl⟩ := member
    rfl

theorem feed_stamped {setup : Setup} {cycle fed : Cycle} {row : GpsRow}
    (taken : feed setup cycle row = .ok fed) {entry : Staged}
    (member : entry ∈ fed.pipeline.staged) :
    entry ∈ cycle.pipeline.staged ∨ stamp entry = stampOf setup row := by
  unfold feed at taken
  dsimp only at taken
  cases handled : cycle.collector.handleLine setup.runtime setup.settings.wallClock
      (Bench.rmcSentence row.lat row.lon row.speedKmh row.headingDeg) (stampOf setup row) with
  | error error =>
    rw [handled] at taken
    cases taken
  | ok result =>
    obtain ⟨after, count⟩ := result
    rw [handled] at taken
    cases taken
    exact (mem_ingestAll member).imp_right fun emitted => handleLine_emitted handled _ emitted

/-- Two replays at the same row, of which the first has samples staged that the second has
flushed. -/
structure Behind (setup : Setup) (before : List Staged) (first second : Cycle) : Prop where
  collector : first.collector = second.collector
  pipeline : Ahead setup.settings before first.pipeline second.pipeline

theorem Behind.feed {setup : Setup} {before : List Staged} {first second : Cycle}
    (behind : Behind setup before first second) (row : GpsRow) :
    (∃ error, Replay.feed setup first row = .error error ∧
      Replay.feed setup second row = .error error) ∨
    ∃ fed fed', Replay.feed setup first row = .ok fed ∧ Replay.feed setup second row = .ok fed' ∧
      Behind setup before fed fed' := by
  unfold Replay.feed
  rw [behind.collector]
  dsimp only
  cases handled : second.collector.handleLine setup.runtime setup.settings.wallClock
      (Bench.rmcSentence row.lat row.lon row.speedKmh row.headingDeg) (stampOf setup row) with
  | error error => exact .inl ⟨error, rfl, rfl⟩
  | ok result =>
    exact .inr ⟨_, _, rfl, rfl, rfl, behind.pipeline.ingestAll setup.sourceClass _⟩

theorem int_gap (first second : ℚ) (whole : Nat) (nonneg : 0 ≤ first)
    (apart : first + whole ≤ second) : int first + whole ≤ int second := by
  have later : 0 ≤ second := by
    have : (0 : ℚ) ≤ whole := Nat.cast_nonneg whole
    linarith
  rw [int, int, if_pos nonneg, if_pos later, ← Int.floor_add_natCast]
  exact Int.floor_le_floor apart

/-- A trace in order, from its start on. -/
structure Trace (rows : List GpsRow) : Prop where
  started : ∀ row ∈ rows, 0 ≤ row.tS
  ordered : rows.Pairwise fun earlier later => earlier.tS ≤ later.tS

theorem Trace.tail {row : GpsRow} {rest : List GpsRow} (trace : Trace (row :: rest)) :
    Trace rest :=
  ⟨fun later member => trace.started later (List.mem_cons_of_mem row member), trace.ordered.of_cons⟩

theorem Trace.stamps {row : GpsRow} {rest : List GpsRow} (trace : Trace (row :: rest))
    (setup : Setup) : ∀ later ∈ rest, stampOf setup row ≤ stampOf setup later := by
  intro later member
  have behind := List.rel_of_pairwise_cons trace.ordered member
  have first := trace.started row List.mem_cons_self
  have gap := int_gap (row.tS * 1000000000) (later.tS * 1000000000) 0
    (by positivity) (by push_cast; linarith)
  unfold stampOf
  omega

/-- Where a flush is due, the rows behind it are stamped at least a tick later. -/
theorem Trace.gap {row : GpsRow} {rest : List GpsRow} {staged : Bool}
    (trace : Trace (row :: rest)) (setup : Setup)
    (due : flushDue row rest.head? staged = true) :
    ∀ later ∈ rest, stampOf setup row + Batcher.tickNs setup.settings.tickMs ≤
      stampOf setup later := by
  have tick : Batcher.tickNs setup.settings.tickMs = 20000000 := by
    rw [setup.tick]
    rfl
  cases rest with
  | nil => exact fun later member => absurd member List.not_mem_nil
  | cons next rest =>
    have wide : (20 : ℚ) ≤ (next.tS - row.tS) * 1000 := by
      cases staged with
      | false => cases due
      | true => exact of_decide_eq_true due
    have first := trace.started row List.mem_cons_self
    have gap := int_gap (row.tS * 1000000000) (next.tS * 1000000000) 20000000
      (by positivity) (by push_cast; linarith)
    intro later member
    have after : stampOf setup next ≤ stampOf setup later := by
      rcases List.mem_cons.mp member with rfl | below
      · exact Int.le_refl _
      · exact trace.tail.stamps setup later below
    unfold stampOf at after ⊢
    rw [tick]
    omega

/-- The samples flushed earlier are a tick before all others. -/
structure Apart (setup : Setup) (before : List Staged) (cycle : Cycle) (rows : List GpsRow) :
    Prop where
  staged : ∀ item ∈ before, ∀ next ∈ cycle.pipeline.staged,
    stamp item + Batcher.tickNs setup.settings.tickMs ≤ stamp next
  rows : ∀ item ∈ before, ∀ row ∈ rows,
    stamp item + Batcher.tickNs setup.settings.tickMs ≤ stampOf setup row

theorem Apart.feed {setup : Setup} {before : List Staged} {cycle fed : Cycle} {row : GpsRow}
    {rest : List GpsRow} (apart : Apart setup before cycle (row :: rest))
    (taken : Replay.feed setup cycle row = .ok fed) : Apart setup before fed rest := by
  refine ⟨fun item member next later => ?_, fun item member row below =>
    apart.rows item member row (List.mem_cons_of_mem _ below)⟩
  rcases feed_stamped taken later with earlier | same
  · exact apart.staged item member next earlier
  · rw [same]
    exact apart.rows item member row List.mem_cons_self

/-- Of two pipelines, the windows of the first are those flushed earlier and those of the
second. -/
theorem Behind.windows {setup : Setup} {before : List Staged} {first second : Cycle}
    {rows : List GpsRow} (behind : Behind setup before first second)
    (apart : Apart setup before second rows) :
    Pipeline.windows setup.settings first.pipeline.staged =
      Pipeline.windows setup.settings before ++
        Pipeline.windows setup.settings second.pipeline.staged := by
  rw [behind.pipeline.staged]
  exact windows_append setup.settings apart.staged

/-- What the second pipeline flushes moves to what was flushed earlier. -/
theorem Behind.flush {setup : Setup} {before : List Staged} {first second : Cycle}
    {rest : List GpsRow} (behind : Behind setup before first second)
    (later : ∀ item ∈ before ++ second.pipeline.staged, ∀ row ∈ rest,
      stamp item + Batcher.tickNs setup.settings.tickMs ≤ stampOf setup row) :
    let flushed := { second with pipeline := (Pipeline.flush setup.settings second.pipeline).1 }
    Behind setup (before ++ second.pipeline.staged) first flushed ∧
      Apart setup (before ++ second.pipeline.staged) flushed rest ∧ flushed.pipeline.staged = [] := by
  have ready := (flush_eq setup.settings second.pipeline behind.pipeline.secondReady).1
  have leaves := flush_leaves setup.settings second.pipeline behind.pipeline.secondReady
  refine ⟨⟨behind.collector, behind.pipeline.rbe.trans leaves.1.symm, ?_,
    behind.pipeline.firstReady, ready⟩, ⟨fun item _ other member => ?_, later⟩, leaves.2⟩
  · rw [behind.pipeline.staged, leaves.2, List.append_nil]
  · rw [leaves.2] at member
    cases member

theorem finish_raises {setup : Setup} {cycle : Cycle} (ready : Ready setup.settings cycle.pipeline)
    (raised : ∃ window ∈ Pipeline.windows setup.settings cycle.pipeline.staged,
      raises setup.settings window = true) : (finish setup cycle).2 ≠ none := by
  obtain ⟨error, failed⟩ := (flush_eq setup.settings cycle.pipeline ready).2.2 raised
  rw [finish, failed]
  simp

/-- A window that raises when it is flushed raises in the plain replay too. -/
theorem atOnce_raises {setup : Setup} {before : List Staged} {rows : List GpsRow}
    {first second : Cycle} (behind : Behind setup before first second)
    (apart : Apart setup before second rows)
    (raised : ∃ window ∈ Pipeline.windows setup.settings before,
      raises setup.settings window = true) : (atOnceFrom setup first rows).2 ≠ none := by
  induction rows generalizing first second with
  | nil =>
    refine finish_raises behind.pipeline.firstReady ?_
    obtain ⟨window, member, raising⟩ := raised
    rw [behind.windows apart]
    exact ⟨window, List.mem_append_left _ member, raising⟩
  | cons row rest ih =>
    rw [atOnceFrom, feedAll]
    rcases behind.feed row with ⟨error, failed, _⟩ | ⟨fed, fed', took, took', next⟩
    · rw [failed]
      simp [Except.bind]
    · rw [took]
      exact ih next (apart.feed took')

/-- From any row on: the batches already yielded and those to come are the ones of the plain
replay, and an error in one is an error in the other. -/
theorem replayFrom_agrees (setup : Setup) (index : Nat) {before : List Staged}
    {rows : List GpsRow} {first second : Cycle} (behind : Behind setup before first second)
    (trace : Trace rows) (apart : Apart setup before second rows)
    (held : ∀ item ∈ second.pipeline.staged, ∀ row ∈ rows, stamp item ≤ stampOf setup row)
    (quiet : ∀ window ∈ Pipeline.windows setup.settings before,
      raises setup.settings window = false) :
    ((replayFrom setup index second rows).2 = none →
      atOnceFrom setup first rows =
        ((Pipeline.windows setup.settings before).flatMap (delivered setup.settings) ++
          (replayFrom setup index second rows).1, none)) ∧
    ((replayFrom setup index second rows).2 ≠ none → (atOnceFrom setup first rows).2 ≠ none) := by
  induction rows generalizing first second index before with
  | nil =>
    have cut := behind.windows apart
    have flushed := flush_eq setup.settings second.pipeline behind.pipeline.secondReady
    have whole := flush_eq setup.settings first.pipeline behind.pipeline.firstReady
    rw [cut] at whole
    by_cases raised : ∃ window ∈ Pipeline.windows setup.settings second.pipeline.staged,
        raises setup.settings window = true
    · obtain ⟨window, member, raising⟩ := raised
      obtain ⟨error, failed⟩ := flushed.2.2 ⟨window, member, raising⟩
      obtain ⟨error', failed'⟩ := whole.2.2 ⟨window, List.mem_append_right _ member, raising⟩
      rw [replayFrom_nil, atOnceFrom_nil, finish, finish, failed, failed']
      exact ⟨fun fine => (by cases fine), fun _ fine => by cases fine⟩
    · have silent : ∀ window ∈ Pipeline.windows setup.settings second.pipeline.staged,
          raises setup.settings window = false := by
        intro window member
        by_contra raising
        exact raised ⟨window, member, by simpa using raising⟩
      have yielded := flushed.2.1 silent
      have all := whole.2.1 fun window member => (List.mem_append.mp member).elim
        (quiet window) (silent window)
      rw [replayFrom_nil, atOnceFrom_nil, finish, finish, yielded, all, List.flatMap_append]
      exact ⟨fun _ => rfl, fun failed => absurd rfl failed⟩
  | cons row rest ih =>
    unfold replayFrom atOnceFrom feedAll
    rcases behind.feed row with ⟨error, failed, failed'⟩ | ⟨fed, fed', took, took', next⟩
    · rw [failed, failed']
      simp [Except.bind]
    rw [took, took']
    dsimp only [Except.bind]
    have held' : ∀ item ∈ fed'.pipeline.staged, stamp item ≤ stampOf setup row := by
      intro item member
      rcases feed_stamped took' member with earlier | same
      · exact held item earlier row List.mem_cons_self
      · exact same.le
    by_cases due : flushDue row rest.head? (index % flushEveryFixes = 0) = true
    · rw [if_pos due]
      have moved := apart.feed took'
      have gap := trace.gap setup due
      have later : ∀ item ∈ before ++ fed'.pipeline.staged, ∀ row ∈ rest,
          stamp item + Batcher.tickNs setup.settings.tickMs ≤ stampOf setup row := by
        intro item member row' below
        rcases List.mem_append.mp member with earlier | fresh
        · exact moved.rows item earlier row' below
        · exact (Int.add_le_add_right (held' item fresh) _).trans (gap row' below)
      have windows := windows_append setup.settings moved.staged
      have flushed := flush_eq setup.settings fed'.pipeline next.pipeline.secondReady
      obtain ⟨emptied, clear, empty⟩ := next.flush later
      by_cases raised : ∃ window ∈ Pipeline.windows setup.settings fed'.pipeline.staged,
          raises setup.settings window = true
      · obtain ⟨error, failed⟩ := flushed.2.2 raised
        obtain ⟨window, member, raising⟩ := raised
        have whole := atOnce_raises emptied clear
          ⟨window, by rw [windows]; exact List.mem_append_right _ member, raising⟩
        cases outcome : flush setup.settings fed'.pipeline with
        | mk state result =>
          rw [outcome] at failed
          cases failed
          exact ⟨fun fine => (by cases fine), fun _ => whole⟩
      · have silent : ∀ window ∈ Pipeline.windows setup.settings fed'.pipeline.staged,
            raises setup.settings window = false := by
          intro window member
          by_contra raising
          exact raised ⟨window, member, by simpa using raising⟩
        have yielded := flushed.2.1 silent
        have rest := ih (index + 1) emptied trace.tail clear
          (fun item member => by rw [empty] at member; cases member) (by
            rw [windows]
            exact fun window member => (List.mem_append.mp member).elim (quiet window)
              (silent window))
        cases outcome : flush setup.settings fed'.pipeline with
        | mk state result =>
          rw [outcome] at yielded rest
          cases yielded
          rw [windows, List.flatMap_append, List.append_assoc] at rest
          exact rest
    · rw [if_neg due]
      refine ih (index + 1) next trace.tail (apart.feed took') ?_ quiet
      intro item member later below
      exact (held' item member).trans (trace.stamps setup later below)

/-- Flushing a GPS trace as it goes, at gaps of a tick, yields the batches of feeding it whole
and flushing once: no tick window is split between two flushes. -/
theorem replay_as_at_once (setup : Setup) (decoder : NmeaDecoder) (rows : List GpsRow)
    (trace : Trace rows) :
    ((replayCycle setup decoder rows).2 = none ↔ (replayAtOnce setup decoder rows).2 = none) ∧
      ((replayAtOnce setup decoder rows).2 = none →
        replayCycle setup decoder rows = replayAtOnce setup decoder rows) := by
  have start : Behind setup [] ⟨{ decoder := decoder }, Pipeline.init⟩
      ⟨{ decoder := decoder }, Pipeline.init⟩ :=
    ⟨rfl, rfl, rfl, init_ready setup.settings, init_ready setup.settings⟩
  have agrees := replayFrom_agrees setup 0 start trace
    ⟨fun _ member => absurd member List.not_mem_nil, fun _ member => absurd member List.not_mem_nil⟩
    (fun _ member => absurd member List.not_mem_nil) (fun _ member => absurd member List.not_mem_nil)
  have same : (replayCycle setup decoder rows).2 = none →
      replayAtOnce setup decoder rows = replayCycle setup decoder rows := by
    intro fine
    rw [replayAtOnce, agrees.1 fine]
    exact Prod.ext rfl fine.symm
  refine ⟨⟨fun fine => (same fine).symm ▸ fine, fun fine => ?_⟩, fun fine => ?_⟩
  · by_contra failed
    exact agrees.2 failed fine
  · refine (same ?_).symm
    by_contra failed
    exact agrees.2 failed fine

/-- One channel, fed with the latitude of the fixes. -/
def latPolicy : ChannelPolicy := ⟨"gps.lat", .double, none, 0, 0⟩

def demoSetup : Setup where
  settings :=
    { catalog :=
        ⟨⟨[("gps:nmea.RMC.lat", (1, latPolicy))], by decide⟩, ⟨[("gps.lat", 1)], by decide⟩,
          ⟨[(1, latPolicy)], by decide⟩,
          ⟨1, "car7", 0, [⟨1, "gps.lat", "gps:nmea.RMC.lat", "deg", .double, 0, 0⟩]⟩, ""⟩
      tickMs := 20
      wallClock := wallClockAt 1000
      f32 := id
      bounds := defaultTick_bounds
      resolves := by
        intro sourceRef entry mapped
        rw [Dict.get?_eq_some] at mapped
        cases List.mem_singleton.mp mapped
        decide }
  runtime := Strings.plainRuntime
  sourceClass := "gps"
  baseMonoNs := 1000000000
  tick := rfl

def demoRows : List GpsRow := [⟨0, -31, 115, 90, 10⟩, ⟨1 / 25, -30, 115, 90, 10⟩]

theorem demoRows_trace : Trace demoRows := ⟨by decide +kernel, by decide +kernel⟩

theorem replay_as_at_once_demo :
    (replayCycle demoSetup { sourceName := "gps", device := "nmea" } demoRows).1.length = 2 ∧
      replayCycle demoSetup { sourceName := "gps", device := "nmea" } demoRows =
        replayAtOnce demoSetup { sourceName := "gps", device := "nmea" } demoRows := by
  have fine : (replayAtOnce demoSetup { sourceName := "gps", device := "nmea" } demoRows).2 =
      none := by decide +kernel
  exact ⟨by decide +kernel, (replay_as_at_once demoSetup _ demoRows demoRows_trace).2 fine⟩

end OpenLaps.Replay

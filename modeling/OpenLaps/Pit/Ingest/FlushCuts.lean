import OpenLaps.Lib.Attempt
import OpenLaps.Pit.Ingest.LapTables
import OpenLaps.Pit.Ingest.Writer

/- A run of the writer without failures: batches taken and flushes in any order. The tables
at the end depend on the batches alone. -/
namespace OpenLaps.Ingest

inductive Act where
  | take (message : Msg)
  | flush
  deriving DecidableEq, Repr

def Act.message? : Act → Option Msg
  | .take message => some message
  | .flush => none

/-- A batch handled, or a flush that commits and whose acks arrive. -/
def IngestWriter.act (settings : WriterSettings) (state : IngestWriter × Database) :
    Act → Except PyError (IngestWriter × Database)
  | .take message => (state.1.handle settings message).map fun handled => (handled.1, state.2)
  | .flush =>
    let flushed := state.1.flush state.2 ⟨.committed, .committed, state.1.buffered⟩
    .ok (flushed.1, flushed.2.1)

/-- The store behind a log of committed flushes. -/
def Database.store (sessions : SessionTables) (store : TimescaleStore) (db : Database) :
    TimescaleStore := db.transactions.foldl (TimescaleStore.flush sessions) store

/-- What the batches of a stream hold: rows, crossings and the sequence reached. -/
structure Contents where
  rows : List SampleRow
  crossings : List Materialised
  laps : LapMaterialiser
  latest : Nat

/-- The batch in a message that the writer decodes. -/
def IngestWriter.batch? (writer : IngestWriter) (settings : WriterSettings) (message : Msg) :
    Option DecodedBatch :=
  if isRegistry message settings.vehicleId then none
  else message.asBatch.bind fun parsed => (writer.cache.decodeBatch parsed).2.toOption

def Contents.read (settings : WriterSettings) (writer : IngestWriter) (contents : Contents)
    (message : Msg) : Except PyError Contents :=
  match writer.batch? settings message with
  | none => .error (.valueError "not a decodable batch")
  | some batch => do
    let converted ← rowsFromBatch batch writer.keys
    let observed ← observeAll settings.text contents.laps converted.lapEvents
    return ⟨contents.rows ++ converted.rows, contents.crossings ++ observed.2, observed.1,
      max contents.latest message.sequence⟩

def contentsOf (settings : WriterSettings) (writer : IngestWriter) (stream : List Msg) :
    Except PyError Contents :=
  stream.foldlM (Contents.read settings writer) ⟨[], [], writer.laps, writer.maxSeq⟩

/-- A writer with nothing buffered. -/
structure Fresh (writer : IngestWriter) : Prop where
  rows : writer.rows = []
  lapRows : writer.lapRows = []
  pitUpdates : writer.pitUpdates = []
  buffered : writer.buffered = []
  maxSeq : writer.maxSeq = writer.cursor

theorem observeAll_last {text : PyText} {laps after : LapMaterialiser} {payloads : List String}
    {payload : String} {crossings : List Materialised}
    (observed : observeAll text laps (payloads ++ [payload]) = .ok (after, crossings)) :
    ∃ middle before row, observeAll text laps payloads = .ok (middle, before) ∧
      middle.observe text payload = .ok (after, row) ∧ crossings = before ++ row.toList := by
  unfold observeAll at observed
  rw [List.foldlM_append, Attempt.bind_ok] at observed
  obtain ⟨⟨middle, before⟩, first, last⟩ := observed
  simp only [List.foldlM_cons, List.foldlM_nil, bind_pure, Attempt.bind_ok] at last
  obtain ⟨⟨laps', row⟩, seen, last⟩ := last
  simp only [pure, Except.pure, Except.ok.injEq, Prod.mk.injEq] at last
  exact ⟨middle, before, row, first, last.1 ▸ seen, last.2.symm⟩

/-- The lap events of a batch join the lap buffers in order. -/
theorem materialiseLaps_eq {settings : WriterSettings} {writer : IngestWriter}
    {payloads : List String} {laps : LapMaterialiser} {crossings : List Materialised}
    (observed : observeAll settings.text writer.laps payloads = .ok (laps, crossings)) :
    ∃ health, payloads.foldlM (IngestWriter.materialiseLap settings) writer =
      .ok { writer with
        laps := laps
        lapRows := writer.lapRows ++ lapRows crossings
        pitUpdates := writer.pitUpdates ++ pitStatusUpdates crossings
        health := health } := by
  induction payloads using List.reverseRecOn generalizing laps crossings with
  | nil =>
    have start : writer.laps = laps ∧ [] = crossings := by
      simpa [observeAll, pure, Except.pure] using observed
    exact ⟨writer.health, by simp [← start.1, ← start.2, pure, Except.pure, pitStatusUpdates]⟩
  | append_singleton payloads payload ih =>
    obtain ⟨middle, before, row, first, seen, rfl⟩ := observeAll_last observed
    obtain ⟨health, folded⟩ := ih first
    rw [List.foldlM_append, folded]
    refine ⟨{ health with malformedLapEvents := laps.malformedEvents }, ?_⟩
    cases row with
    | none => simp [bind, Except.bind, IngestWriter.materialiseLap, seen, pure, Except.pure]
    | some crossing =>
      cases crossing <;>
        simp [bind, Except.bind, IngestWriter.materialiseLap, seen, pure, Except.pure, lapRows,
          pitStatusUpdates]

/-- A batch beyond everything taken so far joins the buffer with all it holds. -/
theorem handle_decodable {settings : WriterSettings} {writer : IngestWriter} {message : Msg}
    {batch : DecodedBatch} {converted : BatchRows} {laps : LapMaterialiser}
    {crossings : List Materialised} (decodable : writer.batch? settings message = some batch)
    (above : writer.cursor < message.sequence) (unseen : message.sequence ∉ writer.buffered)
    (rows : rowsFromBatch batch writer.keys = .ok converted)
    (observed : observeAll settings.text writer.laps converted.lapEvents = .ok (laps, crossings)) :
    ∃ handled, writer.handle settings message = .ok (handled, .buffered) ∧
      handled.cache = writer.cache ∧ handled.keys = writer.keys ∧ handled.laps = laps ∧
      handled.cursor = writer.cursor ∧ handled.maxSeq = max writer.maxSeq message.sequence ∧
      handled.buffered = writer.buffered ++ [message.sequence] ∧
      handled.rows.map Prod.snd = writer.rows.map Prod.snd ++ converted.rows ∧
      handled.lapRows = writer.lapRows ++ lapRows crossings ∧
      handled.pitUpdates = writer.pitUpdates ++ pitStatusUpdates crossings := by
  unfold IngestWriter.batch? at decodable
  by_cases registry : isRegistry message settings.vehicleId = true
  · simp [registry] at decodable
  · simp only [registry, Bool.false_eq_true, if_false, Option.bind_eq_some_iff] at decodable
    obtain ⟨parsed, payload, decoded⟩ := decodable
    let taken : IngestWriter := { writer with
      rows := writer.rows ++ converted.rows.map (Prod.mk message.sequence)
      health := { writer.health with
        batches := writer.health.batches + 1
        samplesDropped := writer.health.samplesDropped + converted.dropped
        unresolvedChannels := writer.health.unresolvedChannels + converted.unresolved } }
    have same : observeAll settings.text taken.laps converted.lapEvents = .ok (laps, crossings) :=
      observed
    obtain ⟨health, folded⟩ := materialiseLaps_eq same
    have buffered : writer.bufferBatch settings message batch =
        .ok { taken with
          laps := laps
          lapRows := writer.lapRows ++ lapRows crossings
          pitUpdates := writer.pitUpdates ++ pitStatusUpdates crossings
          health := health
          pending := writer.pending ++ [message]
          buffered := writer.buffered ++ [message.sequence]
          maxSeq := max writer.maxSeq message.sequence } := by
      unfold IngestWriter.bufferBatch
      rw [rows]
      change (List.foldlM (IngestWriter.materialiseLap settings) taken converted.lapEvents >>= _) = _
      rw [folded]
      rfl
    have handled : writer.handle settings message =
        (writer.bufferBatch settings message batch).map fun next => (next, .buffered) := by
      unfold IngestWriter.handle
      rw [if_neg (Nat.not_le.2 above), if_neg unseen, if_neg registry, payload]
      unfold IngestWriter.handleBatch
      cases read : writer.cache.decodeBatch parsed with
      | mk cache result =>
        cases result with
        | error reject => simp [read, Except.toOption] at decoded
        | ok other =>
          have same : other = batch := by simpa [read, Except.toOption] using decoded
          simp only [read, same]
          cases writer.bufferBatch settings message batch <;> rfl
    rw [buffered] at handled
    refine ⟨_, handled, rfl, rfl, rfl, rfl, rfl, rfl, ?_, rfl, rfl⟩
    simp [taken, Function.comp_def]

/-- The state of a run whose batches so far hold `contents`: the database has the crossings
`done` and some of the rows, the writer the rest. -/
structure Writes (sessions : SessionTables) (base : TimescaleStore) (first : IngestWriter)
    (state : IngestWriter × Database) (contents : Contents) : Prop where
  cache : state.1.cache = first.cache
  keys : state.1.keys = first.keys
  laps : state.1.laps = contents.laps
  latest : state.1.maxSeq = contents.latest
  cursor : state.1.cursor ≤ contents.latest
  buffered : ∀ sequence ∈ state.1.buffered, sequence ≤ contents.latest
  written : ∃ done waiting rows, contents.crossings = done ++ waiting ∧
    state.1.lapRows = lapRows waiting ∧ state.1.pitUpdates = pitStatusUpdates waiting ∧
    contents.rows = rows ++ state.1.rows.map Prod.snd ∧
    state.2.store sessions base =
      (done.foldl (TimescaleStore.writeCrossing sessions) base).stamp rows state.1.cursor

variable {settings : WriterSettings} {sessions : SessionTables} {base : TimescaleStore}
  {first : IngestWriter} {state : IngestWriter × Database} {contents after : Contents}
  {message : Msg}

theorem Writes.take (writes : Writes sessions base first state contents)
    (above : contents.latest < message.sequence)
    (read : contents.read settings first message = .ok after) :
    ∃ next, IngestWriter.act settings state (.take message) = .ok next ∧
      Writes sessions base first next after := by
  unfold Contents.read at read
  cases decodable : first.batch? settings message with
  | none => simp [decodable] at read
  | some batch =>
    simp only [decodable, Attempt.bind_ok] at read
    obtain ⟨converted, rows, ⟨laps, crossings⟩, observed, same⟩ := read
    simp only [pure, Except.pure, Except.ok.injEq] at same
    have decodable' : state.1.batch? settings message = some batch := by
      simpa [IngestWriter.batch?, writes.cache] using decodable
    have above' : state.1.cursor < message.sequence := by have := writes.cursor; omega
    have unseen : message.sequence ∉ state.1.buffered := by
      intro member
      have := writes.buffered _ member
      omega
    rw [← writes.keys] at rows
    rw [← writes.laps] at observed
    obtain ⟨handled, run, cache, keys, laps', cursor, maxSeq, buffered, rows', lapRows', pits⟩ :=
      handle_decodable decodable' above' unseen rows observed
    refine ⟨(handled, state.2), by simp [IngestWriter.act, run, Except.map], ?_⟩
    obtain ⟨done, waiting, stored, split, laps, updates, all, tables⟩ := writes.written
    constructor <;> simp only [← same]
    · rw [cache, writes.cache]
    · rw [keys, writes.keys]
    · exact laps'
    · rw [maxSeq, writes.latest]
    · rw [cursor]
      have := writes.cursor
      omega
    · rw [buffered]
      intro sequence member
      rw [List.mem_append, List.mem_singleton] at member
      cases member with
      | inl old =>
        have := writes.buffered sequence old
        omega
      | inr new => omega
    · refine ⟨done, waiting ++ crossings, stored, by rw [split, List.append_assoc], ?_, ?_, ?_, ?_⟩
      · rw [lapRows', laps, lapRows_append]
      · rw [pits, updates, pitStatusUpdates_append]
      · rw [rows', all, List.append_assoc]
      · rw [cursor]
        exact tables

theorem eq_nil_of_parts {crossings : List Materialised} (laps : lapRows crossings = [])
    (pits : pitStatusUpdates crossings = []) : crossings = [] := by
  cases crossings with
  | nil => rfl
  | cons crossing rest => cases crossing <;> simp [lapRows, pitStatusUpdates] at laps pits

/-- What a flush leaves, with everything in the tables. -/
structure Flushed (sessions : SessionTables) (base : TimescaleStore) (first : IngestWriter)
    (state : IngestWriter × Database) (contents : Contents) : Prop where
  writes : Writes sessions base first state contents
  tables : state.2.store sessions base =
    (contents.crossings.foldl (TimescaleStore.writeCrossing sessions) base).stamp contents.rows
      contents.latest

theorem Writes.flush (settings : WriterSettings) (writes : Writes sessions base first state contents)
    (increasing : (contents.crossings.map Materialised.time).Pairwise (· < ·)) :
    ∃ next, IngestWriter.act settings state .flush = .ok next ∧
      Flushed sessions base first next contents := by
  obtain ⟨done, waiting, stored, split, laps, updates, all, tables⟩ := writes.written
  have within := writes.cursor
  by_cases work : state.1.pendingWork = true
  · have sorted : (waiting.map Materialised.time).Pairwise (· < ·) := by
      rw [split, List.map_append] at increasing
      exact (List.pairwise_append.1 increasing).2.1
    have act : IngestWriter.act settings state .flush = .ok (state.1.flushed true,
        state.2.commit (state.1.transaction state.1.lapRows state.1.pitUpdates)) := by
      simp [IngestWriter.act, IngestWriter.flush, work, Database.flush, WriteOutcome.commits]
    have stamped : (state.2.commit (state.1.transaction state.1.lapRows
        state.1.pitUpdates)).store sessions base =
        (contents.crossings.foldl (TimescaleStore.writeCrossing sessions) base).stamp contents.rows
          contents.latest := by
      unfold Database.store at tables ⊢
      rw [Database.commit, List.foldl_append, tables, List.foldl_cons, List.foldl_nil,
        IngestWriter.transaction, laps, updates, TimescaleStore.flush_eq sorted,
        TimescaleStore.writeCrossing_stamp, TimescaleStore.stamp_stamp, ← List.foldl_append,
        ← split, ← all, writes.latest, Nat.max_eq_right within]
    have reached : (state.1.flushed true).cursor = contents.latest := by
      change max state.1.cursor state.1.maxSeq = _
      rw [writes.latest, Nat.max_eq_right within]
    refine ⟨_, act, ⟨writes.cache, writes.keys, writes.laps, writes.latest, reached.le, ?_, ?_⟩,
      stamped⟩
    · simp [IngestWriter.flushed, IngestWriter.discard]
    · refine ⟨contents.crossings, [], contents.rows, by simp, rfl, rfl, ?_, ?_⟩
      · simp [IngestWriter.flushed, IngestWriter.discard]
      · rw [stamped, reached]
  · have act : IngestWriter.act settings state .flush = .ok state := by
      simp [IngestWriter.act, IngestWriter.flush, work]
    have idle : state.1.rows = [] ∧ state.1.lapRows = [] ∧ state.1.pitUpdates = [] ∧
        state.1.maxSeq ≤ state.1.cursor := by
      simpa [IngestWriter.pendingWork, and_assoc] using work
    have none : waiting = [] := eq_nil_of_parts (laps ▸ idle.2.1) (updates ▸ idle.2.2.1)
    have reached : state.1.cursor = contents.latest := by
      have := idle.2.2.2
      rw [writes.latest] at this
      omega
    refine ⟨state, act, writes, ?_⟩
    rw [tables, split, all, none, idle.1, reached]
    simp

theorem read_spec (read : contents.read settings first message = .ok after) :
    contents.crossings <+: after.crossings ∧ after.latest = max contents.latest message.sequence := by
  unfold Contents.read at read
  split at read
  · cases read
  · simp only [Attempt.bind_ok, pure, Except.pure, Except.ok.injEq] at read
    obtain ⟨converted, _, observed, _, rfl⟩ := read
    exact ⟨List.prefix_append _ _, rfl⟩

theorem readAll_begins {messages : List Msg}
    (read : messages.foldlM (Contents.read settings first) contents = .ok after) :
    contents.crossings <+: after.crossings := by
  induction messages generalizing contents with
  | nil =>
    have same : contents = after := by simpa [pure, Except.pure] using read
    simp [same]
  | cons message rest ih =>
    rw [List.foldlM_cons, Attempt.bind_ok] at read
    obtain ⟨middle, head, tail⟩ := read
    exact (read_spec head).1.trans (ih tail)

theorem increasing_begins {crossings crossings' : List Materialised} (begins : crossings <+: crossings')
    (increasing : (crossings'.map Materialised.time).Pairwise (· < ·)) :
    (crossings.map Materialised.time).Pairwise (· < ·) :=
  increasing.sublist (begins.map Materialised.time).sublist

/-- Takes and flushes in any order go through and keep the bookkeeping. -/
theorem run_writes (acts : List Act) (writes : Writes sessions base first state contents)
    (ordered : (acts.filterMap Act.message?).Pairwise fun early late =>
      early.sequence < late.sequence)
    (above : ∀ message ∈ acts.filterMap Act.message?, contents.latest < message.sequence)
    (read : (acts.filterMap Act.message?).foldlM (Contents.read settings first) contents =
      .ok after)
    (increasing : (after.crossings.map Materialised.time).Pairwise (· < ·)) :
    ∃ next, acts.foldlM (IngestWriter.act settings) state = .ok next ∧
      Writes sessions base first next after := by
  induction acts generalizing state contents with
  | nil =>
    have same : contents = after := by simpa [pure, Except.pure] using read
    exact ⟨state, rfl, same ▸ writes⟩
  | cons act acts ih =>
    cases act with
    | flush =>
      obtain ⟨next, run, flushed⟩ :=
        writes.flush settings (increasing_begins (readAll_begins read) increasing)
      obtain ⟨last, rest, done⟩ := ih flushed.writes ordered above read
      exact ⟨last, by rw [List.foldlM_cons, run]; exact rest, done⟩
    | take message =>
      have messages : (Act.take message :: acts).filterMap Act.message? =
          message :: acts.filterMap Act.message? := rfl
      rw [messages] at ordered above read
      rw [List.pairwise_cons] at ordered
      rw [List.foldlM_cons, Attempt.bind_ok] at read
      obtain ⟨middle, head, tail⟩ := read
      have here := above message (by simp)
      obtain ⟨next, run, writes⟩ := writes.take here head
      have reached : middle.latest = message.sequence := by
        rw [(read_spec head).2]
        omega
      obtain ⟨last, rest, done⟩ := ih writes ordered.2
        (fun later member => reached ▸ ordered.1 later member) tail
      exact ⟨last, by rw [List.foldlM_cons, run]; exact rest, done⟩

/-- Whatever the cuts, the tables after the last flush are those of the batches. -/
theorem flush_cuts_immaterial (settings : WriterSettings) (sessions : SessionTables)
    (store : TimescaleStore) (writer : IngestWriter) (fresh : Fresh writer)
    (synced : store.tables.cursor = writer.cursor) (stream : List Msg)
    (ordered : stream.Pairwise fun early late => early.sequence < late.sequence)
    (above : ∀ message ∈ stream, writer.cursor < message.sequence) (contents : Contents)
    (read : contentsOf settings writer stream = .ok contents)
    (increasing : (contents.crossings.map Materialised.time).Pairwise (· < ·)) :
    ∃ tables, ∀ acts, acts.filterMap Act.message? = stream →
      ∃ writer' db, (acts ++ [.flush]).foldlM (IngestWriter.act settings)
          (writer, ⟨writer.cursor, []⟩) = .ok (writer', db) ∧
        (db.store sessions store).tables = tables := by
  refine ⟨((contents.crossings.foldl (TimescaleStore.writeCrossing sessions) store).stamp
    contents.rows contents.latest).tables, fun acts messages => ?_⟩
  have start : Writes sessions store writer (writer, ⟨writer.cursor, []⟩)
      ⟨[], [], writer.laps, writer.maxSeq⟩ := by
    refine ⟨rfl, rfl, rfl, rfl, fresh.maxSeq.ge, by simp [fresh.buffered], [], [], [], rfl,
      fresh.lapRows, fresh.pitUpdates, by simp [fresh.rows], ?_⟩
    simp [Database.store, TimescaleStore.stamp, Tables.stamp, upsertCursor_eq, ← synced]
  rw [← messages] at ordered above read
  obtain ⟨next, run, writes⟩ := run_writes acts start ordered
    (by simpa [fresh.maxSeq] using above) read increasing
  obtain ⟨last, flush, flushed⟩ := writes.flush settings increasing
  refine ⟨last.1, last.2, ?_, by rw [flushed.tables]⟩
  rw [List.foldlM_append, run]
  change List.foldlM (IngestWriter.act settings) next [.flush] = _
  rw [List.foldlM_cons, flush]
  rfl

/-- A reader of three events of one race. -/
def raceText : PyText where
  deep := fun _ => false
  loads := fun payload =>
    if payload = "\x7b\"type\": \"lap_completed\", \"time\": 100, \"lap_number\": 1\x7d" then
      some (.object [("type", .str "lap_completed"), ("time", .int 100), ("lap_number", .int 1)])
    else if payload = "\x7b\"type\": \"pit_entry\", \"time\": 150, \"lap_number\": 2\x7d" then
      some (.object [("type", .str "pit_entry"), ("time", .int 150), ("lap_number", .int 2)])
    else if payload = "\x7b\"type\": \"lap_completed\", \"time\": 200, \"lap_number\": 2\x7d" then
      some (.object [("type", .str "lap_completed"), ("time", .int 200), ("lap_number", .int 2)])
    else none
  float := fun _ => none
  int := fun _ => none
  str := fun _ => ""

def raceSettings : WriterSettings where
  vehicleId := "car1"
  batchRows := 5000
  fetchBatch := 500
  maxBufferedRows := 200000
  text := raceText
  channelKey := fun _ => 1

def raceRegistry : ChannelRegistry :=
  ⟨1, "car1", 1700000000000, [⟨1, "lap.event", "derived:lap.event", "", .string, 0, 0⟩]⟩

/-- The writer once it has learned the registry. -/
def raceWriter : IngestWriter :=
  (IngestWriter.new raceSettings 1).learn raceRegistry (registryKeys (fun _ => 1) raceRegistry)

def raceMessage (sequence : Nat) (payloads : List String) : Msg :=
  ⟨sequence, some "batch", "tele.car1.derived", none, some ⟨1, 1700000000000, 1,
    payloads.map fun payload => ⟨1, 0, some (.s payload)⟩, 1⟩⟩

/-- A lap and a pit entry in one batch, the next lap in another. -/
def raceStream : List Msg :=
  [raceMessage 2 ["\x7b\"type\": \"lap_completed\", \"time\": 100, \"lap_number\": 1\x7d",
      "\x7b\"type\": \"pit_entry\", \"time\": 150, \"lap_number\": 2\x7d"],
    raceMessage 3 ["\x7b\"type\": \"lap_completed\", \"time\": 200, \"lap_number\": 2\x7d"]]

def emptyStore : TimescaleStore := ⟨⟨[], .empty⟩, ⟨[], .empty, .empty, 1, 1⟩⟩

theorem race_cuts_immaterial : ∃ tables, ∀ acts, acts.filterMap Act.message? = raceStream →
    ∃ writer db, (acts ++ [.flush]).foldlM (IngestWriter.act raceSettings)
        (raceWriter, ⟨1, []⟩) = .ok (writer, db) ∧
      (db.store ⟨[], []⟩ emptyStore).tables = tables := by
  have times : (contentsOf raceSettings raceWriter raceStream).toOption.map
      (fun contents => contents.crossings.map Materialised.time) =
        some [100000000, 150000000, 200000000] := by decide +kernel
  cases read : contentsOf raceSettings raceWriter raceStream with
  | error raised => simp [read, Except.toOption] at times
  | ok contents =>
    have increasing : contents.crossings.map Materialised.time =
        [100000000, 150000000, 200000000] := by simpa [read, Except.toOption] using times
    exact flush_cuts_immaterial raceSettings ⟨[], []⟩ emptyStore raceWriter
      ⟨rfl, rfl, rfl, rfl, rfl⟩ rfl raceStream (by decide) (by decide) contents read
      (by rw [increasing]; decide)

end OpenLaps.Ingest

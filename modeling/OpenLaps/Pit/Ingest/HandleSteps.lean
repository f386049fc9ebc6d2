import OpenLaps.Pit.Ingest.View

/- What handling one message does to the cursor machine. -/
namespace OpenLaps.Ingest

variable {site : Site} {system : System} {writer : IngestWriter}

/-- Lap events touch the lap buffers and the counters only. -/
theorem materialiseLap_spec {settings : WriterSettings} {payload : String} {after : IngestWriter}
    (done : writer.materialiseLap settings payload = .ok after) :
    ∃ laps lapRows pitUpdates health, after = { writer with
      laps := laps, lapRows := lapRows, pitUpdates := pitUpdates, health := health } := by
  rw [IngestWriter.materialiseLap] at done
  cases observed : writer.laps.observe settings.text payload with
  | error raised =>
    rw [observed] at done
    cases done
  | ok result =>
    obtain ⟨laps, row⟩ := result
    rw [observed] at done
    cases row with
    | none =>
      cases done
      exact ⟨_, _, _, _, rfl⟩
    | some materialised =>
      cases materialised <;> cases done <;> exact ⟨_, _, _, _, rfl⟩

theorem materialiseLaps_spec {settings : WriterSettings} {payloads : List String}
    {after : IngestWriter}
    (done : payloads.foldlM (IngestWriter.materialiseLap settings) writer = .ok after) :
    ∃ laps lapRows pitUpdates health, after = { writer with
      laps := laps, lapRows := lapRows, pitUpdates := pitUpdates, health := health } := by
  induction payloads generalizing writer with
  | nil =>
    cases done
    exact ⟨_, _, _, _, rfl⟩
  | cons payload rest ih =>
    rw [List.foldlM_cons] at done
    cases first : writer.materialiseLap settings payload with
    | error raised =>
      rw [first] at done
      cases done
    | ok middle =>
      rw [first] at done
      obtain ⟨laps, lapRows, pitUpdates, health, same⟩ := ih done
      obtain ⟨_, _, _, _, rfl⟩ := materialiseLap_spec first
      exact ⟨laps, lapRows, pitUpdates, health, same⟩

theorem bufferBatch_spec {settings : WriterSettings} {message : Msg} {batch : DecodedBatch}
    {after : IngestWriter} (done : writer.bufferBatch settings message batch = .ok after) :
    ∃ converted laps lapRows pitUpdates health, rowsFromBatch batch writer.keys = .ok converted ∧
      after = { writer with
        laps := laps, lapRows := lapRows, pitUpdates := pitUpdates, health := health
        rows := writer.rows ++ converted.rows.map (Prod.mk message.sequence)
        pending := writer.pending ++ [message]
        buffered := writer.buffered ++ [message.sequence]
        maxSeq := max writer.maxSeq message.sequence } := by
  rw [IngestWriter.bufferBatch] at done
  cases rows : rowsFromBatch batch writer.keys with
  | error raised =>
    rw [rows] at done
    cases done
  | ok converted =>
    rw [rows] at done
    simp only [bind, Except.bind, pure, Except.pure] at done
    split at done
    · cases done
    · rename_i middle folded
      cases done
      obtain ⟨laps, lapRows, pitUpdates, health, rfl⟩ := materialiseLaps_spec folded
      exact ⟨converted, laps, lapRows, pitUpdates, health, rfl, rfl⟩

theorem not_demanded {message : Msg} (listed : message ∈ site.stream)
    (other : ∀ batch, ¬ site.SupportedBatch message batch) :
    ¬ (demand site).batch message.sequence := by
  rintro ⟨wanted, batch, supported, same⟩
  rw [site.sequence_inj supported.listed listed same] at supported
  exact other batch supported

variable {message : Msg} {rest : List Msg} {lands : Bool} {handled : IngestWriter}

theorem handle_acked (system : System) (rest : List Msg) (lands : Bool)
    (run : writer.handle site.settings message = .ok (handled, .acked)) :
    (system.handle site writer message rest lands).process = .up handled (.handling rest) ∧
      (system.handle site writer message rest lands).view =
        (system.upView handled).acknowledge message.sequence lands := by
  rw [System.handle, run]
  refine ⟨rfl, ?_⟩
  cases lands with
  | true => rfl
  | false =>
    simp only [System.view, System.upView, Consumer.ack, Cursor.State.acknowledge,
      Bool.false_eq_true, if_false, List.append_nil]

theorem skips_handle (up : system.process = .up writer (.handling (message :: rest))) :
    system.skips (.handle lands) =
      if lands = true ∧ (message.sequence ≤ writer.cursor ∨ message.sequence ∈ writer.buffered)
      then some message.sequence else none := by
  unfold System.skips
  rw [up]
  cases lands <;> simp

theorem quiet_handle (up : system.process = .up writer (.handling (message :: rest)))
    (above : ¬ message.sequence ≤ writer.cursor) (unseen : message.sequence ∉ writer.buffered) :
    Quiet system (.handle lands) := by
  constructor
  · unfold System.commits
    rw [up]
  · rw [skips_handle up, if_neg]
    rintro ⟨_, below | present⟩
    · exact above below
    · exact unseen present

/-- What handling a message can come to. -/
inductive Handled (site : Site) (writer : IngestWriter) (message : Msg) :
    IngestWriter → Reply → Prop where
  | seen (old : message.sequence ≤ writer.cursor ∨ message.sequence ∈ writer.buffered) :
      Handled site writer message writer.skip .acked
  | registry (above : writer.cursor < message.sequence)
      (unseen : message.sequence ∉ writer.buffered)
      (kind : isRegistry message site.settings.vehicleId = true) (cache : RegistryCache)
      (keys : Dict (Nat × Nat) Nat)
      (learned : Learned site { writer with cache := cache, keys := keys }) :
      Handled site writer message
        (IngestWriter.noteRegistry { writer with cache := cache, keys := keys }) .acked
  | unsupported (above : writer.cursor < message.sequence)
      (unseen : message.sequence ∉ writer.buffered)
      (none : ∀ batch, ¬ site.SupportedBatch message batch) (cache : RegistryCache)
      (same : cache.channels = writer.cache.channels) :
      Handled site writer message
        { writer.noteReject cache with maxSeq := max writer.maxSeq message.sequence } .acked
  | stalled (above : writer.cursor < message.sequence)
      (unseen : message.sequence ∉ writer.buffered) (batch : SampleBatch)
      (supported : site.SupportedBatch message batch) (cache : RegistryCache)
      (same : cache.channels = writer.cache.channels) :
      Handled site writer message (writer.noteReject cache) (.stalled batch.registrySeq)
  | buffered (above : writer.cursor < message.sequence)
      (unseen : message.sequence ∉ writer.buffered) (batch : SampleBatch)
      (supported : site.SupportedBatch message batch) (channels : Dict Nat Channel)
      (cached : writer.cache.channels.get? batch.registrySeq = some channels)
      (handled : IngestWriter)
      (done : writer.bufferBatch site.settings message
        ⟨batch.registrySeq, batch.batchEpochUnixMs, batch.batchEpochMonoNs,
          batch.samples.filterMap (RegistryCache.decodeSample channels batch.batchEpochUnixMs)⟩ =
        .ok handled) :
      Handled site writer message handled .buffered

theorem handle_cases {reply : Reply} (grounded : Grounded site writer)
    (here : message ∈ site.stream)
    (run : writer.handle site.settings message = .ok (handled, reply)) :
    Handled site writer message handled reply := by
  rw [IngestWriter.handle] at run
  split at run
  · rename_i below
    cases run
    exact .seen (Or.inl below)
  rename_i reached
  have above := Nat.lt_of_not_le reached
  split at run
  · rename_i waiting
    cases run
    exact .seen (Or.inr waiting)
  rename_i unseen
  split at run
  · rename_i kind
    rw [IngestWriter.handleRegistry] at run
    cases reading : writer.readRegistry site.settings message with
    | error raised =>
      rw [reading] at run
      cases run
    | ok applied =>
      rw [reading] at run
      cases run
      obtain ⟨learned, cache, keys, same⟩ :=
        readRegistry_spec site grounded.learned here (Or.inl kind) reading
      subst same
      exact .registry above unseen kind cache keys learned
  rename_i kind
  split at run
  · cases run
  rename_i batch parsed
  rw [IngestWriter.handleBatch, RegistryCache.decodeBatch] at run
  cases version : RegistryCache.supported batch.formatVersion with
  | false =>
    rw [version, if_pos Bool.false_ne_true] at run
    cases run
    refine .unsupported above unseen ?_ _ rfl
    intro other supported
    have same : batch = other := Option.some.inj (parsed.symm.trans supported.parsed)
    rw [same, supported.version] at version
    cases version
  | true =>
    have supported : site.SupportedBatch message batch :=
      ⟨here, by simpa using kind, parsed, version⟩
    rw [version, if_neg (not_not_intro rfl)] at run
    cases cached : writer.cache.channels.get? batch.registrySeq with
    | none =>
      rw [cached] at run
      cases run
      exact .stalled above unseen batch supported _ rfl
    | some channels =>
      rw [cached] at run
      dsimp only at run
      cases buffering : writer.bufferBatch site.settings message
          ⟨batch.registrySeq, batch.batchEpochUnixMs, batch.batchEpochMonoNs,
            batch.samples.filterMap
              (RegistryCache.decodeSample channels batch.batchEpochUnixMs)⟩ with
      | error raised =>
        rw [buffering] at run
        cases run
      | ok taken =>
        rw [buffering] at run
        cases run
        exact .buffered above unseen batch supported channels cached handled buffering

/-- Counting a rejection teaches the cache nothing. -/
theorem learned_noteReject {cache : RegistryCache} (learned : Learned site writer)
    (same : cache.channels = writer.cache.channels) : Learned site (writer.noteReject cache) := by
  intro registrySeq channels found
  change cache.channels.get? registrySeq = some channels at found
  rw [same] at found
  exact learned registrySeq channels found

theorem handle_seen (old : message.sequence ≤ writer.cursor ∨ message.sequence ∈ writer.buffered) :
    writer.handle site.settings message = .ok (writer.skip, .acked) := by
  rw [IngestWriter.handle]
  split
  · rfl
  · rename_i above
    rw [if_pos (old.resolve_left above)]

theorem refined_skip (up : system.process = .up writer (.handling (message :: rest)))
    (grounded : Grounded site writer) (listed : ∀ other ∈ rest, other ∈ site.stream)
    (seen : message.sequence ≤ writer.cursor ∨ message.sequence ∈ writer.buffered) :
    Refined site system (.handle lands) (system.handle site writer message rest lands) := by
  obtain ⟨process, view⟩ := handle_acked system rest lands (handle_seen seen)
  refine ⟨valid_up process ⟨grounded.learned, grounded.buffered, grounded.held⟩ listed,
    .skip message.sequence lands, ?_, ?_, ?_, ?_⟩
  · rw [System.view_up up]
    rw [grounded.buffered] at seen
    exact seen
  · rw [view, System.view_up up]
    rfl
  · unfold System.commits
    rw [up]
    rfl
  · rw [skips_handle up]
    cases lands with
    | true => exact (if_pos ⟨rfl, seen⟩).symm
    | false => exact (if_neg fun both => nomatch both.1).symm

/-- A batch that joins the buffer is taken by the cursor machine. -/
theorem refined_take (up : system.process = .up writer (.handling (message :: rest)))
    (grounded : Grounded site writer) (listed : ∀ other ∈ rest, other ∈ site.stream)
    (quiet : Quiet system (.handle lands)) (above : writer.cursor < message.sequence)
    (unseen : message.sequence ∉ writer.buffered) {batch : SampleBatch}
    (supported : site.SupportedBatch message batch) {channels : Dict Nat Channel}
    (cached : writer.cache.channels.get? batch.registrySeq = some channels)
    (done : writer.bufferBatch site.settings message
      ⟨batch.registrySeq, batch.batchEpochUnixMs, batch.batchEpochMonoNs,
        batch.samples.filterMap (RegistryCache.decodeSample channels batch.batchEpochUnixMs)⟩ =
      .ok handled) (run : writer.handle site.settings message = .ok (handled, .buffered)) :
    Refined site system (.handle lands) (system.handle site writer message rest lands) := by
  rw [System.handle, run]
  obtain ⟨converted, laps, lapRows, pitUpdates, health, rows, rfl⟩ := bufferBatch_spec done
  obtain ⟨registry, published, generation, resolved⟩ :=
    rowsFromBatch_learned site writer grounded.learned batch cached
  refine ⟨valid_up rfl ⟨grounded.learned, ?_, grounded.held⟩ listed,
    .take message.sequence converted.rows, ?_, ?_, quiet.commits.symm, quiet.skips.symm⟩
  · change writer.buffered ++ [message.sequence] = (writer.pending ++ [message]).map Msg.sequence
    rw [grounded.buffered, List.map_append]
    rfl
  · rw [System.view_up up]
    rw [grounded.buffered] at unseen
    refine ⟨above, unseen, message, batch, supported, rfl, registry, published, generation, ?_⟩
    rw [batchRows, ← resolved, rows]
    rfl
  · rw [System.view_up up]
    simp only [System.view, System.upView, Cursor.State.apply, List.map_append, List.map_cons,
      List.map_nil]

theorem refined_handle (up : system.process = .up writer (.handling (message :: rest)))
    (grounded : Grounded site writer)
    (listed : ∀ other ∈ message :: rest, other ∈ site.stream) :
    Refined site system (.handle lands) (system.handle site writer message rest lands) := by
  have here := listed message List.mem_cons_self
  have others : ∀ other ∈ rest, other ∈ site.stream :=
    fun other member => listed other (List.mem_cons_of_mem message member)
  have quiet : writer.cursor < message.sequence → message.sequence ∉ writer.buffered →
      Quiet system (.handle lands) :=
    fun above unseen => quiet_handle up (Nat.not_le_of_lt above) unseen
  cases run : writer.handle site.settings message with
  | error raised =>
    have unseen : ¬ (message.sequence ≤ writer.cursor ∨ message.sequence ∈ writer.buffered) := by
      intro seen
      rw [handle_seen seen] at run
      cases run
    rw [not_or] at unseen
    rw [System.handle, run]
    exact refined_kill (quiet_handle up unseen.1 unseen.2)
  | ok result =>
    cases result with
    | mk handled reply =>
      cases handle_cases grounded here run with
      | seen old => exact refined_skip up grounded others old
      | registry above unseen kind cache keys learned =>
        obtain ⟨process, view⟩ := handle_acked system rest lands run
        have silent := quiet above unseen
        refine ⟨valid_up process ⟨learned, grounded.buffered, grounded.held⟩ others,
          .ack message.sequence lands, ?_, ?_, silent.commits.symm, silent.skips.symm⟩
        · apply not_demanded here
          intro batch supported
          rw [supported.kind] at kind
          cases kind
        · rw [view, System.view_up up]
          rfl
      | unsupported above unseen none cache same =>
        obtain ⟨process, view⟩ := handle_acked system rest lands run
        have silent := quiet above unseen
        have learned := learned_noteReject grounded.learned same
        refine ⟨valid_up process ⟨learned, grounded.buffered, grounded.held⟩ others,
          .pass message.sequence lands, not_demanded here none, ?_, silent.commits.symm,
          silent.skips.symm⟩
        rw [view, System.view_up up]
        rfl
      | stalled above unseen batch supported cache same =>
        rw [System.handle, run]
        have learned := learned_noteReject grounded.learned same
        refine refined_stay (quiet above unseen) rfl ⟨learned, grounded.buffered, listed⟩
          (fun other member => nomatch member) ?_
        rw [System.view_up up]
        rfl
      | buffered above unseen batch supported channels cached taken done =>
        exact refined_take up grounded others (quiet above unseen) above unseen supported cached
          done run

end OpenLaps.Ingest

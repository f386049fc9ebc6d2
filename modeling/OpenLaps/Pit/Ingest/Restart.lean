import OpenLaps.Pit.Ingest.Guarantees
import OpenLaps.Pit.Ingest.LapMemory
import OpenLaps.Pit.Ingest.LapSectors

/- Restarts of the writer and the lap rows in the database: what a crash costs, given that
the sectors of the lap under way are kept in memory only. -/
namespace OpenLaps.Ingest

namespace Site

/-- The message is a batch this build decodes. -/
def decodes (site : Site) (message : Msg) : Bool :=
  !isRegistry message site.settings.vehicleId &&
    message.asBatch.any fun batch => RegistryCache.supported batch.formatVersion

/-- The registries that can be come by. -/
def registries (site : Site) : List ChannelRegistry :=
  site.stream.filterMap fun message =>
    if isRegistry message site.settings.vehicleId ∨
        message.subject = registrySubject site.settings.vehicleId then message.asRegistry
    else none

def registry? (site : Site) (registrySeq : Nat) : Option ChannelRegistry :=
  site.registries.find? fun registry => registry.registrySeq = registrySeq

/-- The `lap.event` payloads of a message, in order. -/
def lapPayloads (site : Site) (message : Msg) : List String :=
  if site.decodes message then
    match message.asBatch with
    | none => []
    | some batch =>
      match site.registry? batch.registrySeq with
      | none => []
      | some registry =>
        match rowsFromBatch (resolve registry batch)
            (generationKeys site.settings registry) with
        | .ok converted => converted.lapEvents
        | .error _ => []
  else []

def payloadsUpTo (site : Site) (sequence : Nat) : List String :=
  (site.stream.filter fun message => message.sequence ≤ sequence).flatMap site.lapPayloads

def payloadsAfter (site : Site) (sequence : Nat) : List String :=
  (site.stream.filter fun message => sequence < message.sequence).flatMap site.lapPayloads

/-- Registries of one generation list the same channels: a changed catalog gets a new
`registry_seq`. -/
def Agreed (site : Site) : Prop :=
  ∀ first ∈ site.registries, ∀ second ∈ site.registries,
    first.registrySeq = second.registrySeq → first.channels = second.channels

/-- The materialiser that has read the stream up to a message, with the rows it made. -/
def reading (site : Site) (sequence : Nat) :
    Except PyError (LapMaterialiser × List Materialised) :=
  observeAll site.settings.text (.new site.settings.vehicleId) (site.payloadsUpTo sequence)

end Site

namespace System

/-- The lap rows in the database, in the order they were written. -/
def lapsWritten (system : System) : List LapRow := system.db.transactions.flatMap Transaction.laps

/-- Messages reach the writer in stream order, and a flush commits once or fails as a
whole. -/
def scheduled (site : Site) (system : System) (event : Event) : Bool :=
  match system.process, event with
  | .up writer (.handling (message :: _)), .handle _ =>
    site.stream.all fun earlier =>
      !site.decodes earlier || message.sequence ≤ earlier.sequence ||
        earlier.sequence ≤ writer.cursor || earlier.sequence ∈ writer.buffered
  | .up writer (.flushing _), .flush outcome =>
    outcome.write ≠ .refused && !(writer.pendingWork && outcome.commits && system.doubt)
  | _, _ => true

/-- A process starts between laps: the committed cursor separates no sector event from
the event of its lap. -/
def startsClean (site : Site) (system : System) (event : Event) : Bool :=
  match event with
  | .start _ =>
    cleanCut (eventsIn site.settings.text (site.payloadsUpTo system.db.cursor))
      (eventsIn site.settings.text (site.payloadsAfter system.db.cursor))
  | _ => true

end System

section Payloads

variable {site : Site} {message : Msg} {batch : SampleBatch}

theorem decodes_iff (listed : message ∈ site.stream) :
    site.decodes message = true ↔ ∃ batch, site.SupportedBatch message batch := by
  unfold Site.decodes
  constructor
  · intro decodes
    simp only [Bool.and_eq_true, Bool.not_eq_true', Option.any_eq_true] at decodes
    obtain ⟨kind, batch, parsed, version⟩ := decodes
    exact ⟨batch, listed, kind, parsed, version⟩
  · intro ⟨batch, supported⟩
    simp [supported.kind, supported.parsed, supported.version]

theorem mem_registries (registry : ChannelRegistry) :
    registry ∈ site.registries ↔ site.Published registry := by
  unfold Site.registries Site.Published
  rw [List.mem_filterMap]
  constructor
  · rintro ⟨message, listed, found⟩
    split at found
    · rename_i kind
      exact ⟨message, listed, found, kind⟩
    · cases found
  · rintro ⟨message, listed, parsed, kind⟩
    exact ⟨message, listed, by rw [if_pos kind]; exact parsed⟩

theorem lapPayloads_undecoded (other : site.decodes message = false) :
    site.lapPayloads message = [] := by
  rw [Site.lapPayloads, other, if_neg Bool.false_ne_true]

/-- Whichever registry of its generation a batch is decoded with, its payloads are the
same. -/
theorem lapPayloads_eq (agreed : site.Agreed) (supported : site.SupportedBatch message batch)
    {registry : ChannelRegistry} (published : site.Published registry)
    (generation : registry.registrySeq = batch.registrySeq) {converted : BatchRows}
    (rows : rowsFromBatch (resolve registry batch) (generationKeys site.settings registry) =
      .ok converted) : site.lapPayloads message = converted.lapEvents := by
  have decodes : site.decodes message = true :=
    (decodes_iff supported.listed).mpr ⟨batch, supported⟩
  have listed := (mem_registries registry).mpr published
  obtain ⟨first, found⟩ : ∃ first, site.registry? batch.registrySeq = some first := by
    rw [← Option.isSome_iff_exists, Site.registry?, List.find?_isSome]
    exact ⟨registry, listed, by simpa using generation⟩
  have own : first.registrySeq = batch.registrySeq := by
    simpa using List.find?_some found
  have channels := agreed first (List.mem_of_find?_eq_some found) registry listed
    (own.trans generation.symm)
  have content : RegistryCache.channelsById first = RegistryCache.channelsById registry := by
    rw [RegistryCache.channelsById, RegistryCache.channelsById, channels]
  have resolved : resolve first batch = resolve registry batch := by
    rw [resolve, resolve, content]
  have keyed : generationKeys site.settings first = generationKeys site.settings registry := by
    unfold generationKeys IngestWriter.learn registryKeys
    rw [channels, own, generation]
  rw [Site.lapPayloads, decodes, if_pos rfl, supported.parsed]
  simp only [found, resolved, keyed, rows]

theorem flatMap_filter {α β : Type} (items : List α) (keep : α → Bool) (image : α → List β)
    (nothing : ∀ item ∈ items, keep item = false → image item = []) :
    (items.filter keep).flatMap image = items.flatMap image := by
  induction items with
  | nil => rfl
  | cons item rest ih =>
    have others := ih fun other member => nothing other (List.mem_cons_of_mem item member)
    cases kept : keep item with
    | true => simp [kept, others]
    | false => simp [kept, others, nothing item List.mem_cons_self kept]

/-- The next message that brings payloads. -/
theorem payloads_next {low : Nat} (here : message ∈ site.stream) (above : low < message.sequence)
    (alone : ∀ other ∈ site.stream, low < other.sequence → other.sequence < message.sequence →
      site.lapPayloads other = []) :
    site.payloadsUpTo message.sequence = site.payloadsUpTo low ++ site.lapPayloads message ∧
      site.payloadsAfter low =
        site.lapPayloads message ++ site.payloadsAfter message.sequence := by
  obtain ⟨before, after, split⟩ := List.append_of_mem here
  have ordered := site.ordered
  rw [split, List.pairwise_append] at ordered
  obtain ⟨-, later, between⟩ := ordered
  have earlier : ∀ other ∈ before, other.sequence < message.sequence :=
    fun other member => between other member message List.mem_cons_self
  have beyond : ∀ other ∈ after, message.sequence < other.sequence :=
    fun other member => List.rel_of_pairwise_cons later member
  have silent : ∀ other ∈ before, low < other.sequence → site.lapPayloads other = [] := by
    intro other member high
    exact alone other (split ▸ List.mem_append_left _ member) high (earlier other member)
  have upTo : site.payloadsUpTo message.sequence =
      before.flatMap site.lapPayloads ++ site.lapPayloads message := by
    have all : (before.filter fun other => other.sequence ≤ message.sequence) = before :=
      List.filter_eq_self.mpr fun other member => by
        simpa using Nat.le_of_lt (earlier other member)
    have none : (after.filter fun other => other.sequence ≤ message.sequence) = [] :=
      List.filter_eq_nil_iff.mpr fun other member => by simpa using beyond other member
    unfold Site.payloadsUpTo
    rw [split, List.filter_append, List.filter_cons_of_pos (by simp), all, none]
    simp
  have upToLow : site.payloadsUpTo low = before.flatMap site.lapPayloads := by
    have none : (after.filter fun other => other.sequence ≤ low) = [] :=
      List.filter_eq_nil_iff.mpr fun other member => by
        simpa using above.trans (beyond other member)
    unfold Site.payloadsUpTo
    rw [split, List.filter_append, List.filter_cons_of_neg (by simpa using above), none,
      List.append_nil]
    apply flatMap_filter
    intro other member dropped
    exact silent other member (by simpa using dropped)
  have afterMessage : site.payloadsAfter message.sequence = after.flatMap site.lapPayloads := by
    have none : (before.filter fun other => message.sequence < other.sequence) = [] :=
      List.filter_eq_nil_iff.mpr fun other member => by
        simpa using Nat.le_of_lt (earlier other member)
    have all : (after.filter fun other => message.sequence < other.sequence) = after :=
      List.filter_eq_self.mpr fun other member => by simpa using beyond other member
    unfold Site.payloadsAfter
    rw [split, List.filter_append, List.filter_cons_of_neg (by simp), none, all, List.nil_append]
  have afterLow : site.payloadsAfter low =
      site.lapPayloads message ++ after.flatMap site.lapPayloads := by
    have all : (after.filter fun other => low < other.sequence) = after :=
      List.filter_eq_self.mpr fun other member => by
        simpa using above.trans (beyond other member)
    have none : (before.filter fun other => low < other.sequence).flatMap site.lapPayloads = [] := by
      rw [List.flatMap_eq_nil_iff]
      intro other member
      obtain ⟨listed, high⟩ := List.mem_filter.mp member
      exact silent other listed (by simpa using high)
    unfold Site.payloadsAfter
    rw [split, List.filter_append, List.filter_cons_of_pos (by simpa using above), all,
      List.flatMap_append, List.flatMap_cons, none, List.nil_append]
  exact ⟨by rw [upTo, upToLow], by rw [afterLow, afterMessage]⟩

end Payloads

section Buffer

variable {site : Site} {writer after : IngestWriter} {later : List LapEvent}
  {whole : LapMaterialiser}

theorem materialiseLap_observed {settings : WriterSettings} {payload : String}
    (done : writer.materialiseLap settings payload = .ok after) :
    ∃ row, writer.laps.observe settings.text payload = .ok (after.laps, row) ∧
      after.lapRows = writer.lapRows ++ lapRows row.toList := by
  rw [IngestWriter.materialiseLap] at done
  cases observed : writer.laps.observe settings.text payload with
  | error raised =>
    rw [observed] at done
    cases done
  | ok result =>
    cases result with
    | mk laps row =>
      rw [observed] at done
      cases row with
      | none =>
        cases done
        exact ⟨none, rfl, (List.append_nil _).symm⟩
      | some materialised =>
        cases materialised with
        | lap row =>
          cases done
          exact ⟨_, rfl, rfl⟩
        | pit update =>
          cases done
          exact ⟨_, rfl, (List.append_nil _).symm⟩

/-- The payloads of a batch do to the writer what they do to a materialiser that has read
everything before. -/
theorem materialiseLaps_observed {settings : WriterSettings} {payloads : List String}
    (done : payloads.foldlM (IngestWriter.materialiseLap settings) writer = .ok after)
    (continues : Continues (eventsIn settings.text payloads ++ later) writer.laps whole) :
    ∃ next rows, observeAll settings.text whole payloads = .ok (next, rows) ∧
      Continues later after.laps next ∧ after.lapRows = writer.lapRows ++ lapRows rows := by
  induction payloads generalizing writer whole with
  | nil =>
    cases done
    exact ⟨whole, [], rfl, continues, (List.append_nil _).symm⟩
  | cons payload rest ih =>
    rw [List.foldlM_cons] at done
    cases first : writer.materialiseLap settings payload with
    | error raised =>
      rw [first] at done
      cases done
    | ok middle =>
      rw [first] at done
      obtain ⟨row, observed, made⟩ := materialiseLap_observed first
      have split : eventsIn settings.text (payload :: rest) ++ later =
          (parse settings.text payload).toList ++ (eventsIn settings.text rest ++ later) := by
        unfold eventsIn
        cases parsed : parse settings.text payload <;> simp [parsed]
      rw [split] at continues
      obtain ⟨next, same, still⟩ := continues.observe observed
      obtain ⟨last, rows, others, comparable, written⟩ := ih done still
      refine ⟨last, row.toList ++ rows, ?_, comparable, ?_⟩
      · rw [observeAll_cons, same]
        show Except.map _ (observeAll settings.text next rest) = _
        rw [others]
        rfl
      · rw [written, made, lapRows_append, List.append_assoc]

theorem addSample_rows {keys : Dict (Nat × Nat) Nat} {registrySeq : Nat} {soFar next : BatchRows}
    {sample : DecodedSample} (filled : soFar.rows = [] → soFar.lapEvents = [])
    (added : addSample keys registrySeq soFar sample = .ok next) :
    next.rows = [] → next.lapEvents = [] := by
  unfold addSample at added
  split at added
  · cases added
    exact filled
  · split at added
    · cases added
      exact filled
    · rename_i value _
      cases time : fromTimestamp (.finite (sample.captureUnixMs / 1000)) with
      | error raised =>
        rw [time] at added
        cases added
      | ok instant =>
        rw [time] at added
        simp only [bind, Except.bind, pure, Except.pure] at added
        intro empty
        split at added
        · cases added
          simp at empty
        · split at added
          · cases added
            simp at empty
          · cases added
            simp at empty

/-- A batch without rows has no lap events. -/
theorem rowsFromBatch_rows {batch : DecodedBatch} {keys : Dict (Nat × Nat) Nat}
    {converted : BatchRows} (done : rowsFromBatch batch keys = .ok converted) :
    converted.rows = [] → converted.lapEvents = [] := by
  have folds : ∀ (samples : List DecodedSample) (soFar : BatchRows),
      (soFar.rows = [] → soFar.lapEvents = []) →
      samples.foldlM (addSample keys batch.registrySeq) soFar = .ok converted →
        converted.rows = [] → converted.lapEvents = [] := by
    intro samples
    induction samples with
    | nil =>
      intro soFar filled done
      cases done
      exact filled
    | cons sample rest ih =>
      intro soFar filled done
      rw [List.foldlM_cons] at done
      cases added : addSample keys batch.registrySeq soFar sample with
      | error raised =>
        rw [added] at done
        cases done
      | ok next =>
        rw [added] at done
        exact ih next (addSample_rows filled added) done
  exact folds batch.samples BatchRows.empty (fun _ => rfl) done

/-- Everything a decoded batch brings. -/
theorem bufferBatch_laps {settings : WriterSettings} {message : Msg} {batch : DecodedBatch}
    (done : writer.bufferBatch settings message batch = .ok after) :
    ∃ converted, rowsFromBatch batch writer.keys = .ok converted ∧
      after.rows = writer.rows ++ converted.rows.map (Prod.mk message.sequence) ∧
      ∀ later whole, Continues (eventsIn settings.text converted.lapEvents ++ later) writer.laps
          whole → ∃ next rows, observeAll settings.text whole converted.lapEvents = .ok (next, rows) ∧
        Continues later after.laps next ∧ after.lapRows = writer.lapRows ++ lapRows rows := by
  rw [IngestWriter.bufferBatch] at done
  cases rows : rowsFromBatch batch writer.keys with
  | error raised =>
    rw [rows] at done
    cases done
  | ok converted =>
    rw [rows] at done
    simp only [bind, Except.bind, pure, Except.pure] at done
    split at done
    · cases done
    · rename_i middle folded
      cases done
      refine ⟨converted, rfl, ?_, ?_⟩
      · obtain ⟨laps, lapRows, pitUpdates, health, same⟩ := materialiseLaps_spec folded
        rw [same]
      · intro later whole continues
        obtain ⟨next, rows, observed, still, written⟩ := materialiseLaps_observed folded continues
        exact ⟨next, rows, observed, still, written⟩

end Buffer

/-- The writer has read the stream up to `_max_seq` as one process would have, and the
rows it made are in the database or in its buffer. -/
structure LapsHeld (site : Site) (system : System) (writer : IngestWriter) : Prop where
  covered : ∀ message ∈ site.stream, site.decodes message = true →
    message.sequence ≤ writer.maxSeq →
      message.sequence ≤ writer.cursor ∨ message.sequence ∈ writer.buffered
  filled : writer.rows = [] → writer.lapRows = []
  laps : ∃ laps rows, site.reading writer.maxSeq = .ok (laps, rows) ∧
    Continues (eventsIn site.settings.text (site.payloadsAfter writer.maxSeq)) writer.laps laps ∧
    (system.doubt = false → system.lapsWritten ++ writer.lapRows = lapRows rows)

structure Unbroken (site : Site) (system : System) : Prop where
  valid : system.Valid site
  sound : Cursor.Sound (demand site) system.view
  durable : ∃ laps rows, site.reading system.db.cursor = .ok (laps, rows) ∧
    system.lapsWritten = lapRows rows
  memory : ∀ writer phase, system.process = .up writer phase → LapsHeld site system writer

section Steps

variable {site : Site} {system next : System} {writer : IngestWriter} {event : Event}

/-- A step that leaves the database alone. -/
theorem Unbroken.carry (unbroken : Unbroken site system) (valid : next.Valid site)
    (sound : Cursor.Sound (demand site) next.view) (db : next.db = system.db)
    (memory : ∀ writer phase, next.process = .up writer phase → LapsHeld site next writer) :
    Unbroken site next := by
  refine ⟨valid, sound, ?_, memory⟩
  unfold System.lapsWritten
  rw [db]
  exact unbroken.durable

theorem Unbroken.kill (unbroken : Unbroken site system) (valid : system.kill.Valid site)
    (sound : Cursor.Sound (demand site) system.kill.view) : Unbroken site system.kill :=
  unbroken.carry valid sound rfl fun _ _ running => nomatch running

/-- What the writer has dealt with is not above `_max_seq`. -/
theorem Unbroken.dealt (unbroken : Unbroken site system) {phase : Phase}
    (up : system.process = .up writer phase) {sequence : Nat}
    (seen : sequence ≤ writer.cursor ∨ sequence ∈ writer.buffered) :
    sequence ≤ writer.maxSeq := by
  have sound := unbroken.sound
  rw [System.view_up up] at sound
  rcases seen with below | waiting
  · exact below.trans sound.cursor_le
  · rw [(unbroken.valid.up writer phase up).1.buffered] at waiting
    exact sound.pending_le sequence waiting

/-- Whatever comes before the message in hand has been dealt with. -/
theorem scheduled_handle {message : Msg} {rest : List Msg} {lands : Bool}
    (up : system.process = .up writer (.handling (message :: rest)))
    (scheduled : system.scheduled site (.handle lands) = true) (earlier : Msg)
    (listed : earlier ∈ site.stream) (decodes : site.decodes earlier = true)
    (before : earlier.sequence < message.sequence) :
    earlier.sequence ≤ writer.cursor ∨ earlier.sequence ∈ writer.buffered := by
  unfold System.scheduled at scheduled
  rw [up] at scheduled
  have one := List.all_eq_true.mp scheduled earlier listed
  have later : ¬ message.sequence ≤ earlier.sequence := by omega
  simpa [decodes, later] using one

/-- A message above `_max_seq` is the next one to bring payloads. -/
theorem Unbroken.next_payloads (unbroken : Unbroken site system) {message : Msg} {rest : List Msg}
    {lands : Bool} (up : system.process = .up writer (.handling (message :: rest)))
    (scheduled : system.scheduled site (.handle lands) = true) (here : message ∈ site.stream)
    (above : writer.maxSeq < message.sequence) :
    site.payloadsUpTo message.sequence =
        site.payloadsUpTo writer.maxSeq ++ site.lapPayloads message ∧
      site.payloadsAfter writer.maxSeq =
        site.lapPayloads message ++ site.payloadsAfter message.sequence := by
  apply payloads_next here above
  intro other listed high low
  cases decodes : site.decodes other with
  | false => exact lapPayloads_undecoded decodes
  | true =>
    have seen := scheduled_handle up scheduled other listed decodes low
    have bound := unbroken.dealt up seen
    omega

/-- A message that is dealt with without payloads. -/
theorem Unbroken.pass (unbroken : Unbroken site system) {message : Msg} {rest : List Msg}
    {lands : Bool} (up : system.process = .up writer (.handling (message :: rest)))
    (scheduled : system.scheduled site (.handle lands) = true) (here : message ∈ site.stream)
    (other : site.decodes message = false) (cache : RegistryCache) (health : HealthState) :
    LapsHeld site system { writer with
      cache := cache
      health := health
      maxSeq := max writer.maxSeq message.sequence } := by
  have held := unbroken.memory writer _ up
  obtain ⟨laps, rows, reading, continues, written⟩ := held.laps
  refine ⟨?_, held.filled, ?_⟩
  · intro earlier listed decodes below
    by_cases low : earlier.sequence ≤ writer.maxSeq
    · exact held.covered earlier listed decodes low
    · have distinct : earlier.sequence ≠ message.sequence := by
        intro same
        rw [site.sequence_inj listed here same, other] at decodes
        cases decodes
      have before : earlier.sequence ≤ max writer.maxSeq message.sequence := below
      exact scheduled_handle up scheduled earlier listed decodes (by omega)
  · refine ⟨laps, rows, ?_, ?_, written⟩
    · by_cases above : writer.maxSeq < message.sequence
      · have payloads := (unbroken.next_payloads up scheduled here above).1
        rw [lapPayloads_undecoded other, List.append_nil] at payloads
        rw [Site.reading, max_eq_right (Nat.le_of_lt above), payloads]
        exact reading
      · rw [max_eq_left (not_lt.mp above)]
        exact reading
    · by_cases above : writer.maxSeq < message.sequence
      · have payloads := (unbroken.next_payloads up scheduled here above).2
        rw [lapPayloads_undecoded other, List.nil_append] at payloads
        rw [max_eq_right (Nat.le_of_lt above), ← payloads]
        exact continues
      · rw [max_eq_left (not_lt.mp above)]
        exact continues

/-- A batch that joins the buffer, with the rows of its lap events. -/
theorem Unbroken.take (agreed : site.Agreed) (unbroken : Unbroken site system) {message : Msg}
    {rest : List Msg} {lands : Bool} {after : IngestWriter} {batch : SampleBatch}
    {channels : Dict Nat Channel}
    (up : system.process = .up writer (.handling (message :: rest)))
    (scheduled : system.scheduled site (.handle lands) = true)
    (supported : site.SupportedBatch message batch) (fresh : writer.cursor < message.sequence)
    (unseen : message.sequence ∉ writer.buffered)
    (cached : writer.cache.channels.get? batch.registrySeq = some channels)
    (done : writer.bufferBatch site.settings message
      ⟨batch.registrySeq, batch.batchEpochUnixMs, batch.batchEpochMonoNs,
        batch.samples.filterMap (RegistryCache.decodeSample channels batch.batchEpochUnixMs)⟩ =
      .ok after) : LapsHeld site system after := by
  have held := unbroken.memory writer _ up
  have grounded := (unbroken.valid.up writer _ up).1
  have here := supported.listed
  have decodes := (decodes_iff here).mpr ⟨batch, supported⟩
  have above : writer.maxSeq < message.sequence := by
    by_contra low
    rcases held.covered message here decodes (not_lt.mp low) with below | waiting
    · omega
    · exact unseen waiting
  have highest : max writer.maxSeq message.sequence = message.sequence :=
    max_eq_right (Nat.le_of_lt above)
  obtain ⟨upTo, remaining⟩ := unbroken.next_payloads up scheduled here above
  obtain ⟨converted, conversion, extended, observed⟩ := bufferBatch_laps done
  obtain ⟨registry, published, generation, resolved⟩ :=
    rowsFromBatch_learned site writer grounded.learned batch cached
  have payloads := lapPayloads_eq agreed supported published generation
    (resolved.symm.trans conversion)
  obtain ⟨laps, rows, reading, continues, written⟩ := held.laps
  rw [remaining, payloads] at continues
  rw [payloads] at upTo
  have events : eventsIn site.settings.text
      (converted.lapEvents ++ site.payloadsAfter message.sequence) =
      eventsIn site.settings.text converted.lapEvents ++
        eventsIn site.settings.text (site.payloadsAfter message.sequence) := List.filterMap_append
  rw [events] at continues
  obtain ⟨final, more, read, still, made⟩ := observed _ laps continues
  obtain ⟨_, _, _, _, _, -, same⟩ := bufferBatch_spec done
  have maxSeq : after.maxSeq = message.sequence := by
    rw [same]
    exact highest
  have cursor : after.cursor = writer.cursor := by rw [same]
  have buffered : after.buffered = writer.buffered ++ [message.sequence] := by rw [same]
  refine ⟨?_, ?_, final, rows ++ more, ?_, ?_, ?_⟩
  · intro earlier listed others below
    rw [maxSeq] at below
    rw [cursor, buffered, List.mem_append, List.mem_singleton]
    by_cases last : earlier.sequence = message.sequence
    · exact Or.inr (Or.inr last)
    · rcases scheduled_handle up scheduled earlier listed others (by omega) with old | waiting
      · exact Or.inl old
      · exact Or.inr (Or.inl waiting)
  · rw [extended, made]
    intro empty
    obtain ⟨old, new⟩ := List.append_eq_nil_iff.mp empty
    have none := rowsFromBatch_rows conversion (List.map_eq_nil_iff.mp new)
    rw [none] at read
    cases read
    rw [held.filled old]
    rfl
  · rw [maxSeq, Site.reading, upTo, observeAll_append reading, read]
    rfl
  · rw [maxSeq]
    exact still
  · intro sure
    rw [made, ← List.append_assoc, written sure, lapRows_append]

/-- Where a step leaves the memory of a running process. -/
theorem Unbroken.arrive (unbroken : Unbroken site system) {moved : IngestWriter} {place : Phase}
    (valid : next.Valid site) (sound : Cursor.Sound (demand site) next.view)
    (db : next.db = system.db) (here : next.process = .up moved place)
    (held : LapsHeld site next moved) : Unbroken site next := by
  apply unbroken.carry valid sound db
  intro other phase running
  rw [here] at running
  cases running
  exact held

theorem Unbroken.handle (agreed : site.Agreed) (unbroken : Unbroken site system) {message : Msg}
    {rest : List Msg} {lands : Bool}
    (up : system.process = .up writer (.handling (message :: rest)))
    (scheduled : system.scheduled site (.handle lands) = true)
    (valid : (system.handle site writer message rest lands).Valid site)
    (sound : Cursor.Sound (demand site) (system.handle site writer message rest lands).view) :
    Unbroken site (system.handle site writer message rest lands) := by
  have held := unbroken.memory writer _ up
  obtain ⟨grounded, listed⟩ := unbroken.valid.up writer _ up
  have here := listed message List.mem_cons_self
  cases run : writer.handle site.settings message with
  | error raised =>
    rw [System.handle, run] at valid sound ⊢
    exact unbroken.kill valid sound
  | ok result =>
    cases result with
    | mk handled reply =>
      cases handle_cases grounded here run with
      | seen old =>
        rw [System.handle, run] at valid sound ⊢
        exact unbroken.arrive valid sound rfl rfl ⟨held.covered, held.filled, held.laps⟩
      | registry above unseen kind cache keys learned =>
        rw [System.handle, run] at valid sound ⊢
        exact unbroken.arrive valid sound rfl rfl ⟨held.covered, held.filled, held.laps⟩
      | unsupported above unseen none cache same =>
        have other : site.decodes message = false := by
          rw [← Bool.not_eq_true, decodes_iff here, not_exists]
          exact none
        have passed := unbroken.pass up scheduled here other cache
          (writer.noteReject cache).health
        rw [System.handle, run] at valid sound ⊢
        exact unbroken.arrive valid sound rfl rfl
          ⟨passed.covered, passed.filled, passed.laps⟩
      | stalled above unseen batch supported cache same =>
        rw [System.handle, run] at valid sound ⊢
        exact unbroken.arrive valid sound rfl rfl ⟨held.covered, held.filled, held.laps⟩
      | buffered above unseen batch supported channels cached taken done =>
        have joined := Unbroken.take agreed unbroken up scheduled supported above unseen cached
          done
        rw [System.handle, run] at valid sound ⊢
        exact unbroken.arrive valid sound rfl rfl ⟨joined.covered, joined.filled, joined.laps⟩

/-- A flush that commits the buffer. -/
theorem Unbroken.commit (unbroken : Unbroken site system) {after : After}
    (up : system.process = .up writer (.flushing after)) (sure : system.doubt = false)
    (pitUpdates : List PitStatusUpdate) :
    ∃ laps rows, site.reading
        (system.db.commit (writer.transaction writer.lapRows pitUpdates)).cursor =
          .ok (laps, rows) ∧
      system.lapsWritten ++ writer.lapRows = lapRows rows := by
  have sound := unbroken.sound
  rw [System.view_up up] at sound
  obtain ⟨laps, rows, reading, -, written⟩ := (unbroken.memory writer _ up).laps
  refine ⟨laps, rows, ?_, written sure⟩
  have cursor : (system.db.commit (writer.transaction writer.lapRows pitUpdates)).cursor =
      writer.maxSeq := by
    show upsertCursor system.db.cursor writer.maxSeq = writer.maxSeq
    rw [upsertCursor_eq]
    exact max_eq_right sound.committed_le
  rw [cursor]
  exact reading

theorem lapsWritten_commit (system : System) (transaction : Transaction) :
    { system with db := system.db.commit transaction }.lapsWritten =
      system.lapsWritten ++ transaction.laps := by
  unfold System.lapsWritten Database.commit
  rw [List.flatMap_append, List.flatMap_singleton]

/-- The buffer after a flush that wrote it. -/
theorem LapsHeld.flushed (held : LapsHeld site system writer) (sure : system.doubt = false)
    (written : next.lapsWritten = system.lapsWritten ++ writer.lapRows) :
    LapsHeld site next (writer.flushed true) := by
  obtain ⟨laps, rows, reading, continues, made⟩ := held.laps
  refine ⟨?_, fun _ => rfl, laps, rows, reading, continues, ?_⟩
  · intro message _ _ below
    exact Or.inl (below.trans (Nat.le_max_right writer.cursor writer.maxSeq))
  · intro _
    show next.lapsWritten ++ [] = lapRows rows
    rw [List.append_nil, written, made sure]

/-- The buffer after a flush whose reply was lost. -/
theorem LapsHeld.lost (held : LapsHeld site system writer) (sure : system.doubt = false)
    (doubt : next.doubt = !writer.rows.isEmpty)
    (written : next.lapsWritten = system.lapsWritten ++ writer.lapRows) :
    LapsHeld site next writer.operationalError := by
  obtain ⟨laps, rows, reading, continues, made⟩ := held.laps
  refine ⟨held.covered, held.filled, laps, rows, reading, continues, ?_⟩
  intro still
  rw [doubt] at still
  have empty : writer.rows = [] := by simpa using still
  have none := held.filled empty
  show next.lapsWritten ++ writer.lapRows = lapRows rows
  rw [written, made sure, none, List.append_nil]

theorem scheduled_flush {after : After} {outcome : FlushOutcome}
    (up : system.process = .up writer (.flushing after))
    (scheduled : system.scheduled site (.flush outcome) = true) :
    outcome.write ≠ .refused ∧
      (writer.pendingWork = true → outcome.write.commits = true → system.doubt = false) := by
  unfold System.scheduled at scheduled
  rw [up] at scheduled
  simp only [Bool.and_eq_true, decide_eq_true_eq, Bool.not_eq_true'] at scheduled
  refine ⟨scheduled.1, fun work commits => ?_⟩
  have sure := scheduled.2
  simpa [work, FlushOutcome.commits, commits] using sure

theorem Unbroken.flush (unbroken : Unbroken site system) {after : After} {outcome : FlushOutcome}
    (up : system.process = .up writer (.flushing after))
    (scheduled : system.scheduled site (.flush outcome) = true)
    (valid : (system.flush writer after outcome).Valid site)
    (sound : Cursor.Sound (demand site) (system.flush writer after outcome).view) :
    Unbroken site (system.flush writer after outcome) := by
  have held := unbroken.memory writer _ up
  obtain ⟨accepted, undoubted⟩ := scheduled_flush up scheduled
  obtain ⟨write, retry, landed⟩ := outcome
  -- every place a flush returns to has the flushed writer in it
  have placed : ∀ (next : System) (flushed : IngestWriter), next.process = System.resume flushed after →
      LapsHeld site next flushed →
        ∀ writer phase, next.process = .up writer phase → LapsHeld site next writer := by
    intro next flushed process kept other phase running
    rw [process] at running
    cases after <;> cases running <;> exact kept
  cases work : writer.pendingWork with
  | false =>
    rw [System.flush, flush_idle work] at valid sound ⊢
    exact unbroken.carry valid sound rfl
      (placed _ writer rfl ⟨held.covered, held.filled, held.laps⟩)
  | true =>
    cases write with
    | committed =>
      have sure := undoubted work rfl
      have written := lapsWritten_commit system
        (writer.transaction writer.lapRows writer.pitUpdates)
      obtain ⟨laps, rows, reading, made⟩ := unbroken.commit up sure writer.pitUpdates
      rw [System.flush, flush_committed work] at valid sound ⊢
      refine ⟨valid, sound, ⟨laps, rows, reading, ?_⟩, ?_⟩
      · exact written.trans made
      · exact placed _ (writer.flushed true) rfl (held.flushed sure written)
    | rolledBack =>
      rw [System.flush, flush_rolledBack work] at valid sound ⊢
      exact unbroken.carry valid sound rfl
        (placed _ writer.operationalError rfl ⟨held.covered, held.filled, held.laps⟩)
    | lost =>
      have sure := undoubted work rfl
      have written := lapsWritten_commit system
        (writer.transaction writer.lapRows writer.pitUpdates)
      obtain ⟨laps, rows, reading, made⟩ := unbroken.commit up sure writer.pitUpdates
      rw [System.flush, flush_lost work] at valid sound ⊢
      refine ⟨valid, sound, ⟨laps, rows, reading, ?_⟩, ?_⟩
      · exact written.trans made
      · exact placed _ writer.operationalError rfl (held.lost sure rfl written)
    | refused => exact absurd rfl accepted

/-- A scan by a running process, or by one that starts. -/
theorem Unbroken.scan (unbroken : Unbroken site system) {found : List Msg}
    {resume : IngestWriter → Process} (grounded : Grounded site writer)
    (held : LapsHeld site system writer) (valid : next.Valid site)
    (sound : Cursor.Sound (demand site) next.view)
    (resumed : ∀ scanned, ∃ health, resume scanned = .up { scanned with health := health } .top)
    (taken : system.scan site writer found resume = some next) : Unbroken site next := by
  rcases scan_cases grounded.learned taken with killed | ⟨cache, keys, -, moved⟩
  · rw [killed] at valid sound ⊢
    exact unbroken.kill valid sound
  · obtain ⟨health, process⟩ := resumed { writer with cache := cache, keys := keys }
    rw [moved] at valid sound ⊢
    exact unbroken.arrive valid sound rfl process ⟨held.covered, held.filled, held.laps⟩

theorem Unbroken.stepUp (agreed : site.Agreed) (unbroken : Unbroken site system) {phase : Phase}
    (up : system.process = .up writer phase) (scheduled : system.scheduled site event = true)
    (valid : next.Valid site) (sound : Cursor.Sound (demand site) next.view)
    (taken : system.stepUp site writer phase event = some next) : Unbroken site next := by
  have held := unbroken.memory writer phase up
  cases stepUp_cases taken with
  | fetch messages consumer idle delivered =>
    exact unbroken.arrive valid sound rfl rfl ⟨held.covered, held.filled, held.laps⟩
  | fetchFails messages consumer delivered =>
    exact unbroken.arrive valid sound rfl rfl ⟨held.covered, held.filled, held.laps⟩
  | turn _ place _ waiting paused routine same whole =>
    exact unbroken.arrive valid sound rfl rfl ⟨held.covered, held.filled, held.laps⟩
  | handle message rest lands => exact unbroken.handle agreed up scheduled valid sound
  | flush after outcome => exact unbroken.flush up scheduled valid sound
  | recover registrySeq found _ scanned =>
    exact unbroken.scan (unbroken.valid.up writer _ up).1 held valid sound
      (recovered_top registrySeq) scanned

/-- A process that starts between laps carries on as if it had read everything. -/
theorem Unbroken.start (unbroken : Unbroken site system) {found : List Msg}
    (clean : system.startsClean site (.start found) = true) :
    LapsHeld site system (.new site.settings system.db.cursor) := by
  obtain ⟨laps, rows, reading, written⟩ := unbroken.durable
  refine ⟨fun message _ _ below => Or.inl below, fun _ => rfl, laps, rows, reading, ?_, ?_⟩
  · exact continues_new reading clean
  · intro _
    show system.lapsWritten ++ [] = lapRows rows
    rw [List.append_nil]
    exact written

theorem Unbroken.step (agreed : site.Agreed) (unbroken : Unbroken site system)
    (scheduled : system.scheduled site event = true)
    (clean : system.startsClean site event = true)
    (taken : system.step site event = some next) : Unbroken site next := by
  obtain ⟨valid, action, enabled, effect, -, -⟩ := step_refined unbroken.valid taken
  have sound : Cursor.Sound (demand site) next.view := by
    rw [effect]
    exact unbroken.sound.apply enabled
  unfold System.step at taken
  split at taken
  · exact unbroken.scan (grounded_new site system.db.cursor) (unbroken.start clean) valid sound
      (fun scanned => ⟨scanned.health, rfl⟩) taken
  · cases taken
    exact unbroken.kill valid sound
  · rename_i writer phase up
    cases taken
    have held := unbroken.memory writer phase up
    exact unbroken.arrive valid sound rfl rfl ⟨held.covered, held.filled, held.laps⟩
  · rename_i writer phase up _ _
    exact unbroken.stepUp agreed up scheduled valid sound taken
  · cases taken

end Steps

theorem payloadsUpTo_zero (site : Site) : site.payloadsUpTo 0 = [] := by
  have none : (site.stream.filter fun message => message.sequence ≤ 0) = [] := by
    apply List.filter_eq_nil_iff.mpr
    intro message listed
    have positive := site.positive message listed
    simp only [decide_eq_true_eq]
    omega
  rw [Site.payloadsUpTo, none, List.flatMap_nil]

theorem unbroken_init (site : Site) : Unbroken site .init := by
  refine ⟨init_valid site, init_sound site, ?_, fun _ _ running => nomatch running⟩
  refine ⟨.new site.settings.vehicleId, [], ?_, rfl⟩
  show site.reading 0 = _
  rw [Site.reading, payloadsUpTo_zero]
  rfl

def Event.starts : Event → Bool
  | .start _ => true
  | _ => false

/-- The lap rows in the database are those of any run that never restarts and has
committed as much of the stream. -/
def System.LapsUndisturbed (site : Site) (system : System) : Prop :=
  ∀ (found : List Msg) (events : List Event) (once : System),
    (∀ event ∈ events, event.starts = false) →
    Machine.Along (System.step site) (fun state event => state.scheduled site event = true) .init
      (.start found :: events) →
    Machine.run (System.step site) .init (.start found :: events) = some once →
    once.db.cursor = system.db.cursor →
      (system.lapsWritten : Multiset LapRow) = (once.lapsWritten : Multiset LapRow)

/-- The lap rows are those of the stream up to the committed cursor. -/
theorem unbroken_along (site : Site) (agreed : site.Agreed) (events : List Event)
    (state final : System) (unbroken : Unbroken site state)
    (along : Machine.Along (System.step site) (fun state event =>
      state.scheduled site event = true ∧ state.startsClean site event = true) state events)
    (reached : Machine.run (System.step site) state events = some final) :
    Unbroken site final := by
  have always := Machine.always_of_along (Unbroken site) (fun _ held => held)
    (fun _ _ _ held allowed taken => held.step agreed allowed.1 allowed.2 taken) events state
    unbroken along
  exact always.final reached

/-- The first start of all finds nothing that could be lost. -/
theorem uninterrupted_clean (site : Site) (found : List Msg) (events : List Event)
    (once : ∀ event ∈ events, event.starts = false) :
    Machine.Along (System.step site) (fun state event => state.startsClean site event = true) .init
      (.start found :: events) := by
  have none : ∀ event ∈ events, ∀ state : System, state.startsClean site event = true := by
    intro event member state
    have single := once event member
    cases event with
    | start found => cases single
    | _ => rfl
  intro next taken
  refine ⟨?_, Machine.along_of_forall events next none⟩
  show cleanCut (eventsIn site.settings.text (site.payloadsUpTo 0)) _ = true
  rw [payloadsUpTo_zero]
  rfl

/-- Restarts leave no trace in the lap rows as long as every process starts between laps. -/
theorem restarts_keep_laps (site : Site) (agreed : site.Agreed) (events : List Event)
    (along : Machine.Along (System.step site) (fun state event =>
      state.scheduled site event = true ∧ state.startsClean site event = true) .init events) :
    Machine.Always (System.step site) (System.LapsUndisturbed site) .init events := by
  apply Machine.always_of_along (Unbroken site) _ _ events .init (unbroken_init site) along
  · intro system unbroken found others once single scheduled reached same
    have other := unbroken_along site agreed _ .init once (unbroken_init site)
      (Machine.along_and _ _ scheduled (uninterrupted_clean site found others single)) reached
    obtain ⟨laps, rows, reading, written⟩ := unbroken.durable
    obtain ⟨laps', rows', reading', written'⟩ := other.durable
    rw [same, reading] at reading'
    cases reading'
    rw [written, written']
  · intro state event next unbroken allowed taken
    exact unbroken.step agreed allowed.1 allowed.2 taken

/-- One generation with the channel of the lap events. -/
def lapRegistry : ChannelRegistry :=
  ⟨1, "car1", 1700000000000, [⟨1, "lap.event", "derived:lap.event", "", .string, 0, 0⟩]⟩

def lapRegistryMessage : Msg := ⟨1, some "registry", "tele.car1.catalog", some lapRegistry, none⟩

/-- The events of one lap, as the engine emits them: two sectors and the lap. -/
def lapEventsOf : List Timing.TimingEvent :=
  (Timing.processPoints (Timing.straight []) {} Timing.oneLap).2

def lapMessage (sequence : Nat) (events : List Timing.TimingEvent) : Msg :=
  ⟨sequence, some "batch", "tele.car1.derived", none, some ⟨1, 1700000000000, 1,
    events.map fun event => ⟨1, 0, some (.s (printFields (TimingApp.encodeEvent {} event)))⟩, 1⟩⟩

/-- A stream with the first sector of a lap in one batch, the rest of it in the next. -/
def lapSite : Site where
  settings := { trackside.settings with text := readerOf lapEventsOf }
  stream := [lapRegistryMessage, lapMessage 2 (lapEventsOf.take 1),
    lapMessage 3 (lapEventsOf.drop 1)]
  positive := by decide +kernel
  ordered := by decide +kernel

theorem lapSite_agreed : lapSite.Agreed := by
  have only : lapSite.registries = [lapRegistry] := by decide +kernel
  intro first one second two _
  rw [only, List.mem_singleton] at one two
  rw [one, two]

/-- The process dies before its first flush, comes back, and dies again between two laps. -/
def cleanRun : List Event :=
  [.start [lapRegistryMessage], .fetch [lapRegistryMessage, lapMessage 2 (lapEventsOf.take 1)],
    .handle true, .handle true, .crash, .start [lapRegistryMessage],
    .fetch [lapMessage 2 (lapEventsOf.take 1), lapMessage 3 (lapEventsOf.drop 1)], .handle true,
    .handle true, .settle true, .flush ⟨.committed, .committed, [2]⟩, .crash,
    .start [lapRegistryMessage], .fetch [lapMessage 3 (lapEventsOf.drop 1)], .handle true]

theorem cleanRun_keeps_laps :
    ((Machine.run (System.step lapSite) .init cleanRun).map fun final =>
      (final.db.cursor, final.lapsWritten.map fun lap => lap.sectors.length)) = some (3, [2]) ∧
      Machine.Always (System.step lapSite) (System.LapsUndisturbed lapSite) .init cleanRun := by
  have scheduled : Machine.checks (System.step lapSite)
      (fun state event => state.scheduled lapSite event) .init cleanRun = true := by
    decide +kernel
  have clean : Machine.checks (System.step lapSite)
      (fun state event => state.startsClean lapSite event) .init cleanRun = true := by
    decide +kernel
  refine ⟨by decide +kernel, ?_⟩
  exact restarts_keep_laps lapSite lapSite_agreed cleanRun
    (Machine.along_and _ _ (Machine.along_of_checks _ _ scheduled)
      (Machine.along_of_checks _ _ clean))

/-- The process dies after the commit of a sector and before its lap has come. -/
def cutRun : List Event :=
  [.start [lapRegistryMessage], .fetch [lapRegistryMessage, lapMessage 2 (lapEventsOf.take 1)],
    .handle true, .handle true, .settle true, .flush ⟨.committed, .committed, [2]⟩, .crash,
    .start [lapRegistryMessage], .fetch [lapMessage 3 (lapEventsOf.drop 1)], .handle true,
    .settle true, .flush ⟨.committed, .committed, [3]⟩]

/-- The same without a crash. -/
def wholeRun : List Event :=
  [.fetch [lapRegistryMessage, lapMessage 2 (lapEventsOf.take 1)], .handle true, .handle true,
    .settle true, .flush ⟨.committed, .committed, [2]⟩,
    .fetch [lapMessage 3 (lapEventsOf.drop 1)], .handle true, .settle true,
    .flush ⟨.committed, .committed, [3]⟩]

theorem cutRun_loses_sector : ¬ ∀ (site : Site) (events : List Event), site.Agreed →
    Machine.Along (System.step site) (fun state event => state.scheduled site event = true) .init
      events → Machine.Always (System.step site) (System.LapsUndisturbed site) .init events := by
  intro always
  have scheduled : Machine.checks (System.step lapSite)
      (fun state event => state.scheduled lapSite event) .init cutRun = true := by
    decide +kernel
  have steady : Machine.checks (System.step lapSite)
      (fun state event => state.scheduled lapSite event) .init
      (.start [lapRegistryMessage] :: wholeRun) = true := by
    decide +kernel
  have cut : ((Machine.run (System.step lapSite) .init cutRun).map fun final =>
      (final.db.cursor, final.lapsWritten.map fun lap => lap.sectors.length)) = some (3, [1]) := by
    decide +kernel
  have whole : ((Machine.run (System.step lapSite) .init
      (.start [lapRegistryMessage] :: wholeRun)).map fun final =>
      (final.db.cursor, final.lapsWritten.map fun lap => lap.sectors.length)) = some (3, [2]) := by
    decide +kernel
  have single : ∀ event ∈ wholeRun, event.starts = false := by
    have all : (wholeRun.all fun event => !event.starts) = true := by decide +kernel
    intro event member
    simpa using List.all_eq_true.mp all event member
  obtain ⟨final, reached, ends⟩ := Option.map_eq_some_iff.mp cut
  obtain ⟨once, arrived, stops⟩ := Option.map_eq_some_iff.mp whole
  simp only [Prod.mk.injEq] at ends stops
  have undisturbed := (always lapSite cutRun lapSite_agreed
    (Machine.along_of_checks _ _ scheduled)).final reached
  have same := undisturbed [lapRegistryMessage] wholeRun once single
    (Machine.along_of_checks _ _ steady) arrived (stops.1.trans ends.1.symm)
  have counts := congrArg (Multiset.map fun lap : LapRow => lap.sectors.length) same
  rw [Multiset.map_coe, Multiset.map_coe, ends.2, stops.2] at counts
  revert counts
  decide

end OpenLaps.Ingest

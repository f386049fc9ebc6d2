import OpenLaps.Pit.Ingest.System

/- Which rows a batch stands for: those of a registry of its own generation, with
the database's keys. The writer's cache and key table give no others. -/
namespace OpenLaps.Ingest

/-- The batch decoded against one registry. -/
def resolve (registry : ChannelRegistry) (batch : SampleBatch) : DecodedBatch :=
  ⟨batch.registrySeq, batch.batchEpochUnixMs, batch.batchEpochMonoNs,
    batch.samples.filterMap
      (RegistryCache.decodeSample (RegistryCache.channelsById registry) batch.batchEpochUnixMs)⟩

/-- The key table of a writer that knows one registry. -/
def generationKeys (settings : WriterSettings) (registry : ChannelRegistry) :
    Dict (Nat × Nat) Nat :=
  ((IngestWriter.new settings 0).learn registry (registryKeys settings.channelKey registry)).keys

/-- All sample rows of a batch under a registry of its generation. -/
def batchRows (settings : WriterSettings) (registry : ChannelRegistry) (batch : SampleBatch) :
    Except PyError (List SampleRow) :=
  (rowsFromBatch (resolve registry batch) (generationKeys settings registry)).map BatchRows.rows

/-- The registries the writer can come by: those it consumes as such, and those
on the catalog subject. -/
def Site.Published (site : Site) (registry : ChannelRegistry) : Prop :=
  ∃ message ∈ site.stream, message.asRegistry = some registry ∧
    (isRegistry message site.settings.vehicleId = true ∨
      message.subject = registrySubject site.settings.vehicleId)

theorem rowsFromBatch_congr (batch : DecodedBatch) (keys other : Dict (Nat × Nat) Nat)
    (agree : ∀ sample ∈ batch.samples, keys.get? (batch.registrySeq, sample.channel.id) =
      other.get? (batch.registrySeq, sample.channel.id)) :
    rowsFromBatch batch keys = rowsFromBatch batch other := by
  have folds : ∀ (samples : List DecodedSample) (soFar : BatchRows),
      (∀ sample ∈ samples, keys.get? (batch.registrySeq, sample.channel.id) =
        other.get? (batch.registrySeq, sample.channel.id)) →
      samples.foldlM (addSample keys batch.registrySeq) soFar =
        samples.foldlM (addSample other batch.registrySeq) soFar := by
    intro samples
    induction samples with
    | nil => exact fun _ _ => rfl
    | cons sample rest ih =>
      intro soFar same
      have first : addSample keys batch.registrySeq soFar sample =
          addSample other batch.registrySeq soFar sample := by
        rw [addSample, addSample, same sample List.mem_cons_self]
      rw [List.foldlM_cons, List.foldlM_cons, first]
      congr 1
      funext next
      exact ih next fun later member => same later (List.mem_cons_of_mem sample member)
  exact folds batch.samples BatchRows.empty agree

/-- A table filled under one generation: its own entries are found there, and
the other generations are untouched. -/
theorem get?_foldl_set (entries : List (Nat × Nat)) (nodup : (entries.map Prod.fst).Nodup)
    (registrySeq : Nat) (keys : Dict (Nat × Nat) Nat) (wanted : Nat × Nat) :
    (entries.foldl (fun keys entry => keys.set (registrySeq, entry.1) entry.2) keys).get? wanted =
      if wanted.1 = registrySeq then
        (Dict.lookup entries wanted.2).or (keys.get? wanted)
      else keys.get? wanted := by
  induction entries generalizing keys with
  | nil => simp [Dict.lookup]
  | cons entry rest ih =>
    rw [List.map_cons, List.nodup_cons] at nodup
    rw [List.foldl_cons, ih nodup.2, Dict.get?_set, Dict.lookup]
    by_cases generation : wanted.1 = registrySeq
    · rw [if_pos generation, if_pos generation]
      by_cases here : entry.1 = wanted.2
      · have same : (registrySeq, entry.1) = wanted := Prod.ext generation.symm here
        have absent : Dict.lookup rest wanted.2 = none :=
          (Dict.lookup_eq_none rest wanted.2).mpr (here ▸ nodup.1)
        rw [if_pos same, if_pos here, absent]
        rfl
      · have other : (registrySeq, entry.1) ≠ wanted := fun same => here (same ▸ rfl)
        rw [if_neg other, if_neg here]
    · have other : (registrySeq, entry.1) ≠ wanted := fun same => generation (same ▸ rfl)
      rw [if_neg generation, if_neg generation, if_neg other]

/-- The key of a channel of the registry. -/
theorem registryKeys_get? (channelKey : String → Nat) (registry : ChannelRegistry)
    (wireId : Nat) :
    (registryKeys channelKey registry).get? wireId =
      ((RegistryCache.channelsById registry).get? wireId).map fun channel =>
        channelKey channel.name := by
  rw [registryKeys, RegistryCache.channelsById, Dict.get?_ofRows, Dict.get?_ofRows,
    Option.map_map]
  rfl

theorem channelsById_id (registry : ChannelRegistry) {wireId : Nat} {channel : Channel}
    (found : (RegistryCache.channelsById registry).get? wireId = some channel) :
    channel.id = wireId := by
  rw [RegistryCache.channelsById, Dict.get?_ofRows, Option.map_id] at found
  simpa using List.find?_some found

/-- What the writer knows: every cached generation comes from a published
registry, and the key table has all channels of it. -/
def Learned (site : Site) (writer : IngestWriter) : Prop :=
  ∀ registrySeq channels, writer.cache.channels.get? registrySeq = some channels →
    ∃ registry, site.Published registry ∧ registry.registrySeq = registrySeq ∧
      channels = RegistryCache.channelsById registry ∧
      ∀ wireId channel, channels.get? wireId = some channel →
        writer.keys.get? (registrySeq, wireId) = some (site.settings.channelKey channel.name)

theorem learn_keys (writer : IngestWriter) (registry : ChannelRegistry) (keys : Dict Nat Nat)
    (wanted : Nat × Nat) :
    (writer.learn registry keys).keys.get? wanted =
      if wanted.1 = registry.registrySeq then
        (keys.get? wanted.2).or (writer.keys.get? wanted)
      else writer.keys.get? wanted :=
  get?_foldl_set keys.entries keys.nodup registry.registrySeq writer.keys wanted

theorem learned_learn (site : Site) (writer : IngestWriter) (registry : ChannelRegistry)
    (learned : Learned site writer) (published : site.Published registry) :
    Learned site (writer.learn registry (registryKeys site.settings.channelKey registry)) := by
  intro registrySeq channels found
  change (writer.cache.addRegistry registry).channels.get? registrySeq = some channels at found
  rw [RegistryCache.addRegistry, Dict.get?_set] at found
  by_cases same : registry.registrySeq = registrySeq
  · rw [if_pos same] at found
    cases found
    refine ⟨registry, published, same, rfl, ?_⟩
    intro wireId channel resolved
    rw [learn_keys, if_pos same.symm, registryKeys_get?, resolved]
    rfl
  · rw [if_neg same] at found
    obtain ⟨earlier, known, generation, content, keyed⟩ := learned registrySeq channels found
    refine ⟨earlier, known, generation, content, ?_⟩
    intro wireId channel resolved
    rw [learn_keys, if_neg (Ne.symm same)]
    exact keyed wireId channel resolved

/-- Recording a published registry keeps what is known, and changes cache and key
table only. -/
theorem applyRegistry_spec (site : Site) {writer applied : IngestWriter}
    {registry : ChannelRegistry} (learned : Learned site writer)
    (published : site.Published registry)
    (done : writer.applyRegistry site.settings registry = .ok applied) :
    Learned site applied ∧ ∃ cache keys, applied = { writer with cache := cache, keys := keys } := by
  rw [IngestWriter.applyRegistry] at done
  split at done
  · cases done
    exact ⟨learned, writer.cache, writer.keys, rfl⟩
  · rw [upsertRegistry] at done
    cases created : epochMsToDatetime registry.createdUnixMs with
    | error raised =>
      rw [created] at done
      cases done
    | ok instant =>
      rw [created] at done
      cases done
      exact ⟨learned_learn site writer registry learned published, _, _, rfl⟩

theorem readRegistry_spec (site : Site) {writer applied : IngestWriter} {message : Msg}
    (learned : Learned site writer) (listed : message ∈ site.stream)
    (kind : isRegistry message site.settings.vehicleId = true ∨
      message.subject = registrySubject site.settings.vehicleId)
    (done : writer.readRegistry site.settings message = .ok applied) :
    Learned site applied ∧ ∃ cache keys, applied = { writer with cache := cache, keys := keys } := by
  rw [IngestWriter.readRegistry] at done
  cases parsed : message.asRegistry with
  | none =>
    rw [parsed] at done
    cases done
  | some registry =>
    rw [parsed] at done
    exact applyRegistry_spec site learned ⟨message, listed, parsed, kind⟩ done

theorem generationKeys_get? (settings : WriterSettings) (registry : ChannelRegistry)
    (wireId : Nat) {channel : Channel}
    (found : (RegistryCache.channelsById registry).get? wireId = some channel) :
    (generationKeys settings registry).get? (registry.registrySeq, wireId) =
      some (settings.channelKey channel.name) := by
  rw [generationKeys, learn_keys, if_pos rfl, registryKeys_get?, found]
  rfl

/-- The rows a writer makes of a batch are the rows of a published registry of
the batch's own generation. -/
theorem rowsFromBatch_learned (site : Site) (writer : IngestWriter)
    (learned : Learned site writer) (batch : SampleBatch) {channels : Dict Nat Channel}
    (cached : writer.cache.channels.get? batch.registrySeq = some channels) :
    ∃ registry, site.Published registry ∧ registry.registrySeq = batch.registrySeq ∧
      rowsFromBatch ⟨batch.registrySeq, batch.batchEpochUnixMs, batch.batchEpochMonoNs,
        batch.samples.filterMap (RegistryCache.decodeSample channels batch.batchEpochUnixMs)⟩
        writer.keys = rowsFromBatch (resolve registry batch)
          (generationKeys site.settings registry) := by
  obtain ⟨registry, published, generation, content, keyed⟩ :=
    learned batch.registrySeq channels cached
  refine ⟨registry, published, generation, ?_⟩
  subst content
  apply rowsFromBatch_congr
  intro sample member
  obtain ⟨wire, _, decoded⟩ := List.mem_filterMap.mp member
  obtain ⟨channel, found, rfl⟩ := Option.map_eq_some_iff.mp decoded
  change writer.keys.get? (batch.registrySeq, channel.id) =
    (generationKeys site.settings registry).get? (batch.registrySeq, channel.id)
  rw [channelsById_id registry found, keyed wire.channelId channel found, ← generation,
    generationKeys_get? _ _ _ found]

end OpenLaps.Ingest

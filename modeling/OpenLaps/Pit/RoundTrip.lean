import OpenLaps.Agent.WindowRules
import OpenLaps.Pit.ValueCodec

/- What the agent encodes and the pit decodes against the same registry. -/
namespace OpenLaps.Pipeline

def tables (catalog : RuntimeCatalog) : Tables :=
  ⟨catalog.sourceMap, catalog.channelIds, catalog.policiesById, catalog.registry.channels⟩

/-- Between calls: the batcher holds nothing, and staged ids are those of the mapper. -/
structure Staging (settings : Settings) (state : State) : Prop where
  drained : state.pending = .empty
  mapped : ∀ entry ∈ state.staged, ∃ policy,
    settings.catalog.sourceMap.get? entry.2.2.sourceRef = some (entry.2.1, policy)

theorem Staging.ready {settings : Settings} {state : State} (staging : Staging settings state) :
    Ready settings state := by
  refine ⟨staging.drained, ?_⟩
  intro entry member
  obtain ⟨policy, mapped⟩ := staging.mapped entry member
  exact settings.resolves _ _ mapped

/-- The samples one source class's batches decode to, in order. -/
def decodedOf (cache : RegistryCache) (batches : List (TickBatch SampleBatch))
    (sourceClass : String) : List DecodedSample :=
  (batches.filter fun batch => batch.sourceClass = sourceClass).flatMap fun batch =>
    match (cache.decodeBatch batch.payload).2 with
    | .ok decoded => decoded.samples
    | .error _ => []

/-- A decoded sample gives a captured one back: its own channel name, its value, and
its capture time to half a millisecond, a microsecond and the rounding of its sum. -/
def Faithful (settings : Settings) (entry : Nat × Sample) (decoded : DecodedSample) : Prop :=
  ∃ policy value, settings.catalog.sourceMap.get? entry.2.sourceRef = some (entry.1, policy) ∧
    decoded.channel.name = policy.name ∧ decoded.value = some value ∧
    ValueKept settings.f32 policy entry.2.value value ∧
    |decoded.captureUnixMs - settings.wallClock entry.2.tMonoNs| ≤
      1 / 2 + 1 / 1000 + decoded.captureUnixMs / 2 ^ 51

/-- `flush` returns, and for each source class the batches decode, against the
catalog's registry, to the captured samples: each once, in order. -/
def RoundTrips (settings : Settings) (cache : RegistryCache) (state : State) : Prop :=
  ∃ batches, (flush settings state).2 = .ok batches ∧ ∀ sourceClass,
    List.Forall₂ (Faithful settings) (captured settings state.staged sourceClass)
      (decodedOf (cache.addRegistry settings.catalog.registry) batches sourceClass)

/-- No later channel of the registry took the id over. -/
def OwnsId (settings : Settings) (entry : Nat × Sample) : Prop :=
  ∀ policy, settings.catalog.sourceMap.get? entry.2.sourceRef = some (entry.1, policy) →
    settings.catalog.policiesById.get? entry.1 = some policy

/-- What becomes of one sample of a window on the wire and back. -/
def Via (settings : Settings) (window : Windows.Window Staged) (entry : Nat × Sample)
    (decoded : DecodedSample) : Prop :=
  ∃ policy channel wire, settings.catalog.policiesById.get? entry.1 = some policy ∧
    (RegistryCache.channelsById settings.catalog.registry).get? entry.1 = some channel ∧
    Batcher.encodeValue settings.f32 entry.2.value policy = .ok wire ∧
    decoded = ⟨RegistryCache.captureUnixMs (epochUnixMs settings window).toNat
        ((entry.2.tMonoNs - window.anchor stamp) / 1000).toNat, channel,
      some (RegistryCache.decodeValue channel (RegistryCache.wireValue wire))⟩

section

variable {settings : Settings} {window : Windows.Window Staged}

/-- Every id with a policy has a channel in the registry. -/
def Registered (settings : Settings) : Prop :=
  ∀ id policy, settings.catalog.policiesById.get? id = some policy →
    ∃ channel, (RegistryCache.channelsById settings.catalog.registry).get? id = some channel

/-- One batch, sample by sample. -/
theorem decodeSamples_via (registered : Registered settings)
    (within : window.Within stamp (Batcher.tickNs settings.tickMs)) {entries : List (Nat × Sample)}
    (inside : ∀ entry ∈ entries, entry ∈ encodeOrder window) {wires : List WireSample}
    (encoded : List.Forall₂ (fun entry wire => encodeIn settings window entry = .ok wire)
      entries wires) :
    List.Forall₂ (Via settings window) entries
      (wires.filterMap (RegistryCache.decodeSample
        (RegistryCache.channelsById settings.catalog.registry)
        (epochUnixMs settings window).toNat)) := by
  induction encoded with
  | nil => exact .nil
  | @cons entry wire rest wires here later ih =>
    have first := inside entry List.mem_cons_self
    rw [encodeIn_eq within first] at here
    split at here
    · cases here
    · rename_i policy resolved
      split at here
      · cases here
      · rename_i value accepted
        cases here
        obtain ⟨channel, found⟩ := registered entry.1 policy resolved
        have decoded : RegistryCache.decodeSample
            (RegistryCache.channelsById settings.catalog.registry)
            (epochUnixMs settings window).toNat
            ⟨entry.1, ((entry.2.tMonoNs - window.anchor stamp) / 1000).toNat, some value⟩ =
            some ⟨RegistryCache.captureUnixMs (epochUnixMs settings window).toNat
              ((entry.2.tMonoNs - window.anchor stamp) / 1000).toNat, channel,
              some (RegistryCache.decodeValue channel (RegistryCache.wireValue value))⟩ := by
          unfold RegistryCache.decodeSample
          rw [found]
          rfl
        rw [List.filterMap_cons_some decoded]
        exact .cons ⟨policy, channel, value, resolved, found, accepted, rfl⟩
          (ih fun other member => inside other (List.mem_cons_of_mem entry member))

theorem decodeBatch_addRegistry (cache : RegistryCache) (registry : ChannelRegistry)
    (epoch mono : Nat) (wires : List WireSample) :
    ((cache.addRegistry registry).decodeBatch ⟨registry.registrySeq, epoch, mono, wires, 1⟩).2 =
      .ok ⟨registry.registrySeq, epoch, mono,
        wires.filterMap (RegistryCache.decodeSample (RegistryCache.channelsById registry) epoch)⟩ := by
  have present : (cache.addRegistry registry).channels.get? registry.registrySeq =
      some (RegistryCache.channelsById registry) := by
    unfold RegistryCache.addRegistry
    rw [Dict.get?_set, if_pos rfl]
  have current : ¬ ¬ RegistryCache.supported 1 = true := not_not.mpr rfl
  unfold RegistryCache.decodeBatch
  dsimp only
  rw [if_neg current, present]

theorem decodedOf_cons (cache : RegistryCache) (batch : TickBatch SampleBatch)
    (rest : List (TickBatch SampleBatch)) (sourceClass : String) :
    decodedOf cache (batch :: rest) sourceClass =
      (if batch.sourceClass = sourceClass then
        match (cache.decodeBatch batch.payload).2 with
        | .ok decoded => decoded.samples
        | .error _ => []
      else []) ++ decodedOf cache rest sourceClass := by
  unfold decodedOf
  by_cases same : batch.sourceClass = sourceClass
  · rw [List.filter_cons_of_pos (by simpa using same), List.flatMap_cons, if_pos same]
  · rw [List.filter_cons_of_neg (by simpa using same), if_neg same, List.nil_append]

/-- The batches of one window, for one source class. -/
theorem delivered_via (registered : Registered settings)
    (within : window.Within stamp (Batcher.tickNs settings.tickMs)) (cache : RegistryCache)
    (sourceClass : String) :
    List.Forall₂ (Via settings window)
      (if kept settings window then Dict.under window.items sourceClass else [])
      (decodedOf (cache.addRegistry settings.catalog.registry) (delivered settings window)
        sourceClass) := by
  unfold kept delivered
  cases outcome : windowOutcome settings window with
  | error error => exact .nil
  | ok emitted =>
    change List.Forall₂ (Via settings window) (Dict.under window.items sourceClass)
      (decodedOf _ (emitted.map (tickBatch settings window)) sourceClass)
    rw [← Dict.group_filter]
    have matched := Attempt.all_ok outcome
    have inside : ∀ group ∈ (Dict.group window.items).entries, ∀ entry ∈ group.2,
        entry ∈ encodeOrder window :=
      fun group member entry listed => List.mem_flatMap.mpr ⟨group, member, listed⟩
    clear outcome
    generalize (Dict.group window.items).entries = groups at matched inside
    induction matched with
    | nil => exact .nil
    | @cons group batch groups batches here later ih =>
      have tail := ih fun other member =>
        inside other (List.mem_cons_of_mem group member)
      unfold Batcher.encodeClass at here
      split at here
      · cases here
      · split at here
        · cases here
        · split at here
          · cases here
          · rename_i wires encoded
            cases here
            rw [List.map_cons, decodedOf_cons]
            by_cases same : group.1 = sourceClass
            · rw [List.filter_cons_of_pos (by simpa using same), List.flatMap_cons]
              have named : (tickBatch settings window (group.1,
                  ⟨settings.catalog.registry.registrySeq, (epochUnixMs settings window).toNat,
                    (window.anchor stamp).toNat, wires, 1⟩)).sourceClass = sourceClass := same
              rw [if_pos named]
              apply List.rel_append _ tail
              unfold tickBatch
              dsimp only
              rw [decodeBatch_addRegistry]
              exact decodeSamples_via registered within
                (inside group List.mem_cons_self) (Attempt.all_ok encoded)
            · rw [List.filter_cons_of_neg (by simpa using same)]
              have named : ¬ (tickBatch settings window (group.1,
                  ⟨settings.catalog.registry.registrySeq, (epochUnixMs settings window).toNat,
                    (window.anchor stamp).toNat, wires, 1⟩)).sourceClass = sourceClass := same
              rw [if_neg named, List.nil_append]
              exact tail

theorem decodedOf_append (cache : RegistryCache) (first second : List (TickBatch SampleBatch))
    (sourceClass : String) :
    decodedOf cache (first ++ second) sourceClass =
      decodedOf cache first sourceClass ++ decodedOf cache second sourceClass := by
  unfold decodedOf
  rw [List.filter_append, List.flatMap_append]

/-- All windows of a flush call, for one source class. -/
theorem flush_via (registered : Registered settings) (cache : RegistryCache)
    (sourceClass : String) (found : List (Windows.Window Staged))
    (within : ∀ window ∈ found, window.Within stamp (Batcher.tickNs settings.tickMs)) :
    List.Forall₂ (fun entry decoded => ∃ window ∈ found, kept settings window = true ∧
        (∃ sourceClass, (sourceClass, entry) ∈ window.items) ∧ Via settings window entry decoded)
      (Dict.under ((found.filter (kept settings)).flatMap Windows.Window.items) sourceClass)
      (decodedOf (cache.addRegistry settings.catalog.registry)
        (found.flatMap (delivered settings)) sourceClass) := by
  rw [captured_eq]
  induction found with
  | nil => exact .nil
  | cons window rest ih =>
    rw [List.flatMap_cons, List.flatMap_cons, decodedOf_append]
    apply List.rel_append
    · have here := delivered_via registered (within window List.mem_cons_self) cache sourceClass
      by_cases keep : kept settings window = true
      · rw [if_pos keep] at here ⊢
        have inside : ∀ entry ∈ Dict.under window.items sourceClass,
            ∃ sourceClass, (sourceClass, entry) ∈ window.items := by
          intro entry member
          obtain ⟨item, listed, rfl⟩ := List.mem_map.mp member
          exact ⟨item.1, (List.mem_filter.mp listed).1⟩
        generalize Dict.under window.items sourceClass = entries at here inside
        generalize decodedOf _ (delivered settings window) sourceClass = decodeds at here
        induction here with
        | nil => exact .nil
        | cons first later ih' =>
          exact .cons ⟨window, List.mem_cons_self, keep, inside _ List.mem_cons_self, first⟩
            (ih' fun entry member => inside entry (List.mem_cons_of_mem _ member))
      · rw [if_neg keep] at here ⊢
        rw [List.forall₂_nil_left_iff.mp here]
        exact .nil
    · refine (ih fun other member => within other (List.mem_cons_of_mem window member)).imp ?_
      rintro entry decoded ⟨other, member, rest⟩
      exact ⟨other, List.mem_cons_of_mem window member, rest⟩

/-- The sum of the epoch and the offset is rounded three times. -/
theorem captureUnixMs_near (epochUnixMs tOffsetUs : Nat) :
    |RegistryCache.captureUnixMs epochUnixMs tOffsetUs - (epochUnixMs + (tOffsetUs : ℚ) / 1000)| ≤
      RegistryCache.captureUnixMs epochUnixMs tOffsetUs / 2 ^ 51 := by
  have tiny : (2 : ℚ) ^ (-1022 : Int) ≤ 1 / 2048 := by
    calc (2 : ℚ) ^ (-1022 : Int) ≤ 2 ^ (-11 : Int) :=
          zpow_le_zpow_right₀ (by norm_num) (by norm_num)
      _ = 1 / 2048 := by norm_num
  obtain ⟨epoch, epochEq⟩ : ∃ epoch : ℚ, epoch = epochUnixMs := ⟨_, rfl⟩
  obtain ⟨offset, offsetEq⟩ : ∃ offset : ℚ, offset = (tOffsetUs : ℚ) / 1000 := ⟨_, rfl⟩
  have epochSize : epoch = 0 ∨ 1 ≤ epoch := by
    rcases Nat.eq_zero_or_pos epochUnixMs with zero | positive
    · exact Or.inl (by rw [epochEq, zero, Nat.cast_zero])
    · exact Or.inr (by rw [epochEq]; exact_mod_cast positive)
  have offsetSize : offset = 0 ∨ 1 / 1000 ≤ offset := by
    rcases Nat.eq_zero_or_pos tOffsetUs with zero | positive
    · exact Or.inl (by rw [offsetEq, zero, Nat.cast_zero, zero_div])
    · right
      have whole : (1 : ℚ) ≤ tOffsetUs := by exact_mod_cast positive
      rw [offsetEq]
      linarith
  unfold RegistryCache.captureUnixMs
  rw [← epochEq, ← offsetEq]
  have nonneg : 0 ≤ epoch := by rcases epochSize with same | large <;> linarith
  have nonneg' : 0 ≤ offset := by rcases offsetSize with same | large <;> linarith
  have first : |Binary64.round epoch - epoch| ≤ |epoch| / 2 ^ 53 := by
    apply Binary64.abs_round_sub_normal
    rw [abs_of_nonneg nonneg]
    exact epochSize.imp_right fun large => by linarith
  have second : |Binary64.round offset - offset| ≤ |offset| / 2 ^ 53 := by
    apply Binary64.abs_round_sub_normal
    rw [abs_of_nonneg nonneg']
    exact offsetSize.imp_right fun large => by linarith
  rw [abs_of_nonneg nonneg] at first
  rw [abs_of_nonneg nonneg'] at second
  obtain ⟨low, high⟩ := abs_le.mp first
  obtain ⟨low', high'⟩ := abs_le.mp second
  have sum : Binary64.round epoch + Binary64.round offset = 0 ∨
      1 / 2048 ≤ Binary64.round epoch + Binary64.round offset := by
    rcases epochSize with zero | large
    · rcases offsetSize with zero' | large'
      · left
        rw [zero, zero', Binary64.round_zero, add_zero]
      · right
        linarith
    · right
      linarith
  have nonneg'' : 0 ≤ Binary64.round epoch + Binary64.round offset := by
    rcases sum with same | large <;> linarith
  have third : |Binary64.round (Binary64.round epoch + Binary64.round offset) -
      (Binary64.round epoch + Binary64.round offset)| ≤
        |Binary64.round epoch + Binary64.round offset| / 2 ^ 53 := by
    apply Binary64.abs_round_sub_normal
    rw [abs_of_nonneg nonneg'']
    exact sum.imp_right fun large => by linarith
  rw [abs_of_nonneg nonneg''] at third
  obtain ⟨low'', high''⟩ := abs_le.mp third
  rw [abs_le]
  constructor <;> linarith

/-- The decoded capture time is off by the rounding of the epoch, the truncation of the
offset and the rounding of their sum. -/
theorem via_time {c : ℚ} (clock : settings.wallClock = wallClockAt c)
    (within : window.Within stamp (Batcher.tickNs settings.tickMs))
    (fits : EpochFits settings window) {entry : Nat × Sample}
    (inside : ∃ sourceClass, (sourceClass, entry) ∈ window.items) :
    |RegistryCache.captureUnixMs (epochUnixMs settings window).toNat
          ((entry.2.tMonoNs - window.anchor stamp) / 1000).toNat -
        settings.wallClock entry.2.tMonoNs| ≤
      1 / 2 + 1 / 1000 + RegistryCache.captureUnixMs (epochUnixMs settings window).toNat
        ((entry.2.tMonoNs - window.anchor stamp) / 1000).toNat / 2 ^ 51 := by
  obtain ⟨sourceClass, listed⟩ := inside
  have after : window.anchor stamp ≤ entry.2.tMonoNs := (within (sourceClass, entry) listed).1
  have rounded := captureUnixMs_near (epochUnixMs settings window).toNat
    ((entry.2.tMonoNs - window.anchor stamp) / 1000).toNat
  have epoch : ((epochUnixMs settings window).toNat : ℚ) = (epochUnixMs settings window : ℚ) := by
    exact_mod_cast congrArg (Int.cast : Int → ℚ) (Int.toNat_of_nonneg fits.1.1)
  have near := Rounding.halfEven_near (settings.wallClock (window.anchor stamp))
  obtain ⟨micros, offset⟩ : ∃ micros : Int,
      micros = (entry.2.tMonoNs - window.anchor stamp) / 1000 := ⟨_, rfl⟩
  have low : micros * 1000 ≤ entry.2.tMonoNs - window.anchor stamp := by omega
  have high : entry.2.tMonoNs - window.anchor stamp < (micros + 1) * 1000 := by omega
  have natural : (micros.toNat : ℚ) = (micros : ℚ) := by
    exact_mod_cast congrArg (Int.cast : Int → ℚ) (Int.toNat_of_nonneg (show 0 ≤ micros by omega))
  have lowQ : (micros : ℚ) * 1000 ≤ entry.2.tMonoNs - window.anchor stamp := by exact_mod_cast low
  have highQ : (entry.2.tMonoNs : ℚ) - window.anchor stamp < (micros + 1) * 1000 := by
    exact_mod_cast high
  rw [← offset] at rounded ⊢
  rw [epoch, natural] at rounded
  generalize RegistryCache.captureUnixMs _ _ = capture at *
  unfold epochUnixMs at rounded
  rw [clock] at near rounded ⊢
  unfold wallClockAt at near rounded ⊢
  obtain ⟨down, up⟩ := abs_le.mp rounded
  rw [abs_le]
  constructor <;> linarith

end

section

variable {settings : Settings} {printable : Char → Bool} {path : String} {config : CatalogConfig}
  {derived : List DerivedChannel}

/-- The row an id resolves to: the last one that has it. -/
def lastRow (rows : List Row) (id : Nat) : Option Row :=
  rows.reverse.find? fun row => row.1.id = id

theorem lastRow_mem {rows : List Row} {id : Nat} {row : Row} (found : lastRow rows id = some row) :
    row ∈ rows := List.mem_reverse.mp (List.mem_of_find?_eq_some found)

theorem built_lookups (built : buildTables printable path config derived =
      .ok (tables settings.catalog)) (id : Nat) :
    settings.catalog.policiesById.get? id = (lastRow (tableRows config derived) id).map Prod.snd ∧
      (RegistryCache.channelsById settings.catalog.registry).get? id =
        (lastRow (tableRows config derived) id).map Prod.fst := by
  have holds := (buildTables_hold built).1
  constructor
  · have policies : settings.catalog.policiesById = _ := holds.policies
    rw [policies, Dict.get?_ofRows]
    rfl
  · have channels : settings.catalog.registry.channels = _ := holds.channels
    unfold RegistryCache.channelsById
    rw [channels, Dict.ofRows_map, Dict.get?_ofRows]
    rfl

theorem built_registered (built : buildTables printable path config derived =
      .ok (tables settings.catalog)) : Registered settings := by
  intro id policy resolved
  obtain ⟨policies, channels⟩ := built_lookups built id
  rw [policies, Option.map_eq_some_iff] at resolved
  obtain ⟨row, found, _⟩ := resolved
  exact ⟨row.1, by rw [channels, found]; rfl⟩

/-- The row behind a mapping. -/
theorem built_mapped (built : buildTables printable path config derived =
      .ok (tables settings.catalog)) {sourceRef : String} {id : Nat} {policy : ChannelPolicy}
    (mapped : settings.catalog.sourceMap.get? sourceRef = some (id, policy)) :
    ∃ row ∈ tableRows config derived, row.1.id = id ∧ row.2 = policy := by
  have holds := (buildTables_hold built).1
  have entries : settings.catalog.sourceMap.entries = _ := holds.mapped
  rw [Dict.get?_eq_some, entries] at mapped
  obtain ⟨row, member, same⟩ := List.mem_map.mp mapped
  cases same
  exact ⟨row, member, rfl, rfl⟩

/-- Rows are known by their names. -/
theorem row_of_name {rows : List Row} (names : (rows.map fun row => row.1.name).Nodup)
    {first second : Row} (member : first ∈ rows) (member' : second ∈ rows)
    (same : first.1.name = second.1.name) : first = second :=
  List.inj_on_of_nodup_map names member member' same

/-- A sample that went through the wire is faithful exactly when its id is its own. -/
theorem via_faithful (built : buildTables printable path config derived =
      .ok (tables settings.catalog)) {c : ℚ} (clock : settings.wallClock = wallClockAt c)
    {window : Windows.Window Staged}
    (within : window.Within stamp (Batcher.tickNs settings.tickMs))
    (fits : EpochFits settings window) {entry : Nat × Sample}
    (inside : ∃ sourceClass, (sourceClass, entry) ∈ window.items)
    (mapped : ∃ policy, settings.catalog.sourceMap.get? entry.2.sourceRef = some (entry.1, policy))
    {decoded : DecodedSample} (via : Via settings window entry decoded) :
    Faithful settings entry decoded ↔ OwnsId settings entry := by
  obtain ⟨own, mapping⟩ := mapped
  obtain ⟨policy, channel, wire, resolved, found, encoded, rfl⟩ := via
  obtain ⟨policies, channels⟩ := built_lookups built entry.1
  have names := (buildTables_hold built).2.1
  rw [policies, Option.map_eq_some_iff] at resolved
  obtain ⟨row, last, rfl⟩ := resolved
  rw [channels, last] at found
  cases found
  have coherent := tableRows_coherent config derived row (lastRow_mem last)
  obtain ⟨mine, listed, _, rfl⟩ := built_mapped built mapping
  have named := (tableRows_coherent config derived mine listed).name
  constructor
  · rintro ⟨policy, value, mapping', name, _, _, _⟩ policy' mapping''
    rw [mapping] at mapping' mapping''
    cases mapping'
    cases mapping''
    have same := row_of_name names (lastRow_mem last) listed (name.trans named.symm)
    rw [policies, last, same]
    rfl
  · intro owns
    have resolved := owns mine.2 mapping
    rw [policies, last] at resolved
    have same : row.2 = mine.2 := Option.some.inj resolved
    refine ⟨mine.2, _, mapping, ?_, rfl, ?_, via_time clock within fits inside⟩
    · rw [← same]
      exact coherent.name
    · rw [← same]
      exact decodeValue_encodeValue coherent encoded

end

/-- `flush` followed by the pit's decoder gives back every sample of the windows not
discarded, exactly when no window fails first on an infinity for a scaled integer channel
and no surviving sample's id was taken over by a later channel. -/
theorem roundTrips_iff (settings : Settings) (c : ℚ) (printable : Char → Bool)
    (path : String) (config : CatalogConfig) (derived : List DerivedChannel)
    (built : buildTables printable path config derived = .ok (tables settings.catalog))
    (clock : settings.wallClock = wallClockAt c) (cache : RegistryCache) (state : State)
    (staging : Staging settings state) :
    RoundTrips settings cache state ↔
      ∀ window ∈ windows settings state.staged, ¬ Overflows settings window ∧
        (Survives settings window → ∀ item ∈ window.items, OwnsId settings item.2) := by
  have ready := staging.ready
  have within := windows_within settings state.staged
  have outcome := flush_eq settings state ready
  have registered := built_registered built
  have mapped : ∀ window ∈ windows settings state.staged, ∀ entry,
      (∃ sourceClass, (sourceClass, entry) ∈ window.items) →
      ∃ policy, settings.catalog.sourceMap.get? entry.2.sourceRef = some (entry.1, policy) :=
    fun window found entry ⟨sourceClass, listed⟩ =>
      staging.mapped (sourceClass, entry) (mem_staged_of_window found listed)
  have raised : ∀ window ∈ windows settings state.staged,
      raises settings window = true ↔ Overflows settings window :=
    fun window found => raises_iff (within window found)
      fun item member => ready.known item (mem_staged_of_window found member)
  constructor
  · rintro ⟨batches, returned, faithful⟩ window found
    have quiet : ∀ window ∈ windows settings state.staged, raises settings window = false := by
      intro other found'
      by_contra loud
      obtain ⟨error, failed⟩ := outcome.2.2 ⟨other, found', by simpa using loud⟩
      rw [returned] at failed
      cases failed
    refine ⟨?_, ?_⟩
    · intro overflows
      have loud := (raised window found).mpr overflows
      rw [quiet window found] at loud
      cases loud
    · intro survives item member
      have same := outcome.2.1 quiet
      rw [returned] at same
      cases same
      have via := flush_via registered cache item.1 _ within
      have both := Attempt.forall₂_and via (faithful item.1)
      have listed : item.2 ∈ captured settings state.staged item.1 := by
        unfold captured Dict.under
        refine List.mem_map.mpr ⟨item, List.mem_filter.mpr ⟨?_, by simp⟩, rfl⟩
        exact List.mem_flatMap.mpr ⟨window, List.mem_filter.mpr
          ⟨found, (kept_iff (within window found)).mpr survives⟩, member⟩
      obtain ⟨decoded, _, ⟨other, found', keep, inside, passed⟩, faithful'⟩ :=
        Attempt.forall₂_exists both listed
      have fits := ((kept_iff (within other found')).mp keep).1
      exact (via_faithful built clock (within other found') fits inside
        (mapped other found' item.2 inside) passed).mp faithful'
  · intro fine
    have quiet : ∀ window ∈ windows settings state.staged, raises settings window = false := by
      intro window found
      by_contra loud
      exact (fine window found).1 ((raised window found).mp (by simpa using loud))
    refine ⟨_, outcome.2.1 quiet, ?_⟩
    intro sourceClass
    refine (flush_via registered cache sourceClass _ within).imp ?_
    rintro entry decoded ⟨window, found, keep, inside, passed⟩
    have survives := (kept_iff (within window found)).mp keep
    obtain ⟨listedClass, listed⟩ := inside
    exact (via_faithful built clock (within window found) survives.1 ⟨listedClass, listed⟩
      (mapped window found entry ⟨listedClass, listed⟩) passed).mpr
      ((fine window found).2 survives (listedClass, entry) listed)

/-- Ids of a catalog whose two ranges are apart are never taken over. -/
theorem ownsId_of_narrow {settings : Settings} {printable : Char → Bool} {path : String}
    {config : CatalogConfig} {derived : List DerivedChannel}
    (built : buildTables printable path config derived = .ok (tables settings.catalog))
    (narrow : config.channels.entries.length < derivedIdStart ∨ derived = [])
    (entry : Nat × Sample) : OwnsId settings entry := by
  intro policy mapped
  obtain ⟨row, listed, here, rfl⟩ := built_mapped built mapped
  have ids := (tableRows_ids_nodup config derived).mpr narrow
  rw [(built_lookups built entry.1).1]
  cases last : lastRow (tableRows config derived) entry.1 with
  | none =>
    have missing := List.find?_eq_none.mp last row (List.mem_reverse.mpr listed)
    exact absurd here (by simpa using missing)
  | some other =>
    have there : other.1.id = entry.1 := by simpa using List.find?_some last
    have same : other = row :=
      List.inj_on_of_nodup_map ids (lastRow_mem last) listed (there.trans here.symm)
    rw [same]
    rfl

/-- For every catalog whose two id ranges are apart and every staged samples, the windows hold
the staged samples in capture order, and unless a value overflows, `flush` followed by the
pit's decoder gives back every sample of the windows not discarded. -/
theorem flush_decode_round_trip (settings : Settings) (c : ℚ) (printable : Char → Bool)
    (path : String) (config : CatalogConfig) (derived : List DerivedChannel)
    (built : buildTables printable path config derived = .ok (tables settings.catalog))
    (narrow : config.channels.entries.length < derivedIdStart ∨ derived = [])
    (clock : settings.wallClock = wallClockAt c) (cache : RegistryCache) (state : State)
    (staging : Staging settings state)
    (quiet : ∀ window ∈ windows settings state.staged, ¬ Overflows settings window) :
    ((windows settings state.staged).flatMap Windows.Window.items).Perm state.staged ∧
      ((windows settings state.staged).flatMap Windows.Window.items).Pairwise
        (fun first second => stamp first ≤ stamp second) ∧
      RoundTrips settings cache state := by
  refine ⟨?_, ?_, ?_⟩
  · rw [windows_items]
    exact sortStaged_perm state.staged
  · rw [windows_items]
    exact sortStaged_sorted state.staged
  · apply (roundTrips_iff settings c printable path config derived built clock cache state
      staging).mpr
    exact fun window found => ⟨quiet window found, fun _ item _ => ownsId_of_narrow built narrow item.2⟩

/-- The double of a tenth. -/
def tenth : ℚ := Binary64.round (1 / 10)

/-- A scaled temperature and an unscaled speed on one bus. -/
def sensorConfig : CatalogConfig :=
  ⟨⟨[("car.oil_temp", ⟨"can0:ecu.OIL.temp", "degC", .double, none,
        some ⟨.uint, tenth, 0, by decide +kernel, by decide, by decide +kernel⟩, by decide,
        by decide⟩),
      ("car.rpm", ⟨"can0:ecu.ENGINE.rpm", "rpm", .double, none, none, by decide,
        unencoded .double⟩)],
      by decide⟩, by decide, by decide⟩

def oilPolicy : ChannelPolicy := ⟨"car.oil_temp", .uint, none, tenth, 0⟩

def enginePolicy : ChannelPolicy := ⟨"car.rpm", .double, none, 0, 0⟩

def oilChannel : Channel := ⟨1, "car.oil_temp", "can0:ecu.OIL.temp", "degC", .uint, tenth, 0⟩

def engineChannel : Channel := ⟨2, "car.rpm", "can0:ecu.ENGINE.rpm", "rpm", .double, 0, 0⟩

def sensorCatalog : RuntimeCatalog :=
  ⟨⟨[("can0:ecu.OIL.temp", (1, oilPolicy)), ("can0:ecu.ENGINE.rpm", (2, enginePolicy))],
      by decide⟩,
    ⟨[("car.oil_temp", 1), ("car.rpm", 2)], by decide⟩,
    ⟨[(1, oilPolicy), (2, enginePolicy)], by decide⟩,
    ⟨1, "car7", 0, [oilChannel, engineChannel]⟩, ""⟩

theorem sensorCatalog_built : buildTables (fun _ => true) "/profile" sensorConfig [] =
    .ok (tables sensorCatalog) := rfl

def sensorSettings : Settings :=
  { catalog := sensorCatalog
    tickMs := 20
    wallClock := wallClockAt (3400000000001 / 2)
    f32 := id
    bounds := defaultTick_bounds
    resolves := buildTables_resolves sensorCatalog_built }

/-- Three quarters of a degree, and two microseconds later a count that no double holds. -/
def sensorState : State :=
  { init with staged :=
      [("can0", 1, ⟨"can0:ecu.OIL.temp", 0, 0, .float (.finite (3 / 4))⟩),
        ("can0", 2, ⟨"can0:ecu.ENGINE.rpm", 1999, 0, .int (2 ^ 53 + 1)⟩)] }

theorem sensorState_staging : Staging sensorSettings sensorState := by
  refine ⟨rfl, ?_⟩
  intro entry member
  rcases List.mem_cons.mp member with rfl | later
  · exact ⟨oilPolicy, rfl⟩
  · rw [List.mem_singleton.mp later]
    exact ⟨enginePolicy, rfl⟩

theorem sensorState_quiet : ∀ window ∈ windows sensorSettings sensorState.staged,
    ¬ Overflows sensorSettings window := by
  have calm : ∀ window ∈ windows sensorSettings sensorState.staged,
      raises sensorSettings window = false := by decide +kernel
  intro window found overflows
  have loud := (raises_iff (windows_within _ _ window found) fun item member =>
    sensorState_staging.ready.known item (mem_staged_of_window found member)).mpr overflows
  rw [calm window found] at loud
  cases loud

theorem sensor_round_trip : RoundTrips sensorSettings .empty sensorState :=
  (flush_decode_round_trip sensorSettings (3400000000001 / 2) (fun _ => true) "/profile"
    sensorConfig [] sensorCatalog_built (Or.inr rfl) rfl .empty sensorState sensorState_staging
    sensorState_quiet).2.2

/-- A scale near the largest float. -/
def widePolicy : ChannelPolicy := ⟨"car.wide", .uint, none, 5 * 2 ^ 1021, 0⟩

def wideChannel : Channel := ⟨1, "car.wide", "can0:ecu.WIDE", "", .uint, 5 * 2 ^ 1021, 0⟩

/-- The temperature comes back further off than half a scale step, the count is another one,
and its time is further off than half a millisecond and a microsecond. A value near the
largest float comes back infinite. -/
theorem sensor_rounded :
    (∃ batches capture, (flush sensorSettings sensorState).2 = .ok batches ∧
      decodedOf (RegistryCache.empty.addRegistry sensorCatalog.registry) batches "can0" =
        [⟨1700000000000, oilChannel, some (.float (.finite (Binary64.round (8 / 10))))⟩,
          ⟨capture, engineChannel, some (.float (.finite (2 ^ 53)))⟩] ∧
      tenth / 2 < |Binary64.round (8 / 10) - 3 / 4| ∧
      1 / 2 + 1 / 1000 < |capture - sensorSettings.wallClock 1999|) ∧
    Batcher.encodeValue id (.float (.finite (15 * 2 ^ 1020))) widePolicy = .ok (.u 2) ∧
      RegistryCache.decodeValue wideChannel (.int 2) = .float .posInf := by
  refine ⟨?_, by decide +kernel, by decide +kernel⟩
  have decoded : (flush sensorSettings sensorState).2.toOption.map (fun batches =>
      decodedOf (RegistryCache.empty.addRegistry sensorCatalog.registry) batches "can0") =
        some [⟨1700000000000, oilChannel, some (.float (.finite (Binary64.round (8 / 10))))⟩,
          ⟨1740800000000001 / 1024, engineChannel, some (.float (.finite (2 ^ 53)))⟩] := by
    decide +kernel
  cases outcome : (flush sensorSettings sensorState).2 with
  | error error =>
    rw [outcome] at decoded
    cases decoded
  | ok batches =>
    rw [outcome] at decoded
    exact ⟨batches, _, rfl, Option.some.inj decoded, by decide +kernel, by decide +kernel⟩

end OpenLaps.Pipeline

import OpenLaps.Core.CatalogTables

namespace OpenLaps

/-- The generation a state file stands at. -/
def StateFile.generation : StateFile → Int
  | .missing => 0
  | .invalid _ => 0
  | .stored _ registrySeq => registrySeq

/-- The state file is kept, or moves one generation on to a digest it did not hold;
the generation handed out is the one then stored. -/
structure Advances (file next : StateFile) (hash : String) (given : Option Nat) : Prop where
  moved : next = file ∨
    next = .stored hash (file.generation + 1) ∧ ∀ registrySeq, file ≠ .stored hash registrySeq
  stored : ∀ registrySeq, given = some registrySeq → next = .stored hash registrySeq

theorem Advances.refused (file : StateFile) (hash : String) : Advances file file hash none :=
  ⟨Or.inl rfl, fun _ impossible => nomatch impossible⟩

theorem Advances.withhold {file next : StateFile} {hash : String} {given : Option Nat}
    (advances : Advances file next hash given) : Advances file next hash none :=
  ⟨advances.moved, fun _ impossible => nomatch impossible⟩

theorem updateRegistryStateLocked_advances (statePath : String) (io : StateIo) (file : StateFile)
    (hash : String) :
    Advances file (updateRegistryStateLocked statePath io file hash).1 hash
      (updateRegistryStateLocked statePath io file hash).2.toOption := by
  unfold updateRegistryStateLocked
  dsimp only
  split
  · exact Advances.refused file hash
  · cases file with
    | missing =>
      simp only [reduceCtorEq, ↓reduceIte]
      split
      · cases io.write with
        | some reason => exact Advances.refused _ hash
        | none =>
          refine ⟨Or.inr ⟨rfl, fun _ impossible => nomatch impossible⟩, ?_⟩
          intro registrySeq given
          cases given
          rfl
      · exact Advances.refused _ hash
    | invalid reason => exact Advances.refused _ hash
    | stored previousHash previousSeq =>
      by_cases same : previousHash = hash
      · subst same
        simp only [↓reduceIte]
        split
        · rename_i bounds
          refine ⟨Or.inl rfl, ?_⟩
          intro registrySeq given
          cases given
          rw [Int.toNat_of_nonneg (by omega)]
        · exact Advances.refused _ _
      · have other : some previousHash ≠ some hash := fun equal => same (Option.some.inj equal)
        simp only [other, ↓reduceIte]
        split
        · rename_i bounds
          cases io.write with
          | some reason => exact Advances.refused _ hash
          | none =>
            refine ⟨Or.inr ⟨rfl, ?_⟩, ?_⟩
            · intro registrySeq equal
              exact same (StateFile.stored.inj equal).1
            · intro registrySeq given
              cases given
              rw [Int.toNat_of_nonneg (by omega)]
        · exact Advances.refused _ hash

theorem updateRegistryState_advances (statePath : String) (io : StateIo) (file : StateFile)
    (hash : String) :
    Advances file (updateRegistryState statePath io file hash).1 hash
      (updateRegistryState statePath io file hash).2.toOption := by
  have locked := updateRegistryStateLocked_advances statePath io file hash
  unfold updateRegistryState
  dsimp only
  split
  · exact Advances.refused file hash
  · split
    · rename_i given _ same _
      rw [same] at locked
      exact locked.withhold
    · exact locked

section

variable (sha256 : HexDigest) (printable : Char → Bool)
  (parse : ByteArray → Except PyError CatalogConfig)

/-- One run of `build_runtime_catalog` on the state file. -/
theorem buildRuntimeCatalog_advances (file : StateFile) (run : Run) :
    Advances file (buildRuntimeCatalog sha256 printable parse file run).1
      (registryHash sha256 printable run)
      ((buildRuntimeCatalog sha256 printable parse file run).2.toOption.map
        fun catalog => catalog.registry.registrySeq) := by
  have updated := updateRegistryState_advances run.statePath run.io file
    (registryHash sha256 printable run)
  unfold buildRuntimeCatalog
  split
  · exact Advances.refused file _
  · exact Advances.refused file _
  · split
    · rename_i next error same
      rw [same] at updated
      exact updated
    · rename_i next registrySeq same
      rw [same] at updated
      refine ⟨updated.moved, ?_⟩
      intro seq given
      apply updated.stored
      unfold buildRegistry at given
      split at given
      · split at given
        · cases given
        · cases given
          rfl
      · cases given

variable {sha256 printable parse} in
/-- What a returned catalog holds. -/
theorem buildRuntimeCatalog_tables {file : StateFile} {run : Run} {catalog : RuntimeCatalog}
    (returned : (buildRuntimeCatalog sha256 printable parse file run).2 = .ok catalog) :
    ∃ config tables, parse run.catalogBytes = .ok config ∧
      buildTables printable run.path config run.derived = .ok tables ∧
      catalog.registry.channels = tables.channels := by
  unfold buildRuntimeCatalog at returned
  split at returned
  · cases returned
  · cases returned
  · rename_i vehicleId config loaded parsed
    split at returned
    · cases returned
    · unfold buildRegistry at returned
      dsimp only at returned
      split at returned
      · split at returned
        · cases returned
        · rename_i tables built
          cases returned
          exact ⟨config, tables, parsed, built, rfl⟩
      · cases returned

theorem buildRuns_cons (file : StateFile) (run : Run) (rest : List Run) :
    buildRuns sha256 printable parse file (run :: rest) =
      (run, (buildRuntimeCatalog sha256 printable parse file run).2) ::
        buildRuns sha256 printable parse
          (buildRuntimeCatalog sha256 printable parse file run).1 rest := rfl

/-- No run hands out a generation older than the state file it starts from, and
the file's own generation only for the digest it holds. -/
theorem buildRuns_after (file : StateFile) (runs : List Run) :
    ∀ outcome ∈ buildRuns sha256 printable parse file runs, ∀ catalog,
      outcome.2 = .ok catalog →
        file.generation ≤ catalog.registry.registrySeq ∧
          (catalog.registry.registrySeq = file.generation →
            file = .stored (registryHash sha256 printable outcome.1) file.generation) := by
  induction runs generalizing file with
  | nil => exact fun outcome member => absurd member List.not_mem_nil
  | cons run rest ih =>
    intro outcome member catalog returned
    have advances := buildRuntimeCatalog_advances sha256 printable parse file run
    rw [buildRuns_cons] at member
    rcases List.mem_cons.mp member with here | later
    · subst here
      have stored := advances.stored catalog.registry.registrySeq (by rw [returned]; rfl)
      rcases advances.moved with kept | ⟨bumped, _⟩
      · rw [← kept, stored]
        exact ⟨Int.le_refl _, fun _ => rfl⟩
      · have seq : (catalog.registry.registrySeq : Int) = file.generation + 1 :=
          (StateFile.stored.inj (stored.symm.trans bumped)).2
        omega
    · have after := ih _ outcome later catalog returned
      rcases advances.moved with kept | ⟨bumped, _⟩
      · rw [kept] at after
        exact after
      · rw [bumped] at after
        change file.generation + 1 ≤ _ ∧ _ at after
        omega

/-- Generations are handed out in order, and one generation for one digest. -/
theorem buildRuns_ordered (file : StateFile) (runs : List Run) :
    (buildRuns sha256 printable parse file runs).Pairwise fun earlier later =>
      ∀ first second, earlier.2 = .ok first → later.2 = .ok second →
        first.registry.registrySeq ≤ second.registry.registrySeq ∧
          (first.registry.registrySeq = second.registry.registrySeq →
            registryHash sha256 printable earlier.1 = registryHash sha256 printable later.1) := by
  induction runs generalizing file with
  | nil => exact List.Pairwise.nil
  | cons run rest ih =>
    rw [buildRuns_cons]
    refine List.pairwise_cons.mpr ⟨?_, ih _⟩
    intro later member first second returned returned'
    have advances := buildRuntimeCatalog_advances sha256 printable parse file run
    have stored := advances.stored first.registry.registrySeq (by rw [returned]; rfl)
    have after := buildRuns_after sha256 printable parse _ rest later member second returned'
    rw [stored] at after
    have order : (first.registry.registrySeq : Int) ≤ second.registry.registrySeq := after.1
    refine ⟨by omega, ?_⟩
    intro same
    have equal := after.2 (by rw [same]; rfl)
    exact (StateFile.stored.inj equal).1

end

/-- One digit for each value type. -/
theorem readable_valueType :
    Text.Readable fun type : ValueType => (toString type.number).toList := by
  intro first second after after' same
  cases first <;> cases second <;> first
    | exact ⟨rfl, (List.cons.inj same).2⟩
    | exact absurd (List.cons.inj same).1 (by decide)

theorem readable_reprDerived (printable : Char → Bool) :
    Text.Readable (reprDerived printable) := by
  have strings := Text.readable_stringText printable
  have fields := (((strings.pair ((readable_valueType.pair
    ((strings.trail [')']).lead ", ".toList)).lead ", ".toList))).lead ['('])
  have view : Function.Injective fun channel : DerivedChannel =>
      (channel.name.toList, (channel.valueType, channel.units.toList)) := by
    intro first second same
    obtain ⟨name, valueType, units⟩ := first
    simp only [Prod.mk.injEq, String.toList_inj] at same
    obtain ⟨rfl, rfl, rfl⟩ := same
    rfl
  exact fields.comp view

theorem reprDerivedChannels_injective (printable : Char → Bool) :
    Function.Injective (reprDerivedChannels printable) := by
  intro first second same
  have texts : Text.listText (reprDerived printable) first =
      Text.listText (reprDerived printable) second := by
    simpa only [reprDerivedChannels, String.ofList_inj] using same
  have readable := Text.readable_listText (readable_reprDerived printable)
    fun channel => ⟨'(', _, rfl, by decide⟩
  exact readable.injective texts

theorem HexDigest.no_nul (sha256 : HexDigest) (bytes : ByteArray) :
    '\x00' ∉ (sha256.hexdigest bytes).toList := by
  intro member
  have digit := sha256.hexadecimal bytes '\x00' member
  exact absurd digit (by decide)

/-- A generation's digest determines the catalog file and the derived channels. -/
theorem registryHash_injective {sha256 : HexDigest} {printable : Char → Bool} {first second : Run}
    (same : registryHash sha256 printable first = registryHash sha256 printable second) :
    first.catalogBytes = second.catalogBytes ∧ first.derived = second.derived := by
  have bytes := sha256.injective same
  have texts := String.toByteArray_inj.mp bytes
  have chars := congrArg String.toList texts
  simp only [String.toList_append, List.append_assoc] at chars
  have parts := Text.split_at_separator (sha256.no_nul first.catalogBytes)
    (sha256.no_nul second.catalogBytes) chars
  refine ⟨sha256.injective (String.toList_inj.mp parts.1), ?_⟩
  exact reprDerivedChannels_injective printable (String.toList_inj.mp parts.2)

section

variable (sha256 : HexDigest) (printable : Char → Bool)
  (parse : ByteArray → Except PyError CatalogConfig)

/-- Two runs on the same configuration. -/
def Run.SameConfiguration (first second : Run) : Prop :=
  first.catalogBytes = second.catalogBytes ∧ first.derived = second.derived

/-- What the registry generations of a series of runs promise to a consumer. -/
structure IdentifyTables (outcomes : List (Run × Except PyError RuntimeCatalog)) : Prop where
  nondecreasing : outcomes.Pairwise fun earlier later => ∀ first second,
    earlier.2 = .ok first → later.2 = .ok second →
      first.registry.registrySeq ≤ second.registry.registrySeq
  sameTable : ∀ one ∈ outcomes, ∀ other ∈ outcomes, ∀ first second,
    one.2 = .ok first → other.2 = .ok second →
      first.registry.registrySeq = second.registry.registrySeq →
      first.registry.channels = second.registry.channels
  stable : ∀ before one other after, outcomes = before ++ one :: other :: after →
    one.1.SameConfiguration other.1 → ∀ first second,
      one.2 = .ok first → other.2 = .ok second →
      first.registry.registrySeq = second.registry.registrySeq
  ids : ∀ outcome ∈ outcomes, ∀ catalog, outcome.2 = .ok catalog →
    (catalog.registry.channels.map Channel.id).Nodup
  names : ∀ outcome ∈ outcomes, ∀ catalog, outcome.2 = .ok catalog →
    (catalog.registry.channels.map Channel.name).Nodup
  sourceRefs : ∀ outcome ∈ outcomes, ∀ catalog, outcome.2 = .ok catalog →
    (catalog.registry.channels.map Channel.sourceRef).Nodup

/-- The catalog leaves the derived ids free, or there are no derived channels. -/
def Run.IdsFit (run : Run) : Prop :=
  ∀ config, parse run.catalogBytes = .ok config →
    config.channels.entries.length < derivedIdStart ∨ run.derived = []

variable {sha256 printable parse} in
/-- The table of a run that returned is a function of its configuration. -/
theorem buildRuns_table {file : StateFile} {runs : List Run}
    {outcome : Run × Except PyError RuntimeCatalog}
    (member : outcome ∈ buildRuns sha256 printable parse file runs) {catalog : RuntimeCatalog}
    (returned : outcome.2 = .ok catalog) : ∃ config,
    parse outcome.1.catalogBytes = .ok config ∧
      catalog.registry.channels = (tableRows config outcome.1.derived).map Prod.fst ∧
      (catalog.registry.channels.map Channel.name).Nodup ∧
      (catalog.registry.channels.map Channel.sourceRef).Nodup := by
  induction runs generalizing file with
  | nil => cases member
  | cons run rest ih =>
    rw [buildRuns_cons] at member
    rcases List.mem_cons.mp member with here | later
    · subst here
      obtain ⟨config, tables, parsed, built, channels⟩ := buildRuntimeCatalog_tables returned
      obtain ⟨holds, names, refs⟩ := buildTables_hold built
      rw [holds.channels] at channels
      refine ⟨config, parsed, channels, ?_, ?_⟩
      · rw [channels, List.map_map]
        exact names
      · rw [channels, List.map_map]
        exact refs
    · exact ih later

theorem buildRuns_stable (file : StateFile) (runs : List Run)
    (before : List (Run × Except PyError RuntimeCatalog))
    (one other : Run × Except PyError RuntimeCatalog)
    (after : List (Run × Except PyError RuntimeCatalog))
    (listed : buildRuns sha256 printable parse file runs = before ++ one :: other :: after)
    (unchanged : one.1.SameConfiguration other.1) (first second : RuntimeCatalog)
    (returned : one.2 = .ok first) (returned' : other.2 = .ok second) :
    first.registry.registrySeq = second.registry.registrySeq := by
  induction before generalizing file runs with
  | nil =>
    match runs with
    | [] => cases listed
    | [run] => cases listed
    | run :: next :: rest =>
      cases listed
      have advances := buildRuntimeCatalog_advances sha256 printable parse file run
      have stored := advances.stored first.registry.registrySeq (by rw [returned]; rfl)
      have advances' := buildRuntimeCatalog_advances sha256 printable parse
        (buildRuntimeCatalog sha256 printable parse file run).1 next
      have stored' := advances'.stored second.registry.registrySeq (by rw [returned']; rfl)
      have hash : registryHash sha256 printable next = registryHash sha256 printable run := by
        unfold registryHash
        rw [unchanged.1, unchanged.2]
      rw [stored', stored, hash] at advances'
      rcases advances'.moved with kept | ⟨_, fresh⟩
      · have equal := (StateFile.stored.inj kept).2
        omega
      · exact absurd rfl (fresh first.registry.registrySeq)
  | cons head before ih =>
    cases runs with
    | nil => cases listed
    | cons run rest =>
      rw [buildRuns_cons] at listed
      exact ih _ rest (List.cons.inj listed).2

/-- Outcomes of one generation were built for one digest. -/
def OneDigest (one other : Run × Except PyError RuntimeCatalog) : Prop :=
  ∀ first second, one.2 = .ok first → other.2 = .ok second →
    first.registry.registrySeq = second.registry.registrySeq →
    registryHash sha256 printable one.1 = registryHash sha256 printable other.1

theorem buildRuns_digest (file : StateFile) (runs : List Run) :
    ∀ one ∈ buildRuns sha256 printable parse file runs,
      ∀ other ∈ buildRuns sha256 printable parse file runs,
        OneDigest sha256 printable one other := by
  have ordered := (buildRuns_ordered sha256 printable parse file runs).imp
    fun {one other} below => show OneDigest sha256 printable one other from
      fun first second returned returned' => (below first second returned returned').2
  have symmetric : Std.Symm (OneDigest sha256 printable) :=
    ⟨fun one other digest first second returned returned' same =>
      (digest second first returned' returned same.symm).symm⟩
  intro one member other member'
  exact ordered.forall_of_forall (fun _ _ _ _ _ _ _ => rfl) member member'

end

/-- A stand-in for SHA-256 that cannot collide: the bytes written out in hexadecimal. -/
def hexDump (bytes : ByteArray) : String :=
  String.ofList (bytes.data.toList.flatMap fun byte => Text.hexDigits 2 byte.toNat)

theorem hexDump_injective : Function.Injective hexDump := by
  have lists : ∀ first second : List UInt8,
      (first.flatMap fun byte => Text.hexDigits 2 byte.toNat) =
        (second.flatMap fun byte => Text.hexDigits 2 byte.toNat) → first = second := by
    intro first
    induction first with
    | nil =>
      intro second same
      cases second with
      | nil => rfl
      | cons byte rest => cases same
    | cons byte rest ih =>
      intro second same
      cases second with
      | nil => cases same
      | cons byte' rest' =>
        rw [List.flatMap_cons, List.flatMap_cons] at same
        have lengths : (Text.hexDigits 2 byte.toNat).length =
            (Text.hexDigits 2 byte'.toNat).length := by
          rw [Text.hexDigits_length, Text.hexDigits_length]
        obtain ⟨heads, tails⟩ := List.append_inj same lengths
        have values := congrArg Text.hexValue heads
        rw [Text.hexValue_hexDigits 2 _ byte.toNat_lt,
          Text.hexValue_hexDigits 2 _ byte'.toNat_lt] at values
        rw [UInt8.toNat_inj.mp values, ih rest' tails]
  intro first second same
  have texts := lists _ _ (String.ofList_inj.mp same)
  exact ByteArray.ext (Array.toList_inj.mp texts)

theorem hexDigits_hexadecimal (width value : Nat) :
    ∀ char ∈ Text.hexDigits width value, char ∈ "0123456789abcdef".toList := by
  have digits : ∀ digit : Fin 16, Text.hexDigit digit ∈ "0123456789abcdef".toList := by decide
  induction width generalizing value with
  | zero => exact fun char member => absurd member List.not_mem_nil
  | succ width ih =>
    intro char member
    rw [Text.hexDigits, List.mem_append, List.mem_singleton] at member
    rcases member with high | low
    · exact ih (value / 16) char high
    · rw [low]
      exact digits ⟨value % 16, Nat.mod_lt value (by decide)⟩

def hexDumpDigest : HexDigest :=
  ⟨hexDump, hexDump_injective, by
    intro bytes char member
    rw [hexDump, String.toList_ofList, List.mem_flatMap] at member
    obtain ⟨byte, _, digit⟩ := member
    exact hexDigits_hexadecimal 2 byte.toNat char digit⟩

/-- The channel `car.a…a` fed from `host:a…a`. -/
def wideEntry (index : Nat) : String × ChannelConfig :=
  (String.ofList ("car.".toList ++ List.replicate (index + 1) 'a'),
    { sourceRef := String.ofList ("host:".toList ++ List.replicate (index + 1) 'a')
      units := ""
      type := .double
      rbe := none
      encode := none
      sourceGiven := fun empty => by
        have chars := congrArg String.toList empty
        rw [String.toList_ofList] at chars
        cases chars
      encodeNumeric := unencoded .double })

theorem replicate_injective {lead : List Char} {first second : Nat}
    (same : String.ofList (lead ++ List.replicate (first + 1) 'a') =
      String.ofList (lead ++ List.replicate (second + 1) 'a')) : first = second := by
  have lengths := congrArg List.length (String.ofList_inj.mp same)
  simp only [List.length_append, List.length_replicate] at lengths
  omega

theorem channelName_wide (index : Nat) : channelName (wideEntry index).1 = true := by
  have plain : (List.replicate (index + 1) 'a').all channelChar = true := by
    rw [List.all_eq_true]
    intro char member
    rw [List.eq_of_mem_replicate member]
    decide
  have named : namedUnder "car." channelChar (wideEntry index).1 = true := by
    unfold namedUnder wideEntry
    dsimp only
    rw [String.toList_ofList, show "car.".length = "car.".toList.length from rfl,
      List.drop_left, List.take_left, plain]
    rfl
  unfold channelName
  rw [named]
  rfl

/-- A catalog of `count + 1` channels. -/
def wideCatalog (count : Nat) : CatalogConfig :=
  ⟨⟨(List.range (count + 1)).map wideEntry, by
      rw [List.map_map]
      exact List.nodup_range.map fun _ _ same => replicate_injective same⟩,
    by
      intro empty
      exact absurd (List.map_eq_nil_iff.mp empty) (by simp),
    by
      intro name member
      rw [Dict.keys, List.map_map, List.mem_map] at member
      obtain ⟨index, _, same⟩ := member
      rw [← same]
      exact channelName_wide index⟩

theorem catalogRows_refs (channelId : Nat) (entries : List (String × ChannelConfig)) :
    ((catalogRows channelId entries).map fun row => row.1.sourceRef) =
      entries.map fun entry => entry.2.sourceRef := by
  induction entries generalizing channelId with
  | nil => rfl
  | cons entry rest ih =>
    rw [catalogRows, List.map_cons, ih]
    rfl

theorem wideCatalog_distinct (count : Nat) (bounded : count < 2 ^ 31) :
    Distinct (tableRows (wideCatalog count) defaultDerivedChannels) := by
  have leads : ∀ row ∈ derivedRows derivedIdStart defaultDerivedChannels,
      row.1.sourceRef.toList.head? = some 'd' ∧ row.1.name.toList.head? ≠ some 'c' := by
    decide
  refine ⟨?_, ?_, ?_⟩
  · rw [tableRows, List.map_append, catalogRows_refs]
    refine List.nodup_append.mpr ⟨?_, by decide, ?_⟩
    · change (((List.range (count + 1)).map wideEntry).map fun entry => entry.2.sourceRef).Nodup
      rw [List.map_map]
      exact List.nodup_range.map fun _ _ same => replicate_injective same
    · intro ref member other member' same
      obtain ⟨entry, listed, rfl⟩ := List.mem_map.mp member
      obtain ⟨index, _, rfl⟩ := List.mem_map.mp listed
      obtain ⟨row, listed', rfl⟩ := List.mem_map.mp member'
      have lead := (leads row listed').1
      rw [← same] at lead
      change (String.ofList _).toList.head? = _ at lead
      rw [String.toList_ofList] at lead
      cases lead
  · rw [tableRows, List.map_append, catalogRows_names]
    refine List.nodup_append.mpr ⟨(wideCatalog count).channels.nodup, by decide, ?_⟩
    intro name member other member' same
    obtain ⟨entry, listed, rfl⟩ := List.mem_map.mp member
    obtain ⟨index, _, rfl⟩ := List.mem_map.mp listed
    obtain ⟨row, listed', rfl⟩ := List.mem_map.mp member'
    apply (leads row listed').2
    rw [← same]
    change (String.ofList _).toList.head? = _
    rw [String.toList_ofList]
    rfl
  · intro row member
    have listed : row.1.id ∈
        (tableRows (wideCatalog count) defaultDerivedChannels).map fun row => row.1.id :=
      List.mem_map_of_mem member
    have length : (wideCatalog count).channels.entries.length = count + 1 := by
      change ((List.range (count + 1)).map wideEntry).length = count + 1
      rw [List.length_map, List.length_range]
    rw [tableRows_ids, List.mem_append, List.mem_range'_1, List.mem_range'_1, length] at listed
    have derived : defaultDerivedChannels.length = 9 := rfl
    unfold derivedIdStart at listed
    omega

/-- A first start with the default derived channels, on a machine that answers. -/
def firstStart : Run :=
  ⟨"/profile", "/profile/.registry-state.json", ⟨#[]⟩, .ok "car7", defaultDerivedChannels, 0,
    ⟨none, none, none, none⟩⟩

theorem firstStart_returns {catalog : CatalogConfig} {tables : Tables}
    (built : buildTables (fun _ => true) firstStart.path catalog firstStart.derived = .ok tables) :
    (buildRuntimeCatalog hexDumpDigest (fun _ => true) (fun _ => .ok catalog) .missing
      firstStart).2 = .ok ⟨tables.sourceMap, tables.channelIds, tables.policiesById,
        ⟨1, "car7", 0, tables.channels⟩, hexDump firstStart.catalogBytes⟩ := by
  change buildRegistry hexDumpDigest (fun _ => true) firstStart "car7" catalog 1 = _
  unfold buildRegistry
  rw [if_pos (by decide), built]
  rfl

theorem wideCatalog_reuses_id (count : Nat) (bounded : count < 2 ^ 31)
    (wide : derivedIdStart ≤ count + 1) :
    ¬ IdentifyTables (buildRuns hexDumpDigest (fun _ => true)
      (fun _ => .ok (wideCatalog count)) .missing [firstStart]) := by
  intro identify
  obtain ⟨tables, built⟩ : ∃ tables, buildTables (fun _ => true) firstStart.path
      (wideCatalog count) firstStart.derived = .ok tables :=
    buildTables_ok (wideCatalog_distinct count bounded)
  have ids := identify.ids _ List.mem_cons_self _ (firstStart_returns built)
  dsimp only at ids
  rw [(buildTables_hold built).1.channels, List.map_map] at ids
  have room := (tableRows_ids_nodup (wideCatalog count) defaultDerivedChannels).mp ids
  rcases room with fewer | none
  · change ((List.range (count + 1)).map wideEntry).length < derivedIdStart at fewer
    rw [List.length_map, List.length_range] at fewer
    omega
  · cases none

end OpenLaps

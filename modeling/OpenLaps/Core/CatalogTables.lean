import OpenLaps.Core.Catalog
import Mathlib.Data.List.Range

namespace OpenLaps

/-- A registry channel together with the policy it is handled by. -/
abbrev Row := Channel × ChannelPolicy

def catalogRow (channelId : Nat) (name : String) (config : ChannelConfig) : Row :=
  (⟨channelId, name, config.sourceRef, config.units, (channelPolicy name config).valueType,
    (channelPolicy name config).scale, (channelPolicy name config).offset⟩,
    channelPolicy name config)

def derivedRow (channelId : Nat) (derived : DerivedChannel) : Row :=
  (⟨channelId, derived.name, "derived:" ++ derived.name, derived.units, derived.valueType, 0, 0⟩,
    ⟨derived.name, derived.valueType, none, 0, 0⟩)

def catalogRows : Nat → List (String × ChannelConfig) → List Row
  | _, [] => []
  | channelId, entry :: rest =>
    catalogRow channelId entry.1 entry.2 :: catalogRows (channelId + 1) rest

def derivedRows : Nat → List DerivedChannel → List Row
  | _, [] => []
  | channelId, derived :: rest => derivedRow channelId derived :: derivedRows (channelId + 1) rest

/-- Every row of a registry, catalog channels first. -/
def tableRows (catalog : CatalogConfig) (derived : List DerivedChannel) : List Row :=
  catalogRows 1 catalog.channels.entries ++ derivedRows derivedIdStart derived

/-- The tables hold exactly these rows. -/
structure Tables.Hold (tables : Tables) (rows : List Row) : Prop where
  channels : tables.channels = rows.map Prod.fst
  policies : tables.policiesById = Dict.ofRows (fun row => row.1.id) Prod.snd rows
  names : tables.channelIds = Dict.ofRows (fun row => row.1.name) (fun row => row.1.id) rows
  mapped : tables.sourceMap.entries = rows.map fun row => (row.1.sourceRef, (row.1.id, row.2))
  bounded : ∀ row ∈ rows, row.1.id < 2 ^ 32

theorem Tables.hold_empty : Tables.empty.Hold [] :=
  ⟨rfl, rfl, rfl, rfl, fun _ member => absurd member List.not_mem_nil⟩

theorem Tables.Hold.refs {tables : Tables} {rows : List Row} (holds : tables.Hold rows) :
    tables.sourceMap.keys = rows.map fun row => row.1.sourceRef := by
  unfold Dict.keys
  rw [holds.mapped, List.map_map]
  rfl

section

variable {printable : Char → Bool} {path : String}

/-- One successful mapping followed by one successful registration adds one row. -/
theorem Tables.Hold.extend {tables next : Tables} {rows : List Row} (holds : tables.Hold rows)
    {sourceMap : Dict String (Nat × ChannelPolicy)} (row : Row)
    (mapping : addMapping printable path tables.sourceMap row.1.sourceRef row.1.id row.2 =
      .ok sourceMap)
    (registered : registerChannel tables sourceMap row.2 row.1 = .ok next) :
    next.Hold (rows ++ [row]) := by
  unfold addMapping at mapping
  split at mapping
  · cases mapping
  · rename_i unmapped
    cases mapping
    unfold registerChannel at registered
    split at registered
    · rename_i small
      cases registered
      have fresh := (Dict.get?_eq_none _ _).mp unmapped
      refine ⟨?_, ?_, ?_, ?_, ?_⟩
      · simp [holds.channels]
      · rw [Dict.ofRows_append, holds.policies]
      · rw [Dict.ofRows_append, holds.names]
      · change (tables.sourceMap.set _ _).entries = _
        rw [Dict.entries_set _ _ _ fresh, holds.mapped, List.map_append]
        rfl
      · intro other member
        rcases List.mem_append.mp member with earlier | last
        · exact holds.bounded other earlier
        · rw [List.mem_singleton.mp last]
          exact small
    · cases registered

theorem addChannel_hold {tables next : Tables} {rows : List Row} (holds : tables.Hold rows)
    {channelId : Nat} {name : String} {config : ChannelConfig}
    (added : addChannel printable path channelId name config tables = .ok next) :
    next.Hold (rows ++ [catalogRow channelId name config]) := by
  unfold addChannel at added
  dsimp only at added
  split at added
  · cases added
  · rename_i sourceMap mapping
    exact holds.extend (catalogRow channelId name config) mapping added

theorem addChannels_hold {channelId : Nat} {entries : List (String × ChannelConfig)}
    {tables final : Tables} {rows : List Row} (holds : tables.Hold rows)
    (added : addChannels printable path channelId entries tables = .ok final) :
    final.Hold (rows ++ catalogRows channelId entries) := by
  induction entries generalizing channelId tables rows with
  | nil =>
    cases added
    rw [catalogRows, List.append_nil]
    exact holds
  | cons entry rest ih =>
    rw [addChannels] at added
    split at added
    · cases added
    · rename_i next first
      have later := ih (addChannel_hold holds first) added
      rw [List.append_assoc, List.singleton_append] at later
      exact later

/-- A derived channel is added under a name no row has yet. -/
theorem addDerived_hold {tables next : Tables} {rows : List Row} (holds : tables.Hold rows)
    {channelId : Nat} {derived : DerivedChannel}
    (added : addDerived printable path channelId derived tables = .ok next) :
    next.Hold (rows ++ [derivedRow channelId derived]) ∧
      derived.name ∉ rows.map fun row => row.1.name := by
  unfold addDerived at added
  dsimp only at added
  split at added
  · cases added
  · rename_i unnamed
    have fresh : derived.name ∉ rows.map fun row => row.1.name := by
      rw [Dict.contains_iff, holds.names, Dict.mem_keys_ofRows] at unnamed
      exact unnamed
    split at added
    · cases added
    · rename_i sourceMap mapping
      exact ⟨holds.extend (derivedRow channelId derived) mapping added, fresh⟩

theorem addDerivedChannels_hold {channelId : Nat} {derived : List DerivedChannel}
    {tables final : Tables} {rows : List Row} (holds : tables.Hold rows)
    (named : (rows.map fun row => row.1.name).Nodup)
    (added : addDerivedChannels printable path channelId derived tables = .ok final) :
    final.Hold (rows ++ derivedRows channelId derived) ∧
      ((rows ++ derivedRows channelId derived).map fun row => row.1.name).Nodup := by
  induction derived generalizing channelId tables rows with
  | nil =>
    cases added
    rw [derivedRows, List.append_nil]
    exact ⟨holds, named⟩
  | cons first rest ih =>
    rw [addDerivedChannels] at added
    split at added
    · cases added
    · rename_i next taken
      obtain ⟨extended, fresh⟩ := addDerived_hold holds taken
      have distinct : ((rows ++ [derivedRow channelId first]).map fun row => row.1.name).Nodup := by
        rw [List.map_append]
        apply named.append (List.nodup_singleton _)
        intro name member last
        have same : name = first.name := List.mem_singleton.mp last
        exact fresh (same ▸ member)
      have later := ih extended distinct added
      rw [List.append_assoc, List.singleton_append] at later
      exact later

theorem catalogRows_names (channelId : Nat) (entries : List (String × ChannelConfig)) :
    ((catalogRows channelId entries).map fun row => row.1.name) = entries.map Prod.fst := by
  induction entries generalizing channelId with
  | nil => rfl
  | cons entry rest ih =>
    rw [catalogRows, List.map_cons, ih]
    rfl

/-- What `build_runtime_catalog` puts in its tables: the rows of the catalog and
of the derived channels, under distinct names and distinct source references. -/
theorem buildTables_hold {catalog : CatalogConfig} {derived : List DerivedChannel}
    {tables : Tables} (built : buildTables printable path catalog derived = .ok tables) :
    tables.Hold (tableRows catalog derived) ∧
      ((tableRows catalog derived).map fun row => row.1.name).Nodup ∧
      ((tableRows catalog derived).map fun row => row.1.sourceRef).Nodup := by
  unfold buildTables at built
  split at built
  · cases built
  · rename_i middle added
    have first := addChannels_hold Tables.hold_empty added
    rw [List.nil_append] at first
    have named : ((catalogRows 1 catalog.channels.entries).map fun row => row.1.name).Nodup := by
      rw [catalogRows_names]
      exact catalog.channels.nodup
    obtain ⟨holds, names⟩ := addDerivedChannels_hold first named built
    refine ⟨holds, names, ?_⟩
    rw [tableRows, ← holds.refs]
    exact tables.sourceMap.nodup

/-- Every mapped id has a policy. -/
theorem buildTables_resolves {catalog : CatalogConfig} {derived : List DerivedChannel}
    {tables : Tables} (built : buildTables printable path catalog derived = .ok tables)
    (sourceRef : String) (entry : Nat × ChannelPolicy)
    (mapped : tables.sourceMap.get? sourceRef = some entry) :
    tables.policiesById.contains entry.1 = true := by
  have holds := (buildTables_hold built).1
  rw [Dict.get?_eq_some, holds.mapped] at mapped
  obtain ⟨row, member, same⟩ := List.mem_map.mp mapped
  cases same
  rw [Dict.contains_iff, holds.policies, Dict.mem_keys_ofRows]
  exact List.mem_map_of_mem member

/-- A row with a fresh source reference and a `uint32` id is accepted. -/
theorem Tables.Hold.accept {tables : Tables} {rows : List Row} (holds : tables.Hold rows) (row : Row)
    (fresh : row.1.sourceRef ∉ rows.map fun other => other.1.sourceRef)
    (small : row.1.id < 2 ^ 32) : ∃ sourceMap next,
    addMapping printable path tables.sourceMap row.1.sourceRef row.1.id row.2 = .ok sourceMap ∧
      registerChannel tables sourceMap row.2 row.1 = .ok next := by
  rw [← holds.refs, ← Dict.get?_eq_none] at fresh
  have mapping : addMapping printable path tables.sourceMap row.1.sourceRef row.1.id row.2 =
      .ok (tables.sourceMap.set row.1.sourceRef (row.1.id, row.2)) := by
    unfold addMapping
    rw [fresh]
  exact ⟨_, _, mapping, if_pos small⟩

/-- Rows are distinct where the source insists on it, and fit their wire id. -/
structure Distinct (rows : List Row) : Prop where
  refs : (rows.map fun row => row.1.sourceRef).Nodup
  names : (rows.map fun row => row.1.name).Nodup
  small : ∀ row ∈ rows, row.1.id < 2 ^ 32

theorem Distinct.next {rows later : List Row} {row : Row}
    (distinct : Distinct (rows ++ row :: later)) :
    row.1.sourceRef ∉ (rows.map fun other => other.1.sourceRef) ∧
      row.1.name ∉ (rows.map fun other => other.1.name) ∧ row.1.id < 2 ^ 32 := by
  have refs := distinct.refs
  have names := distinct.names
  rw [List.map_append, List.map_cons, List.nodup_append] at refs names
  refine ⟨?_, ?_, distinct.small row (List.mem_append_right _ List.mem_cons_self)⟩
  · exact fun member => refs.2.2 _ member _ List.mem_cons_self rfl
  · exact fun member => names.2.2 _ member _ List.mem_cons_self rfl

theorem addChannels_ok {channelId : Nat} {entries : List (String × ChannelConfig)}
    {tables : Tables} {rows : List Row} (holds : tables.Hold rows)
    (distinct : Distinct (rows ++ catalogRows channelId entries)) :
    ∃ final, addChannels printable path channelId entries tables = .ok final := by
  induction entries generalizing channelId tables rows with
  | nil => exact ⟨tables, rfl⟩
  | cons entry rest ih =>
    rw [catalogRows] at distinct
    have next := distinct.next
    obtain ⟨sourceMap, extended, mapping, registered⟩ :=
      holds.accept (catalogRow channelId entry.1 entry.2) next.1 next.2.2
    have added : addChannel printable path channelId entry.1 entry.2 tables = .ok extended := by
      unfold addChannel
      dsimp only
      rw [show addMapping printable path tables.sourceMap entry.2.sourceRef channelId
        (channelPolicy entry.1 entry.2) = .ok sourceMap from mapping]
      exact registered
    rw [addChannels, added]
    apply ih (addChannel_hold holds added)
    rw [List.append_assoc, List.singleton_append]
    exact distinct

theorem addDerivedChannels_ok {channelId : Nat} {derived : List DerivedChannel}
    {tables : Tables} {rows : List Row} (holds : tables.Hold rows)
    (distinct : Distinct (rows ++ derivedRows channelId derived)) :
    ∃ final, addDerivedChannels printable path channelId derived tables = .ok final := by
  induction derived generalizing channelId tables rows with
  | nil => exact ⟨tables, rfl⟩
  | cons first rest ih =>
    rw [derivedRows] at distinct
    have next := distinct.next
    obtain ⟨sourceMap, extended, mapping, registered⟩ :=
      holds.accept (derivedRow channelId first) next.1 next.2.2
    have unnamed : ¬ tables.channelIds.contains first.name = true := by
      rw [Dict.contains_iff, holds.names, Dict.mem_keys_ofRows]
      exact next.2.1
    have added : addDerived printable path channelId first tables = .ok extended := by
      unfold addDerived
      dsimp only
      rw [if_neg unnamed, show addMapping printable path tables.sourceMap
        ("derived:" ++ first.name) channelId ⟨first.name, first.valueType, none, 0, 0⟩ =
          .ok sourceMap from mapping]
      exact registered
    rw [addDerivedChannels, added]
    apply ih (addDerived_hold holds added).1
    rw [List.append_assoc, List.singleton_append]
    exact distinct

/-- Distinct rows are all it takes to build the tables. -/
theorem buildTables_ok {catalog : CatalogConfig} {derived : List DerivedChannel}
    (distinct : Distinct (tableRows catalog derived)) :
    ∃ tables, buildTables printable path catalog derived = .ok tables := by
  have first : Distinct ([] ++ catalogRows 1 catalog.channels.entries) := by
    rw [List.nil_append]
    refine ⟨?_, ?_, ?_⟩
    · have refs := distinct.refs
      rw [tableRows, List.map_append] at refs
      exact refs.of_append_left
    · have names := distinct.names
      rw [tableRows, List.map_append] at names
      exact names.of_append_left
    · exact fun row member => distinct.small row (List.mem_append_left _ member)
  obtain ⟨middle, added⟩ := addChannels_ok Tables.hold_empty first
  have holds := addChannels_hold Tables.hold_empty added
  obtain ⟨final, finished⟩ := addDerivedChannels_ok holds distinct
  refine ⟨final, ?_⟩
  unfold buildTables
  rw [added]
  exact finished

end

/-- A row's channel and policy say the same, and only integer channels are scaled. -/
structure Coherent (row : Row) : Prop where
  name : row.1.name = row.2.name
  scale : row.1.scale = row.2.scale
  offset : row.1.offset = row.2.offset
  nonneg : 0 ≤ row.2.scale
  integral : row.2.valueType ≠ .int64 → row.2.valueType ≠ .uint → row.2.scale = 0

theorem catalogRow_coherent (channelId : Nat) (name : String) (config : ChannelConfig) :
    Coherent (catalogRow channelId name config) := by
  refine ⟨?_, rfl, rfl, ?_, ?_⟩
  · unfold catalogRow channelPolicy
    split <;> rfl
  · unfold catalogRow channelPolicy
    split
    · exact le_refl _
    · rename_i encoding given
      exact encoding.scaleNonneg
  · unfold catalogRow channelPolicy
    split
    · exact fun _ _ => rfl
    · rename_i encoding given
      intro notInt notUint
      have unscaled := encoding.integerOnly
        (fun kind => notUint (by rw [kind]; rfl)) (fun kind => notInt (by rw [kind]; rfl))
      exact unscaled.1

theorem derivedRow_coherent (channelId : Nat) (derived : DerivedChannel) :
    Coherent (derivedRow channelId derived) :=
  ⟨rfl, rfl, rfl, le_refl _, fun _ _ => rfl⟩

theorem tableRows_coherent (catalog : CatalogConfig) (derived : List DerivedChannel) :
    ∀ row ∈ tableRows catalog derived, Coherent row := by
  have first : ∀ channelId entries, ∀ row ∈ catalogRows channelId entries, Coherent row := by
    intro channelId entries
    induction entries generalizing channelId with
    | nil => exact fun row member => absurd member List.not_mem_nil
    | cons entry rest ih =>
      intro row member
      rcases List.mem_cons.mp member with here | later
      · rw [here]
        exact catalogRow_coherent channelId entry.1 entry.2
      · exact ih (channelId + 1) row later
  have second : ∀ channelId channels, ∀ row ∈ derivedRows channelId channels, Coherent row := by
    intro channelId channels
    induction channels generalizing channelId with
    | nil => exact fun row member => absurd member List.not_mem_nil
    | cons channel rest ih =>
      intro row member
      rcases List.mem_cons.mp member with here | later
      · rw [here]
        exact derivedRow_coherent channelId channel
      · exact ih (channelId + 1) row later
  intro row member
  rcases List.mem_append.mp member with here | there
  · exact first 1 catalog.channels.entries row here
  · exact second derivedIdStart derived row there

theorem catalogRows_ids (channelId : Nat) (entries : List (String × ChannelConfig)) :
    ((catalogRows channelId entries).map fun row => row.1.id) =
      List.range' channelId entries.length := by
  induction entries generalizing channelId with
  | nil => rfl
  | cons entry rest ih =>
    rw [catalogRows, List.map_cons, ih]
    rfl

theorem derivedRows_ids (channelId : Nat) (derived : List DerivedChannel) :
    ((derivedRows channelId derived).map fun row => row.1.id) =
      List.range' channelId derived.length := by
  induction derived generalizing channelId with
  | nil => rfl
  | cons first rest ih =>
    rw [derivedRows, List.map_cons, ih]
    rfl

theorem tableRows_ids (catalog : CatalogConfig) (derived : List DerivedChannel) :
    ((tableRows catalog derived).map fun row => row.1.id) =
      List.range' 1 catalog.channels.entries.length ++
        List.range' derivedIdStart derived.length := by
  rw [tableRows, List.map_append, catalogRows_ids, derivedRows_ids]

/-- The two id ranges are disjoint exactly below `2 ^ 31` catalog channels. -/
theorem tableRows_ids_nodup (catalog : CatalogConfig) (derived : List DerivedChannel) :
    ((tableRows catalog derived).map fun row => row.1.id).Nodup ↔
      catalog.channels.entries.length < derivedIdStart ∨ derived = [] := by
  rw [tableRows_ids, List.nodup_append]
  have positive : 1 ≤ derivedIdStart := by decide
  constructor
  · intro apart
    by_cases none : derived = []
    · exact Or.inr none
    · left
      have some := List.length_pos_of_ne_nil none
      by_contra reached
      have first : derivedIdStart ∈ List.range' 1 catalog.channels.entries.length := by
        rw [List.mem_range'_1]
        omega
      have second : derivedIdStart ∈ List.range' derivedIdStart derived.length := by
        rw [List.mem_range'_1]
        omega
      exact apart.2.2 derivedIdStart first derivedIdStart second rfl
  · intro room
    refine ⟨List.nodup_range', List.nodup_range', ?_⟩
    intro low member high member' same
    rw [List.mem_range'_1] at member member'
    rcases room with fewer | none
    · omega
    · rw [none, List.length_nil] at member'
      omega

end OpenLaps

import OpenLaps.Agent.FlushRules

namespace OpenLaps.Pipeline

/-- Both epochs of the window fit their `fixed64` fields. -/
def EpochFits (settings : Settings) (window : Windows.Window Staged) : Prop :=
  (0 ≤ epochUnixMs settings window ∧ epochUnixMs settings window < 2 ^ 64) ∧
    (0 ≤ window.anchor stamp ∧ window.anchor stamp < 2 ^ 64)

/-- The policy the batcher encodes a sample with accepts its value. -/
def Encodable (settings : Settings) (entry : Nat × Sample) : Prop :=
  ∃ policy wire, settings.catalog.policiesById.get? entry.1 = some policy ∧
    Batcher.encodeValue settings.f32 entry.2.value policy = .ok wire

/-- An integer that no finite float is near to. -/
def TooLarge (value : SampleValue) : Prop :=
  ∃ exactly : Int, value = .int exactly ∧ PyFloat.limit ≤ |exactly|

/-- The channel takes the value as a float. -/
def TakesFloat (policy : ChannelPolicy) : Prop :=
  policy.valueType = .double ∨ policy.valueType = .float ∨
    (policy.valueType = .int64 ∨ policy.valueType = .uint) ∧ policy.scale ≠ 0

/-- The quotient of a scaled integer channel, which `round` cannot take when it is infinite. -/
def InfiniteQuotient (value : SampleValue) (policy : ChannelPolicy) : Prop :=
  (policy.valueType = .int64 ∨ policy.valueType = .uint) ∧ policy.scale ≠ 0 ∧
    ∃ number, Batcher.requireFloat value policy = .ok number ∧
      (Batcher.unscale policy number = .posInf ∨ Batcher.unscale policy number = .negInf)

/-- A value that overflows on its channel. -/
def Overflowing (value : SampleValue) (policy : ChannelPolicy) : Prop :=
  TakesFloat policy ∧ TooLarge value ∨ ¬TooLarge value ∧ InfiniteQuotient value policy

/-- The samples of a window in the order `tick` encodes them: class by class. -/
def encodeOrder (window : Windows.Window Staged) : List (Nat × Sample) :=
  (Dict.group window.items).entries.flatMap Prod.snd

/-- Not discarded: the epochs fit and every sample can be encoded. -/
def Survives (settings : Settings) (window : Windows.Window Staged) : Prop :=
  EpochFits settings window ∧ ∀ item ∈ window.items, Encodable settings item.2

/-- The first sample that cannot be encoded overflows. -/
def Overflows (settings : Settings) (window : Windows.Window Staged) : Prop :=
  EpochFits settings window ∧ ∃ before entry after policy,
    encodeOrder window = before ++ entry :: after ∧
      (∀ earlier ∈ before, Encodable settings earlier) ∧
      settings.catalog.policiesById.get? entry.1 = some policy ∧
      Overflowing entry.2.value policy

theorem mem_encodeOrder {window : Windows.Window Staged} {entry : Nat × Sample} :
    entry ∈ encodeOrder window ↔ ∃ sourceClass, (sourceClass, entry) ∈ window.items := by
  unfold encodeOrder
  rw [List.mem_flatMap]
  constructor
  · rintro ⟨group, member, inside⟩
    rw [Dict.mem_entries_group member, Dict.under, List.mem_map] at inside
    obtain ⟨item, listed, rfl⟩ := inside
    exact ⟨item.1, (List.mem_filter.mp listed).1⟩
  · rintro ⟨sourceClass, member⟩
    have key : sourceClass ∈ window.items.map Prod.fst := List.mem_map_of_mem member
    have found : (Dict.group window.items).get? sourceClass =
        some (Dict.under window.items sourceClass) := by
      rw [Dict.get?_group, if_pos key]
    refine ⟨_, (Dict.get?_eq_some _ _ _).mp found, ?_⟩
    rw [Dict.under, List.mem_map]
    exact ⟨(sourceClass, entry), List.mem_filter.mpr ⟨member, by simp⟩, rfl⟩

theorem requireNumber_caught {value : SampleValue} {policy : ChannelPolicy} {error : PyError}
    (failed : Batcher.requireNumber value policy = .error error) : caught error = true := by
  unfold Batcher.requireNumber at failed
  split at failed
  · cases failed
  · cases failed
    rfl

theorem requireFloat_tooLarge {value : SampleValue} (large : TooLarge value)
    (policy : ChannelPolicy) : Batcher.requireFloat value policy =
      .error (.overflowError "int too large to convert to float") := by
  obtain ⟨exactly, rfl, beyond⟩ := large
  exact floatOfInt_large (not_lt.mpr beyond)

theorem requireFloat_caught {value : SampleValue} {policy : ChannelPolicy} {error : PyError}
    (small : ¬TooLarge value) (failed : Batcher.requireFloat value policy = .error error) :
    caught error = true := by
  cases value with
  | int exactly =>
      have within : |exactly| < PyFloat.limit := by
        by_contra beyond
        exact small ⟨exactly, rfl, not_lt.mp beyond⟩
      change floatOfInt exactly = .error error at failed
      rw [floatOfInt_small within] at failed
      cases failed
  | float number => exact @requireNumber_caught (.float number) policy error failed
  | bool flag => exact @requireNumber_caught (.bool flag) policy error failed
  | str text => exact @requireNumber_caught (.str text) policy error failed

theorem requireFloat_escapes {value : SampleValue} {policy : ChannelPolicy} {error : PyError}
    (failed : Batcher.requireFloat value policy = .error error) :
    caught error = false ↔ TooLarge value := by
  by_cases large : TooLarge value
  · rw [requireFloat_tooLarge large] at failed
    cases failed
    exact ⟨fun _ => large, fun _ => rfl⟩
  · rw [requireFloat_caught large failed]
    constructor
    · exact fun impossible => nomatch impossible
    · exact fun found => absurd found large

theorem round_escapes {number : PyFloat} {error : PyError} (failed : number.round = .error error) :
    caught error = false ↔ number = .posInf ∨ number = .negInf := by
  cases number with
  | finite exactly => cases failed
  | posInf =>
      cases failed
      exact ⟨fun _ => .inl rfl, fun _ => rfl⟩
  | negInf =>
      cases failed
      exact ⟨fun _ => .inr rfl, fun _ => rfl⟩
  | nan =>
      cases failed
      simp [caught]

/-- Without a scale only a `TypeError` is raised. -/
theorem wireInteger_unscaled {value : SampleValue} {policy : ChannelPolicy} {error : PyError}
    (unscaled : policy.scale = 0) (failed : Batcher.wireInteger value policy = .error error) :
    caught error = true := by
  unfold Batcher.wireInteger at failed
  rw [if_neg (not_not.mpr unscaled)] at failed
  split at failed
  · rename_i reason raised
    cases failed
    exact requireNumber_caught raised
  · split at failed
    · split at failed
      · cases failed
      · cases failed
        rfl
    · cases failed
      rfl

/-- What escapes from an integer channel, and only that. -/
theorem wireInteger_escapes {value : SampleValue} {policy : ChannelPolicy} {error : PyError}
    (kind : policy.valueType = .int64 ∨ policy.valueType = .uint)
    (failed : Batcher.wireInteger value policy = .error error) :
    caught error = false ↔ Overflowing value policy := by
  by_cases unscaled : policy.scale = 0
  · rw [wireInteger_unscaled unscaled failed]
    constructor
    · exact fun impossible => nomatch impossible
    · rintro (⟨double | float | ⟨-, scaled⟩, -⟩ | ⟨-, -, scaled, -⟩)
      · rw [double] at kind
        simp at kind
      · rw [float] at kind
        simp at kind
      · exact absurd unscaled scaled
      · exact absurd unscaled scaled
  · unfold Batcher.wireInteger at failed
    rw [if_pos unscaled] at failed
    by_cases large : TooLarge value
    · rw [requireFloat_tooLarge large] at failed
      cases failed
      exact ⟨fun _ => .inl ⟨.inr (.inr ⟨kind, unscaled⟩), large⟩, fun _ => rfl⟩
    · have only : Overflowing value policy ↔ InfiniteQuotient value policy :=
        ⟨fun found => found.elim (fun impossible => absurd impossible.2 large) And.right,
          fun found => .inr ⟨large, found⟩⟩
      rw [only]
      split at failed
      · rename_i reason raised
        cases failed
        rw [requireFloat_caught large raised]
        constructor
        · exact fun impossible => nomatch impossible
        · rintro ⟨-, -, number, found, -⟩
          rw [raised] at found
          cases found
      · rename_i number taken
        rw [round_escapes failed]
        constructor
        · exact fun infinite => ⟨kind, unscaled, number, taken, infinite⟩
        · rintro ⟨-, -, other, found, infinite⟩
          rw [taken] at found
          cases found
          exact infinite

/-- An overflow is an error. -/
theorem wireInteger_overflows {value : SampleValue} {policy : ChannelPolicy}
    (kind : policy.valueType = .int64 ∨ policy.valueType = .uint)
    (overflows : Overflowing value policy) :
    ∃ error, Batcher.wireInteger value policy = .error error := by
  rcases overflows with ⟨double | float | ⟨-, scaled⟩, large⟩ | ⟨-, -, scaled, number, found, infinite⟩
  · rw [double] at kind
    simp at kind
  · rw [float] at kind
    simp at kind
  · unfold Batcher.wireInteger
    rw [if_pos scaled, requireFloat_tooLarge large]
    exact ⟨_, rfl⟩
  · unfold Batcher.wireInteger
    rw [if_pos scaled, found]
    dsimp only
    rcases infinite with up | down
    · rw [up]
      exact ⟨_, rfl⟩
    · rw [down]
      exact ⟨_, rfl⟩

theorem wireBool_caught {value : SampleValue} {policy : ChannelPolicy} {error : PyError}
    (failed : Batcher.wireBool value policy = .error error) : caught error = true := by
  unfold Batcher.wireBool at failed
  split at failed
  · cases failed
  · split at failed
    · split at failed
      · cases failed
      · cases failed
        rfl
    · cases failed
      rfl

/-- A float channel overflows on the integers that are too large. -/
theorem overflowing_float {value : SampleValue} {policy : ChannelPolicy}
    (kind : policy.valueType = .double ∨ policy.valueType = .float) :
    Overflowing value policy ↔ TooLarge value := by
  constructor
  · rintro (⟨-, large⟩ | ⟨-, integer, -⟩)
    · exact large
    · rcases kind with kind | kind <;> rw [kind] at integer <;> simp at integer
  · intro large
    exact .inl ⟨kind.elim .inl fun float => .inr (.inl float), large⟩

theorem not_overflowing {value : SampleValue} {policy : ChannelPolicy}
    (double : policy.valueType ≠ .double) (float : policy.valueType ≠ .float)
    (int64 : policy.valueType ≠ .int64) (uint : policy.valueType ≠ .uint) :
    ¬Overflowing value policy := by
  simp [Overflowing, TakesFloat, InfiniteQuotient, double, float, int64, uint]

/-- The errors of the encoder: one escapes `flush` exactly when the value overflows. -/
theorem encodeValue_escapes {f32 : PyFloat → PyFloat} {value : SampleValue}
    {policy : ChannelPolicy} {error : PyError}
    (failed : Batcher.encodeValue f32 value policy = .error error) :
    caught error = false ↔ Overflowing value policy := by
  have other : caught error = true → ¬Overflowing value policy →
      (caught error = false ↔ Overflowing value policy) := by
    intro handled fine
    rw [handled]
    constructor
    · exact fun impossible => nomatch impossible
    · exact fun found => absurd found fine
  have integral : (policy.valueType = .int64 ∨ policy.valueType = .uint) →
      (Batcher.wireInteger value policy = .error error ∨
        (∃ wire, Batcher.wireInteger value policy = .ok wire) ∧ caught error = true) →
      (caught error = false ↔ Overflowing value policy) := by
    intro kind raised
    rcases raised with same | ⟨⟨wire, fine⟩, handled⟩
    · exact wireInteger_escapes kind same
    · apply other handled
      intro overflows
      obtain ⟨reason, bad⟩ := wireInteger_overflows kind overflows
      cases fine.symm.trans bad
  unfold Batcher.encodeValue at failed
  cases kind : policy.valueType with
  | double =>
      rw [kind] at failed
      dsimp only at failed
      rw [overflowing_float (.inl kind)]
      split at failed
      · rename_i reason raised
        cases failed
        exact requireFloat_escapes raised
      · cases failed
  | float =>
      rw [kind] at failed
      dsimp only at failed
      rw [overflowing_float (.inr kind)]
      split at failed
      · rename_i reason raised
        cases failed
        exact requireFloat_escapes raised
      · cases failed
  | int64 =>
      rw [kind] at failed
      dsimp only at failed
      apply integral (Or.inl kind)
      split at failed
      · rename_i reason raised
        cases failed
        exact Or.inl raised
      · rename_i wire fine
        split at failed
        · cases failed
        · cases failed
          exact Or.inr ⟨⟨wire, fine⟩, rfl⟩
  | uint =>
      rw [kind] at failed
      dsimp only at failed
      apply integral (Or.inr kind)
      split at failed
      · rename_i reason raised
        cases failed
        exact Or.inl raised
      · rename_i wire fine
        split at failed
        · cases failed
          exact Or.inr ⟨⟨wire, fine⟩, rfl⟩
        · split at failed
          · cases failed
          · cases failed
            exact Or.inr ⟨⟨wire, fine⟩, rfl⟩
  | bool =>
      rw [kind] at failed
      exact other (wireBool_caught failed) (not_overflowing (by simp [kind]) (by simp [kind])
        (by simp [kind]) (by simp [kind]))
  | string =>
      rw [kind] at failed
      dsimp only at failed
      split at failed
      · cases failed
      · cases failed
        exact other rfl (not_overflowing (by simp [kind]) (by simp [kind]) (by simp [kind])
          (by simp [kind]))
  | unspecified =>
      rw [kind] at failed
      cases failed
      exact other rfl (not_overflowing (by simp [kind]) (by simp [kind]) (by simp [kind])
        (by simp [kind]))

theorem encodeValue_overflows (f32 : PyFloat → PyFloat) {value : SampleValue}
    {policy : ChannelPolicy} (overflows : Overflowing value policy) :
    ∃ error, Batcher.encodeValue f32 value policy = .error error := by
  unfold Batcher.encodeValue
  cases kind : policy.valueType with
  | double =>
      dsimp only
      rw [requireFloat_tooLarge ((overflowing_float (.inl kind)).mp overflows)]
      exact ⟨_, rfl⟩
  | float =>
      dsimp only
      rw [requireFloat_tooLarge ((overflowing_float (.inr kind)).mp overflows)]
      exact ⟨_, rfl⟩
  | int64 =>
      obtain ⟨error, failed⟩ := wireInteger_overflows (.inl kind) overflows
      dsimp only
      rw [failed]
      exact ⟨error, rfl⟩
  | uint =>
      obtain ⟨error, failed⟩ := wireInteger_overflows (.inr kind) overflows
      dsimp only
      rw [failed]
      exact ⟨error, rfl⟩
  | bool | string | unspecified =>
      exact absurd overflows (not_overflowing (by simp [kind]) (by simp [kind]) (by simp [kind])
        (by simp [kind]))

section

variable {settings : Settings} {window : Windows.Window Staged}

/-- The encoder the window's samples go through. -/
def encodeIn (settings : Settings) (window : Windows.Window Staged) :
    Nat × Sample → Except PyError WireSample :=
  Batcher.encodeSample settings.f32 settings.catalog.policiesById settings.tickMs
    (window.anchor stamp)

/-- Inside its window a sample meets only the encoder of its channel. -/
theorem encodeIn_eq (within : window.Within stamp (Batcher.tickNs settings.tickMs))
    {entry : Nat × Sample} (member : entry ∈ encodeOrder window) :
    encodeIn settings window entry =
      match settings.catalog.policiesById.get? entry.1 with
      | none => .error (.keyError (toString entry.1))
      | some policy =>
          match Batcher.encodeValue settings.f32 entry.2.value policy with
          | .error error => .error error
          | .ok wire => .ok ⟨entry.1,
              ((entry.2.tMonoNs - window.anchor stamp) / 1000).toNat, some wire⟩ := by
  obtain ⟨sourceClass, listed⟩ := mem_encodeOrder.mp member
  have close : window.anchor stamp ≤ entry.2.tMonoNs ∧
      entry.2.tMonoNs < window.anchor stamp + Batcher.tickNs settings.tickMs :=
    within (sourceClass, entry) listed
  unfold encodeIn Batcher.encodeSample
  dsimp only
  exact if_pos (by omega)

theorem encodeIn_isOk (within : window.Within stamp (Batcher.tickNs settings.tickMs))
    {entry : Nat × Sample} (member : entry ∈ encodeOrder window) :
    (encodeIn settings window entry).isOk = true ↔ Encodable settings entry := by
  rw [encodeIn_eq within member]
  unfold Encodable
  cases settings.catalog.policiesById.get? entry.1 with
  | none => simp [Except.isOk, Except.toBool]
  | some policy =>
      dsimp only
      cases outcome : Batcher.encodeValue settings.f32 entry.2.value policy with
      | error error =>
          constructor
          · exact fun impossible => nomatch impossible
          · rintro ⟨other, wire, same, fine⟩
            cases same
            rw [outcome] at fine
            cases fine
      | ok wire => exact ⟨fun _ => ⟨policy, wire, rfl, outcome⟩, fun _ => rfl⟩

/-- With fitting epochs a window fails as its samples do. -/
theorem windowOutcome_error (fits : EpochFits settings window) (error : PyError) :
    windowOutcome settings window = .error error ↔
      Attempt.all (encodeIn settings window) (encodeOrder window) = .error error := by
  unfold encodeOrder
  rw [← Attempt.all_groups_error (encodeIn settings window) Prod.snd fun group samples =>
    (group.1, (⟨settings.catalog.registry.registrySeq, (epochUnixMs settings window).toNat,
      (window.anchor stamp).toNat, samples, 1⟩ : SampleBatch))]
  have same : (Batcher.encodeClass settings.f32 settings.catalog.registry.registrySeq
      settings.catalog.policiesById settings.tickMs (epochUnixMs settings window)
      (window.anchor stamp)) =
      fun group => (Attempt.all (encodeIn settings window) group.2).map fun samples =>
        (group.1, (⟨settings.catalog.registry.registrySeq, (epochUnixMs settings window).toNat,
          (window.anchor stamp).toNat, samples, 1⟩ : SampleBatch)) := by
    funext group
    unfold Batcher.encodeClass encodeIn
    rw [if_neg (not_not.mpr fits.1), if_neg (not_not.mpr fits.2)]
    cases Attempt.all (Batcher.encodeSample settings.f32 settings.catalog.policiesById
      settings.tickMs (window.anchor stamp)) group.2 <;> rfl
  unfold windowOutcome Batcher.tick
  rw [same]

theorem group_nonempty (window : Windows.Window Staged) :
    (Dict.group window.items).entries ≠ [] := by
  intro empty
  have key := (Dict.mem_keys_group window.items window.first.1).mpr
    (List.mem_map_of_mem List.mem_cons_self)
  unfold Dict.keys at key
  rw [empty] at key
  cases key

/-- Epochs that do not fit cost the window. -/
theorem windowOutcome_unfit (unfit : ¬ EpochFits settings window) :
    ∃ error, windowOutcome settings window = .error error ∧ caught error = true := by
  have every : ∀ group, ∃ value, Batcher.encodeClass settings.f32
      settings.catalog.registry.registrySeq settings.catalog.policiesById settings.tickMs
      (epochUnixMs settings window) (window.anchor stamp) group =
        .error (Batcher.outOfRange value) := by
    intro group
    unfold Batcher.encodeClass
    by_cases unix : 0 ≤ epochUnixMs settings window ∧ epochUnixMs settings window < 2 ^ 64
    · rw [if_neg (not_not.mpr unix), if_pos fun mono => unfit ⟨unix, mono⟩]
      exact ⟨_, rfl⟩
    · rw [if_pos unix]
      exact ⟨_, rfl⟩
  obtain ⟨group, rest, entries⟩ := List.exists_cons_of_ne_nil (group_nonempty window)
  obtain ⟨value, failed⟩ := every group
  refine ⟨Batcher.outOfRange value, ?_, rfl⟩
  unfold windowOutcome Batcher.tick
  rw [entries, Attempt.all, failed]

/-- A window is discarded exactly when it does not survive. -/
theorem windowOutcome_ok (within : window.Within stamp (Batcher.tickNs settings.tickMs)) :
    (∃ emitted, windowOutcome settings window = .ok emitted) ↔ Survives settings window := by
  by_cases fits : EpochFits settings window
  · have samples : (∀ item ∈ window.items, Encodable settings item.2) ↔
        ∀ entry ∈ encodeOrder window, (encodeIn settings window entry).isOk = true := by
      constructor
      · intro fine entry member
        obtain ⟨sourceClass, listed⟩ := mem_encodeOrder.mp member
        exact (encodeIn_isOk within member).mpr (fine (sourceClass, entry) listed)
      · intro fine item listed
        have member : item.2 ∈ encodeOrder window := mem_encodeOrder.mpr ⟨item.1, listed⟩
        exact (encodeIn_isOk within member).mp (fine item.2 member)
    unfold Survives
    rw [samples]
    constructor
    · rintro ⟨emitted, succeeded⟩
      refine ⟨fits, ?_⟩
      cases outcome : Attempt.all (encodeIn settings window) (encodeOrder window) with
      | error error =>
          rw [(windowOutcome_error fits error).mpr outcome] at succeeded
          cases succeeded
      | ok wires =>
          intro entry member
          obtain ⟨wire, _, found⟩ := Attempt.ok_of_all outcome member
          rw [found]
          rfl
    · rintro ⟨_, fine⟩
      cases outcome : windowOutcome settings window with
      | ok emitted => exact ⟨emitted, rfl⟩
      | error error =>
          obtain ⟨wires, succeeded⟩ := Attempt.all_eq_ok_of_forall fine
          rw [(windowOutcome_error fits error).mp outcome] at succeeded
          cases succeeded
  · obtain ⟨error, failed, _⟩ := windowOutcome_unfit fits
    constructor
    · rintro ⟨emitted, succeeded⟩
      rw [failed] at succeeded
      cases succeeded
    · exact fun survives => absurd survives.1 fits

/-- `flush` raises on a window exactly when its first failure is an overflow. -/
theorem raises_iff (within : window.Within stamp (Batcher.tickNs settings.tickMs))
    (known : ∀ item ∈ window.items, settings.catalog.policiesById.contains item.2.1 = true) :
    raises settings window = true ↔ Overflows settings window := by
  have policy : ∀ entry ∈ encodeOrder window,
      ∃ policy, settings.catalog.policiesById.get? entry.1 = some policy := by
    intro entry member
    obtain ⟨sourceClass, listed⟩ := mem_encodeOrder.mp member
    exact Option.isSome_iff_exists.mp (known (sourceClass, entry) listed)
  unfold raises
  by_cases fits : EpochFits settings window
  · constructor
    · intro raised
      cases outcome : windowOutcome settings window with
      | ok emitted =>
          rw [outcome] at raised
          cases raised
      | error error =>
          rw [outcome] at raised
          have escaped : caught error = false := by simpa using raised
          obtain ⟨before, entry, after, split, fine, failed⟩ :=
            Attempt.all_error ((windowOutcome_error fits error).mp outcome)
          have present : ∀ earlier ∈ before, earlier ∈ encodeOrder window := by
            intro earlier member
            rw [split]
            exact List.mem_append_left _ member
          have member : entry ∈ encodeOrder window := by
            rw [split]
            exact List.mem_append_right _ List.mem_cons_self
          obtain ⟨found, resolved⟩ := policy entry member
          refine ⟨fits, before, entry, after, found, split, ?_, resolved, ?_⟩
          · exact fun earlier inside => (encodeIn_isOk within (present earlier inside)).mp
              (fine earlier inside)
          · rw [encodeIn_eq within member, resolved] at failed
            dsimp only at failed
            split at failed
            · rename_i reason raised'
              cases failed
              exact (encodeValue_escapes raised').mp escaped
            · cases failed
    · rintro ⟨_, before, entry, after, found, split, fine, resolved, overflows⟩
      have member : entry ∈ encodeOrder window := by
        rw [split]
        exact List.mem_append_right _ List.mem_cons_self
      obtain ⟨error, rejected⟩ := encodeValue_overflows settings.f32 overflows
      have failed : encodeIn settings window entry = .error error := by
        rw [encodeIn_eq within member, resolved]
        dsimp only
        rw [rejected]
      have stopped : Attempt.all (encodeIn settings window) (encodeOrder window) =
          .error error := by
        rw [split]
        apply Attempt.all_stops _ failed
        intro earlier inside
        have present : earlier ∈ encodeOrder window := by
          rw [split]
          exact List.mem_append_left _ inside
        exact (encodeIn_isOk within present).mpr (fine earlier inside)
      rw [(windowOutcome_error fits error).mpr stopped]
      dsimp only
      rw [(encodeValue_escapes rejected).mpr overflows]
      rfl
  · obtain ⟨error, failed, handled⟩ := windowOutcome_unfit fits
    rw [failed]
    dsimp only
    rw [handled]
    constructor
    · exact fun impossible => nomatch impossible
    · exact fun overflows => absurd overflows.1 fits

/-- The window was not discarded. -/
def kept (settings : Settings) (window : Windows.Window Staged) : Bool :=
  (windowOutcome settings window).isOk

/-- The samples of one source class in the windows that were not discarded, in
capture order. -/
def captured (settings : Settings) (staged : List Staged) (sourceClass : String) :
    List (Nat × Sample) :=
  Dict.under (((windows settings staged).filter (kept settings)).flatMap Windows.Window.items)
    sourceClass

theorem kept_iff (within : window.Within stamp (Batcher.tickNs settings.tickMs)) :
    kept settings window = true ↔ Survives settings window := by
  rw [← windowOutcome_ok within]
  unfold kept
  cases windowOutcome settings window with
  | ok emitted => exact ⟨fun _ => ⟨emitted, rfl⟩, fun _ => rfl⟩
  | error error => simp [Except.isOk, Except.toBool]

/-- The windows kept and their samples, window by window. -/
theorem captured_eq (settings : Settings) (found : List (Windows.Window Staged))
    (sourceClass : String) :
    Dict.under ((found.filter (kept settings)).flatMap Windows.Window.items) sourceClass =
      found.flatMap fun window =>
        if kept settings window then Dict.under window.items sourceClass else [] := by
  induction found with
  | nil => rfl
  | cons window rest ih =>
      rw [List.flatMap_cons, ← ih]
      by_cases keep : kept settings window = true
      · rw [List.filter_cons_of_pos keep, List.flatMap_cons, Dict.under_append, if_pos keep]
      · rw [List.filter_cons_of_neg keep, if_neg keep, List.nil_append]

end

end OpenLaps.Pipeline

import OpenLaps.Agent.WindowRules

/- What a value that cannot be encoded costs: its own tick window, or the whole call. -/
namespace OpenLaps.Pipeline

/-- The wire samples of one source class in returned batches, in order. -/
def wiresOf (batches : List (TickBatch SampleBatch)) (sourceClass : String) : List WireSample :=
  (batches.filter fun batch => batch.sourceClass = sourceClass).flatMap fun batch =>
    batch.payload.samples

/-- The tick windows cover the staged samples, each once and in capture order, and no sample is
outside the tick of its window. -/
structure Partitioned (settings : Settings) (staged : List Staged) : Prop where
  covers : ((windows settings staged).flatMap Windows.Window.items).Perm staged
  sorted : ((windows settings staged).flatMap Windows.Window.items).Pairwise
    fun first second => stamp first ≤ stamp second
  inside : ∀ window ∈ windows settings staged, ∀ item ∈ window.items,
    0 ≤ stamp item - window.anchor stamp ∧
      stamp item - window.anchor stamp < Batcher.tickNs settings.tickMs

/-- The windows whose samples are lost. -/
def lost (settings : Settings) (staged : List Staged) : List (Windows.Window Staged) :=
  (windows settings staged).filter fun window => !kept settings window

/-- `flush` returns and consumes what was staged; of each source class, the samples of the
windows kept are in the batches, each once; every window lost is counted once. -/
structure Contained (settings : Settings) (state : State) (batches : List (TickBatch SampleBatch)) :
    Prop where
  returned : (flush settings state).2 = .ok batches
  consumed : (flush settings state).1.staged = []
  emptied : (flush settings state).1.pending = .empty
  emitted : ∀ sourceClass, List.Forall₂
    (fun entry wire => ∃ window ∈ windows settings state.staged,
      encodeIn settings window entry = .ok wire)
    (captured settings state.staged sourceClass) (wiresOf batches sourceClass)
  counted : (flush settings state).1.encodeFailures =
    state.encodeFailures + (lost settings state.staged).length

variable {settings : Settings}

theorem windows_partition (settings : Settings) (staged : List Staged) :
    Partitioned settings staged where
  covers := by
    rw [windows_items]
    exact sortStaged_perm staged
  sorted := by
    rw [windows_items]
    exact sortStaged_sorted staged
  inside := by
    intro window found item member
    have bounds := windows_within settings staged window found item member
    omega

theorem wiresOf_append (first second : List (TickBatch SampleBatch)) (sourceClass : String) :
    wiresOf (first ++ second) sourceClass =
      wiresOf first sourceClass ++ wiresOf second sourceClass := by
  unfold wiresOf
  rw [List.filter_append, List.flatMap_append]

theorem wiresOf_cons (batch : TickBatch SampleBatch) (rest : List (TickBatch SampleBatch))
    (sourceClass : String) :
    wiresOf (batch :: rest) sourceClass =
      (if batch.sourceClass = sourceClass then batch.payload.samples else []) ++
        wiresOf rest sourceClass := by
  unfold wiresOf
  by_cases same : batch.sourceClass = sourceClass
  · simp [same]
  · simp [same]

/-- The batch of one class holds the encodings of the class's samples. -/
theorem encodeClass_wires {window : Windows.Window Staged} {group : String × List (Nat × Sample)}
    {batch : String × SampleBatch}
    (encoded : Batcher.encodeClass settings.f32 settings.catalog.registry.registrySeq
      settings.catalog.policiesById settings.tickMs (epochUnixMs settings window)
      (window.anchor stamp) group = .ok batch) :
    batch.1 = group.1 ∧ List.Forall₂ (fun entry wire => encodeIn settings window entry = .ok wire)
      group.2 batch.2.samples := by
  unfold Batcher.encodeClass at encoded
  split at encoded
  · cases encoded
  · split at encoded
    · cases encoded
    · split at encoded
      · cases encoded
      · rename_i wires all
        cases encoded
        exact ⟨rfl, Attempt.all_ok all⟩

/-- The wire samples of a window: the encodings of its samples, if it is kept. -/
theorem delivered_wires (window : Windows.Window Staged) (sourceClass : String) :
    List.Forall₂ (fun entry wire => encodeIn settings window entry = .ok wire)
      (if kept settings window then Dict.under window.items sourceClass else [])
      (wiresOf (delivered settings window) sourceClass) := by
  unfold kept delivered
  cases outcome : windowOutcome settings window with
  | error error => exact .nil
  | ok emitted =>
      show List.Forall₂ _ (Dict.under window.items sourceClass)
        (wiresOf (emitted.map (tickBatch settings window)) sourceClass)
      rw [← Dict.group_filter]
      have matched := Attempt.all_ok outcome
      generalize (Dict.group window.items).entries = groups at matched
      clear outcome
      induction matched with
      | nil => exact .nil
      | @cons group batch groups batches here later ih =>
          obtain ⟨name, wires⟩ := encodeClass_wires here
          rw [List.map_cons, wiresOf_cons]
          have own : (tickBatch settings window batch).sourceClass = group.1 := name
          rw [own]
          by_cases same : group.1 = sourceClass
          · rw [List.filter_cons_of_pos (by simpa using same), List.flatMap_cons, if_pos same]
            exact List.rel_append wires ih
          · rw [List.filter_cons_of_neg (by simpa using same), if_neg same, List.nil_append]
            exact ih

theorem flush_wires (found : List (Windows.Window Staged)) (sourceClass : String) :
    List.Forall₂ (fun entry wire => ∃ window ∈ found, encodeIn settings window entry = .ok wire)
      (Dict.under ((found.filter (kept settings)).flatMap Windows.Window.items) sourceClass)
      (wiresOf (found.flatMap (delivered settings)) sourceClass) := by
  rw [captured_eq]
  induction found with
  | nil => exact .nil
  | cons window rest ih =>
      rw [List.flatMap_cons, List.flatMap_cons, wiresOf_append]
      apply List.rel_append
      · apply (delivered_wires window sourceClass).imp
        intro entry wire encoded
        exact ⟨window, List.mem_cons_self, encoded⟩
      · apply ih.imp
        rintro entry wire ⟨other, member, encoded⟩
        exact ⟨other, List.mem_cons_of_mem window member, encoded⟩

/-- One window counts once if it is lost without raising. -/
theorem flushWindow_counts {state : State} {window : Windows.Window Staged}
    (drained : state.pending = .empty)
    (known : ∀ item ∈ window.items, settings.catalog.policiesById.contains item.2.1 = true)
    (quiet : raises settings window = false) :
    (flushWindow settings state window).1.encodeFailures =
      state.encodeFailures + if kept settings window then 0 else 1 := by
  have outcome : Batcher.tick settings.f32 settings.catalog.registry.registrySeq
      settings.catalog.policiesById settings.tickMs (epochUnixMs settings window)
      (window.anchor stamp) (window.items.foldl (fun dict item => dict.push item.1 item.2) .empty) =
      windowOutcome settings window := rfl
  unfold raises at quiet
  unfold flushWindow kept
  rw [addAll_known _ _ _ known, drained]
  dsimp only
  rw [outcome]
  cases result : windowOutcome settings window with
  | ok emitted => rfl
  | error error =>
      rw [result] at quiet
      have handled : caught error = true := by simpa using quiet
      dsimp only
      rw [if_pos handled]
      rfl

theorem flushWindows_counts (state : State) (found : List (Windows.Window Staged))
    (drained : state.pending = .empty)
    (known : ∀ window ∈ found, ∀ item ∈ window.items,
      settings.catalog.policiesById.contains item.2.1 = true)
    (quiet : ∀ window ∈ found, raises settings window = false) :
    (flushWindows settings state found).1.encodeFailures =
      state.encodeFailures + (found.filter fun window => !kept settings window).length := by
  induction found generalizing state with
  | nil => rfl
  | cons window rest ih =>
      have here := flushWindow_eq settings state window drained (known window List.mem_cons_self)
      have counts := flushWindow_counts drained (known window List.mem_cons_self)
        (quiet window List.mem_cons_self)
      have result := windowResult_of_not_raises (quiet window List.mem_cons_self)
      rw [flushWindows_cons]
      cases outcome : flushWindow settings state window with
      | mk next batches =>
          rw [outcome] at here counts
          dsimp only at here counts
          have later := ih next here.1
            (fun other member => known other (List.mem_cons_of_mem window member))
            fun other member => quiet other (List.mem_cons_of_mem window member)
          rw [here.2.2, result]
          dsimp only
          have total : (flushWindows settings next rest).1.encodeFailures = state.encodeFailures +
              ((window :: rest).filter fun window => !kept settings window).length := by
            rw [later, counts, List.filter_cons]
            cases kept settings window with
            | true => simp
            | false =>
                simp
                omega
          cases remaining : flushWindows settings next rest with
          | mk final result =>
              rw [remaining] at total
              cases result <;> exact total

/-- For every list of staged samples of known channels: the windows partition it inside the
batcher's own bounds, and every failure costs its window only, exactly when no window fails first
on a value that overflows. -/
theorem failures_contained_iff (settings : Settings) (state : State) (ready : Ready settings state) :
    Partitioned settings state.staged ∧
      ((∃ batches, Contained settings state batches) ↔
        ∀ window ∈ windows settings state.staged, ¬Overflows settings window) := by
  have outcome := flush_eq settings state ready
  have raised : ∀ window ∈ windows settings state.staged,
      raises settings window = true ↔ Overflows settings window :=
    fun window found => raises_iff (windows_within settings state.staged window found)
      fun item member => ready.known item (mem_staged_of_window found member)
  refine ⟨windows_partition settings state.staged, ?_⟩
  constructor
  · rintro ⟨batches, contained⟩ window found overflows
    obtain ⟨error, failed⟩ := outcome.2.2 ⟨window, found, (raised window found).mpr overflows⟩
    rw [contained.returned] at failed
    cases failed
  · intro fine
    have quiet : ∀ window ∈ windows settings state.staged, raises settings window = false := by
      intro window found
      rw [← Bool.not_eq_true, raised window found]
      exact fine window found
    have known : ∀ window ∈ windows settings state.staged, ∀ item ∈ window.items,
        settings.catalog.policiesById.contains item.2.1 = true :=
      fun window found item member => ready.known item (mem_staged_of_window found member)
    refine ⟨_, outcome.2.1 quiet, ?_, outcome.1.drained, ?_, ?_⟩
    · exact (flushWindows_eq settings { state with staged := [] }
        (windows settings state.staged) ready.drained known).2.1
    · exact flush_wires (windows settings state.staged)
    · exact flushWindows_counts { state with staged := [] } (windows settings state.staged)
        ready.drained known quiet

def coolantPolicy : ChannelPolicy := ⟨"car.coolant_temp", .uint, none, 1 / 10, -40⟩

def coolantSettings : Settings :=
  { catalog :=
      ⟨⟨[("can0:ecu.COOLANT.temp", (1, coolantPolicy))], by decide⟩,
        ⟨[("car.coolant_temp", 1)], by decide⟩, ⟨[(1, coolantPolicy)], by decide⟩,
        ⟨1, "car7", 0,
          [⟨1, "car.coolant_temp", "can0:ecu.COOLANT.temp", "degC", .uint, 1 / 10, -40⟩]⟩, ""⟩
    tickMs := 20
    wallClock := wallClockAt 1000
    f32 := id
    bounds := defaultTick_bounds
    resolves := by
      intro sourceRef entry mapped
      rw [Dict.get?_eq_some] at mapped
      cases List.mem_singleton.mp mapped
      decide }

def coolantState (temp : SampleValue) : State :=
  { init with staged := [("can0", 1, ⟨"can0:ecu.COOLANT.temp", 0, 1000, temp⟩)] }

theorem coolantState_ready (temp : SampleValue) :
    Ready coolantSettings (coolantState temp) := by
  refine ⟨rfl, ?_⟩
  intro entry member
  rw [List.mem_singleton.mp member]
  show coolantSettings.catalog.policiesById.contains 1 = true
  decide

theorem text_costs_window :
    Partitioned coolantSettings (coolantState (.str "hot")).staged ∧
      ((∃ batches, Contained coolantSettings (coolantState (.str "hot")) batches) ↔
        ∀ window ∈ windows coolantSettings (coolantState (.str "hot")).staged,
          ¬Overflows coolantSettings window) :=
  failures_contained_iff coolantSettings (coolantState (.str "hot"))
    (coolantState_ready (.str "hot"))

/-- An infinite temperature ends the call, and with it the thread. -/
theorem infinity_not_contained :
    ¬∃ batches, Contained coolantSettings (coolantState (.float .posInf)) batches := by
  rintro ⟨batches, contained⟩
  have raised : (flush coolantSettings (coolantState (.float .posInf))).2.isOk = false := by
    decide +kernel
  rw [contained.returned] at raised
  cases raised

end OpenLaps.Pipeline

import OpenLaps.Agent.Pipeline

namespace OpenLaps.Pipeline

/-- What `Batcher.tick` makes of the samples of one window. -/
def windowOutcome (settings : Settings) (window : Windows.Window Staged) :
    Except PyError (List (String × SampleBatch)) :=
  Batcher.tick settings.f32 settings.catalog.registry.registrySeq settings.catalog.policiesById
    settings.tickMs (epochUnixMs settings window) (window.anchor stamp) (Dict.group window.items)

/-- The batches a window contributes: none when the window was discarded. -/
def delivered (settings : Settings) (window : Windows.Window Staged) :
    List (TickBatch SampleBatch) :=
  match windowOutcome settings window with
  | .ok emitted => emitted.map (tickBatch settings window)
  | .error _ => []

/-- The window makes `flush` itself raise. -/
def raises (settings : Settings) (window : Windows.Window Staged) : Bool :=
  match windowOutcome settings window with
  | .ok _ => false
  | .error error => !caught error

/-- Between calls: the batcher holds nothing, and every staged id has a policy. -/
structure Ready (settings : Settings) (state : State) : Prop where
  drained : state.pending = .empty
  known : ∀ entry ∈ state.staged, settings.catalog.policiesById.contains entry.2.1 = true

theorem init_ready (settings : Settings) : Ready settings init :=
  ⟨rfl, fun _ member => absurd member List.not_mem_nil⟩

theorem ingest_ready (settings : Settings) (state : State) (sourceClass : String) (sample : Sample)
    (ready : Ready settings state) : Ready settings (ingest settings state sourceClass sample) := by
  unfold ingest
  split
  · exact ⟨ready.drained, ready.known⟩
  · rename_i channelId policy mapped
    split
    · exact ready
    · refine ⟨ready.drained, ?_⟩
      intro entry member
      rcases List.mem_append.mp member with earlier | last
      · exact ready.known entry earlier
      · rw [List.mem_singleton.mp last]
        exact settings.resolves sample.sourceRef (channelId, policy) mapped
    · exact ⟨ready.drained, ready.known⟩

theorem addAll_known (policiesById : Dict Nat ChannelPolicy)
    (pending : Dict String (List (Nat × Sample))) (items : List Staged)
    (known : ∀ item ∈ items, policiesById.contains item.2.1 = true) :
    Batcher.addAll policiesById pending items =
      (items.foldl (fun dict item => dict.push item.1 item.2) pending, none) := by
  induction items generalizing pending with
  | nil => rfl
  | cons item rest ih =>
      rw [Batcher.addAll, if_pos (known item List.mem_cons_self), List.foldl_cons]
      exact ih _ fun later member => known later (List.mem_cons_of_mem item member)

/-- A window of a ready pipeline, with the caught failures turned into no batch. -/
def windowResult (settings : Settings) (window : Windows.Window Staged) :
    Except PyError (List (TickBatch SampleBatch)) :=
  match windowOutcome settings window with
  | .ok emitted => .ok (emitted.map (tickBatch settings window))
  | .error error => if caught error then .ok [] else .error error

theorem windowResult_of_not_raises {settings : Settings} {window : Windows.Window Staged}
    (quiet : raises settings window = false) :
    windowResult settings window = .ok (delivered settings window) := by
  unfold raises at quiet
  unfold windowResult delivered
  cases outcome : windowOutcome settings window with
  | ok emitted => rfl
  | error error =>
      rw [outcome] at quiet
      have handled : caught error = true := by simpa using quiet
      dsimp only
      rw [if_pos handled]

theorem windowResult_of_raises {settings : Settings} {window : Windows.Window Staged}
    (raised : raises settings window = true) (batches : List (TickBatch SampleBatch)) :
    windowResult settings window ≠ .ok batches := by
  unfold raises at raised
  unfold windowResult
  cases outcome : windowOutcome settings window with
  | ok emitted =>
      rw [outcome] at raised
      cases raised
  | error error =>
      rw [outcome] at raised
      have escaped : ¬ caught error = true := by simpa using raised
      dsimp only
      rw [if_neg escaped]
      exact fun impossible => nomatch impossible

theorem flushWindow_eq (settings : Settings) (state : State) (window : Windows.Window Staged)
    (drained : state.pending = .empty)
    (known : ∀ item ∈ window.items, settings.catalog.policiesById.contains item.2.1 = true) :
    (flushWindow settings state window).1.pending = .empty ∧
      (flushWindow settings state window).1.staged = state.staged ∧
      (flushWindow settings state window).2 = windowResult settings window := by
  have outcome : Batcher.tick settings.f32 settings.catalog.registry.registrySeq
      settings.catalog.policiesById settings.tickMs (epochUnixMs settings window)
      (window.anchor stamp) (window.items.foldl (fun dict item => dict.push item.1 item.2) .empty) =
      windowOutcome settings window := rfl
  unfold flushWindow windowResult
  rw [addAll_known _ _ _ known, drained]
  dsimp only
  rw [outcome]
  cases windowOutcome settings window with
  | ok emitted => exact ⟨rfl, rfl, rfl⟩
  | error error =>
      dsimp only
      split
      · exact ⟨rfl, rfl, rfl⟩
      · exact ⟨rfl, rfl, rfl⟩

theorem flushWindows_cons (settings : Settings) (state : State) (window : Windows.Window Staged)
    (rest : List (Windows.Window Staged)) :
    flushWindows settings state (window :: rest) =
      match flushWindow settings state window with
      | (next, .error error) => (next, .error error)
      | (next, .ok batches) =>
          match flushWindows settings next rest with
          | (final, .error error) => (final, .error error)
          | (final, .ok later) => (final, .ok (batches ++ later)) := rfl

theorem flushWindows_eq (settings : Settings) (state : State)
    (found : List (Windows.Window Staged)) (drained : state.pending = .empty)
    (known : ∀ window ∈ found, ∀ item ∈ window.items,
      settings.catalog.policiesById.contains item.2.1 = true) :
    (flushWindows settings state found).1.pending = .empty ∧
      (flushWindows settings state found).1.staged = state.staged ∧
      (flushWindows settings state found).2 =
        (Attempt.all (windowResult settings) found).map List.flatten := by
  induction found generalizing state with
  | nil => exact ⟨drained, rfl, rfl⟩
  | cons window rest ih =>
      have first := flushWindow_eq settings state window drained (known window List.mem_cons_self)
      rw [flushWindows_cons, Attempt.all, ← first.2.2]
      cases outcome : flushWindow settings state window with
      | mk next result =>
          rw [outcome] at first
          cases result with
          | error error => exact ⟨first.1, first.2.1, rfl⟩
          | ok batches =>
              have later := ih next first.1 fun other member =>
                known other (List.mem_cons_of_mem window member)
              dsimp only
              cases remaining : flushWindows settings next rest with
              | mk final result' =>
                  rw [remaining] at later
                  have staged : final.staged = state.staged := later.2.1.trans first.2.1
                  have combined : result' =
                      (Attempt.all (windowResult settings) rest).map List.flatten := later.2.2
                  cases results : Attempt.all (windowResult settings) rest with
                  | error error =>
                      rw [combined, results]
                      exact ⟨later.1, staged, rfl⟩
                  | ok lists =>
                      rw [combined, results]
                      exact ⟨later.1, staged, rfl⟩

theorem windows_items (settings : Settings) (staged : List Staged) :
    (windows settings staged).flatMap Windows.Window.items = sortStaged staged :=
  Windows.split_items _ _ _

theorem sortStaged_perm (staged : List Staged) : (sortStaged staged).Perm staged :=
  List.perm_insertionSort _ staged

theorem sortStaged_sorted (staged : List Staged) :
    (sortStaged staged).Pairwise fun first second => stamp first ≤ stamp second := by
  have total : Std.Total fun first second : Staged => stamp first ≤ stamp second :=
    ⟨fun first second => le_total (stamp first) (stamp second)⟩
  have transitive : IsTrans Staged fun first second => stamp first ≤ stamp second :=
    ⟨fun _ _ _ => le_trans⟩
  exact List.pairwise_insertionSort _ staged

theorem mem_staged_of_window {settings : Settings} {staged : List Staged}
    {window : Windows.Window Staged} (found : window ∈ windows settings staged) {item : Staged}
    (member : item ∈ window.items) : item ∈ staged := by
  have listed : item ∈ (windows settings staged).flatMap Windows.Window.items :=
    List.mem_flatMap.mpr ⟨window, found, member⟩
  rw [windows_items] at listed
  exact (sortStaged_perm staged).mem_iff.mp listed

/-- `flush` from a ready state: it raises exactly when one of its windows does,
and otherwise returns the batches of the windows that were not discarded. -/
theorem flush_eq (settings : Settings) (state : State) (ready : Ready settings state) :
    Ready settings (flush settings state).1 ∧
      ((∀ window ∈ windows settings state.staged, raises settings window = false) →
        (flush settings state).2 =
          .ok ((windows settings state.staged).flatMap (delivered settings))) ∧
      ((∃ window ∈ windows settings state.staged, raises settings window = true) →
        ∃ error, (flush settings state).2 = .error error) := by
  have outcome := flushWindows_eq settings { state with staged := [] }
    (windows settings state.staged) ready.drained
    fun window found item member => ready.known item (mem_staged_of_window found member)
  have result : (flush settings state).2 = (Attempt.all (windowResult settings)
    (windows settings state.staged)).map List.flatten := outcome.2.2
  refine ⟨⟨outcome.1, ?_⟩, ?_, ?_⟩
  · intro entry member
    have none : (flush settings state).1.staged = [] := outcome.2.1
    rw [none] at member
    cases member
  · intro quiet
    rw [result, Attempt.all_eq_map fun window member =>
      windowResult_of_not_raises (quiet window member), List.flatMap_def]
    rfl
  · rintro ⟨window, member, raised⟩
    rw [result]
    cases results : Attempt.all (windowResult settings) (windows settings state.staged) with
    | error error => exact ⟨error, rfl⟩
    | ok lists =>
        obtain ⟨batches, _, fine⟩ := Attempt.ok_of_all results member
        exact absurd fine (windowResult_of_raises raised batches)

theorem tickNs_pos (settings : Settings) : 10000000 ≤ Batcher.tickNs settings.tickMs := by
  have low := settings.bounds.1
  unfold Batcher.tickNs
  omega

theorem windows_within (settings : Settings) (staged : List Staged) :
    ∀ window ∈ windows settings staged,
      window.Within stamp (Batcher.tickNs settings.tickMs) := by
  have positive := tickNs_pos settings
  exact Windows.split_within stamp _ (by omega) _ (sortStaged_sorted staged)

theorem windows_apart (settings : Settings) (staged : List Staged) :
    (windows settings staged).Pairwise fun earlier late =>
      earlier.anchor stamp + 10000000 ≤ late.anchor stamp := by
  have positive := tickNs_pos settings
  refine (Windows.split_apart stamp _ _ (sortStaged_sorted staged)).imp ?_
  intro earlier late apart
  omega

end OpenLaps.Pipeline

import OpenLaps.Pit.Watch.Arrivals

/- What the engine and its rows know of the order in which samples arrived. -/
namespace OpenLaps.Watch

variable {settings : Settings} {answers : Int → Answers} {service service' : WatchService}

section Draining

/-- A sample that is no text, or a text that `json.loads` gets to the end of. -/
def Settings.readable (settings : Settings) (sample : Observation) : Bool :=
  match sample.value with
  | some (.str payload) => sample.channel ≠ "lap.event" || !settings.text.deep payload
  | _ => true

/-- What `observe` does not catch is the depth of a text. -/
theorem observe_raises {settings : Settings} {ids : Nat} {engine : WatchEngine}
    {sample : Observation} {error : PyError} (readable : settings.readable sample = true)
    (raised : engine.observe settings.numerics settings.text ids sample = .error error) :
    caught error = true := by
  unfold WatchEngine.observe at raised
  split at raised
  · cases raised
  · split at raised
    · cases raised
    · split at raised
      · rename_i event
        split at raised
        · rename_i payload text
          have shallow : settings.text.deep payload = false := by
            unfold Settings.readable at readable
            rw [text] at readable
            simpa [event] using readable
          rw [shallow, if_neg Bool.false_ne_true] at raised
          split at raised
          · cases raised
            rfl
          · split at raised <;> cases raised
          · cases raised
        · cases raised
      · split at raised
        · split at raised <;> cases raised
        · cases raised

/-- The engine hears the sample, and no other error comes of one that is readable. -/
theorem observe_hears (settings : Settings) (state : Nat × WatchEngine × Health)
    (sample : Observation) :
    let done := WatchService.observe settings state sample
    (done.1.1, done.1.2.1) = hear settings.numerics settings.text (state.1, state.2.1) sample ∧
      (settings.readable sample = true → done.2 = none) := by
  obtain ⟨ids, engine, health⟩ := state
  unfold WatchService.observe hear
  dsimp only
  cases heard : engine.observe settings.numerics settings.text ids sample with
  | ok next => exact ⟨rfl, fun _ => rfl⟩
  | error error =>
    dsimp only
    split
    · exact ⟨rfl, fun _ => rfl⟩
    · rename_i other
      exact ⟨rfl, fun readable => absurd (observe_raises readable heard) other⟩

theorem foldl_observe (settings : Settings) (items : List Observation)
    (state : Nat × WatchEngine × Health) :
    let done := items.foldl (fun state item => (WatchService.observe settings state item).1) state
    (done.1, done.2.1) = items.foldl (hear settings.numerics settings.text) (state.1, state.2.1) := by
  induction items generalizing state with
  | nil => rfl
  | cons sample rest ih =>
    have first := (observe_hears settings state sample).1
    have others := ih (WatchService.observe settings state sample).1
    dsimp only at first others ⊢
    rw [List.foldl_cons, List.foldl_cons, others, first]

/-- The samples of a second reach only the engine, and no more than what is due goes. -/
theorem drain_frame (settings : Settings) (ids : Nat) (service : WatchService) (time : Int) :
    (service.drain settings ids time).2.1.pending.entries.Sublist service.pending.entries ∧
      (service.drain settings ids time).2.1.pending.sequence = service.pending.sequence ∧
      (service.drain settings ids time).2.1.session = service.session ∧
      (service.drain settings ids time).2.1.stint = service.stint ∧
      (service.drain settings ids time).2.1.initialized = service.initialized := by
  obtain ⟨fewer, sequence⟩ := ReorderBuffer.handOut_waiting (WatchService.observe settings)
    (time : ℚ) service.pending (ids, service.engine, service.health)
  exact ⟨fewer, sequence, rfl, rfl, rfl⟩

/-- Where all that is due is readable, the engine hears it. -/
theorem drain_heard {settings : Settings} {service : WatchService} {time : Int} (ids : Nat)
    (readable : ∀ sample ∈ service.pending.due (time : ℚ), settings.readable sample = true) :
    let done := service.drain settings ids time
    (done.1, done.2.1.engine) = (service.pending.due (time : ℚ)).foldl
        (hear settings.numerics settings.text) (ids, service.engine) ∧
      done.2.1.pending = service.pending.later (time : ℚ) ∧ done.2.2 = none := by
  have drained := ReorderBuffer.handOut_of_ok (WatchService.observe settings) (time : ℚ)
    (ids, service.engine, service.health) fun sample member state =>
      (observe_hears settings state sample).2 (readable sample member)
  have heard := foldl_observe settings (service.pending.due (time : ℚ))
    (ids, service.engine, service.health)
  unfold WatchService.drain
  rw [drained]
  exact ⟨heard, rfl, rfl⟩

/-- The classes of numbers and engines that are the same. -/
def sameEngines : Setoid (Nat × WatchEngine) where
  r := Alike
  iseqv :=
    ⟨fun _ => ⟨rfl, .refl _⟩, fun alike => ⟨alike.1.symm, alike.2.symm⟩,
      fun first second => ⟨first.1.trans second.1, first.2.trans second.2⟩⟩

/-- Of the order of arrival only what is left of each channel and time counts. -/
theorem drain_same {settings : Settings} {time : Int} (ids : Nat) (same : service.Same service')
    (readable : ∀ sample ∈ service.pending.due (time : ℚ), settings.readable sample = true)
    (readable' : ∀ sample ∈ service'.pending.due (time : ℚ), settings.readable sample = true)
    (arrived : ∀ channel moment, moment ≤ (time : ℚ) →
      samplesOf channel moment service.pending.items =
        samplesOf channel moment service'.pending.items) :
    (service.drain settings ids time).1 = (service'.drain settings ids time).1 ∧
      (service.drain settings ids time).2.1.Same (service'.drain settings ids time).2.1 := by
  have heard : Alike
      ((service.pending.due (time : ℚ)).foldl (hear settings.numerics settings.text)
        (ids, service.engine))
      ((service'.pending.due (time : ℚ)).foldl (hear settings.numerics settings.text)
        (ids, service'.engine)) :=
    ReorderBuffer.foldl_due_related sameEngines (fun _ _ sample alike => hear_same alike sample)
      (fun _ _ apart state => hear_comm apart state) arrived ⟨rfl, same.engine⟩
  rw [← (drain_heard ids readable).1, ← (drain_heard ids readable').1] at heard
  exact ⟨heard.1, heard.2, same.session, same.stint, same.initialized⟩

theorem evaluate_same (settings : Settings) (ids : Nat) (time : Int)
    (same : service.Same service') :
    (service.evaluate settings ids time).1 = (service'.evaluate settings ids time).1 ∧
      (service.evaluate settings ids time).2.1.Same (service'.evaluate settings ids time).2.1 ∧
      (service.evaluate settings ids time).2.2 = (service'.evaluate settings ids time).2.2 := by
  unfold WatchService.evaluate
  have ticked := tick_same settings.numerics ids same.engine time service.session.isSome
  rw [← same.session, ← same.stint]
  generalize service.engine.tick settings.numerics ids time service.session.isSome = done
    at ticked ⊢
  generalize service'.engine.tick settings.numerics ids time service.session.isSome = done'
    at ticked ⊢
  obtain ⟨engine, outcome⟩ := done
  obtain ⟨engine', outcome'⟩ := done'
  obtain ⟨engines, each⟩ := ticked
  dsimp only at engines each ⊢
  rw [← each, ← engines.monitors]
  cases outcome with
  | error error => exact ⟨rfl, ⟨engines, rfl, rfl, same.initialized⟩, rfl⟩
  | ok rows =>
    dsimp only
    split
    · exact ⟨rfl, ⟨engines, rfl, rfl, same.initialized⟩, rfl⟩
    · exact ⟨rfl, ⟨engines, rfl, rfl, same.initialized⟩, rfl⟩

theorem evaluate_pending (settings : Settings) (ids : Nat) (service : WatchService) (time : Int) :
    (service.evaluate settings ids time).2.1.pending = service.pending := by
  unfold WatchService.evaluate
  dsimp only
  split
  · rfl
  · split <;> rfl

end Draining

section Orders

variable {state state' : Watching}

/-- Up to a tick, the same was accepted before it: of each channel and time, and in the same
order. -/
structure Ticked.SameArrivals (first second : Ticked) : Prop where
  time : first.time = second.time
  taken : ∀ channel moment, moment ≤ (first.time : ℚ) →
    samplesOf channel moment first.taken = samplesOf channel moment second.taken

theorem sameArrivals_iff (first second : Ticked) :
    (first.time = second.time ∧ ∀ item ∈ first.taken ++ second.taken,
      item.time ≤ (first.time : ℚ) → samplesOf item.channel item.time first.taken =
        samplesOf item.channel item.time second.taken) ↔ first.SameArrivals second := by
  constructor
  · rintro ⟨time, each⟩
    refine ⟨time, ?_⟩
    intro channel moment early
    apply ReorderBuffer.bucket_eq_of_mem
    intro item member own at'
    rw [← own, ← at']
    apply each item member
    rw [at']
    exact early
  · intro same
    exact ⟨same.time, fun item _ early => same.taken item.channel item.time early⟩

instance (first second : Ticked) : Decidable (first.SameArrivals second) :=
  decidable_of_iff _ (sameArrivals_iff first second)

/-- A tick leaves the same engine, in the same session and stint, and calls the database
alike. -/
structure Ticked.Same (first second : Ticked) : Prop where
  engine : first.engine.Same second.engine
  session : first.session = second.session
  stint : first.stint = second.stint
  closed : first.closed = second.closed
  write : first.write = second.write

/-- Two runs between their ticks. -/
structure Watching.Same (first second : Watching) : Prop where
  ids : first.ids = second.ids
  service : first.service.Same second.service
  waiting : ReorderBuffer.Alike Observation.channel first.taken second.taken
    first.service.pending second.service.pending

theorem Watching.Same.symm (same : state.Same state') : state'.Same state :=
  ⟨same.ids.symm, same.service.symm, same.waiting.symm⟩

theorem alike_foldl {taken taken' : List Observation}
    {buffer buffer' : ReorderBuffer.Buffer Observation.time}
    (alike : ReorderBuffer.Alike Observation.channel taken taken' buffer buffer')
    (items : List Observation) :
    ReorderBuffer.Alike Observation.channel (taken ++ items) taken'
      (items.foldl ReorderBuffer.Buffer.push buffer) buffer' := by
  induction items generalizing taken buffer with
  | nil =>
    rw [List.append_nil]
    exact alike
  | cons item rest ih =>
    have one := ih (alike.push item)
    rw [List.append_assoc] at one
    exact one

/-- What one of them receives may come to the other at another time. -/
theorem receive_same (same : state.Same state') (now : ℚ) (message : Message) :
    (state.receive now message).Same state' := by
  obtain ⟨handled, pending⟩ := handle_frame now state.service message
  refine ⟨same.ids, handled.same.trans same.service, ?_⟩
  show ReorderBuffer.Alike _ _ _ (state.service.handle now message).pending _
  rw [pending]
  exact alike_foldl same.waiting _

theorem tick_before (settings : Settings) (answers : Int → Answers) (time : Int) (state : Watching) :
    (state.tick settings answers time).2.time = time ∧
      (state.tick settings answers time).2.taken = state.taken := by
  unfold Watching.tick
  dsimp only
  split
  · exact ⟨rfl, rfl⟩
  · split <;> exact ⟨rfl, rfl⟩

/-- No event that was accepted until a tick is a text that `json.loads` gives up on. -/
def Ticked.Readable (settings : Settings) (ticked : Ticked) : Prop :=
  ∀ item ∈ ticked.taken, item.time ≤ (ticked.time : ℚ) → settings.readable item = true

instance (settings : Settings) (ticked : Ticked) : Decidable (ticked.Readable settings) :=
  inferInstanceAs (Decidable (∀ item ∈ ticked.taken, _ → _))

/-- What is due was accepted. -/
theorem due_taken {taken taken' : List Observation}
    {buffer buffer' : ReorderBuffer.Buffer Observation.time} {limit : ℚ} {item : Observation}
    (alike : ReorderBuffer.Alike Observation.channel taken taken' buffer buffer')
    (member : item ∈ buffer.due limit) : item ∈ taken ∧ item.time ≤ limit := by
  have waits : item ∈ buffer.items :=
    ((List.takeWhile_sublist _).map ReorderBuffer.Entry.item).subset member
  obtain ⟨entry, early, here⟩ := List.mem_map.mp member
  rw [ReorderBuffer.takeWhile_eq_filter buffer.sorted] at early
  have time := of_decide_eq_true (List.mem_filter.mp early).2
  rw [here] at time
  obtain ⟨gone, -, -, left, -⟩ := alike item.channel item.time
  have own : item ∈ samplesOf item.channel item.time buffer.items :=
    List.mem_filter.mpr ⟨waits, decide_eq_true ⟨rfl, rfl⟩⟩
  rw [samplesOf, left] at own
  exact ⟨(List.mem_filter.mp (List.mem_of_mem_drop own)).1, time⟩

theorem tick_alike (same : state.Same state') {time : Int}
    (readable : (state.tick settings answers time).2.Readable settings)
    (arrived : Ticked.SameArrivals (state.tick settings answers time).2
      (state'.tick settings answers time).2) :
    (state.tick settings answers time).1.Same (state'.tick settings answers time).1 ∧
      (state.tick settings answers time).2.Same (state'.tick settings answers time).2 := by
  have accepted : ∀ channel moment, moment ≤ (time : ℚ) →
      samplesOf channel moment state.taken = samplesOf channel moment state'.taken := by
    have taken := arrived.taken
    rw [(tick_before settings answers time state).1, (tick_before settings answers time state).2,
      (tick_before settings answers time state').2] at taken
    exact taken
  unfold Ticked.Readable at readable
  rw [(tick_before settings answers time state).1, (tick_before settings answers time state).2]
    at readable
  obtain ⟨contexts, results⟩ := context_same settings (answers time) same.service
  have waits := context_pending settings (answers time) state.service
  have waits' := context_pending settings (answers time) state'.service
  clear arrived
  unfold Watching.tick
  generalize state.service.context settings (answers time) = done at contexts results waits ⊢
  generalize state'.service.context settings (answers time) = done' at contexts results waits' ⊢
  obtain ⟨middle, closed, outcome⟩ := done
  obtain ⟨middle', closed', outcome'⟩ := done'
  dsimp only at contexts results waits waits' ⊢
  cases results
  have waiting := same.waiting
  rw [← waits, ← waits'] at waiting
  cases outcome with
  | error error =>
    exact ⟨⟨same.ids, ⟨contexts.engine, contexts.session, contexts.stint, contexts.initialized⟩,
      waiting⟩, contexts.engine, contexts.session, contexts.stint, rfl, rfl⟩
  | ok done =>
    have due : ∀ sample ∈ middle.pending.due (time : ℚ), settings.readable sample = true := by
      intro sample member
      obtain ⟨taken, early⟩ := due_taken waiting member
      exact readable sample taken early
    have due' : ∀ sample ∈ middle'.pending.due (time : ℚ), settings.readable sample = true := by
      intro sample member
      obtain ⟨taken, early⟩ := due_taken waiting.symm member
      have own : sample ∈ samplesOf sample.channel sample.time state'.taken :=
        List.mem_filter.mpr ⟨taken, decide_eq_true ⟨rfl, rfl⟩⟩
      rw [← accepted sample.channel sample.time early] at own
      exact readable sample (List.mem_filter.mp own).1 early
    dsimp only
    rw [← same.ids]
    obtain ⟨numbers, drained⟩ := drain_same state.ids contexts due due'
      fun channel moment early => waiting.bucket_eq (accepted channel moment early)
    obtain ⟨-, left, fine⟩ := drain_heard state.ids due
    obtain ⟨-, left', fine'⟩ := drain_heard state.ids due'
    have waiting := waiting.later fun channel moment early => accepted channel moment early
    rw [← left, ← left'] at waiting
    rw [fine, fine']
    dsimp only
    obtain ⟨ids, evaluated, writes⟩ := evaluate_same settings
      (middle.drain settings state.ids time).1 time drained
    have ended := evaluate_pending settings (middle.drain settings state.ids time).1
      (middle.drain settings state.ids time).2.1 time
    have ended' := evaluate_pending settings (middle.drain settings state.ids time).1
      (middle'.drain settings state.ids time).2.1 time
    rw [← ended, ← ended'] at waiting
    rw [← numbers, ← ids, ← writes]
    refine ⟨⟨rfl, ?_, ?_⟩, evaluated.engine, evaluated.session, evaluated.stint, rfl, rfl⟩
    · cases ((middle.drain settings state.ids time).2.1.evaluate settings
          (middle.drain settings state.ids time).1 time).2.2 with
      | error error =>
        exact ⟨evaluated.engine, evaluated.session, evaluated.stint, evaluated.initialized⟩
      | ok call =>
        cases call with
        | none => exact evaluated
        | some call =>
          exact ⟨evaluated.engine, evaluated.session, evaluated.stint, evaluated.initialized⟩
    · cases ((middle.drain settings state.ids time).2.1.evaluate settings
          (middle.drain settings state.ids time).1 time).2.2 with
      | error error => exact waiting
      | ok call =>
        cases call with
        | none => exact waiting
        | some call => exact waiting

/-- Runs that accepted the same before each tick. -/
theorem run_same (same : state.Same state') (inputs inputs' : List Input)
    (readable : ∀ ticked ∈ state.run settings answers inputs, ticked.Readable settings)
    (arrived : List.Forall₂ Ticked.SameArrivals (state.run settings answers inputs)
      (state'.run settings answers inputs')) :
    List.Forall₂ Ticked.Same (state.run settings answers inputs)
      (state'.run settings answers inputs') := by
  -- Messages of either run are taken up one by one; the ticks come in pairs.
  induction inputs generalizing state state' inputs' with
  | nil =>
    have none := List.forall₂_nil_left_iff.mp arrived
    rw [none]
    exact .nil
  | cons input rest ih =>
    cases input with
    | receive now message => exact ih (receive_same same now message) inputs' readable arrived
    | tick time =>
      induction inputs' generalizing state' with
      | nil => cases arrived
      | cons input' rest' ih' =>
        cases input' with
        | receive now message =>
          exact ih' (receive_same same.symm now message).symm arrived
        | tick time' =>
          obtain ⟨first, later⟩ := List.forall₂_cons.mp arrived
          have moment : time = time' := by
            have times := first.time
            rw [(tick_before settings answers time state).1,
              (tick_before settings answers time' state').1] at times
            exact times
          rw [← moment] at first later ⊢
          obtain ⟨next, ticked⟩ := tick_alike same (readable _ List.mem_cons_self) first
          exact .cons ticked (ih next rest'
            (fun one member => readable one (List.mem_cons_of_mem _ member)) later)

theorem start_same (settings : Settings) : (Watching.start settings).Same (.start settings) :=
  ⟨rfl, .refl _, .empty⟩

end Orders

end OpenLaps.Watch

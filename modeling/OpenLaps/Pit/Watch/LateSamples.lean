import OpenLaps.Pit.Watch.ArrivalOrder
import OpenLaps.Pit.Watch.OpenRows

/- What becomes of a sample that arrives when the engine has passed its time. -/
namespace OpenLaps.Watch

variable {settings : Settings} {answers : Int → Answers} {service : WatchService} {number : Nat}

namespace WatchService

/-- The service without the waiting sample of a number. -/
def without (number : Nat) (service : WatchService) : WatchService :=
  service.await (service.pending.without number)

/-- The waiting sample of a number is not later than the engine's last tick. -/
def Passed (number : Nat) (service : WatchService) : Prop :=
  ∀ entry ∈ service.pending.entries, entry.sequence = number →
    ∃ last, service.engine.lastTick = some last ∧ entry.item.time ≤ last

/-- The engine of the tick is a new one: of the first tick, or of another session. -/
def Renews (answers : Answers) (service : WatchService) : Prop :=
  ∃ session stint, answers.seen = .ok (session, stint) ∧
    ¬(service.initialized ∧ session = service.session)

end WatchService

namespace Watching

def without (number : Nat) (state : Watching) : Watching :=
  { state with service := state.service.without number }

/-- The samples that wait stay below the limit, and no new engine is still to reach the time of
the waiting sample. -/
def Undisturbed (settings : Settings) (answers : Int → Answers) (number : Nat) :
    Watching → List Input → Prop
  | _, [] => True
  | state, input :: rest =>
    (match input with
      | .receive now message =>
        (state.receive now message).service.pending.entries.length < maxPending
      | .tick time =>
        state.service.Renews (answers time) →
          (state.service.context settings (answers time)).1.Passed number) ∧
      Undisturbed settings answers number (state.step settings answers input).1 rest

end Watching

section Receiving

variable {now : ℚ}

theorem accept_without (now : ℚ) (old : number ≤ service.pending.sequence)
    (room : service.pending.entries.length < maxPending) (sample : DecodedSample) :
    (service.without number).accept now sample = (service.accept now sample).without number ∧
      ((service.without number).Takes now sample ↔ service.Takes now sample) := by
  have room' : (service.without number).pending.entries.length < maxPending :=
    Nat.lt_of_le_of_lt (List.length_filter_le _ _) room
  constructor
  · unfold WatchService.accept
    dsimp only
    rw [if_neg (Nat.not_le.mpr room), if_neg (Nat.not_le.mpr room')]
    show (if sample.channel.name ∉ service.engine.inputChannels then _ else _) = _
    split
    · rfl
    · split
      · rfl
      · exact congrArg service.await
          (ReorderBuffer.push_without service.pending number (observation sample) old).symm
  · exact ⟨fun taken => ⟨taken.1, taken.2.1, room⟩, fun taken => ⟨taken.1, taken.2.1, room'⟩⟩

theorem accept_sequence (now : ℚ) (service : WatchService) (sample : DecodedSample) :
    service.pending.sequence ≤ (service.accept now sample).pending.sequence ∧
      service.pending.entries.length ≤ (service.accept now sample).pending.entries.length := by
  rw [(accept_frame now service sample).2]
  split
  · refine ⟨Nat.le_succ _, ?_⟩
    rw [ReorderBuffer.Buffer.push, List.orderedInsert_length]
    exact Nat.le_succ _
  · exact ⟨Nat.le_refl _, Nat.le_refl _⟩

theorem foldl_accept_without (samples : List DecodedSample)
    (old : number ≤ service.pending.sequence)
    (room : (samples.foldl (WatchService.accept now) service).pending.entries.length < maxPending) :
    samples.foldl (WatchService.accept now) (service.without number) =
        (samples.foldl (WatchService.accept now) service).without number ∧
      (service.without number).taken now samples = service.taken now samples := by
  induction samples generalizing service with
  | nil => exact ⟨rfl, rfl⟩
  | cons sample rest ih =>
    obtain ⟨newer, longer⟩ := accept_sequence now service sample
    have last := (foldl_accept now rest (service.accept now sample)).2
    have more : (service.accept now sample).pending.entries.length ≤
        ((sample :: rest).foldl (WatchService.accept now) service).pending.entries.length := by
      rw [List.foldl_cons, last, ReorderBuffer.length_foldl_push]
      exact Nat.le_add_right _ _
    obtain ⟨same, takes⟩ := accept_without now old (by omega) sample
    obtain ⟨others, taken⟩ := ih (old.trans newer) room
    constructor
    · rw [List.foldl_cons, List.foldl_cons, same]
      exact others
    · unfold WatchService.taken
      rw [same]
      simp only [taken, takes]

/-- Below the limit, a message is taken as if the sample did not wait. -/
theorem handle_without (message : Message) (old : number ≤ service.pending.sequence)
    (room : (service.handle now message).pending.entries.length < maxPending) :
    (service.without number).handle now message = (service.handle now message).without number ∧
      (service.without number).arrivals now message = service.arrivals now message := by
  cases message with
  | registry parsed => cases parsed <;> exact ⟨rfl, rfl⟩
  | batch parsed =>
    cases parsed with
    | none => exact ⟨rfl, rfl⟩
    | some raw =>
      by_cases live : Backfill now ((raw.batchEpochUnixMs : ℚ) / 1000)
      · unfold WatchService.handle WatchService.arrivals
        dsimp only
        simp only [if_pos live, and_true]
        rfl
      · rw [handle_batch live] at room
        rw [handle_batch live, handle_batch live, arrivals_batch live, arrivals_batch live]
        rw [show (service.without number).cache = service.cache from rfl]
        generalize service.cache.decodeBatch raw = done at room ⊢
        obtain ⟨cache, decoded⟩ := done
        cases decoded with
        | error reject => exact ⟨rfl, rfl⟩
        | ok batch =>
          exact foldl_accept_without batch.samples
            (show number ≤ (service.decoding cache).pending.sequence from old) room

/-- What is received is newer than the sample of the number. -/
theorem handle_passed (now : ℚ) (message : Message) (old : number ≤ service.pending.sequence)
    (passed : service.Passed number) :
    (service.handle now message).Passed number ∧
      number ≤ (service.handle now message).pending.sequence := by
  obtain ⟨handled, pending⟩ := handle_frame now service message
  unfold WatchService.Passed
  rw [pending, handled.engine]
  constructor
  · intro entry member own
    apply passed entry ?_ own
    apply ReorderBuffer.mem_foldl_push member
    rw [own]
    exact old
  · rw [ReorderBuffer.sequence_foldl_push]
    exact Nat.le_add_right_of_le old

end Receiving

section Ticking

variable (settings : Settings)

theorem restart_lastTick (answers : Answers) (session : Option String) (stint : Nat)
    (engine : WatchEngine) (names : List String) :
    (settings.restart answers session stint engine names).1.lastTick = engine.lastTick := by
  induction names generalizing engine with
  | nil => rfl
  | cons name rest ih =>
    unfold Settings.restart
    cases engine.config.monitors.get? name with
    | none => rfl
    | some config =>
      dsimp only
      cases settings.freshMonitor answers session stint name (buildMonitor config) with
      | error error => rfl
      | ok fresh => exact ih _

/-- An engine that is not new has got as far as before. -/
theorem context_passed {answers : Answers} (passed : service.Passed number)
    (renewed : service.Renews answers → (service.context settings answers).1.Passed number) :
    (service.context settings answers).1.Passed number := by
  by_cases renews : service.Renews answers
  · exact renewed renews
  · have lastTick : (service.context settings answers).1.engine.lastTick = service.engine.lastTick := by
      unfold WatchService.context
      cases seen : answers.seen with
      | error error => rfl
      | ok context =>
        obtain ⟨session, stint⟩ := context
        dsimp only
        have same : service.initialized ∧ session = service.session := by
          by_contra other
          exact renews ⟨session, stint, seen, other⟩
        rw [if_pos same]
        split
        · rfl
        · unfold WatchService.changeStint
          dsimp only
          generalize (service.engine.monitors.entries.filter fun entry => stintStart entry.2).map
            Prod.fst = changed
          have kept := restart_lastTick settings answers session stint service.engine changed
          generalize settings.restart answers session stint service.engine changed = done at kept ⊢
          obtain ⟨engine, outcome⟩ := done
          cases outcome with
          | error error => exact kept
          | ok ended =>
            dsimp only
            split
            · exact kept
            · cases answers.closePrevious <;> exact kept
    unfold WatchService.Passed
    rw [context_pending, lastTick]
    exact passed

theorem observe_lastTick (state : Nat × WatchEngine × Health) (sample : Observation) :
    (WatchService.observe settings state sample).1.2.1.lastTick = state.2.1.lastTick := by
  have heard := (observe_hears settings state sample).1
  rw [show (WatchService.observe settings state sample).1.2.1 = _ from congrArg Prod.snd heard]
  exact (hear_frame settings.numerics settings.text state.1 state.2.1 sample).2

/-- A sample that is not later than the last tick. -/
theorem observe_late {state : Nat × WatchEngine × Health} {sample : Observation} {last : Int}
    (lastTick : state.2.1.lastTick = some last) (late : sample.time ≤ last) :
    WatchService.observe settings state sample = (state, none) := by
  obtain ⟨ids, engine, health⟩ := state
  dsimp only at lastTick
  have passed : (engine.lastTick.any fun last => sample.time ≤ last) = true := by
    rw [lastTick]
    exact decide_eq_true late
  unfold WatchService.observe WatchEngine.observe
  dsimp only
  rw [if_pos passed, ite_self]

/-- A sample that the engine has passed is handed out to no effect. -/
theorem drain_without (ids : Nat) (time : Int) (passed : service.Passed number) :
    (service.without number).drain settings ids time =
      ((service.drain settings ids time).1, (service.drain settings ids time).2.1.without number,
        (service.drain settings ids time).2.2) := by
  have idle := ReorderBuffer.handOut_without service.pending (WatchService.observe settings)
    (ids, service.engine, service.health) number (time : ℚ)
    (fun state => state.2.1.lastTick = service.engine.lastTick)
    (fun state sample same => (observe_lastTick settings state sample).trans same)
    (by
      intro entry member own state same
      obtain ⟨last, lastTick, late⟩ := passed entry member own
      exact observe_late settings (same.trans lastTick) late)
    rfl
  unfold WatchService.drain
  rw [show (service.without number).pending = service.pending.without number from rfl,
    show (service.without number).engine = service.engine from rfl,
    show (service.without number).health = service.health from rfl, idle]
  rfl

/-- What waits on still is not later than the last tick. -/
theorem drain_passed (ids : Nat) (time : Int) (passed : service.Passed number) :
    (service.drain settings ids time).2.1.Passed number := by
  have lastTick := ReorderBuffer.handOut_kept service.pending (WatchService.observe settings)
    (ids, service.engine, service.health)
    (fun state => state.2.1.lastTick = service.engine.lastTick) (time : ℚ) rfl
    fun sample _ state same => (observe_lastTick settings state sample).trans same
  intro entry member own
  obtain ⟨last, reached, late⟩ :=
    passed entry ((drain_frame settings ids service time).1.subset member) own
  exact ⟨last, lastTick.trans reached, late⟩

theorem evaluate_await (pending : ReorderBuffer.Buffer Observation.time) (ids : Nat)
    (service : WatchService) (time : Int) :
    (service.await pending).evaluate settings ids time =
      ((service.evaluate settings ids time).1,
        (service.evaluate settings ids time).2.1.await pending,
        (service.evaluate settings ids time).2.2) := by
  unfold WatchService.evaluate
  rw [show (service.await pending).engine = service.engine from rfl,
    show (service.await pending).session = service.session from rfl]
  generalize service.engine.tick settings.numerics ids time service.session.isSome = done
  obtain ⟨engine, outcome⟩ := done
  cases outcome with
  | error error => rfl
  | ok rows =>
    dsimp only
    split <;> rfl

/-- A tick goes no way back. -/
theorem evaluate_passed (ids : Nat) (time : Int) (passed : service.Passed number) :
    (service.evaluate settings ids time).2.1.Passed number := by
  have later : ∀ last, service.engine.lastTick = some last →
      ∃ next, (service.evaluate settings ids time).2.1.engine.lastTick = some next ∧ last ≤ next := by
    intro last lastTick
    have engine : (service.evaluate settings ids time).2.1.engine =
        (service.engine.tick settings.numerics ids time service.session.isSome).1 := by
      unfold WatchService.evaluate
      dsimp only
      split
      · rfl
      · split <;> rfl
    rw [engine]
    unfold WatchEngine.tick
    rw [lastTick]
    by_cases back : time ≤ last
    · rw [if_pos (by exact decide_eq_true back)]
      exact ⟨last, lastTick, le_rfl⟩
    · rw [if_neg (by simpa using back)]
      cases service.engine.raising time service.session.isSome with
      | none => exact ⟨time, rfl, le_of_not_ge back⟩
      | some raised => exact ⟨time, rfl, le_of_not_ge back⟩
  intro entry member own
  rw [evaluate_pending] at member
  obtain ⟨last, lastTick, late⟩ := passed entry member own
  obtain ⟨next, reached, more⟩ := later last lastTick
  exact ⟨next, reached, late.trans (by exact_mod_cast more)⟩

end Ticking

section Runs

variable {state : Watching}

theorem context_without (settings : Settings) (answers : Answers) (service : WatchService) :
    (service.without number).context settings answers =
      ((service.context settings answers).1.without number, (service.context settings answers).2) := by
  unfold WatchService.without
  rw [context_await, context_pending]

theorem evaluate_without (settings : Settings) (ids : Nat) (service : WatchService) (time : Int) :
    (service.without number).evaluate settings ids time =
      ((service.evaluate settings ids time).1,
        (service.evaluate settings ids time).2.1.without number,
        (service.evaluate settings ids time).2.2) := by
  unfold WatchService.without
  rw [evaluate_await, evaluate_pending]

theorem tick_without {time : Int}
    (passed : (state.service.context settings (answers time)).1.Passed number) :
    (state.without number).tick settings answers time =
      ((state.tick settings answers time).1.without number, (state.tick settings answers time).2) := by
  unfold Watching.tick
  rw [show (state.without number).service = state.service.without number from rfl, context_without]
  generalize state.service.context settings (answers time) = done at passed ⊢
  obtain ⟨middle, closed, outcome⟩ := done
  cases outcome with
  | error error => rfl
  | ok ended =>
    dsimp only
    rw [show (state.without number).ids = state.ids from rfl, drain_without settings _ _ passed]
    dsimp only
    generalize middle.drain settings state.ids time = drained
    obtain ⟨ids, heard, raised⟩ := drained
    cases raised with
    | some error => rfl
    | none =>
      dsimp only
      rw [evaluate_without]
      dsimp only
      rcases (heard.evaluate settings ids time).2.2 with error | call
      · rfl
      · cases call <;> rfl

theorem tick_passed {time : Int} (old : number ≤ state.service.pending.sequence)
    (passed : (state.service.context settings (answers time)).1.Passed number) :
    (state.tick settings answers time).1.service.Passed number ∧
      number ≤ (state.tick settings answers time).1.service.pending.sequence := by
  have waits := context_pending settings (answers time) state.service
  unfold Watching.tick
  generalize state.service.context settings (answers time) = done at passed waits ⊢
  obtain ⟨middle, closed, outcome⟩ := done
  dsimp only at passed waits
  cases outcome with
  | error error =>
    refine ⟨passed, ?_⟩
    show number ≤ middle.pending.sequence
    rw [waits]
    exact old
  | ok ended =>
    have heard := drain_passed settings state.ids time passed
    have sequence := (drain_frame settings state.ids middle time).2.1
    rw [waits] at sequence
    dsimp only
    generalize middle.drain settings state.ids time = drained at heard sequence ⊢
    obtain ⟨ids, drained, raised⟩ := drained
    dsimp only at heard sequence ⊢
    cases raised with
    | some error => exact ⟨heard, old.trans_eq sequence.symm⟩
    | none =>
      have judged := evaluate_passed settings ids time heard
      rw [← evaluate_pending settings ids drained time] at sequence
      dsimp only
      rcases (drained.evaluate settings ids time).2.2 with error | call
      · exact ⟨judged, old.trans_eq sequence.symm⟩
      · cases call with
        | none => exact ⟨judged, old.trans_eq sequence.symm⟩
        | some call => exact ⟨judged, old.trans_eq sequence.symm⟩

/-- A run in which the sample does not count. -/
theorem run_without (inputs : List Input) (old : number ≤ state.service.pending.sequence)
    (passed : state.service.Passed number)
    (undisturbed : state.Undisturbed settings answers number inputs) :
    (state.without number).run settings answers inputs = state.run settings answers inputs := by
  induction inputs generalizing state with
  | nil => rfl
  | cons input rest ih =>
    obtain ⟨here, later⟩ := undisturbed
    cases input with
    | receive now message =>
      obtain ⟨same, taken⟩ := handle_without message old here
      obtain ⟨passed, old⟩ := handle_passed now message old passed
      have next : (state.without number).receive now message =
          (state.receive now message).without number := by
        unfold Watching.receive Watching.without
        dsimp only
        rw [same, taken]
      show ((state.without number).receive now message).run settings answers rest = _
      rw [next]
      exact ih old passed later
    | tick time =>
      have passed := context_passed settings passed here
      obtain ⟨passed', old⟩ := tick_passed old passed
      have next := tick_without passed
      show ((state.without number).tick settings answers time).2 ::
        ((state.without number).tick settings answers time).1.run settings answers rest = _
      rw [next]
      exact congrArg _ (ih old passed' later)

end Runs

section Tests

/-- `Passed` as a test. -/
theorem passed_iff (number : Nat) (service : WatchService) :
    (∀ entry ∈ service.pending.entries, entry.sequence = number →
      (service.engine.lastTick.any fun last : Int => entry.item.time ≤ (last : ℚ)) = true) ↔
        service.Passed number := by
  have each : ∀ entry : ReorderBuffer.Entry Observation,
      (service.engine.lastTick.any fun last : Int => entry.item.time ≤ (last : ℚ)) = true ↔
        ∃ last, service.engine.lastTick = some last ∧ entry.item.time ≤ last := by
    intro entry
    rw [Option.any_eq_true]
    simp only [decide_eq_true_eq]
  simp only [each]
  rfl

instance (number : Nat) (service : WatchService) : Decidable (service.Passed number) :=
  decidable_of_iff _ (passed_iff number service)

instance (answers : Answers) (service : WatchService) : Decidable (service.Renews answers) :=
  match seen : answers.seen with
  | .error _ => isFalse fun ⟨_, _, same, _⟩ => by
    rw [seen] at same
    cases same
  | .ok (session, stint) =>
    if here : service.initialized ∧ session = service.session then
      isFalse fun ⟨_, _, same, other⟩ => by
        rw [seen] at same
        cases same
        exact other here
    else isTrue ⟨session, stint, seen, here⟩

instance undisturbedDecidable (settings : Settings) (answers : Int → Answers) (number : Nat) :
    ∀ (state : Watching) (inputs : List Input),
      Decidable (state.Undisturbed settings answers number inputs)
  | _, [] => isTrue trivial
  | state, .receive now message :: rest =>
    have := undisturbedDecidable settings answers number
      (state.step settings answers (.receive now message)).1 rest
    inferInstanceAs (Decidable (_ ∧ _))
  | state, .tick time :: rest =>
    have := undisturbedDecidable settings answers number
      (state.step settings answers (.tick time)).1 rest
    inferInstanceAs (Decidable (_ ∧ _))

end Tests

/-- Runs that accepted the same before each tick, and no event that `json.loads` gives up on,
leave the same after it; and a waiting sample that the engine has passed counts in no tick, as
long as no new engine comes that has not got as far. -/
theorem arrival_order (settings : Settings) (answers : Int → Answers) :
    (∀ inputs inputs' : List Input,
      (∀ ticked ∈ (Watching.start settings).run settings answers inputs, ticked.Readable settings) →
      List.Forall₂ Ticked.SameArrivals ((Watching.start settings).run settings answers inputs)
          ((Watching.start settings).run settings answers inputs') →
        List.Forall₂ Ticked.Same ((Watching.start settings).run settings answers inputs)
          ((Watching.start settings).run settings answers inputs')) ∧
      ∀ (state : Watching) (number : Nat) (inputs : List Input),
        number ≤ state.service.pending.sequence → state.service.Passed number →
          state.Undisturbed settings answers number inputs →
            (state.without number).run settings answers inputs = state.run settings answers inputs :=
  ⟨fun inputs inputs' readable arrived =>
      run_same (start_same settings) inputs inputs' readable arrived,
    fun _ _ inputs old passed undisturbed => run_without inputs old passed undisturbed⟩

/-- A session that begins at a second. -/
def racingFrom (first time : Int) : Answers :=
  ⟨.ok (if time < first then none else some "race"), .ok 1, fun _ _ _ => .ok none, .ok ()⟩

def hydrated : Input := .receive 100 (.registry (some countingRegistry))

def received (now : ℚ) (second : Nat) (errors : ℚ) : Input :=
  .receive now (.batch (some (onTrack second errors)))

/-- The samples of a second that arrive when the engine is past it. -/
def lateArrival : List Input := [hydrated, received 100 100 0, .tick 100, received 101 99 1]

/-- Two batches in either order; and a sample that comes after its tick, in one session. -/
theorem arrival_order_racing :
    List.Forall₂ Ticked.Same
        ((Watching.start counting).run counting (racingFrom 0)
          [hydrated, received 100 99 0, received 100 100 1, .tick 100])
        ((Watching.start counting).run counting (racingFrom 0)
          [hydrated, received 100 100 1, received 100 99 0, .tick 100]) ∧
      (((Watching.start counting).after counting (racingFrom 0) lateArrival).without 4).run counting
          (racingFrom 0) [.tick 101] =
        ((Watching.start counting).after counting (racingFrom 0) lateArrival).run counting
          (racingFrom 0) [.tick 101] :=
  ⟨(arrival_order counting (racingFrom 0)).1 _ _ (by decide +kernel) (by decide +kernel),
    (arrival_order counting (racingFrom 0)).2 _ _ _ (by decide +kernel) (by decide +kernel)
      (by decide +kernel)⟩

/-- Events nested deeper than `json.loads` follows. -/
def nesting : Settings :=
  { counting with text := { counting.text with deep := fun text => text = "deep" } }

/-- A batch of one sample of the second 100. -/
def single (sample : WireSample) : Input := .receive 100 (.batch (some ⟨1, 100000, 0, [sample], 1⟩))

/-- The engine speed and an event that `json.loads` gives up on. -/
def revving : WireSample := ⟨1, 0, some (.d (.finite 4000))⟩

def nested : WireSample := ⟨4, 0, some (.s "deep")⟩

/-- Whether the engine speed was heard up to each tick. -/
def Ticked.revs (ticks : List Ticked) : List Bool :=
  ticks.map fun ticked => (ticked.engine.readings.get? "car.rpm").isSome

theorem same_revs {ticks ticks' : List Ticked} (same : List.Forall₂ Ticked.Same ticks ticks') :
    Ticked.revs ticks = Ticked.revs ticks' := by
  unfold Ticked.revs
  induction same with
  | nil => rfl
  | cons first _ ih => rw [List.map_cons, List.map_cons, ih, first.engine.readings]

/-- A sample of the second 99 that waits when the engine is at 100 is heard by the new engine of
the session that begins at 101. And what waits behind an event that `json.loads` gives up on is
not heard in its second, what waits before it is. -/
theorem late_heard :
    (let state := (Watching.start counting).after counting (racingFrom 101) lateArrival;
      (∃ entry ∈ state.service.pending.entries, entry.sequence = 4) ∧ state.service.Passed 4 ∧
        state.service.pending.entries.length < maxPending ∧
        (state.without 4).run counting (racingFrom 101) [.tick 101] ≠
          state.run counting (racingFrom 101) [.tick 101]) ∧
      List.Forall₂ Ticked.SameArrivals
        ((Watching.start nesting).run nesting (racingFrom 0)
          [hydrated, single revving, single nested, .tick 100])
        ((Watching.start nesting).run nesting (racingFrom 0)
          [hydrated, single nested, single revving, .tick 100]) ∧
      ¬List.Forall₂ Ticked.Same
        ((Watching.start nesting).run nesting (racingFrom 0)
          [hydrated, single revving, single nested, .tick 100])
        ((Watching.start nesting).run nesting (racingFrom 0)
          [hydrated, single nested, single revving, .tick 100]) := by
  refine ⟨⟨by decide +kernel, by decide +kernel, by decide +kernel, ?_⟩, by decide +kernel, ?_⟩
  · intro same
    have rows := congrArg (List.map fun ticked : Ticked => ticked.write.map fun call =>
      call.rows.entries.map fun row => row.2.baselineStatus) same
    revert rows
    decide +kernel
  · intro same
    have revs := same_revs same
    revert revs
    decide +kernel

end OpenLaps.Watch

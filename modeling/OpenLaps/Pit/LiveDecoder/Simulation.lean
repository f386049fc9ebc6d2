import OpenLaps.Pit.LiveDecoder.Gauge

universe u

/- Every turn of the limiter is a turn of each limited channel's gauge. -/
namespace OpenLaps.LiveDecoder

variable {V : Type u} {limiter : Limiter V} {channel : String} {maxHz now : ℚ}
  {candidates : List (LiveUpdate V)} {update found : LiveUpdate V}

theorem ranked_perm (limiter : Limiter V) (updates : List (LiveUpdate V)) :
    (limiter.ranked updates).Perm updates :=
  List.perm_insertionSort _ updates

/-- Ranking moves nothing where a channel has one update at most. -/
theorem ofChannel_ranked (limiter : Limiter V) {one : Option (LiveUpdate V)}
    (single : ofChannel channel candidates = one.toList) :
    ofChannel channel (limiter.ranked candidates) = one.toList := by
  have same := (ranked_perm limiter candidates).filter fun update => update.channel = channel
  unfold ofChannel at single ⊢
  rw [single] at same
  cases one with
  | none => simpa using same
  | some update => simpa using same

theorem drained_kept {config : LiveConfig} {state : ChannelState V}
    (kept : state.Kept config channel) (now : ℚ) : (state.drained now).Kept config channel := by
  unfold ChannelState.drained
  split
  · exact ⟨by simp, by simp, by simp, kept.tuned⟩
  · exact kept

theorem drain_kept (kept : limiter.Kept) (now : ℚ) : (limiter.drain now).2.Kept := by
  intro key state lookup
  simp only [Limiter.drain, Dict.get?_mapValues, Option.map_eq_some_iff] at lookup
  obtain ⟨before, lookup, drained⟩ := lookup
  rw [← drained]
  exact drained_kept (kept key before lookup) now

theorem drain_keeps (limiter : Limiter V) (now : ℚ) (holds : limiter.Holds candidates) :
    (limiter.drain now).2.Holds candidates := by
  intro update member
  simpa [Limiter.drain, Dict.get?_mapValues] using holds update member

theorem ready_own (kept : limiter.Kept) (now : ℚ) (key : String) (state : ChannelState V)
    (update : LiveUpdate V) (lookup : limiter.states.get? key = some state)
    (ready : state.ready now = some update) : update.channel = key ∧ update.conflate = true := by
  unfold ChannelState.ready at ready
  split at ready
  · exact ⟨(kept key state lookup).own update ready, (kept key state lookup).limited update ready⟩
  · simp at ready

theorem mem_drain (kept : limiter.Kept) (member : update ∈ (limiter.drain now).1) :
    (limiter.states.get? update.channel).isSome ∧ update.conflate = true := by
  have member := (ranked_perm limiter _).mem_iff.1 member
  rw [List.mem_filterMap] at member
  obtain ⟨⟨key, state⟩, entry, ready⟩ := member
  have lookup := (Dict.get?_eq_some _ _ _).2 entry
  have own := ready_own kept now key state update lookup ready
  simp [own, lookup]

theorem drain_holds (kept : limiter.Kept) (now : ℚ) :
    (limiter.drain now).2.Holds (limiter.drain now).1 := by
  apply drain_keeps
  intro update member
  exact (mem_drain kept member).1

/-- A due gauge gives up what it holds. -/
theorem drain_gauge (kept : limiter.Kept) (now : ℚ) (channel : String) :
    let gauge := limiter.gauge channel
    let due := isDue gauge.nextDue now
    ofChannel channel (limiter.drain now).1 = (if due then gauge.pending.toList else []) ∧
      (limiter.drain now).2.gauge channel =
        { gauge with pending := if due then none else gauge.pending } := by
  have own := limiter.states.filterMap_own (fun state => state.ready now) LiveUpdate.channel
    (fun key state update lookup ready => (ready_own kept now key state update lookup ready).1)
    channel
  have drained := ofChannel_ranked limiter own
  cases lookup : limiter.states.get? channel with
  | none =>
    simp only [lookup] at drained
    simp [Limiter.drain, Limiter.gauge, Dict.get?_mapValues, lookup, drained]
  | some state =>
    simp only [lookup, Option.bind_some] at drained
    have waits := (kept channel state lookup).waits
    cases pending : state.pending with
    | none =>
      have unready : state.ready now = none := by simp [ChannelState.ready, pending]
      simp [Limiter.drain, Limiter.gauge, Dict.get?_mapValues, lookup, drained,
        ChannelState.drained, unready, pending]
    | some update =>
      have scheduled := waits (by simp [pending])
      cases due : isDue state.nextDue now with
      | true =>
        have ready : state.ready now = some update := by
          simp [ChannelState.ready, scheduled, due, pending]
        simp [Limiter.drain, Limiter.gauge, Dict.get?_mapValues, lookup, drained,
          ChannelState.drained, ready, pending, due]
      | false =>
        have unready : state.ready now = none := by simp [ChannelState.ready, due]
        simp [Limiter.drain, Limiter.gauge, Dict.get?_mapValues, lookup, drained,
          ChannelState.drained, unready, pending, due]

theorem ofChannel_set_other {index : Nat} (place : candidates[index]? = some found)
    (apart : found.channel ≠ channel) (same : update.channel = found.channel) :
    ofChannel channel (candidates.set index update) = ofChannel channel candidates := by
  unfold ofChannel
  induction candidates generalizing index with
  | nil => rfl
  | cons first rest ih =>
    cases index with
    | zero =>
      simp only [List.getElem?_cons_zero, Option.some.injEq] at place
      simp [place, same, apart]
    | succ index =>
      simp only [List.getElem?_cons_succ] at place
      simp [List.filter_cons, ih place]

theorem ofChannel_set_own {index : Nat} {only : LiveUpdate V}
    (place : candidates[index]? = some found) (own : found.channel = channel)
    (same : update.channel = channel) (single : ofChannel channel candidates = [only]) :
    ofChannel channel (candidates.set index update) = [update] := by
  unfold ofChannel at single ⊢
  induction candidates generalizing index with
  | nil => simp at place
  | cons first rest ih =>
    cases index with
    | zero =>
      simp only [List.getElem?_cons_zero, Option.some.injEq] at place
      have others : rest.filter (fun update => update.channel = channel) = [] := by
        rw [place, List.filter_cons_of_pos (by simpa using own), List.cons.injEq] at single
        exact single.2
      simp [same, others]
    | succ index =>
      simp only [List.getElem?_cons_succ] at place
      have inside : found ∈ rest.filter fun update => update.channel = channel := by
        simp [List.mem_of_getElem? place, own]
      have apart : first.channel ≠ channel := by
        intro mine
        rw [List.filter_cons_of_pos (by simpa using mine), List.cons.injEq] at single
        simp [single.2] at inside
      have rest_single := ih place (by simpa [apart] using single)
      simpa [apart] using rest_single

/-- What a conflation has after the candidates `seen` of a channel. -/
structure Conflated (limiter : Limiter V) (channel : String) (seen : List (LiveUpdate V))
    (soFar : Conflation V) : Prop where
  kept : ofChannel channel soFar.conflated = seen.getLast?.toList
  fresh : soFar.indexes.get? channel = none ↔ seen = []
  placed : ∀ key index, soFar.indexes.get? key = some index →
    ∃ found, soFar.conflated[index]? = some found ∧ found.channel = key
  config : soFar.limiter.config = limiter.config
  states : soFar.limiter.states = limiter.states
  gauge : soFar.limiter.gauge channel =
    { limiter.gauge channel with
      suppressed := (limiter.gauge channel).suppressed + (seen.length - 1) }

theorem Conflated.add {seen : List (LiveUpdate V)} {soFar : Conflation V}
    (conflated : Conflated limiter channel seen soFar)
    (limited : update.channel = channel → update.conflate = true) :
    Conflated limiter channel (seen ++ ofChannel channel [update]) (soFar.add update) := by
  unfold Conflation.add
  by_cases kept : update.conflate = true
  · cases index : soFar.indexes.get? update.channel with
    | none =>
      have placed : ∀ key place, (soFar.indexes.set update.channel soFar.conflated.length).get? key
          = some place → ∃ found, (soFar.conflated ++ [update])[place]? = some found ∧
            found.channel = key := by
        intro key place known
        rw [Dict.get?_set] at known
        by_cases same : update.channel = key
        · simp only [same, if_true, Option.some.injEq] at known
          exact ⟨update, by simp [← known], same⟩
        · rw [if_neg same] at known
          obtain ⟨found, there, own⟩ := conflated.placed key place known
          have inside := (List.getElem?_eq_some_iff.1 there).1
          exact ⟨found, by rwa [List.getElem?_append_left inside], own⟩
      by_cases own : update.channel = channel
      · have first : seen = [] := conflated.fresh.1 (by rw [← own]; exact index)
        have before := conflated.kept
        have gauge := conflated.gauge
        simp only [ofChannel] at before
        simp only [kept, if_true]
        exact ⟨by simp [ofChannel, before, first, own], by simp [Dict.get?_set, own, ofChannel],
          placed, conflated.config, conflated.states, by simpa [first, ofChannel, own] using gauge⟩
      · have before := conflated.kept
        simp only [ofChannel] at before
        simp only [kept, if_true]
        exact ⟨by simp [ofChannel, before, own],
          by simpa [Dict.get?_set, own, ofChannel] using conflated.fresh, placed, conflated.config,
          conflated.states, by simpa [ofChannel, own] using conflated.gauge⟩
    | some place =>
      obtain ⟨found, there, mine⟩ := conflated.placed _ _ index
      have inside := (List.getElem?_eq_some_iff.1 there).1
      have placed : ∀ key other, soFar.indexes.get? key = some other →
          ∃ found, (soFar.conflated.set place update)[other]? = some found ∧
            found.channel = key := by
        intro key other known
        obtain ⟨was, here, own⟩ := conflated.placed key other known
        by_cases same : place = other
        · rw [← same, there, Option.some.injEq] at here
          exact ⟨update, by simp [← same, inside], by rw [← own, ← here, mine]⟩
        · exact ⟨was, by rwa [List.getElem?_set_ne same], own⟩
      by_cases own : update.channel = channel
      · have before := conflated.kept
        have nonempty : seen ≠ [] := by
          intro empty
          have absent := conflated.fresh.2 empty
          rw [own] at index
          simp [absent] at index
        obtain ⟨last, final⟩ := Option.ne_none_iff_exists'.1
          (fun none => nonempty (List.getLast?_eq_none_iff.1 none))
        rw [final] at before
        have counted := List.length_pos_iff.2 nonempty
        simp only [kept, if_true]
        refine ⟨?_, ?_, placed, conflated.config, conflated.states, ?_⟩
        · rw [ofChannel_set_own there (mine.trans own) own before]
          simp [ofChannel, own]
        · simpa [ofChannel, own, nonempty] using conflated.fresh
        · simp only [gauge_suppress, conflated.gauge, own, if_true]
          simp [ofChannel, own]
          omega
      · simp only [kept, if_true]
        refine ⟨?_, ?_, placed, conflated.config, conflated.states, ?_⟩
        · rw [ofChannel_set_other there (by rwa [mine]) mine.symm]
          simpa [ofChannel, own] using conflated.kept
        · simpa [ofChannel, own] using conflated.fresh
        · simp [gauge_suppress, conflated.gauge, ofChannel, own]
  · have own : update.channel ≠ channel := fun mine => kept (limited mine)
    have before := conflated.kept
    simp only [ofChannel] at before
    rw [if_neg kept]
    refine ⟨by simp [ofChannel, before, own], by simpa [ofChannel, own] using conflated.fresh, ?_,
      conflated.config, conflated.states, by simpa [ofChannel, own] using conflated.gauge⟩
    intro key place known
    obtain ⟨found, there, mine⟩ := conflated.placed key place known
    have inside := (List.getElem?_eq_some_iff.1 there).1
    exact ⟨found, by rwa [List.getElem?_append_left inside], mine⟩

theorem Conflated.foldl {seen : List (LiveUpdate V)} {soFar : Conflation V}
    (conflated : Conflated limiter channel seen soFar)
    (limited : ∀ update ∈ candidates, update.channel = channel → update.conflate = true) :
    Conflated limiter channel (seen ++ ofChannel channel candidates)
      (candidates.foldl Conflation.add soFar) := by
  induction candidates generalizing seen soFar with
  | nil => simpa [ofChannel] using conflated
  | cons update rest ih =>
    have one := conflated.add (limited update List.mem_cons_self)
    have all := ih one fun other member => limited other (List.mem_cons_of_mem update member)
    rw [List.append_assoc] at all
    have joined : ofChannel channel [update] ++ ofChannel channel rest =
        ofChannel channel (update :: rest) := by
      unfold ofChannel
      rw [← List.filter_append, List.singleton_append]
    rwa [joined] at all

theorem conflated_all (limiter : Limiter V) (channel : String)
    (limited : ∀ update ∈ candidates, update.channel = channel → update.conflate = true) :
    Conflated limiter channel (ofChannel channel candidates)
      (candidates.foldl Conflation.add { limiter := limiter }) := by
  have start : Conflated limiter channel [] ({ limiter := limiter } : Conflation V) := by
    refine ⟨rfl, by simp [Dict.get?, Dict.empty, Dict.lookup], ?_, rfl, rfl, rfl⟩
    intro key index known
    simp [Dict.get?, Dict.empty, Dict.lookup] at known
  simpa using start.foldl limited

theorem mem_conflated (soFar : Conflation V)
    (member : found ∈ (candidates.foldl Conflation.add soFar).conflated) :
    found ∈ soFar.conflated ∨ found ∈ candidates := by
  induction candidates generalizing soFar with
  | nil => exact .inl member
  | cons update rest ih =>
    have added : ∀ other ∈ (soFar.add update).conflated, other ∈ soFar.conflated ∨
        other = update := by
      intro other inside
      unfold Conflation.add at inside
      split at inside
      · split at inside
        · simpa using inside
        · exact List.mem_or_eq_of_mem_set inside
      · simpa using inside
    cases ih (soFar.add update) member with
    | inl before => simpa [← or_assoc] using Or.inl (added found before)
    | inr later => simp [later]

theorem conflate_kept (kept : limiter.Kept) (candidates : List (LiveUpdate V)) :
    (limiter.conflateCandidates candidates).2.Kept := by
  have same : ∀ soFar : Conflation V, soFar.limiter.Kept →
      (candidates.foldl Conflation.add soFar).limiter.Kept := by
    induction candidates with
    | nil => exact fun soFar good => good
    | cons update rest ih =>
      intro soFar good
      apply ih
      unfold Conflation.add
      split
      · split
        · exact good
        · exact good.of_eq rfl rfl
      · exact good
  exact same _ kept

theorem conflate_holds (holds : limiter.Holds candidates)
    (limited : ∀ update ∈ candidates, update.channel = channel → update.conflate = true) :
    (limiter.conflateCandidates candidates).2.Holds (limiter.conflateCandidates candidates).1 := by
  intro update member
  have states := (conflated_all limiter channel limited).states
  have before := mem_conflated _ member
  simp only [List.not_mem_nil, false_or] at before
  simpa only [Limiter.conflateCandidates, states] using holds update before

/-- A gauge that shows an update. -/
def Gauge.shown (interval now : ℚ) (gauge : Gauge V) : Gauge V :=
  { gauge with nextDue := some (now + interval), published := gauge.published + 1 }

@[simp] theorem config_publish (now : ℚ) (limiter : Limiter V) (update : LiveUpdate V) :
    (limiter.publish now update).config = limiter.config := by
  unfold Limiter.publish
  split <;> rfl

theorem publish_kept (kept : limiter.Kept) (now : ℚ) (update : LiveUpdate V) :
    (limiter.publish now update).Kept := by
  unfold Limiter.publish
  split
  · exact kept.of_eq rfl rfl
  · rename_i state lookup
    have own := kept update.channel state lookup
    have counted : ({ limiter with published := increment limiter.published update.channel } :
        Limiter V).Kept := kept.of_eq rfl rfl
    exact counted.putState ⟨own.own, own.limited, fun _ => rfl, own.tuned⟩

theorem publish_keeps (holds : limiter.Holds candidates) (now : ℚ) (update : LiveUpdate V) :
    (limiter.publish now update).Holds candidates := by
  intro other member
  have before := holds other member
  unfold Limiter.publish
  split
  · exact before
  · rw [holds_putState]
    simp [before]

theorem publish_gauge (kept : limiter.Kept) (rate : limiter.config.maxHzFor channel = some maxHz)
    (positive : 0 < maxHz) (known : (limiter.states.get? update.channel).isSome) (now : ℚ) :
    (limiter.publish now update).gauge channel =
      if update.channel = channel then (limiter.gauge channel).shown (1 / maxHz) now
      else limiter.gauge channel := by
  unfold Limiter.publish
  cases lookup : limiter.states.get? update.channel with
  | none => simp [lookup] at known
  | some state =>
    by_cases own : update.channel = channel
    · rw [own] at lookup
      have tuned := (kept channel state lookup).tuned maxHz rate positive
      simp [own, Limiter.putState, Dict.get?_set, Limiter.gauge, count_increment, lookup, tuned,
        Gauge.shown]
    · simp only [own, if_false]
      rw [gauge_putState_other _ _ own]
      simp [Limiter.gauge, count_increment, own]

theorem publishAll_gauge (kept : limiter.Kept) (holds : limiter.Holds candidates)
    (rate : limiter.config.maxHzFor channel = some maxHz) (positive : 0 < maxHz) (now : ℚ) :
    (candidates.foldl (Limiter.publish now) limiter).gauge channel =
      (ofChannel channel candidates).foldl (fun gauge _ => gauge.shown (1 / maxHz) now)
        (limiter.gauge channel) := by
  induction candidates generalizing limiter with
  | nil => rfl
  | cons update rest ih =>
    have here := publish_gauge kept rate positive (holds update List.mem_cons_self) now
    have below : limiter.Holds rest := fun other member =>
      holds other (List.mem_cons_of_mem update member)
    have later := ih (publish_kept kept now update) (publish_keeps below now update)
      (by simpa using rate)
    rw [List.foldl_cons, later, here]
    by_cases own : update.channel = channel <;> simp [ofChannel, own]

theorem publishAll_kept (kept : limiter.Kept) (candidates : List (LiveUpdate V)) (now : ℚ) :
    (candidates.foldl (Limiter.publish now) limiter).Kept := by
  induction candidates generalizing limiter with
  | nil => exact kept
  | cons update rest ih => exact ih (publish_kept kept now update)

@[simp] theorem config_publishAll (limiter : Limiter V) (candidates : List (LiveUpdate V))
    (now : ℚ) : (candidates.foldl (Limiter.publish now) limiter).config = limiter.config := by
  induction candidates generalizing limiter with
  | nil => rfl
  | cons update rest ih => rw [List.foldl_cons, ih, config_publish]

@[simp] theorem config_shedAll (limiter : Limiter V) (candidates : List (LiveUpdate V)) :
    (candidates.foldl Limiter.shed limiter).config = limiter.config := by
  induction candidates generalizing limiter with
  | nil => rfl
  | cons update rest ih => exact ih (limiter.shed update)

@[simp] theorem states_shedAll (limiter : Limiter V) (candidates : List (LiveUpdate V)) :
    (candidates.foldl Limiter.shed limiter).states = limiter.states := by
  induction candidates generalizing limiter with
  | nil => rfl
  | cons update rest ih => exact ih (limiter.shed update)

theorem shedAll_gauge (limiter : Limiter V) (candidates : List (LiveUpdate V)) :
    (candidates.foldl Limiter.shed limiter).gauge channel =
      { limiter.gauge channel with
        suppressed := (limiter.gauge channel).suppressed +
          (ofChannel channel candidates).length } := by
  induction candidates generalizing limiter with
  | nil => rfl
  | cons update rest ih =>
    have here : (limiter.shed update).gauge channel =
        (limiter.suppress update.channel).gauge channel := rfl
    rw [List.foldl_cons, ih, here, gauge_suppress]
    by_cases own : update.channel = channel <;> simp [ofChannel, own]
    omega

@[simp] theorem config_refillAggregate (limiter : Limiter V) (now limit : ℚ) :
    (limiter.refillAggregate now limit).config = limiter.config := by
  unfold Limiter.refillAggregate
  split <;> rfl

@[simp] theorem states_refillAggregate (limiter : Limiter V) (now limit : ℚ) :
    (limiter.refillAggregate now limit).states = limiter.states := by
  unfold Limiter.refillAggregate
  split <;> rfl

@[simp] theorem gauge_refillAggregate (limiter : Limiter V) (now limit : ℚ) (channel : String) :
    (limiter.refillAggregate now limit).gauge channel = limiter.gauge channel := by
  unfold Limiter.refillAggregate
  split <;> rfl

@[simp] theorem config_charge (limiter : Limiter V) (accepted : Nat) (limit : ℚ) :
    (limiter.charge accepted limit).config = limiter.config := by
  unfold Limiter.charge
  split <;> rfl

@[simp] theorem states_charge (limiter : Limiter V) (accepted : Nat) (limit : ℚ) :
    (limiter.charge accepted limit).states = limiter.states := by
  unfold Limiter.charge
  split <;> rfl

@[simp] theorem gauge_charge (limiter : Limiter V) (accepted : Nat) (limit : ℚ)
    (channel : String) : (limiter.charge accepted limit).gauge channel = limiter.gauge channel := by
  unfold Limiter.charge
  split <;> rfl

theorem admit_kept (kept : limiter.Kept) (candidates : List (LiveUpdate V)) (now : ℚ) :
    (limiter.admitCandidates candidates now).2.Kept := by
  have refilled := kept.of_eq (config_refillAggregate limiter now _)
    (states_refillAggregate limiter now limiter.config.defaults.totalMaxHz)
  have settled := fun accepted rejected =>
    (publishAll_kept refilled accepted now).of_eq (config_shedAll _ rejected)
      (states_shedAll _ rejected)
  exact (settled _ _).of_eq (config_charge _ _ _) (states_charge _ _ _)

@[simp] theorem config_admit (limiter : Limiter V) (candidates : List (LiveUpdate V)) (now : ℚ) :
    (limiter.admitCandidates candidates now).2.config = limiter.config := by
  simp [Limiter.admitCandidates]

/-- A gauge after the budget's answer on its candidate. -/
def Gauge.settled (interval now : ℚ) (admitted : Bool) (gauge : Gauge V) :
    Option (LiveUpdate V) → Gauge V
  | none => gauge
  | some _ =>
    if admitted then gauge.shown interval now
    else { gauge with suppressed := gauge.suppressed + 1 }

/-- The budget answers the one candidate of a limited channel: shown or shed. -/
theorem admit_gauge (kept : limiter.Kept) (holds : limiter.Holds candidates)
    (rate : limiter.config.maxHzFor channel = some maxHz) (positive : 0 < maxHz) (now : ℚ)
    {one : Option (LiveUpdate V)} (single : ofChannel channel candidates = one.toList) :
    ∃ admitted : Bool,
      ofChannel channel (limiter.admitCandidates candidates now).1 =
          (if admitted then one.toList else []) ∧
        (limiter.admitCandidates candidates now).2.gauge channel =
          (limiter.gauge channel).settled (1 / maxHz) now admitted one := by
  have refilledKept := kept.of_eq (config_refillAggregate limiter now _)
    (states_refillAggregate limiter now limiter.config.defaults.totalMaxHz)
  have ranked := ofChannel_ranked limiter single
  generalize taken : (limiter.refillAggregate now limiter.config.defaults.totalMaxHz).available
    (limiter.ranked candidates).length limiter.config.defaults.totalMaxHz = available
  have accepts : ∀ update ∈ (limiter.ranked candidates).take available,
      ((limiter.refillAggregate now limiter.config.defaults.totalMaxHz).states.get?
        update.channel).isSome := by
    intro update member
    rw [states_refillAggregate]
    exact holds update ((ranked_perm limiter candidates).mem_iff.1 (List.mem_of_mem_take member))
  have published := publishAll_gauge refilledKept accepts (by simpa using rate) positive now
  have parts : ofChannel channel ((limiter.ranked candidates).take available) ++
      ofChannel channel ((limiter.ranked candidates).drop available) = one.toList := by
    rw [← ranked, ofChannel, ofChannel, ← List.filter_append, List.take_append_drop, ofChannel]
  have gauge : (limiter.admitCandidates candidates now).2.gauge channel =
      { (ofChannel channel ((limiter.ranked candidates).take available)).foldl
          (fun gauge _ => gauge.shown (1 / maxHz) now) (limiter.gauge channel) with
        suppressed := ((ofChannel channel ((limiter.ranked candidates).take available)).foldl
          (fun gauge _ => gauge.shown (1 / maxHz) now) (limiter.gauge channel)).suppressed +
            (ofChannel channel ((limiter.ranked candidates).drop available)).length } := by
    simp only [Limiter.admitCandidates, taken, gauge_charge, shedAll_gauge, published, gauge_refillAggregate]
  have accepted : (limiter.admitCandidates candidates now).1 =
      (limiter.ranked candidates).take available := by
    simp only [Limiter.admitCandidates, taken]
  rw [accepted, gauge]
  cases one with
  | none =>
    rw [Option.toList_none, List.append_eq_nil_iff] at parts
    exact ⟨true, by simp [parts.1], by simp [parts.1, parts.2, Gauge.settled]⟩
  | some update =>
    rw [Option.toList_some, List.append_eq_singleton_iff] at parts
    cases parts with
    | inl shed => exact ⟨false, by simp [shed.1], by simp [shed.1, shed.2, Gauge.settled]⟩
    | inr shown =>
      exact ⟨true, by simp [shown.1], by simp [shown.1, shown.2, Gauge.settled, Gauge.shown]⟩

@[simp] theorem nextDue_offers (due : Bool) (gauge : Gauge V) (offers : List (LiveUpdate V)) :
    (offers.foldl (Gauge.offer due) gauge).nextDue = gauge.nextDue := by
  induction offers generalizing gauge with
  | nil => rfl
  | cons update rest ih => exact ih (gauge.offer due update)

/-- The first offer to a due gauge takes the place of what it holds. -/
theorem offers_due (gauge : Gauge V) (offers : List (LiveUpdate V)) :
    offers.foldl (Gauge.offer true) gauge =
      if offers = [] then gauge
      else { gauge with
        pending := none
        suppressed := gauge.suppressed + gauge.pending.toList.length } := by
  cases offers with
  | nil => rfl
  | cons first rest =>
    have empty : ∀ settled : Gauge V, settled.pending = none →
        rest.foldl (Gauge.offer true) settled = settled := by
      induction rest with
      | nil => exact fun settled none => rfl
      | cons update rest ih =>
        intro settled none
        have same : settled.offer true update = settled := by
          cases settled
          simp only at none
          simp [Gauge.offer, none]
        rw [List.foldl_cons, same, ih settled none]
    rw [List.foldl_cons, empty _ rfl]
    rfl

theorem newest_offered (gauge : Gauge V) {offers : List (LiveUpdate V)} (filled : offers ≠ []) :
    ∃ update, offers.getLast? = some update ∧ gauge.newest offers = some update := by
  cases last : offers.getLast? with
  | none => exact absurd (List.getLast?_eq_none_iff.1 last) filled
  | some update => exact ⟨update, rfl, by simp [Gauge.newest, last]⟩

/-- A gauge that is not due holds the newest offer. -/
theorem offers_early (gauge : Gauge V) (offers : List (LiveUpdate V)) :
    offers.foldl (Gauge.offer false) gauge =
      { gauge with
        pending := gauge.newest offers
        suppressed := gauge.suppressed + gauge.displaced offers } := by
  induction offers using List.reverseRecOn with
  | nil => simp [Gauge.newest, Gauge.displaced]
  | append_singleton before last ih =>
    rw [List.foldl_append, ih]
    have held : (gauge.newest before).toList.length ≤
        gauge.pending.toList.length + before.length := by
      by_cases empty : before = []
      · simp [empty, Gauge.newest]
      · obtain ⟨update, _, newest⟩ := newest_offered gauge empty
        have counted := List.length_pos_iff.2 empty
        simp only [newest, Option.toList_some, List.length_singleton]
        omega
    simp only [List.foldl_cons, List.foldl_nil, Gauge.offer, Gauge.displaced, Gauge.newest,
      List.getLast?_append, List.getLast?_singleton, Option.some_or, Bool.false_eq_true, if_false,
      List.length_append, List.length_singleton, Option.toList_some, Gauge.mk.injEq, true_and,
      and_true] at held ⊢
    omega

theorem mem_offers {config : LiveConfig} {poll : Poll V}
    (rate : config.maxHzFor channel = some maxHz) (positive : 0 < maxHz)
    (member : update ∈ ofChannel channel (poll.offers config)) : update.conflate = true := by
  cases poll with
  | idle => simp [ofChannel, Poll.offers] at member
  | message samples =>
    simp only [ofChannel, Poll.offers, List.mem_filter, List.mem_filterMap, Option.map_eq_some_iff,
      decide_eq_true_eq] at member
    obtain ⟨⟨sample, _, hz, found, made⟩, own⟩ := member
    have same : sample.channel = channel := by
      rw [← own, ← made]
      rfl
    rw [same, rate, Option.some.injEq] at found
    simp [← made, LiveSample.update, ← found, positive.ne']

/-- What a turn has gathered when the budget is asked. -/
structure Gathered (limiter : Limiter V) (channel : String) (now : ℚ)
    (offers : List (LiveUpdate V)) (gathered : List (LiveUpdate V) × Limiter V) : Prop where
  kept : gathered.2.Kept
  holds : gathered.2.Holds gathered.1
  config : gathered.2.config = limiter.config
  candidates : ofChannel channel gathered.1 =
    (if isDue (limiter.gauge channel).nextDue now then (limiter.gauge channel).newest offers
      else none).toList
  gauge : gathered.2.gauge channel =
    { limiter.gauge channel with
      pending := if isDue (limiter.gauge channel).nextDue now then none
        else (limiter.gauge channel).newest offers
      suppressed := (limiter.gauge channel).suppressed + (limiter.gauge channel).displaced offers }

theorem gather_idle (kept : limiter.Kept) (now : ℚ) (channel : String) :
    Gathered limiter channel now [] (limiter.gather .idle now) := by
  have drained := drain_gauge kept now channel
  simp only at drained
  refine ⟨drain_kept kept now, drain_holds kept now, rfl, ?_, ?_⟩
  · rw [Limiter.gather, drained.1]
    cases isDue (limiter.gauge channel).nextDue now <;> simp [Gauge.newest]
  · rw [Limiter.gather, drained.2]
    cases isDue (limiter.gauge channel).nextDue now <;> simp [Gauge.newest, Gauge.displaced]

theorem gather_message (kept : limiter.Kept)
    (rate : limiter.config.maxHzFor channel = some maxHz) (positive : 0 < maxHz)
    (samples : List (LiveSample V)) (now : ℚ) :
    Gathered limiter channel now (ofChannel channel ((Poll.message samples).offers limiter.config))
      (limiter.gather (.message samples) now) := by
  have offered := offerAll_gauge kept now samples rate positive
  have offeredKept := offerAll_kept kept now samples
  have drained := drain_gauge offeredKept now channel
  simp only at offered drained
  rw [offered.2] at drained
  simp only [nextDue_offers] at drained
  generalize offers_eq : ofChannel channel ((Poll.message samples).offers limiter.config) = offers
    at offered drained ⊢
  generalize gauge_eq : limiter.gauge channel = gauge at offered drained ⊢
  generalize due_eq : isDue gauge.nextDue now = due at offered drained ⊢
  generalize candidates_eq : (limiter.offerAll now samples).1 ++
    ((limiter.offerAll now samples).2.drain now).1 = candidates
  have own : ofChannel channel candidates = ofChannel channel (limiter.offerAll now samples).1 ++
      ofChannel channel ((limiter.offerAll now samples).2.drain now).1 := by
    rw [← candidates_eq, ofChannel, List.filter_append, ofChannel, ofChannel]
  rw [offered.1, drained.1] at own
  have limited : ∀ update ∈ candidates, update.channel = channel → update.conflate = true := by
    intro update member mine
    rw [← candidates_eq, List.mem_append] at member
    cases member with
    | inl first =>
      have inside : update ∈ ofChannel channel (limiter.offerAll now samples).1 := by
        simp [ofChannel, first, mine]
      rw [offered.1] at inside
      cases due with
      | true =>
        rw [if_pos rfl, ← offers_eq] at inside
        exact mem_offers rate positive inside
      | false => simp at inside
    | inr later => exact (mem_drain offeredKept later).2
  have holds : ((limiter.offerAll now samples).2.drain now).2.Holds candidates := by
    intro update member
    rw [← candidates_eq, List.mem_append] at member
    cases member with
    | inl first => exact drain_keeps _ now (offerAll_holds limiter now samples) update first
    | inr later => exact drain_holds offeredKept now update later
  have done := conflated_all ((limiter.offerAll now samples).2.drain now).2 channel limited
  have gathered : limiter.gather (.message samples) now =
      ((limiter.offerAll now samples).2.drain now).2.conflateCandidates candidates := by
    simp only [Limiter.gather, candidates_eq]
  rw [gathered]
  refine ⟨conflate_kept (drain_kept offeredKept now) candidates, conflate_holds holds limited,
    ?_, ?_, ?_⟩
  · rw [Limiter.conflateCandidates, done.config]
    simp [Limiter.drain]
  · rw [Limiter.conflateCandidates, done.kept, own, gauge_eq, due_eq]
    cases due with
    | false => simp
    | true =>
      rw [offers_due]
      by_cases empty : offers = []
      · cases held : gauge.pending <;> simp [empty, held, Gauge.newest]
      · obtain ⟨update, last, newest⟩ := newest_offered gauge empty
        simp [empty, last, newest]
  · rw [Limiter.conflateCandidates, done.gauge, own, drained.2, gauge_eq, due_eq]
    cases due with
    | false => simp [offers_early]
    | true =>
      rw [offers_due]
      by_cases empty : offers = []
      · cases held : gauge.pending <;> simp [empty, held, Gauge.newest, Gauge.displaced]
      · obtain ⟨update, last, newest⟩ := newest_offered gauge empty
        have counted := List.length_pos_iff.2 empty
        simp [empty, newest, Gauge.displaced]
        omega

theorem gather_gathered (kept : limiter.Kept)
    (rate : limiter.config.maxHzFor channel = some maxHz) (positive : 0 < maxHz) (poll : Poll V)
    (now : ℚ) : Gathered limiter channel now (ofChannel channel (poll.offers limiter.config))
      (limiter.gather poll now) := by
  cases poll with
  | idle => exact gather_idle kept now channel
  | message samples => exact gather_message kept rate positive samples now

/-- The limiter refines the gauges: a turn of it is a turn of each limited channel's gauge, and
what it publishes of the channel is what the gauge shows. -/
theorem handle_turn (kept : limiter.Kept)
    (rate : limiter.config.maxHzFor channel = some maxHz) (positive : 0 < maxHz) (poll : Poll V)
    (now : ℚ) :
    ∃ admitted, ((limiter.handle poll now).2.gauge channel,
        ofChannel channel (limiter.handle poll now).1) =
      (((limiter.gauge channel).turn (1 / maxHz) now
          (ofChannel channel (poll.offers limiter.config)) admitted).1,
        ((limiter.gauge channel).turn (1 / maxHz) now
          (ofChannel channel (poll.offers limiter.config)) admitted).2.toList) := by
  have gathered := gather_gathered kept rate positive poll now
  have settled := admit_gauge gathered.kept gathered.holds (by rw [gathered.config]; exact rate)
    positive now gathered.candidates
  obtain ⟨admitted, shown, gauge⟩ := settled
  rw [gathered.gauge] at gauge
  refine ⟨admitted, ?_⟩
  rw [Limiter.handle, gauge, shown]
  generalize ofChannel channel (poll.offers limiter.config) = offers
  unfold Gauge.turn
  cases due : isDue (limiter.gauge channel).nextDue now with
  | false => simp [Gauge.settled]
  | true =>
    cases newest : (limiter.gauge channel).newest offers with
    | none =>
      have held : (limiter.gauge channel).pending = none ∧ offers = [] := by
        simpa [Gauge.newest, and_comm] using newest
      cases same : limiter.gauge channel
      simp only [same] at held newest
      simp [held, Gauge.displaced, Gauge.settled]
    | some update => cases admitted <;> simp [Gauge.settled, Gauge.shown]

theorem handle_kept (kept : limiter.Kept) (poll : Poll V) (now : ℚ) :
    (limiter.handle poll now).2.Kept := by
  unfold Limiter.handle
  apply admit_kept
  cases poll with
  | idle => exact drain_kept kept now
  | message samples =>
    exact conflate_kept (drain_kept (offerAll_kept kept now samples) now) _

theorem config_conflate (limiter : Limiter V) (candidates : List (LiveUpdate V)) :
    (limiter.conflateCandidates candidates).2.config = limiter.config := by
  have same : ∀ soFar : Conflation V,
      (candidates.foldl Conflation.add soFar).limiter.config = soFar.limiter.config := by
    induction candidates with
    | nil => exact fun soFar => rfl
    | cons update rest ih =>
      intro soFar
      rw [List.foldl_cons, ih]
      unfold Conflation.add
      split
      · split <;> rfl
      · rfl
  exact same _

@[simp] theorem config_handle (limiter : Limiter V) (poll : Poll V) (now : ℚ) :
    (limiter.handle poll now).2.config = limiter.config := by
  unfold Limiter.handle
  cases poll with
  | idle => simp [Limiter.gather, Limiter.drain]
  | message samples => simp [Limiter.gather, Limiter.drain, config_conflate]

end OpenLaps.LiveDecoder

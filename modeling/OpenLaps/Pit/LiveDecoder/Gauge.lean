import OpenLaps.Pit.LiveDecoder.Limiter

universe u

/- The limiter seen from one limited channel: a gauge that shows the newest of its pending
and offered values when it is due. -/
namespace OpenLaps.LiveDecoder

variable {V : Type u}

structure Gauge (V : Type u) where
  pending : Option (LiveUpdate V)
  nextDue : Option ℚ
  suppressed : Nat
  published : Nat

def Gauge.newest (gauge : Gauge V) (offers : List (LiveUpdate V)) : Option (LiveUpdate V) :=
  offers.getLast?.or gauge.pending

/-- How many of the pending and offered values are not the newest. -/
def Gauge.displaced (gauge : Gauge V) (offers : List (LiveUpdate V)) : Nat :=
  gauge.pending.toList.length + offers.length - (gauge.newest offers).toList.length

/-- One turn: the gauge after it and what it shows. `admitted` is the budget's answer. -/
def Gauge.turn (interval now : ℚ) (offers : List (LiveUpdate V)) (admitted : Bool)
    (gauge : Gauge V) : Gauge V × Option (LiveUpdate V) :=
  let suppressed := gauge.suppressed + gauge.displaced offers
  if isDue gauge.nextDue now then
    match gauge.newest offers with
    | none => (gauge, none)
    | some update =>
      if admitted then
        (⟨none, some (now + interval), suppressed, gauge.published + 1⟩, some update)
      else (⟨none, gauge.nextDue, suppressed + 1, gauge.published⟩, none)
  else (⟨gauge.newest offers, gauge.nextDue, suppressed, gauge.published⟩, none)

def Limiter.gauge (limiter : Limiter V) (channel : String) : Gauge V where
  pending := (limiter.states.get? channel).bind ChannelState.pending
  nextDue := (limiter.states.get? channel).bind ChannelState.nextDue
  suppressed := count limiter.suppressed channel
  published := count limiter.published channel

/-- The updates of one channel. -/
def ofChannel (channel : String) (updates : List (LiveUpdate V)) : List (LiveUpdate V) :=
  updates.filter fun update => update.channel = channel

/-- What the state of a channel keeps. -/
structure ChannelState.Kept (config : LiveConfig) (channel : String) (state : ChannelState V) :
    Prop where
  own : ∀ update, state.pending = some update → update.channel = channel
  limited : ∀ update, state.pending = some update → update.conflate = true
  waits : state.pending.isSome → state.nextDue.isSome
  tuned : ∀ maxHz, config.maxHzFor channel = some maxHz → 0 < maxHz → state.intervalS = 1 / maxHz

def Limiter.Kept (limiter : Limiter V) : Prop :=
  ∀ channel state, limiter.states.get? channel = some state → state.Kept limiter.config channel

/-- Every candidate has a state, so that no lookup of one fails. -/
def Limiter.Holds (limiter : Limiter V) (candidates : List (LiveUpdate V)) : Prop :=
  ∀ update ∈ candidates, (limiter.states.get? update.channel).isSome

variable {limiter : Limiter V} {channel other : String} {state : ChannelState V}
  {update : LiveUpdate V} {candidates : List (LiveUpdate V)}

theorem count_increment (counters : Dict String Nat) (channel other : String) :
    count (increment counters channel) other =
      if channel = other then count counters other + 1 else count counters other := by
  unfold count increment
  rw [Dict.get?_set]
  by_cases same : channel = other <;> simp [same, count]

@[simp] theorem config_suppress (limiter : Limiter V) (channel : String) :
    (limiter.suppress channel).config = limiter.config := rfl

@[simp] theorem states_suppress (limiter : Limiter V) (channel : String) :
    (limiter.suppress channel).states = limiter.states := rfl

@[simp] theorem config_displace (limiter : Limiter V) (channel : String) (state : ChannelState V) :
    (limiter.displace channel state).config = limiter.config := by
  unfold Limiter.displace
  split <;> rfl

@[simp] theorem states_displace (limiter : Limiter V) (channel : String) (state : ChannelState V) :
    (limiter.displace channel state).states = limiter.states := by
  unfold Limiter.displace
  split <;> rfl

theorem gauge_suppress (limiter : Limiter V) (channel other : String) :
    (limiter.suppress channel).gauge other =
      { limiter.gauge other with
        suppressed := (limiter.gauge other).suppressed + if channel = other then 1 else 0 } := by
  by_cases same : channel = other <;>
    simp [Limiter.gauge, Limiter.suppress, count_increment, same]

theorem gauge_displace (limiter : Limiter V) (channel other : String) (state : ChannelState V) :
    (limiter.displace channel state).gauge other =
      { limiter.gauge other with
        suppressed := (limiter.gauge other).suppressed +
          if channel = other then state.pending.toList.length else 0 } := by
  unfold Limiter.displace
  cases pending : state.pending with
  | none => simp
  | some update => simp [gauge_suppress]

theorem gauge_putState (limiter : Limiter V) (channel : String) (state : ChannelState V) :
    (limiter.putState channel state).gauge channel =
      { limiter.gauge channel with pending := state.pending, nextDue := state.nextDue } := by
  simp [Limiter.gauge, Limiter.putState, Dict.get?_set]

theorem gauge_putState_other (limiter : Limiter V) (state : ChannelState V)
    (apart : channel ≠ other) :
    (limiter.putState channel state).gauge other = limiter.gauge other := by
  simp [Limiter.gauge, Limiter.putState, Dict.get?_set, apart]

theorem Limiter.Kept.putState (kept : limiter.Kept) (own : state.Kept limiter.config channel) :
    (limiter.putState channel state).Kept := by
  intro key found lookup
  simp only [Limiter.putState, Dict.get?_set] at lookup
  by_cases same : channel = key
  · simp only [same, if_true, Option.some.injEq] at lookup
    rw [← lookup, ← same]
    exact own
  · rw [if_neg same] at lookup
    exact kept key found lookup

theorem Limiter.Kept.of_eq {after : Limiter V} (kept : limiter.Kept)
    (config : after.config = limiter.config) (states : after.states = limiter.states) :
    after.Kept := by
  unfold Limiter.Kept
  rw [config, states]
  exact kept

theorem Kept.fresh (config : LiveConfig) (channel : String) {interval : ℚ}
    (tuned : ∀ maxHz, config.maxHzFor channel = some maxHz → 0 < maxHz → interval = 1 / maxHz) :
    ({ intervalS := interval } : ChannelState V).Kept config channel where
  own := by simp
  limited := by simp
  waits := by simp
  tuned := tuned

theorem known_kept (kept : limiter.Kept) (channel : String) {maxHz : ℚ}
    (rate : limiter.config.maxHzFor channel = some maxHz) :
    (limiter.known channel).tune (1 / maxHz) |>.Kept limiter.config channel := by
  have retuned : ∀ hz, limiter.config.maxHzFor channel = some hz → 0 < hz → 1 / maxHz = 1 / hz := by
    intro hz found positive
    rw [rate, Option.some.injEq] at found
    rw [found]
  unfold ChannelState.tune
  split
  · rename_i same
    unfold Limiter.known at same ⊢
    cases found : limiter.states.get? channel with
    | none =>
      rw [found] at same
      apply Kept.fresh
      intro hz known positive
      rw [← retuned hz known positive]
      exact same
    | some state => exact kept channel state found
  · exact Kept.fresh limiter.config channel retuned

/-- The state an offer works on is the gauge of its channel. -/
theorem known_gauge (kept : limiter.Kept) {channel : String} {maxHz : ℚ}
    (rate : limiter.config.maxHzFor channel = some maxHz) (positive : 0 < maxHz) :
    ((limiter.known channel).tune (1 / maxHz)).pending = (limiter.gauge channel).pending ∧
      ((limiter.known channel).tune (1 / maxHz)).nextDue = (limiter.gauge channel).nextDue := by
  cases found : limiter.states.get? channel with
  | none =>
    simp [Limiter.known, ChannelState.tune, Limiter.gauge, found, positive.ne]
  | some state =>
    have tuned := (kept channel state found).tuned maxHz rate positive
    simp [Limiter.known, ChannelState.tune, Limiter.gauge, found, tuned]

/-- The four ways of an offer. -/
theorem offer_cases (limiter : Limiter V) (sample : LiveSample V) (now : ℚ) :
    (limiter.config.maxHzFor sample.channel = none ∧ limiter.offer sample now = ([], limiter)) ∨
    ∃ maxHz state, limiter.config.maxHzFor sample.channel = some maxHz ∧
      state = (limiter.known sample.channel).tune (1 / maxHz) ∧
      ((maxHz = 0 ∧ limiter.offer sample now = ([sample.update maxHz],
          limiter.putState sample.channel (limiter.known sample.channel))) ∨
       (maxHz ≠ 0 ∧ isDue state.nextDue now = true ∧
          limiter.offer sample now = ([sample.update maxHz],
            (limiter.displace sample.channel state).putState sample.channel
              { state with pending := none })) ∨
       (maxHz ≠ 0 ∧ isDue state.nextDue now = false ∧
          limiter.offer sample now = ([],
            (limiter.displace sample.channel state).putState sample.channel
              { state with pending := some (sample.update maxHz) }))) := by
  unfold Limiter.offer
  cases limiter.config.maxHzFor sample.channel with
  | none => simp
  | some maxHz =>
    by_cases unlimited : maxHz = 0
    · simp [unlimited]
    · cases due : isDue ((limiter.known sample.channel).tune (1 / maxHz)).nextDue now <;>
        simp_all [LiveSample.update]

@[simp] theorem config_offer (limiter : Limiter V) (sample : LiveSample V) (now : ℚ) :
    (limiter.offer sample now).2.config = limiter.config := by
  obtain ⟨_, offered⟩ | ⟨_, _, _, _, ⟨_, offered⟩ | ⟨_, _, offered⟩ | ⟨_, _, offered⟩⟩ :=
    offer_cases limiter sample now <;>
  simp [offered, Limiter.putState]

theorem offer_kept (kept : limiter.Kept) (sample : LiveSample V) (now : ℚ) :
    (limiter.offer sample now).2.Kept := by
  obtain ⟨_, offered⟩ | ⟨maxHz, state, rate, tuned, ⟨unlimited, offered⟩ |
    ⟨limited, due, offered⟩ | ⟨limited, early, offered⟩⟩ := offer_cases limiter sample now
  · rw [offered]
    exact kept
  · rw [offered]
    apply kept.putState
    unfold Limiter.known
    cases found : limiter.states.get? sample.channel with
    | none =>
      apply Kept.fresh
      intro hz known positive
      rw [rate, Option.some.injEq, unlimited] at known
      exact absurd known positive.ne
    | some state => exact kept sample.channel state found
  · have own := known_kept kept sample.channel rate
    rw [← tuned] at own
    rw [offered]
    apply (kept.of_eq (config_displace _ _ _) (states_displace _ _ _)).putState
    rw [config_displace]
    exact ⟨by simp, by simp, by simp, own.tuned⟩
  · have own := known_kept kept sample.channel rate
    rw [← tuned] at own
    rw [offered]
    apply (kept.of_eq (config_displace _ _ _) (states_displace _ _ _)).putState
    rw [config_displace]
    refine ⟨?_, ?_, ?_, own.tuned⟩
    · intro update pending
      rw [Option.some.injEq] at pending
      rw [← pending, LiveSample.update]
    · intro update pending
      rw [Option.some.injEq] at pending
      simp [← pending, LiveSample.update, limited]
    · intro _
      cases next : state.nextDue with
      | none => simp [isDue, next] at early
      | some due => rfl

theorem holds_putState (limiter : Limiter V) (channel : String) (state : ChannelState V)
    (other : String) : ((limiter.putState channel state).states.get? other).isSome =
      (decide (channel = other) || (limiter.states.get? other).isSome) := by
  by_cases same : channel = other <;> simp [Limiter.putState, Dict.get?_set, same]

theorem offer_holds (limiter : Limiter V) (sample : LiveSample V) (now : ℚ) :
    (limiter.offer sample now).2.Holds (limiter.offer sample now).1 := by
  unfold Limiter.Holds
  obtain ⟨_, offered⟩ | ⟨_, _, _, _, ⟨_, offered⟩ | ⟨_, _, offered⟩ | ⟨_, _, offered⟩⟩ :=
    offer_cases limiter sample now <;>
  simp [offered, holds_putState, LiveSample.update]

/-- An offer keeps the states there are. -/
theorem offer_keeps (limiter : Limiter V) (sample : LiveSample V) (now : ℚ)
    (holds : limiter.Holds candidates) : (limiter.offer sample now).2.Holds candidates := by
  unfold Limiter.Holds at holds ⊢
  obtain ⟨_, offered⟩ | ⟨_, _, _, _, ⟨_, offered⟩ | ⟨_, _, offered⟩ | ⟨_, _, offered⟩⟩ :=
    offer_cases limiter sample now <;>
  simp_all [holds_putState]

/-- An offer of another channel leaves a gauge alone. -/
theorem offer_other (limiter : Limiter V) (sample : LiveSample V) (now : ℚ)
    (apart : sample.channel ≠ channel) :
    ofChannel channel (limiter.offer sample now).1 = [] ∧
      (limiter.offer sample now).2.gauge channel = limiter.gauge channel := by
  obtain ⟨_, offered⟩ | ⟨_, _, _, _, ⟨_, offered⟩ | ⟨_, _, offered⟩ | ⟨_, _, offered⟩⟩ :=
    offer_cases limiter sample now <;>
  simp [offered, ofChannel, LiveSample.update, apart, gauge_putState_other, gauge_displace]

/-- An offer of a limited channel is a candidate when the gauge is due, else it is pending. -/
theorem offer_own (kept : limiter.Kept) (sample : LiveSample V) (now : ℚ) {maxHz : ℚ}
    (rate : limiter.config.maxHzFor sample.channel = some maxHz) (positive : 0 < maxHz) :
    let gauge := limiter.gauge sample.channel
    let due := isDue gauge.nextDue now
    ofChannel sample.channel (limiter.offer sample now).1 =
        (if due then [sample.update maxHz] else []) ∧
      (limiter.offer sample now).2.gauge sample.channel =
        { gauge with
          pending := if due then none else some (sample.update maxHz)
          suppressed := gauge.suppressed + gauge.pending.toList.length } := by
  have same := known_gauge kept rate positive
  obtain ⟨unselected, _⟩ | ⟨hz, state, found, tuned, offers⟩ := offer_cases limiter sample now
  · rw [unselected] at rate
    simp at rate
  · rw [rate, Option.some.injEq] at found
    subst found
    rw [← tuned] at same
    obtain ⟨unlimited, _⟩ | ⟨_, due, offered⟩ | ⟨_, early, offered⟩ := offers
    · exact absurd unlimited positive.ne'
    · rw [same.2] at due
      simp [offered, due, ofChannel, LiveSample.update, gauge_putState, gauge_displace, same]
    · rw [same.2] at early
      simp [offered, early, ofChannel, gauge_putState, gauge_displace, same]

@[simp] theorem config_offerAll (limiter : Limiter V) (now : ℚ) (samples : List (LiveSample V)) :
    (limiter.offerAll now samples).2.config = limiter.config := by
  induction samples generalizing limiter with
  | nil => rfl
  | cons sample rest ih => simp [Limiter.offerAll, ih]

theorem offerAll_kept (kept : limiter.Kept) (now : ℚ) (samples : List (LiveSample V)) :
    (limiter.offerAll now samples).2.Kept := by
  induction samples generalizing limiter with
  | nil => exact kept
  | cons sample rest ih => exact ih (offer_kept kept sample now)

theorem offerAll_keeps (limiter : Limiter V) (now : ℚ) (samples : List (LiveSample V))
    (holds : limiter.Holds candidates) : (limiter.offerAll now samples).2.Holds candidates := by
  induction samples generalizing limiter with
  | nil => exact holds
  | cons sample rest ih => exact ih _ (offer_keeps limiter sample now holds)

theorem offerAll_holds (limiter : Limiter V) (now : ℚ) (samples : List (LiveSample V)) :
    (limiter.offerAll now samples).2.Holds (limiter.offerAll now samples).1 := by
  induction samples generalizing limiter with
  | nil => simp [Limiter.Holds, Limiter.offerAll]
  | cons sample rest ih =>
    intro update member
    simp only [Limiter.offerAll, List.mem_append] at member
    cases member with
    | inl first =>
      exact offerAll_keeps _ now rest (offer_holds limiter sample now) update first
    | inr later => exact ih _ update later

/-- One offer to a gauge. -/
def Gauge.offer (due : Bool) (gauge : Gauge V) (update : LiveUpdate V) : Gauge V :=
  { gauge with
    pending := if due then none else some update
    suppressed := gauge.suppressed + gauge.pending.toList.length }

/-- The offers of a channel reach its gauge in order. -/
theorem offerAll_gauge (kept : limiter.Kept) (now : ℚ) (samples : List (LiveSample V))
    {maxHz : ℚ} (rate : limiter.config.maxHzFor channel = some maxHz) (positive : 0 < maxHz) :
    let offers := ofChannel channel ((Poll.message samples).offers limiter.config)
    let due := isDue (limiter.gauge channel).nextDue now
    ofChannel channel (limiter.offerAll now samples).1 = (if due then offers else []) ∧
      (limiter.offerAll now samples).2.gauge channel =
        offers.foldl (Gauge.offer due) (limiter.gauge channel) := by
  induction samples generalizing limiter with
  | nil => simp [Poll.offers, ofChannel, Limiter.offerAll]
  | cons sample rest ih =>
    have later := ih (offer_kept kept sample now) (by simpa using rate)
    simp only [config_offer] at later
    by_cases own : sample.channel = channel
    · rw [← own] at rate later ⊢
      have here := offer_own kept sample now rate positive
      simp only at here
      simp only [here.2] at later
      have listed : ofChannel sample.channel
          ((Poll.message (sample :: rest)).offers limiter.config) =
            sample.update maxHz ::
              ofChannel sample.channel ((Poll.message rest).offers limiter.config) := by
        simp [Poll.offers, ofChannel, rate, LiveSample.update]
      simp only [Limiter.offerAll, listed, List.foldl_cons]
      refine ⟨?_, later.2⟩
      have split := later.1
      simp only [ofChannel, List.filter_append] at here split ⊢
      rw [here.1, split]
      split <;> simp
    · have here := offer_other limiter sample now own
      have listed : ofChannel channel ((Poll.message (sample :: rest)).offers limiter.config) =
          ofChannel channel ((Poll.message rest).offers limiter.config) := by
        cases selected : limiter.config.maxHzFor sample.channel <;>
          simp [Poll.offers, ofChannel, selected, LiveSample.update, own]
      simp only [here.2] at later
      simp only [Limiter.offerAll, listed]
      refine ⟨?_, later.2⟩
      have split := later.1
      simp only [ofChannel, List.filter_append] at here split ⊢
      rw [here.1, split, List.nil_append]

end OpenLaps.LiveDecoder

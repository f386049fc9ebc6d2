import OpenLaps.Lib.TokenBucket
import OpenLaps.Pit.LiveDecoder.Accounting

universe u

/- The rates the loop keeps: of each limited channel and of all channels together. -/
namespace OpenLaps.LiveDecoder

variable {V : Type u} {gauge : Gauge V} {log : List (Event V)} {interval now : ℚ}

/-- A gauge waits an interval from its last publication, and its publications are spaced. -/
structure Gauge.Spaced (interval : ℚ) (gauge : Gauge V) (times : List ℚ) : Prop where
  next : gauge.nextDue = times.getLast?.map (· + interval)
  sorted : times.Pairwise (· ≤ ·)
  spaced : times.Pairwise fun earlier later => earlier + (interval - epsilon) ≤ later

theorem le_getLast_of_sorted {times : List ℚ} {last time : ℚ} (sorted : times.Pairwise (· ≤ ·))
    (final : times.getLast? = some last) (member : time ∈ times) : time ≤ last := by
  obtain ⟨before, split⟩ := List.getLast?_eq_some_iff.1 final
  rw [split, List.pairwise_append] at sorted
  rw [split, List.mem_append, List.mem_singleton] at member
  cases member with
  | inl earlier => exact sorted.2.2 time earlier last (by simp)
  | inr same => exact same.le

theorem Gauge.Spaced.turn {times : List ℚ} (spaced : gauge.Spaced interval times)
    (past : ∀ time ∈ times, time ≤ now) (offers : List (LiveUpdate V)) (admitted : Bool) :
    (gauge.turn interval now offers admitted).1.Spaced interval
      (times ++ (gauge.turn interval now offers admitted).2.toList.map fun _ => now) := by
  have rests : ∀ after : Gauge V, after.nextDue = gauge.nextDue →
      after.Spaced interval (times ++ (none : Option (LiveUpdate V)).toList.map fun _ => now) := by
    intro after same
    simpa using ⟨by rw [same, spaced.next], spaced.sorted, spaced.spaced⟩
  unfold Gauge.turn
  cases due : isDue gauge.nextDue now with
  | false => exact rests _ rfl
  | true =>
    cases newest : gauge.newest offers with
    | none => exact rests _ rfl
    | some update =>
      cases admitted with
      | false => exact rests _ rfl
      | true =>
        have apart : ∀ time ∈ times, time + (interval - epsilon) ≤ now := by
          intro time member
          cases final : times.getLast? with
          | none => simp [List.getLast?_eq_none_iff.1 final] at member
          | some last =>
            have order := le_getLast_of_sorted spaced.sorted final member
            rw [spaced.next, final] at due
            simp only [isDue, Option.map_some, decide_eq_true_eq] at due
            linarith
        refine ⟨by simp, ?_, ?_⟩
        · simpa [List.pairwise_append] using ⟨spaced.sorted, past⟩
        · simpa [List.pairwise_append] using ⟨spaced.spaced, apart⟩

theorem turn_shown_length (gauge : Gauge V) (interval now : ℚ) (offers : List (LiveUpdate V))
    (admitted : Bool) : (gauge.turn interval now offers admitted).2.toList.length ≤ 1 := by
  cases (gauge.turn interval now offers admitted).2 <;> simp

/-- The publications of a log stand at the times of its turns. -/
theorem publishedTimes_mem {config : LiveConfig} {time : ℚ} (polls : List (ℚ × Poll V))
    (member : time ∈ publishedTimes (Run.consume config polls).log) :
    time ∈ polls.map Prod.fst := by
  induction polls using List.reverseRecOn with
  | nil => simp [Run.consume, publishedTimes] at member
  | append_singleton polls event ih =>
    rw [consume_append] at member
    simp only [Run.turn, publishedTimes_append, publishedTimes_offered, List.mem_append,
      List.not_mem_nil, false_or] at member
    rw [List.map_append, List.mem_append]
    cases member with
    | inl before => exact .inl (ih before)
    | inr here =>
      have same : time = event.1 := by
        simp only [publishedTimes, List.mem_filterMap, List.mem_map] at here
        obtain ⟨published, ⟨update, _, made⟩, at_time⟩ := here
        rw [← made, Event.publishedAt?, Option.some.injEq] at at_time
        exact at_time.symm
      simp [same]

theorem consume_spaced {config : LiveConfig} {channel : String} {maxHz : ℚ}
    (rate : config.maxHzFor channel = some maxHz) (positive : 0 < maxHz)
    (polls : List (ℚ × Poll V)) (clock : (polls.map Prod.fst).Pairwise (· ≤ ·)) :
    ((Run.consume config polls).limiter.gauge channel).Spaced (1 / maxHz)
      (publishedTimes (channelLog channel (Run.consume config polls).log)) := by
  induction polls using List.reverseRecOn with
  | nil => exact ⟨rfl, List.Pairwise.nil, List.Pairwise.nil⟩
  | append_singleton polls event ih =>
    rw [List.map_append, List.pairwise_append] at clock
    have past : ∀ time ∈ publishedTimes (channelLog channel (Run.consume config polls).log),
        time ≤ event.1 := by
      intro time member
      have inside : time ∈ publishedTimes (Run.consume config polls).log :=
        (List.filter_sublist.filterMap _).subset member
      exact clock.2.2 time (publishedTimes_mem polls inside) event.1 (by simp)
    obtain ⟨admitted, gauge, _, log⟩ := consume_turn rate positive polls event
    rw [gauge, log, publishedTimes_append, publishedTimes_turnLog]
    exact (ih clock.1).turn past _ admitted

/-- The aggregate budget as a token bucket. -/
def LiveConfig.plan (config : LiveConfig) : TokenBucket.Plan ℚ :=
  ⟨config.defaults.totalMaxHz, max 1 config.defaults.totalMaxHz, epsilon⟩

def Limiter.bucket (limiter : Limiter V) : TokenBucket.Bucket ℚ :=
  ⟨limiter.aggregateAt, limiter.aggregateTokens⟩

@[simp] theorem bucket_offerAll (limiter : Limiter V) (now : ℚ) (samples : List (LiveSample V)) :
    (limiter.offerAll now samples).2.bucket = limiter.bucket := by
  induction samples generalizing limiter with
  | nil => rfl
  | cons sample rest ih =>
    rw [Limiter.offerAll, ih]
    have displaced : ∀ channel state, (limiter.displace channel state).bucket = limiter.bucket := by
      intro channel state
      unfold Limiter.displace
      split <;> rfl
    obtain ⟨_, offered⟩ | ⟨_, _, _, _, ⟨_, offered⟩ | ⟨_, _, offered⟩ | ⟨_, _, offered⟩⟩ :=
      offer_cases limiter sample now
    · rw [offered]
    · rw [offered]
      rfl
    · rw [offered]
      exact displaced _ _
    · rw [offered]
      exact displaced _ _

@[simp] theorem bucket_conflate (limiter : Limiter V) (candidates : List (LiveUpdate V)) :
    (limiter.conflateCandidates candidates).2.bucket = limiter.bucket := by
  have same : ∀ soFar : Conflation V,
      (candidates.foldl Conflation.add soFar).limiter.bucket = soFar.limiter.bucket := by
    induction candidates with
    | nil => exact fun soFar => rfl
    | cons update rest ih =>
      intro soFar
      rw [List.foldl_cons, ih]
      unfold Conflation.add
      split
      · split <;> rfl
      · rfl
  exact same _

@[simp] theorem bucket_gather (limiter : Limiter V) (poll : Poll V) (now : ℚ) :
    (limiter.gather poll now).2.bucket = limiter.bucket := by
  have drained : ∀ before : Limiter V, (before.drain now).2.bucket = before.bucket :=
    fun before => rfl
  cases poll with
  | idle => exact drained limiter
  | message samples => simp [Limiter.gather, drained]

@[simp] theorem bucket_publishAll (limiter : Limiter V) (candidates : List (LiveUpdate V))
    (now : ℚ) : (candidates.foldl (Limiter.publish now) limiter).bucket = limiter.bucket := by
  induction candidates generalizing limiter with
  | nil => rfl
  | cons update rest ih =>
    rw [List.foldl_cons, ih]
    unfold Limiter.publish
    split <;> rfl

@[simp] theorem bucket_shedAll (limiter : Limiter V) (candidates : List (LiveUpdate V)) :
    (candidates.foldl Limiter.shed limiter).bucket = limiter.bucket := by
  induction candidates generalizing limiter with
  | nil => rfl
  | cons update rest ih => exact ih (limiter.shed update)

theorem bucket_refillAggregate (limiter : Limiter V)
    (limited : 0 < limiter.config.defaults.totalMaxHz) (now : ℚ) :
    (limiter.refillAggregate now limiter.config.defaults.totalMaxHz).bucket =
      limiter.bucket.refill limiter.config.plan now := by
  simp only [Limiter.refillAggregate, limited.ne', if_false, Limiter.bucket,
    TokenBucket.Bucket.refill, LiveConfig.plan]
  cases limiter.aggregateAt <;> rfl

/-- An admission refills the bucket and spends what it accepts. -/
theorem bucket_admit (limiter : Limiter V) (limited : 0 < limiter.config.defaults.totalMaxHz)
    (candidates : List (LiveUpdate V)) (now : ℚ) :
    (limiter.admitCandidates candidates now).2.bucket =
      (limiter.bucket.refill limiter.config.plan now).spend
        (limiter.admitCandidates candidates now).1.length := by
  have charged : ∀ (settled : Limiter V) (accepted : Nat),
      (settled.charge accepted limiter.config.defaults.totalMaxHz).bucket =
        settled.bucket.spend accepted := by
    intro settled accepted
    simp only [Limiter.charge, limited.ne', if_false]
    rfl
  simp only [Limiter.admitCandidates, charged, bucket_shedAll, bucket_publishAll,
    bucket_refillAggregate limiter limited]

/-- An admission accepts no more than the refilled tokens and their slack. -/
theorem admit_length_le (limiter : Limiter V)
    (limited : 0 < limiter.config.defaults.totalMaxHz) (candidates : List (LiveUpdate V)) (now : ℚ)
    (solvent : 0 ≤ (limiter.bucket.refill limiter.config.plan now).tokens + epsilon) :
    ((limiter.admitCandidates candidates now).1.length : ℚ) ≤
      (limiter.bucket.refill limiter.config.plan now).tokens + epsilon := by
  have refilled := bucket_refillAggregate limiter limited now
  have tokens : (limiter.refillAggregate now limiter.config.defaults.totalMaxHz).aggregateTokens =
      (limiter.bucket.refill limiter.config.plan now).tokens :=
    congrArg TokenBucket.Bucket.tokens refilled
  have taken : (limiter.admitCandidates candidates now).1.length ≤
      ⌊(limiter.bucket.refill limiter.config.plan now).tokens + epsilon⌋₊ := by
    simp only [Limiter.admitCandidates, Limiter.available, limited.ne', if_false, tokens, List.length_take]
    omega
  exact (Nat.cast_le.2 taken).trans (Nat.floor_le solvent)

/-- How many updates each turn accepts. -/
def accepts (limiter : Limiter V) : List (ℚ × Poll V) → List (ℚ × Nat)
  | [] => []
  | (now, poll) :: rest =>
    (now, (limiter.handle poll now).1.length) :: accepts (limiter.handle poll now).2 rest

theorem accepts_times (limiter : Limiter V) (polls : List (ℚ × Poll V)) :
    (accepts limiter polls).map Prod.fst = polls.map Prod.fst := by
  induction polls generalizing limiter with
  | nil => rfl
  | cons event rest ih => simp [accepts, ih]

/-- The bucket covers what every turn accepts. -/
theorem accepts_covered (limiter : Limiter V)
    (limited : 0 < limiter.config.defaults.totalMaxHz)
    (owed : -epsilon ≤ limiter.aggregateTokens) (polls : List (ℚ × Poll V)) :
    TokenBucket.Covered limiter.config.plan limiter.bucket (accepts limiter polls) := by
  induction polls generalizing limiter with
  | nil => trivial
  | cons event rest ih =>
    obtain ⟨now, poll⟩ := event
    have gathered : (limiter.gather poll now).2.config = limiter.config := by
      have handled := config_handle limiter poll now
      rwa [Limiter.handle, config_admit] at handled
    have room : -epsilon ≤ limiter.config.plan.capacity := by
      have one : (1 : ℚ) ≤ limiter.config.plan.capacity := le_max_left _ _
      have negative : -epsilon ≤ 1 := by norm_num [epsilon]
      exact negative.trans one
    have solvent := TokenBucket.le_tokens_refill limiter.config.plan limited.le limiter.bucket room
      owed now
    have length := admit_length_le (limiter.gather poll now).2 (by rwa [gathered])
      (limiter.gather poll now).1 now (by rw [gathered, bucket_gather]; linarith)
    have bucket := bucket_admit (limiter.gather poll now).2 (by rwa [gathered])
      (limiter.gather poll now).1 now
    rw [gathered, bucket_gather] at length bucket
    have afterwards : -epsilon ≤ (limiter.handle poll now).2.aggregateTokens := by
      have tokens := congrArg TokenBucket.Bucket.tokens bucket
      have same : (limiter.handle poll now).2.aggregateTokens =
          (limiter.bucket.refill limiter.config.plan now).tokens -
            (limiter.handle poll now).1.length := tokens
      rw [same, Limiter.handle]
      linarith
    have later := ih (limiter.handle poll now).2 (by rwa [config_handle]) afterwards
    rw [config_handle] at later
    refine ⟨length, ?_⟩
    rw [Limiter.handle, ← bucket]
    exact later

/-- How many publications of a log stand in a closed window. -/
def publishedIn (start finish : ℚ) (log : List (Event V)) : Nat :=
  ((publishedTimes log).filter fun time => start ≤ time ∧ time ≤ finish).length

theorem publishedIn_append (start finish : ℚ) (log more : List (Event V)) :
    publishedIn start finish (log ++ more) =
      publishedIn start finish log + publishedIn start finish more := by
  simp [publishedIn]

theorem publishedIn_turn (run : Run V) (event : ℚ × Poll V) (start finish : ℚ) :
    publishedIn start finish (run.turn event).log = publishedIn start finish run.log +
      TokenBucket.spentIn start finish
        [(event.1, (run.limiter.handle event.2 event.1).1.length)] := by
  have times : ∀ updates : List (LiveUpdate V),
      publishedTimes (updates.map (Event.published event.1)) =
        List.replicate updates.length event.1 := by
    intro updates
    unfold publishedTimes
    rw [List.filterMap_map]
    induction updates with
    | nil => rfl
    | cons update rest ih => simpa [Event.publishedAt?, List.replicate_succ] using ih
  rw [Run.turn, publishedIn_append, publishedIn_append]
  by_cases after : start ≤ event.1 <;> by_cases before : event.1 ≤ finish <;>
    simp [publishedIn, times, TokenBucket.spentIn, TokenBucket.spentUntil, after, before]

theorem publishedIn_run (run : Run V) (polls : List (ℚ × Poll V)) (start finish : ℚ) :
    publishedIn start finish (polls.foldl Run.turn run).log =
      publishedIn start finish run.log +
        TokenBucket.spentIn start finish (accepts run.limiter polls) := by
  induction polls generalizing run with
  | nil => simp [accepts, TokenBucket.spentIn, TokenBucket.spentUntil]
  | cons event rest ih =>
    have turned : (run.turn event).limiter = (run.limiter.handle event.2 event.1).2 := rfl
    have split := TokenBucket.spentIn_cons start finish
      (event.1, (run.limiter.handle event.2 event.1).1.length)
      (accepts (run.limiter.handle event.2 event.1).2 rest)
    rw [List.foldl_cons, ih, publishedIn_turn, accepts, split, turned, Nat.add_assoc]

/-- In every run with a clock that never goes back, the publications of a limited channel are
spaced, a turn accepts one update of it at most, and the aggregate budget bounds every
window. -/
theorem live_rates_hold (config : LiveConfig) (polls : List (ℚ × Poll V))
    (clock : (polls.map Prod.fst).Pairwise (· ≤ ·)) :
    (∀ channel maxHz, config.maxHzFor channel = some maxHz → 0 < maxHz →
      (publishedTimes (channelLog channel (Run.consume config polls).log)).Pairwise
          (fun earlier later => 1 / maxHz - epsilon ≤ later - earlier) ∧
        ∀ before event after, polls = before ++ event :: after →
          (ofChannel channel
            ((Run.consume config before).limiter.handle event.2 event.1).1).length ≤ 1) ∧
    (0 < config.defaults.totalMaxHz → ∀ start length, 0 ≤ length →
      (publishedIn start (start + length) (Run.consume config polls).log : ℚ) ≤
        max 1 config.defaults.totalMaxHz + config.defaults.totalMaxHz * length + epsilon) := by
  refine ⟨?_, ?_⟩
  · intro channel maxHz rate positive
    refine ⟨?_, ?_⟩
    · apply (consume_spaced rate positive polls clock).spaced.imp
      intro earlier later apart
      linarith
    · intro before event after _
      obtain ⟨admitted, _, shown, _⟩ := consume_turn rate positive before event
      rw [shown]
      exact turn_shown_length _ _ _ _ _
  · intro limited start length forward
    have covered := accepts_covered ({ config := config } : Limiter V) limited
      (by norm_num [epsilon]) polls
    have sorted : ((accepts ({ config := config } : Limiter V) polls).map Prod.fst).Pairwise
        (· ≤ ·) := by
      rw [accepts_times]
      exact clock
    have room : 0 ≤ config.plan.capacity + config.plan.slack := by
      have one : (1 : ℚ) ≤ config.plan.capacity := le_max_left _ _
      have small : config.plan.slack = 1 / 1000000000 := rfl
      linarith
    have window : start ≤ start + length := le_add_of_nonneg_right forward
    have bounded := TokenBucket.spentIn_le limited.le room covered sorted window
    have counted := publishedIn_run ({ limiter := { config := config } } : Run V) polls start
      (start + length)
    have empty : publishedIn start (start + length) ([] : List (Event V)) = 0 := rfl
    rw [empty, Nat.zero_add] at counted
    rw [Run.consume, counted]
    simp only [LiveConfig.plan] at bounded
    linarith

theorem rpm_rates_hold :
    (∀ channel maxHz, gaugeConfig.maxHzFor channel = some maxHz → 0 < maxHz →
      (publishedTimes (channelLog channel (Run.consume gaugeConfig rpmPolls).log)).Pairwise
          (fun earlier later => 1 / maxHz - epsilon ≤ later - earlier) ∧
        ∀ before event after, rpmPolls = before ++ event :: after →
          (ofChannel channel
            ((Run.consume gaugeConfig before).limiter.handle event.2 event.1).1).length ≤ 1) ∧
    (0 < gaugeConfig.defaults.totalMaxHz → ∀ start length, 0 ≤ length →
      (publishedIn start (start + length) (Run.consume gaugeConfig rpmPolls).log : ℚ) ≤
        max 1 gaugeConfig.defaults.totalMaxHz + gaugeConfig.defaults.totalMaxHz * length +
          epsilon) :=
  live_rates_hold gaugeConfig rpmPolls (by norm_num [rpmPolls])

end OpenLaps.LiveDecoder

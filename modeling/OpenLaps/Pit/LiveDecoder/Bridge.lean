import OpenLaps.Lib.Machine
import OpenLaps.Pit.LiveDecoder.Accounting

universe u

/- The live decoder from the decoded samples to the broker: the consume loop with its limiter,
the sink it hands updates to and the task that sends them, which connects, fails and drops
what is queued at any time. -/
namespace OpenLaps.LiveDecoder

variable {V : Type u}

/-- A new view starts with no channel states and a full budget; what was pending is gone. -/
def Limiter.reconfigure (limiter : Limiter V) (config : LiveConfig) : Limiter V :=
  { limiter with config := config, states := .empty, aggregateAt := none, aggregateTokens := 0 }

/-- The sink with the two counters of the health state that it owns. -/
structure MqttSink (V : Type u) where
  connected : Bool := false
  suppressed : Dict String Nat := .empty
  limited : Dict String (LiveUpdate V) := .empty
  unlimited : List (LiveUpdate V) := []
  mqttDrops : Nat := 0
  invalidValues : Nat := 0

namespace MqttSink

def pendingCount (sink : MqttSink V) : Nat :=
  sink.limited.entries.length + sink.unlimited.length

def drop (sink : MqttSink V) (update : LiveUpdate V) : MqttSink V :=
  { sink with
    mqttDrops := sink.mqttDrops + 1
    suppressed := increment sink.suppressed update.channel }

def submit (queueSize : Nat) (sink : MqttSink V) (update : LiveUpdate V) : MqttSink V :=
  if !sink.connected then sink.drop update
  else if update.conflate && sink.limited.contains update.channel then
    { sink with
      limited := sink.limited.set update.channel update
      suppressed := increment sink.suppressed update.channel }
  else if queueSize ≤ sink.pendingCount then sink.drop update
  else if update.conflate then
    { sink with limited := sink.limited.set update.channel update }
  else { sink with unlimited := sink.unlimited ++ [update] }

/-- The oldest unlimited update, else the limited one that has been queued the longest. -/
def nextPending (sink : MqttSink V) : Option (LiveUpdate V × MqttSink V) :=
  match sink.unlimited, sink.limited.entries with
  | update :: rest, _ => some (update, { sink with unlimited := rest })
  | [], (channel, update) :: _ =>
    some (update, { sink with limited := sink.limited.erase channel })
  | [], [] => none

def queued (sink : MqttSink V) : List (LiveUpdate V) :=
  sink.unlimited ++ sink.limited.entries.map Prod.snd

def dropQueued (sink : MqttSink V) : MqttSink V :=
  sink.queued.foldl drop { sink with unlimited := [], limited := .empty }

/-- Whether `submit` drops the update. -/
def refuses (queueSize : Nat) (sink : MqttSink V) (update : LiveUpdate V) : Bool :=
  !sink.connected ||
    (!(update.conflate && sink.limited.contains update.channel) &&
      decide (queueSize ≤ sink.pendingCount))

/-- The sink after a list of updates, and those it dropped. -/
def submitAll (queueSize : Nat) : MqttSink V → List (LiveUpdate V) →
    MqttSink V × List (LiveUpdate V)
  | sink, [] => (sink, [])
  | sink, update :: rest =>
    let later := submitAll queueSize (sink.submit queueSize update) rest
    (later.1, if sink.refuses queueSize update then update :: later.2 else later.2)

end MqttSink

/-- Where the task that sends stands: no connection, waiting for an update, in `publish`, or
on its way out of a connection whose `publish` raised. -/
inductive Link (V : Type u) where
  | away
  | idle
  | sending (update : LiveUpdate V)
  | broken

def Link.update? : Link V → Option (LiveUpdate V)
  | .sending update => some update
  | _ => none

/-- What became of an offer that no newer one of its channel took the place of. -/
inductive Loss where
  | shed
  | refused
  | dropped
  | failed
  | invalid
  | raised
  | discarded
deriving DecidableEq

/-- The losses that no `suppressed` counter counts. -/
def Loss.uncounted : Loss → Bool
  | .failed | .invalid | .raised | .discarded => true
  | .shed | .refused | .dropped => false

/-- The losses `mqtt_drops` counts. -/
def Loss.mqtt : Loss → Bool
  | .refused | .dropped | .failed => true
  | .shed | .invalid | .raised | .discarded => false

/-- The service, with what was offered to it, what the broker took and what was lost. -/
structure Bridge (V : Type u) where
  limiter : Limiter V
  sink : MqttSink V := {}
  link : Link V := .away
  offered : List (LiveUpdate V) := []
  sent : List (LiveUpdate V) := []
  lost : List (LiveUpdate V × Loss) := []

/-- How `mqtt_message` ends: with a message, with a `TypeError` or `ValueError`, or with another
error, such as the `OverflowError` of a lap time too long to display. -/
inductive Encoded where
  | message
  | invalid
  | raised
deriving DecidableEq

structure BridgeSettings (V : Type u) where
  mqttQueueSize : Nat
  mqttMessage : LiveUpdate V → Encoded

inductive BridgeEvent (V : Type u) where
  | turn (now : ℚ) (poll : Poll V)
  | reload (config : LiveConfig)
  | connected
  | take
  | sent
  | failed
  | closed

/-- What the budget of a turn rejects. -/
def Limiter.rejected (limiter : Limiter V) (poll : Poll V) (now : ℚ) : List (LiveUpdate V) :=
  let gathered := limiter.gather poll now
  (gathered.2.ranked gathered.1).drop (limiter.handle poll now).1.length

namespace Bridge

def start (config : LiveConfig) : Bridge V := { limiter := { config := config } }

def lose (bridge : Bridge V) (why : Loss) (updates : List (LiveUpdate V)) : Bridge V :=
  { bridge with lost := bridge.lost ++ updates.map fun update => (update, why) }

/-- One turn of the consume loop: what the limiter admits goes to the sink. -/
def turn (settings : BridgeSettings V) (bridge : Bridge V) (now : ℚ) (poll : Poll V) : Bridge V :=
  let handled := bridge.limiter.handle poll now
  let submitted := bridge.sink.submitAll settings.mqttQueueSize handled.1
  let turned : Bridge V :=
    { bridge with
      limiter := handled.2
      sink := submitted.1
      offered := bridge.offered ++ poll.offers bridge.limiter.config }
  (turned.lose .shed (bridge.limiter.rejected poll now)).lose .refused submitted.2

def pendingUpdates (limiter : Limiter V) : List (LiveUpdate V) :=
  limiter.states.entries.filterMap fun entry => entry.2.pending

def reload (bridge : Bridge V) (config : LiveConfig) : Bridge V :=
  { bridge with limiter := bridge.limiter.reconfigure config }.lose .discarded
    (pendingUpdates bridge.limiter)

/-- The task takes one update; one without a JSON text is dropped there, and an error that is
not of its text ends the connection. -/
def take (settings : BridgeSettings V) (bridge : Bridge V) : Option (Bridge V) :=
  bridge.sink.nextPending.map fun (update, sink) =>
    match settings.mqttMessage update with
    | .message => { bridge with sink := sink, link := .sending update }
    | .invalid =>
      { bridge with sink := { sink with invalidValues := sink.invalidValues + 1 } }.lose
        .invalid [update]
    | .raised => { bridge with sink := sink, link := .broken }.lose .raised [update]

/-- The end of a connection: what is queued is dropped. -/
def close (bridge : Bridge V) : Bridge V :=
  { bridge with
    sink := { bridge.sink with connected := false }.dropQueued
    link := .away }.lose .dropped bridge.sink.queued

/-- A step of the loop or of the task. `closed` is also how the task ends when it is told to
stop while it waits. -/
def step (settings : BridgeSettings V) (bridge : Bridge V) : BridgeEvent V → Option (Bridge V)
  | .turn now poll => some (bridge.turn settings now poll)
  | .reload config => some (bridge.reload config)
  | .connected =>
    match bridge.link with
    | .away =>
      some { bridge with sink := { bridge.sink with connected := true }, link := .idle }
    | _ => none
  | .take =>
    match bridge.link with
    | .idle => bridge.take settings
    | _ => none
  | .sent =>
    match bridge.link with
    | .sending update => some { bridge with link := .idle, sent := bridge.sent ++ [update] }
    | _ => none
  | .failed =>
    match bridge.link with
    | .sending update =>
      some ({ bridge with
        sink := { bridge.sink with mqttDrops := bridge.sink.mqttDrops + 1 }
        link := .broken }.lose .failed [update])
    | _ => none
  | .closed =>
    match bridge.link with
    | .idle | .broken => some bridge.close
    | _ => none

/-- `health.suppressed` of a channel, as a turn leaves it. -/
def suppressed (bridge : Bridge V) (channel : String) : Nat :=
  count bridge.limiter.suppressed channel + count bridge.sink.suppressed channel

/-- What is on its way to the broker, the oldest of each channel first. -/
def waiting (bridge : Bridge V) : List (LiveUpdate V) :=
  bridge.link.update?.toList ++ bridge.sink.queued ++ pendingUpdates bridge.limiter

def lostBy (bridge : Bridge V) (counts : Loss → Bool) : List (LiveUpdate V) :=
  (bridge.lost.filter fun item => counts item.2).map Prod.fst

end Bridge

/-- A channel with a rate above zero is a gauge: only its newest value matters. -/
def LiveConfig.Limits (config : LiveConfig) (channel : String) : Prop :=
  ∃ maxHz, config.maxHzFor channel = some maxHz ∧ 0 < maxHz

def BridgeEvent.Limits (channel : String) : BridgeEvent V → Prop
  | .reload config => config.Limits channel
  | _ => True

/-- The values of a channel on their way, `held` the one that can still be replaced by a newer
offer: a part of the offers in order, which ends in the newest unless that one was lost. -/
structure Flow (offers line lost : List (LiveUpdate V)) (held : Option (LiveUpdate V)) : Prop where
  ordered : line.Sublist offers
  current : ∀ update, held = some update → offers.getLast? = some update
  newest : ∀ update, offers.getLast? = some update →
    line.getLast? = some update ∨ held = none ∧ update ∈ lost

namespace Flow

variable {offers more front queue back lost other : List (LiveUpdate V)}
  {held : Option (LiveUpdate V)} {update : LiveUpdate V}

theorem mono (flow : Flow offers front lost held) (within : lost ⊆ other) :
    Flow offers front other held :=
  ⟨flow.ordered, flow.current, fun update last =>
    (flow.newest update last).imp_right fun gone => ⟨gone.1, within gone.2⟩⟩

/-- The newest of what is held and what is offered is held. -/
theorem offer (flow : Flow offers (front ++ (queue ++ held.toList)) lost held)
    (newest : more.getLast?.or held = some update) :
    Flow (offers ++ more) (front ++ (queue ++ [update])) lost (some update) := by
  have last : (offers ++ more).getLast? = some update := by
    cases empty : more.getLast? with
    | none =>
      rw [empty, Option.none_or] at newest
      rw [List.getLast?_eq_none_iff.mp empty, List.append_nil]
      exact flow.current update newest
    | some final =>
      rw [empty, Option.some_or] at newest
      rw [List.getLast?_append, empty, Option.some_or, newest]
  refine ⟨?_, fun other same => by rw [← same, last], fun other same => ?_⟩
  · cases empty : more.getLast? with
    | none =>
      rw [empty, Option.none_or] at newest
      rw [List.getLast?_eq_none_iff.mp empty, List.append_nil]
      simpa [newest] using flow.ordered
    | some final =>
      rw [empty, Option.some_or, Option.some.injEq] at newest
      have kept : (front ++ queue).Sublist offers :=
        ((List.sublist_append_left (front ++ queue) held.toList).trans
          (by simp)).trans flow.ordered
      obtain ⟨before, split⟩ := List.getLast?_eq_some_iff.mp empty
      rw [split, newest, ← List.append_assoc]
      exact kept.append (List.sublist_append_right before [update])
  · left
    rw [last] at same
    rw [← same]
    simp

/-- The held value passes everything queued before it. -/
theorem pass (flow : Flow offers (front ++ (queue ++ [update])) lost (some update)) :
    Flow offers (front ++ [update]) lost none := by
  have last := flow.current update rfl
  refine ⟨?_, fun other none => (by cases none), fun other same => .inl ?_⟩
  · refine List.Sublist.trans ?_ flow.ordered
    exact (List.sublist_append_right queue [update]).append_left front
  · rw [last] at same
    rw [← same]
    simp

/-- The held value is lost. -/
theorem lose (flow : Flow offers (front ++ (queue ++ [update])) lost (some update))
    (gone : update ∈ other) : Flow offers (front ++ queue) other none := by
  have last := flow.current update rfl
  refine ⟨?_, fun other none => (by cases none), fun other same => .inr ⟨rfl, ?_⟩⟩
  · refine List.Sublist.trans ?_ flow.ordered
    rw [← List.append_assoc]
    exact List.sublist_append_left _ _
  · rw [last] at same
    cases same
    exact gone

/-- A value before the held one is lost. -/
theorem remove (flow : Flow offers (front ++ update :: (back ++ held.toList)) lost held)
    (within : lost ⊆ other) (gone : update ∈ other) :
    Flow offers (front ++ (back ++ held.toList)) other held := by
  refine ⟨?_, flow.current, fun newest same => ?_⟩
  · exact ((List.sublist_cons_self _ _).append_left front).trans flow.ordered
  · cases flow.newest newest same with
    | inr lost => exact .inr ⟨lost.1, within lost.2⟩
    | inl last =>
      cases held with
      | some final =>
        left
        have both := flow.current final rfl
        rw [same, Option.some.injEq] at both
        simp [both]
      | none =>
        rw [Option.toList_none, List.append_nil] at last ⊢
        cases empty : back.getLast? with
        | none =>
          rw [List.getLast?_eq_none_iff.mp empty] at last
          have only : update = newest := by simpa using last
          exact .inr ⟨rfl, only ▸ gone⟩
        | some final =>
          left
          obtain ⟨before, split⟩ := List.getLast?_eq_some_iff.mp empty
          have grouped : front ++ update :: (before ++ [final]) =
              (front ++ update :: before) ++ [final] := by simp
          rw [split, grouped, List.getLast?_concat] at last
          rw [split, ← List.append_assoc, List.getLast?_concat, last]

end Flow

@[simp] theorem ofChannel_nil (channel : String) :
    ofChannel channel ([] : List (LiveUpdate V)) = [] := rfl

@[simp] theorem ofChannel_append (channel : String) (first second : List (LiveUpdate V)) :
    ofChannel channel (first ++ second) = ofChannel channel first ++ ofChannel channel second :=
  List.filter_append _ _

theorem ofChannel_cons_own {channel : String} {update : LiveUpdate V}
    (own : update.channel = channel) (rest : List (LiveUpdate V)) :
    ofChannel channel (update :: rest) = update :: ofChannel channel rest := by
  simp [ofChannel, own]

theorem ofChannel_cons_other {channel : String} {update : LiveUpdate V}
    (other : update.channel ≠ channel) (rest : List (LiveUpdate V)) :
    ofChannel channel (update :: rest) = ofChannel channel rest := by
  simp [ofChannel, other]

theorem Flow.leave {channel : String} {update : LiveUpdate V}
    {offers front back lost : List (LiveUpdate V)} {held : Option (LiveUpdate V)}
    (flow : Flow offers (front ++ (ofChannel channel [update] ++ (back ++ held.toList))) lost held) :
    Flow offers (front ++ (back ++ held.toList)) (lost ++ [update]) held := by
  by_cases own : update.channel = channel
  · rw [ofChannel_cons_own own] at flow
    exact Flow.remove flow (List.subset_append_left _ _) (by simp)
  · rw [ofChannel_cons_other own] at flow
    exact flow.mono (List.subset_append_left _ _)

namespace MqttSink

variable {sink : MqttSink V} {channel : String} {update : LiveUpdate V} {size : Nat}

/-- Limited updates are queued under their channels. -/
def Keyed (sink : MqttSink V) : Prop :=
  ∀ key update, sink.limited.get? key = some update → update.channel = key

/-- All that `submit` can do. -/
theorem submit_cases (size : Nat) (sink : MqttSink V) (update : LiveUpdate V) :
    (sink.refuses size update = true ∧ sink.submit size update = sink.drop update) ∨
    (sink.refuses size update = false ∧ update.conflate = true ∧
      sink.submit size update =
        { sink with
          limited := sink.limited.set update.channel update
          suppressed := if sink.limited.contains update.channel then
            increment sink.suppressed update.channel else sink.suppressed }) ∨
    (sink.refuses size update = false ∧ update.conflate = false ∧
      sink.submit size update = { sink with unlimited := sink.unlimited ++ [update] }) := by
  unfold submit refuses
  cases connected : sink.connected with
  | false => exact .inl ⟨rfl, rfl⟩
  | true =>
    cases conflate : update.conflate with
    | false =>
      by_cases full : size ≤ sink.pendingCount
      · exact .inl ⟨by simp [full], by simp [full]⟩
      · exact .inr (.inr ⟨by simp [full], rfl, by simp [full]⟩)
    | true =>
      cases queued : sink.limited.contains update.channel with
      | true => exact .inr (.inl ⟨rfl, rfl, rfl⟩)
      | false =>
        by_cases full : size ≤ sink.pendingCount
        · exact .inl ⟨by simp [full], by simp [full]⟩
        · exact .inr (.inl ⟨by simp [full], rfl, by simp [full]⟩)

theorem keyed_submit (keyed : sink.Keyed) (size : Nat) (update : LiveUpdate V) :
    (sink.submit size update).Keyed := by
  obtain ⟨_, same⟩ | ⟨_, _, same⟩ | ⟨_, _, same⟩ := submit_cases size sink update
  · rw [same]
    exact keyed
  · rw [same]
    intro key other found
    dsimp only at found
    rw [Dict.get?_set] at found
    split at found
    · rename_i own
      cases found
      exact own
    · exact keyed key other found
  · rw [same]
    exact keyed

/-- What a list of updates with at most one of a channel does to that channel: the one is
dropped, or it is queued in the place of an older one. -/
structure Handed (sink after : MqttSink V) (channel : String) (one : Option (LiveUpdate V))
    (refused : List (LiveUpdate V)) : Prop where
  unlimited : ofChannel channel after.unlimited = ofChannel channel sink.unlimited
  outcome :
    (ofChannel channel refused = one.toList ∧
      after.limited.get? channel = sink.limited.get? channel ∧
      count after.suppressed channel = count sink.suppressed channel + one.toList.length) ∨
    (ofChannel channel refused = [] ∧ ∃ update, one = some update ∧
      after.limited.get? channel = some update ∧
      count after.suppressed channel =
        count sink.suppressed channel + (sink.limited.get? channel).toList.length)

theorem submit_other (sink : MqttSink V) (other : update.channel ≠ channel) (size : Nat) :
    Handed sink (sink.submit size update) channel none [] := by
  obtain ⟨_, same⟩ | ⟨_, _, same⟩ | ⟨_, _, same⟩ := submit_cases size sink update
  · rw [same]
    exact ⟨rfl, .inl ⟨rfl, rfl, by simp [drop, count_increment, other]⟩⟩
  · rw [same]
    refine ⟨rfl, .inl ⟨rfl, by rw [Dict.get?_set, if_neg other], ?_⟩⟩
    dsimp only
    split
    · simp [count_increment, other]
    · rfl
  · rw [same]
    exact ⟨by simp [ofChannel, other], .inl ⟨rfl, rfl, rfl⟩⟩

theorem submit_own (own : update.channel = channel) (conflate : update.conflate = true)
    (size : Nat) :
    Handed sink (sink.submit size update) channel (some update)
      (if sink.refuses size update then [update] else []) := by
  obtain ⟨refused, same⟩ | ⟨refused, _, same⟩ | ⟨_, unlimited, _⟩ :=
    submit_cases size sink update
  · rw [same, refused]
    exact ⟨rfl, .inl ⟨by simp [ofChannel, own], rfl, by simp [drop, count_increment, own]⟩⟩
  · rw [same, refused]
    refine ⟨rfl, .inr ⟨rfl, update, rfl, by rw [own, Dict.get?_set, if_pos rfl], ?_⟩⟩
    dsimp only
    rw [own, Dict.contains]
    cases sink.limited.get? channel <;> simp [count_increment]
  · rw [conflate] at unlimited
    cases unlimited

theorem Handed.trans {middle after : MqttSink V} {one : Option (LiveUpdate V)}
    {first second : List (LiveUpdate V)} (here : Handed sink middle channel none first)
    (later : Handed middle after channel one second) :
    Handed sink after channel one (first ++ second) := by
  obtain ⟨refused, kept, counted⟩ | ⟨_, update, none, _⟩ := here.outcome
  · rw [Option.toList_none] at refused counted
    have outcome := later.outcome
    rw [kept, counted, List.length_nil, Nat.add_zero] at outcome
    refine ⟨later.unlimited.trans here.unlimited, ?_⟩
    rw [ofChannel_append, refused, List.nil_append]
    exact outcome
  · cases none

theorem Handed.before {middle after : MqttSink V} {one : Option (LiveUpdate V)}
    {first second : List (LiveUpdate V)} (here : Handed sink middle channel one first)
    (later : Handed middle after channel none second) :
    Handed sink after channel one (first ++ second) := by
  obtain ⟨refused, kept, counted⟩ | ⟨_, update, none, _⟩ := later.outcome
  · rw [Option.toList_none] at refused counted
    refine ⟨later.unlimited.trans here.unlimited, ?_⟩
    simpa [refused, kept, counted] using here.outcome
  · cases none

theorem submitAll_handed (sink : MqttSink V) (size : Nat) (channel : String)
    (updates : List (LiveUpdate V)) (one : Option (LiveUpdate V))
    (single : ofChannel channel updates = one.toList)
    (conflate : ∀ update, one = some update → update.conflate = true) :
    Handed sink (sink.submitAll size updates).1 channel one (sink.submitAll size updates).2 := by
  induction updates generalizing sink one with
  | nil =>
    cases one with
    | none => exact ⟨rfl, .inl ⟨rfl, rfl, rfl⟩⟩
    | some update => cases single
  | cons update rest ih =>
    have split : (sink.submitAll size (update :: rest)).2 =
        (if sink.refuses size update then [update] else []) ++
          ((sink.submit size update).submitAll size rest).2 := by
      rw [submitAll]
      split <;> rfl
    rw [split, submitAll]
    by_cases own : update.channel = channel
    · rw [ofChannel_cons_own own] at single
      cases one with
      | none => cases single
      | some only =>
        obtain ⟨rfl, nomore⟩ := List.cons.inj single
        have later : Handed (sink.submit size update)
            ((sink.submit size update).submitAll size rest).1 channel none
            ((sink.submit size update).submitAll size rest).2 :=
          ih (sink.submit size update) none nomore fun _ same => (by cases same)
        exact (submit_own own (conflate update rfl) size).before later
    · rw [ofChannel_cons_other own] at single
      have here : Handed sink (sink.submit size update) channel none
          (if sink.refuses size update then [update] else []) := by
        obtain ⟨unlimited, outcome⟩ := submit_other sink own size
        refine ⟨unlimited, ?_⟩
        split
        · rwa [ofChannel_cons_other own]
        · exact outcome
      exact here.trans (ih (sink.submit size update) one single conflate)

theorem submitAll_keyed (keyed : sink.Keyed) (size : Nat) (updates : List (LiveUpdate V)) :
    (sink.submitAll size updates).1.Keyed := by
  induction updates generalizing sink with
  | nil => exact keyed
  | cons update rest ih => exact ih (keyed_submit keyed size update)

end MqttSink

/-- What a turn of the limiter admits and rejects are its candidates. -/
theorem handle_append_rejected (limiter : Limiter V) (poll : Poll V) (now : ℚ) :
    (limiter.handle poll now).1 ++ limiter.rejected poll now =
      (limiter.gather poll now).2.ranked (limiter.gather poll now).1 := by
  rw [Limiter.rejected, Limiter.handle, Limiter.admitCandidates]
  dsimp only
  generalize ranked_eq : (limiter.gather poll now).2.ranked (limiter.gather poll now).1 = ranked
  generalize Limiter.available _ ranked.length _ = available
  by_cases few : available ≤ ranked.length
  · rw [List.length_take, Nat.min_eq_left few, List.take_append_drop]
  · rw [List.take_of_length_le (by omega), List.drop_length, List.append_nil]

/-- What a turn does to a gauge: nothing, or its newest value is held back, admitted or shed. -/
theorem handle_gauge {limiter : Limiter V} {channel : String} (kept : limiter.Kept)
    (limits : limiter.config.Limits channel) (poll : Poll V) (now : ℚ) :
    let gauge := limiter.gauge channel
    let offers := ofChannel channel (poll.offers limiter.config)
    let after := (limiter.handle poll now).2.gauge channel
    let shown := ofChannel channel (limiter.handle poll now).1
    let rejected := ofChannel channel (limiter.rejected poll now)
    (gauge.newest offers = none ∧ after.pending = none ∧ shown = [] ∧ rejected = [] ∧
      after.suppressed = gauge.suppressed) ∨
    ∃ update, gauge.newest offers = some update ∧
      ((after.pending = some update ∧ shown = [] ∧ rejected = [] ∧
          after.suppressed = gauge.suppressed + gauge.displaced offers) ∨
        (after.pending = none ∧ shown = [update] ∧ rejected = [] ∧
          after.suppressed = gauge.suppressed + gauge.displaced offers) ∨
        (after.pending = none ∧ shown = [] ∧ rejected = [update] ∧
          after.suppressed = gauge.suppressed + gauge.displaced offers + 1)) := by
  obtain ⟨maxHz, rate, positive⟩ := limits
  obtain ⟨admitted, turned⟩ := handle_turn kept rate positive poll now
  have gathered := gather_gathered kept rate positive poll now
  have parts := congrArg (ofChannel channel) (handle_append_rejected limiter poll now)
  rw [ofChannel_append, ofChannel_ranked _ gathered.candidates] at parts
  obtain ⟨after, shown⟩ := Prod.mk.inj turned
  simp only [after, shown] at parts ⊢
  generalize ofChannel channel (poll.offers limiter.config) = offers at parts ⊢
  generalize limiter.gauge channel = gauge at parts ⊢
  unfold Gauge.turn at parts ⊢
  cases due : isDue gauge.nextDue now with
  | false =>
    simp only [due, Bool.false_eq_true, if_false, Option.toList_none, List.nil_append] at parts ⊢
    cases newest : gauge.newest offers with
    | none =>
      have held : gauge.pending = none ∧ offers = [] := by
        simpa [Gauge.newest, and_comm] using newest
      exact .inl ⟨rfl, rfl, trivial, parts, by simp [Gauge.displaced, held]⟩
    | some update => exact .inr ⟨update, rfl, .inl ⟨rfl, trivial, parts, trivial⟩⟩
  | true =>
    simp only [due, if_true] at parts ⊢
    cases newest : gauge.newest offers with
    | none =>
      have held : gauge.pending = none ∧ offers = [] := by
        simpa [Gauge.newest, and_comm] using newest
      rw [newest] at parts
      exact .inl ⟨rfl, held.1, rfl, parts, rfl⟩
    | some update =>
      rw [newest] at parts
      cases admitted with
      | false => exact .inr ⟨update, rfl, .inr (.inr ⟨rfl, rfl, parts, rfl⟩)⟩
      | true =>
        have none : ofChannel channel (limiter.rejected poll now) = [] := by
          simpa using parts
        exact .inr ⟨update, rfl, .inr (.inl ⟨rfl, rfl, none, rfl⟩)⟩

/-- The newest value of a gauge is limited. -/
theorem newest_conflates {limiter : Limiter V} {channel : String} (kept : limiter.Kept)
    (limits : limiter.config.Limits channel) {poll : Poll V} {update : LiveUpdate V}
    (newest : (limiter.gauge channel).newest (ofChannel channel (poll.offers limiter.config)) =
      some update) : update.conflate = true := by
  obtain ⟨maxHz, rate, positive⟩ := limits
  unfold Gauge.newest at newest
  cases last : (ofChannel channel (poll.offers limiter.config)).getLast? with
  | some final =>
    rw [last, Option.some_or, Option.some.injEq] at newest
    rw [← newest]
    exact mem_offers rate positive (List.mem_of_getLast? last)
  | none =>
    rw [last, Option.none_or] at newest
    obtain ⟨state, known, pending⟩ := Option.bind_eq_some_iff.mp newest
    exact (kept channel state known).limited update pending

theorem ofChannel_pendingUpdates {limiter : Limiter V} (kept : limiter.Kept) (channel : String) :
    ofChannel channel (Bridge.pendingUpdates limiter) = (limiter.gauge channel).pending.toList :=
  limiter.states.filterMap_own ChannelState.pending LiveUpdate.channel
    (fun key state update known pending => (kept key state known).own update pending) channel

theorem MqttSink.Keyed.ofChannel_limited {sink : MqttSink V} (keyed : sink.Keyed)
    (channel : String) : ofChannel channel (sink.limited.entries.map Prod.snd) =
      (sink.limited.get? channel).toList := by
  have own := sink.limited.filterMap_own some LiveUpdate.channel (fun key update given found same =>
    (by cases same; exact keyed key update found)) channel
  rw [List.filterMap_eq_map', Option.bind_fun_some] at own
  exact own

namespace Bridge

variable {bridge : Bridge V} {settings : BridgeSettings V} {channel : String}

@[simp] theorem lose_limiter (bridge : Bridge V) (why : Loss) (updates : List (LiveUpdate V)) :
    (bridge.lose why updates).limiter = bridge.limiter := rfl

@[simp] theorem lose_sink (bridge : Bridge V) (why : Loss) (updates : List (LiveUpdate V)) :
    (bridge.lose why updates).sink = bridge.sink := rfl

@[simp] theorem lose_link (bridge : Bridge V) (why : Loss) (updates : List (LiveUpdate V)) :
    (bridge.lose why updates).link = bridge.link := rfl

@[simp] theorem lose_offered (bridge : Bridge V) (why : Loss) (updates : List (LiveUpdate V)) :
    (bridge.lose why updates).offered = bridge.offered := rfl

@[simp] theorem lose_sent (bridge : Bridge V) (why : Loss) (updates : List (LiveUpdate V)) :
    (bridge.lose why updates).sent = bridge.sent := rfl

@[simp] theorem lose_lost (bridge : Bridge V) (why : Loss) (updates : List (LiveUpdate V)) :
    (bridge.lose why updates).lost.map Prod.fst = bridge.lost.map Prod.fst ++ updates := by
  simp [lose, Function.comp_def]

@[simp] theorem lostBy_lose (bridge : Bridge V) (why : Loss) (updates : List (LiveUpdate V))
    (counts : Loss → Bool) : (bridge.lose why updates).lostBy counts =
      bridge.lostBy counts ++ (if counts why then updates else []) := by
  cases counted : counts why <;>
    simp [lostBy, lose, List.filter_map, Function.comp_def, counted]

/-- What was sent of a channel or is in `publish`. -/
def ahead (bridge : Bridge V) (channel : String) : List (LiveUpdate V) :=
  ofChannel channel bridge.sent ++ ofChannel channel bridge.link.update?.toList

/-- A gauge's values from the broker back to the limiter. -/
def line (bridge : Bridge V) (channel : String) : List (LiveUpdate V) :=
  bridge.ahead channel ++
    ((bridge.sink.limited.get? channel).toList ++ (bridge.limiter.gauge channel).pending.toList)

/-- The bridge as one gauge sees it. -/
structure Lane (channel : String) (bridge : Bridge V) : Prop where
  kept : bridge.limiter.Kept
  limits : bridge.limiter.config.Limits channel
  keyed : bridge.sink.Keyed
  apart : ofChannel channel bridge.sink.unlimited = []
  flow : Flow (ofChannel channel bridge.offered) (bridge.line channel) (bridge.lost.map Prod.fst)
    (bridge.limiter.gauge channel).pending
  offers : (ofChannel channel bridge.offered).length = (bridge.line channel).length +
    bridge.suppressed channel + (ofChannel channel (bridge.lostBy Loss.uncounted)).length

/-- A turn, from what it leaves of the channel in the limiter and in the sink. -/
theorem Lane.of_turn (lane : Lane channel bridge) {now : ℚ} {poll : Poll V}
    (unlimited : ofChannel channel (bridge.turn settings now poll).sink.unlimited =
      ofChannel channel bridge.sink.unlimited)
    (flow : Flow
      (ofChannel channel bridge.offered ++
        ofChannel channel (poll.offers bridge.limiter.config))
      ((bridge.turn settings now poll).line channel)
      (bridge.lost.map Prod.fst ++ bridge.limiter.rejected poll now ++
        (bridge.sink.submitAll settings.mqttQueueSize (bridge.limiter.handle poll now).1).2)
      ((bridge.turn settings now poll).limiter.gauge channel).pending)
    (balance : (bridge.line channel).length + bridge.suppressed channel +
        (ofChannel channel (poll.offers bridge.limiter.config)).length =
      ((bridge.turn settings now poll).line channel).length +
        (bridge.turn settings now poll).suppressed channel) :
    Lane channel (bridge.turn settings now poll) := by
  have offers := lane.offers
  have offered : ofChannel channel (bridge.turn settings now poll).offered =
      ofChannel channel bridge.offered ++
        ofChannel channel (poll.offers bridge.limiter.config) := ofChannel_append channel _ _
  have lost : (bridge.turn settings now poll).lost.map Prod.fst =
      bridge.lost.map Prod.fst ++ bridge.limiter.rejected poll now ++
        (bridge.sink.submitAll settings.mqttQueueSize (bridge.limiter.handle poll now).1).2 := by
    simp [Bridge.turn]
  have uncounted : (bridge.turn settings now poll).lostBy Loss.uncounted =
      bridge.lostBy Loss.uncounted := by
    simp only [Bridge.turn, lostBy_lose, Loss.uncounted, Bool.false_eq_true, if_false,
      List.append_nil]
    rfl
  refine ⟨handle_kept lane.kept poll now, by simpa [Bridge.turn] using lane.limits,
    MqttSink.submitAll_keyed lane.keyed _ _, unlimited.trans lane.apart, ?_, ?_⟩
  · rw [offered, lost]
    exact flow
  · rw [offered, uncounted, List.length_append]
    omega

theorem Lane.turn (lane : Lane channel bridge) (settings : BridgeSettings V) (now : ℚ)
    (poll : Poll V) : Lane channel (bridge.turn settings now poll) := by
  have flow := lane.flow
  have displaced := displaced_balance (bridge.limiter.gauge channel)
    (ofChannel channel (poll.offers bridge.limiter.config))
  have handed := MqttSink.submitAll_handed bridge.sink settings.mqttQueueSize channel
    (bridge.limiter.handle poll now).1
  have line : (bridge.turn settings now poll).line channel = bridge.ahead channel ++
      (((bridge.sink.submitAll settings.mqttQueueSize
          (bridge.limiter.handle poll now).1).1.limited.get? channel).toList ++
        ((bridge.limiter.handle poll now).2.gauge channel).pending.toList) := rfl
  have held : ((bridge.turn settings now poll).limiter.gauge channel).pending =
      ((bridge.limiter.handle poll now).2.gauge channel).pending := rfl
  have counts : (bridge.turn settings now poll).suppressed channel =
      ((bridge.limiter.handle poll now).2.gauge channel).suppressed +
        count (bridge.sink.submitAll settings.mqttQueueSize
          (bridge.limiter.handle poll now).1).1.suppressed channel := rfl
  have before : bridge.suppressed channel =
      (bridge.limiter.gauge channel).suppressed + count bridge.sink.suppressed channel := rfl
  have old : (bridge.line channel).length = (bridge.ahead channel).length +
      ((bridge.sink.limited.get? channel).toList.length +
        (bridge.limiter.gauge channel).pending.toList.length) := by
    rw [Bridge.line, List.length_append, List.length_append]
  obtain ⟨newest, pending, shown, rejected, suppressed⟩ |
    ⟨update, newest, ⟨pending, shown, rejected, suppressed⟩ |
      ⟨pending, shown, rejected, suppressed⟩ | ⟨pending, shown, rejected, suppressed⟩⟩ :=
    handle_gauge lane.kept lane.limits poll now
  · obtain ⟨unlimited, ⟨_, queued, counted⟩ | ⟨_, update, none, _⟩⟩ :=
      handed none shown fun update same => (by cases same)
    · have empty : (bridge.limiter.gauge channel).pending = none ∧
          ofChannel channel (poll.offers bridge.limiter.config) = [] := by
        simpa [Gauge.newest, and_comm] using newest
      rw [Bridge.line, empty.1] at flow
      refine lane.of_turn unlimited ?_ ?_
      · rw [line, held, queued, pending, empty.2, List.append_nil]
        exact flow.mono (by simp)
      · rw [old, before, line, counts, queued, pending, suppressed, counted, empty.1, empty.2]
        simp
    · cases none
  · have next := flow.offer newest
    obtain ⟨unlimited, ⟨_, queued, counted⟩ | ⟨_, update, none, _⟩⟩ :=
      handed none shown fun update same => (by cases same)
    · refine lane.of_turn unlimited ?_ ?_
      · rw [line, held, queued, pending]
        exact next.mono (by simp)
      · rw [newest] at displaced
        rw [old, before, line, counts, queued, pending, suppressed, counted]
        simp at displaced ⊢
        omega
    · cases none
  · have next := flow.offer newest
    have conflates : ∀ other, some update = some other → other.conflate = true := by
      intro other same
      cases same
      exact newest_conflates lane.kept lane.limits newest
    rw [newest] at displaced
    obtain ⟨unlimited, ⟨refused, queued, counted⟩ | ⟨_, other, same, queued, counted⟩⟩ :=
      handed (some update) shown conflates
    · refine lane.of_turn unlimited ?_ ?_
      · rw [line, held, queued, pending, Option.toList_none, List.append_nil]
        rw [Option.toList_some] at refused
        have gone := List.mem_of_mem_filter (refused ▸ List.mem_singleton_self update)
        exact next.lose (List.mem_append_right _ gone)
      · rw [old, before, line, counts, queued, pending, suppressed, counted]
        simp at displaced ⊢
        omega
    · cases same
      refine lane.of_turn unlimited ?_ ?_
      · rw [line, held, queued, pending, Option.toList_none, List.append_nil]
        exact next.pass.mono (by simp)
      · rw [old, before, line, counts, queued, pending, suppressed, counted]
        simp at displaced ⊢
        omega
  · have next := flow.offer newest
    rw [newest] at displaced
    obtain ⟨unlimited, ⟨_, queued, counted⟩ | ⟨_, update, none, _⟩⟩ :=
      handed none shown fun update same => (by cases same)
    · refine lane.of_turn unlimited ?_ ?_
      · rw [line, held, queued, pending, Option.toList_none, List.append_nil]
        have gone := List.mem_of_mem_filter (rejected ▸ List.mem_singleton_self update)
        exact next.lose (List.mem_append_left _ (List.mem_append_right _ gone))
      · rw [old, before, line, counts, queued, pending, suppressed, counted]
        simp at displaced ⊢
        omega
    · cases none

theorem Lane.reload (lane : Lane channel bridge) {config : LiveConfig}
    (limits : config.Limits channel) : Lane channel (bridge.reload config) := by
  have flow := lane.flow
  have own := ofChannel_pendingUpdates lane.kept channel
  have line : (bridge.reload config).line channel = bridge.ahead channel ++
      ((bridge.sink.limited.get? channel).toList ++ []) := rfl
  have lost : (bridge.reload config).lost.map Prod.fst =
      bridge.lost.map Prod.fst ++ pendingUpdates bridge.limiter := by simp [Bridge.reload]
  have fresh : (bridge.limiter.reconfigure config).Kept := fun key state known => by
    simp [Limiter.reconfigure, Dict.get?, Dict.empty, Dict.lookup] at known
  have held : ((bridge.reload config).limiter.gauge channel).pending = none := rfl
  refine ⟨fresh, limits, lane.keyed, lane.apart, ?_, ?_⟩
  · rw [line, lost, held, List.append_nil]
    rw [Bridge.line] at flow
    cases pending : (bridge.limiter.gauge channel).pending with
    | none =>
      rw [pending, Option.toList_none, List.append_nil] at flow
      exact flow.mono (List.subset_append_left _ _)
    | some update =>
      rw [pending, Option.toList_some] at own
      rw [pending] at flow
      have gone := List.mem_of_mem_filter (own ▸ List.mem_singleton_self update)
      exact flow.lose (List.mem_append_right _ gone)
  · have offers := lane.offers
    have uncounted : (bridge.reload config).lostBy Loss.uncounted =
        bridge.lostBy Loss.uncounted ++ pendingUpdates bridge.limiter := by
      rw [Bridge.reload, lostBy_lose]
      rfl
    have suppressed : (bridge.reload config).suppressed channel = bridge.suppressed channel := rfl
    have offered : (bridge.reload config).offered = bridge.offered := rfl
    rw [line, uncounted, suppressed, offered, ofChannel_append, own, offers, Bridge.line]
    simp only [List.length_append, List.length_nil]
    omega

/-- An update that leaves the queue is the channel's queued one, or another channel's. -/
theorem nextPending_own {sink after : MqttSink V} {update : LiveUpdate V} (keyed : sink.Keyed)
    (apart : ofChannel channel sink.unlimited = [])
    (taken : sink.nextPending = some (update, after)) :
    after.Keyed ∧ ofChannel channel after.unlimited = [] ∧
      after.suppressed = sink.suppressed ∧ (sink.limited.get? channel).toList =
        ofChannel channel [update] ++ (after.limited.get? channel).toList := by
  unfold MqttSink.nextPending at taken
  split at taken
  · rename_i first rest queue
    cases taken
    rw [queue] at apart
    by_cases own : update.channel = channel
    · rw [ofChannel_cons_own own] at apart
      cases apart
    · rw [ofChannel_cons_other own] at apart
      exact ⟨keyed, apart, rfl, by rw [ofChannel_cons_other own]; rfl⟩
  · rename_i key first rest queue entries
    cases taken
    have found : sink.limited.get? key = some update :=
      (Dict.get?_eq_some _ _ _).mpr (by rw [entries]; exact List.mem_cons_self)
    have named := keyed key update found
    refine ⟨fun other update kept => ?_, apart, rfl, ?_⟩
    · dsimp only at kept
      rw [Dict.get?_erase] at kept
      split at kept
      · cases kept
      · exact keyed other update kept
    · dsimp only
      rw [Dict.get?_erase]
      by_cases own : key = channel
      · rw [if_pos own, ← own, found, ofChannel_cons_own (named.trans rfl)]
        rfl
      · rw [if_neg own, ofChannel_cons_other (fun same => own (named.symm.trans same))]
        rfl
  · cases taken

theorem Lane.take {next : Bridge V} (lane : Lane channel bridge) (idle : bridge.link.update? = none)
    (taken : bridge.take settings = some next) : Lane channel next := by
  obtain ⟨⟨update, after⟩, popped, rfl⟩ := Option.map_eq_some_iff.mp taken
  obtain ⟨keyed, apart, suppressed, split⟩ := nextPending_own lane.keyed lane.apart popped
  have flow := lane.flow
  have offers := lane.offers
  have counts : count after.suppressed channel = count bridge.sink.suppressed channel := by
    rw [suppressed]
  have line : bridge.line channel = ofChannel channel bridge.sent ++ (ofChannel channel [update] ++
      ((after.limited.get? channel).toList ++
        (bridge.limiter.gauge channel).pending.toList)) := by
    rw [Bridge.line, ahead, idle, split]
    simp
  rw [line] at flow offers
  dsimp only
  cases settings.mqttMessage update with
  | message =>
    refine ⟨lane.kept, lane.limits, keyed, apart, ?_, ?_⟩
    · simpa [Bridge.line, ahead, Link.update?] using flow
    · simpa [Bridge.line, ahead, Link.update?, Bridge.suppressed, counts, lostBy,
        Nat.add_assoc] using offers
  | invalid =>
    refine ⟨lane.kept, lane.limits, keyed, apart, ?_, ?_⟩
    · simpa [Bridge.line, ahead, idle] using flow.leave
    · have same : Bridge.lostBy { bridge with
          sink := { after with invalidValues := after.invalidValues + 1 } } Loss.uncounted =
            bridge.lostBy Loss.uncounted := rfl
      simp [Bridge.line, ahead, idle, Bridge.suppressed, counts, same, Loss.uncounted] at offers ⊢
      omega
  | raised =>
    refine ⟨lane.kept, lane.limits, keyed, apart, ?_, ?_⟩
    · simpa [Bridge.line, ahead, Link.update?] using flow.leave
    · have same : Bridge.lostBy { bridge with sink := after, link := .broken } Loss.uncounted =
          bridge.lostBy Loss.uncounted := rfl
      simp [Bridge.line, ahead, Link.update?, Bridge.suppressed, counts, same,
        Loss.uncounted] at offers ⊢
      omega

theorem Lane.sent {update : LiveUpdate V} (lane : Lane channel bridge)
    (sending : bridge.link = .sending update) :
    Lane channel { bridge with link := .idle, sent := bridge.sent ++ [update] } := by
  have flow := lane.flow
  have offers := lane.offers
  have line : Bridge.line { bridge with link := .idle, sent := bridge.sent ++ [update] } channel =
      bridge.line channel := by
    simp [Bridge.line, ahead, sending, Link.update?]
  refine ⟨lane.kept, lane.limits, lane.keyed, lane.apart, ?_, ?_⟩
  · rw [line]
    exact flow
  · rw [line]
    exact offers

theorem Lane.failed {update : LiveUpdate V} (lane : Lane channel bridge)
    (sending : bridge.link = .sending update) :
    Lane channel ({ bridge with
      sink := { bridge.sink with mqttDrops := bridge.sink.mqttDrops + 1 }
      link := .broken }.lose .failed [update]) := by
  have flow := lane.flow
  have offers := lane.offers
  have line : bridge.line channel = ofChannel channel bridge.sent ++ (ofChannel channel [update] ++
      ((bridge.sink.limited.get? channel).toList ++
        (bridge.limiter.gauge channel).pending.toList)) := by
    simp [Bridge.line, ahead, sending, Link.update?]
  rw [line] at flow offers
  refine ⟨lane.kept, lane.limits, lane.keyed, lane.apart, ?_, ?_⟩
  · simpa [Bridge.line, ahead, Link.update?] using flow.leave
  · have same : Bridge.lostBy { bridge with
        sink := { bridge.sink with mqttDrops := bridge.sink.mqttDrops + 1 }
        link := .broken } Loss.uncounted = bridge.lostBy Loss.uncounted := rfl
    simp [Bridge.line, ahead, Link.update?, Bridge.suppressed, same, Loss.uncounted] at offers ⊢
    omega

theorem MqttSink.foldl_drop (sink : MqttSink V) (updates : List (LiveUpdate V)) :
    (updates.foldl MqttSink.drop sink).limited = sink.limited ∧
      (updates.foldl MqttSink.drop sink).unlimited = sink.unlimited ∧
      (updates.foldl MqttSink.drop sink).invalidValues = sink.invalidValues ∧
      (updates.foldl MqttSink.drop sink).mqttDrops = sink.mqttDrops + updates.length ∧
      ∀ channel, count (updates.foldl MqttSink.drop sink).suppressed channel =
        count sink.suppressed channel + (ofChannel channel updates).length := by
  induction updates generalizing sink with
  | nil => exact ⟨rfl, rfl, rfl, rfl, fun channel => rfl⟩
  | cons update rest ih =>
    obtain ⟨limited, unlimited, invalid, drops, suppressed⟩ := ih (sink.drop update)
    refine ⟨limited, unlimited, invalid, ?_, fun channel => ?_⟩
    · rw [List.foldl_cons, drops, MqttSink.drop, List.length_cons]
      dsimp only
      omega
    · rw [List.foldl_cons, suppressed channel, MqttSink.drop]
      dsimp only
      rw [count_increment]
      by_cases own : update.channel = channel
      · rw [ofChannel_cons_own own, if_pos own, List.length_cons]
        omega
      · rw [ofChannel_cons_other own, if_neg own]

theorem Lane.close (lane : Lane channel bridge) (free : bridge.link.update? = none) :
    Lane channel bridge.close := by
  have flow := lane.flow
  have offers := lane.offers
  obtain ⟨limited, unlimited, _, _, suppressed⟩ := MqttSink.foldl_drop
    { bridge.sink with connected := false, unlimited := [], limited := .empty } bridge.sink.queued
  have queued : ofChannel channel bridge.sink.queued =
      (bridge.sink.limited.get? channel).toList := by
    rw [MqttSink.queued, ofChannel_append, lane.apart, List.nil_append,
      lane.keyed.ofChannel_limited]
  have emptied : bridge.close.sink.limited.get? channel = none := by
    rw [show bridge.close.sink.limited = .empty from limited]
    rfl
  have line : bridge.close.line channel = ofChannel channel bridge.sent ++ ([] ++
      (bridge.limiter.gauge channel).pending.toList) := by
    rw [Bridge.line, emptied]
    simp [ahead, Bridge.close, Link.update?]
  have old : bridge.line channel = ofChannel channel bridge.sent ++
      ((bridge.sink.limited.get? channel).toList ++
        (bridge.limiter.gauge channel).pending.toList) := by
    simp [Bridge.line, ahead, free]
  have lost : bridge.close.lost.map Prod.fst = bridge.lost.map Prod.fst ++ bridge.sink.queued := by
    simp [Bridge.close]
  have uncounted : bridge.close.lostBy Loss.uncounted = bridge.lostBy Loss.uncounted := by
    rw [Bridge.close, lostBy_lose]
    exact List.append_nil _
  have counts : bridge.close.suppressed channel =
      bridge.suppressed channel + (ofChannel channel bridge.sink.queued).length := by
    have sink : count bridge.close.sink.suppressed channel =
        count bridge.sink.suppressed channel + (ofChannel channel bridge.sink.queued).length :=
      suppressed channel
    rw [Bridge.suppressed, sink, Bridge.suppressed, Nat.add_assoc]
    rfl
  refine ⟨lane.kept, lane.limits, fun key update found => ?_, ?_, ?_, ?_⟩
  · rw [show bridge.close.sink.limited = .empty from limited] at found
    cases found
  · rw [show bridge.close.sink.unlimited = [] from unlimited]
    rfl
  · rw [line, lost]
    rw [old] at flow
    cases waits : bridge.sink.limited.get? channel with
    | none =>
      rw [waits] at flow
      exact flow.mono (List.subset_append_left _ _)
    | some update =>
      rw [waits] at flow queued
      have gone := List.mem_of_mem_filter
        (queued ▸ List.mem_singleton_self update : update ∈ ofChannel channel bridge.sink.queued)
      exact Flow.remove flow (List.subset_append_left _ _) (List.mem_append_right _ gone)
  · rw [line, uncounted, counts, queued]
    rw [old] at offers
    simp only [List.length_append, List.length_nil] at offers ⊢
    exact offers.trans (by omega)

theorem Lane.step {event : BridgeEvent V} {next : Bridge V} (lane : Lane channel bridge)
    (limits : event.Limits channel) (taken : bridge.step settings event = some next) :
    Lane channel next := by
  cases event with
  | turn now poll =>
    cases taken
    exact lane.turn settings now poll
  | reload config =>
    cases taken
    exact lane.reload limits
  | connected =>
    rw [Bridge.step] at taken
    split at taken
    · rename_i away
      cases taken
      refine ⟨lane.kept, lane.limits, lane.keyed, lane.apart, ?_, ?_⟩
      · simpa [Bridge.line, ahead, away, Link.update?] using lane.flow
      · simpa [Bridge.line, ahead, away, Link.update?, Bridge.suppressed, lostBy] using lane.offers
    · cases taken
  | take =>
    rw [Bridge.step] at taken
    split at taken
    · rename_i idle
      exact lane.take (by rw [idle]; rfl) taken
    · cases taken
  | sent =>
    rw [Bridge.step] at taken
    split at taken
    · rename_i update sending
      cases taken
      exact lane.sent sending
    · cases taken
  | failed =>
    rw [Bridge.step] at taken
    split at taken
    · rename_i update sending
      cases taken
      exact lane.failed sending
    · cases taken
  | closed =>
    rw [Bridge.step] at taken
    split at taken
    · rename_i idle
      cases taken
      exact lane.close (by rw [idle]; rfl)
    · rename_i broken
      cases taken
      exact lane.close (by rw [broken]; rfl)
    · cases taken

theorem start_lane {config : LiveConfig} (limits : config.Limits channel) :
    Lane channel (start config : Bridge V) := by
  have fresh : (start config : Bridge V).limiter.Kept := fun key state known => by
    simp [start, Dict.get?, Dict.empty, Dict.lookup] at known
  refine ⟨fresh, limits, fun key update found => (by cases found), rfl, ?_, rfl⟩
  exact ⟨List.Sublist.slnil, fun update none => (by cases none), fun update none => (by cases none)⟩

/-- The account of a gauge from its offers to the broker. Values may be of any type, so that
numbered ones tell the offers apart by their places. -/
structure Delivered (bridge : Bridge V) (channel : String) : Prop where
  offers : (ofChannel channel bridge.offered).length =
    (ofChannel channel bridge.sent).length + (ofChannel channel bridge.waiting).length +
      bridge.suppressed channel + (ofChannel channel (bridge.lostBy Loss.uncounted)).length
  ordered : (ofChannel channel bridge.sent ++ ofChannel channel bridge.waiting).Sublist
    (ofChannel channel bridge.offered)
  newest : ∀ update, (ofChannel channel bridge.offered).getLast? = some update →
    (ofChannel channel bridge.sent ++ ofChannel channel bridge.waiting).getLast? = some update ∨
      update ∈ bridge.lost.map Prod.fst

theorem Lane.delivered (lane : Lane channel bridge) : bridge.Delivered channel := by
  have line : bridge.line channel =
      ofChannel channel bridge.sent ++ ofChannel channel bridge.waiting := by
    rw [Bridge.line, waiting, MqttSink.queued, ahead, ofChannel_append, ofChannel_append,
      ofChannel_append, lane.apart, lane.keyed.ofChannel_limited,
      ofChannel_pendingUpdates lane.kept]
    simp
  have flow := lane.flow
  have offers := lane.offers
  rw [line] at flow offers
  rw [List.length_append] at offers
  exact ⟨offers, flow.ordered, fun update last => (flow.newest update last).imp_right And.right⟩

/-- However the loop, reloads and the broker's failures interleave: the broker gets a gauge's
values in the order they were offered, each at most once, and at any time the newest offer is
the last one sent or on its way, unless it was lost for a reason of its own; and every offer
is sent, on its way, counted as suppressed or lost without a count. -/
theorem live_values_delivered (settings : BridgeSettings V) (config : LiveConfig)
    (channel : String) (events : List (BridgeEvent V)) (final : Bridge V)
    (limits : config.Limits channel) (reloads : ∀ event ∈ events, event.Limits channel)
    (reached : Machine.run (step settings) (start config) events = some final) :
    final.Delivered channel := by
  have along : Machine.Along (step settings) (fun _ event => event.Limits channel)
      (start config) events :=
    Machine.along_of_forall events _ fun event member _ => reloads event member
  have always := Machine.always_of_along (Lane channel) (fun _ lane => lane.delivered)
    (fun _ _ _ lane allowed taken => lane.step allowed taken) events (start config)
    (start_lane limits) along
  exact always.final reached

end Bridge

/-- Zero has no JSON text, and the display of nine raises. -/
def rpmBridge : BridgeSettings Nat where
  mqttQueueSize := 1
  mqttMessage := fun update =>
    if update.value = 0 then .invalid else if update.value = 9 then .raised else .message

/-- The broker fails in its first `publish`. -/
def rpmEvents : List (BridgeEvent Nat) :=
  [.connected, .turn 0 (.message [⟨"engine.rpm", 1000, 1⟩, ⟨"engine.rpm", 1010, 2⟩]), .take,
    .turn (1 / 10) (.message [⟨"engine.rpm", 1100, 3⟩]), .failed, .turn (1 / 2) .idle, .closed,
    .connected, .turn 1 (.message [⟨"engine.rpm", 2000, 4⟩]), .take, .sent,
    .turn (11 / 10) (.message [⟨"engine.rpm", 2100, 5⟩]), .reload gaugeConfig,
    .turn 2 (.message [⟨"engine.rpm", 3000, 6⟩]), .turn 3 (.message [⟨"engine.rpm", 4000, 7⟩])]

theorem gaugeConfig_limits : gaugeConfig.Limits "engine.rpm" := ⟨2, by decide, by norm_num⟩

theorem rpm_delivered :
    ∃ final, Machine.run (Bridge.step rpmBridge) (Bridge.start gaugeConfig) rpmEvents = some final ∧
      final.Delivered "engine.rpm" ∧
      (final.sent.map LiveUpdate.value, final.waiting.map LiveUpdate.value) = ([4], [7]) := by
  have values : ((Machine.run (Bridge.step rpmBridge) (Bridge.start gaugeConfig) rpmEvents).map
      fun final => (final.sent.map LiveUpdate.value, final.waiting.map LiveUpdate.value)) =
        some ([4], [7]) := by decide +kernel
  obtain ⟨final, reached, values⟩ := Option.map_eq_some_iff.mp values
  have reloads : ∀ event ∈ rpmEvents, event.Limits "engine.rpm" := by
    simp [rpmEvents, BridgeEvent.Limits, gaugeConfig_limits]
  exact ⟨final, reached, Bridge.live_values_delivered rpmBridge gaugeConfig "engine.rpm" rpmEvents
    final gaugeConfig_limits reloads reached, values⟩

namespace MqttSink

variable {sink after : MqttSink V} {update : LiveUpdate V} {size : Nat}

theorem length_limited_set (sink : MqttSink V) (update : LiveUpdate V) :
    (sink.limited.set update.channel update).entries.length =
      sink.limited.entries.length + if sink.limited.contains update.channel then 0 else 1 := by
  cases queued : sink.limited.contains update.channel with
  | true =>
    have present := (Dict.contains_iff _ _).mp queued
    have same := congrArg List.length (Dict.keys_set update present)
    simpa [Dict.keys] using same
  | false =>
    have fresh : update.channel ∉ sink.limited.keys := fun present =>
      absurd ((Dict.contains_iff _ _).mpr present) (by simp [queued])
    simp [Dict.entries_set _ _ _ fresh]

theorem submit_counts (size : Nat) (sink : MqttSink V) (update : LiveUpdate V)
    (bounded : sink.pendingCount ≤ size) :
    (sink.submit size update).pendingCount ≤ size ∧
      (sink.submit size update).invalidValues = sink.invalidValues ∧
      (sink.submit size update).mqttDrops =
        sink.mqttDrops + if sink.refuses size update then 1 else 0 := by
  obtain ⟨refused, same⟩ | ⟨room, conflate, same⟩ | ⟨room, conflate, same⟩ :=
    submit_cases size sink update
  · rw [same, refused]
    exact ⟨bounded, rfl, rfl⟩
  · rw [same, room]
    refine ⟨?_, rfl, rfl⟩
    simp only [refuses, conflate, Bool.true_and, Bool.or_eq_false_iff] at room
    have grown := length_limited_set sink update
    simp only [pendingCount] at bounded room ⊢
    rw [grown]
    cases queued : sink.limited.contains update.channel with
    | true =>
      rw [if_pos rfl]
      exact bounded
    | false =>
      simp only [queued, Bool.not_false, Bool.true_and] at room
      have free := of_decide_eq_false room.2
      rw [if_neg Bool.false_ne_true]
      omega
  · rw [same, room]
    refine ⟨?_, rfl, rfl⟩
    simp [refuses, conflate] at room
    simp only [pendingCount, List.length_append, List.length_singleton] at room ⊢
    omega

theorem submitAll_counts (size : Nat) (sink : MqttSink V) (updates : List (LiveUpdate V))
    (bounded : sink.pendingCount ≤ size) :
    (sink.submitAll size updates).1.pendingCount ≤ size ∧
      (sink.submitAll size updates).1.invalidValues = sink.invalidValues ∧
      (sink.submitAll size updates).1.mqttDrops =
        sink.mqttDrops + (sink.submitAll size updates).2.length := by
  induction updates generalizing sink with
  | nil => exact ⟨bounded, rfl, rfl⟩
  | cons update rest ih =>
    obtain ⟨room, invalid, drops⟩ := submit_counts size sink update bounded
    obtain ⟨within, same, counted⟩ := ih (sink.submit size update) room
    rw [submitAll]
    refine ⟨within, same.trans invalid, ?_⟩
    rw [counted, drops]
    split
    · rw [List.length_cons]
      omega
    · rfl

theorem nextPending_counts (taken : sink.nextPending = some (update, after)) :
    after.pendingCount ≤ sink.pendingCount ∧ after.invalidValues = sink.invalidValues ∧
      after.mqttDrops = sink.mqttDrops := by
  unfold nextPending at taken
  split at taken
  · rename_i first rest queue
    cases taken
    exact ⟨by simp [pendingCount, queue], rfl, rfl⟩
  · cases taken
    exact ⟨Nat.add_le_add_right (List.length_filter_le _ _) _, rfl, rfl⟩
  · cases taken

end MqttSink

namespace Bridge

variable {bridge next : Bridge V} {settings : BridgeSettings V}

/-- The queue stays within its size, and the health counters say what was lost. -/
structure Counted (settings : BridgeSettings V) (bridge : Bridge V) : Prop where
  bounded : bridge.sink.pendingCount ≤ settings.mqttQueueSize
  drops : bridge.sink.mqttDrops = (bridge.lostBy Loss.mqtt).length
  invalid : bridge.sink.invalidValues = (bridge.lostBy fun why => why = .invalid).length

theorem Counted.lose {why : Loss} {updates : List (LiveUpdate V)}
    (bounded : bridge.sink.pendingCount ≤ settings.mqttQueueSize)
    (drops : bridge.sink.mqttDrops =
      (bridge.lostBy Loss.mqtt).length + if why.mqtt then updates.length else 0)
    (invalid : bridge.sink.invalidValues = (bridge.lostBy fun why => why = .invalid).length +
      if why = .invalid then updates.length else 0) :
    Counted settings (bridge.lose why updates) := by
  refine ⟨bounded, ?_, ?_⟩
  · rw [lostBy_lose, List.length_append, lose_sink, drops]
    split <;> rfl
  · rw [lostBy_lose, List.length_append, lose_sink, invalid]
    simp only [decide_eq_true_eq]
    split <;> rfl

theorem Counted.step {event : BridgeEvent V} (counted : Counted settings bridge)
    (taken : bridge.step settings event = some next) : Counted settings next := by
  obtain ⟨bounded, drops, invalid⟩ := counted
  cases event with
  | turn now poll =>
    cases taken
    obtain ⟨within, same, refused⟩ := MqttSink.submitAll_counts settings.mqttQueueSize bridge.sink
      (bridge.limiter.handle poll now).1 bounded
    refine Counted.lose within ?_ ?_
    · simp only [lose_sink, lostBy_lose, Loss.mqtt, Bool.false_eq_true, if_false, if_true,
        List.append_nil]
      rw [refused, drops]
      rfl
    · simp only [lose_sink, lostBy_lose, reduceCtorEq, decide_false, Bool.false_eq_true, if_false,
        List.append_nil]
      rw [same, invalid]
      rfl
  | reload config =>
    cases taken
    exact Counted.lose bounded drops invalid
  | connected =>
    rw [Bridge.step] at taken
    split at taken
    · cases taken
      exact ⟨bounded, drops, invalid⟩
    · cases taken
  | take =>
    rw [Bridge.step] at taken
    split at taken
    · obtain ⟨⟨update, after⟩, popped, rfl⟩ := Option.map_eq_some_iff.mp taken
      obtain ⟨fewer, same, kept⟩ := MqttSink.nextPending_counts popped
      dsimp only
      cases settings.mqttMessage update with
      | message => exact ⟨fewer.trans bounded, kept.trans drops, same.trans invalid⟩
      | invalid =>
        exact Counted.lose (fewer.trans bounded) (kept.trans drops)
          (congrArg (· + 1) (same.trans invalid))
      | raised =>
        exact Counted.lose (fewer.trans bounded) (kept.trans drops) (same.trans invalid)
    · cases taken
  | sent =>
    rw [Bridge.step] at taken
    split at taken
    · cases taken
      exact ⟨bounded, drops, invalid⟩
    · cases taken
  | failed =>
    rw [Bridge.step] at taken
    split at taken
    · cases taken
      exact Counted.lose bounded (congrArg (· + 1) drops) invalid
    · cases taken
  | closed =>
    have ended : Counted settings bridge.close := by
      obtain ⟨limited, unlimited, same, dropped, _⟩ := MqttSink.foldl_drop
        { bridge.sink with connected := false, unlimited := [], limited := .empty }
        bridge.sink.queued
      refine Counted.lose ?_ (dropped.trans (congrArg (· + _) drops)) (same.trans invalid)
      have empty : bridge.close.sink.pendingCount = 0 := by
        rw [MqttSink.pendingCount, show bridge.close.sink.limited = .empty from limited,
          show bridge.close.sink.unlimited = [] from unlimited]
        rfl
      exact empty.le.trans (Nat.zero_le _)
    rw [Bridge.step] at taken
    split at taken
    · cases taken
      exact ended
    · cases taken
      exact ended
    · cases taken

/-- In every run the queue to the broker is bounded, and `mqtt_drops` and `invalid_values` are
the numbers of updates lost for those reasons. -/
theorem live_losses_counted (settings : BridgeSettings V) (config : LiveConfig)
    (events : List (BridgeEvent V)) (final : Bridge V)
    (reached : Machine.run (step settings) (start config) events = some final) :
    Counted settings final :=
  Machine.run_invariant (Counted settings) (fun _ _ _ counted taken => counted.step taken) events
    (start config) final ⟨Nat.zero_le _, rfl, rfl⟩ reached

end Bridge

def lossEvents : List (BridgeEvent Nat) :=
  [.connected, .turn 0 (.message [⟨"engine.rpm", 1000, 0⟩]), .take,
    .turn 1 (.message [⟨"engine.rpm", 2000, 9⟩]), .take,
    .turn 2 (.message [⟨"engine.rpm", 3000, 3⟩]), .closed,
    .turn 3 (.message [⟨"engine.rpm", 4000, 4⟩])]

theorem rpm_losses_counted :
    ∃ final, Machine.run (Bridge.step rpmBridge) (Bridge.start gaugeConfig) lossEvents = some final ∧
      Bridge.Counted rpmBridge final ∧ (final.sink.invalidValues, final.sink.mqttDrops) = (1, 2) ∧
      final.lost.map Prod.snd = [.invalid, .raised, .dropped, .refused] := by
  have counts : ((Machine.run (Bridge.step rpmBridge) (Bridge.start gaugeConfig) lossEvents).map
      fun final => ((final.sink.invalidValues, final.sink.mqttDrops), final.lost.map Prod.snd)) =
        some ((1, 2), [.invalid, .raised, .dropped, .refused]) := by decide +kernel
  obtain ⟨final, reached, counts⟩ := Option.map_eq_some_iff.mp counts
  obtain ⟨numbers, reasons⟩ := Prod.mk.inj counts
  exact ⟨final, reached,
    Bridge.live_losses_counted rpmBridge gaugeConfig lossEvents final reached, numbers, reasons⟩

end OpenLaps.LiveDecoder

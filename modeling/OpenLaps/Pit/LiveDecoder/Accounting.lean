import OpenLaps.Pit.LiveDecoder.Simulation

universe u

/- Every offer to a limited channel is published, suppressed or pending, and what is
published is the newest offer. -/
namespace OpenLaps.LiveDecoder

variable {V : Type u}

def Event.channel : Event V → String
  | .offered update => update.channel
  | .published _ update => update.channel

def Event.offer? : Event V → Option (LiveUpdate V)
  | .offered update => some update
  | .published .. => none

def Event.publishedAt? : Event V → Option ℚ
  | .offered _ => none
  | .published now _ => some now

/-- What happened to one channel. -/
def channelLog (channel : String) (log : List (Event V)) : List (Event V) :=
  log.filter fun event => event.channel = channel

def offersIn (log : List (Event V)) : List (LiveUpdate V) := log.filterMap Event.offer?

def publishedTimes (log : List (Event V)) : List ℚ := log.filterMap Event.publishedAt?

/-- Every publication in a log is of the newest offer before it. -/
def ShowsNewest (log : List (Event V)) : Prop :=
  ∀ before now update after, log = before ++ .published now update :: after →
    (offersIn before).getLast? = some update

/-- What a turn adds to the log of a gauge's channel. -/
def turnLog (now : ℚ) (offers : List (LiveUpdate V)) (shown : Option (LiveUpdate V)) :
    List (Event V) :=
  offers.map .offered ++ shown.toList.map (.published now)

/-- The account of a gauge over the log of its channel. -/
structure Gauge.Accounted (gauge : Gauge V) (log : List (Event V)) : Prop where
  offers : (offersIn log).length =
    gauge.published + gauge.suppressed + gauge.pending.toList.length
  shows : (publishedTimes log).length = gauge.published
  holds : ∀ update, gauge.pending = some update → log.getLast? = some (.offered update)
  newest : ShowsNewest log

variable {gauge : Gauge V} {log : List (Event V)} {offers : List (LiveUpdate V)}
  {shown : Option (LiveUpdate V)} {interval now : ℚ} {update : LiveUpdate V}

@[simp] theorem offersIn_append (log more : List (Event V)) :
    offersIn (log ++ more) = offersIn log ++ offersIn more := List.filterMap_append

@[simp] theorem publishedTimes_append (log more : List (Event V)) :
    publishedTimes (log ++ more) = publishedTimes log ++ publishedTimes more :=
  List.filterMap_append

@[simp] theorem offersIn_offered (updates : List (LiveUpdate V)) :
    offersIn (updates.map .offered) = updates := by
  unfold offersIn
  rw [List.filterMap_map]
  exact List.filterMap_some

@[simp] theorem publishedTimes_offered (updates : List (LiveUpdate V)) :
    publishedTimes (updates.map .offered) = [] := by
  unfold publishedTimes
  rw [List.filterMap_map, List.filterMap_eq_nil_iff]
  exact fun _ _ => rfl

@[simp] theorem offersIn_turnLog (now : ℚ) (offers : List (LiveUpdate V))
    (shown : Option (LiveUpdate V)) : offersIn (turnLog now offers shown) = offers := by
  unfold turnLog
  rw [offersIn_append, offersIn_offered]
  cases shown <;> simp [offersIn, Event.offer?]

@[simp] theorem publishedTimes_turnLog (now : ℚ) (offers : List (LiveUpdate V))
    (shown : Option (LiveUpdate V)) :
    publishedTimes (turnLog now offers shown) = shown.toList.map fun _ => now := by
  unfold turnLog
  rw [publishedTimes_append, publishedTimes_offered]
  cases shown <;> simp [publishedTimes, Event.publishedAt?]

theorem ShowsNewest.offer (shows : ShowsNewest log) (offers : List (LiveUpdate V)) :
    ShowsNewest (log ++ offers.map .offered) := by
  intro before now update after split
  have foreign : Event.published now update ∉ offers.map Event.offered := by simp
  obtain ⟨rest, _, within⟩ | ⟨rest, outside, later⟩ := List.append_eq_append_iff.1 split
  · rw [within] at foreign
    simp at foreign
  · cases rest with
    | nil =>
      rw [List.nil_append] at later
      rw [← later] at foreign
      simp at foreign
    | cons first rest =>
      rw [List.cons_append, List.cons.injEq] at later
      exact shows before now update rest (by rw [outside, later.1])

theorem ShowsNewest.publish (shows : ShowsNewest log) (now : ℚ)
    (newest : (offersIn log).getLast? = some update) :
    ShowsNewest (log ++ [.published now update]) := by
  intro before time other after split
  cases after using List.reverseRecOn with
  | nil =>
    obtain ⟨same, last⟩ := List.append_inj' split rfl
    simp only [List.cons.injEq, Event.published.injEq] at last
    rw [← same, ← last.1.2]
    exact newest
  | append_singleton after last _ =>
    have grouped : log ++ [.published now update] =
        (before ++ .published time other :: after) ++ [last] := by
      rw [split, List.append_assoc, List.cons_append]
    exact shows before time other after (List.append_inj' grouped rfl).1

theorem newest_held (holds : ∀ update, gauge.pending = some update →
    log.getLast? = some (.offered update)) (newest : gauge.newest offers = some update) :
    (log ++ offers.map Event.offered).getLast? = some (.offered update) := by
  unfold Gauge.newest at newest
  rw [List.getLast?_append, List.getLast?_map]
  cases last : offers.getLast? with
  | none =>
    rw [last, Option.none_or] at newest
    simpa using holds update newest
  | some final =>
    rw [last, Option.some_or, Option.some.injEq] at newest
    simp [newest]

theorem offersIn_of_getLast? (last : log.getLast? = some (.offered update)) :
    (offersIn log).getLast? = some update := by
  obtain ⟨before, split⟩ := List.getLast?_eq_some_iff.1 last
  simp [split, offersIn, Event.offer?]

theorem displaced_balance (gauge : Gauge V) (offers : List (LiveUpdate V)) :
    gauge.displaced offers + (gauge.newest offers).toList.length =
      gauge.pending.toList.length + offers.length := by
  unfold Gauge.displaced
  by_cases empty : offers = []
  · simp [empty, Gauge.newest]
  · obtain ⟨update, _, newest⟩ := newest_offered gauge empty
    have counted := List.length_pos_iff.2 empty
    simp only [newest, Option.toList_some, List.length_singleton]
    omega

/-- A turn keeps the account, with what it was offered and what it shows. -/
theorem Gauge.Accounted.turn (accounted : gauge.Accounted log) (interval now : ℚ)
    (offers : List (LiveUpdate V)) (admitted : Bool) :
    (gauge.turn interval now offers admitted).1.Accounted
      (log ++ turnLog now offers (gauge.turn interval now offers admitted).2) := by
  have counted := accounted.offers
  have shows := accounted.shows
  have balance := displaced_balance gauge offers
  unfold Gauge.turn
  cases due : isDue gauge.nextDue now with
  | false =>
    refine ⟨?_, by simpa using shows, ?_, ?_⟩
    · simp
      omega
    · intro update newest
      simpa [turnLog] using newest_held accounted.holds newest
    · simpa [turnLog] using accounted.newest.offer offers
  | true =>
    cases newest : gauge.newest offers with
    | none =>
      have held : gauge.pending = none ∧ offers = [] := by
        simpa [Gauge.newest, and_comm] using newest
      refine ⟨?_, by simpa [held] using shows, ?_, ?_⟩
      · simpa [held] using counted
      · simp [held]
      · simpa [turnLog, held] using accounted.newest
    | some update =>
      rw [newest] at balance
      cases admitted with
      | false =>
        refine ⟨?_, by simpa using shows, by simp, ?_⟩
        · simp at balance ⊢
          omega
        · simpa [turnLog] using accounted.newest.offer offers
      | true =>
        refine ⟨?_, by simpa using shows, by simp, ?_⟩
        · simp at balance ⊢
          omega
        · have last := offersIn_of_getLast? (newest_held accounted.holds newest)
          simpa [turnLog] using (accounted.newest.offer offers).publish now last

/-- What a turn adds to the log of a channel. -/
theorem channelLog_turn (run : Run V) (event : ℚ × Poll V) (channel : String) :
    channelLog channel (run.turn event).log = channelLog channel run.log ++
      ((ofChannel channel (event.2.offers run.limiter.config)).map .offered ++
        (ofChannel channel (run.limiter.handle event.2 event.1).1).map (.published event.1)) := by
  simp only [Run.turn, channelLog, ofChannel, List.filter_append, List.filter_map]
  rfl

theorem consume_append (config : LiveConfig) (polls : List (ℚ × Poll V)) (event : ℚ × Poll V) :
    Run.consume config (polls ++ [event]) = (Run.consume config polls).turn event := by
  simp [Run.consume, List.foldl_append]

theorem consume_kept (config : LiveConfig) (polls : List (ℚ × Poll V)) :
    (Run.consume config polls).limiter.Kept ∧
      (Run.consume config polls).limiter.config = config := by
  induction polls using List.reverseRecOn with
  | nil =>
    refine ⟨?_, rfl⟩
    intro channel state known
    simp [Run.consume, Dict.get?, Dict.empty, Dict.lookup] at known
  | append_singleton polls event ih =>
    rw [consume_append]
    exact ⟨handle_kept ih.1 event.2 event.1, by simpa [Run.turn] using ih.2⟩

/-- A turn of the loop, seen from a limited channel. -/
theorem consume_turn {config : LiveConfig} {channel : String} {maxHz : ℚ}
    (rate : config.maxHzFor channel = some maxHz) (positive : 0 < maxHz)
    (polls : List (ℚ × Poll V)) (event : ℚ × Poll V) :
    ∃ admitted,
      let turned := ((Run.consume config polls).limiter.gauge channel).turn (1 / maxHz) event.1
        (ofChannel channel (event.2.offers config)) admitted
      (Run.consume config (polls ++ [event])).limiter.gauge channel = turned.1 ∧
      ofChannel channel ((Run.consume config polls).limiter.handle event.2 event.1).1 =
        turned.2.toList ∧
      channelLog channel (Run.consume config (polls ++ [event])).log =
        channelLog channel (Run.consume config polls).log ++
          turnLog event.1 (ofChannel channel (event.2.offers config)) turned.2 := by
  obtain ⟨kept, same⟩ := consume_kept config polls
  have turned := handle_turn kept (by rw [same]; exact rate) positive event.2 event.1
  rw [same] at turned
  obtain ⟨admitted, turned⟩ := turned
  rw [Prod.mk.injEq] at turned
  refine ⟨admitted, ?_, turned.2, ?_⟩
  · rw [consume_append]
    exact turned.1
  · rw [consume_append, channelLog_turn, same, turned.2]
    rfl

theorem consume_accounted {config : LiveConfig} {channel : String} {maxHz : ℚ}
    (rate : config.maxHzFor channel = some maxHz) (positive : 0 < maxHz)
    (polls : List (ℚ × Poll V)) :
    ((Run.consume config polls).limiter.gauge channel).Accounted
      (channelLog channel (Run.consume config polls).log) := by
  induction polls using List.reverseRecOn with
  | nil =>
    refine ⟨rfl, rfl, ?_, ?_⟩
    · intro update held
      simp [Run.consume, Limiter.gauge, Dict.get?, Dict.empty, Dict.lookup] at held
    · intro before now update after split
      simp [Run.consume, channelLog] at split
  | append_singleton polls event ih =>
    obtain ⟨admitted, gauge, _, log⟩ := consume_turn rate positive polls event
    rw [gauge, log]
    exact ih.turn (1 / maxHz) event.1 (ofChannel channel (event.2.offers config)) admitted

/-- The update of a channel that waits for its time. -/
def Limiter.pendingOf (limiter : Limiter V) (channel : String) : Option (LiveUpdate V) :=
  (limiter.states.get? channel).bind ChannelState.pending

/-- After every turn of the loop, each offer of a limited channel is published, suppressed or
pending; a pending update is the last event of its channel; and each publication is of the
newest offer before it. -/
theorem live_updates_accounted (config : LiveConfig) (polls : List (ℚ × Poll V))
    (channel : String) (maxHz : ℚ) (rate : config.maxHzFor channel = some maxHz)
    (positive : 0 < maxHz) :
    let limiter := (Run.consume config polls).limiter
    let log := channelLog channel (Run.consume config polls).log
    (offersIn log).length = count limiter.published channel + count limiter.suppressed channel +
        (limiter.pendingOf channel).toList.length ∧
      (publishedTimes log).length = count limiter.published channel ∧
      (∀ update, limiter.pendingOf channel = some update →
        log.getLast? = some (.offered update)) ∧
      ShowsNewest log := by
  have accounted := consume_accounted rate positive polls
  exact ⟨accounted.offers, accounted.shows, accounted.holds, accounted.newest⟩

def gaugeConfig : LiveConfig where
  channels := [⟨"engine.*", some 2, by decide, by
    intro rate same
    rw [Option.some.injEq] at same
    rw [← same]
    decide⟩]
  nonEmpty := by decide

def rpmPolls : List (ℚ × Poll Nat) :=
  [(0, .message [⟨"engine.rpm", 1000, 1⟩, ⟨"engine.rpm", 1010, 2⟩]),
    (1 / 10, .message [⟨"engine.rpm", 1100, 3⟩]), (1 / 5, .message [⟨"engine.rpm", 1200, 4⟩]),
    (1 / 2, .idle)]

theorem rpm_accounted :
    let limiter := (Run.consume gaugeConfig rpmPolls).limiter
    let log := channelLog "engine.rpm" (Run.consume gaugeConfig rpmPolls).log
    (offersIn log).length = count limiter.published "engine.rpm" +
        count limiter.suppressed "engine.rpm" +
        (limiter.pendingOf "engine.rpm").toList.length ∧
      (publishedTimes log).length = count limiter.published "engine.rpm" ∧
      (∀ update, limiter.pendingOf "engine.rpm" = some update →
        log.getLast? = some (.offered update)) ∧
      ShowsNewest log :=
  live_updates_accounted gaugeConfig rpmPolls "engine.rpm" 2 (by decide) (by norm_num)

end OpenLaps.LiveDecoder

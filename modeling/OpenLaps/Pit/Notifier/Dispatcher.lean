import Mathlib.Algebra.GroupWithZero.Nat
import OpenLaps.Pit.Notifier.DeliveryOrder

/- The dispatcher with its counters: what is attempted is delivered, failed, expired or
still waiting. -/
namespace OpenLaps.Notifier

structure DispatchStats where
  delivered : Nat
  failed : Nat
  expired : Nat
  perChannel : Dict String Nat

/-- The counters after a call of `deliver`. -/
def DispatchStats.count (stats : DispatchStats) (slot : Slot) : Outcome → DispatchStats
  | .delivered => { stats with
      delivered := stats.delivered + 1
      perChannel := stats.perChannel.set slot.1.name
        ((stats.perChannel.get? slot.1.name).getD 0 + 1) }
  | .retryable => stats
  | .broken => { stats with failed := stats.failed + 1 }

/-- One call of `deliver`: for which message, when it was made, and the deadline of the
message where it is a retry. -/
structure Attempt where
  number : Nat
  started : ℚ
  deadline : Option ℚ
deriving DecidableEq, Repr

/-- `Dispatcher`, with the book it is given. The calls, the deadlines set at first
failures and the messages given up, with the time, are kept for the proofs. -/
structure Dispatcher where
  service : Service
  stats : DispatchStats
  attempts : List Attempt
  deadlines : List (Nat × ℚ)
  givenUp : List (Nat × ℚ)

def Dispatcher.new (heartbeatRule : String) : Dispatcher :=
  { service := .new heartbeatRule 0, stats := ⟨0, 0, 0, .empty⟩, attempts := [], deadlines := [],
    givenUp := [] }

/-- `deadline or now`. -/
def firstDeadline (config : Config) (now : ℚ) : ℚ :=
  if now + config.retryDeadlineS = 0 then now else now + config.retryDeadlineS

section Calls

variable (config : Config) (world : World) (started : Nat → ℚ)

/-- `_attempt`: the first attempt at a new message. -/
def Dispatcher.attempt (dispatcher : Dispatcher) (slot : Slot) (message : Message) :
    Bool × Dispatcher :=
  let service := dispatcher.service
  let result := service.attempt config world slot message
  (result.1,
    { dispatcher with
      service := result.2
      stats := dispatcher.stats.count slot (world.outcome service.calls)
      attempts := dispatcher.attempts ++ [⟨service.created, started service.calls, none⟩]
      deadlines := match world.outcome service.calls with
        | .retryable => dispatcher.deadlines ++
            [(service.created, firstDeadline config (world.monotonic service.calls))]
        | _ => dispatcher.deadlines })

/-- The dispatcher with another book. -/
def Dispatcher.withBook (dispatcher : Dispatcher) (book : AlertBook) : Dispatcher :=
  { dispatcher with service := { dispatcher.service with book := book } }

/-- One turn of the loop of `announce`. -/
def Dispatcher.announceOn (event : Event) (dispatcher : Dispatcher) (slot : Slot) : Dispatcher :=
  if wants slot event.alert.severity then
    let result := dispatcher.attempt config world started slot (render event)
    if result.1 then
      result.2.withBook
        (noteNotified result.2.service.book event.alert.fingerprint slot.1.name event.at_)
    else result.2
  else dispatcher

def Dispatcher.announce (dispatcher : Dispatcher) (event : Event) : Dispatcher :=
  config.slots.foldl (Dispatcher.announceOn config world started event) dispatcher

/-- One turn of the inner loop of `repeat_due`. -/
def Dispatcher.repeatOn (now : ℚ) (fingerprint : String) (dispatcher : Dispatcher) (slot : Slot) :
    Dispatcher :=
  match dispatcher.service.book.active.get? fingerprint, slot.1.repeatS with
  | some entry, some every =>
    if wants slot entry.alert.severity && Notifier.repeatDue entry slot every now then
      let result := dispatcher.attempt config world started slot
        (render (.of .repeat entry.alert now))
      result.2.withBook
        { result.2.service.book with
          active := result.2.service.book.active.set fingerprint
            (entry.repeated slot now result.1) }
    else dispatcher
  | _, _ => dispatcher

def Dispatcher.repeatDue (dispatcher : Dispatcher) (now : ℚ) : Dispatcher :=
  dispatcher.service.book.unacknowledged.foldl
    (fun dispatcher entry =>
      config.slots.foldl (Dispatcher.repeatOn config world started now entry.1) dispatcher) dispatcher

/-- `_retry` of one message, while `later` are still to be retried. -/
def Dispatcher.retry (dispatcher : Dispatcher) (item : Pending) (later : List Pending) : Dispatcher :=
  { dispatcher with
    service := dispatcher.service.retry world item later
    stats := dispatcher.stats.count item.slot (world.outcome dispatcher.service.calls)
    attempts := dispatcher.attempts ++
      [⟨item.number, started dispatcher.service.calls, some item.deadline⟩] }

/-- The message is past its deadline. -/
def Dispatcher.giveUp (dispatcher : Dispatcher) (item : Pending) (now : ℚ) : Dispatcher :=
  { dispatcher with
    stats := { dispatcher.stats with expired := dispatcher.stats.expired + 1 }
    givenUp := dispatcher.givenUp ++ [(item.number, now)] }

/-- The loop of `pump`, with the clock as it was read before. -/
def Dispatcher.pumpLoop (now : ℚ) : List Pending → Dispatcher → Dispatcher
  | [], dispatcher => dispatcher
  | item :: later, dispatcher =>
    if item.deadline < now then pumpLoop now later (dispatcher.giveUp item now)
    else pumpLoop now later (dispatcher.retry world started item later)

end Calls

/-- `==` of two pending messages. -/
def Pending.same (item other : Pending) : Bool :=
  item.slot = other.slot && item.message = other.message && item.attempts = other.attempts &&
    item.dueAt = other.dueAt && item.deadline = other.deadline

/-- `queue.remove(item)` for each item that is due. -/
def removeAll (due queue : List Pending) : List Pending :=
  due.foldl (fun queue item => queue.eraseP item.same) queue

def Dispatcher.pump (world : World) (started : Nat → ℚ) (dispatcher : Dispatcher) (now : ℚ) :
    Dispatcher :=
  let due := dispatcher.service.queue.filter fun item => item.dueAt ≤ now
  Dispatcher.pumpLoop world started now due
    { dispatcher with
      service := { dispatcher.service with queue := removeAll due dispatcher.service.queue } }

/-- The calls a dispatcher takes, each with the book it is given. -/
inductive Call where
  | announce (event : Event) (book : AlertBook)
  | repeatDue (book : AlertBook) (now : ℚ)
  | pump (now : ℚ)

def Dispatcher.step (config : Config) (world : World) (started : Nat → ℚ) (dispatcher : Dispatcher) :
    Call → Option Dispatcher
  | .announce event book => some ((dispatcher.withBook book).announce config world started event)
  | .repeatDue book now => some ((dispatcher.withBook book).repeatDue config world started now)
  | .pump now => some (dispatcher.pump world started now)

theorem same_self (item : Pending) : item.same item = true := by
  simp [Pending.same]

theorem removeAll_cons {due : List Pending} {item : Pending} (queue : List Pending)
    (other : ∀ one ∈ due, one.same item = false) :
    removeAll due (item :: queue) = item :: removeAll due queue := by
  induction due generalizing queue with
  | nil => rfl
  | cons one rest ih =>
    obtain ⟨here, later⟩ := List.forall_mem_cons.mp other
    unfold removeAll
    rw [List.foldl_cons, List.foldl_cons, List.eraseP_cons_of_neg (by rw [here]; decide)]
    exact ih _ later

/-- Removing what is due by equality takes out all that is due, and nothing else. -/
theorem removeAll_due (now : ℚ) (queue : List Pending) :
    removeAll (queue.filter fun item => item.dueAt ≤ now) queue =
      queue.filter fun item => ¬item.dueAt ≤ now := by
  induction queue with
  | nil => rfl
  | cons item rest ih =>
    by_cases due : item.dueAt ≤ now
    · rw [List.filter_cons_of_pos (by simpa using due), List.filter_cons_of_neg (by simpa using due)]
      unfold removeAll
      rw [List.foldl_cons, List.eraseP_cons_of_pos (same_self item)]
      exact ih
    · rw [List.filter_cons_of_neg (by simpa using due), List.filter_cons_of_pos (by simpa using due),
        removeAll_cons, ih]
      intro one member
      have early : one.dueAt ≤ now := of_decide_eq_true (List.mem_filter.mp member).2
      have apart : one.dueAt ≠ item.dueAt := by
        intro equal
        exact due (equal ▸ early)
      simp [Pending.same, apart]

/-- The numbers of the messages that came to an outcome. -/
def Service.ended (service : Service) (outcome : Outcome) : List Nat :=
  (service.deliveries.filter fun delivery => delivery.outcome = outcome).map Delivery.number

/-- Every message is in one place: waiting, in the queue or among the `later` ones of a
pump, delivered, failed, or expired. The counters count the places, and a deadline is that
of the first failure. -/
structure Dispatcher.Sound (later : List Pending) (dispatcher : Dispatcher) : Prop where
  places : ((dispatcher.service.queue ++ later).map Pending.number ++
    dispatcher.service.ended .delivered ++ dispatcher.service.ended .broken ++
    dispatcher.givenUp.map Prod.fst).Perm (List.range dispatcher.service.created)
  delivered : dispatcher.stats.delivered = (dispatcher.service.ended .delivered).length
  failed : dispatcher.stats.failed = (dispatcher.service.ended .broken).length
  expired : dispatcher.stats.expired = dispatcher.givenUp.length
  channels : dispatcher.stats.delivered = (dispatcher.stats.perChannel.entries.map Prod.snd).sum
  attempted : dispatcher.attempts.countP (fun attempt => attempt.deadline.isNone) =
    dispatcher.service.created
  stamped : ∀ item ∈ dispatcher.service.queue ++ later,
    (item.number, item.deadline) ∈ dispatcher.deadlines
  known : ∀ entry ∈ dispatcher.deadlines, entry.1 < dispatcher.service.created
  single : (dispatcher.deadlines.map Prod.fst).Nodup
  late : ∀ entry ∈ dispatcher.givenUp, ∃ deadline, (entry.1, deadline) ∈ dispatcher.deadlines ∧
    deadline < entry.2
  retried : ∀ attempt ∈ dispatcher.attempts, ∀ deadline, attempt.deadline = some deadline →
    (attempt.number, deadline) ∈ dispatcher.deadlines

theorem sum_assign (entries : List (String × Nat)) (name : String) :
    ((Dict.assign entries name ((Dict.lookup entries name).getD 0 + 1)).map Prod.snd).sum =
      (entries.map Prod.snd).sum + 1 := by
  induction entries with
  | nil => rfl
  | cons entry rest ih =>
    unfold Dict.assign Dict.lookup
    split
    · rw [List.map_cons, List.map_cons, List.sum_cons, List.sum_cons]
      show entry.2 + 1 + _ = _
      omega
    · rw [List.map_cons, List.map_cons, List.sum_cons, List.sum_cons, ih]
      omega

theorem count_channels {stats : DispatchStats}
    (channels : stats.delivered = (stats.perChannel.entries.map Prod.snd).sum) (slot : Slot)
    (outcome : Outcome) :
    (stats.count slot outcome).delivered =
      ((stats.count slot outcome).perChannel.entries.map Prod.snd).sum := by
  cases outcome with
  | delivered => exact (congrArg (· + 1) channels).trans (sum_assign _ _).symm
  | retryable => exact channels
  | broken => exact channels

/-- One call more in the log. -/
theorem ended_append {service after : Service} {delivery : Delivery}
    (called : after.deliveries = service.deliveries ++ [delivery]) (outcome : Outcome) :
    after.ended outcome =
      service.ended outcome ++ if delivery.outcome = outcome then [delivery.number] else [] := by
  unfold Service.ended
  rw [called, List.filter_append, List.map_append]
  by_cases here : delivery.outcome = outcome
  · simp [here]
  · simp [here]

section Soundness

variable (config : Config) (world : World) (started : Nat → ℚ) {dispatcher : Dispatcher}
  {later : List Pending}

theorem count_stats (sound : dispatcher.Sound later) {after : Service} {delivery : Delivery}
    (called : after.deliveries = dispatcher.service.deliveries ++ [delivery]) (slot : Slot) :
    (dispatcher.stats.count slot delivery.outcome).delivered = (after.ended .delivered).length ∧
      (dispatcher.stats.count slot delivery.outcome).failed = (after.ended .broken).length ∧
      (dispatcher.stats.count slot delivery.outcome).expired = dispatcher.givenUp.length := by
  rw [ended_append called, ended_append called, List.length_append, List.length_append,
    ← sound.delivered, ← sound.failed, ← sound.expired]
  cases delivery.outcome <;> exact ⟨rfl, rfl, rfl⟩

/-- The places after a call about one message, which waits again or has come to an end. -/
theorem places_call {waiting waiting' : List Pending} {service after : Service} {delivery : Delivery}
    {gone : List Nat} {created : Nat}
    (places : (delivery.number :: waiting.map Pending.number ++ service.ended .delivered ++
      service.ended .broken ++ gone).Perm (List.range created))
    (called : after.deliveries = service.deliveries ++ [delivery])
    (queued : waiting'.map Pending.number = waiting.map Pending.number ∧
        delivery.outcome ≠ .retryable ∨
      (waiting'.map Pending.number).Perm (delivery.number :: waiting.map Pending.number) ∧
        delivery.outcome = .retryable) :
    (waiting'.map Pending.number ++ after.ended .delivered ++ after.ended .broken ++ gone).Perm
      (List.range created) := by
  refine List.Perm.trans ?_ places
  rw [ended_append called, ended_append called]
  apply List.perm_iff_count.mpr
  intro number
  rcases queued with ⟨same, ended⟩ | ⟨same, again⟩
  · rw [same]
    cases here : delivery.outcome with
    | delivered =>
      simp only [List.count_append, List.count_cons, List.cons_append, List.count_nil, if_true,
        reduceCtorEq, if_false]
      omega
    | retryable => exact absurd here ended
    | broken =>
      simp only [List.count_append, List.count_cons, List.cons_append, List.count_nil, if_true,
        reduceCtorEq, if_false]
      omega
  · rw [again]
    simp only [List.count_append, List.cons_append, List.count_nil, reduceCtorEq, if_false,
      same.count_eq, List.count_cons]
    omega

/-- Where a first attempt leaves its message. -/
theorem attempt_queue (dispatcher : Dispatcher) (slot : Slot) (message : Message) :
    let after := (dispatcher.attempt config world started slot message).2
    (world.outcome dispatcher.service.calls ≠ .retryable ∧
        after.service.queue = dispatcher.service.queue ∧ after.deadlines = dispatcher.deadlines) ∨
      (world.outcome dispatcher.service.calls = .retryable ∧ ∃ item,
        item.number = dispatcher.service.created ∧
        after.service.queue = dispatcher.service.queue ++ [item] ∧
        after.deadlines = dispatcher.deadlines ++ [(dispatcher.service.created, item.deadline)]) := by
  cases outcome : world.outcome dispatcher.service.calls with
  | delivered => simp [Dispatcher.attempt, Service.attempt, Service.deliver, outcome]
  | retryable => simp [Dispatcher.attempt, Service.attempt, Service.deliver, firstDeadline, outcome]
  | broken => simp [Dispatcher.attempt, Service.attempt, Service.deliver, outcome]

/-- Where a retry leaves its message. -/
theorem retry_queue (dispatcher : Dispatcher) (item : Pending) (later : List Pending) :
    let after := (dispatcher.retry world started item later).service
    (world.outcome dispatcher.service.calls ≠ .retryable ∧ after.queue = dispatcher.service.queue) ∨
      (world.outcome dispatcher.service.calls = .retryable ∧ ∃ again : Pending,
        again.number = item.number ∧ again.deadline = item.deadline ∧
        after.queue = dispatcher.service.queue ++ [again]) := by
  cases outcome : world.outcome dispatcher.service.calls with
  | delivered => simp [Dispatcher.retry, Service.retry, Service.deliver, outcome]
  | retryable => simp [Dispatcher.retry, Service.retry, Service.deliver, outcome]
  | broken => simp [Dispatcher.retry, Service.retry, Service.deliver, outcome]

theorem attempt_sound (sound : dispatcher.Sound []) (slot : Slot) (message : Message) :
    (dispatcher.attempt config world started slot message).2.Sound [] := by
  obtain ⟨-, created, called, -⟩ := attempt_spec config world dispatcher.service slot message
  have stats := count_stats sound called slot
  have places : (dispatcher.service.created :: dispatcher.service.queue.map Pending.number ++
      dispatcher.service.ended .delivered ++ dispatcher.service.ended .broken ++
      dispatcher.givenUp.map Prod.fst).Perm (List.range (dispatcher.service.created + 1)) := by
    rw [List.range_succ]
    have before := sound.places
    rw [List.append_nil] at before
    exact (before.cons _).trans (List.perm_append_singleton _ _).symm
  have queue := attempt_queue config world started dispatcher slot message
  dsimp only at queue
  have more : ∀ entry ∈ dispatcher.deadlines,
      entry ∈ (dispatcher.attempt config world started slot message).2.deadlines := by
    intro entry member
    rcases queue with ⟨_, _, same⟩ | ⟨_, item, _, _, one⟩
    · rwa [same]
    · rw [one]
      exact List.mem_append_left _ member
  refine ⟨?_, stats.1, stats.2.1, stats.2.2, count_channels sound.channels slot _, ?_, ?_, ?_, ?_, ?_, ?_⟩
  · show (((dispatcher.attempt config world started slot message).2.service.queue ++ []).map
      Pending.number ++ _ ++ _ ++ _).Perm
        (List.range (dispatcher.service.attempt config world slot message).2.created)
    rw [List.append_nil, created]
    apply places_call places called
    rcases queue with ⟨ended, same, _⟩ | ⟨again, item, number, one, _⟩
    · exact .inl ⟨by rw [same], ended⟩
    · refine .inr ⟨?_, again⟩
      rw [one, List.map_append, List.map_singleton, number]
      exact List.perm_append_singleton _ _
  · show (dispatcher.attempts ++ [_]).countP _ =
      (dispatcher.service.attempt config world slot message).2.created
    rw [List.countP_append, sound.attempted, created]
    rfl
  · intro item member
    rw [List.append_nil] at member
    rcases queue with ⟨_, same, deadlines⟩ | ⟨_, fresh, number, one, deadlines⟩
    · rw [deadlines]
      rw [same] at member
      exact sound.stamped item (by rwa [List.append_nil])
    · rw [deadlines]
      rw [one] at member
      rcases List.mem_append.mp member with before | here
      · exact List.mem_append_left _ (sound.stamped item (by rwa [List.append_nil]))
      · rw [List.mem_singleton.mp here, number]
        exact List.mem_append_right _ List.mem_cons_self
  · intro entry member
    show entry.1 < (dispatcher.service.attempt config world slot message).2.created
    rw [created]
    rcases queue with ⟨_, _, deadlines⟩ | ⟨_, fresh, _, _, deadlines⟩
    · rw [deadlines] at member
      have bound := sound.known entry member
      omega
    · rw [deadlines] at member
      rcases List.mem_append.mp member with before | here
      · have bound := sound.known entry before
        omega
      · rw [List.mem_singleton.mp here]
        exact Nat.lt_succ_self _
  · rcases queue with ⟨_, _, deadlines⟩ | ⟨_, fresh, _, _, deadlines⟩
    · rw [deadlines]
      exact sound.single
    · rw [deadlines, List.map_append]
      apply sound.single.append (List.nodup_singleton _)
      intro number member here
      obtain ⟨entry, listed, same⟩ := List.mem_map.mp member
      have bound := sound.known entry listed
      rw [same, List.mem_singleton.mp here] at bound
      exact Nat.lt_irrefl _ bound
  · intro entry member
    obtain ⟨deadline, listed, passed⟩ := sound.late entry member
    exact ⟨deadline, more _ listed, passed⟩
  · intro attempt member deadline set
    rcases List.mem_append.mp member with before | here
    · exact more _ (sound.retried attempt before deadline set)
    · rw [List.mem_singleton.mp here] at set
      cases set

theorem retry_sound {item : Pending} (sound : dispatcher.Sound (item :: later)) :
    (dispatcher.retry world started item later).Sound later := by
  obtain ⟨-, created, called, -⟩ := retry_spec world dispatcher.service item later
  have stats := count_stats sound called item.slot
  have ticket := sound.stamped item (by simp)
  have places : (item.number :: (dispatcher.service.queue ++ later).map Pending.number ++
      dispatcher.service.ended .delivered ++ dispatcher.service.ended .broken ++
      dispatcher.givenUp.map Prod.fst).Perm (List.range dispatcher.service.created) := by
    refine List.Perm.trans ?_ sound.places
    apply List.perm_iff_count.mpr
    intro number
    simp only [List.map_append, List.map_cons, List.count_append, List.count_cons, List.cons_append]
    omega
  have queue := retry_queue world started dispatcher item later
  dsimp only at queue
  refine ⟨?_, stats.1, stats.2.1, stats.2.2, count_channels sound.channels item.slot _, ?_, ?_, ?_,
    sound.single, sound.late, ?_⟩
  · rw [show (dispatcher.retry world started item later).service.created =
      dispatcher.service.created from created]
    apply places_call places called
    rcases queue with ⟨ended, same⟩ | ⟨again, one, number, _, queued⟩
    · exact .inl ⟨by rw [same], ended⟩
    · refine .inr ⟨?_, again⟩
      rw [queued, ← number]
      apply List.perm_iff_count.mpr
      intro other
      simp only [List.map_append, List.map_cons, List.map_nil, List.count_append, List.count_cons,
        List.count_nil]
      omega
  · show (dispatcher.attempts ++ [_]).countP _ = (dispatcher.service.retry world item later).created
    rw [List.countP_append, sound.attempted, created]
    rfl
  · intro other member
    show _ ∈ dispatcher.deadlines
    rcases List.mem_append.mp member with queued | waiting
    · rcases queue with ⟨_, same⟩ | ⟨_, one, number, deadline, requeued⟩
      · rw [same] at queued
        exact sound.stamped other (List.mem_append_left _ queued)
      · rw [requeued] at queued
        rcases List.mem_append.mp queued with before | here
        · exact sound.stamped other (List.mem_append_left _ before)
        · rw [List.mem_singleton.mp here, number, deadline]
          exact ticket
    · exact sound.stamped other (List.mem_append_right _ (List.mem_cons_of_mem item waiting))
  · intro entry member
    show entry.1 < (dispatcher.service.retry world item later).created
    rw [created]
    exact sound.known entry member
  · intro attempt member deadline set
    rcases List.mem_append.mp member with before | here
    · exact sound.retried attempt before deadline set
    · rw [List.mem_singleton.mp here] at set ⊢
      cases set
      exact ticket

theorem giveUp_sound {item : Pending} (sound : dispatcher.Sound (item :: later))
    {now : ℚ} (late : item.deadline < now) : (dispatcher.giveUp item now).Sound later := by
  refine ⟨?_, sound.delivered, sound.failed, ?_, sound.channels, sound.attempted, ?_, sound.known,
    sound.single, ?_, sound.retried⟩
  · refine List.Perm.trans ?_ sound.places
    apply List.perm_iff_count.mpr
    intro number
    simp only [Dispatcher.giveUp, List.map_append, List.map_cons, List.count_append, List.count_cons,
      List.map_nil, List.count_nil]
    omega
  · show dispatcher.stats.expired + 1 = (dispatcher.givenUp ++ [_]).length
    rw [List.length_append, sound.expired]
    rfl
  · intro other member
    apply sound.stamped
    rcases List.mem_append.mp member with queued | waiting
    · exact List.mem_append_left _ queued
    · exact List.mem_append_right _ (List.mem_cons_of_mem item waiting)
  · intro entry member
    rcases List.mem_append.mp member with before | here
    · exact sound.late entry before
    · rw [List.mem_singleton.mp here]
      exact ⟨item.deadline, sound.stamped item (by simp), late⟩

theorem withBook_sound (sound : dispatcher.Sound later) (book : AlertBook) :
    (dispatcher.withBook book).Sound later :=
  ⟨sound.places, sound.delivered, sound.failed, sound.expired, sound.channels, sound.attempted,
    sound.stamped, sound.known, sound.single, sound.late, sound.retried⟩

theorem announce_sound (sound : dispatcher.Sound []) (event : Event) :
    (dispatcher.announce config world started event).Sound [] := by
  apply List.foldlRecOn (motive := fun dispatcher : Dispatcher => dispatcher.Sound []) _ _ sound
  intro dispatcher sound slot _
  have attempted := attempt_sound config world started sound slot (render event)
  unfold Dispatcher.announceOn
  split
  · dsimp only
    split
    · exact withBook_sound attempted _
    · exact attempted
  · exact sound

theorem repeatDue_sound (sound : dispatcher.Sound []) (now : ℚ) :
    (dispatcher.repeatDue config world started now).Sound [] := by
  apply List.foldlRecOn (motive := fun dispatcher : Dispatcher => dispatcher.Sound []) _ _ sound
  intro dispatcher sound entry _
  apply List.foldlRecOn (motive := fun dispatcher : Dispatcher => dispatcher.Sound []) _ _ sound
  intro dispatcher sound slot _
  rw [Dispatcher.repeatOn.eq_def]
  split
  · dsimp only
    split
    · exact withBook_sound (attempt_sound config world started sound slot _) _
    · exact sound
  · exact sound

theorem pumpLoop_sound (now : ℚ) (due : List Pending) (sound : dispatcher.Sound due) :
    (Dispatcher.pumpLoop world started now due dispatcher).Sound [] := by
  induction due generalizing dispatcher with
  | nil => exact sound
  | cons item later ih =>
    unfold Dispatcher.pumpLoop
    split
    · rename_i late
      exact ih (giveUp_sound sound late)
    · exact ih (retry_sound world started sound)

/-- A pump takes what is due out of the queue, and tries it. -/
theorem pump_sound (sound : dispatcher.Sound []) (now : ℚ) :
    (dispatcher.pump world started now).Sound [] := by
  unfold Dispatcher.pump
  apply pumpLoop_sound
  rw [removeAll_due]
  have moved : ((dispatcher.service.queue.filter fun item => ¬item.dueAt ≤ now) ++
      dispatcher.service.queue.filter fun item => item.dueAt ≤ now).Perm
        (dispatcher.service.queue ++ []) := by
    rw [List.append_nil]
    refine List.perm_append_comm.trans ?_
    have halves := List.filter_append_perm (fun item : Pending => decide (item.dueAt ≤ now))
      dispatcher.service.queue
    simpa only [decide_not] using halves
  refine ⟨?_, sound.delivered, sound.failed, sound.expired, sound.channels, sound.attempted, ?_,
    sound.known, sound.single, sound.late, sound.retried⟩
  · refine List.Perm.trans ?_ sound.places
    exact (((moved.map Pending.number).append_right _).append_right _).append_right _
  · intro item member
    exact sound.stamped item (moved.mem_iff.mp member)

theorem step_sound {next : Dispatcher} {call : Call} (sound : dispatcher.Sound [])
    (taken : dispatcher.step config world started call = some next) : next.Sound [] := by
  cases call with
  | announce event book =>
    cases taken
    exact announce_sound config world started (withBook_sound sound book) event
  | repeatDue book now =>
    cases taken
    exact repeatDue_sound config world started (withBook_sound sound book) now
  | pump now =>
    cases taken
    exact pump_sound world started sound now

end Soundness

/-- No retry is made after the deadline of its message. -/
def Dispatcher.InTime (dispatcher : Dispatcher) : Prop :=
  ∀ attempt ∈ dispatcher.attempts, ∀ deadline, attempt.deadline = some deadline →
    attempt.started ≤ deadline

/-- What is attempted is in one place, and none of it too late. -/
structure Dispatcher.Conserved (dispatcher : Dispatcher) : Prop where
  total : dispatcher.attempts.countP (fun attempt => attempt.deadline.isNone) =
    dispatcher.stats.delivered + dispatcher.stats.failed + dispatcher.stats.expired +
      dispatcher.service.queue.length
  channels : dispatcher.stats.delivered = (dispatcher.stats.perChannel.entries.map Prod.snd).sum
  once : (dispatcher.service.ended .delivered).Nodup
  late : ∀ entry ∈ dispatcher.givenUp, ∃ deadline, (entry.1, deadline) ∈ dispatcher.deadlines ∧
    deadline < entry.2
  single : (dispatcher.deadlines.map Prod.fst).Nodup
  retried : ∀ attempt ∈ dispatcher.attempts, ∀ deadline, attempt.deadline = some deadline →
    (attempt.number, deadline) ∈ dispatcher.deadlines
  inTime : dispatcher.InTime

/-- The clock does not pass the deadline of a message that a pump retries before its turn
comes. -/
def Dispatcher.Prompt (started : Nat → ℚ) (dispatcher : Dispatcher) : Call → Prop
  | .announce _ _ => True
  | .repeatDue _ _ => True
  | .pump now =>
    ∀ entry ∈ (dispatcher.service.queue.filter fun item =>
        item.dueAt ≤ now ∧ ¬item.deadline < now).zipIdx dispatcher.service.calls,
      started entry.2 ≤ entry.1.deadline

section Timing

variable (config : Config) (world : World) (started : Nat → ℚ) {dispatcher : Dispatcher}

theorem conserved_of_sound (sound : dispatcher.Sound []) (inTime : dispatcher.InTime) :
    dispatcher.Conserved := by
  have places := sound.places
  rw [List.append_nil] at places
  have nodup := places.nodup_iff.mpr List.nodup_range
  refine ⟨?_, sound.channels, ?_, sound.late, sound.single, sound.retried, inTime⟩
  · have length := places.length_eq
    simp only [List.length_append, List.length_map, List.length_range] at length
    rw [sound.attempted, sound.delivered, sound.failed, sound.expired]
    omega
  · exact (List.nodup_append.mp (List.nodup_append.mp (List.nodup_append.mp nodup).1).1).2.1

theorem retry_calls (service : Service) (item : Pending) (later : List Pending) :
    (service.retry world item later).calls = service.calls + 1 := by
  unfold Service.retry
  cases world.outcome service.calls <;> rfl

/-- A pump retries what is due and not past its deadline, one call after the other. -/
theorem pumpLoop_attempts (now : ℚ) (due : List Pending) (dispatcher : Dispatcher) :
    (Dispatcher.pumpLoop world started now due dispatcher).attempts = dispatcher.attempts ++
      ((due.filter fun item => ¬item.deadline < now).zipIdx dispatcher.service.calls).map fun entry =>
        ⟨entry.1.number, started entry.2, some entry.1.deadline⟩ := by
  induction due generalizing dispatcher with
  | nil => exact (List.append_nil _).symm
  | cons item later ih =>
    unfold Dispatcher.pumpLoop
    split
    · rename_i late
      rw [ih, List.filter_cons_of_neg (by simpa using late)]
      rfl
    · rename_i early
      rw [ih, List.filter_cons_of_pos (by simpa using early), List.zipIdx_cons, List.map_cons]
      show (dispatcher.attempts ++ [_]) ++ _ = _
      rw [List.append_assoc, show (dispatcher.retry world started item later).service.calls =
        dispatcher.service.calls + 1 from retry_calls world _ item later]
      rfl

theorem pump_inTime (now : ℚ) :
    (dispatcher.pump world started now).InTime ↔
      dispatcher.InTime ∧ dispatcher.Prompt started (.pump now) := by
  unfold Dispatcher.InTime Dispatcher.pump Dispatcher.Prompt
  rw [pumpLoop_attempts, List.filter_filter]
  have order : (fun item : Pending => decide (¬item.deadline < now) && decide (item.dueAt ≤ now)) =
      fun item => decide (item.dueAt ≤ now ∧ ¬item.deadline < now) := by
    funext item
    rw [Bool.and_comm, Bool.decide_and]
  rw [order]
  constructor
  · intro inTime
    constructor
    · exact fun attempt member => inTime attempt (List.mem_append_left _ member)
    · intro entry member
      apply inTime ⟨entry.1.number, started entry.2, some entry.1.deadline⟩ _ entry.1.deadline rfl
      exact List.mem_append_right _ (List.mem_map.mpr ⟨entry, member, rfl⟩)
  · rintro ⟨inTime, prompt⟩ attempt member deadline set
    rcases List.mem_append.mp member with before | retried
    · exact inTime attempt before deadline set
    · obtain ⟨entry, listed, here⟩ := List.mem_map.mp retried
      rw [← here] at set ⊢
      cases set
      exact prompt entry listed

/-- First attempts have no deadline yet. -/
theorem attempt_inTime (slot : Slot) (message : Message) :
    (dispatcher.attempt config world started slot message).2.InTime ↔ dispatcher.InTime := by
  constructor
  · exact fun inTime attempt member => inTime attempt (List.mem_append_left _ member)
  · intro inTime attempt member deadline set
    rcases List.mem_append.mp member with before | here
    · exact inTime attempt before deadline set
    · rw [List.mem_singleton.mp here] at set
      cases set

theorem announce_inTime (event : Event) :
    (dispatcher.announce config world started event).InTime ↔ dispatcher.InTime := by
  apply List.foldlRecOn (motive := fun after : Dispatcher => after.InTime ↔ dispatcher.InTime) _ _ Iff.rfl
  intro after same slot _
  rw [← same]
  unfold Dispatcher.announceOn
  split
  · dsimp only
    split
    · exact attempt_inTime config world started slot (render event)
    · exact attempt_inTime config world started slot (render event)
  · exact Iff.rfl

theorem repeatDue_inTime (now : ℚ) :
    (dispatcher.repeatDue config world started now).InTime ↔ dispatcher.InTime := by
  apply List.foldlRecOn (motive := fun after : Dispatcher => after.InTime ↔ dispatcher.InTime) _ _ Iff.rfl
  intro after same entry _
  apply List.foldlRecOn (motive := fun next : Dispatcher => next.InTime ↔ dispatcher.InTime) _ _ same
  intro next same slot _
  rw [← same, Dispatcher.repeatOn.eq_def]
  split
  · rename_i alert every _ _
    dsimp only
    split
    · exact attempt_inTime config world started slot (render (.of .repeat alert.alert now))
    · exact Iff.rfl
  · exact Iff.rfl

theorem step_inTime {next : Dispatcher} {call : Call}
    (taken : dispatcher.step config world started call = some next) :
    next.InTime ↔ dispatcher.InTime ∧ dispatcher.Prompt started call := by
  cases call with
  | announce event book =>
    cases taken
    exact (announce_inTime config world started event).trans (and_iff_left trivial).symm
  | repeatDue book now =>
    cases taken
    exact (repeatDue_inTime config world started now).trans (and_iff_left trivial).symm
  | pump now =>
    cases taken
    exact pump_inTime world started now

end Timing

theorem newDispatcher_sound (heartbeatRule : String) : (Dispatcher.new heartbeatRule).Sound [] := by
  refine ⟨List.Perm.refl _, rfl, rfl, rfl, rfl, rfl, ?_, ?_, List.nodup_nil, ?_, ?_⟩
  · intro item member
    cases member
  · intro entry member
    cases member
  · intro entry member
    cases member
  · intro attempt member
    cases member

/-- Over every run of calls: all that was attempted is delivered, failed, expired or
pending, each message in one place, and no retry comes after its deadline, exactly where
no pump is still at work when the deadline of a message it is to retry passes. -/
theorem conserved_iff_prompt (config : Config) (world : World) (started : Nat → ℚ)
    (heartbeatRule : String) (calls : List Call) :
    Machine.Always (Dispatcher.step config world started) Dispatcher.Conserved (.new heartbeatRule) calls ↔
      Machine.Along (Dispatcher.step config world started) (Dispatcher.Prompt started)
        (.new heartbeatRule) calls := by
  apply Machine.always_iff_along fun dispatcher => dispatcher.Sound [] ∧ dispatcher.InTime
  · exact fun dispatcher both => conserved_of_sound both.1 both.2
  · intro dispatcher call next both prompt taken
    exact ⟨step_sound config world started both.1 taken,
      (step_inTime config world started taken).mpr ⟨both.2, prompt⟩⟩
  · intro dispatcher call next both taken conserved
    exact ((step_inTime config world started taken).mp conserved.inTime).2
  · refine ⟨newDispatcher_sound heartbeatRule, ?_⟩
    intro attempt member
    cases member

/-- Ten seconds to retry, and an uplink on which the first retry hangs from 9 to 14. -/
def shortRetry : Config := { discord with retryDeadlineS := 10 }

def slowUplink : World :=
  { outcome := fun call => if call ≤ 2 then .retryable else .delivered,
    monotonic := fun call => if call ≤ 1 then 0 else 14 }

def slowStarts (call : Nat) : ℚ := if call ≤ 1 then 0 else if call = 2 then 9 else 14

/-- The second message is delivered at 14, past its deadline of 10. -/
theorem retried_late :
    ¬ Machine.Always (Dispatcher.step shortRetry slowUplink slowStarts) Dispatcher.Conserved
      (.new "heartbeat")
      [.announce (.of .firing (coolant .firing) 0) (.new "heartbeat"),
        .announce (.of .resolved (coolant .resolved) 0) (.new "heartbeat"), .pump 9] := by
  intro always
  have late : ((Machine.run (Dispatcher.step shortRetry slowUplink slowStarts) (.new "heartbeat")
      [.announce (.of .firing (coolant .firing) 0) (.new "heartbeat"),
        .announce (.of .resolved (coolant .resolved) 0) (.new "heartbeat"), .pump 9]).map fun dispatcher =>
          decide (⟨1, 14, some 10⟩ ∈ dispatcher.attempts)) = some true := by decide +kernel
  obtain ⟨final, reached, listed⟩ := Option.map_eq_some_iff.mp late
  have early := (always.final reached).inTime _ (of_decide_eq_true listed) 10 rfl
  exact absurd early (by decide +kernel)

end OpenLaps.Notifier

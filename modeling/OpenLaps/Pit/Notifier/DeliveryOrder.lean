import Mathlib.Data.List.Basic
import OpenLaps.Lib.Machine
import OpenLaps.Pit.Notifier.Channels

/- The order in which a channel delivers what it is told about one alert. New messages
are attempted at once; those that failed wait for their retry meanwhile. -/
namespace OpenLaps.Notifier

/-- What one channel delivers about one alert comes in the order it was made. So a
firing or a repeat that follows the end of an episode was made after it. -/
def InOrder (earlier later : Delivery) : Prop :=
  earlier.outcome = .delivered → later.outcome = .delivered → earlier.slot = later.slot →
    earlier.message.fingerprint = later.message.fingerprint → earlier.number < later.number

instance (earlier later : Delivery) : Decidable (InOrder earlier later) :=
  inferInstanceAs (Decidable (_ → _ → _ → _ → _))

def Service.InOrder (service : Service) : Prop := service.deliveries.Pairwise Notifier.InOrder

instance (service : Service) : Decidable service.InOrder :=
  inferInstanceAs (Decidable (service.deliveries.Pairwise Notifier.InOrder))

/-- The call does not succeed while an older message about the alert waits for the
channel. -/
def Delivery.inTurn (delivery : Delivery) : Bool :=
  delivery.outcome ≠ .delivered || delivery.waiting.all fun item =>
    item.slot ≠ delivery.slot || item.message.fingerprint ≠ delivery.message.fingerprint ||
      delivery.number < item.number

/-- Every call the happening makes is in its turn. -/
def Service.orderly (config : Config) (world : World) (service : Service)
    (happening : Happening) : Bool :=
  match service.step config world happening with
  | none => true
  | some next => next.deliveries.all Delivery.inTurn

/-- Calls in order, and whatever waits newer than what was delivered. -/
structure Sorted (deliveries : List Delivery) (waiting : List Pending) (created : Nat) : Prop where
  order : deliveries.Pairwise InOrder
  newer : ∀ delivery ∈ deliveries, delivery.outcome = .delivered → ∀ item ∈ waiting,
    delivery.slot = item.slot → delivery.message.fingerprint = item.message.fingerprint →
      delivery.number < item.number
  made : ∀ delivery ∈ deliveries, delivery.number < created
  numbered : ∀ item ∈ waiting, item.number < created

theorem inTurn_newer {delivery : Delivery} (turn : delivery.inTurn = true)
    (delivered : delivery.outcome = .delivered) {item : Pending} (member : item ∈ delivery.waiting)
    (channel : delivery.slot = item.slot)
    (alert : delivery.message.fingerprint = item.message.fingerprint) :
    delivery.number < item.number := by
  simp only [Delivery.inTurn, delivered, ne_eq, not_true_eq_false, decide_false, Bool.false_or,
    List.all_eq_true] at turn
  simpa [channel, alert] using turn item member

section Calls

variable {deliveries : List Delivery} {waiting : List Pending} {created : Nat}

theorem Sorted.subset (sorted : Sorted deliveries waiting created) {fewer : List Pending}
    (subset : fewer ⊆ waiting) : Sorted deliveries fewer created := by
  refine ⟨sorted.order, ?_, sorted.made, ?_⟩
  · intro delivery member delivered item inside
    exact sorted.newer delivery member delivered item (subset inside)
  · intro item inside
    exact sorted.numbered item (subset inside)

/-- A call for a message that is newer than everything delivered for its channel and
alert. -/
theorem Sorted.call (sorted : Sorted deliveries waiting created) {delivery : Delivery}
    {next : Nat} (more : created ≤ next) (number : delivery.number < next)
    (turn : delivery.inTurn = true) (known : waiting ⊆ delivery.waiting)
    (latest : ∀ earlier ∈ deliveries, InOrder earlier delivery) :
    Sorted (deliveries ++ [delivery]) waiting next := by
  constructor
  · apply List.pairwise_append.mpr
    refine ⟨sorted.order, List.pairwise_singleton _ _, ?_⟩
    intro earlier member last here
    rw [List.mem_singleton.mp here]
    exact latest earlier member
  · intro other member delivered item inside channel alert
    rcases List.mem_append.mp member with old | here
    · exact sorted.newer other old delivered item inside channel alert
    · rw [List.mem_singleton.mp here] at delivered channel alert ⊢
      exact inTurn_newer turn delivered (known inside) channel alert
  · intro other member
    rcases List.mem_append.mp member with old | here
    · exact Nat.lt_of_lt_of_le (sorted.made other old) more
    · rw [List.mem_singleton.mp here]
      exact number
  · intro item inside
    exact Nat.lt_of_lt_of_le (sorted.numbered item inside) more

/-- A message put back into the queue after its call failed. -/
theorem Sorted.requeue (sorted : Sorted deliveries waiting created) {item : Pending}
    (number : item.number < created)
    (newer : ∀ delivery ∈ deliveries, delivery.outcome = .delivered → delivery.slot = item.slot →
      delivery.message.fingerprint = item.message.fingerprint → delivery.number < item.number) :
    Sorted deliveries (item :: waiting) created := by
  refine ⟨sorted.order, ?_, sorted.made, ?_⟩
  · intro delivery member delivered other inside channel alert
    rcases List.mem_cons.mp inside with here | old
    · rw [here] at channel alert ⊢
      exact newer delivery member delivered channel alert
    · exact sorted.newer delivery member delivered other old channel alert
  · intro other inside
    rcases List.mem_cons.mp inside with here | old
    · rw [here]
      exact number
    · exact sorted.numbered other old

end Calls

/-- In order as long as every call was in its turn, while `later` are still to be
retried. -/
def Service.Ordered (later : List Pending) (service : Service) : Prop :=
  (∀ delivery ∈ service.deliveries, delivery.inTurn = true) →
    Sorted service.deliveries (service.queue ++ later) service.created

section Service

variable (config : Config) (world : World)

/-- A new message is newer than all others. -/
theorem ordered_attempt {service : Service} (ordered : service.Ordered []) (slot : Slot)
    (message : Message) : (service.attempt config world slot message).2.Ordered [] := by
  obtain ⟨-, created, deliveries, queue⟩ := attempt_spec config world service slot message
  intro turns
  rw [deliveries] at turns
  rw [deliveries, created, List.append_nil]
  have before := ordered fun delivery member => turns delivery (List.mem_append_left _ member)
  rw [List.append_nil] at before
  have turn := turns _ (List.mem_append_right _ (List.mem_singleton_self _))
  have called := before.call (Nat.le_succ _) (Nat.lt_succ_self _) turn (List.Subset.refl _)
    fun earlier member _ _ _ _ => before.made earlier member
  rcases queue with same | ⟨item, channel, about, number, failed, queued⟩
  · rw [same]
    exact called
  · have newest : item.number < service.created + 1 := by omega
    rw [queued]
    apply (called.requeue newest ?_).subset
    · intro other member
      simpa [or_comm] using member
    · intro delivery member delivered _ _
      rcases List.mem_append.mp member with old | here
      · rw [number]
        exact before.made delivery old
      · rw [List.mem_singleton.mp here, failed] at delivered
        cases delivered

/-- A retried message has been waiting until now. -/
theorem ordered_retry {service : Service} {item : Pending} {later : List Pending}
    (ordered : service.Ordered (item :: later)) :
    (service.retry world item later).Ordered later := by
  obtain ⟨-, created, deliveries, queue⟩ := retry_spec world service item later
  intro turns
  rw [deliveries] at turns
  rw [deliveries, created]
  have before := ordered fun delivery member => turns delivery (List.mem_append_left _ member)
  have here : item ∈ service.queue ++ item :: later := by simp
  have fewer : service.queue ++ later ⊆ service.queue ++ item :: later := by
    intro other member
    rcases List.mem_append.mp member with queued | due
    · exact List.mem_append_left _ queued
    · exact List.mem_append_right _ (List.mem_cons_of_mem item due)
  have turn := turns _ (List.mem_append_right _ (List.mem_singleton_self _))
  have called := (before.subset fewer).call (Nat.le_refl _) (before.numbered item here) turn
    (List.Subset.refl _) fun earlier member delivered _ channel alert =>
      before.newer earlier member delivered item here channel alert
  rcases queue with same | ⟨again, channel, about, number, failed, queued⟩
  · rw [same]
    exact called
  · have old : again.number < service.created := by
      rw [number]
      exact before.numbered item here
    rw [queued]
    apply (called.requeue old ?_).subset
    · intro other member
      simp only [List.mem_append, List.mem_cons, List.not_mem_nil, or_false] at member ⊢
      tauto
    · intro delivery member delivered same alert
      rcases List.mem_append.mp member with earlier | latest
      · rw [channel] at same
        rw [about] at alert
        rw [number]
        exact before.newer delivery earlier delivered item here same alert
      · rw [List.mem_singleton.mp latest, failed] at delivered
        cases delivered

theorem ordered_announceOn {service : Service} (ordered : service.Ordered []) (event : Event)
    (slot : Slot) : (service.announceOn config world event slot).Ordered [] := by
  have attempted := ordered_attempt config world ordered slot (render event)
  rw [Service.announceOn]
  split
  · dsimp only
    split
    · exact attempted
    · exact attempted
  · exact ordered

theorem ordered_announce {service : Service} (ordered : service.Ordered []) (event : Event) :
    (service.announce config world event).Ordered [] := by
  apply List.foldlRecOn (motive := fun service : Service => service.Ordered []) _ _ ordered
  intro service ordered slot member
  exact ordered_announceOn config world ordered event slot

theorem ordered_receive {service : Service} (ordered : service.Ordered []) (alerts : List Alert)
    (now : ℚ) : (service.receive config world alerts now).Ordered [] := by
  rw [Service.receive]
  apply List.foldlRecOn (motive := fun service : Service => service.Ordered [])
  · exact ordered
  · intro service ordered event member
    exact ordered_announce config world ordered event

theorem ordered_ack {service : Service} (ordered : service.Ordered []) (fingerprint acker : String)
    (note : Option String) (now : ℚ) :
    (service.ack config world fingerprint acker note now).Ordered [] := by
  rw [Service.ack]
  split
  · exact ordered
  · rename_i event made
    apply ordered_announce
    exact ordered

theorem ordered_repeatOn {service : Service} (ordered : service.Ordered []) (now : ℚ)
    (fingerprint : String) (slot : Slot) :
    (service.repeatOn config world now fingerprint slot).Ordered [] := by
  rw [Service.repeatOn.eq_def]
  split
  · rename_i entry every _found _interval
    dsimp only
    split
    · exact ordered_attempt config world ordered slot (render (.of .repeat entry.alert now))
    · exact ordered
  · exact ordered

theorem ordered_repeatDue {service : Service} (ordered : service.Ordered []) (now : ℚ) :
    (service.repeatDue config world now).Ordered [] := by
  apply List.foldlRecOn (motive := fun service : Service => service.Ordered []) _ _ ordered
  intro service ordered entry member
  apply List.foldlRecOn (motive := fun service : Service => service.Ordered []) _ _ ordered
  intro service ordered slot member
  exact ordered_repeatOn config world ordered now entry.1 slot

theorem ordered_pumpLoop (now : ℚ) (due : List Pending) {service : Service}
    (ordered : service.Ordered due) : (Service.pumpLoop world now due service).Ordered [] := by
  induction due generalizing service with
  | nil => exact ordered
  | cons item later ih =>
    rw [Service.pumpLoop]
    split
    · -- given up: the others wait on
      apply ih
      intro turns
      apply (ordered turns).subset
      intro other member
      rcases List.mem_append.mp member with queued | waiting
      · exact List.mem_append_left _ queued
      · exact List.mem_append_right _ (List.mem_cons_of_mem item waiting)
    · exact ih (ordered_retry world ordered)

theorem ordered_pump {service : Service} (ordered : service.Ordered []) (now : ℚ) :
    (service.pump world now).Ordered [] := by
  apply ordered_pumpLoop
  intro turns
  apply (ordered turns).subset
  intro item member
  rw [List.append_nil]
  rcases List.mem_append.mp member with rest | due
  · exact List.mem_of_mem_filter rest
  · exact List.mem_of_mem_filter due

theorem ordered_step {service next : Service} {happening : Happening}
    (ordered : service.Ordered []) (taken : service.step config world happening = some next) :
    next.Ordered [] := by
  unfold Service.step at taken
  split at taken
  · cases taken
  · cases taken
    cases happening with
    | receive alerts now => exact ordered_receive config world ordered alerts now
    | ack fingerprint acker note now =>
      exact ordered_ack config world ordered fingerprint acker note now
    | tick now monotonic => exact ordered_pump world (ordered_repeatDue config world ordered now) _

end Service

/-- Over any receipts, acknowledgements and ticks, and whatever the channels do: each
channel delivers the messages about one alert in their order, as long as no call
succeeds while an older message about the alert waits for the channel. -/
theorem inOrder_of_orderly (config : Config) (world : World) (heartbeatRule : String) (clock : ℚ)
    (happenings : List Happening)
    (orderly : Machine.Along (Service.step config world)
      (fun service happening => service.orderly config world happening = true)
      (.new heartbeatRule clock) happenings) :
    Machine.Always (Service.step config world) Service.InOrder (.new heartbeatRule clock)
      happenings := by
  refine Machine.always_of_along
    (fun service => service.Ordered [] ∧ ∀ delivery ∈ service.deliveries, delivery.inTurn = true)
    ?_ ?_ happenings _ ?_ orderly
  · intro service invariant
    exact (invariant.1 invariant.2).order
  · intro service happening next invariant orderly taken
    rw [Service.orderly, taken] at orderly
    exact ⟨ordered_step config world invariant.1 taken, List.all_eq_true.mp orderly⟩
  · constructor
    · intro _
      constructor
      · exact List.Pairwise.nil
      · intro delivery member
        cases member
      · intro delivery member
        cases member
      · intro item member
        cases member
    · intro delivery member
      cases member

def coolant (status : Status) : Alert :=
  { fingerprint := "coolant", name := "coolant-temp", status := status, severity := "critical",
    startedAt := 0, labels := Dict.empty, annotations := Dict.empty, ruleUid := none,
    summary := "coolant temperature" }

def discord : Config :=
  { channels := [{ name := "discord", minSeverity := "critical", repeatS := none }],
    retryDeadlineS := 1800 }

/-- The uplink is down for the first message only. -/
def uplinkBack : World :=
  { outcome := fun call => if call = 0 then .retryable else .delivered,
    monotonic := fun _ => 0 }

theorem inOrder_uplinkBack :
    Machine.Always (Service.step discord uplinkBack) Service.InOrder (.new "heartbeat" 0)
      [.receive [coolant .firing] 0, .tick 2 2, .receive [coolant .resolved] 3] :=
  inOrder_of_orderly discord uplinkBack "heartbeat" 0 _
    (Machine.along_of_checks _ _ (by decide +kernel))

/-- The end of the episode is delivered first and its start by the retry after it. -/
theorem uplinkBack_not_inOrder :
    ¬ Machine.Always (Service.step discord uplinkBack) Service.InOrder (.new "heartbeat" 0)
      [.receive [coolant .firing] 0, .receive [coolant .resolved] 1, .tick 2 2] := by
  intro always
  have failed : ((Machine.run (Service.step discord uplinkBack) (.new "heartbeat" 0)
      [.receive [coolant .firing] 0, .receive [coolant .resolved] 1, .tick 2 2]).map fun service =>
        decide service.InOrder) = some false := by decide +kernel
  obtain ⟨final, reached, broken⟩ := Option.map_eq_some_iff.mp failed
  exact absurd (always.final reached) (of_decide_eq_false broken)

end OpenLaps.Notifier

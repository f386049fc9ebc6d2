import Mathlib.Tactic.Linarith
import OpenLaps.Lib.Machine
import OpenLaps.Pit.Notifier.Channels

/- How far apart the repeats of one alert on one channel are. The pace is kept by the
time of the last message delivered at once; a repeat that goes to the retry queue
leaves no mark there. -/
namespace OpenLaps.Notifier

/-- Two repeats for one channel are its interval apart. -/
def Apart (earlier later : RepeatMade) : Prop :=
  earlier.slot = later.slot →
    ∀ every, later.slot.1.repeatS = some every → every ≤ later.at_ - earlier.at_

def Service.Paced (service : Service) : Prop :=
  ∀ fingerprint entry, service.book.active.get? fingerprint = some entry →
    entry.repeats.Pairwise Apart

/-- A repeat that was not delivered at once, whose channel is due again before its
interval is over. -/
def tooSoon (entry : ActiveAlert) (now : ℚ) (made : RepeatMade) : Bool :=
  match made.slot.1.repeatS with
  | none => false
  | some every => !made.delivered && wants made.slot entry.alert.severity &&
      repeatDue entry made.slot every now && decide (now - made.at_ < every)

/-- No tick comes too soon after a repeat that was not delivered at once. -/
def Service.patient (service : Service) : Happening → Bool
  | .tick now _ => service.book.unacknowledged.all fun entry =>
    entry.2.repeats.all fun made => !tooSoon entry.2 now made
  | _ => true

/-- The record of one alert: repeats paced, none in the future, and those delivered at
once not after the last notification. -/
structure ActiveAlert.Steady (now : ℚ) (entry : ActiveAlert) : Prop where
  paced : entry.repeats.Pairwise Apart
  past : ∀ made ∈ entry.repeats, made.at_ ≤ now
  noted : ∀ made ∈ entry.repeats, made.delivered = true →
    ∃ last, entry.lastNotified.get? made.slot.1.name = some last ∧ made.at_ ≤ last

def AlertBook.Steady (now : ℚ) (book : AlertBook) : Prop :=
  ∀ fingerprint entry, book.active.get? fingerprint = some entry → entry.Steady now

section Entries

variable {now : ℚ} {entry : ActiveAlert}

theorem steady_new (alert : Alert) (now : ℚ) : (ActiveAlert.new alert now).Steady now := by
  constructor
  · exact List.Pairwise.nil
  · intro made member
    cases member
  · intro made member
    cases member

theorem ActiveAlert.Steady.later (steady : entry.Steady now) {later : ℚ} (after : now ≤ later) :
    entry.Steady later := by
  refine ⟨steady.paced, ?_, steady.noted⟩
  intro made member
  exact le_trans (steady.past made member) after

/-- A notification at `now` is after every repeat. -/
theorem noted_set (steady : entry.Steady now) (name : String) (made : RepeatMade)
    (member : made ∈ entry.repeats) (delivered : made.delivered = true) :
    ∃ last, (entry.lastNotified.set name now).get? made.slot.1.name = some last ∧
      made.at_ ≤ last := by
  rw [Dict.get?_set]
  split
  · exact ⟨now, rfl, steady.past made member⟩
  · exact steady.noted made member delivered

theorem steady_notified (steady : entry.Steady now) (name : String) :
    ({ entry with lastNotified := entry.lastNotified.set name now } : ActiveAlert).Steady now :=
  ⟨steady.paced, steady.past, noted_set steady name⟩

theorem steady_repeated (steady : entry.Steady now) {slot : Slot} {delivered : Bool}
    (apart : ∀ made ∈ entry.repeats, Apart made ⟨slot, now, delivered⟩) :
    (entry.repeated slot now delivered).Steady now := by
  constructor
  · apply List.pairwise_append.mpr
    refine ⟨steady.paced, List.pairwise_singleton _ _, ?_⟩
    intro made member latest last
    rw [List.mem_singleton.mp last]
    exact apart made member
  · intro made member
    rcases List.mem_append.mp member with old | last
    · exact steady.past made old
    · rw [List.mem_singleton.mp last]
  · intro made member atOnce
    rcases List.mem_append.mp member with old | last
    · cases delivered with
      | false => exact steady.noted made old atOnce
      | true => exact noted_set steady slot.1.name made old atOnce
    · rw [List.mem_singleton.mp last] at atOnce ⊢
      have told : delivered = true := atOnce
      refine ⟨now, ?_, le_refl now⟩
      simp [ActiveAlert.repeated, told, Dict.get?_set]

/-- A channel that is due was last told its interval ago. -/
theorem repeatDue_some {slot : Slot} {every last : ℚ} (due : repeatDue entry slot every now = true)
    (told : entry.lastNotified.get? slot.1.name = some last) : every ≤ now - last := by
  rw [repeatDue, told] at due
  exact of_decide_eq_true due

end Entries

section Book

variable {now : ℚ} {book : AlertBook}

theorem steady_set (steady : book.Steady now) {active : Dict String ActiveAlert}
    {fingerprint : String} {entry : ActiveAlert}
    (same : active = book.active.set fingerprint entry) (fine : entry.Steady now) :
    ∀ other found, active.get? other = some found → found.Steady now := by
  intro other found present
  rw [same, Dict.get?_set] at present
  split at present
  · cases present
    exact fine
  · exact steady other found present

theorem steady_erase (steady : book.Steady now) {active : Dict String ActiveAlert}
    {fingerprint : String} (same : active = book.active.erase fingerprint) :
    ∀ other found, active.get? other = some found → found.Steady now := by
  intro other found present
  rw [same, Dict.get?_erase] at present
  split at present
  · cases present
  · exact steady other found present

theorem steady_receiveOne (steady : book.Steady now) (alert : Alert) :
    (book.receiveOne alert now).1.Steady now := by
  rcases receiveOne_cases book alert now with ⟨-, active, -⟩ | ⟨-, -, -, active, -⟩ |
      ⟨current, -, -, found, active, -⟩ | ⟨current, -, -, -, active, -⟩
  · intro other entry present
    rw [active] at present
    exact steady other entry present
  · exact steady_set steady active (steady_new alert now)
  · have old := steady alert.fingerprint current found
    exact steady_set steady active ⟨old.paced, old.past, old.noted⟩
  · exact steady_erase steady active

theorem steady_receiveLoop (steady : book.Steady now) (alerts : List Alert) :
    (book.receiveLoop now alerts).1.Steady now := by
  induction alerts generalizing book with
  | nil => exact steady
  | cons alert rest ih => exact ih (steady_receiveOne steady alert)

theorem steady_ack (steady : book.Steady now) (fingerprint acker : String) (note : Option String) :
    (book.ack fingerprint acker note now).1.Steady now := by
  cases found : book.active.get? fingerprint with
  | none =>
    have same : book.ack fingerprint acker note now = (book, none) := by
      simp [AlertBook.ack, found]
    rw [same]
    exact steady
  | some current =>
    have old := steady fingerprint current found
    simp only [AlertBook.ack, found]
    split
    · exact steady_erase steady rfl
    · exact steady_set steady rfl ⟨old.paced, old.past, old.noted⟩

theorem steady_noteNotified (steady : book.Steady now) (fingerprint name : String) :
    (noteNotified book fingerprint name now).Steady now := by
  rw [noteNotified]
  split
  · exact steady
  · rename_i entry found
    exact steady_set steady rfl (steady_notified (steady fingerprint entry found) name)

theorem receiveOne_at (book : AlertBook) (alert : Alert) (now : ℚ) :
    ∀ event ∈ (book.receiveOne alert now).2, event.at_ = now := by
  intro event member
  rcases receiveOne_cases book alert now with ⟨-, -, events⟩ | ⟨-, -, -, -, events⟩ |
      ⟨current, -, -, -, -, events⟩ | ⟨current, -, -, -, -, events⟩
  · rw [events] at member
    cases member
  · rw [events, List.mem_singleton] at member
    rw [member, Event.of]
  · rw [events] at member
    cases member
  · rw [events, List.mem_singleton] at member
    rw [member, Event.of]

theorem receiveLoop_at (book : AlertBook) (alerts : List Alert) (now : ℚ) :
    ∀ event ∈ (book.receiveLoop now alerts).2, event.at_ = now := by
  induction alerts generalizing book with
  | nil =>
    intro event member
    cases member
  | cons alert rest ih =>
    intro event member
    rcases List.mem_append.mp member with here | later
    · exact receiveOne_at book alert now event here
    · exact ih _ event later

theorem ack_at {fingerprint acker : String} {note : Option String} {event : Event}
    (acked : (book.ack fingerprint acker note now).2 = some event) : event.at_ = now := by
  rw [AlertBook.ack] at acked
  split at acked
  · cases acked
  · dsimp only at acked
    split at acked <;> cases acked <;> rfl

end Book

section Service

theorem slots_nodup (config : Config) : config.slots.Nodup := by
  apply List.Nodup.of_map Prod.snd
  rw [Config.slots, List.zipIdx_map_snd]
  exact List.nodup_range' ..

variable (config : Config) (world : World)

theorem attempt_book (service : Service) (slot : Slot) (message : Message) :
    (service.attempt config world slot message).2.book = service.book :=
  (attempt_spec config world service slot message).1

theorem steady_announceOn {now : ℚ} {service : Service} {event : Event} (at_ : event.at_ = now)
    (steady : service.book.Steady now) (slot : Slot) :
    (service.announceOn config world event slot).book.Steady now := by
  rw [Service.announceOn]
  split
  · dsimp only
    split
    · dsimp only
      rw [attempt_book, at_]
      exact steady_noteNotified steady _ _
    · rw [attempt_book]
      exact steady
  · exact steady

theorem steady_announce {now : ℚ} {service : Service} {event : Event} (at_ : event.at_ = now)
    (steady : service.book.Steady now) :
    (service.announce config world event).book.Steady now := by
  rw [Service.announce]
  apply List.foldlRecOn config.slots (motive := fun service : Service => service.book.Steady now) _ steady
  intro service steady slot member
  exact steady_announceOn config world at_ steady slot

theorem steady_receive {now : ℚ} {service : Service} (steady : service.book.Steady now)
    (alerts : List Alert) : (service.receive config world alerts now).book.Steady now := by
  rw [Service.receive]
  apply List.foldlRecOn (motive := fun service : Service => service.book.Steady now)
  · apply steady_receiveLoop
    exact steady
  · intro service steady event member
    exact steady_announce config world (receiveLoop_at _ alerts now event member) steady

theorem steady_ackService {now : ℚ} {service : Service} (steady : service.book.Steady now)
    (fingerprint acker : String) (note : Option String) :
    (service.ack config world fingerprint acker note now).book.Steady now := by
  have acked := steady_ack steady fingerprint acker note
  rw [Service.ack]
  split
  · exact acked
  · rename_i event made
    exact steady_announce config world (ack_at made) acked

theorem pump_book (service : Service) (now : ℚ) : (service.pump world now).book = service.book := by
  have loop : ∀ (due : List Pending) (service : Service),
      (Service.pumpLoop world now due service).book = service.book := by
    intro due
    induction due with
    | nil => exact fun service => rfl
    | cons item later ih =>
      intro service
      rw [Service.pumpLoop]
      split
      · exact ih service
      · rw [ih, (retry_spec world service item later).1]
  exact loop _ _

/-- One channel's turn: nothing, or a repeat that was due. -/
theorem repeatOn_cases {fingerprint : String} {service : Service} {entry : ActiveAlert}
    (found : service.book.active.get? fingerprint = some entry) (slot : Slot) (now : ℚ) :
    (service.repeatOn config world now fingerprint slot).book.active = service.book.active ∨
    ∃ every delivered, slot.1.repeatS = some every ∧ wants slot entry.alert.severity = true ∧
      repeatDue entry slot every now = true ∧
      (service.repeatOn config world now fingerprint slot).book.active =
        service.book.active.set fingerprint (entry.repeated slot now delivered) := by
  rw [Service.repeatOn, found]
  cases interval : slot.1.repeatS with
  | none => exact Or.inl rfl
  | some every =>
    dsimp only
    split
    · rename_i told
      rw [Bool.and_eq_true] at told
      let result := service.attempt config world slot (render (.of .repeat entry.alert now))
      refine Or.inr ⟨every, result.1, rfl, told.1, told.2, ?_⟩
      dsimp only
      rw [attempt_book]
    · exact Or.inl rfl

/-- An alert in the middle of its tick: repeats on the channels whose turn is still to
come are all from before the tick, and so are notifications, unless they are of this
tick. -/
structure Midway (before : ActiveAlert) (now : ℚ) (slots : List Slot) (entry : ActiveAlert) :
    Prop where
  steady : entry.Steady now
  alert : entry.alert = before.alert
  old : ∀ made ∈ entry.repeats, made.slot ∈ slots → made ∈ before.repeats
  told : ∀ name, entry.lastNotified.get? name = before.lastNotified.get? name ∨
    entry.lastNotified.get? name = some now

/-- Where a channel is due, each of its repeats so far is its interval ago. -/
theorem Midway.apart {before entry : ActiveAlert} {now every : ℚ} {slot : Slot} {rest : List Slot}
    (midway : Midway before now (slot :: rest) entry)
    (patient : ∀ made ∈ before.repeats, tooSoon before now made = false)
    (interval : slot.1.repeatS = some every) (wanted : wants slot entry.alert.severity = true)
    (due : repeatDue entry slot every now = true) (delivered : Bool) :
    ∀ made ∈ entry.repeats, Apart made ⟨slot, now, delivered⟩ := by
  intro made member same other equal
  have own : made.slot = slot := same
  have amount : every = other := Option.some.inj (interval.symm.trans equal)
  have past := midway.steady.past made member
  have early := midway.old made member (by simp [own])
  rw [← amount]
  change every ≤ now - made.at_
  cases atOnce : made.delivered with
  | true =>
    obtain ⟨last, found, order⟩ := midway.steady.noted made member atOnce
    rw [own] at found
    have ago := repeatDue_some due found
    linarith
  | false =>
    rcases midway.told slot.1.name with kept | now_
    · have dueBefore : repeatDue before slot every now = true := by
        rw [repeatDue, kept] at due
        exact due
      have calm := patient made early
      rw [midway.alert] at wanted
      simp [tooSoon, own, interval, atOnce, wanted, dueBefore] at calm
      linarith
    · have ago := repeatDue_some due now_
      linarith

theorem Midway.skip {before entry : ActiveAlert} {now : ℚ} {slot : Slot} {rest : List Slot}
    (midway : Midway before now (slot :: rest) entry) : Midway before now rest entry := by
  refine ⟨midway.steady, midway.alert, ?_, midway.told⟩
  intro made member later
  exact midway.old made member (List.mem_cons_of_mem slot later)

theorem Midway.repeated {before entry : ActiveAlert} {now : ℚ} {slot : Slot} {rest : List Slot}
    (midway : Midway before now (slot :: rest) entry) (distinct : slot ∉ rest) {delivered : Bool}
    (apart : ∀ made ∈ entry.repeats, Apart made ⟨slot, now, delivered⟩) :
    Midway before now rest (entry.repeated slot now delivered) := by
  refine ⟨steady_repeated midway.steady apart, midway.alert, ?_, ?_⟩
  · intro made member later
    rcases List.mem_append.mp member with old | last
    · exact midway.old made old (List.mem_cons_of_mem slot later)
    · rw [List.mem_singleton.mp last] at later
      exact absurd later distinct
  · intro name
    cases delivered with
    | false => exact midway.told name
    | true =>
      have lookup := entry.lastNotified.get?_set slot.1.name now name
      by_cases same : slot.1.name = name
      · rw [if_pos same] at lookup
        exact Or.inr lookup
      · rw [if_neg same] at lookup
        rcases midway.told name with kept | now_
        · exact Or.inl (lookup.trans kept)
        · exact Or.inr (lookup.trans now_)

/-- All channels' turns for one alert; the other alerts are left alone. -/
theorem repeatOn_loop {now : ℚ} {fingerprint : String} {before : ActiveAlert}
    (patient : ∀ made ∈ before.repeats, tooSoon before now made = false) (slots : List Slot)
    (nodup : slots.Nodup) (service : Service) (entry : ActiveAlert)
    (found : service.book.active.get? fingerprint = some entry)
    (midway : Midway before now slots entry) :
    ∃ final, final.Steady now ∧ ∀ other,
      (slots.foldl (Service.repeatOn config world now fingerprint) service).book.active.get? other =
        if fingerprint = other then some final else service.book.active.get? other := by
  induction slots generalizing service entry with
  | nil =>
    refine ⟨entry, midway.steady, ?_⟩
    intro other
    by_cases same : fingerprint = other
    · rw [if_pos same, ← same]
      exact found
    · rw [if_neg same]
      rfl
  | cons slot rest ih =>
    rw [List.nodup_cons] at nodup
    rw [List.foldl_cons]
    rcases repeatOn_cases config world found slot now with same |
        ⟨every, delivered, interval, wanted, due, active⟩
    · have still := found
      rw [← same] at still
      obtain ⟨final, steady, lookup⟩ := ih nodup.2 _ entry still midway.skip
      refine ⟨final, steady, ?_⟩
      intro other
      rw [lookup other, same]
    · have apart := midway.apart patient interval wanted due delivered
      have fresh : (service.repeatOn config world now fingerprint slot).book.active.get?
          fingerprint = some (entry.repeated slot now delivered) := by
        rw [active, Dict.get?_set, if_pos rfl]
      obtain ⟨final, steady, lookup⟩ := ih nodup.2 _ _ fresh (midway.repeated nodup.1 apart)
      refine ⟨final, steady, ?_⟩
      intro other
      rw [lookup other, active, Dict.get?_set]
      split <;> rfl

/-- The alerts whose turn is still to come are as they were before the tick. -/
theorem repeatDue_loop {now : ℚ} (entries : List (String × ActiveAlert))
    (nodup : (entries.map Prod.fst).Nodup)
    (patient : ∀ entry ∈ entries, ∀ made ∈ entry.2.repeats, tooSoon entry.2 now made = false)
    (service : Service) (steady : service.book.Steady now)
    (untouched : ∀ entry ∈ entries, service.book.active.get? entry.1 = some entry.2) :
    (entries.foldl (fun service entry =>
      config.slots.foldl (Service.repeatOn config world now entry.1) service)
        service).book.Steady now := by
  induction entries generalizing service with
  | nil => exact steady
  | cons entry rest ih =>
    rw [List.map_cons, List.nodup_cons] at nodup
    have found := untouched entry List.mem_cons_self
    have midway : Midway entry.2 now config.slots entry.2 := by
      refine ⟨steady entry.1 entry.2 found, rfl, fun made member _ => member, ?_⟩
      exact fun name => Or.inl rfl
    obtain ⟨final, fine, lookup⟩ := repeatOn_loop config world
      (patient entry List.mem_cons_self) config.slots (slots_nodup config) service entry.2 found
      midway
    rw [List.foldl_cons]
    apply ih nodup.2 (fun other member => patient other (List.mem_cons_of_mem entry member))
    · intro fingerprint other present
      rw [lookup] at present
      split at present
      · cases present
        exact fine
      · exact steady fingerprint other present
    · intro other member
      have distinct : entry.1 ≠ other.1 := by
        intro same
        exact nodup.1 (same ▸ List.mem_map_of_mem member)
      rw [lookup, if_neg distinct]
      exact untouched other (List.mem_cons_of_mem entry member)

theorem steady_tick {now monotonic : ℚ} {service : Service} (steady : service.book.Steady now)
    (patient : service.patient (.tick now monotonic) = true) :
    (service.tick config world now monotonic).book.Steady now := by
  rw [Service.tick, pump_book]
  apply repeatDue_loop
  · exact service.book.active.nodup.sublist (List.filter_sublist.map Prod.fst)
  · intro entry member made present
    have all := List.all_eq_true.mp (List.all_eq_true.mp patient entry member) made present
    rwa [Bool.not_eq_true'] at all
  · exact steady
  · intro entry member
    exact (service.book.active.get?_eq_some entry.1 entry.2).mpr (List.mem_of_mem_filter member)

/-- One happening, on whatever the channels do. -/
theorem steady_step {service next : Service} {happening : Happening}
    (steady : service.book.Steady service.clock) (patient : service.patient happening = true)
    (taken : service.step config world happening = some next) : next.book.Steady next.clock := by
  unfold Service.step at taken
  split at taken
  · cases taken
  · rename_i order
    have now : service.book.Steady happening.now := by
      intro fingerprint entry found
      exact (steady fingerprint entry found).later (not_lt.mp order)
    cases taken
    cases happening with
    | receive alerts now_ => exact steady_receive config world now alerts
    | ack fingerprint acker note now_ =>
      exact steady_ackService config world now fingerprint acker note
    | tick now_ monotonic => exact steady_tick config world now patient

end Service

/-- Over any receipts, acknowledgements and ticks, and whatever the channels do: repeats
of one alert on one channel are its interval apart, as long as no tick finds the channel
due too soon after a repeat that was not delivered at once. -/
theorem paced_of_patient (config : Config) (world : World) (heartbeatRule : String) (clock : ℚ)
    (happenings : List Happening)
    (patient : Machine.Along (Service.step config world)
      (fun service happening => service.patient happening = true) (.new heartbeatRule clock)
      happenings) :
    Machine.Always (Service.step config world) Service.Paced (.new heartbeatRule clock)
      happenings := by
  apply Machine.always_of_along (fun service => service.book.Steady service.clock)
  · intro service steady fingerprint entry found
    exact (steady fingerprint entry found).paced
  · intro service happening next steady patient taken
    exact steady_step config world steady patient taken
  · intro fingerprint entry found
    cases found
  · exact patient

def oilPressure : Alert :=
  { fingerprint := "oil", name := "oil-pressure", status := .firing, severity := "critical",
    startedAt := 0, labels := Dict.empty, annotations := Dict.empty, ruleUid := none,
    summary := "oil pressure" }

/-- Phones that are told every five minutes. -/
def phones : Config :=
  { channels := [{ name := "phones", minSeverity := "critical", repeatS := some 300 }],
    retryDeadlineS := 1800 }

/-- The phones are out of reach after the first message. -/
def outage : World :=
  { outcome := fun call => if call = 0 then .delivered else .retryable,
    monotonic := fun _ => 300 }

theorem paced_outage :
    Machine.Always (Service.step phones outage) Service.Paced (.new "heartbeat" 0)
      [.receive [oilPressure] 0, .tick 300 300, .tick 600 301] :=
  paced_of_patient phones outage "heartbeat" 0 _ (Machine.along_of_checks _ _ (by decide +kernel))

/-- Two ticks a second apart make two repeats. -/
theorem outage_not_paced :
    ¬ Machine.Always (Service.step phones outage) Service.Paced (.new "heartbeat" 0)
      [.receive [oilPressure] 0, .tick 300 300, .tick 301 301] := by
  intro always
  have made : ((Machine.run (Service.step phones outage) (.new "heartbeat" 0)
      [.receive [oilPressure] 0, .tick 300 300, .tick 301 301]).bind fun service =>
        (service.book.active.get? "oil").map ActiveAlert.repeats) =
      some [⟨(⟨"phones", "critical", some 300⟩, 0), 300, false⟩,
        ⟨(⟨"phones", "critical", some 300⟩, 0), 301, false⟩] := by decide +kernel
  obtain ⟨final, reached, found⟩ := Option.bind_eq_some_iff.mp made
  obtain ⟨entry, active, repeats⟩ := Option.map_eq_some_iff.mp found
  have paced := (always.final reached) "oil" entry active
  rw [repeats] at paced
  have apart := (List.pairwise_cons.mp paced).1 _ List.mem_cons_self rfl 300 rfl
  exact absurd apart (by decide +kernel)

end OpenLaps.Notifier

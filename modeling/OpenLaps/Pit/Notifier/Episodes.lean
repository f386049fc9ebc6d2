import OpenLaps.Lib.Machine
import OpenLaps.Pit.Notifier.Alerts

/- Acknowledgements and the episodes they are for. An episode of an alert is named by
its fingerprint and the start its latest firing notification gives; the book keeps
alerts by fingerprint alone. -/
namespace OpenLaps.Notifier

/-- The book, and beside it what has been seen of each fingerprint: the start of its
latest firing notification, and the episodes that were acknowledged while active. -/
structure Watched where
  book : AlertBook
  latest : Dict String ℚ
  acked : List (String × ℚ)

def Watched.new (heartbeatRule : String) : Watched :=
  { book := .new heartbeatRule, latest := Dict.empty, acked := [] }

/-- What reaches the book: the alerts of its notifications one by one, and
acknowledgements. -/
inductive Input where
  | alert (alert : Alert) (now : ℚ)
  | ack (fingerprint : String) (acker : String) (note : Option String) (now : ℚ)

/-- A firing notification about an alert that the book keeps. -/
def Watched.fires (watched : Watched) (alert : Alert) : Bool :=
  !watched.book.isHeartbeat alert && alert.status = .firing

def Watched.step (watched : Watched) : Input → Option Watched
  | .alert alert now => some
      { watched with
        book := (watched.book.receiveOne alert now).1,
        latest := if watched.fires alert then watched.latest.set alert.fingerprint alert.startedAt
          else watched.latest }
  | .ack fingerprint acker note now => some
      { watched with
        book := (watched.book.ack fingerprint acker note now).1,
        acked := match watched.book.active.get? fingerprint, watched.latest.get? fingerprint with
          | some _, some startedAt => watched.acked ++ [(fingerprint, startedAt)]
          | _, _ => watched.acked }

/-- What one notification or acknowledgement brings. -/
inductive Request where
  | notification (alerts : List Alert) (now : ℚ)
  | ack (fingerprint : String) (acker : String) (note : Option String) (now : ℚ)

def Request.inputs : Request → List Input
  | .notification alerts now => alerts.map fun alert => .alert alert now
  | .ack fingerprint acker note now => [.ack fingerprint acker note now]

/-- Whatever counts as acknowledged was acknowledged in its current episode. -/
def OwnAck (watched : Watched) : Prop :=
  ∀ fingerprint entry, watched.book.active.get? fingerprint = some entry →
    entry.acknowledged = true →
      ∃ startedAt, watched.latest.get? fingerprint = some startedAt ∧
        (fingerprint, startedAt) ∈ watched.acked

/-- The notification starts an episode later than the latest one seen. -/
def Watched.newer (watched : Watched) (alert : Alert) : Bool :=
  match watched.latest.get? alert.fingerprint with
  | none => true
  | some startedAt => startedAt < alert.startedAt

/-- The alert is reported as a new firing and stands unacknowledged. -/
def Reported (watched : Watched) (alert : Alert) (now : ℚ) : Prop :=
  (watched.book.receiveOne alert now).2 = [.of .firing alert now] ∧
    ∃ entry, (watched.book.receiveOne alert now).1.active.get? alert.fingerprint = some entry ∧
      entry.alert = alert ∧ entry.acknowledged = false

/-- What is asked of a step: own acknowledgements only, and every newer episode
reported. -/
def Watched.Meets (watched : Watched) (input : Input) : Prop :=
  (∀ next, watched.step input = some next → OwnAck next) ∧
    match input with
    | .alert alert now =>
      watched.fires alert = true → watched.newer alert = true → Reported watched alert now
    | .ack _ _ _ _ => True

/-- A firing notification for an alert the book still has starts no newer episode,
and where the alert is acknowledged, it names an episode that was. -/
def Watched.Clean (watched : Watched) : Input → Prop
  | .alert alert _ => watched.fires alert = true →
      ∀ entry, watched.book.active.get? alert.fingerprint = some entry →
        watched.newer alert = false ∧
          (entry.acknowledged = true → (alert.fingerprint, alert.startedAt) ∈ watched.acked)
  | .ack _ _ _ _ => True

/-- Every alert of the book has been seen firing, and acknowledgements are own. -/
structure Watched.Sound (watched : Watched) : Prop where
  seen : ∀ fingerprint entry, watched.book.active.get? fingerprint = some entry →
    (watched.latest.get? fingerprint).isSome = true
  own : OwnAck watched

theorem new_sound (heartbeatRule : String) : (Watched.new heartbeatRule).Sound := by
  constructor
  · intro fingerprint entry found
    cases found
  · intro fingerprint entry found
    cases found

section Steps

/-- An alert leaves what is known of other alerts alone. -/
theorem step_other {watched next : Watched} {alert : Alert} {now : ℚ}
    (taken : watched.step (.alert alert now) = some next) {other : String}
    (differs : alert.fingerprint ≠ other) :
    next.book.active.get? other = watched.book.active.get? other ∧
      next.latest.get? other = watched.latest.get? other ∧ next.acked = watched.acked := by
  cases taken
  refine ⟨?_, ?_, rfl⟩
  · rcases receiveOne_cases watched.book alert now with ⟨-, active, -⟩ | ⟨-, -, -, active, -⟩ |
        ⟨current, -, -, -, active, -⟩ | ⟨current, -, -, -, active, -⟩
    · rw [active]
    · rw [active, Dict.get?_set, if_neg differs]
    · rw [active, Dict.get?_set, if_neg differs]
    · rw [active, Dict.get?_erase, if_neg differs]
  · dsimp only
    split
    · rw [Dict.get?_set, if_neg differs]
    · rfl

/-- The alert itself, where the book has it afterwards. -/
theorem step_own {watched next : Watched} {alert : Alert} {now : ℚ} {entry : ActiveAlert}
    (sound : watched.Sound) (clean : watched.Clean (.alert alert now))
    (taken : watched.step (.alert alert now) = some next)
    (present : next.book.active.get? alert.fingerprint = some entry) :
    ∃ startedAt, next.latest.get? alert.fingerprint = some startedAt ∧
      (entry.acknowledged = true → (alert.fingerprint, startedAt) ∈ next.acked) := by
  cases taken
  rcases receiveOne_cases watched.book alert now with ⟨quiet, active, -⟩ |
      ⟨heartbeat, status, absent, active, -⟩ | ⟨current, heartbeat, status, found, active, -⟩ |
      ⟨current, heartbeat, status, found, active, -⟩
  · have silent : watched.fires alert = false := by
      rcases quiet with heartbeat | resolved
      · simp [Watched.fires, heartbeat]
      · simp [Watched.fires, resolved.1]
    rw [active] at present
    rw [silent]
    obtain ⟨startedAt, started⟩ :=
      Option.isSome_iff_exists.mp (sound.seen alert.fingerprint entry present)
    refine ⟨startedAt, started, ?_⟩
    intro acknowledged
    obtain ⟨when_, latest, member⟩ := sound.own alert.fingerprint entry present acknowledged
    cases latest.symm.trans started
    exact member
  · have fires : watched.fires alert = true := by simp [Watched.fires, heartbeat, status]
    rw [active, Dict.get?_set, if_pos rfl] at present
    rw [fires, if_pos rfl, Dict.get?_set, if_pos rfl]
    cases present
    refine ⟨alert.startedAt, rfl, ?_⟩
    intro acknowledged
    cases acknowledged
  · have fires : watched.fires alert = true := by simp [Watched.fires, heartbeat, status]
    rw [active, Dict.get?_set, if_pos rfl] at present
    rw [fires, if_pos rfl, Dict.get?_set, if_pos rfl]
    cases present
    exact ⟨alert.startedAt, rfl, (clean fires current found).2⟩
  · rw [active, Dict.get?_erase, if_pos rfl] at present
    cases present

theorem sound_alert {watched next : Watched} {alert : Alert} {now : ℚ} (sound : watched.Sound)
    (clean : watched.Clean (.alert alert now)) (taken : watched.step (.alert alert now) = some next) :
    next.Sound := by
  constructor
  · intro fingerprint entry present
    by_cases same : alert.fingerprint = fingerprint
    · rw [← same] at present ⊢
      obtain ⟨startedAt, started, -⟩ := step_own sound clean taken present
      rw [started]
      rfl
    · obtain ⟨active, latest, -⟩ := step_other taken same
      rw [active] at present
      rw [latest]
      exact sound.seen fingerprint entry present
  · intro fingerprint entry present acknowledged
    by_cases same : alert.fingerprint = fingerprint
    · rw [← same] at present ⊢
      obtain ⟨startedAt, started, member⟩ := step_own sound clean taken present
      exact ⟨startedAt, started, member acknowledged⟩
    · obtain ⟨active, latest, acked⟩ := step_other taken same
      rw [active] at present
      rw [latest, acked]
      exact sound.own fingerprint entry present acknowledged

theorem sound_ack {watched next : Watched} {fingerprint acker : String} {note : Option String}
    {now : ℚ} (sound : watched.Sound)
    (taken : watched.step (.ack fingerprint acker note now) = some next) : next.Sound := by
  cases taken
  obtain ⟨seen, own⟩ := sound
  cases found : watched.book.active.get? fingerprint with
  | none =>
    have same : watched.book.ack fingerprint acker note now = (watched.book, none) := by
      simp [AlertBook.ack, found]
    rw [same]
    exact ⟨seen, own⟩
  | some current =>
    obtain ⟨startedAt, started⟩ := Option.isSome_iff_exists.mp (seen fingerprint current found)
    rw [started]
    have kept : ∀ other entry, other ≠ fingerprint →
        (watched.book.ack fingerprint acker note now).1.active.get? other = some entry →
          watched.book.active.get? other = some entry := by
      intro other entry differs present
      simp only [AlertBook.ack, found] at present
      split at present
      · rw [Dict.get?_erase, if_neg (Ne.symm differs)] at present
        exact present
      · rw [Dict.get?_set, if_neg (Ne.symm differs)] at present
        exact present
    constructor
    · intro other entry present
      by_cases same : other = fingerprint
      · rw [same, started]
        rfl
      · exact seen other entry (kept other entry same present)
    · intro other entry present acknowledged
      by_cases same : other = fingerprint
      · exact ⟨startedAt, same ▸ started, List.mem_append_right _ (by simp [same])⟩
      · obtain ⟨when_, latest, member⟩ :=
          own other entry (kept other entry same present) acknowledged
        exact ⟨when_, latest, List.mem_append_left _ member⟩

theorem sound_step {watched next : Watched} {input : Input} (sound : watched.Sound)
    (clean : watched.Clean input) (taken : watched.step input = some next) : next.Sound := by
  cases input with
  | alert alert now => exact sound_alert sound clean taken
  | ack fingerprint acker note now => exact sound_ack sound taken

/-- A newer episode is lost exactly where the book still has the alert. -/
theorem reported_of_clean {watched : Watched} {alert : Alert} {now : ℚ}
    (clean : watched.Clean (.alert alert now)) (fires : watched.fires alert = true)
    (newer : watched.newer alert = true) : Reported watched alert now := by
  have firing : watched.book.isHeartbeat alert = false ∧ alert.status = .firing := by
    simpa [Watched.fires] using fires
  rcases receiveOne_cases watched.book alert now with ⟨quiet, -, -⟩ |
      ⟨-, -, absent, active, events⟩ | ⟨current, -, -, found, -, -⟩ | ⟨current, -, status, -⟩
  · rcases quiet with heartbeat | resolved
    · rw [firing.1] at heartbeat
      cases heartbeat
    · rw [firing.2] at resolved
      cases resolved.1
  · refine ⟨events, .new alert now, ?_, rfl, rfl⟩
    rw [active, Dict.get?_set, if_pos rfl]
  · rw [(clean fires current found).1] at newer
    cases newer
  · rw [firing.2] at status
    cases status

theorem clean_of_meets {watched : Watched} {input : Input} (meets : watched.Meets input) :
    watched.Clean input := by
  cases input with
  | ack fingerprint acker note now => trivial
  | alert alert now =>
    intro fires entry found
    have firing : watched.book.isHeartbeat alert = false ∧ alert.status = .firing := by
      simpa [Watched.fires] using fires
    have silent : watched.book.receiveOne alert now =
        ({ watched.book with
            active := watched.book.active.set alert.fingerprint { entry with lastSeen := now } },
          []) := by
      simp [AlertBook.receiveOne, firing.1, firing.2, found]
    constructor
    · by_contra newer
      have reported := (meets.2 fires (Bool.of_not_eq_false newer)).1
      rw [silent] at reported
      cases reported
    · intro acknowledged
      have own := meets.1 _ rfl
      obtain ⟨startedAt, latest, member⟩ := own alert.fingerprint { entry with lastSeen := now }
        (by simp [silent, Dict.get?_set]) acknowledged
      rw [fires, if_pos rfl, Dict.get?_set, if_pos rfl] at latest
      cases latest
      exact member

theorem meets_iff_cleanInput {watched : Watched} (sound : watched.Sound) (input : Input) :
    watched.Meets input ↔ watched.Clean input := by
  refine ⟨clean_of_meets, ?_⟩
  intro clean
  refine ⟨fun next taken => (sound_step sound clean taken).own, ?_⟩
  cases input with
  | alert alert now => exact fun fires newer => reported_of_clean clean fires newer
  | ack fingerprint acker note now => trivial

end Steps

/-- Over any notifications and acknowledgements: acknowledgements cover their own
episodes and newer episodes are reported, exactly when no firing notification starts
a newer episode of an alert the book still has, and none names an unacknowledged
episode of one that is acknowledged. -/
theorem ownAck_along_iff_clean (heartbeatRule : String) (requests : List Request) :
    Machine.Along Watched.step Watched.Meets (.new heartbeatRule)
        (requests.flatMap Request.inputs) ↔
      Machine.Along Watched.step Watched.Clean (.new heartbeatRule)
        (requests.flatMap Request.inputs) := by
  apply Machine.along_congr Watched.Sound
  · intro watched input next sound clean taken
    exact sound_step sound clean taken
  · intro watched input next sound taken
    exact meets_iff_cleanInput sound input
  · exact new_sound heartbeatRule

/-- One alert of a rule, by the start of its episode. -/
def rpmAlert (startedAt : ℚ) : Alert :=
  { fingerprint := "rpm", name := "engine-speed", status := .firing, severity := "critical",
    startedAt := startedAt, labels := Dict.empty, annotations := Dict.empty, ruleUid := none,
    summary := "engine speed" }

/-- An episode, its acknowledgement, and a second episode with no end of the first in
between. -/
def missedResolution : List Request :=
  [.notification [rpmAlert 0] 1, .ack "rpm" "crew" none 2, .notification [rpmAlert 10] 11]

/-- The second episode is neither reported nor unacknowledged. -/
theorem missedResolution_silenced :
    ¬ ∀ (heartbeatRule : String) (requests : List Request),
      Machine.Along Watched.step Watched.Meets (.new heartbeatRule)
        (requests.flatMap Request.inputs) := by
  intro always
  have along := always "heartbeat" missedResolution
  have second := ((along _ rfl).2 _ rfl).2 _ rfl
  have reported := (second.1.2 (by decide +kernel) (by decide +kernel)).1
  exact absurd (congrArg List.length reported) (by decide +kernel)

end OpenLaps.Notifier

import OpenLaps.Lib.Machine
import OpenLaps.Pit.Gga

/- One caster connection of the NTRIP client (`pit/ntrip_client/service.py`): corrections
in, positions out, and when the client gives the caster up. Times are readings of the
monotonic clock. -/
namespace OpenLaps.Ntrip
open Gga

/-- The settings that `_stream` reads. -/
structure NtripSettings where
  enableGga : Bool
  ggaIntervalS : ℚ
  idleTimeoutS : ℚ

/-- How `_stream` comes back: shutdown, a read that timed out, a caster that closed the
connection, or an exception of a read, a publish or a write. -/
inductive Ending where
  | stopped
  | idle
  | closed
  | failed
  deriving DecidableEq, Repr

/-- `_stream` between two awaits, with the position that the other task keeps up to date. -/
structure Stream where
  lastLat : Option ℚ
  lastLon : Option ℚ
  readSince : ℚ
  ggaDue : ℚ
  published : List Bytes := []
  ggaSent : List Bytes := []
  ending : Option Ending := none
  deriving DecidableEq

/-- What happens on the connection: the position feed moves, a chunk arrives and the clock
is read after its publish and again after a write, or the loop comes to an end. -/
inductive Event where
  | lat (value : ℚ)
  | lon (value : ℚ)
  | chunk (data : Bytes) (arrived tested resumed : ℚ) (when : When)
  | idle (at_ : ℚ)
  | closed
  | stop
  | failed

/-- The stream as `_stream` begins it. -/
def opened (settings : NtripSettings) (lastLat lastLon : Option ℚ) (now : ℚ) : Stream where
  lastLat := lastLat
  lastLon := lastLon
  readSince := now
  ggaDue := now + settings.ggaIntervalS

/-- `_position`. -/
def Stream.position (stream : Stream) : Option (ℚ × ℚ) :=
  match stream.lastLat, stream.lastLon with
  | some lat, some lon => some (lat, lon)
  | _, _ => none

/-- The loop body after a chunk was read. -/
def Stream.onChunk (settings : NtripSettings) (stream : Stream) (data : Bytes)
    (tested resumed : ℚ) (when : When) : Stream :=
  let published := { stream with published := stream.published ++ [data], readSince := tested }
  if ¬ settings.enableGga ∨ tested < stream.ggaDue then published
  else
    { published with
      ggaSent := match stream.position with
        | some (lat, lon) => stream.ggaSent ++ [buildGga when lat lon]
        | none => stream.ggaSent
      ggaDue := resumed + settings.ggaIntervalS
      readSince := resumed }

/-- One event; `none` where it cannot happen. A read that returns nothing has waited for
the idle timeout, any other one has not. -/
def step (settings : NtripSettings) (stream : Stream) : Event → Option Stream
  | .lat value => some { stream with lastLat := some value }
  | .lon value => some { stream with lastLon := some value }
  | .chunk data arrived tested resumed when =>
    if stream.ending = none ∧ data ≠ [] ∧ stream.readSince ≤ arrived ∧
        arrived ≤ stream.readSince + settings.idleTimeoutS ∧ arrived ≤ tested ∧
        tested ≤ resumed then
      some (stream.onChunk settings data tested resumed when)
    else none
  | .idle at_ =>
    if stream.ending = none ∧ stream.readSince + settings.idleTimeoutS ≤ at_ then
      some { stream with ending := some .idle }
    else none
  | .closed => if stream.ending = none then some { stream with ending := some .closed } else none
  | .stop => if stream.ending = none then some { stream with ending := some .stopped } else none
  | .failed => if stream.ending = none then some { stream with ending := some .failed } else none

def run (settings : NtripSettings) : Stream → List Event → Option Stream :=
  Machine.run (step settings)

/-- A chunk whose publish ends at the given time or later. -/
def Event.publishedFrom (event : Event) (due : ℚ) : Prop :=
  match event with
  | .chunk _ _ tested _ _ => due ≤ tested
  | _ => False

instance (event : Event) (due : ℚ) : Decidable (event.publishedFrom due) := by
  cases event <;> unfold Event.publishedFrom <;> infer_instance

def Event.isIdle : Event → Bool
  | .idle _ => true
  | _ => false

/-- Both halves of a position are known. -/
def Located (stream : Stream) : Prop := stream.lastLat.isSome ∧ stream.lastLon.isSome

theorem Located.position {stream : Stream} (located : Located stream) :
    ∃ lat lon, stream.position = some (lat, lon) := by
  obtain ⟨lat, first⟩ := Option.isSome_iff_exists.mp located.1
  obtain ⟨lon, second⟩ := Option.isSome_iff_exists.mp located.2
  exact ⟨lat, lon, by rw [Stream.position, first, second]⟩

theorem onChunk_frame (settings : NtripSettings) (stream : Stream) (data : Bytes)
    (tested resumed : ℚ) (when : When) :
    (stream.onChunk settings data tested resumed when).lastLat = stream.lastLat ∧
      (stream.onChunk settings data tested resumed when).lastLon = stream.lastLon ∧
      (stream.onChunk settings data tested resumed when).ending = stream.ending := by
  unfold Stream.onChunk
  dsimp only
  split <;> exact ⟨rfl, rfl, rfl⟩

/-- What a chunk writes: nothing before a position is due, and one sentence after. -/
theorem onChunk_sent {settings : NtripSettings} (enabled : settings.enableGga = true)
    {stream : Stream} (located : Located stream) (data : Bytes) (tested resumed : ℚ) (when : When) :
    (tested < stream.ggaDue →
      (stream.onChunk settings data tested resumed when).ggaSent = stream.ggaSent ∧
      (stream.onChunk settings data tested resumed when).ggaDue = stream.ggaDue) ∧
    (stream.ggaDue ≤ tested →
      ∃ sentence, (stream.onChunk settings data tested resumed when).ggaSent =
        stream.ggaSent ++ [sentence]) := by
  unfold Stream.onChunk
  constructor
  · intro early
    rw [if_pos (Or.inr early)]
    exact ⟨rfl, rfl⟩
  · intro due
    obtain ⟨lat, lon, known⟩ := located.position
    have late : ¬ (¬ settings.enableGga = true ∨ tested < stream.ggaDue) := by
      rintro (disabled | early)
      · exact disabled enabled
      · exact absurd due (not_le.mpr early)
    rw [if_neg late, known]
    exact ⟨_, rfl⟩

section Steps

variable {settings : NtripSettings} {stream next : Stream} {event : Event}
  (taken : step settings stream event = some next)

include taken

theorem step_located (located : Located stream) : Located next := by
  cases event with
  | lat value =>
    cases taken
    exact ⟨rfl, located.2⟩
  | lon value =>
    cases taken
    exact ⟨located.1, rfl⟩
  | chunk data arrived tested resumed when =>
    obtain ⟨_, ⟨⟩⟩ := Option.ite_none_right_eq_some.mp taken
    obtain ⟨lat, lon, _⟩ := onChunk_frame settings stream data tested resumed when
    rw [Located, lat, lon]
    exact located
  | idle at_ =>
    obtain ⟨_, ⟨⟩⟩ := Option.ite_none_right_eq_some.mp taken
    exact located
  | closed | stop | failed =>
    obtain ⟨_, ⟨⟩⟩ := Option.ite_none_right_eq_some.mp taken
    exact located

/-- A sentence is written just at a chunk that is published when one is due. -/
theorem step_sent (enabled : settings.enableGga = true) (located : Located stream) :
    (¬ event.publishedFrom stream.ggaDue ∧ next.ggaSent = stream.ggaSent ∧
      next.ggaDue = stream.ggaDue) ∨
    (event.publishedFrom stream.ggaDue ∧ ∃ sentence, next.ggaSent = stream.ggaSent ++ [sentence]) := by
  cases event with
  | chunk data arrived tested resumed when =>
    obtain ⟨_, ⟨⟩⟩ := Option.ite_none_right_eq_some.mp taken
    obtain ⟨early, late⟩ := onChunk_sent enabled located data tested resumed when
    rcases lt_or_ge tested stream.ggaDue with before | due
    · exact Or.inl ⟨not_le.mpr before, early before⟩
    · exact Or.inr ⟨due, late due⟩
  | lat value | lon value =>
    cases taken
    exact Or.inl ⟨id, rfl, rfl⟩
  | idle at_ =>
    obtain ⟨_, ⟨⟩⟩ := Option.ite_none_right_eq_some.mp taken
    exact Or.inl ⟨id, rfl, rfl⟩
  | closed | stop | failed =>
    obtain ⟨_, ⟨⟩⟩ := Option.ite_none_right_eq_some.mp taken
    exact Or.inl ⟨id, rfl, rfl⟩

theorem step_ending :
    next.ending = some .idle ↔ stream.ending = some .idle ∨ event.isIdle = true := by
  cases event with
  | lat value | lon value =>
    cases taken
    simp [Event.isIdle]
  | chunk data arrived tested resumed when =>
    obtain ⟨_, ⟨⟩⟩ := Option.ite_none_right_eq_some.mp taken
    rw [(onChunk_frame settings stream data tested resumed when).2.2]
    simp [Event.isIdle]
  | idle at_ =>
    obtain ⟨_, ⟨⟩⟩ := Option.ite_none_right_eq_some.mp taken
    simp [Event.isIdle]
  | closed | stop | failed =>
    obtain ⟨running, ⟨⟩⟩ := Option.ite_none_right_eq_some.mp taken
    simp [Event.isIdle, running]

end Steps

section Runs

variable {settings : NtripSettings} {events : List Event} {stream final : Stream}

theorem run_ending (reached : run settings stream events = some final) :
    final.ending = some .idle ↔ stream.ending = some .idle ∨ ∃ event ∈ events, event.isIdle = true := by
  induction events generalizing stream with
  | nil =>
    cases reached
    simp
  | cons event rest ih =>
    obtain ⟨next, taken, later⟩ := Option.bind_eq_some_iff.mp reached
    rw [ih later, step_ending taken]
    simp [or_assoc]

theorem run_sent_kept (enabled : settings.enableGga = true) (located : Located stream)
    (reached : run settings stream events = some final) (sent : stream.ggaSent ≠ []) :
    final.ggaSent ≠ [] := by
  induction events generalizing stream with
  | nil =>
    cases reached
    exact sent
  | cons event rest ih =>
    obtain ⟨next, taken, later⟩ := Option.bind_eq_some_iff.mp reached
    apply ih (step_located taken located) later
    rcases step_sent taken enabled located with ⟨_, same, _⟩ | ⟨_, sentence, more⟩
    · rwa [same]
    · simp [more]

/-- While nothing has been written, the first sentence waits for a chunk that is published
when it is due. -/
theorem run_sent (enabled : settings.enableGga = true) (located : Located stream)
    (reached : run settings stream events = some final) (unsent : stream.ggaSent = []) :
    final.ggaSent ≠ [] ↔ ∃ event ∈ events, event.publishedFrom stream.ggaDue := by
  induction events generalizing stream with
  | nil =>
    cases reached
    simp [unsent]
  | cons event rest ih =>
    obtain ⟨next, taken, later⟩ := Option.bind_eq_some_iff.mp reached
    have known := step_located taken located
    rcases step_sent taken enabled located with ⟨early, same, due⟩ | ⟨late, sentence, more⟩
    · rw [ih known later (same.trans unsent), due]
      simp [early]
    · constructor
      · exact fun _ => ⟨event, List.mem_cons_self, late⟩
      · intro _
        exact run_sent_kept enabled known later (by simp [more])

end Runs

/-- The client never gives a caster up for its silence without having sent it a position. -/
def NeverUnheard (final : Stream) : Prop := final.ending = some .idle → final.ggaSent ≠ []

/-- With a position known from the start, a caster that the client gives up has been sent
one just when a chunk of its was published an interval or more after the connection. -/
theorem neverUnheard_iff (settings : NtripSettings) (enabled : settings.enableGga = true)
    (lat lon now : ℚ) (events : List Event) (final : Stream)
    (reached : run settings (opened settings (some lat) (some lon) now) events = some final) :
    NeverUnheard final ↔
      ((∃ event ∈ events, event.isIdle = true) →
        ∃ event ∈ events, event.publishedFrom (now + settings.ggaIntervalS)) := by
  have ended := run_ending reached
  have sent := run_sent enabled ⟨rfl, rfl⟩ reached rfl
  rw [NeverUnheard, ended, sent]
  simp [opened]

/-- The settings that a deployment has unless it says otherwise, with positions sent. -/
def tenOfThirty : NtripSettings := ⟨true, 10, 30⟩

/-- A mountpoint that waits for a position is given up without one. -/
theorem silent_caster_unheard :
    tenOfThirty.ggaIntervalS < tenOfThirty.idleTimeoutS ∧
      ∃ final, run tenOfThirty (opened tenOfThirty (some 51) (some 0) 100) [.idle 130] =
        some final ∧ ¬ NeverUnheard final := by
  refine ⟨by decide +kernel, { opened tenOfThirty (some 51) (some 0) 100 with
    ending := some .idle }, by decide +kernel, ?_⟩
  intro heard
  exact heard rfl rfl

/-- A caster that streams for a quarter of a minute has been sent a position. -/
theorem neverUnheard_streaming :
    ∃ final, run tenOfThirty (opened tenOfThirty (some 51) (some 0) 100)
        [.chunk [211] 115 115 116 noon, .idle 146] = some final ∧ NeverUnheard final := by
  obtain ⟨final, reached⟩ : ∃ final, run tenOfThirty (opened tenOfThirty (some 51) (some 0) 100)
      [.chunk [211] 115 115 116 noon, .idle 146] = some final :=
    Option.isSome_iff_exists.mp (by decide +kernel)
  refine ⟨final, reached, ?_⟩
  apply (neverUnheard_iff tenOfThirty rfl 51 0 100 _ final reached).mpr
  exact fun _ => ⟨_, List.mem_cons_self, by decide +kernel⟩

end OpenLaps.Ntrip

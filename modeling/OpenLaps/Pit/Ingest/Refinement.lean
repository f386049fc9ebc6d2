import OpenLaps.Pit.Ingest.HandleSteps
import OpenLaps.Pit.Ingest.FlushSteps

/- Every step of the writer with its consumer and its database is one action of
the cursor machine. -/
namespace OpenLaps.Ingest

variable {site : Site} {system next : System} {writer : IngestWriter} {phase : Phase}
  {event : Event}

theorem deliver_spec {consumer after : Consumer} {message : Msg}
    (delivered : consumer.deliver site.stream message = some after) :
    message ∈ site.stream ∧ after.acked = consumer.acked := by
  rw [Consumer.deliver] at delivered
  split at delivered
  · split at delivered
    · rename_i again
      cases delivered
      exact ⟨again.1, rfl⟩
    · cases delivered
  · split at delivered
    · rename_i first
      cases delivered
      exact ⟨List.mem_of_find?_eq_some first, rfl⟩
    · cases delivered

theorem deliverAll_spec {messages : List Msg} {consumer after : Consumer}
    (delivered : consumer.deliverAll site.stream messages = some after) :
    (∀ message ∈ messages, message ∈ site.stream) ∧ after.acked = consumer.acked := by
  induction messages generalizing consumer with
  | nil =>
    cases delivered
    exact ⟨fun _ member => absurd member List.not_mem_nil, rfl⟩
  | cons message rest ih =>
    rw [Consumer.deliverAll, List.foldlM_cons] at delivered
    obtain ⟨middle, first, later⟩ := Option.bind_eq_some_iff.mp delivered
    obtain ⟨listed, kept⟩ := deliver_spec first
    obtain ⟨others, unchanged⟩ := ih later
    refine ⟨?_, unchanged.trans kept⟩
    intro other member
    rcases List.mem_cons.mp member with rfl | old
    · exact listed
    · exact others other old

/-- A scan changes cache and key table only, and only by published registries. -/
theorem scanRegistries_spec {found : List Msg} {scanned : IngestWriter}
    (published : ∀ message ∈ found, message ∈ site.stream ∧
      message.subject = registrySubject site.settings.vehicleId)
    (learned : Learned site writer)
    (done : writer.scanRegistries site.settings found = .ok scanned) :
    Learned site scanned ∧ ∃ cache keys, scanned = { writer with cache := cache, keys := keys } := by
  induction found generalizing writer with
  | nil =>
    cases done
    exact ⟨learned, _, _, rfl⟩
  | cons message rest ih =>
    rw [IngestWriter.scanRegistries, List.foldlM_cons] at done
    obtain ⟨listed, subject⟩ := published message List.mem_cons_self
    cases reading : writer.readRegistry site.settings message with
    | error raised =>
      rw [reading] at done
      cases done
    | ok applied =>
      rw [reading] at done
      obtain ⟨known, _, _, rfl⟩ := readRegistry_spec site learned listed (Or.inr subject) reading
      obtain ⟨final, cache, keys, same⟩ :=
        ih (fun other member => published other (List.mem_cons_of_mem message member))
          known done
      exact ⟨final, cache, keys, same⟩

theorem grounded_new (site : Site) (cursor : Nat) :
    Grounded site (IngestWriter.new site.settings cursor) := by
  refine ⟨?_, rfl, fun _ member => nomatch member⟩
  intro registrySeq channels found
  cases found

/-- A scan ends the process, or leaves it with what the registries found teach. -/
theorem scan_cases {found : List Msg} {resume : IngestWriter → Process}
    (learned : Learned site writer)
    (taken : system.scan site writer found resume = some next) :
    next = system.kill ∨ ∃ cache keys,
      Learned site { writer with cache := cache, keys := keys } ∧
      next = { system with process := resume { writer with cache := cache, keys := keys } } := by
  rw [System.scan] at taken
  split at taken
  · rename_i scannable
    have published : ∀ message ∈ found, message ∈ site.stream ∧
        message.subject = registrySubject site.settings.vehicleId := by
      simpa [System.scannable] using scannable
    split at taken
    · cases taken
      exact Or.inl rfl
    · rename_i scanned done
      cases taken
      obtain ⟨known, cache, keys, same⟩ := scanRegistries_spec published learned done
      subst same
      exact Or.inr ⟨cache, keys, known, rfl⟩
  · cases taken

theorem refined_scan {found : List Msg} {resume : IngestWriter → Process}
    (resumed : ∀ scanned, ∃ health, resume scanned = .up { scanned with health := health } .top)
    (quiet : Quiet system event) (grounded : Grounded site writer)
    (viewed : system.view = system.upView writer)
    (taken : system.scan site writer found resume = some next) :
    Refined site system event next := by
  rcases scan_cases grounded.learned taken with killed | ⟨cache, keys, learned, moved⟩
  · rw [killed]
    exact refined_kill quiet
  · obtain ⟨health, process⟩ := resumed { writer with cache := cache, keys := keys }
    rw [moved]
    exact refined_stay quiet process ⟨learned, grounded.buffered, grounded.held⟩
      (fun message member => nomatch member) viewed.symm

theorem quiet_down (down : system.process = .down) (event : Event) : Quiet system event := by
  constructor
  · unfold System.commits
    rw [down]
  · unfold System.skips
    rw [down]

/-- All events but `handle` and `flush`. -/
def Event.routine : Event → Bool
  | .handle _ => false
  | .flush _ => false
  | _ => true

theorem quiet_routine (system : System) (routine : event.routine = true) :
    Quiet system event := by
  constructor
  · unfold System.commits
    split
    · cases routine
    · rfl
  · unfold System.skips
    split
    · cases routine
    · rfl

/-- A delivery, whether it reaches the writer or not. -/
theorem refined_deliver {messages : List Msg} {consumer : Consumer} {place : Phase}
    (quiet : Quiet system event) (up : system.process = .up writer place)
    (grounded : Grounded site writer)
    (delivered : system.consumer.deliverAll site.stream messages = some consumer)
    (received : ∀ message ∈ phase.messages, message ∈ messages) :
    Refined site system event
      { system with consumer := consumer, process := .up writer phase } := by
  have ⟨listed, acked⟩ := deliverAll_spec delivered
  have inStream : ∀ message ∈ phase.messages, message ∈ site.stream :=
    fun message member => listed message (received message member)
  refine refined_stay quiet rfl grounded inStream ?_
  rw [System.view_up up, System.upView, System.upView, acked]

/-- What one event does to a running process. -/
inductive Moved (site : Site) (system : System) (writer : IngestWriter) :
    Phase → Event → System → Prop where
  | fetch (messages : List Msg) (consumer : Consumer) (idle : writer.held = [])
      (delivered : system.consumer.deliverAll site.stream messages = some consumer) :
      Moved site system writer .top (.fetch messages)
        { system with consumer := consumer, process := .up writer (.handling messages) }
  | fetchFails (messages : List Msg) (consumer : Consumer)
      (delivered : system.consumer.deliverAll site.stream messages = some consumer) :
      Moved site system writer .top (.fetchFails messages)
        { system with consumer := consumer, process := .up writer .top }
  /-- Another place of the loop, with the same messages in hand. -/
  | turn (phase place : Phase) (event : Event) (held : List Msg) (paused : Bool)
      (routine : event.routine = true)
      (same : place.messages ++ held = phase.messages ++ writer.held)
      (whole : ∀ rest, place = .handling rest → held = []) :
      Moved site system writer phase event
        { system with process := .up { writer with held := held, paused := paused } place }
  | handle (message : Msg) (rest : List Msg) (lands : Bool) :
      Moved site system writer (.handling (message :: rest)) (.handle lands)
        (system.handle site writer message rest lands)
  | flush (after : After) (outcome : FlushOutcome) :
      Moved site system writer (.flushing after) (.flush outcome)
        (system.flush writer after outcome)
  | recover (registrySeq : Nat) (found : List Msg) (next : System)
      (taken : system.scan site writer found (System.recovered registrySeq) = some next) :
      Moved site system writer (.recovering registrySeq) (.recover found) next

theorem stepUp_cases (taken : system.stepUp site writer phase event = some next) :
    Moved site system writer phase event next := by
  have elsewhere : ∀ place : Phase, (∀ rest, place ≠ .handling rest) →
      ∀ rest, place = .handling rest → writer.held = [] :=
    fun _ other rest same => absurd same (other rest)
  -- one case for each place of the loop and the event it takes there
  unfold System.stepUp at taken
  split at taken
  · rw [System.fetch] at taken
    split at taken
    · cases taken
    · rename_i free
      obtain ⟨consumer, delivered, rfl⟩ := Option.map_eq_some_iff.mp taken
      have idle : writer.held = [] := by
        by_contra held
        exact free (Or.inr (Or.inl held))
      exact .fetch _ consumer idle delivered
  · rw [System.fetchFails] at taken
    split at taken
    · cases taken
    · obtain ⟨consumer, delivered, rfl⟩ := Option.map_eq_some_iff.mp taken
      exact .fetchFails _ consumer delivered
  · -- the held messages become the fetch
    split at taken
    · cases taken
    · cases taken
      exact .turn .top (.handling writer.held) .replay [] writer.paused rfl
        (List.append_nil writer.held) (fun _ _ => rfl)
  · -- the buffer is full
    split at taken
    · cases taken
    · cases taken
      exact .turn .top (.flushing .top) .pause writer.held true rfl rfl
        (elsewhere _ fun _ never => Phase.noConfusion never)
  · -- the loop ends
    split at taken
    · cases taken
      exact .turn .top (.flushing .exit) .leave writer.held writer.paused rfl rfl
        (elsewhere _ fun _ never => Phase.noConfusion never)
    · cases taken
  · cases taken
    exact .handle _ _ _
  · -- the end of a fetch, with a flush to follow or not
    split at taken
    · cases taken
      exact .turn (.handling []) (.flushing .top) (.settle _) writer.held writer.paused rfl rfl
        (elsewhere _ fun _ never => Phase.noConfusion never)
    · cases taken
      exact .turn (.handling []) .top (.settle _) writer.held writer.paused rfl rfl
        (elsewhere _ fun _ never => Phase.noConfusion never)
  · cases taken
    exact .flush _ _
  · exact .recover _ _ next taken
  · cases taken

theorem recovered_top (registrySeq : Nat) (scanned : IngestWriter) :
    ∃ health, System.recovered registrySeq scanned =
      .up { scanned with health := health } .top := by
  rw [System.recovered]
  split
  · exact ⟨_, rfl⟩
  · exact ⟨scanned.health, rfl⟩

theorem refined_stepUp (up : system.process = .up writer phase) (grounded : Grounded site writer)
    (listed : ∀ message ∈ phase.messages, message ∈ site.stream)
    (taken : system.stepUp site writer phase event = some next) :
    Refined site system event next := by
  have viewed : system.upView writer = system.view := (System.view_up up).symm
  cases stepUp_cases taken with
  | fetch messages consumer idle delivered =>
    exact refined_deliver (quiet_routine system rfl) up grounded delivered fun _ member => member
  | fetchFails messages consumer delivered =>
    exact refined_deliver (quiet_routine system rfl) up grounded delivered
      fun _ member => nomatch member
  | turn _ place _ held paused routine same whole =>
    have inHand : ∀ message ∈ place.messages ++ held, message ∈ site.stream := by
      intro message member
      rw [same] at member
      rcases List.mem_append.mp member with first | last
      · exact listed message first
      · exact grounded.held message last
    exact refined_stay (quiet_routine system routine) rfl
      ⟨grounded.learned, grounded.buffered,
        fun message member => inHand message (List.mem_append_right _ member)⟩
      (fun message member => inHand message (List.mem_append_left _ member)) viewed
  | handle message rest lands => exact refined_handle up grounded listed
  | flush after outcome => exact refined_flush up grounded
  | recover registrySeq found _ scanned =>
    exact refined_scan (recovered_top registrySeq) (quiet_routine system rfl) grounded
      viewed.symm scanned

theorem step_refined (valid : system.Valid site) (taken : system.step site event = some next) :
    Refined site system event next := by
  unfold System.step at taken
  split at taken
  · rename_i found down
    refine refined_scan (fun scanned => ⟨scanned.health, rfl⟩) (quiet_down down _)
      (grounded_new site system.db.cursor) ?_ taken
    rw [System.view, down, System.upView, valid.down down]
    rfl
  · cases taken
    exact refined_kill (quiet_routine system rfl)
  · rename_i writer phase up
    cases taken
    obtain ⟨grounded, listed⟩ := valid.up writer phase up
    refine refined_stay (quiet_routine system rfl) rfl
      ⟨grounded.learned, grounded.buffered, grounded.held⟩ listed ?_
    rw [System.view_up up]
    rfl
  · rename_i writer phase up _ _
    obtain ⟨grounded, listed⟩ := valid.up writer phase up
    exact refined_stepUp up grounded listed taken
  · cases taken

end OpenLaps.Ingest

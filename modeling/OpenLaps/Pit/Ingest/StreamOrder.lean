import OpenLaps.Pit.Ingest.Guarantees

/- Stalls, held messages and failing flushes leave the order of the stream alone:
what one process commits is a prefix of it. -/
namespace OpenLaps.Ingest

/-- In `messages` nothing of the stream above `bound` is overtaken. -/
def Ahead (stream : List Msg) (bound : Nat) (messages : List Msg) : Prop :=
  ∀ before message after, messages = before ++ message :: after → ∀ earlier ∈ stream,
    bound < earlier.sequence → earlier.sequence < message.sequence → earlier ∈ before

theorem Ahead.tail {stream : List Msg} {bound other : Nat} {message : Msg} {rest : List Msg}
    (ahead : Ahead stream bound (message :: rest)) (raised : bound ≤ other)
    (passed : message.sequence ≤ other) : Ahead stream other rest := by
  intro before next after split earlier listed above below
  have found := ahead (message :: before) next after (by rw [split]; rfl) earlier listed
    (by omega) below
  rcases List.mem_cons.mp found with same | member
  · rw [same] at above
    omega
  · exact member

/-- The head is the next message, unless it was seen before. -/
theorem Ahead.head {stream : List Msg} {bound : Nat} {message : Msg} {rest : List Msg}
    (ahead : Ahead stream bound (message :: rest)) (earlier : Msg) (listed : earlier ∈ stream)
    (above : bound < earlier.sequence) : message.sequence ≤ earlier.sequence := by
  by_contra below
  have found := ahead [] message rest rfl earlier listed above (by omega)
  cases found

theorem find_next (site : Site) (delivered : Nat) (message : Msg)
    (found : site.stream.find? (fun next => delivered < next.sequence) = some message)
    (other : Msg) (listed : other ∈ site.stream) (above : delivered < other.sequence) :
    message.sequence ≤ other.sequence := by
  obtain ⟨-, before, after, split, skipped⟩ := List.find?_eq_some_iff_append.mp found
  have ordered := site.ordered
  rw [split] at listed ordered
  rcases List.mem_append.mp listed with early | late
  · have low := skipped other early
    simp at low
    omega
  · rcases List.mem_cons.mp late with same | later
    · rw [same]
    · have order := (List.pairwise_append.mp ordered).2.1
      exact Nat.le_of_lt (List.rel_of_pairwise_cons order later)

/-- Deliveries overtake nothing that was not delivered before, and first
deliveries leave nothing out. -/
theorem deliverAll_ahead (site : Site) (messages : List Msg) (consumer after : Consumer)
    (delivered : consumer.deliverAll site.stream messages = some after) :
    Ahead site.stream consumer.delivered messages ∧
      ∀ message ∈ site.stream, consumer.delivered < message.sequence →
        message.sequence ≤ after.delivered → message ∈ messages := by
  induction messages generalizing consumer with
  | nil =>
    cases delivered
    refine ⟨?_, ?_⟩
    · intro before message rest split
      simp at split
    · intro message listed above below
      omega
  | cons message rest ih =>
    rw [Consumer.deliverAll, List.foldlM_cons] at delivered
    obtain ⟨middle, first, later⟩ := Option.bind_eq_some_iff.mp delivered
    obtain ⟨ahead, complete⟩ := ih middle later
    have step : (middle = consumer ∧ message.sequence ≤ consumer.delivered) ∨
        (middle.delivered = message.sequence ∧ consumer.delivered < message.sequence ∧
          ∀ other ∈ site.stream, consumer.delivered < other.sequence →
            message.sequence ≤ other.sequence) := by
      rw [Consumer.deliver] at first
      split at first
      · rename_i again
        split at first
        · cases first
          exact Or.inl ⟨rfl, again⟩
        · cases first
      · rename_i fresh
        split at first
        · rename_i found
          cases first
          exact Or.inr ⟨rfl, by omega, find_next site consumer.delivered message found⟩
        · cases first
    have listed : message ∈ site.stream := (deliver_spec first).1
    have least : ∀ other ∈ site.stream, consumer.delivered < other.sequence →
        message.sequence ≤ other.sequence := by
      intro other member above
      rcases step with ⟨-, again⟩ | ⟨-, -, next⟩
      · omega
      · exact next other member above
    -- the stream between the two counters is the message itself
    have between : ∀ other ∈ site.stream, consumer.delivered < other.sequence →
        other.sequence ≤ middle.delivered → other = message := by
      intro other member above below
      have lower := least other member above
      rcases step with ⟨same, -⟩ | ⟨moved, -, -⟩
      · rw [same] at below
        omega
      · exact site.sequence_inj member listed (by omega)
    refine ⟨?_, ?_⟩
    · intro before next others split earlier member above below
      cases before with
      | nil =>
        cases split
        have lower := least earlier member above
        omega
      | cons head front =>
        cases split
        by_cases passed : earlier.sequence ≤ middle.delivered
        · rw [between earlier member above passed]
          exact List.mem_cons_self
        · apply List.mem_cons_of_mem
          exact ahead front next others rfl earlier member (by omega) below
    · intro other member above below
      by_cases passed : other.sequence ≤ middle.delivered
      · rw [between other member above passed]
        exact List.mem_cons_self
      · exact List.mem_cons_of_mem message (complete other member (by omega) below)

/-- Where the writer stands in the stream. -/
structure Position where
  cursor : Nat
  maxSeq : Nat
  pending : List Msg

def IngestWriter.position (writer : IngestWriter) : Position :=
  ⟨writer.cursor, writer.maxSeq, writer.pending⟩

/-- What handling a message does to the position: it was seen, it is no batch
this build decodes, its generation is unknown, or it joins the buffer. -/
theorem handle_position {site : Site} {writer handled : IngestWriter} {message : Msg}
    {reply : Reply} (grounded : Grounded site writer) (here : message ∈ site.stream)
    (run : writer.handle site.settings message = .ok (handled, reply)) :
    handled.held = writer.held ∧
    (((message.sequence ≤ writer.cursor ∨ message.sequence ∈ writer.pending.map Msg.sequence) ∧
      reply = .acked ∧ handled.position = writer.position) ∨
    ((∀ batch, ¬ site.SupportedBatch message batch) ∧ reply = .acked ∧
      (handled.position = writer.position ∨
        handled.position = { writer.position with
          maxSeq := max writer.maxSeq message.sequence })) ∨
    (writer.cursor < message.sequence ∧
      message.sequence ∉ writer.pending.map Msg.sequence ∧
      (∃ batch, site.SupportedBatch message batch) ∧
      ((∃ registrySeq, reply = .stalled registrySeq ∧ handled.position = writer.position) ∨
        (reply = .buffered ∧ handled.position = { writer.position with
          maxSeq := max writer.maxSeq message.sequence
          pending := writer.pending ++ [message] })))) := by
  rw [← grounded.buffered]
  cases handle_cases grounded here run with
  | seen old => exact ⟨rfl, Or.inl ⟨old, rfl, rfl⟩⟩
  | registry above unseen kind cache keys learned =>
    refine ⟨rfl, Or.inr (Or.inl ⟨?_, rfl, Or.inl rfl⟩)⟩
    intro batch supported
    rw [supported.kind] at kind
    cases kind
  | unsupported above unseen none cache same => exact ⟨rfl, Or.inr (Or.inl ⟨none, rfl, Or.inr rfl⟩)⟩
  | stalled above unseen batch supported cache same =>
    exact ⟨rfl, Or.inr (Or.inr ⟨above, unseen, ⟨batch, supported⟩, Or.inl ⟨_, rfl, rfl⟩⟩)⟩
  | buffered above unseen batch supported channels cached taken done =>
    obtain ⟨converted, laps, lapRows, pitUpdates, health, -, same⟩ := bufferBatch_spec done
    subst same
    exact ⟨rfl, Or.inr (Or.inr ⟨above, unseen, ⟨batch, supported⟩, Or.inr ⟨rfl, rfl⟩⟩)⟩

/-- Every batch this build decodes comes after all earlier ones, except those
whose flush was refused twice. -/
def PrefixClosed (site : Site) (committed refused : List Nat) : Prop :=
  ∀ before sequence after, committed = before ++ sequence :: after → ∀ message batch,
    site.SupportedBatch message batch → message.sequence < sequence →
      message.sequence ∈ before ∨ message.sequence ∈ refused

theorem PrefixClosed.mono {site : Site} {committed refused : List Nat}
    (closed : PrefixClosed site committed refused) (more : List Nat) :
    PrefixClosed site committed (refused ++ more) := by
  intro before sequence after split message batch supported below
  rcases closed before sequence after split message batch supported below with earlier | dropped
  · exact Or.inl earlier
  · exact Or.inr (List.mem_append_left more dropped)

/-- Everything up to `bound` has been handled, everything delivered above it is
still to come, in order. -/
structure InOrder (site : Site) (position : Position) (upcoming : List Msg) (delivered : Nat)
    (committed refused : List Nat) (bound : Nat) : Prop where
  cursor_le : position.cursor ≤ bound
  highest_le : position.maxSeq ≤ bound
  pending_le : ∀ message ∈ position.pending, message.sequence ≤ position.maxSeq
  sorted : (position.pending.map Msg.sequence).Pairwise (· < ·)
  covered : ∀ message batch, site.SupportedBatch message batch → message.sequence ≤ bound →
    message.sequence ≤ position.cursor ∨ message.sequence ∈ position.pending.map Msg.sequence
  settled : ∀ message batch, site.SupportedBatch message batch → message.sequence ≤ bound →
    message.sequence ∈ committed ∨ message.sequence ∈ refused ∨
      message.sequence ∈ position.pending.map Msg.sequence
  ahead : Ahead site.stream bound upcoming
  complete : ∀ message ∈ site.stream, bound < message.sequence →
    message.sequence ≤ delivered → message ∈ upcoming

namespace InOrder

variable {site : Site} {position : Position} {upcoming rest : List Msg} {delivered bound : Nat}
  {committed refused : List Nat} {message : Msg}

/-- Above the bound the head of what is to come is the next message. -/
theorem next_eq
    (order : InOrder site position (message :: rest) delivered committed refused bound)
    (here : message ∈ site.stream) (other : Msg) (listed : other ∈ site.stream)
    (above : bound < other.sequence) (below : other.sequence ≤ max bound message.sequence) :
    other = message := by
  have least := order.ahead.head other listed above
  exact site.sequence_inj listed here (by omega)

theorem tail_complete
    (order : InOrder site position (message :: rest) delivered committed refused bound)
    (other : Msg) (listed : other ∈ site.stream)
    (above : max bound message.sequence < other.sequence) (below : other.sequence ≤ delivered) :
    other ∈ rest := by
  rcases List.mem_cons.mp (order.complete other listed (by omega) below) with same | member
  · rw [same] at above
    omega
  · exact member

/-- A message that brings nothing to the buffer. -/
theorem pass (order : InOrder site position (message :: rest) delivered committed refused bound)
    (here : message ∈ site.stream) (maxSeq : Nat) (raised : position.maxSeq ≤ maxSeq)
    (limit : maxSeq ≤ max bound message.sequence)
    (nothing : message.sequence ≤ bound ∨ ∀ batch, ¬ site.SupportedBatch message batch) :
    InOrder site { position with maxSeq := maxSeq } rest delivered committed refused
      (max bound message.sequence) := by
  have cursor := order.cursor_le
  have old : ∀ other batch, site.SupportedBatch other batch →
      other.sequence ≤ max bound message.sequence → other.sequence ≤ bound := by
    intro other batch supported below
    by_contra above
    have same := order.next_eq here other supported.listed (by omega) below
    rcases nothing with low | none
    · rw [same] at above
      omega
    · exact none batch (same ▸ supported)
  refine ⟨by show position.cursor ≤ _; omega, limit, ?_, order.sorted, ?_, ?_, ?_, ?_⟩
  · intro other member
    have below := order.pending_le other member
    show other.sequence ≤ maxSeq
    omega
  · intro other batch supported below
    exact order.covered other batch supported (old other batch supported below)
  · intro other batch supported below
    exact order.settled other batch supported (old other batch supported below)
  · exact order.ahead.tail (Nat.le_max_left _ _) (Nat.le_max_right _ _)
  · exact fun other listed above below => order.tail_complete other listed above below

/-- The next batch joins the buffer. -/
theorem take (order : InOrder site position (message :: rest) delivered committed refused bound)
    (here : message ∈ site.stream) (above : bound < message.sequence) :
    InOrder site { position with
      maxSeq := max position.maxSeq message.sequence
      pending := position.pending ++ [message] } rest delivered committed refused
      (max bound message.sequence) := by
  have cursor := order.cursor_le
  have highest := order.highest_le
  have listed : ∀ sequence, sequence ∈ (position.pending ++ [message]).map Msg.sequence ↔
      sequence ∈ position.pending.map Msg.sequence ∨ sequence = message.sequence := by
    intro sequence
    rw [List.map_append, List.mem_append, List.map_singleton, List.mem_singleton]
  have split : ∀ other batch, site.SupportedBatch other batch →
      other.sequence ≤ max bound message.sequence →
        other.sequence ≤ bound ∨ other.sequence = message.sequence := by
    intro other batch supported below
    by_cases low : other.sequence ≤ bound
    · exact Or.inl low
    · rw [order.next_eq here other supported.listed (by omega) below]
      exact Or.inr rfl
  refine ⟨by show position.cursor ≤ _; omega, by show max _ _ ≤ max _ _; omega, ?_, ?_, ?_, ?_,
    ?_, ?_⟩
  · intro other member
    show other.sequence ≤ max position.maxSeq message.sequence
    rcases List.mem_append.mp member with old | new
    · have below := order.pending_le other old
      omega
    · rw [List.mem_singleton.mp new]
      omega
  · show ((position.pending ++ [message]).map Msg.sequence).Pairwise (· < ·)
    rw [List.map_append, List.map_singleton, List.pairwise_append]
    refine ⟨order.sorted, List.pairwise_singleton _ _, ?_⟩
    intro sequence member last same
    obtain ⟨other, waiting, rfl⟩ := List.mem_map.mp member
    have below := order.pending_le other waiting
    rw [List.mem_singleton.mp same]
    omega
  · intro other batch supported below
    show other.sequence ≤ position.cursor ∨ other.sequence ∈ (position.pending ++ [message]).map _
    rw [listed]
    rcases split other batch supported below with low | same
    · rcases order.covered other batch supported low with done | waiting
      · exact Or.inl done
      · exact Or.inr (Or.inl waiting)
    · exact Or.inr (Or.inr same)
  · intro other batch supported below
    show _ ∨ _ ∨ other.sequence ∈ (position.pending ++ [message]).map _
    rw [listed]
    rcases split other batch supported below with low | same
    · rcases order.settled other batch supported low with done | dropped | waiting
      · exact Or.inl done
      · exact Or.inr (Or.inl dropped)
      · exact Or.inr (Or.inr (Or.inl waiting))
    · exact Or.inr (Or.inr (Or.inr same))
  · exact order.ahead.tail (Nat.le_max_left _ _) (Nat.le_max_right _ _)
  · exact fun other listed above below => order.tail_complete other listed above below

/-- A fetch, once everything delivered before has been handled. -/
theorem fetch (order : InOrder site position [] delivered committed refused bound)
    {consumer after : Consumer} (same : consumer.delivered = delivered) (messages : List Msg)
    (taken : consumer.deliverAll site.stream messages = some after) :
    InOrder site position messages after.delivered committed refused bound := by
  obtain ⟨ahead, complete⟩ := deliverAll_ahead site messages consumer after taken
  have fresh : ∀ other ∈ site.stream, bound < other.sequence →
      consumer.delivered < other.sequence := by
    intro other listed above
    by_contra low
    have none := order.complete other listed above (by omega)
    cases none
  refine ⟨order.cursor_le, order.highest_le, order.pending_le, order.sorted, order.covered,
    order.settled, ?_, ?_⟩
  · intro before next others split earlier listed above below
    exact ahead before next others split earlier listed (fresh earlier listed above) below
  · intro other listed above below
    exact complete other listed (fresh other listed above) below

/-- The buffer can be committed after what was committed before. -/
theorem closed (order : InOrder site position upcoming delivered committed refused bound)
    (closed : PrefixClosed site committed refused) :
    PrefixClosed site (committed ++ position.pending.map Msg.sequence) refused := by
  intro before sequence after split message batch supported below
  have buffered : ∀ extra, before = committed ++ extra →
      position.pending.map Msg.sequence = extra ++ sequence :: after →
        message.sequence ∈ before ∨ message.sequence ∈ refused := by
    intro extra front waiting
    have member : sequence ∈ position.pending.map Msg.sequence := by
      rw [waiting]
      simp
    obtain ⟨last, listed, same⟩ := List.mem_map.mp member
    have low := order.pending_le last listed
    have high := order.highest_le
    rw [front]
    rcases order.settled message batch supported (by omega) with done | dropped | pending
    · exact Or.inl (List.mem_append_left extra done)
    · exact Or.inr dropped
    · have sorted := order.sorted
      rw [waiting] at pending sorted
      rcases List.mem_append.mp pending with earlier | later
      · exact Or.inl (List.mem_append_right committed earlier)
      · have increasing := (List.pairwise_append.mp sorted).2.1
        rcases List.mem_cons.mp later with equal | beyond
        · omega
        · have larger := List.rel_of_pairwise_cons increasing beyond
          omega
  rcases List.append_eq_append_iff.mp split with ⟨extra, front, waiting⟩ | ⟨extra, old, tail⟩
  · exact buffered extra front waiting
  · cases extra with
    | nil => exact buffered [] (by simpa using old.symm) (by simpa using tail.symm)
    | cons head rest =>
      have inside : committed = before ++ sequence :: rest := by
        rw [old, (List.cons.inj tail).1]
      exact closed before sequence rest inside message batch supported below

/-- What a flush that commits leaves of it. -/
theorem flushed (order : InOrder site position upcoming delivered committed refused bound)
    (done dropped : List Nat)
    (accounted : ∀ sequence ∈ position.pending.map Msg.sequence,
      sequence ∈ done ∨ sequence ∈ dropped) :
    InOrder site { position with
      cursor := max position.cursor position.maxSeq
      pending := [] } upcoming delivered (committed ++ done) (refused ++ dropped) bound := by
  have cursor := order.cursor_le
  have highest := order.highest_le
  refine ⟨by show max _ _ ≤ bound; omega, highest,
    fun _ member => absurd member List.not_mem_nil, List.Pairwise.nil, ?_, ?_, order.ahead,
    order.complete⟩
  · intro message batch supported below
    left
    show message.sequence ≤ max position.cursor position.maxSeq
    rcases order.covered message batch supported below with old | waiting
    · omega
    · obtain ⟨other, member, same⟩ := List.mem_map.mp waiting
      have low := order.pending_le other member
      omega
  · intro message batch supported below
    rcases order.settled message batch supported below with old | given | waiting
    · exact Or.inl (List.mem_append_left done old)
    · exact Or.inr (Or.inl (List.mem_append_left dropped given))
    · rcases accounted message.sequence waiting with here | here
      · exact Or.inl (List.mem_append_right committed here)
      · exact Or.inr (Or.inl (List.mem_append_right refused here))

/-- A commit that the writer does not hear of. -/
theorem lost (order : InOrder site position upcoming delivered committed refused bound)
    (done : List Nat) :
    InOrder site position upcoming delivered (committed ++ done) refused bound := by
  refine ⟨order.cursor_le, order.highest_le, order.pending_le, order.sorted, order.covered, ?_,
    order.ahead, order.complete⟩
  intro message batch supported below
  exact (order.settled message batch supported below).imp (List.mem_append_left done) id

end InOrder

/-- All that happens to one process from its start on: no crash, no restart and
no fetch whose messages get lost. -/
def Event.steady : Event → Bool
  | .start _ => false
  | .crash => false
  | .fetchFails messages => messages.isEmpty
  | _ => true

namespace System

/-- The batch messages whose rows the event commits. -/
def committing (system : System) (event : Event) : List Nat :=
  if system.commits event then system.view.pending else []

/-- A step that also notes the batches it commits, in order. -/
def logged (site : Site) (state : System × List Nat) (event : Event) :
    Option (System × List Nat) :=
  (state.1.step site event).map fun next => (next, state.2 ++ state.1.committing event)

end System

/-- How a flush moves the writer. -/
theorem flush_position (system : System) (writer : IngestWriter) (after : After)
    (outcome : FlushOutcome) (up : system.process = .up writer (.flushing after)) :
    ∃ flushed, (system.flush writer after outcome).process = System.resume flushed after ∧
      (system.flush writer after outcome).consumer.delivered = system.consumer.delivered ∧
      flushed.held = writer.held ∧
      ((flushed.position = writer.position ∧
          (system.flush writer after outcome).refused = system.refused) ∨
        (flushed.position = { writer.position with
            cursor := max writer.cursor writer.maxSeq
            pending := [] } ∧
          ((system.commits (.flush outcome) = true ∧
              (system.flush writer after outcome).refused = system.refused) ∨
            (system.flush writer after outcome).refused =
              system.refused ++ writer.pending.map Msg.sequence))) := by
  rw [commits_flush up]
  cases work : writer.pendingWork with
  | false =>
    rw [System.flush, flush_idle work]
    exact ⟨writer, rfl, rfl, rfl, Or.inl ⟨rfl, rfl⟩⟩
  | true =>
    obtain ⟨write, retry, landed⟩ := outcome
    cases write with
    | committed =>
      rw [System.flush, flush_committed work]
      exact ⟨_, rfl, rfl, rfl, Or.inr ⟨rfl, Or.inl ⟨rfl, rfl⟩⟩⟩
    | rolledBack =>
      rw [System.flush, flush_rolledBack work]
      exact ⟨_, rfl, rfl, rfl, Or.inl ⟨rfl, rfl⟩⟩
    | lost =>
      rw [System.flush, flush_lost work]
      exact ⟨_, rfl, rfl, rfl, Or.inl ⟨rfl, rfl⟩⟩
    | refused =>
      rw [System.flush, flush_refused work]
      cases retry with
      | committed => exact ⟨_, rfl, rfl, rfl, Or.inr ⟨rfl, Or.inl ⟨rfl, rfl⟩⟩⟩
      | rolledBack => exact ⟨_, rfl, rfl, rfl, Or.inl ⟨rfl, rfl⟩⟩
      | lost => exact ⟨_, rfl, rfl, rfl, Or.inl ⟨rfl, rfl⟩⟩
      | refused => exact ⟨_, rfl, rfl, rfl, Or.inr ⟨rfl, Or.inr rfl⟩⟩

/-- The messages a process has in hand, in the order it will handle them. -/
def upcoming (writer : IngestWriter) (phase : Phase) : List Msg := phase.messages ++ writer.held

structure Orderly (site : Site) (state : System × List Nat) : Prop where
  valid : state.1.Valid site
  closed : PrefixClosed site state.2 state.1.refused
  handling : ∀ writer rest, state.1.process = .up writer (.handling rest) → writer.held = []
  order : ∀ writer phase, state.1.process = .up writer phase → ∃ bound,
    InOrder site writer.position (upcoming writer phase) state.1.consumer.delivered state.2
      state.1.refused bound

section Steps

variable {site : Site} {system next : System} {writer moved : IngestWriter} {place : Phase}
  {event : Event} {committed : List Nat} {bound : Nat}

theorem committing_silent (silent : system.commits event = false) :
    committed ++ system.committing event = committed := by
  rw [System.committing, silent, if_neg Bool.false_ne_true, List.append_nil]

theorem commits_handle {message : Msg} {rest : List Msg} {lands : Bool}
    (up : system.process = .up writer (.handling (message :: rest))) :
    system.commits (.handle lands) = false := by
  unfold System.commits
  rw [up]

/-- Where a step leaves the process. -/
theorem Orderly.arrive (valid : next.Valid site) (closed : PrefixClosed site committed next.refused)
    (here : next.process = .up moved place)
    (idle : ∀ rest, place = .handling rest → moved.held = [])
    (order : InOrder site moved.position (upcoming moved place) next.consumer.delivered committed
      next.refused bound) : Orderly site (next, committed) := by
  refine ⟨valid, closed, ?_, ?_⟩
  · intro other rest running
    rw [here] at running
    cases running
    exact idle rest rfl
  · intro other phase running
    rw [here] at running
    cases running
    exact ⟨bound, order⟩

/-- A step that only moves the process to another place of its loop. -/
theorem Orderly.move {phase : Phase} (orderly : Orderly site (system, committed))
    (up : system.process = .up writer phase) (valid : next.Valid site)
    (here : next.process = .up moved place) (refused : next.refused = system.refused)
    (delivered : next.consumer.delivered = system.consumer.delivered)
    (position : moved.position = writer.position)
    (same : upcoming moved place = upcoming writer phase)
    (idle : ∀ rest, place = .handling rest → moved.held = []) :
    Orderly site (next, committed) := by
  obtain ⟨bound, order⟩ := orderly.order writer phase up
  apply Orderly.arrive valid _ here idle
  · rw [position, same, refused, delivered]
    exact order
  · rw [refused]
    exact orderly.closed

/-- A process that ended has nothing more to commit. -/
theorem Orderly.kill (orderly : Orderly site (system, committed))
    (valid : system.kill.Valid site) : Orderly site (system.kill, committed) := by
  refine ⟨valid, orderly.closed, ?_, ?_⟩
  · intro other rest running
    cases running
  · intro other phase running
    cases running

theorem Orderly.handle {message : Msg} {rest : List Msg} {lands : Bool}
    (orderly : Orderly site (system, committed))
    (up : system.process = .up writer (.handling (message :: rest)))
    (valid : (system.handle site writer message rest lands).Valid site) :
    Orderly site (system.handle site writer message rest lands, committed) := by
  obtain ⟨grounded, listed⟩ := orderly.valid.up writer _ up
  have here := listed message List.mem_cons_self
  have empty := orderly.handling writer _ up
  obtain ⟨bound, order⟩ := orderly.order writer _ up
  have hand : upcoming writer (.handling (message :: rest)) = message :: rest := by
    rw [upcoming, empty, List.append_nil]
    rfl
  rw [hand] at order
  cases run : writer.handle site.settings message with
  | error raised =>
    rw [System.handle, run] at valid ⊢
    exact orderly.kill valid
  | ok result =>
    cases result with
    | mk handled reply =>
      obtain ⟨held, cases⟩ := handle_position grounded here run
      have idle : handled.held = [] := held.trans empty
      have left : upcoming handled (.handling rest) = rest := by
        rw [upcoming, idle, List.append_nil]
        rfl
      have highest := order.highest_le
      have cursor := order.cursor_le
      rcases cases with ⟨seen, acked, same⟩ | ⟨other, acked, same⟩ |
        ⟨above, unseen, supported, stalled | buffered⟩
      · -- seen before: not above the bound
        have low : message.sequence ≤ bound := by
          rcases seen with below | waiting
          · exact below.trans cursor
          · obtain ⟨earlier, member, equal⟩ := List.mem_map.mp waiting
            have reached := order.pending_le earlier member
            omega
        have passed : InOrder site handled.position (upcoming handled (.handling rest))
            system.consumer.delivered committed system.refused (max bound message.sequence) := by
          rw [left, same]
          exact order.pass here writer.maxSeq (le_refl _)
            (highest.trans (Nat.le_max_left bound message.sequence)) (Or.inl low)
        rw [acked] at run
        rw [System.handle, run] at valid ⊢
        exact Orderly.arrive valid orderly.closed rfl (fun _ _ => idle) passed
      · have passed : InOrder site handled.position (upcoming handled (.handling rest))
            system.consumer.delivered committed system.refused (max bound message.sequence) := by
          rw [left]
          rcases same with same | same
          · rw [same]
            exact order.pass here writer.maxSeq (le_refl _)
              (highest.trans (Nat.le_max_left bound message.sequence)) (Or.inr other)
          · rw [same]
            exact order.pass here (max writer.maxSeq message.sequence) (Nat.le_max_left _ _)
              (max_le_max_right message.sequence highest) (Or.inr other)
        rw [acked] at run
        rw [System.handle, run] at valid ⊢
        exact Orderly.arrive valid orderly.closed rfl (fun _ _ => idle) passed
      · obtain ⟨registrySeq, reply, same⟩ := stalled
        rw [← same] at order
        rw [reply] at run
        rw [System.handle, run] at valid ⊢
        exact Orderly.arrive valid orderly.closed rfl (fun _ never => Phase.noConfusion never) order
      · obtain ⟨reply, same⟩ := buffered
        obtain ⟨batch, supported⟩ := supported
        have fresh : bound < message.sequence := by
          by_contra low
          rcases order.covered message batch supported (by omega) with below | waiting
          · exact absurd below (Nat.not_le_of_lt above)
          · exact unseen waiting
        have taken := order.take here fresh
        rw [← left] at taken
        change InOrder site { writer.position with
          maxSeq := max writer.maxSeq message.sequence
          pending := writer.pending ++ [message] } _ _ _ _ _ at taken
        rw [← same] at taken
        rw [reply] at run
        rw [System.handle, run] at valid ⊢
        exact Orderly.arrive valid orderly.closed rfl (fun _ _ => idle) taken

theorem resume_place (flushed : IngestWriter) (after : After) :
    ∃ place, System.resume flushed after = .up flushed place ∧ place.messages = [] ∧
      ∀ rest, place ≠ .handling rest := by
  cases after with
  | top => exact ⟨.top, rfl, rfl, fun _ never => Phase.noConfusion never⟩
  | recover registrySeq => exact ⟨.recovering registrySeq, rfl, rfl, fun _ never => Phase.noConfusion never⟩
  | exit => exact ⟨.ended, rfl, rfl, fun _ never => Phase.noConfusion never⟩

theorem Orderly.flush {after : After} {outcome : FlushOutcome}
    (orderly : Orderly site (system, committed))
    (up : system.process = .up writer (.flushing after))
    (valid : (system.flush writer after outcome).Valid site) :
    Orderly site (system.flush writer after outcome,
      committed ++ system.committing (.flush outcome)) := by
  obtain ⟨bound, order⟩ := orderly.order writer _ up
  obtain ⟨flushed, process, delivered, held, moved⟩ := flush_position system writer after outcome up
  obtain ⟨place, resumed, none, elsewhere⟩ := resume_place flushed after
  have here := process.trans resumed
  have idle : ∀ rest, place = .handling rest → flushed.held = [] :=
    fun rest same => absurd same (elsewhere rest)
  have hand : upcoming flushed place = upcoming writer (.flushing after) := by
    rw [upcoming, upcoming, none, held]
    rfl
  have buffer : system.commits (.flush outcome) = true →
      system.committing (.flush outcome) = writer.pending.map Msg.sequence := by
    intro commits
    rw [System.committing, if_pos commits, System.view_up up]
    rfl
  have closed : PrefixClosed site (committed ++ system.committing (.flush outcome))
      system.refused := by
    cases commits : system.commits (.flush outcome) with
    | true =>
      rw [buffer commits]
      exact order.closed orderly.closed
    | false =>
      rw [committing_silent commits]
      exact orderly.closed
  rcases moved with ⟨same, refused⟩ | ⟨same, ⟨commits, refused⟩ | refused⟩
  · -- the buffer is kept, with its transaction committed unheard or not at all
    have kept := order.lost (system.committing (.flush outcome))
    rw [← same, ← hand, ← delivered, ← refused] at kept
    rw [← refused] at closed
    exact Orderly.arrive valid closed here idle kept
  · have written := order.flushed (system.committing (.flush outcome)) []
      (fun sequence waiting => Or.inl (by rw [buffer commits]; exact waiting))
    change InOrder site { writer.position with
      cursor := max writer.cursor writer.maxSeq
      pending := [] } _ _ _ _ _ at written
    rw [← same, ← hand, ← delivered, List.append_nil, ← refused] at written
    rw [← refused] at closed
    exact Orderly.arrive valid closed here idle written
  · have dropped := order.flushed (system.committing (.flush outcome))
      (writer.pending.map Msg.sequence) (fun sequence waiting => Or.inr waiting)
    change InOrder site { writer.position with
      cursor := max writer.cursor writer.maxSeq
      pending := [] } _ _ _ _ _ at dropped
    have given := closed.mono (writer.pending.map Msg.sequence)
    rw [← same, ← hand, ← delivered, ← refused] at dropped
    rw [← refused] at given
    exact Orderly.arrive valid given here idle dropped

/-- A scan, with the process back at the top of its loop. -/
theorem Orderly.scan {phase : Phase} {found : List Msg} {resume : IngestWriter → Process}
    (orderly : Orderly site (system, committed)) (up : system.process = .up writer phase)
    (valid : next.Valid site) (nothing : phase.messages = [])
    (resumed : ∀ scanned, ∃ health, resume scanned = .up { scanned with health := health } .top)
    (taken : system.scan site writer found resume = some next) :
    Orderly site (next, committed) := by
  have learned := (orderly.valid.up writer phase up).1.learned
  rcases scan_cases learned taken with killed | ⟨cache, keys, -, moved⟩
  · rw [killed] at valid ⊢
    exact orderly.kill valid
  · obtain ⟨health, process⟩ := resumed { writer with cache := cache, keys := keys }
    rw [moved] at valid ⊢
    apply orderly.move up valid process rfl rfl rfl _ (fun _ never => Phase.noConfusion never)
    rw [upcoming, upcoming, nothing]
    rfl

theorem Orderly.fetch {messages : List Msg} {consumer : Consumer}
    (orderly : Orderly site (system, committed)) (up : system.process = .up writer .top)
    (empty : writer.held = [])
    (delivered : system.consumer.deliverAll site.stream messages = some consumer)
    (valid : System.Valid site
      { system with consumer := consumer, process := .up writer (.handling messages) }) :
    Orderly site ({ system with
      consumer := consumer
      process := .up writer (.handling messages) }, committed) := by
  obtain ⟨bound, order⟩ := orderly.order writer .top up
  have hand : upcoming writer .top = [] := by
    rw [upcoming, empty]
    rfl
  rw [hand] at order
  have fetched := order.fetch rfl messages delivered
  have left : upcoming writer (.handling messages) = messages := by
    rw [upcoming, empty, List.append_nil]
    rfl
  rw [← left] at fetched
  exact Orderly.arrive valid orderly.closed rfl (fun _ _ => empty) fetched

theorem Orderly.stepUp {phase : Phase} (orderly : Orderly site (system, committed))
    (up : system.process = .up writer phase) (steady : event.steady = true)
    (valid : next.Valid site) (taken : system.stepUp site writer phase event = some next) :
    Orderly site (next, committed ++ system.committing event) := by
  have silent : event.routine = true → committed ++ system.committing event = committed :=
    fun routine => committing_silent (quiet_routine system routine).commits
  cases stepUp_cases taken with
  | fetch messages consumer idle delivered =>
    rw [silent rfl]
    exact orderly.fetch up idle delivered valid
  | fetchFails messages consumer delivered =>
    -- nothing was delivered with the fetch that failed
    rw [silent rfl]
    have empty : messages = [] := List.isEmpty_iff.mp steady
    subst empty
    cases delivered
    exact orderly.move up valid rfl rfl rfl rfl rfl fun _ never => Phase.noConfusion never
  | turn _ place _ held paused routine same whole =>
    rw [silent routine]
    exact orderly.move up valid rfl rfl rfl rfl same whole
  | handle message rest lands =>
    rw [committing_silent (commits_handle up)]
    exact orderly.handle up valid
  | flush after outcome => exact orderly.flush up valid
  | recover registrySeq found _ scanned =>
    rw [silent rfl]
    exact orderly.scan up valid rfl (recovered_top registrySeq) scanned

/-- No event of a steady run lets a batch overtake an earlier one. -/
theorem Orderly.step (orderly : Orderly site (system, committed)) (steady : event.steady = true)
    (taken : system.step site event = some next) :
    Orderly site (next, committed ++ system.committing event) := by
  have valid := (step_refined orderly.valid taken).valid
  unfold System.step at taken
  split at taken
  · cases steady
  · cases steady
  · rename_i writer phase up
    cases taken
    rw [committing_silent (quiet_routine system rfl).commits]
    exact orderly.move up valid rfl rfl rfl rfl rfl (fun rest same => by
      rw [same] at up
      exact orderly.handling writer rest up)
  · rename_i writer phase up _ _
    exact orderly.stepUp up steady valid taken
  · cases taken

end Steps

/-- A fresh process on an empty database. -/
theorem orderly_start (site : Site) {found : List Msg} {next : System}
    (taken : System.init.step site (.start found) = some next) : Orderly site (next, []) := by
  have valid := (step_refined (init_valid site) taken).valid
  have closed : PrefixClosed site [] [] := by
    intro before sequence after split
    simp at split
  change System.init.scan site (.new site.settings 0) found (fun writer => .up writer .top) =
    some next at taken
  rcases scan_cases (grounded_new site 0).learned taken with killed | ⟨cache, keys, -, moved⟩
  · rw [killed] at valid ⊢
    refine ⟨valid, closed, ?_, ?_⟩
    · intro writer rest running
      cases running
    · intro writer phase running
      cases running
  · rw [moved] at valid ⊢
    have nothing : ∀ message batch, site.SupportedBatch message batch →
        ¬ message.sequence ≤ 0 := by
      intro message batch supported
      have positive := site.positive message supported.listed
      omega
    have order : InOrder site ⟨0, 0, []⟩ [] 0 [] [] 0 := by
      refine ⟨le_refl 0, le_refl 0, fun _ member => absurd member List.not_mem_nil,
        List.Pairwise.nil, ?_, ?_, ?_, ?_⟩
      · exact fun message batch supported below => absurd below (nothing message batch supported)
      · exact fun message batch supported below => absurd below (nothing message batch supported)
      · intro before message rest split
        simp at split
      · intro message _ above below
        omega
    exact Orderly.arrive valid closed rfl (fun _ never => Phase.noConfusion never) order

namespace System

/-- Whatever the writer decodes, it decodes against a published registry of the
batch's own generation. -/
def DecodesOwn (site : Site) (system : System) : Prop :=
  ∀ writer phase, system.process = .up writer phase → ∀ batch cache decoded,
    writer.cache.decodeBatch batch = (cache, .ok decoded) →
      ∃ registry, site.Published registry ∧ registry.registrySeq = batch.registrySeq ∧
        decoded = resolve registry batch

/-- Every row in the database comes from a batch noted as committed, and its
transaction has all rows of that batch, under a registry of its own generation. -/
def RowsNoted (site : Site) (system : System) (committed : List Nat) : Prop :=
  ∀ transaction ∈ system.db.transactions, ∀ row ∈ transaction.rows, row.1 ∈ committed ∧
    ∃ message batch, site.SupportedBatch message batch ∧ message.sequence = row.1 ∧
      site.AllRows batch (Dict.under transaction.rows row.1)

end System

theorem decodesOwn_of_valid {site : Site} {system : System} (valid : system.Valid site) :
    system.DecodesOwn site := by
  intro writer phase up batch cache decoded run
  have learned := (valid.up writer phase up).1.learned
  rw [RegistryCache.decodeBatch] at run
  split at run
  · cases run
  · split at run
    · cases run
    · rename_i channels found
      cases run
      obtain ⟨registry, published, generation, content, -⟩ :=
        learned batch.registrySeq channels found
      subst content
      exact ⟨registry, published, generation, rfl⟩

/-- What a run that notes its commits keeps. -/
structure Recorded (site : Site) (state : System × List Nat) : Prop where
  orderly : Orderly site state
  sound : Cursor.Sound (demand site) state.1.view
  whole : Cursor.LogWhole (demand site) state.1.view
  noted : Cursor.Noted (demand site) state.1.view state.2

theorem recorded_start (site : Site) {found : List Msg} {next : System}
    (taken : System.init.step site (.start found) = some next) : Recorded site (next, []) := by
  obtain ⟨-, action, enabled, effect, commits, -⟩ := step_refined (init_valid site) taken
  have silent : System.init.commits (.start found) = false := rfl
  have noted : Cursor.Noted (demand site) System.init.view [] :=
    ⟨fun _ member => absurd member List.not_mem_nil, fun _ member => absurd member List.not_mem_nil⟩
  refine ⟨orderly_start site taken, ?_, ?_, ?_⟩
  · rw [effect]
    exact (init_sound site).apply enabled
  · rw [effect]
    exact Cursor.logWhole_apply (init_sound site) (fun _ member => absurd member List.not_mem_nil)
      action
  · have kept := noted.apply (init_sound site) action
    rw [commits, silent, ← effect] at kept
    exact kept

theorem Recorded.step {site : Site} {state after : System × List Nat} {event : Event}
    (recorded : Recorded site state) (steady : event.steady = true)
    (taken : System.logged site state event = some after) : Recorded site after := by
  obtain ⟨next, moved, rfl⟩ := Option.map_eq_some_iff.mp taken
  obtain ⟨-, action, enabled, effect, commits, -⟩ := step_refined recorded.orderly.valid moved
  refine ⟨recorded.orderly.step steady moved, ?_, ?_, ?_⟩
  · rw [effect]
    exact recorded.sound.apply enabled
  · rw [effect]
    exact Cursor.logWhole_apply recorded.sound recorded.whole action
  · have kept := recorded.noted.apply recorded.sound action
    rw [commits, ← effect] at kept
    exact kept

theorem recorded_run (site : Site) (events : List Event) (state final : System × List Nat)
    (steady : ∀ event ∈ events, event.steady = true) (recorded : Recorded site state)
    (reached : Machine.run (System.logged site) state events = some final) :
    Recorded site final := by
  have along : Machine.Along (System.logged site) (fun _ event => event.steady = true) state
      events := Machine.along_of_forall events state fun event member _ => steady event member
  have always := Machine.always_of_along (Recorded site) (fun _ held => held)
    (fun _ _ _ held calm taken => held.step calm taken) events state recorded along
  exact always.final reached

/-- Whatever is fetched together, however often the writer stalls and whenever
its registries turn up, however often flushes fail: what one process commits is
closed under going back in the stream. -/
theorem commits_in_stream_order (site : Site) (found : List Msg) (events : List Event)
    (steady : ∀ event ∈ events, event.steady = true) (final : System) (committed : List Nat)
    (reached : Machine.run (System.logged site) (.init, []) (.start found :: events) =
      some (final, committed)) :
    PrefixClosed site committed final.refused ∧
      (∀ sequence ∈ committed, ∃ message batch, site.SupportedBatch message batch ∧
        message.sequence = sequence ∧ final.RowsCommitted site message batch) ∧
      final.RowsNoted site committed ∧ final.DecodesOwn site := by
  rw [Machine.run_cons] at reached
  obtain ⟨state, taken, later⟩ := Option.bind_eq_some_iff.mp reached
  obtain ⟨started, first, same⟩ := Option.map_eq_some_iff.mp taken
  have empty : state = (started, []) := same.symm
  rw [empty] at later
  have recorded := recorded_run site events (started, []) (final, committed) steady
    (recorded_start site first) later
  refine ⟨recorded.orderly.closed, ?_, ?_, decodesOwn_of_valid recorded.orderly.valid⟩
  · intro sequence member
    obtain ⟨rows, listed, message, batch, supported, equal, all⟩ :=
      recorded.noted.written sequence member
    rw [System.view_log] at listed
    obtain ⟨transaction, inside, rfl⟩ := List.mem_map.mp listed
    rw [← equal] at all
    exact ⟨message, batch, supported, equal, transaction, inside, all⟩
  · intro transaction inside row listed
    have logged : transaction.rows ∈ final.view.log := by
      rw [System.view_log]
      exact List.mem_map_of_mem inside
    exact ⟨recorded.noted.known _ logged row listed, recorded.whole _ logged row listed⟩

/-- A stream whose registry comes after the first batch. -/
def lateRegistry : Site where
  settings := trackside.settings
  stream := [batchMessage 1, { registryMessage with sequence := 2 }, batchMessage 3]
  positive := by decide
  ordered := by decide

/-- The first batch stalls twice before a scan finds its registry, and its first
flush fails. -/
def stallRun : List Event :=
  [.fetch [batchMessage 1, { registryMessage with sequence := 2 }], .handle true,
    .flush ⟨.committed, .committed, []⟩, .recover [], .replay, .handle true,
    .flush ⟨.committed, .committed, []⟩, .recover [{ registryMessage with sequence := 2 }],
    .replay, .handle true, .handle true, .settle true, .flush ⟨.rolledBack, .committed, []⟩,
    .fetchFails [], .fetch [batchMessage 3], .handle true, .settle true,
    .flush ⟨.committed, .committed, [1, 3]⟩]

theorem stallRun_in_order : (∀ event ∈ stallRun, event.steady = true) ∧ ∃ final,
    Machine.run (System.logged lateRegistry) (.init, []) (.start [] :: stallRun) =
        some (final, [1, 3]) ∧
      PrefixClosed lateRegistry [1, 3] final.refused ∧ final.RowsNoted lateRegistry [1, 3] := by
  have steady : ∀ event ∈ stallRun, event.steady = true := by
    have all : stallRun.all Event.steady = true := by decide +kernel
    exact List.all_eq_true.mp all
  have ends : ((Machine.run (System.logged lateRegistry) (.init, []) (.start [] :: stallRun)).map
      Prod.snd) = some [1, 3] := by
    decide +kernel
  obtain ⟨⟨final, committed⟩, reached, same⟩ := Option.map_eq_some_iff.mp ends
  change committed = [1, 3] at same
  subst same
  have kept := commits_in_stream_order lateRegistry [] stallRun steady final [1, 3] reached
  exact ⟨steady, final, reached, kept.1, kept.2.2.1⟩

end OpenLaps.Ingest

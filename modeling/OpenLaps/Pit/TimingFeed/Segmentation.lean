import OpenLaps.Pit.TimingFeed.PacketGrammar

/- How the framer and the wire format fit together, and what of it depends on the
way the socket happens to cut the stream. -/
namespace OpenLaps.Framing

open Incremental

/-- The framer's state after the packets of an unfinished document. -/
def Chain.of (packets : List Packet) : Chain :=
  { parts := packets.map (·.payload), size := totalSize packets,
    expectPrevious := (lastId packets).getD terminal, lastFollowing := lastId packets }

/-- The text of a whole document. -/
def documentText (packets : List Packet) : String :=
  decodePayload (packets.map (·.payload)).flatten

@[simp] theorem Chain.of_nil : Chain.of [] = Chain.new := rfl

theorem lastId_append (before : List Packet) (packet : Packet) :
    lastId (before ++ [packet]) = some packet.following := by
  simp [lastId]

theorem totalSize_append (before : List Packet) (packet : Packet) :
    totalSize (before ++ [packet]) = totalSize before + packet.payload.length := by
  simp [totalSize]

theorem checkFollowing_ok {last : Option Char} {following : Char} :
    checkFollowing last following = .ok () ↔
      (following ≠ terminal → following ∈ ids ∧ ∀ id ∈ last, nextPacketId id = .ok following) := by
  unfold checkFollowing
  by_cases closes : following = terminal
  · simp [closes]
  rw [if_neg closes]
  by_cases known : following ∈ ids
  · rw [if_neg (not_not.mpr known)]
    cases last with
    | none => simp [known]
    | some id =>
      cases succeeds : nextPacketId id with
      | error error => simp [closes, succeeds]
      | ok next =>
        by_cases same : following = next
        · simp [same, succeeds]
          intro _
          exact same ▸ known
        · simp [closes, known, same, succeeds, Ne.symm same]
  · rw [if_pos known]
    simp [closes, known]

/-- A packet that continues the document is taken into it. -/
theorem chain_continues {before : List Packet} {packet : Packet}
    (continues : Continues before packet) : chain (Chain.of before) packet =
      if packet.following = terminal then .ok (Chain.new, some (documentText (before ++ [packet])))
      else .ok (Chain.of (before ++ [packet]), none) := by
  have fits : ¬ maxDocumentBytes < (Chain.of before).size + packet.payload.length := by
    have bound := continues.size
    rw [totalSize_append] at bound
    exact Nat.not_lt_of_le bound
  have previous : packet.previous = (Chain.of before).expectPrevious := continues.previous
  have checked : checkFollowing (Chain.of before).lastFollowing packet.following = .ok () :=
    checkFollowing_ok.mpr continues.following
  unfold chain
  rw [if_neg (not_not.mpr previous), checked]
  dsimp only
  rw [if_neg fits]
  simp [Chain.of, documentText, lastId_append, totalSize_append]

/-- Any other packet is a violation. -/
theorem chain_breaks {before : List Packet} {packet : Packet}
    (breaks : ¬ Continues before packet) : ∃ error, chain (Chain.of before) packet = .error error := by
  unfold chain
  by_cases previous : packet.previous = (Chain.of before).expectPrevious
  · rw [if_neg (not_not.mpr previous)]
    cases checked : checkFollowing (Chain.of before).lastFollowing packet.following with
    | error error => exact ⟨error, rfl⟩
    | ok checkedId =>
      have long : maxDocumentBytes < (Chain.of before).size + packet.payload.length := by
        by_contra short
        refine breaks ⟨previous, checkFollowing_ok.mp checked, ?_⟩
        rw [totalSize_append]
        exact Nat.le_of_not_lt short
      exact ⟨.tooLong, if_pos long⟩
  · exact ⟨_, if_pos previous⟩

/-- All the framer makes of a stream it reads from this state. -/
def reads (state : Chain) (stream : Bytes) : Drained UInt8 Chain String PacketError :=
  drain packetCutter chain state stream

theorem packetCutter_cut : packetCutter.cut = nextPacket := rfl

theorem cut_wire {packet : Packet} (fits : packet.Fits) (rest : Bytes) :
    packetCutter.cut (packet.wire ++ rest) = .ok (some (packet, rest)) := by
  rw [packetCutter_cut]
  exact nextPacket_wire fits rest

theorem reads_wire {state next : Chain} {packet : Packet} {output : Option String}
    (fits : packet.Fits) (rest : Bytes) (accepted : chain state packet = .ok (next, output)) :
    reads state (packet.wire ++ rest) = (reads next rest).after output.toList :=
  drain_accepted packetCutter chain (cut_wire fits rest) accepted

/-- The packets of an unfinished document only move the framer on. -/
theorem reads_unfinished {before : List Packet} (unfinished : Unfinished before) (rest : Bytes) :
    reads Chain.new (wires before ++ rest) = reads (Chain.of before) rest := by
  induction unfinished generalizing rest with
  | nil => rfl
  | more earlier fits continues stays ih =>
    rename_i before packet
    have accepted := chain_continues continues
    rw [if_neg stays] at accepted
    rw [wires_append, wires_cons, wires_nil, List.append_nil, List.append_assoc, ih,
      reads_wire fits rest accepted]
    rfl

/-- A whole document comes out as its text. -/
theorem reads_document {document : List Packet} (whole : IsDocument document) (rest : Bytes) :
    reads Chain.new (wires document ++ rest) =
      (reads Chain.new rest).after [documentText document] := by
  obtain ⟨before, packet, rfl, unfinished, fits, continues, closes⟩ := whole
  have accepted := chain_continues continues
  rw [if_pos closes] at accepted
  rw [wires_append, wires_cons, wires_nil, List.append_nil, List.append_assoc,
    reads_unfinished unfinished, reads_wire fits rest accepted]
  rfl

theorem reads_documents {documents : List (List Packet)}
    (whole : ∀ document ∈ documents, IsDocument document) (rest : Bytes) :
    reads Chain.new (wires documents.flatten ++ rest) =
      (reads Chain.new rest).after (documents.map documentText) := by
  induction documents with
  | nil => rfl
  | cons document later ih =>
    rw [List.flatten_cons, wires_append, List.append_assoc,
      reads_document (whole document List.mem_cons_self),
      ih fun other member => whole other (List.mem_cons_of_mem document member),
      Drained.after_after]
    rfl

/-- A violation fails the reading, with nothing more read out. -/
theorem reads_violation {before : List Packet} {rest : Bytes} (violation : Violation before rest) :
    (reads (Chain.of before) rest).failure.isSome = true ∧
      (reads (Chain.of before) rest).outputs = [] := by
  rcases violation with bad | ⟨packet, after, fits, rfl, breaks⟩
  · obtain ⟨error, refused⟩ := nextPacket_error.mpr bad
    have cut : packetCutter.cut rest = .error error := by rw [packetCutter_cut, refused]
    rw [reads, drain_refused packetCutter chain cut]
    exact ⟨rfl, rfl⟩
  · obtain ⟨error, rejected⟩ := chain_breaks breaks
    rw [reads, drain_rejected packetCutter chain (cut_wire fits after) rejected]
    exact ⟨rfl, rfl⟩

/-- Every stream is some whole documents, then part of one, and then either a
violation or bytes that wait for more. -/
theorem stream_split (before : List Packet) (unfinished : Unfinished before) (buffer : Bytes) :
    ∃ (documents : List (List Packet)) (after : List Packet) (rest : Bytes),
      (∀ document ∈ documents, IsDocument document) ∧ Unfinished after ∧
        wires before ++ buffer = wires documents.flatten ++ wires after ++ rest ∧
        (Violation after rest ∨ nextPacket rest = .ok none) := by
  induction size : buffer.length using Nat.strongRecOn generalizing before buffer with
  | _ size ih =>
    have stop : Violation before buffer ∨ nextPacket buffer = .ok none →
        ∃ (documents : List (List Packet)) (after : List Packet) (rest : Bytes),
          (∀ document ∈ documents, IsDocument document) ∧ Unfinished after ∧
            wires before ++ buffer = wires documents.flatten ++ wires after ++ rest ∧
            (Violation after rest ∨ nextPacket rest = .ok none) := fun ended =>
      ⟨[], before, buffer, fun _ member => absurd member List.not_mem_nil, unfinished, rfl, ended⟩
    cases taken : nextPacket buffer with
    | error error => exact stop (Or.inl (Or.inl (nextPacket_error.mp ⟨error, taken⟩)))
    | ok found =>
      cases found with
      | none => exact stop (Or.inr taken)
      | some pair =>
        cases pair with
        | mk packet rest =>
          have shorter := nextPacket_shorter taken
          obtain ⟨fits, split⟩ := nextPacket_some taken
          by_cases continues : Continues before packet
          · have joined : wires before ++ buffer = wires (before ++ [packet]) ++ rest := by
              simp [split]
            by_cases closes : packet.following = terminal
            · obtain ⟨documents, after, left, whole, open_, same, ended⟩ :=
                ih rest.length (by omega) [] .nil rest rfl
              refine ⟨(before ++ [packet]) :: documents, after, left, ?_, open_, ?_, ended⟩
              · intro document member
                rcases List.mem_cons.mp member with rfl | later
                · exact ⟨before, packet, rfl, unfinished, fits, continues, closes⟩
                · exact whole document later
              · rw [joined, List.flatten_cons, wires_append _ documents.flatten,
                  List.append_assoc, List.append_assoc,
                  ← List.append_assoc (wires documents.flatten), ← same]
                rfl
            · obtain ⟨documents, after, left, whole, open_, same, ended⟩ :=
                ih rest.length (by omega) (before ++ [packet])
                  (.more unfinished fits continues closes) rest rfl
              exact ⟨documents, after, left, whole, open_, joined.trans same, ended⟩
          · exact stop (Or.inl (Or.inr ⟨packet, rest, fits, split, continues⟩))

theorem feedLoop_refused {framer : PacketFramer} {error : PacketError} (documents : List String)
    (cut : nextPacket framer.buffer = .error error) : framer.feedLoop documents = .error error := by
  rw [PacketFramer.feedLoop]
  split <;> simp_all

theorem feedLoop_waiting {framer : PacketFramer} (documents : List String)
    (cut : nextPacket framer.buffer = .ok none) :
    framer.feedLoop documents = .ok (documents, framer) := by
  rw [PacketFramer.feedLoop]
  split <;> simp_all

theorem feedLoop_rejected {framer : PacketFramer} {packet : Packet} {rest : Bytes}
    {error : PacketError} (documents : List String)
    (cut : nextPacket framer.buffer = .ok (some (packet, rest)))
    (rejected : chain framer.toChain packet = .error error) :
    framer.feedLoop documents = .error error := by
  rw [PacketFramer.feedLoop]
  split <;> simp_all

theorem feedLoop_accepted (framer : PacketFramer) {packet : Packet} {rest : Bytes} {next : Chain}
    {output : Option String} (documents : List String)
    (cut : nextPacket framer.buffer = .ok (some (packet, rest)))
    (accepted : chain framer.toChain packet = .ok (next, output)) :
    framer.feedLoop documents =
      PacketFramer.feedLoop { next with buffer := rest } (documents ++ output.toList) := by
  rw [PacketFramer.feedLoop]
  cases output <;> split <;> simp_all

/-- The loop of `feed` as the reading of its buffer. -/
theorem feedLoop_eq (state : Chain) (buffer : Bytes) (documents : List String) :
    PacketFramer.feedLoop ⟨state, buffer⟩ documents =
      match (reads state buffer).failure with
      | some error => .error error
      | none => .ok (documents ++ (reads state buffer).outputs,
          ⟨(reads state buffer).state, (reads state buffer).left⟩) := by
  unfold reads
  induction state, buffer using drain_induction packetCutter chain generalizing documents with
  | refused state buffer error cut =>
    rw [drain_refused packetCutter chain cut]
    exact feedLoop_refused documents cut
  | waiting state buffer cut =>
    rw [drain_waiting packetCutter chain cut, List.append_nil]
    exact feedLoop_waiting documents cut
  | rejected state buffer packet rest error cut result =>
    rw [drain_rejected packetCutter chain cut result]
    exact feedLoop_rejected documents cut result
  | accepted state buffer packet rest next output cut result ih =>
    rw [feedLoop_accepted ⟨state, buffer⟩ documents cut result, ih,
      drain_accepted packetCutter chain cut result]
    simp only [Drained.after, List.append_assoc]

/-- What the framer makes of the bytes it holds and some more. -/
def PacketFramer.readsOn (framer : PacketFramer) (data : Bytes) :
    Drained UInt8 Chain String PacketError :=
  reads framer.toChain (framer.buffer ++ data)

/-- The framer after a call that returned. -/
def PacketFramer.next (framer : PacketFramer) (data : Bytes) : PacketFramer :=
  ⟨(framer.readsOn data).state, (framer.readsOn data).left⟩

theorem readsOn_new (data : Bytes) : PacketFramer.new.readsOn data = reads Chain.new data := rfl

theorem readsOn_append_failed {framer : PacketFramer} {data : Bytes} {error : PacketError}
    (more : Bytes) (failed : (framer.readsOn data).failure = some error) :
    (framer.readsOn (data ++ more)).failure = some error := by
  rw [PacketFramer.readsOn, ← List.append_assoc]
  exact (drain_append_failed packetCutter chain _ _ more _ failed).1

theorem readsOn_append {framer : PacketFramer} {data : Bytes} (more : Bytes)
    (fine : (framer.readsOn data).failure = none) : framer.readsOn (data ++ more) =
      ((framer.next data).readsOn more).after (framer.readsOn data).outputs := by
  rw [PacketFramer.readsOn, ← List.append_assoc]
  exact drain_append packetCutter chain _ _ more fine

theorem next_append {framer : PacketFramer} {data : Bytes} (more : Bytes)
    (fine : (framer.readsOn data).failure = none) :
    framer.next (data ++ more) = (framer.next data).next more := by
  rw [PacketFramer.next, readsOn_append more fine]
  rfl

/-- A framer between two calls: what it holds is waiting for more. -/
def PacketFramer.Waiting (framer : PacketFramer) : Prop := nextPacket framer.buffer = .ok none

theorem new_waiting : PacketFramer.new.Waiting := rfl

theorem PacketFramer.Waiting.readsOn_nil {framer : PacketFramer} (waiting : framer.Waiting) :
    framer.readsOn [] =
      { outputs := [], state := framer.toChain, left := framer.buffer, failure := none } := by
  rw [PacketFramer.readsOn, List.append_nil]
  exact drain_waiting packetCutter chain waiting

theorem next_waiting {framer : PacketFramer} {data : Bytes}
    (fine : (framer.readsOn data).failure = none) : (framer.next data).Waiting :=
  drain_left_waiting packetCutter chain framer.toChain (framer.buffer ++ data) fine

theorem feed_fails {framer : PacketFramer} {data : Bytes} {error : PacketError}
    (failed : (framer.readsOn data).failure = some error) :
    framer.feed data = (.error error, PacketFramer.new) := by
  rw [PacketFramer.readsOn] at failed
  rw [PacketFramer.feed, feedLoop_eq framer.toChain (framer.buffer ++ data), failed]

theorem feed_ok {framer : PacketFramer} {data : Bytes}
    (fine : (framer.readsOn data).failure = none) :
    framer.feed data = (.ok (framer.readsOn data).outputs, framer.next data) := by
  rw [PacketFramer.readsOn] at fine
  rw [PacketFramer.feed, feedLoop_eq framer.toChain (framer.buffer ++ data), fine]
  rfl

/-- A framer that waits for more holds less than the longest packet. -/
theorem PacketFramer.Waiting.buffered_lt {framer : PacketFramer} (waiting : framer.Waiting) :
    framer.buffered < headerLen + maxPayload := by
  have positive : 0 < maxPayload := by decide
  by_cases enough : headerLen ≤ framer.buffer.length
  · obtain ⟨start, digits, previous, following, body, three, five, split⟩ := header_split enough
    rw [PacketFramer.Waiting, split, nextPacket_header previous following body three five] at waiting
    rw [PacketFramer.buffered, split]
    split at waiting
    · cases waiting
    split at waiting
    · cases waiting
    rename_i good
    split at waiting
    · rename_i short
      have bound := readLength_le five (not_not.mp good)
      simp only [List.length_append, three, five, List.length_cons, List.length_nil, headerLen]
      omega
    · cases waiting
  · rw [PacketFramer.buffered]
    omega

theorem feedAll_cons_fails {framer : PacketFramer} {data : Bytes} {error : PacketError}
    (rest : List Bytes) (failed : (framer.readsOn data).failure = some error) :
    framer.feedAll (data :: rest) =
      { documents := [], failure := some error, framer := PacketFramer.new } := by
  rw [PacketFramer.feedAll, feed_fails failed]

theorem feedAll_cons_ok {framer : PacketFramer} {data : Bytes} (rest : List Bytes)
    (fine : (framer.readsOn data).failure = none) : framer.feedAll (data :: rest) =
      { documents := (framer.readsOn data).outputs ++ ((framer.next data).feedAll rest).documents,
        failure := ((framer.next data).feedAll rest).failure,
        framer := ((framer.next data).feedAll rest).framer } := by
  rw [PacketFramer.feedAll, feed_ok fine]

/-- Every call leaves the framer waiting for more. -/
theorem feedAll_waiting {framer : PacketFramer} (waiting : framer.Waiting) (pieces : List Bytes) :
    (framer.feedAll pieces).framer.Waiting := by
  induction pieces generalizing framer with
  | nil => exact waiting
  | cons data rest ih =>
    cases failure : (framer.readsOn data).failure with
    | some error =>
      rw [feedAll_cons_fails rest failure]
      exact new_waiting
    | none =>
      rw [feedAll_cons_ok rest failure]
      exact ih (next_waiting failure)

/-- Whether the calls fail, and how, is a matter of the stream alone. -/
theorem feedAll_failure {framer : PacketFramer} (waiting : framer.Waiting) (pieces : List Bytes) :
    (framer.feedAll pieces).failure = (framer.readsOn pieces.flatten).failure := by
  induction pieces generalizing framer with
  | nil =>
    rw [List.flatten_nil, waiting.readsOn_nil]
    rfl
  | cons data rest ih =>
    rw [List.flatten_cons]
    cases failure : (framer.readsOn data).failure with
    | some error => rw [feedAll_cons_fails rest failure, readsOn_append_failed rest.flatten failure]
    | none =>
      rw [feedAll_cons_ok rest failure, readsOn_append rest.flatten failure]
      exact ih (next_waiting failure)

/-- Calls that all return give every document of the stream, and leave the framer
where one call would have left it. -/
theorem feedAll_fine {framer : PacketFramer} (waiting : framer.Waiting) (pieces : List Bytes)
    (fine : (framer.readsOn pieces.flatten).failure = none) : framer.feedAll pieces =
      { documents := (framer.readsOn pieces.flatten).outputs, failure := none,
        framer := framer.next pieces.flatten } := by
  induction pieces generalizing framer with
  | nil =>
    rw [List.flatten_nil, PacketFramer.next, waiting.readsOn_nil]
    rfl
  | cons data rest ih =>
    rw [List.flatten_cons] at fine ⊢
    cases failure : (framer.readsOn data).failure with
    | some error =>
      rw [readsOn_append_failed rest.flatten failure] at fine
      cases fine
    | none =>
      have joined := readsOn_append rest.flatten failure
      rw [joined] at fine
      rw [feedAll_cons_ok rest failure, ih (next_waiting failure) fine,
        next_append rest.flatten failure, joined]
      rfl

/-- However the calls end, what they returned is the beginning of what the stream
holds. -/
theorem feedAll_prefix {framer : PacketFramer} (waiting : framer.Waiting) (pieces : List Bytes) :
    (framer.feedAll pieces).documents <+: (framer.readsOn pieces.flatten).outputs := by
  induction pieces generalizing framer with
  | nil => exact List.nil_prefix
  | cons data rest ih =>
    rw [List.flatten_cons]
    cases failure : (framer.readsOn data).failure with
    | some error =>
      rw [feedAll_cons_fails rest failure]
      exact List.nil_prefix
    | none =>
      rw [feedAll_cons_ok rest failure, readsOn_append rest.flatten failure]
      exact (List.prefix_append_right_inj _).mpr (ih (next_waiting failure))

/-- Reading fails exactly on the streams that break the rules. -/
theorem reads_failure_iff (stream : Bytes) :
    (reads Chain.new stream).failure.isSome = true ↔ Broken stream := by
  constructor
  · intro failed
    obtain ⟨documents, before, rest, whole, unfinished, split, ended⟩ := stream_split [] .nil stream
    rw [wires_nil, List.nil_append] at split
    refine ⟨documents, before, rest, whole, unfinished, split, ?_⟩
    rcases ended with violation | waiting
    · exact violation
    · have cut : packetCutter.cut rest = .ok none := by rw [packetCutter_cut, waiting]
      rw [split, List.append_assoc, reads_documents whole, reads_unfinished unfinished, reads,
        drain_waiting packetCutter chain cut] at failed
      cases failed
  · rintro ⟨documents, before, rest, whole, unfinished, rfl, violation⟩
    rw [List.append_assoc, reads_documents whole, reads_unfinished unfinished]
    exact (reads_violation violation).1

/-- A stream that fails with documents read out of it begins with a whole document. -/
theorem reads_outputs_broken {stream : Bytes} (broken : Broken stream)
    (some_ : (reads Chain.new stream).outputs ≠ []) :
    ∃ document rest, IsDocument document ∧ stream = wires document ++ rest ∧ Broken rest := by
  obtain ⟨documents, before, rest, whole, unfinished, rfl, violation⟩ := broken
  cases documents with
  | nil =>
    rw [List.append_assoc, reads_documents whole, reads_unfinished unfinished] at some_
    exact absurd (reads_violation violation).2 some_
  | cons document later =>
    refine ⟨document, wires later.flatten ++ wires before ++ rest,
      whole document List.mem_cons_self, by simp [wires_append], ?_⟩
    exact ⟨later, before, rest, fun other member => whole other (List.mem_cons_of_mem document member),
      unfinished, rfl, violation⟩

/-- Two ways of cutting one stream deliver the same documents, and both raise or
neither does. -/
def CutsAgree (first second : List Bytes) : Prop :=
  (PacketFramer.new.feedAll first).documents = (PacketFramer.new.feedAll second).documents ∧
    (PacketFramer.new.feedAll first).failure.isSome =
      (PacketFramer.new.feedAll second).failure.isSome

/-- How a stream is cut makes no difference exactly when no violation follows a
whole document in it: `feed` returns nothing of the call in which it raises. -/
theorem feedAll_cuts_agree_iff (stream : Bytes) :
    (∀ first second : List Bytes, first.flatten = stream → second.flatten = stream →
      CutsAgree first second) ↔
      ¬ ∃ document rest, IsDocument document ∧ stream = wires document ++ rest ∧ Broken rest := by
  constructor
  · rintro agree ⟨document, rest, whole, rfl, broken⟩
    -- one call against a call for the first document and a call for the rest
    have both := (agree [wires document ++ rest] [wires document, rest] (by simp) (by simp)).1
    have read : PacketFramer.new.readsOn (wires document) =
        { outputs := [documentText document], state := Chain.new, left := [], failure := none } := by
      have alone := reads_document whole []
      rw [List.append_nil] at alone
      rw [readsOn_new, alone, show reads Chain.new [] = _ from new_waiting.readsOn_nil]
      rfl
    have failed : (PacketFramer.new.readsOn (wires document ++ rest)).failure.isSome = true := by
      rw [readsOn_new, reads_document whole]
      exact (reads_failure_iff rest).mpr broken
    obtain ⟨error, raised⟩ := Option.isSome_iff_exists.mp failed
    rw [feedAll_cons_fails [] raised, feedAll_cons_ok [rest] (by rw [read]), read] at both
    cases both
  · intro apart first second one two
    have waiting := new_waiting
    refine ⟨?_, by rw [feedAll_failure waiting, feedAll_failure waiting, one, two]⟩
    by_cases fine : (PacketFramer.new.readsOn stream).failure = none
    · rw [feedAll_fine waiting first (by rw [one, fine]),
        feedAll_fine waiting second (by rw [two, fine]), one, two]
    · have broken : Broken stream :=
        (reads_failure_iff stream).mp (Option.isSome_iff_ne_none.mpr fine)
      have empty : (PacketFramer.new.readsOn stream).outputs = [] := by
        by_contra some_
        exact apart (reads_outputs_broken broken some_)
      have firstEmpty := feedAll_prefix waiting first
      have secondEmpty := feedAll_prefix waiting second
      rw [one, empty, List.prefix_nil] at firstEmpty
      rw [two, empty, List.prefix_nil] at secondEmpty
      rw [firstEmpty, secondEmpty]

/-- An empty document followed by ten bytes that are no header. -/
def lostStream : List Bytes :=
  [[33, 64, 35, 48, 48, 48, 48, 48, 61, 61], [0, 0, 0, 0, 0, 0, 0, 0, 0, 0]]

/-- In two calls the document arrives, in one it is lost. -/
theorem feedAll_cut_loses_document :
    ¬ ∀ first second : List Bytes, first.flatten = second.flatten → CutsAgree first second := by
  intro agree
  have both := (agree lostStream [lostStream.flatten] (by decide)).1
  exact absurd both (by decide +kernel)

end OpenLaps.Framing

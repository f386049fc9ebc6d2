import OpenLaps.Lib.Attempt
import OpenLaps.Pit.TimingFeed.Segmentation

/- The encoder speaks the framer's language: what it sends as one document is a
document of the wire format, and comes back however the socket cuts it up. -/
namespace OpenLaps.Framing

/-- A document and how it is to be sent. -/
structure Sending where
  document : Document
  chunk : Nat
  firstId : Char
deriving DecidableEq

structure Sending.Allowed (sending : Sending) : Prop where
  size : sending.document.data.length ≤ maxDocumentBytes
  chunkPositive : 1 ≤ sending.chunk
  chunkSmall : sending.chunk ≤ maxPayload
  firstId : sending.firstId ∈ ids

def Sending.encode (sending : Sending) : Except EncodeError Bytes :=
  encodeDocument sending.document sending.chunk sending.firstId

theorem ids_ascii {id : Char} (known : id ∈ ids) : id.toNat < 128 := by
  have all : ids.all (fun id => id.toNat < 128) = true := by decide +kernel
  simpa using List.all_eq_true.mp all id known

theorem terminal_not_id : terminal ∉ ids := by decide +kernel

theorem terminal_ascii : terminal.toNat < 128 := by decide

theorem ascii_fits {id : Char} (ascii : id.toNat < 128) : id.toNat < 256 := by omega

theorem utf8EncodeChar_ascii {id : Char} (ascii : id.toNat < 128) :
    String.utf8EncodeChar id = [ord id] := by
  have small : id.val.toNat ≤ 127 := by
    have same : id.toNat = id.val.toNat := rfl
    omega
  rw [String.utf8EncodeChar, if_pos small]
  rfl

/-- The ids go round in their cycle. -/
theorem nextPacketId_of_mem {id : Char} (known : id ∈ ids) :
    ∃ next, nextPacketId id = .ok next ∧ next ∈ ids := by
  unfold nextPacketId
  cases found : ids.idxOf? id with
  | none => exact absurd known (List.idxOf?_eq_none_iff.mp found)
  | some index => exact ⟨_, rfl, List.get_mem _ _⟩

theorem encodePacket_wire {payload : Bytes} {previous following : Char}
    (short : payload.length ≤ maxPayload) (one : previous.toNat < 128)
    (two : following.toNat < 128) : encodePacket payload previous following =
      .ok (Packet.wire { previous := previous, following := following, payload := payload }) := by
  rw [encodePacket, if_neg (by omega), utf8EncodeChar_ascii one, utf8EncodeChar_ascii two]
  simp [Packet.wire]

theorem take_slices (chunk : Nat) (data : Bytes) (count : Nat) :
    ((List.range count).map fun index => (data.drop (index * chunk)).take chunk).flatten =
      data.take (count * chunk) := by
  induction count with
  | zero => simp
  | succ count ih =>
    rw [List.range_succ, List.map_append, List.flatten_append, ih, Nat.succ_mul, List.take_add]
    simp

theorem flatten_slices {chunk : Nat} (positive : 1 ≤ chunk) (data : Bytes) :
    (slices chunk data).flatten = data := by
  rw [slices, take_slices]
  apply List.take_of_length_le
  have enough := Nat.lt_div_mul_add (a := data.length + chunk - 1) positive
  omega

theorem length_slices_le {chunk : Nat} {data part : Bytes} (member : part ∈ slices chunk data) :
    part.length ≤ chunk := by
  rw [slices, List.mem_map] at member
  obtain ⟨index, -, rfl⟩ := member
  exact List.length_take_le chunk _

/-- From the middle of a document on, the loop of the encoder sends its rest. -/
theorem encodeChain_document {before : List Packet} {current : Char} {parts : List Bytes}
    (unfinished : Unfinished before) (previousAscii : ((lastId before).getD terminal).toNat < 128)
    (known : current ∈ ids) (succeeds : ∀ last ∈ lastId before, nextPacketId last = .ok current)
    (some_ : parts ≠ []) (short : ∀ part ∈ parts, part.length ≤ maxPayload)
    (total : totalSize before + parts.flatten.length ≤ maxDocumentBytes) :
    ∃ packets, encodeChain ((lastId before).getD terminal) current parts = .ok (wires packets) ∧
      IsDocument (before ++ packets) ∧ packets.map (·.payload) = parts := by
  induction parts generalizing before current with
  | nil => exact absurd rfl some_
  | cons part rest ih =>
    have here := short part List.mem_cons_self
    obtain ⟨next, follows, nextKnown⟩ := nextPacketId_of_mem known
    rw [List.flatten_cons, List.length_append] at total
    by_cases last : rest = []
    · -- the last part closes the document
      subst last
      have sent := encodePacket_wire here previousAscii terminal_ascii
      refine ⟨[⟨(lastId before).getD terminal, terminal, part⟩], ?_, ?_, rfl⟩
      · simp [encodeChain, sent, follows]
      · refine ⟨before, _, rfl, unfinished,
          ⟨here, ascii_fits previousAscii, ascii_fits terminal_ascii⟩, ⟨rfl, ?_, ?_⟩, rfl⟩
        · exact fun never => absurd rfl never
        · rw [totalSize_append]
          exact Nat.le_trans (Nat.add_le_add_left (Nat.le_add_right _ _) _) total
    · have currentAscii := ids_ascii known
      have stays : current ≠ terminal := fun same => terminal_not_id (same ▸ known)
      have sent := encodePacket_wire here previousAscii currentAscii
      have bound : totalSize before + part.length ≤ maxDocumentBytes := by omega
      have onward : Unfinished (before ++ [⟨(lastId before).getD terminal, current, part⟩]) := by
        refine .more unfinished ⟨here, ascii_fits previousAscii, ascii_fits currentAscii⟩
          ⟨rfl, fun _ => ⟨known, succeeds⟩, ?_⟩ stays
        rw [totalSize_append]
        exact bound
      have named := lastId_append before ⟨(lastId before).getD terminal, current, part⟩
      obtain ⟨packets, encoded, whole, payloads⟩ := ih onward
        (by rw [named]; exact currentAscii) nextKnown
        (by rw [named]; intro id same; cases same; exact follows) last
        (fun other member => short other (List.mem_cons_of_mem part member))
        (by rw [totalSize_append]; dsimp only; omega)
      rw [named] at encoded
      refine ⟨⟨(lastId before).getD terminal, current, part⟩ :: packets, ?_, ?_, ?_⟩
      · rw [encodeChain]
        simp only [if_neg last, sent, follows]
        rw [show (some current).getD terminal = current from rfl] at encoded
        rw [encoded, wires_cons]
      · rw [List.append_cons]
        exact whole
      · rw [List.map_cons, payloads]

/-- One packet is a document of its own. -/
theorem encodePacket_document {data : Bytes} (short : data.length ≤ maxPayload)
    (size : data.length ≤ maxDocumentBytes) :
    encodePacket data terminal terminal = .ok (wires [⟨terminal, terminal, data⟩]) ∧
      IsDocument [⟨terminal, terminal, data⟩] := by
  constructor
  · rw [encodePacket_wire short terminal_ascii terminal_ascii]
    simp
  · refine ⟨[], _, rfl, .nil, ⟨short, ascii_fits terminal_ascii, ascii_fits terminal_ascii⟩,
      ⟨rfl, ?_, ?_⟩, rfl⟩
    · exact fun never => absurd rfl never
    · rw [totalSize_append]
      simpa [totalSize] using size

/-- What is sent for one document is a document of the wire format that carries it. -/
theorem encode_document {sending : Sending} (allowed : sending.Allowed) :
    ∃ packets, sending.encode = .ok (wires packets) ∧ IsDocument packets ∧
      (packets.map (·.payload)).flatten = sending.document.data := by
  have fine : ¬ (sending.chunk = 0 ∨ maxPayload < sending.chunk) := by
    have positive := allowed.chunkPositive
    have small := allowed.chunkSmall
    omega
  have joined := flatten_slices allowed.chunkPositive sending.document.data
  have parts : ∀ part ∈ slices sending.chunk sending.document.data, part.length ≤ maxPayload :=
    fun part member => Nat.le_trans (length_slices_le member) allowed.chunkSmall
  rw [Sending.encode, encodeDocument, if_neg fine]
  cases cut : slices sending.chunk sending.document.data with
  | nil =>
    rw [cut, List.flatten_nil] at joined
    have nothing : ([] : Bytes).length ≤ maxPayload := Nat.zero_le maxPayload
    obtain ⟨sent, whole⟩ := encodePacket_document nothing (Nat.zero_le _)
    exact ⟨_, sent, whole, joined⟩
  | cons part rest =>
    rw [cut] at joined parts
    cases rest with
    | nil =>
      have same : part = sending.document.data := by simpa using joined
      have size := allowed.size
      rw [← same] at size
      obtain ⟨sent, whole⟩ := encodePacket_document (parts part List.mem_cons_self) size
      exact ⟨_, sent, whole, joined⟩
    | cons second others =>
      obtain ⟨packets, sent, whole, payloads⟩ := encodeChain_document .nil terminal_ascii
        allowed.firstId (fun last never => by cases never) (List.cons_ne_nil _ _)
        parts (by rw [joined]; simpa [totalSize] using allowed.size)
      exact ⟨packets, sent, whole, by rw [payloads, joined]⟩

theorem encode_documents {sendings : List Sending} (allowed : ∀ sending ∈ sendings, sending.Allowed) :
    ∃ documents : List (List Packet),
      Attempt.all Sending.encode sendings = .ok (documents.map wires) ∧
        (∀ document ∈ documents, IsDocument document) ∧
        documents.map documentText =
          sendings.map fun sending => decodePayload sending.document.data := by
  induction sendings with
  | nil => exact ⟨[], rfl, fun _ member => absurd member List.not_mem_nil, rfl⟩
  | cons sending rest ih =>
    obtain ⟨packets, sent, whole, payload⟩ := encode_document (allowed sending List.mem_cons_self)
    obtain ⟨documents, others, all, texts⟩ :=
      ih fun later member => allowed later (List.mem_cons_of_mem sending member)
    refine ⟨packets :: documents, ?_, ?_, ?_⟩
    · simp only [Attempt.all, sent, others, List.map_cons]
    · intro document member
      rcases List.mem_cons.mp member with rfl | later
      · exact whole
      · exact all document later
    · rw [List.map_cons, List.map_cons, texts, documentText, payload]

/-- Whatever is sent comes back, however the stream is cut, and the framer is left
as new. -/
theorem feedAll_encode (sendings : List Sending) (allowed : ∀ sending ∈ sendings, sending.Allowed) :
    ∃ encoded, Attempt.all Sending.encode sendings = .ok encoded ∧
      ∀ pieces : List Bytes, pieces.flatten = encoded.flatten →
        PacketFramer.new.feedAll pieces =
          { documents := sendings.map fun sending => decodePayload sending.document.data,
            failure := none, framer := PacketFramer.new } ∧
        ∀ earlier later, pieces = earlier ++ later →
          (PacketFramer.new.feedAll earlier).framer.buffered < headerLen + maxPayload := by
  obtain ⟨documents, sent, whole, texts⟩ := encode_documents allowed
  refine ⟨documents.map wires, sent, ?_⟩
  intro pieces same
  have stream : pieces.flatten = wires documents.flatten := by
    rw [same, wires_flatten]
  have read : PacketFramer.new.readsOn pieces.flatten =
      { outputs := documents.map documentText, state := Chain.new, left := [], failure := none } := by
    have all := reads_documents whole []
    rw [List.append_nil, show reads Chain.new [] = _ from new_waiting.readsOn_nil] at all
    rw [stream, readsOn_new, all]
    simp [Incremental.Drained.after, PacketFramer.new]
  constructor
  · rw [feedAll_fine new_waiting pieces (by rw [read]), PacketFramer.next, read, texts]
    rfl
  · intro earlier later _
    exact (feedAll_waiting new_waiting earlier).buffered_lt

/-- A text in four packets whose ids wrap round, after an empty one. -/
theorem feedAll_encode_wrapped :
    ∃ encoded, Attempt.all Sending.encode
        [⟨.bytes [], 7, 'A'⟩, ⟨.text "<Position/>", 3, 'z'⟩] = .ok encoded ∧
      ∀ pieces : List Bytes, pieces.flatten = encoded.flatten →
        PacketFramer.new.feedAll pieces =
          { documents := [decodePayload [], decodePayload (encodeUtf8 "<Position/>")],
            failure := none, framer := PacketFramer.new } ∧
        ∀ earlier later, pieces = earlier ++ later →
          (PacketFramer.new.feedAll earlier).framer.buffered < headerLen + maxPayload := by
  apply feedAll_encode [⟨.bytes [], 7, 'A'⟩, ⟨.text "<Position/>", 3, 'z'⟩]
  intro sending member
  rcases List.mem_cons.mp member with rfl | rest
  · exact ⟨by decide, by decide, by decide, by decide +kernel⟩
  · rw [List.mem_singleton] at rest
    subst rest
    exact ⟨by decide +kernel, by decide, by decide, by decide +kernel⟩

end OpenLaps.Framing

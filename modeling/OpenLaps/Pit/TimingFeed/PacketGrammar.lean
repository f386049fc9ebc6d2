import Mathlib.Data.List.GetD
import OpenLaps.Pit.TimingFeed.Framing

/- The wire format the framer reads, said without the framer: what one packet is in
bytes, which packets make up a document, and where a stream breaks the rules. -/
namespace OpenLaps.Framing

def ord (id : Char) : UInt8 := UInt8.ofNat id.toNat

/-- One packet in bytes. -/
def Packet.wire (packet : Packet) : Bytes :=
  magic ++ lengthField packet.payload.length ++ [ord packet.previous, ord packet.following] ++
    packet.payload

def wires (packets : List Packet) : Bytes := (packets.map Packet.wire).flatten

@[simp] theorem wires_nil : wires [] = [] := rfl

@[simp] theorem wires_cons (packet : Packet) (packets : List Packet) :
    wires (packet :: packets) = packet.wire ++ wires packets := by
  simp [wires]

@[simp] theorem wires_append (first second : List Packet) :
    wires (first ++ second) = wires first ++ wires second := by
  simp [wires]

theorem wires_flatten (documents : List (List Packet)) :
    wires documents.flatten = (documents.map wires).flatten := by
  induction documents with
  | nil => rfl
  | cons document rest ih => rw [List.flatten_cons, wires_append, ih, List.map_cons, List.flatten_cons]

/-- A packet the wire has room for. -/
structure Packet.Fits (packet : Packet) : Prop where
  payload : packet.payload.length ≤ maxPayload
  previous : packet.previous.toNat < 256
  following : packet.following.toNat < 256

/-- Ten bytes that cannot be a header. -/
def BadHeader (bytes : Bytes) : Prop :=
  headerLen ≤ bytes.length ∧
    (bytes.take 3 ≠ magic ∨ allDigits ((bytes.drop 3).take 5) = false)

def totalSize (packets : List Packet) : Nat := (packets.map (·.payload.length)).sum

def lastId (packets : List Packet) : Option Char := packets.getLast?.map (·.following)

/-- The packet may come after these packets of one document. -/
structure Continues (before : List Packet) (packet : Packet) : Prop where
  previous : packet.previous = (lastId before).getD terminal
  following : packet.following ≠ terminal → packet.following ∈ ids ∧
    ∀ last ∈ lastId before, nextPacketId last = .ok packet.following
  size : totalSize (before ++ [packet]) ≤ maxDocumentBytes

/-- The packets of a document that has not closed yet. -/
inductive Unfinished : List Packet → Prop
  | nil : Unfinished []
  | more {before : List Packet} {packet : Packet} (earlier : Unfinished before)
      (fits : packet.Fits) (continues : Continues before packet)
      (stays : packet.following ≠ terminal) : Unfinished (before ++ [packet])

/-- The packets of a whole document. -/
def IsDocument (packets : List Packet) : Prop :=
  ∃ before packet, packets = before ++ [packet] ∧ Unfinished before ∧ packet.Fits ∧
    Continues before packet ∧ packet.following = terminal

/-- The bytes after an unfinished document break the rules at once. -/
def Violation (before : List Packet) (bytes : Bytes) : Prop :=
  BadHeader bytes ∨
    ∃ packet rest, packet.Fits ∧ bytes = packet.wire ++ rest ∧ ¬ Continues before packet

/-- The stream breaks the rules somewhere: after some whole documents and perhaps
part of one. -/
def Broken (stream : Bytes) : Prop :=
  ∃ (documents : List (List Packet)) (before : List Packet) (rest : Bytes),
    (∀ document ∈ documents, IsDocument document) ∧ Unfinished before ∧
    stream = wires documents.flatten ++ wires before ++ rest ∧ Violation before rest

section Digits

/-- The five digits of the length field. -/
def fiveDigits (length : Nat) : List Nat := (Nat.digits 10 length).reverse.leftpad 5 0

theorem lengthField_eq (length : Nat) :
    lengthField length = (fiveDigits length).map fun digit => UInt8.ofNat (48 + digit) := rfl

theorem fiveDigits_lt {length digit : Nat} (member : digit ∈ fiveDigits length) : digit < 10 := by
  rw [fiveDigits, List.leftpad, List.mem_append] at member
  rcases member with zero | real
  · have := List.eq_of_mem_replicate zero
    omega
  · exact Nat.digits_lt_base (by decide) (List.mem_reverse.mp real)

theorem fiveDigits_length {length : Nat} (small : length ≤ maxPayload) :
    (fiveDigits length).length = 5 := by
  have digits : (Nat.digits 10 length).length ≤ 5 :=
    (Nat.digits_length_le_iff (by decide) length).mpr (by simp only [maxPayload] at small; omega)
  simp only [fiveDigits, List.length_leftpad, List.length_reverse]
  omega

theorem ofDigits_fiveDigits (length : Nat) :
    Nat.ofDigits 10 (fiveDigits length).reverse = length := by
  rw [fiveDigits, List.leftpad, List.reverse_append, List.reverse_reverse, List.reverse_replicate,
    Nat.ofDigits_append_replicate_zero, Nat.ofDigits_digits]

theorem digit_toNat {digit : Nat} (small : digit < 10) :
    (UInt8.ofNat (48 + digit)).toNat = 48 + digit := by
  rw [UInt8.toNat_ofNat']
  omega

theorem isDigit_digit {digit : Nat} (small : digit < 10) :
    isDigit (UInt8.ofNat (48 + digit)) = true := by
  simp only [isDigit, Bool.and_eq_true, decide_eq_true_eq, UInt8.le_iff_toNat_le,
    digit_toNat small]
  exact ⟨Nat.le_add_right 48 digit, by show 48 + digit ≤ 57; omega⟩

theorem readLength_lengthField (length : Nat) : readLength (lengthField length) = length := by
  have digits : (lengthField length).reverse.map (fun byte => byte.toNat - 48) =
      (fiveDigits length).reverse := by
    rw [lengthField_eq, ← List.map_reverse, List.map_map]
    conv_rhs => rw [← List.map_id (fiveDigits length).reverse]
    apply List.map_congr_left
    intro digit member
    have small := fiveDigits_lt (List.mem_reverse.mp member)
    simp only [Function.comp_apply, digit_toNat small, id_eq]
    omega
  rw [readLength, digits, ofDigits_fiveDigits]

theorem lengthField_length {length : Nat} (small : length ≤ maxPayload) :
    (lengthField length).length = 5 := by
  rw [lengthField_eq, List.length_map, fiveDigits_length small]

theorem allDigits_lengthField {length : Nat} (small : length ≤ maxPayload) :
    allDigits (lengthField length) = true := by
  have nonempty : (lengthField length).isEmpty = false := by
    rw [List.isEmpty_eq_false_iff]
    intro empty
    have := lengthField_length small
    rw [empty] at this
    cases this
  rw [allDigits, nonempty, Bool.not_false, Bool.true_and, List.all_eq_true]
  intro byte member
  rw [lengthField_eq, List.mem_map] at member
  obtain ⟨digit, inside, rfl⟩ := member
  exact isDigit_digit (fiveDigits_lt inside)

/-- The digit values of a field that is all digits. -/
def digitValues (digits : Bytes) : List Nat := digits.map fun byte => byte.toNat - 48

theorem readLength_eq (digits : Bytes) :
    readLength digits = Nat.ofDigits 10 (digitValues digits).reverse := by
  rw [readLength, digitValues, List.map_reverse]

theorem isDigit_iff {byte : UInt8} :
    isDigit byte = true ↔ 48 ≤ byte.toNat ∧ byte.toNat ≤ 57 := by
  simp only [isDigit, Bool.and_eq_true, decide_eq_true_eq, UInt8.le_iff_toNat_le]
  exact Iff.rfl

theorem digitValues_lt {digits : Bytes} (good : allDigits digits = true) {value : Nat}
    (member : value ∈ digitValues digits) : value < 10 := by
  rw [digitValues, List.mem_map] at member
  obtain ⟨byte, inside, rfl⟩ := member
  rw [allDigits, Bool.and_eq_true, List.all_eq_true] at good
  have range := isDigit_iff.mp (good.2 byte inside)
  omega

theorem map_digitValues {digits : Bytes} (good : allDigits digits = true) :
    (digitValues digits).map (fun digit => UInt8.ofNat (48 + digit)) = digits := by
  rw [digitValues, List.map_map]
  conv_rhs => rw [← List.map_id digits]
  apply List.map_congr_left
  intro byte inside
  rw [allDigits, Bool.and_eq_true, List.all_eq_true] at good
  have range := isDigit_iff.mp (good.2 byte inside)
  have back : 48 + (byte.toNat - 48) = byte.toNat := by omega
  simp only [Function.comp_apply, back, id_eq, UInt8.ofNat_toNat]

theorem readLength_le {digits : Bytes} (five : digits.length = 5)
    (good : allDigits digits = true) : readLength digits ≤ maxPayload := by
  have bound := Nat.ofDigits_lt_base_pow_length (b := 10) (l := (digitValues digits).reverse)
    (by decide) fun value member => digitValues_lt good (List.mem_reverse.mp member)
  rw [← readLength_eq, List.length_reverse, digitValues, List.length_map, five] at bound
  simp only [maxPayload]
  omega

/-- Five digits are the field of the number they stand for. -/
theorem lengthField_readLength {digits : Bytes} (five : digits.length = 5)
    (good : allDigits digits = true) : lengthField (readLength digits) = digits := by
  have same : (fiveDigits (readLength digits)).reverse = (digitValues digits).reverse := by
    apply Nat.ofDigits_inj_of_len_eq (b := 10) (by decide)
    · rw [List.length_reverse, fiveDigits_length (readLength_le five good), List.length_reverse,
        digitValues, List.length_map, five]
    · exact fun digit member => fiveDigits_lt (List.mem_reverse.mp member)
    · exact fun digit member => digitValues_lt good (List.mem_reverse.mp member)
    · rw [ofDigits_fiveDigits, readLength_eq]
  rw [lengthField_eq, List.reverse_inj.mp same, map_digitValues good]

end Digits

section Headers

/-- The buffer as the framer reads it: magic, digits, the two ids and the body. -/
theorem nextPacket_header {start digits : Bytes} (previous following : UInt8) (body : Bytes)
    (three : start.length = 3) (five : digits.length = 5) :
    nextPacket (start ++ digits ++ [previous, following] ++ body) =
      if start ≠ magic then .error (.badMagic start)
      else if ¬ allDigits digits then .error (.badLength digits)
      else if body.length < readLength digits then .ok none
      else .ok (some ({ previous := chr previous, following := chr following,
                        payload := body.take (readLength digits) },
        body.drop (readLength digits))) := by
  have ten : (start ++ digits ++ [previous, following]).length = headerLen := by
    simp [three, five, headerLen]
  have header : (start ++ digits ++ [previous, following] ++ body).take headerLen =
      start ++ digits ++ [previous, following] := List.take_left' ten
  have first : (start ++ digits ++ [previous, following]).take 3 = start := by
    rw [List.append_assoc, List.take_left' three]
  have second : ((start ++ digits ++ [previous, following]).drop 3).take 5 = digits := by
    rw [List.append_assoc, List.drop_left' three, List.take_left' five]
  have eight : (start ++ digits ++ [previous, following]).getD 8 0 = previous := by
    rw [List.getD_append_right _ _ _ _ (by simp [three, five])]
    simp [three, five]
  have nine : (start ++ digits ++ [previous, following]).getD 9 0 = following := by
    rw [List.getD_append_right _ _ _ _ (by simp [three, five])]
    simp [three, five]
  have enough : ¬ (start ++ digits ++ [previous, following] ++ body).length < headerLen := by
    rw [List.length_append, ten]
    omega
  have tail : (start ++ digits ++ [previous, following] ++ body).drop headerLen = body :=
    List.drop_left' ten
  have after : (start ++ digits ++ [previous, following] ++ body).drop
      (headerLen + readLength digits) = body.drop (readLength digits) := by
    rw [← List.drop_drop, tail]
  have short : (start ++ digits ++ [previous, following] ++ body).length <
      headerLen + readLength digits ↔ body.length < readLength digits := by
    rw [List.length_append, ten]
    omega
  unfold nextPacket
  rw [if_neg enough, header]
  simp only [first, second, eight, nine, tail, after, short]

/-- Ten bytes or more begin with something that has the shape of a header. -/
theorem header_split {buffer : Bytes} (enough : headerLen ≤ buffer.length) :
    ∃ start digits previous following body, start.length = 3 ∧ digits.length = 5 ∧
      buffer = start ++ digits ++ [previous, following] ++ body := by
  simp only [headerLen] at enough
  refine ⟨buffer.take 3, (buffer.drop 3).take 5, buffer.getD 8 0, buffer.getD 9 0,
    buffer.drop 10, by simp; omega, by simp; omega, ?_⟩
  have eighth : buffer.drop 8 = buffer.getD 8 0 :: buffer.drop 9 := by
    rw [List.drop_eq_getElem_cons (by omega), List.getD_eq_getElem _ _ (by omega)]
  have ninth : buffer.drop 9 = buffer.getD 9 0 :: buffer.drop 10 := by
    rw [List.drop_eq_getElem_cons (by omega), List.getD_eq_getElem _ _ (by omega)]
  conv_lhs => rw [← List.take_append_drop 3 buffer, ← List.take_append_drop 5 (buffer.drop 3),
    List.drop_drop, eighth, ninth]
  simp

theorem toNat_chr (byte : UInt8) : (chr byte).toNat = byte.toNat := by
  have small := byte.toNat_lt
  have valid : byte.toNat.isValidChar := Or.inl (by omega)
  rw [chr, Char.ofNat, dif_pos valid]
  rfl

theorem ord_chr (byte : UInt8) : ord (chr byte) = byte := by
  rw [ord, toNat_chr, UInt8.ofNat_toNat]

theorem chr_ord {id : Char} (small : id.toNat < 256) : chr (ord id) = id := by
  apply Char.toNat_inj.mp
  rw [toNat_chr, ord, UInt8.toNat_ofNat']
  omega

/-- A packet comes off the front of the buffer as it was sent. -/
theorem nextPacket_wire {packet : Packet} (fits : packet.Fits) (rest : Bytes) :
    nextPacket (packet.wire ++ rest) = .ok (some (packet, rest)) := by
  have field := readLength_lengthField packet.payload.length
  rw [Packet.wire, List.append_assoc, nextPacket_header _ _ _ rfl (lengthField_length fits.payload),
    if_neg (by simp), if_neg (by simp [allDigits_lengthField fits.payload]), field,
    if_neg (by simp), List.take_left, List.drop_left, chr_ord fits.previous,
    chr_ord fits.following]

/-- What comes off the front of the buffer is a packet. -/
theorem nextPacket_some {buffer rest : Bytes} {packet : Packet}
    (taken : nextPacket buffer = .ok (some (packet, rest))) :
    packet.Fits ∧ buffer = packet.wire ++ rest := by
  have enough : headerLen ≤ buffer.length := by
    by_contra short
    rw [nextPacket, if_pos (by omega)] at taken
    cases taken
  obtain ⟨start, digits, previous, following, body, three, five, rfl⟩ := header_split enough
  rw [nextPacket_header previous following body three five] at taken
  split at taken
  · cases taken
  rename_i same
  split at taken
  · cases taken
  rename_i good
  split at taken
  · cases taken
  rename_i whole
  rw [not_not] at same good
  cases taken
  have length : (body.take (readLength digits)).length = readLength digits := by
    rw [List.length_take]
    omega
  refine ⟨⟨?_, ?_, ?_⟩, ?_⟩
  · show (body.take (readLength digits)).length ≤ maxPayload
    rw [length]
    exact readLength_le five good
  · show (chr previous).toNat < 256
    rw [toNat_chr]
    exact previous.toNat_lt
  · show (chr following).toNat < 256
    rw [toNat_chr]
    exact following.toNat_lt
  · simp only [Packet.wire, length, lengthField_readLength five good, ord_chr, same,
      List.append_assoc, List.take_append_drop]

theorem badHeader_iff {start digits : Bytes} (previous following : UInt8) (body : Bytes)
    (three : start.length = 3) (five : digits.length = 5) :
    BadHeader (start ++ digits ++ [previous, following] ++ body) ↔
      start ≠ magic ∨ allDigits digits = false := by
  have enough : headerLen ≤ (start ++ digits ++ [previous, following] ++ body).length := by
    simp only [headerLen, List.length_append, three, five, List.length_cons, List.length_nil]
    omega
  have first : (start ++ digits ++ [previous, following] ++ body).take 3 = start := by
    rw [List.append_assoc, List.append_assoc, List.take_left' three]
  have second : ((start ++ digits ++ [previous, following] ++ body).drop 3).take 5 = digits := by
    rw [List.append_assoc, List.append_assoc, List.drop_left' three, List.take_left' five]
  rw [BadHeader, first, second]
  exact and_iff_right enough

/-- A buffer is refused for its header and for nothing else. -/
theorem nextPacket_error {buffer : Bytes} :
    (∃ error, nextPacket buffer = .error error) ↔ BadHeader buffer := by
  by_cases enough : headerLen ≤ buffer.length
  · obtain ⟨start, digits, previous, following, body, three, five, rfl⟩ := header_split enough
    rw [nextPacket_header previous following body three five,
      badHeader_iff previous following body three five]
    by_cases same : start = magic
    · by_cases good : allDigits digits = true
      · rw [if_neg (not_not.mpr same), if_neg (not_not.mpr good)]
        split <;> simp [same, good]
      · rw [if_neg (not_not.mpr same), if_pos good]
        simp [good]
    · rw [if_pos same]
      simp [same]
  · rw [nextPacket, if_pos (by omega)]
    simp [BadHeader, enough]

theorem BadHeader.append {buffer : Bytes} (bad : BadHeader buffer) (more : Bytes) :
    nextPacket (buffer ++ more) = nextPacket buffer := by
  obtain ⟨start, digits, previous, following, body, three, five, rfl⟩ := header_split bad.1
  rw [List.append_assoc (start ++ digits ++ [previous, following]) body more,
    nextPacket_header previous following body three five,
    nextPacket_header previous following (body ++ more) three five]
  by_cases same : start = magic
  · have wrong : ¬ allDigits digits = true := by
      rcases (badHeader_iff previous following body three five).mp bad with other | digits
      · exact absurd same other
      · simp [digits]
    rw [if_neg (not_not.mpr same), if_neg (not_not.mpr same), if_pos wrong, if_pos wrong]
  · rw [if_pos same, if_pos same]

end Headers

/-- The framer's way of taking packets off its buffer. -/
def packetCutter : Incremental.Cutter UInt8 Packet PacketError where
  cut := nextPacket
  shorter := nextPacket_shorter
  settled := by
    intro buffer packet rest more taken
    have found := nextPacket_some taken
    rw [found.2, List.append_assoc]
    exact nextPacket_wire found.1 (rest ++ more)
  refused := by
    intro buffer error more refused
    rw [(nextPacket_error.mp ⟨error, refused⟩).append more]
    exact refused

end OpenLaps.Framing

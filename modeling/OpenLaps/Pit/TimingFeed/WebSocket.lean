import OpenLaps.Core.Strings
import OpenLaps.Lib.Attempt

/- The server side of a WebSocket connection: frames, and the loop that turns them
into text messages. -/
namespace OpenLaps.WebSocket

def maxMessageBytes : Nat := 1024 * 1024

def opContinuation : Nat := 0x0
def opText : Nat := 0x1
def opBinary : Nat := 0x2
def opClose : Nat := 0x8
def opPing : Nat := 0x9
def opPong : Nat := 0xA

inductive WebSocketError where
  | reservedBits
  | frameTooLong (length : Nat)
  | unmasked
  | messageOpen
  | nothingOpen
  | unknownOpcode (opcode : Nat)
  | messageTooLong
  | notUtf8
deriving DecidableEq, Repr

/-- What reading a frame can raise. -/
inductive ReadError where
  | eof
  | webSocket (error : WebSocketError)
deriving DecidableEq, Repr

/-- A mask is four bytes. -/
structure Mask where
  bytes : Bytes
  four : bytes.length = 4

/-- `bytes(b ^ mask[i % 4] for i, b in enumerate(payload))`. -/
def applyMask (mask : Bytes) (payload : Bytes) : Bytes :=
  payload.mapIdx fun index byte => byte ^^^ mask.getD (index % 4) 0

/-- An unsigned number in network order: `struct.pack` for `!H` and `!Q`. -/
def packBig : Nat → Nat → Bytes
  | 0, _ => []
  | width + 1, value => packBig width (value / 256) ++ [UInt8.ofNat (value % 256)]

def unpackBig (data : Bytes) : Nat := data.foldl (fun value byte => value * 256 + byte.toNat) 0

/-- The length as the header carries it, with the mask bit. -/
def lengthBytes (maskBit : UInt8) (length : Nat) : Bytes :=
  if length < 126 then
    [maskBit ||| UInt8.ofNat length]
  else if length < 65536 then
    (maskBit ||| 126) :: packBig 2 length
  else
    (maskBit ||| 127) :: packBig 8 length

def encodeFrame (opcode : Nat) (payload : Bytes) (mask : Option Mask) : Bytes :=
  let first : UInt8 := 0x80 ||| UInt8.ofNat (opcode &&& 0x0F)
  match mask with
  | none => first :: lengthBytes 0 payload.length ++ payload
  | some mask =>
    first :: lengthBytes 0x80 payload.length ++ mask.bytes ++ applyMask mask.bytes payload

def encodeClose (code : Nat) (reason : String) : Bytes :=
  encodeFrame opClose (packBig 2 code ++ (encodeUtf8 reason).take 120) none

/-- A blocking stream, as the pieces its reads take their bytes from. None of them
is empty: an empty read is the end of the stream. -/
structure Stream where
  pieces : List Bytes
  nonempty : ∀ piece ∈ pieces, piece ≠ []

/-- All the bytes still to come. -/
def Stream.bytes (stream : Stream) : Bytes := stream.pieces.flatten

/-- `stream.read(size)`: at most `size` bytes, and never from two pieces. -/
def Stream.read (stream : Stream) (size : Nat) : Bytes × Stream :=
  match stream with
  | ⟨[], nonempty⟩ => ([], ⟨[], nonempty⟩)
  | ⟨piece :: rest, nonempty⟩ =>
    if longer : size < piece.length then
      (piece.take size, ⟨piece.drop size :: rest, by
        intro other member
        rcases List.mem_cons.mp member with rfl | later
        · intro empty
          have length := congrArg List.length empty
          rw [List.length_drop, List.length_nil] at length
          omega
        · exact nonempty other (List.mem_cons_of_mem piece later)⟩)
    else
      (piece, ⟨rest, fun other member => nonempty other (List.mem_cons_of_mem piece member)⟩)

/-- The loop of `_read_exact`. -/
def readLoop (stream : Stream) (size : Nat) (data : Bytes) : Except ReadError (Bytes × Stream) :=
  if _short : data.length < size then
    if _empty : (stream.read (size - data.length)).1 = [] then
      .error .eof
    else
      readLoop (stream.read (size - data.length)).2 size
        (data ++ (stream.read (size - data.length)).1)
  else
    .ok (data, stream)
termination_by size - data.length
decreasing_by
  have some_ := List.length_pos_iff.mpr _empty
  rw [List.length_append]
  omega

theorem read_bytes (stream : Stream) (size : Nat) :
    (stream.read size).1 ++ (stream.read size).2.bytes = stream.bytes := by
  cases stream with
  | mk pieces nonempty =>
    cases pieces with
    | nil => rfl
    | cons piece rest =>
      unfold Stream.read
      dsimp only
      split
      · simp only [Stream.bytes, List.flatten_cons, ← List.append_assoc, List.take_append_drop]
      · rfl

theorem read_length_le (stream : Stream) (size : Nat) : (stream.read size).1.length ≤ size := by
  cases stream with
  | mk pieces nonempty =>
    cases pieces with
    | nil => exact Nat.zero_le size
    | cons piece rest =>
      unfold Stream.read
      dsimp only
      split
      · exact List.length_take_le size piece
      · rename_i shorter
        exact Nat.le_of_not_lt shorter

/-- Only the end of the stream is read as nothing. -/
theorem bytes_of_read_empty {stream : Stream} {size : Nat} (positive : 0 < size)
    (empty : (stream.read size).1 = []) : stream.bytes = [] := by
  cases stream with
  | mk pieces nonempty =>
    cases pieces with
    | nil => rfl
    | cons piece rest =>
      have some_ := List.length_pos_iff.mpr (nonempty piece List.mem_cons_self)
      have length := congrArg List.length empty
      unfold Stream.read at length
      dsimp only at length
      split at length
      · simp only [List.length_take, List.length_nil] at length
        omega
      · simp only [List.length_nil] at length
        omega

/-- With enough bytes to come the loop collects them, whatever the single reads
return. -/
theorem readLoop_enough (stream : Stream) (size : Nat) (data : Bytes) (room : data.length ≤ size)
    (enough : size ≤ data.length + stream.bytes.length) :
    ∃ next, readLoop stream size data =
        .ok (data ++ stream.bytes.take (size - data.length), next) ∧
      next.bytes = stream.bytes.drop (size - data.length) := by
  induction left : size - data.length using Nat.strongRecOn generalizing stream data with
  | _ count ih =>
    rw [readLoop]
    by_cases short : data.length < size
    · have split := read_bytes stream (size - data.length)
      have bound := read_length_le stream (size - data.length)
      have total := congrArg List.length split
      rw [List.length_append] at total
      have some_ : (stream.read (size - data.length)).1 ≠ [] := by
        intro empty
        have gone := congrArg List.length (bytes_of_read_empty (by omega) empty)
        rw [List.length_nil] at gone
        omega
      have positive := List.length_pos_iff.mpr some_
      rw [dif_pos short, dif_neg some_]
      obtain ⟨next, done, rest⟩ := ih
        (size - (data ++ (stream.read (size - data.length)).1).length)
        (by rw [List.length_append]; omega) (stream.read (size - data.length)).2
        (data ++ (stream.read (size - data.length)).1) (by rw [List.length_append]; omega)
        (by rw [List.length_append]; omega) rfl
      refine ⟨next, ?_, ?_⟩
      · rw [done, ← left, ← split, List.take_append, List.length_append,
          List.take_of_length_le bound, List.append_assoc, Nat.sub_sub]
      · rw [rest, ← left, ← split, List.drop_append, List.length_append,
          List.drop_of_length_le bound, List.nil_append, Nat.sub_sub]
    · have zero : count = 0 := by omega
      rw [dif_neg short, zero]
      exact ⟨stream, by simp, by simp⟩

/-- With too few it comes to the end of the stream. -/
theorem readLoop_short (stream : Stream) (size : Nat) (data : Bytes)
    (short : data.length + stream.bytes.length < size) :
    readLoop stream size data = .error .eof := by
  induction left : size - data.length using Nat.strongRecOn generalizing stream data with
  | _ count ih =>
    rw [readLoop, dif_pos (by omega)]
    by_cases empty : (stream.read (size - data.length)).1 = []
    · rw [dif_pos empty]
    · have split := congrArg List.length (read_bytes stream (size - data.length))
      have positive := List.length_pos_iff.mpr empty
      rw [List.length_append] at split
      rw [dif_neg empty]
      exact ih _ (by rw [List.length_append]; omega) _ _ (by rw [List.length_append]; omega) rfl

def readExact (stream : Stream) (size : Nat) : Except ReadError (Bytes × Stream) :=
  readLoop stream size []

/-- Reading the front of a stream: only its bytes matter. -/
theorem readExact_append {stream : Stream} {data rest : Bytes}
    (bytes : stream.bytes = data ++ rest) :
    ∃ next, readExact stream data.length = .ok (data, next) ∧ next.bytes = rest := by
  obtain ⟨next, done, left⟩ := readLoop_enough stream data.length [] (Nat.zero_le _)
    (by rw [bytes, List.length_append]; simp)
  refine ⟨next, ?_, ?_⟩
  · rw [readExact, done, bytes]
    simp
  · rw [left, bytes]
    simp

theorem readExact_eof {stream : Stream} {size : Nat} (short : stream.bytes.length < size) :
    readExact stream size = .error .eof :=
  readLoop_short stream size [] (by simpa using short)

/-- What was read was the front of the stream. -/
theorem readExact_ok {stream next : Stream} {size : Nat} {data : Bytes}
    (read : readExact stream size = .ok (data, next)) :
    data.length = size ∧ stream.bytes = data ++ next.bytes := by
  by_cases short : stream.bytes.length < size
  · rw [readExact_eof short] at read
    cases read
  · obtain ⟨other, done, left⟩ := readLoop_enough stream size [] (Nat.zero_le _) (by simp; omega)
    rw [readExact, done] at read
    cases read
    rw [left]
    simp
    omega

structure Frame where
  fin : Bool
  opcode : Nat
  payload : Bytes
deriving DecidableEq, Repr

/-- The length field: seven bits, or the number that follows them. -/
def readLength (stream : Stream) (short : Nat) : Except ReadError (Nat × Stream) :=
  if short = 126 then do
    let field ← readExact stream 2
    return (unpackBig field.1, field.2)
  else if short = 127 then do
    let field ← readExact stream 8
    return (unpackBig field.1, field.2)
  else
    return (short, stream)

/-- The payload, unmasked when the frame is masked. -/
def readPayload (stream : Stream) (masked : Bool) (length : Nat) :
    Except ReadError (Bytes × Stream) :=
  if masked then do
    let mask ← readExact stream 4
    let payload ← readExact mask.2 length
    return (applyMask mask.1 payload.1, payload.2)
  else
    readExact stream length

def readFrame (stream : Stream) (requireMask : Bool) : Except ReadError (Frame × Stream) := do
  let head ← readExact stream 2
  let first := head.1.getD 0 0
  let second := head.1.getD 1 0
  if first &&& 0x70 ≠ 0 then
    throw (.webSocket .reservedBits)
  let length ← readLength head.2 (second &&& 0x7F).toNat
  if maxMessageBytes < length.1 then
    throw (.webSocket (.frameTooLong length.1))
  if requireMask = true ∧ second &&& 0x80 = 0 then
    throw (.webSocket .unmasked)
  let payload ← readPayload length.2 (second &&& 0x80 ≠ 0) length.1
  return ({ fin := first &&& 0x80 ≠ 0, opcode := (first &&& 0x0F).toNat, payload := payload.1 },
    payload.2)

theorem readExact_le {stream next : Stream} {size : Nat} {data : Bytes}
    (read : readExact stream size = .ok (data, next)) :
    next.bytes.length + size ≤ stream.bytes.length := by
  have exactly := readExact_ok read
  rw [exactly.2, List.length_append]
  omega

theorem readLength_le {stream next : Stream} {short length : Nat}
    (read : readLength stream short = .ok (length, next)) :
    next.bytes.length ≤ stream.bytes.length := by
  unfold readLength at read
  split at read
  · obtain ⟨field, taken, done⟩ := Attempt.bind_ok.mp read
    cases done
    have bound := readExact_le taken
    omega
  split at read
  · obtain ⟨field, taken, done⟩ := Attempt.bind_ok.mp read
    cases done
    have bound := readExact_le taken
    omega
  · cases read
    exact Nat.le_refl _

theorem readPayload_le {stream next : Stream} {masked : Bool} {length : Nat} {payload : Bytes}
    (read : readPayload stream masked length = .ok (payload, next)) :
    next.bytes.length ≤ stream.bytes.length := by
  unfold readPayload at read
  split at read
  · obtain ⟨mask, first, later⟩ := Attempt.bind_ok.mp read
    obtain ⟨data, second, done⟩ := Attempt.bind_ok.mp later
    cases done
    have one := readExact_le first
    have two := readExact_le second
    omega
  · have bound := readExact_le read
    omega

/-- Reading a frame takes at least its first two bytes. -/
theorem readFrame_shorter {stream next : Stream} {requireMask : Bool} {frame : Frame}
    (read : readFrame stream requireMask = .ok (frame, next)) :
    next.bytes.length < stream.bytes.length := by
  unfold readFrame at read
  obtain ⟨head, first, afterHead⟩ := Attempt.bind_ok.mp read
  dsimp only at afterHead
  split at afterHead
  · cases afterHead
  obtain ⟨length, second, afterLength⟩ := Attempt.bind_ok.mp afterHead
  split at afterLength
  · cases afterLength
  split at afterLength
  · cases afterLength
  obtain ⟨payload, third, done⟩ := Attempt.bind_ok.mp afterLength
  cases done
  have one := readExact_le first
  have two := readLength_le second
  have three := readPayload_le third
  omega

/-- What comes of reading messages: the texts yielded, what was written back, and
the error that ended it, if one did. -/
structure Session where
  yielded : List String
  written : List Bytes
  raised : Option WebSocketError
deriving DecidableEq, Repr

def Session.ended : Session := { yielded := [], written := [], raised := none }

def Session.failed (error : WebSocketError) : Session :=
  { yielded := [], written := [], raised := some error }

def Session.yielding (text : String) (session : Session) : Session :=
  { session with yielded := text :: session.yielded }

def Session.writing (reply : Bytes) (session : Session) : Session :=
  { session with written := reply :: session.written }

/-- The parts of the message a data frame continues, or why it cannot. -/
def takeData (parts : List Bytes) (frame : Frame) : Except WebSocketError (List Bytes) :=
  if frame.opcode = opText ∨ frame.opcode = opBinary then
    if parts ≠ [] then .error .messageOpen else .ok [frame.payload]
  else if frame.opcode = opContinuation then
    if parts = [] then .error .nothingOpen else .ok (parts ++ [frame.payload])
  else
    .error (.unknownOpcode frame.opcode)

/-- `messages`: `parts` are the fragments of the message that is open and `size`
their bytes. -/
def messagesLoop (stream : Stream) (parts : List Bytes) (size : Nat) : Session :=
  match _read : readFrame stream true with
  | .error .eof => .ended
  | .error (.webSocket error) => .failed error
  | .ok (frame, next) =>
    if frame.opcode = opClose then
      Session.ended.writing (encodeClose 1000 "")
    else if frame.opcode = opPing then
      (messagesLoop next parts size).writing (encodeFrame opPong frame.payload none)
    else if frame.opcode = opPong then
      messagesLoop next parts size
    else
      match takeData parts frame with
      | .error error => .failed error
      | .ok parts =>
        let size := if frame.opcode = opContinuation then size + frame.payload.length
          else frame.payload.length
        if maxMessageBytes < size then
          .failed .messageTooLong
        else if frame.fin then
          match decodeUtf8 parts.flatten with
          | none => .failed .notUtf8
          | some text => (messagesLoop next [] 0).yielding text
        else
          messagesLoop next parts size
termination_by stream.bytes.length
decreasing_by all_goals exact readFrame_shorter _read

def messages (stream : Stream) : Session := messagesLoop stream [] 0

end OpenLaps.WebSocket

import Mathlib.Data.List.Forall2
import OpenLaps.Pit.TimingFeed.WebSocketFrames

/- What a client may send, and that `messages` makes of it exactly the texts it was
made from. -/
namespace OpenLaps.WebSocket

/-- The payload of one client frame, and its mask. -/
structure Masked where
  payload : Bytes
  mask : Mask
  small : payload.length ≤ maxMessageBytes

inductive Control where
  | ping (frame : Masked)
  | pong (frame : Masked)

def Control.bytes : Control → Bytes
  | .ping frame => encodeFrame opPing frame.payload (some frame.mask)
  | .pong frame => encodeFrame opPong frame.payload (some frame.mask)

/-- What is owed to a control frame: a pong for a ping. -/
def Control.replies : Control → List Bytes
  | .ping frame => [encodeFrame opPong frame.payload none]
  | .pong _ => []

def clearFin : Bytes → Bytes
  | [] => []
  | first :: rest => (first &&& 0x7F) :: rest

/-- A data frame, with the FIN bit on the last one of its message only. -/
def dataFrame (fin : Bool) (opcode : Nat) (frame : Masked) : Bytes :=
  if fin then encodeFrame opcode frame.payload (some frame.mask)
  else clearFin (encodeFrame opcode frame.payload (some frame.mask))

/-- A part of a message, with the control frames sent before it. -/
structure Fragment where
  controls : List Control
  frame : Masked

def Fragment.bytes (fragment : Fragment) (fin : Bool) (opcode : Nat) : Bytes :=
  fragment.controls.flatMap Control.bytes ++ dataFrame fin opcode fragment.frame

def Fragment.replies (fragment : Fragment) : List Bytes := fragment.controls.flatMap Control.replies

def continuationBytes : List Fragment → Bytes
  | [] => []
  | fragment :: rest => fragment.bytes rest.isEmpty opContinuation ++ continuationBytes rest

/-- A text and the fragments it is sent in. -/
structure Message where
  text : String
  binary : Bool
  first : Fragment
  rest : List Fragment
  joined : first.frame.payload ++ rest.flatMap (·.frame.payload) = encodeUtf8 text
  small : (encodeUtf8 text).length ≤ maxMessageBytes

def Message.bytes (message : Message) : Bytes :=
  message.first.bytes message.rest.isEmpty (if message.binary then opBinary else opText) ++
    continuationBytes message.rest

def Message.replies (message : Message) : List Bytes :=
  message.first.replies ++ message.rest.flatMap Fragment.replies

/-- A close frame, whatever follows it, or the end of the stream. -/
inductive Ending where
  | close (frame : Masked) (after : Bytes)
  | endOfStream

def Ending.bytes : Ending → Bytes
  | .close frame after => encodeFrame opClose frame.payload (some frame.mask) ++ after
  | .endOfStream => []

def Ending.replies : Ending → List Bytes
  | .close _ _ => [encodeClose 1000 ""]
  | .endOfStream => []

/-- All that one client sends. -/
structure Traffic where
  messages : List Message
  controls : List Control
  ending : Ending

def Traffic.bytes (traffic : Traffic) : Bytes :=
  traffic.messages.flatMap Message.bytes ++ traffic.controls.flatMap Control.bytes ++
    traffic.ending.bytes

def Traffic.replies (traffic : Traffic) : List Bytes :=
  traffic.messages.flatMap Message.replies ++ traffic.controls.flatMap Control.replies ++
    traffic.ending.replies

def Session.writingAll (replies : List Bytes) (session : Session) : Session :=
  { session with written := replies ++ session.written }

@[simp] theorem Session.writingAll_nil (session : Session) : session.writingAll [] = session := rfl

theorem Session.writingAll_writingAll (first second : List Bytes) (session : Session) :
    (session.writingAll second).writingAll first = session.writingAll (first ++ second) := by
  simp only [Session.writingAll, List.append_assoc]

section Loop

/-- One turn of the loop, once its frame is read. -/
theorem messagesLoop_frame {stream next : Stream} {frame : Frame} (parts : List Bytes) (size : Nat)
    (read : readFrame stream true = .ok (frame, next)) : messagesLoop stream parts size =
      if frame.opcode = opClose then Session.ended.writing (encodeClose 1000 "")
      else if frame.opcode = opPing then
        (messagesLoop next parts size).writing (encodeFrame opPong frame.payload none)
      else if frame.opcode = opPong then messagesLoop next parts size
      else match takeData parts frame with
        | .error error => .failed error
        | .ok parts =>
          if maxMessageBytes < (if frame.opcode = opContinuation then size + frame.payload.length
            else frame.payload.length) then .failed .messageTooLong
          else if frame.fin then
            match decodeUtf8 parts.flatten with
            | none => .failed .notUtf8
            | some text => (messagesLoop next [] 0).yielding text
          else messagesLoop next parts (if frame.opcode = opContinuation
            then size + frame.payload.length else frame.payload.length) := by
  rw [messagesLoop]
  split
  · rename_i ended
    rw [read] at ended
    cases ended
  · rename_i broken
    rw [read] at broken
    cases broken
  · rename_i again
    rw [read] at again
    cases again
    rfl

theorem messagesLoop_eof {stream : Stream} (parts : List Bytes) (size : Nat)
    (read : readFrame stream true = .error .eof) :
    messagesLoop stream parts size = .ended := by
  rw [messagesLoop]
  split <;> simp_all

theorem readFrame_control {stream : Stream} {opcode : Nat} {frame : Masked} {rest : Bytes}
    (bytes : stream.bytes = encodeFrame opcode frame.payload (some frame.mask) ++ rest) :
    ∃ next, readFrame stream true =
        .ok ({ fin := true, opcode := opcode % 16, payload := frame.payload }, next) ∧
      next.bytes = rest :=
  readFrame_encodeFrame opcode frame.small (fun _ => Option.some_ne_none frame.mask) bytes

/-- Control frames are answered in order and leave an open message alone. -/
theorem messagesLoop_controls (controls : List Control) {stream : Stream} {rest : Bytes}
    (parts : List Bytes) (size : Nat)
    (bytes : stream.bytes = controls.flatMap Control.bytes ++ rest) :
    ∃ next : Stream, next.bytes = rest ∧ messagesLoop stream parts size =
      (messagesLoop next parts size).writingAll (controls.flatMap Control.replies) := by
  induction controls generalizing stream with
  | nil => exact ⟨stream, bytes, rfl⟩
  | cons control others ih =>
    rw [List.flatMap_cons, List.append_assoc] at bytes
    cases control with
    | ping frame =>
      obtain ⟨middle, read, left⟩ := readFrame_control bytes
      obtain ⟨next, done, later⟩ := ih left
      refine ⟨next, done, ?_⟩
      rw [messagesLoop_frame parts size read]
      dsimp only
      rw [if_neg (by decide), if_pos (by decide), later]
      rfl
    | pong frame =>
      obtain ⟨middle, read, left⟩ := readFrame_control bytes
      obtain ⟨next, done, later⟩ := ih left
      refine ⟨next, done, ?_⟩
      rw [messagesLoop_frame parts size read]
      dsimp only
      rw [if_neg (by decide), if_neg (by decide), if_pos (by decide), later]
      rfl

/-- The first byte of a frame whose FIN bit was cleared. -/
theorem cleared_bits (opcode : Nat) :
    ((0x80 ||| UInt8.ofNat (opcode &&& 0x0F)) &&& 0x7F) &&& 0x70 = 0 ∧
      ((0x80 ||| UInt8.ofNat (opcode &&& 0x0F)) &&& 0x7F) &&& 0x80 = 0 ∧
      (((0x80 ||| UInt8.ofNat (opcode &&& 0x0F)) &&& 0x7F) &&& 0x0F).toNat = opcode % 16 := by
  have all : ∀ low : Fin 16, ((0x80 ||| UInt8.ofNat low) &&& 0x7F) &&& 0x70 = 0 ∧
      ((0x80 ||| UInt8.ofNat low) &&& 0x7F) &&& 0x80 = 0 ∧
      (((0x80 ||| UInt8.ofNat low) &&& 0x7F) &&& 0x0F).toNat = low := by
    decide +kernel
  rw [show opcode &&& 0x0F = opcode % 16 from Nat.and_two_pow_sub_one_eq_mod opcode 4]
  exact all ⟨opcode % 16, Nat.mod_lt opcode (by decide)⟩

theorem readFrame_dataFrame {stream : Stream} {fin : Bool} {opcode : Nat} {frame : Masked}
    {rest : Bytes} (bytes : stream.bytes = dataFrame fin opcode frame ++ rest) :
    ∃ next, readFrame stream true =
        .ok ({ fin := fin, opcode := opcode % 16, payload := frame.payload }, next) ∧
      next.bytes = rest := by
  cases fin with
  | true => exact readFrame_control bytes
  | false =>
    obtain ⟨clear, fin, low⟩ := cleared_bits opcode
    rw [dataFrame, if_neg Bool.false_ne_true, encodeFrame_eq] at bytes
    have read := readFrame_frameBytes clear frame.small
      (fun (_ : true = true) => Option.some_ne_none frame.mask) bytes
    rw [fin, low] at read
    exact read

/-- A message opcode opens a message, a continuation goes on with it. -/
def Takes (parts : List Bytes) (opcode : Nat) : Prop :=
  if opcode = opContinuation then parts ≠ [] else parts = [] ∧ (opcode = opText ∨ opcode = opBinary)

/-- The bytes a message has come to with this frame. -/
theorem takeData_takes {parts : List Bytes} {frame : Frame} (takes : Takes parts frame.opcode) :
    takeData parts frame = .ok (parts ++ [frame.payload]) := by
  unfold Takes at takes
  unfold takeData
  by_cases goes : frame.opcode = opContinuation
  · rw [if_pos goes] at takes
    rw [if_neg (by rw [goes]; decide), if_pos goes, if_neg takes]
  · rw [if_neg goes] at takes
    rw [if_pos takes.2, takes.1]
    rfl

theorem takes_data {parts : List Bytes} {opcode : Nat} (takes : Takes parts opcode) :
    ¬ opcode = opClose ∧ ¬ opcode = opPing ∧ ¬ opcode = opPong ∧ opcode % 16 = opcode := by
  unfold Takes at takes
  by_cases goes : opcode = opContinuation
  · rw [goes]
    decide
  · rw [if_neg goes] at takes
    rcases takes.2 with text | binary
    · rw [text]
      decide
    · rw [binary]
      decide

/-- A fragment, with what was sent before it, adds its payload to the message, and
the last one yields the text. -/
theorem messagesLoop_fragment {stream : Stream} {fragment : Fragment} {fin : Bool} {opcode : Nat}
    {parts : List Bytes} {rest : Bytes} (takes : Takes parts opcode)
    (small : (parts ++ [fragment.frame.payload]).flatten.length ≤ maxMessageBytes)
    (bytes : stream.bytes = fragment.bytes fin opcode ++ rest) :
    ∃ next : Stream, next.bytes = rest ∧ messagesLoop stream parts parts.flatten.length =
      Session.writingAll fragment.replies
        (if fin then
          match decodeUtf8 (parts ++ [fragment.frame.payload]).flatten with
          | none => .failed .notUtf8
          | some text => (messagesLoop next [] 0).yielding text
        else messagesLoop next (parts ++ [fragment.frame.payload])
          (parts ++ [fragment.frame.payload]).flatten.length) := by
  rw [Fragment.bytes, List.append_assoc] at bytes
  obtain ⟨middle, left, answered⟩ :=
    messagesLoop_controls fragment.controls parts parts.flatten.length bytes
  obtain ⟨next, read, done⟩ := readFrame_dataFrame left
  obtain ⟨notClose, notPing, notPong, low⟩ := takes_data takes
  rw [low] at read
  have total : (if opcode = opContinuation then
      parts.flatten.length + fragment.frame.payload.length else fragment.frame.payload.length) =
      (parts ++ [fragment.frame.payload]).flatten.length := by
    unfold Takes at takes
    split
    · simp
    · rename_i starts
      rw [if_neg starts] at takes
      simp [takes.1]
  refine ⟨next, done, ?_⟩
  rw [answered, messagesLoop_frame parts _ read, if_neg notClose, if_neg notPing, if_neg notPong,
    takeData_takes takes]
  dsimp only
  rw [total, if_neg (Nat.not_lt_of_le small)]
  rfl

/-- The rest of an open message. -/
theorem messagesLoop_continuations (fragments : List Fragment) {stream : Stream}
    {parts : List Bytes} {rest : Bytes} {text : String} (some_ : fragments ≠ []) (open_ : parts ≠ [])
    (joined : parts.flatten ++ fragments.flatMap (·.frame.payload) = encodeUtf8 text)
    (small : (encodeUtf8 text).length ≤ maxMessageBytes)
    (bytes : stream.bytes = continuationBytes fragments ++ rest) :
    ∃ next : Stream, next.bytes = rest ∧ messagesLoop stream parts parts.flatten.length =
      ((messagesLoop next [] 0).yielding text).writingAll (fragments.flatMap Fragment.replies) := by
  induction fragments generalizing stream parts with
  | nil => exact absurd rfl some_
  | cons fragment others ih =>
    rw [List.flatMap_cons, ← List.append_assoc] at joined
    have longer : (parts ++ [fragment.frame.payload]).flatten ++
        others.flatMap (·.frame.payload) = encodeUtf8 text := by
      rw [← joined]
      simp
    have bound : (parts ++ [fragment.frame.payload]).flatten.length ≤ maxMessageBytes := by
      rw [← longer, List.length_append] at small
      omega
    rw [continuationBytes, List.append_assoc] at bytes
    obtain ⟨middle, left, turned⟩ :=
      messagesLoop_fragment (show Takes parts opContinuation from open_) bound bytes
    by_cases last : others = []
    · subst last
      rw [List.flatMap_nil, List.append_nil] at longer
      refine ⟨middle, left, ?_⟩
      rw [turned, longer, decodeUtf8_encodeUtf8]
      simp
    · obtain ⟨next, done, later⟩ := ih last (by simp) longer left
      refine ⟨next, done, ?_⟩
      rw [turned, if_neg (by simpa using last), later, Session.writingAll_writingAll,
        List.flatMap_cons]

/-- A message is yielded, and every ping inside it answered. -/
theorem messagesLoop_message (message : Message) {stream : Stream} {rest : Bytes}
    (bytes : stream.bytes = message.bytes ++ rest) :
    ∃ next : Stream, next.bytes = rest ∧ messagesLoop stream [] 0 =
      ((messagesLoop next [] 0).yielding message.text).writingAll message.replies := by
  rw [Message.bytes, List.append_assoc] at bytes
  have takes : Takes [] (if message.binary then opBinary else opText) := by
    cases message.binary <;> exact ⟨rfl, by decide⟩
  have joined := message.joined
  have small := message.small
  have bound : ([] ++ [message.first.frame.payload]).flatten.length ≤ maxMessageBytes := by
    rw [← joined, List.length_append] at small
    simp only [List.nil_append, List.flatten_cons, List.flatten_nil, List.append_nil]
    omega
  obtain ⟨middle, left, turned⟩ := messagesLoop_fragment takes bound bytes
  by_cases last : message.rest = []
  · rw [last, List.flatMap_nil, List.append_nil] at joined
    rw [last] at left
    refine ⟨middle, left, ?_⟩
    rw [show (0 : Nat) = ([] : List Bytes).flatten.length from rfl, turned, last, Message.replies,
      last]
    simp [joined]
  · obtain ⟨next, done, later⟩ := messagesLoop_continuations message.rest last
      (List.cons_ne_nil message.first.frame.payload [])
      (by rw [← joined]; simp) small left
    refine ⟨next, done, ?_⟩
    rw [show (0 : Nat) = ([] : List Bytes).flatten.length from rfl, turned,
      if_neg (by simpa using last)]
    rw [List.nil_append, later, Session.writingAll_writingAll]
    rfl

/-- The messages of a client, one after the other. -/
theorem messagesLoop_messages (sent : List Message) {stream : Stream} {rest : Bytes}
    (bytes : stream.bytes = sent.flatMap Message.bytes ++ rest) :
    ∃ next : Stream, next.bytes = rest ∧ messagesLoop stream [] 0 =
      { yielded := sent.map (·.text) ++ (messagesLoop next [] 0).yielded,
        written := sent.flatMap Message.replies ++ (messagesLoop next [] 0).written,
        raised := (messagesLoop next [] 0).raised } := by
  induction sent generalizing stream with
  | nil => exact ⟨stream, bytes, rfl⟩
  | cons message others ih =>
    rw [List.flatMap_cons, List.append_assoc] at bytes
    obtain ⟨middle, left, turned⟩ := messagesLoop_message message bytes
    obtain ⟨next, done, later⟩ := ih left
    refine ⟨next, done, ?_⟩
    rw [turned, later]
    simp [Session.yielding, Session.writingAll]

/-- All of a client's texts, and all the replies it is owed. -/
theorem messages_traffic {traffic : Traffic} {stream : Stream}
    (bytes : stream.bytes = traffic.bytes) : messages stream =
      { yielded := traffic.messages.map (·.text), written := traffic.replies, raised := none } := by
  rw [Traffic.bytes, List.append_assoc] at bytes
  obtain ⟨middle, left, sent⟩ := messagesLoop_messages traffic.messages bytes
  obtain ⟨next, last, answered⟩ := messagesLoop_controls traffic.controls [] 0 left
  have ended : messagesLoop next [] 0 =
      { yielded := [], written := traffic.ending.replies, raised := none } := by
    cases ending : traffic.ending with
    | close frame after =>
      rw [ending] at last
      obtain ⟨final, read, -⟩ := readFrame_control last
      rw [messagesLoop_frame [] 0 read]
      dsimp only
      rw [if_pos (by decide)]
      rfl
    | endOfStream =>
      rw [ending] at last
      apply messagesLoop_eof
      have short : next.bytes.length < 2 := by
        rw [last]
        decide
      rw [readFrame, readExact_eof short]
      rfl
  rw [messages, sent, answered, ended, Traffic.replies]
  simp [Session.writingAll]

end Loop

section Separate

/-- The frames that can be read off a stream. -/
def framesRead (stream : Stream) : List Frame :=
  match _read : readFrame stream true with
  | .error _ => []
  | .ok (frame, next) => frame :: framesRead next
termination_by stream.bytes.length
decreasing_by exact readFrame_shorter _read

theorem framesRead_cons {stream next : Stream} {frame : Frame}
    (read : readFrame stream true = .ok (frame, next)) :
    framesRead stream = frame :: framesRead next := by
  rw [framesRead]
  split <;> simp_all

def isData (frame : Frame) : Bool :=
  frame.opcode == opText || frame.opcode == opBinary || frame.opcode == opContinuation

/-- The frames begin one message and only go on with it. -/
inductive Open : List Frame → Prop
  | start {frame : Frame} (starts : frame.opcode = opText ∨ frame.opcode = opBinary) : Open [frame]
  | more {frames : List Frame} {frame : Frame} (earlier : Open frames)
      (unfinished : ∀ other ∈ frames, other.fin = false) (goes : frame.opcode = opContinuation) :
      Open (frames ++ [frame])

/-- The frames are one message from its first to its last, and this is its text. -/
structure IsMessage (frames : List Frame) (text : String) : Prop where
  one : Open frames
  whole : ∃ before last, frames = before ++ [last] ∧ (∀ frame ∈ before, frame.fin = false) ∧
    last.fin = true
  text : decodeUtf8 (frames.flatMap (·.payload)) = some text

/-- The texts are those of successive messages among the frames, no frame of which
belongs to two of them. -/
def Separate (frames : List Frame) (texts : List String) : Prop :=
  ∃ runs rest, frames = runs.flatten ++ rest ∧ List.Forall₂ IsMessage runs texts

theorem separate_nil (frames : List Frame) : Separate frames [] := ⟨[], frames, rfl, .nil⟩

theorem Separate.cons {run frames : List Frame} {text : String} {texts : List String}
    (message : IsMessage run text) (later : Separate frames texts) :
    Separate (run ++ frames) (text :: texts) := by
  obtain ⟨runs, rest, split, all⟩ := later
  exact ⟨run :: runs, rest, by rw [split, List.flatten_cons, List.append_assoc], .cons message all⟩

/-- What the loop holds of the message that is open. -/
def Holds (frames : List Frame) (parts : List Bytes) : Prop :=
  (frames = [] ∨ Open frames) ∧ (∀ frame ∈ frames, frame.fin = false) ∧
    parts = frames.map (·.payload)

/-- A frame that is taken goes on with the message that is open, or begins one. -/
theorem takeData_open {frames : List Frame} {parts taken : List Bytes} {frame : Frame}
    (holds : Holds frames parts) (took : takeData parts frame = .ok taken) :
    isData frame = true ∧ Open (frames ++ [frame]) ∧
      taken = (frames ++ [frame]).map (·.payload) := by
  obtain ⟨which, unfinished, rfl⟩ := holds
  unfold takeData at took
  split at took
  · rename_i starts
    split at took
    · cases took
    rename_i closed
    cases took
    have none_ : frames = [] := by simpa using closed
    rw [none_]
    exact ⟨by rcases starts with same | same <;> simp [isData, same], .start starts, rfl⟩
  split at took
  · rename_i goes
    split at took
    · cases took
    rename_i open_
    cases took
    rcases which with none_ | begun
    · rw [none_] at open_
      exact absurd rfl open_
    · exact ⟨by simp [isData, goes], .more begun unfinished goes, by simp⟩
  · cases took

theorem isData_false {frame : Frame} (control : frame.opcode = opPing ∨ frame.opcode = opPong) :
    isData frame = false := by
  rcases control with same | same <;> simp [isData, same, opPing, opPong, opText, opBinary,
    opContinuation]

/-- Whatever the stream holds, every text that is yielded is one message, and no
frame is used for two. -/
theorem messagesLoop_separate (stream : Stream) (frames : List Frame) (parts : List Bytes)
    (size : Nat) (holds : Holds frames parts) :
    Separate (frames ++ (framesRead stream).filter isData)
      (messagesLoop stream parts size).yielded := by
  induction left : stream.bytes.length using Nat.strongRecOn
    generalizing stream frames parts size with
  | _ count ih =>
    cases read : readFrame stream true with
    | error error =>
      have empty : (messagesLoop stream parts size).yielded = [] := by
        rw [messagesLoop]
        split <;> simp_all [Session.ended, Session.failed]
      rw [empty]
      exact separate_nil _
    | ok pair =>
      cases pair with
      | mk frame next =>
        have shorter := readFrame_shorter read
        rw [messagesLoop_frame parts size read, framesRead_cons read]
        split
        · exact separate_nil _
        split
        · rename_i ping
          rw [List.filter_cons_of_neg (by simp [isData_false (Or.inl ping)])]
          exact ih _ (by omega) next frames parts size holds rfl
        split
        · rename_i pong
          rw [List.filter_cons_of_neg (by simp [isData_false (Or.inr pong)])]
          exact ih _ (by omega) next frames parts size holds rfl
        split
        · exact separate_nil _
        rename_i taken took
        obtain ⟨data, begun, rfl⟩ := takeData_open holds took
        rw [List.filter_cons_of_pos data, ← List.singleton_append, ← List.append_assoc]
        generalize (if frame.opcode = opContinuation then size + frame.payload.length
          else frame.payload.length) = grown
        split
        · exact separate_nil _
        split
        · rename_i fin
          split
          · exact separate_nil _
          · rename_i text decoded
            have message : IsMessage (frames ++ [frame]) text :=
              ⟨begun, ⟨frames, frame, rfl, holds.2.1, fin⟩, by
                rw [List.flatMap_def]
                exact decoded⟩
            exact .cons message (ih _ (by omega) next [] [] 0
              ⟨Or.inl rfl, fun _ member => absurd member List.not_mem_nil, rfl⟩ rfl)
        · rename_i goes
          refine ih _ (by omega) next _ _ _ ⟨Or.inr begun, ?_, rfl⟩ rfl
          intro other member
          rcases List.mem_append.mp member with earlier | here
          · exact holds.2.1 other earlier
          · rw [List.mem_singleton.mp here]
            exact Bool.eq_false_iff.mpr goes

end Separate

/-- Reading messages: a client's traffic comes out as its texts with every ping
answered, a frame is read as it was encoded, and no stream at all can make two
messages run into one. -/
theorem messages_correct :
    (∀ (traffic : Traffic) (stream : Stream), stream.bytes = traffic.bytes →
      messages stream =
        { yielded := traffic.messages.map (·.text), written := traffic.replies,
          raised := none }) ∧
    (∀ (opcode : Nat) (payload rest : Bytes) (mask : Option Mask) (stream : Stream)
      (requireMask : Bool), payload.length ≤ maxMessageBytes → (requireMask = true → mask ≠ none) →
      stream.bytes = encodeFrame opcode payload mask ++ rest →
      ∃ next, readFrame stream requireMask =
          .ok ({ fin := true, opcode := opcode % 16, payload := payload }, next) ∧
        next.bytes = rest) ∧
    ∀ stream : Stream, Separate ((framesRead stream).filter isData) (messages stream).yielded := by
  refine ⟨fun traffic stream => messages_traffic, ?_, ?_⟩
  · intro opcode payload rest mask stream requireMask small masked bytes
    exact readFrame_encodeFrame opcode small masked bytes
  · intro stream
    exact messagesLoop_separate stream [] [] 0
      ⟨Or.inl rfl, fun _ member => absurd member List.not_mem_nil, rfl⟩

def exampleMask : Mask := ⟨[1, 2, 3, 4], rfl⟩

/-- `hi` in an empty text frame and a continuation, with a ping between them. -/
def exampleMessage : Message where
  text := "hi"
  binary := false
  first := { controls := [], frame := ⟨[], exampleMask, by decide⟩ }
  rest := [{ controls := [.ping ⟨[9], exampleMask, by decide⟩],
             frame := ⟨[104, 105], exampleMask, by decide⟩ }]
  joined := by decide +kernel
  small := by decide +kernel

def exampleTraffic : Traffic :=
  { messages := [exampleMessage], controls := [],
    ending := .close ⟨[3, 232], exampleMask, by decide⟩ [7] }

/-- Read a byte at a time. -/
def exampleStream : Stream :=
  ⟨exampleTraffic.bytes.map fun byte => [byte], by
    intro piece member
    obtain ⟨byte, -, rfl⟩ := List.mem_map.mp member
    exact List.cons_ne_nil byte []⟩

theorem messages_correct_fragmented :
    messages exampleStream =
      { yielded := ["hi"], written := [[0x8A, 1, 9], [0x88, 2, 3, 232]], raised := none } := by
  have bytes : exampleStream.bytes = exampleTraffic.bytes := by
    rw [Stream.bytes, exampleStream, ← List.flatMap_def, List.flatMap_singleton']
  rw [messages_correct.1 exampleTraffic exampleStream bytes]
  decide +kernel

end OpenLaps.WebSocket

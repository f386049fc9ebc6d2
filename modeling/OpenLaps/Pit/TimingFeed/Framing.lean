import Mathlib.Data.Nat.Digits.Lemmas
import OpenLaps.Core.Strings
import OpenLaps.Lib.Incremental

/- The Natsoft packet framing: the chain of packets one document is sent as, and
the framer that turns a byte stream back into documents. -/
namespace OpenLaps.Framing

/-- The bytes of `!@#`. -/
def magic : Bytes := [33, 64, 35]

def headerLen : Nat := 10

def maxPayload : Nat := 99999

def terminal : Char := '='

def ids : List Char := "ABCDEFGHIJKLMNOPQRSTUVWXYZabcdefghijklmnopqrstuvwxyz".toList

def maxDocumentBytes : Nat := 4 * 1024 * 1024

/-- The violations, each with what its message quotes. -/
inductive PacketError where
  | notAnId (id : Char)
  | badMagic (found : Bytes)
  | badLength (digits : Bytes)
  | brokenPrevious (said expected : Char)
  | badId (id : Char)
  | brokenNext (said last : Char)
  | tooLong
deriving DecidableEq, Repr

/-- What the encoder refuses. -/
inductive EncodeError where
  | payloadTooLong (length : Nat)
  | badChunk
  | packet (error : PacketError)
deriving DecidableEq, Repr

def nextPacketId (packetId : Char) : Except PacketError Char :=
  match ids.idxOf? packetId with
  | none => .error (.notAnId packetId)
  | some index => .ok (ids.get ⟨(index + 1) % ids.length, Nat.mod_lt _ (by decide)⟩)

/-- `f"{length:05d}"` in ASCII. -/
def lengthField (length : Nat) : Bytes :=
  ((Nat.digits 10 length).reverse.leftpad 5 0).map fun digit => UInt8.ofNat (48 + digit)

def encodePacket (payload : Bytes) (previous following : Char) : Except EncodeError Bytes :=
  if maxPayload < payload.length then
    .error (.payloadTooLong payload.length)
  else
    .ok (magic ++ lengthField payload.length ++ String.utf8EncodeChar previous ++
      String.utf8EncodeChar following ++ payload)

/-- `[data[i : i + chunk] for i in range(0, len(data), chunk)]`. -/
def slices (chunk : Nat) (data : Bytes) : List Bytes :=
  (List.range ((data.length + chunk - 1) / chunk)).map fun index =>
    (data.drop (index * chunk)).take chunk

inductive Document where
  | text (contents : String)
  | bytes (contents : Bytes)
deriving DecidableEq

def Document.data : Document → Bytes
  | .text contents => encodeUtf8 contents
  | .bytes contents => contents

/-- The loop over the parts: the last one closes the chain, the others name the
current id. -/
def encodeChain (previous current : Char) : List Bytes → Except EncodeError Bytes
  | [] => .ok []
  | part :: rest =>
    let following := if rest = [] then terminal else current
    match encodePacket part previous following with
    | .error error => .error error
    | .ok packet =>
      match nextPacketId current with
      | .error error => .error (.packet error)
      | .ok next =>
        match encodeChain current next rest with
        | .error error => .error error
        | .ok later => .ok (packet ++ later)

def encodeDocument (document : Document) (chunk : Nat) (firstId : Char) :
    Except EncodeError Bytes :=
  if chunk = 0 ∨ maxPayload < chunk then
    .error .badChunk
  else
    let parts := match slices chunk document.data with
      | [] => [[]]
      | parts => parts
    match parts with
    | [part] => encodePacket part terminal terminal
    | parts => encodeChain terminal firstId parts

def decodePayload (data : Bytes) : String :=
  match decodeUtf8 data with
  | some text => text
  | none => decodeLatin1 data

/-- The document under assembly. -/
structure Chain where
  parts : List Bytes
  size : Nat
  expectPrevious : Char
  lastFollowing : Option Char
deriving DecidableEq, Repr

structure PacketFramer extends Chain where
  buffer : Bytes
deriving DecidableEq, Repr

def Chain.new : Chain :=
  { parts := [], size := 0, expectPrevious := terminal, lastFollowing := none }

/-- The state of `__init__`, and of `reset`. -/
def PacketFramer.new : PacketFramer := { Chain.new with buffer := [] }

def PacketFramer.buffered (framer : PacketFramer) : Nat := framer.buffer.length

def isDigit (byte : UInt8) : Bool := 48 ≤ byte && byte ≤ 57

/-- `digits.isdigit()`. -/
def allDigits (digits : Bytes) : Bool := !digits.isEmpty && digits.all isDigit

/-- `int(digits)`. -/
def readLength (digits : Bytes) : Nat :=
  Nat.ofDigits 10 (digits.reverse.map fun byte => byte.toNat - 48)

structure Packet where
  previous : Char
  following : Char
  payload : Bytes
deriving DecidableEq, Repr

def chr (byte : UInt8) : Char := Char.ofNat byte.toNat

/-- The next packet and the buffer without it; `none` while it is incomplete. -/
def nextPacket (buffer : Bytes) : Except PacketError (Option (Packet × Bytes)) :=
  if buffer.length < headerLen then
    .ok none
  else
    let header := buffer.take headerLen
    if header.take 3 ≠ magic then
      .error (.badMagic (header.take 3))
    else
      let digits := (header.drop 3).take 5
      if ¬ allDigits digits then
        .error (.badLength digits)
      else
        let length := readLength digits
        if buffer.length < headerLen + length then
          .ok none
        else
          .ok (some ({ previous := chr (header.getD 8 0), following := chr (header.getD 9 0),
                       payload := (buffer.drop headerLen).take length },
            buffer.drop (headerLen + length)))

/-- The checks on the next id of a packet that does not close its document. -/
def checkFollowing (lastFollowing : Option Char) (following : Char) : Except PacketError Unit :=
  if following = terminal then
    .ok ()
  else if following ∉ ids then
    .error (.badId following)
  else
    match lastFollowing with
    | none => .ok ()
    | some last =>
      match nextPacketId last with
      | .error error => .error error
      | .ok next => if following = next then .ok () else .error (.brokenNext following last)

def chain (state : Chain) (packet : Packet) : Except PacketError (Chain × Option String) :=
  if packet.previous ≠ state.expectPrevious then
    .error (.brokenPrevious packet.previous state.expectPrevious)
  else
    match checkFollowing state.lastFollowing packet.following with
    | .error error => .error error
    | .ok () =>
      let parts := state.parts ++ [packet.payload]
      let size := state.size + packet.payload.length
      if maxDocumentBytes < size then
        .error .tooLong
      else if packet.following = terminal then
        .ok (Chain.new, some (decodePayload parts.flatten))
      else
        .ok ({ parts := parts, size := size, expectPrevious := packet.following,
               lastFollowing := some packet.following }, none)

theorem nextPacket_shorter {buffer rest : Bytes} {packet : Packet}
    (taken : nextPacket buffer = .ok (some (packet, rest))) : rest.length < buffer.length := by
  unfold nextPacket at taken
  split at taken
  · cases taken
  rename_i enough
  dsimp only at taken
  split at taken
  · cases taken
  split at taken
  · cases taken
  split at taken
  · cases taken
  cases taken
  simp only [headerLen] at *
  rw [List.length_drop]
  omega

/-- The loop of `feed`. -/
def PacketFramer.feedLoop (framer : PacketFramer) (documents : List String) :
    Except PacketError (List String × PacketFramer) :=
  match _taken : nextPacket framer.buffer with
  | .error error => .error error
  | .ok none => .ok (documents, framer)
  | .ok (some (packet, rest)) =>
    match chain framer.toChain packet with
    | .error error => .error error
    | .ok (next, none) => feedLoop { next with buffer := rest } documents
    | .ok (next, some document) => feedLoop { next with buffer := rest } (documents ++ [document])
termination_by framer.buffer.length
decreasing_by all_goals exact nextPacket_shorter _taken

/-- `feed`: the documents it completed, or the violation it raises; a violation
leaves the framer reset. -/
def PacketFramer.feed (framer : PacketFramer) (data : Bytes) :
    Except PacketError (List String) × PacketFramer :=
  match PacketFramer.feedLoop { framer with buffer := framer.buffer ++ data } [] with
  | .error error => (.error error, PacketFramer.new)
  | .ok (documents, next) => (.ok documents, next)

/-- What a caller that stops at the first violation has been given. -/
structure Delivery where
  documents : List String
  failure : Option PacketError
  framer : PacketFramer
deriving DecidableEq, Repr

/-- The read loop of the source: one `feed` for each piece the socket delivers. -/
def PacketFramer.feedAll (framer : PacketFramer) : List Bytes → Delivery
  | [] => { documents := [], failure := none, framer := framer }
  | data :: rest =>
    match framer.feed data with
    | (.error error, next) => { documents := [], failure := some error, framer := next }
    | (.ok documents, next) =>
      let later := feedAll next rest
      { later with documents := documents ++ later.documents }

end OpenLaps.Framing

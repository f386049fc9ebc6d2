import OpenLaps.Collectors.Nmea

/- The host end of the receiver interface (`gnss_receiver_interface_shim.py`): which `TH1`
lines become samples for chrony. -/
namespace OpenLaps.Strings.Runtime

variable (runtime : Runtime)

/-- The words of a text, the first of which has begun with `word`. -/
def wordsFrom (word : Text) : Text → List Text
  | [] => if word = [] then [] else [word]
  | char :: rest =>
    if runtime.isSpace char then
      if word = [] then wordsFrom [] rest else word :: wordsFrom [] rest
    else wordsFrom (word ++ [char]) rest

/-- `str.split()`. -/
def words (text : Text) : List Text := runtime.wordsFrom [] text

end OpenLaps.Strings.Runtime

namespace OpenLaps.Shim

open Nmea Strings

def maxFirmwareDelayUs : Int := 900000

def uint32Mask : Int := 2 ^ 32 - 1

structure TimingMessage where
  sequence : Int
  utcSecond : Int
  edgeUs : Int
  edgeToTransmitUs : Int
  valid : Bool
  deriving DecidableEq, Repr

structure ShimStats where
  accepted : Nat := 0
  malformed : Nat := 0
  invalid : Nat := 0
  staleSequence : Nat := 0
  sinkErrors : Nat := 0
  deviceErrors : Nat := 0
  deriving DecidableEq, Repr

/-- What `parse_message` does with the fields of a line. -/
def parseFields (runtime : Runtime) (fields : List Text) : Except PyError TimingMessage :=
  match fields with
  | [tag, sequence, utcSecond, edgeUs, delayUs, validity] =>
    if tag ≠ "TH1".toList then .error (.valueError "expected six-field TH1 message")
    else do
      let sequence ← runtime.int sequence
      let utcSecond ← runtime.int utcSecond
      let edgeUs ← runtime.int edgeUs
      let delayUs ← runtime.int delayUs
      let validity ← runtime.int validity
      if ¬ (0 ≤ sequence ∧ sequence ≤ uint32Mask) then
        .error (.valueError "sequence is outside uint32 range")
      else if utcSecond ≤ 0 ∨ edgeUs < 0 ∨ delayUs < 0 ∨ ¬ (validity = 0 ∨ validity = 1) then
        .error (.valueError "message field is outside its valid range")
      else .ok ⟨sequence, utcSecond, edgeUs, delayUs, validity = 1⟩
  | _ => .error (.valueError "expected six-field TH1 message")

/-- `parse_message`. -/
def parseMessage (runtime : Runtime) (line : Sentence) : Except PyError TimingMessage := do
  let line ← line.text
  parseFields runtime (runtime.words (runtime.strip line))

/-- `_is_newer_sequence`. -/
def isNewerSequence (sequence previous : Int) : Bool :=
  let difference := (sequence - previous) % 2 ^ 32
  0 < difference && difference < 2 ^ 31

/-- What `pack_sock_sample` packs, the offset not rounded. -/
structure SockSample where
  tvSec : Int
  tvUsec : Int
  offsetS : ℚ

def packSockSample (utcSecond estimatedEdgeRealtimeNs : Int) : SockSample where
  tvSec := estimatedEdgeRealtimeNs / 1000000000
  tvUsec := estimatedEdgeRealtimeNs % 1000000000 / 1000
  offsetS := (utcSecond * 1000000000 - estimatedEdgeRealtimeNs : Int) / 1000000000

structure GnssReceiverInterfaceShim where
  lastSequence : Option Int := none
  stats : ShimStats := {}
  deriving DecidableEq, Repr

namespace GnssReceiverInterfaceShim

variable (runtime : Runtime)

/-- `process_line`; the sink gives `false` where it raises an `OSError`. -/
def processLine (sink : SockSample → Bool) (shim : GnssReceiverInterfaceShim) (line : Sentence)
    (arrivalRealtimeNs : Int) : GnssReceiverInterfaceShim × Bool :=
  let stats := shim.stats
  match parseMessage runtime line with
  | .error _ => ({ shim with stats := { stats with malformed := stats.malformed + 1 } }, false)
  | .ok message =>
    if ! message.valid || maxFirmwareDelayUs < message.edgeToTransmitUs then
      ({ shim with stats := { stats with invalid := stats.invalid + 1 } }, false)
    else if shim.lastSequence.any fun last => ! isNewerSequence message.sequence last then
      ({ shim with stats := { stats with staleSequence := stats.staleSequence + 1 } }, false)
    else
      let estimatedEdgeNs := arrivalRealtimeNs - message.edgeToTransmitUs * 1000
      if sink (packSockSample message.utcSecond estimatedEdgeNs) then
        (⟨some message.sequence, { stats with accepted := stats.accepted + 1 }⟩, true)
      else ({ shim with stats := { stats with sinkErrors := stats.sinkErrors + 1 } }, false)

/-- What `run` does with a result of `port.readline(257)`. -/
def receive (sink : SockSample → Bool) (shim : GnssReceiverInterfaceShim) (line : Bytes)
    (arrivalNs : Int) : GnssReceiverInterfaceShim × Bool :=
  if line = [] then (shim, false)
  else if 256 < line.length ∧ ¬ (line.getLast? = some 10 ∨ line.getLast? = some 13) then
    let stats := shim.stats
    ({ shim with stats := { stats with malformed := stats.malformed + 1 } }, false)
  else shim.processLine runtime sink (.bytes line) arrivalNs

/-- What `run` does when the device fails; the shim goes on with the next connection. -/
def deviceError (shim : GnssReceiverInterfaceShim) : GnssReceiverInterfaceShim :=
  { shim with stats := { shim.stats with deviceErrors := shim.stats.deviceErrors + 1 } }

end GnssReceiverInterfaceShim

end OpenLaps.Shim

import OpenLaps.Firmware.Nmea
import OpenLaps.Lib.Machine

/- The receiver interface (`main.c`, `association.c`): the PPS interrupt, the interrupt that
drains the receiver's bytes, and the main loop. Times are `time_us_64()`, microseconds
since boot. The relay of the receiver's bytes to the host is left out. -/
namespace OpenLaps.Firmware

def lineCapacity : Nat := 128

def rxRingCapacity : Nat := 2048

def fixFreshUs : Nat := 1500000

def timingMaxSentenceDelayUs : Nat := 900000

/-- `timing_associate`: the delay of the sentence behind its edge. -/
def timingAssociate (edge : Option Nat) (sentenceUs : Nat) : Option Nat :=
  match edge with
  | none => none
  | some edgeUs =>
      if sentenceUs < edgeUs then none
      else if timingMaxSentenceDelayUs < sentenceUs - edgeUs then none
      else some (sentenceUs - edgeUs)

def isSentence (line : Bytes) (kind : String) : Bool :=
  line.head? = some (ascii '$') && hasKind line kind

/-- A message to the host. -/
structure Th1 where
  sequence : UInt32
  utcSecond : Int
  edgeUs : Nat
  delayUs : Nat
  deriving DecidableEq, Repr

/-- `TH1 <sequence> <utc second> <edge> `. -/
def th1Prefix (sequence : UInt32) (utcSecond : Int) (edgeUs : Nat) : String :=
  "TH1 " ++ toString sequence.toNat ++ " " ++ toString utcSecond ++ " " ++ toString edgeUs ++ " "

/-- Where the main loop is between two steps in which the interrupts can be seen. -/
inductive Pc where
  /-- At the top of the loop. -/
  | idle
  /-- A `ZDA` line has ended and been stamped; `take_edge` is next. -/
  | stamped (line : Bytes) (sentenceUs : Nat)
  /-- The prefix of a message is written; its transmit time is read next. -/
  | sending (sequence : UInt32) (utcSecond : Int) (edgeUs : Nat)
  deriving DecidableEq, Repr

/-- The state of the firmware, with the time of its last step. `captured` and `sent`
record the interrupts that ran and the lines written, and are never read. -/
structure Receiver where
  clock : Nat := 0
  edgePending : Bool := false
  edgeTimeUs : Nat := 0
  ring : Bytes := []
  line : Bytes := []
  fixed : Bool := false
  fixSeenUs : Nat := 0
  sequence : UInt32 := 0
  pc : Pc := .idle
  captured : List Nat := []
  sent : List Th1 := []
  deriving DecidableEq, Repr

namespace Receiver

/-- `pps_callback`. -/
def ppsCallback (state : Receiver) (now : Nat) : Receiver :=
  { state with edgeTimeUs := now, edgePending := true, captured := state.captured ++ [now] }

/-- `gnss_rx_isr` for one byte; a full ring drops it. -/
def gnssRx (state : Receiver) (byte : UInt8) : Receiver :=
  if state.ring.length + 1 < rxRingCapacity then { state with ring := state.ring ++ [byte] }
  else state

/-- What the loop does with a line that has ended; a C string ends at its first zero. -/
def endLine (state : Receiver) (now : Nat) : Receiver :=
  let line := state.line.takeWhile (· ≠ 0)
  let state := { state with line := [] }
  if isSentence line "GGA" then { state with fixed := nmeaGgaHasFix line, fixSeenUs := now }
  else if isSentence line "ZDA" then { state with pc := .stamped line now }
  else state

/-- One pass of the loop over the next byte of the ring, up to `take_edge`. -/
def pass (state : Receiver) (now : Nat) : Receiver :=
  match state.ring with
  | [] => state
  | byte :: rest =>
      let state := { state with ring := rest }
      if byte ≠ ascii '\n' ∧ byte ≠ ascii '\r' then
        if state.line.length + 1 < lineCapacity then { state with line := state.line ++ [byte] }
        else { state with line := [] }
      else if state.line = [] then state
      else state.endLine now

/-- `take_edge`, which empties the slot. -/
def takeEdge (state : Receiver) : Receiver × Option Nat :=
  ({ state with edgePending := false }, if state.edgePending then some state.edgeTimeUs else none)

def fixIsFresh (state : Receiver) (sentenceUs : Nat) : Bool :=
  state.fixed && state.fixSeenUs ≤ sentenceUs && sentenceUs - state.fixSeenUs ≤ fixFreshUs

/-- The rest of the pass over a `ZDA` line, up to the transmit time. A message that does
not fit its buffer is dropped after its sequence number was taken. -/
def associate (libc : Libc) (state : Receiver) (line : Bytes) (sentenceUs : Nat) : Receiver :=
  let (state, edge) := state.takeEdge
  let state := { state with pc := .idle }
  match edge, timingAssociate edge sentenceUs, nmeaZdaUtcSecond libc line with
  | some edgeUs, some _, some utcSecond =>
      if state.fixIsFresh sentenceUs then
        let sequence := state.sequence
        let state := { state with sequence := sequence + 1 }
        if 128 ≤ (th1Prefix sequence utcSecond edgeUs).length + 24 then state
        else { state with pc := .sending sequence utcSecond edgeUs }
      else state
  | _, _, _ => state

/-- The message with its delay, written out at once. -/
def transmit (state : Receiver) (sequence : UInt32) (utcSecond : Int) (edgeUs now : Nat) :
    Receiver :=
  { state with pc := .idle, sent := state.sent ++ [⟨sequence, utcSecond, edgeUs, now - edgeUs⟩] }

end Receiver

/-- What can happen next: an interrupt, or a step of the main loop. -/
inductive Event where
  | pps (now : Nat)
  | rx (byte : UInt8)
  | pass (now : Nat)
  | takeEdge (now : Nat)
  | transmit (now : Nat)
  deriving DecidableEq, Repr

/-- A reading of the microsecond counter, which has 64 bits and does not run backwards. -/
def Receiver.reads (state : Receiver) (now : Nat) : Bool := state.clock ≤ now && now < 2 ^ 64

/-- One step; each step of the main loop is taken where the loop is. -/
def step (libc : Libc) (state : Receiver) : Event → Option Receiver
  | .pps now => if state.reads now then some { state.ppsCallback now with clock := now } else none
  | .rx byte => some (state.gnssRx byte)
  | .pass now =>
      if state.reads now ∧ state.pc = .idle then some { state.pass now with clock := now } else none
  | .takeEdge now =>
      match state.pc with
      | .stamped line sentenceUs =>
          if state.reads now then some { state.associate libc line sentenceUs with clock := now }
          else none
      | _ => none
  | .transmit now =>
      match state.pc with
      | .sending sequence utcSecond edgeUs =>
          if state.reads now then
            some { state.transmit sequence utcSecond edgeUs now with clock := now }
          else none
      | _ => none

end OpenLaps.Firmware

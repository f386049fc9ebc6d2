import OpenLaps.Core.Wire
import OpenLaps.Lib.Machine
import OpenLaps.Lib.Shedding

/- The agent's JetStream publisher (`agent/publisher.py`): the buffer filled by
the pipeline thread, the in-flight window of the send loop, and the counters.
Steps are the critical sections of the source, so that the two threads may
interleave between any two of them. -/
namespace OpenLaps.Publisher

variable {π : Type}

/-- `_QueuedBatch`. The field `order` is history: the place of the batch in the
sequence of `submit` calls, never read by the publisher. -/
structure QueuedBatch (π : Type) where
  subject : String
  payload : π
  msgId : String
  submitMonoNs : Nat
  order : Nat
  deriving DecidableEq, Repr

/-- Constructor arguments; the constructor rejects an empty window. -/
structure Settings (π : Type) where
  vehicleId : String
  window : Nat
  bufferBytes : Nat
  payloadSize : π → Nat
  window_positive : 0 < window

def Settings.size (settings : Settings π) (item : QueuedBatch π) : Nat :=
  settings.payloadSize item.payload

/-- The publisher between two critical sections. `pending` is the deque local
to `_send_loop`; `submitted`, `acked` and `sheds` are history, the last with
the buffer each shed batch left behind. -/
structure State (π : Type) where
  buffer : List (QueuedBatch π)
  bufferBytes : Int
  oldestPendingMonoNs : Option Nat
  publishDrops : Nat
  published : Nat
  pending : List (QueuedBatch π)
  submitted : List (QueuedBatch π)
  acked : List (QueuedBatch π)
  sheds : List (QueuedBatch π × List (QueuedBatch π))

def init : State π := ⟨[], 0, none, 0, 0, [], [], [], []⟩

/-- The batches shed so far. -/
def State.shed (state : State π) : List (QueuedBatch π) := state.sheds.map Prod.fst

/-- The batches that are neither acked nor shed, oldest submission first. -/
def State.outstanding (state : State π) : List (QueuedBatch π) := state.pending ++ state.buffer

/-- The queue entry `submit` builds, at a reading of the monotonic clock. -/
def queued (settings : Settings π) (state : State π) (batch : TickBatch π) (now : Nat) :
    QueuedBatch π where
  subject := "tele." ++ settings.vehicleId ++ "." ++ batch.sourceClass
  payload := batch.payload
  msgId := batch.msgId
  submitMonoNs := now
  order := state.submitted.length

def submit (settings : Settings π) (state : State π) (batch : TickBatch π) (now : Nat) :
    State π :=
  let item := queued settings state batch now
  let after := Shedding.shed settings.size settings.bufferBytes (state.buffer ++ [item])
    (state.bufferBytes + settings.size item)
  { state with
    buffer := after.kept
    bufferBytes := after.bytes
    publishDrops := state.publishDrops + after.popped.length
    submitted := state.submitted ++ [item]
    sheds := state.sheds ++ after.popped }

/-- One iteration of `_fill_window`: the item taken under the lock joins the
window. Not enabled when the window is full or nothing is buffered. -/
def fillItem (settings : Settings π) (state : State π) : Option (State π) :=
  if state.pending.length < settings.window then
    match state.buffer with
    | [] => none
    | item :: rest =>
        some { state with
          buffer := rest
          bufferBytes := state.bufferBytes - settings.size item
          oldestPendingMonoNs := state.oldestPendingMonoNs.orElse fun _ => some item.submitMonoNs
          pending := state.pending ++ [item] }
  else
    none

/-- `_fill_window`: iterate until the window is full or the buffer is empty.
Each iteration lengthens the window, so `window` iterations are enough. -/
def fillLoop (settings : Settings π) : Nat → State π → State π
  | 0, state => state
  | fuel + 1, state =>
      match fillItem settings state with
      | none => state
      | some next => fillLoop settings fuel next

def fillWindow (settings : Settings π) (state : State π) : State π :=
  fillLoop settings settings.window state

/-- The head publish was acked. -/
def ackHead (state : State π) : Option (State π) :=
  match state.pending with
  | [] => none
  | item :: rest =>
      some { state with
        pending := rest
        published := state.published + 1
        oldestPendingMonoNs := rest.head?.map QueuedBatch.submitMonoNs
        acked := state.acked ++ [item] }

/-- `_requeue`: the window returns to the front of the buffer in order, and the
budget is enforced with `deque.pop`, at the end that holds the newest batch. -/
def requeue (settings : Settings π) (state : State π) : State π :=
  let after := Shedding.shed settings.size settings.bufferBytes
    (state.pending ++ state.buffer).reverse
    (state.bufferBytes + Shedding.total settings.size state.pending)
  { state with
    buffer := after.kept.reverse
    bufferBytes := after.bytes
    publishDrops := state.publishDrops + after.popped.length
    oldestPendingMonoNs := none
    pending := []
    sheds := state.sheds ++ after.popped.map (Prod.map id List.reverse) }

inductive Event (π : Type) where
  | submit (batch : TickBatch π) (now : Nat)
  | fillItem
  | ackHead
  | failHead
  | endSession

def step (settings : Settings π) (state : State π) : Event π → Option (State π)
  | .submit batch now => some (submit settings state batch now)
  | .fillItem => fillItem settings state
  | .ackHead => ackHead state
  | .failHead => if state.pending = [] then none else some (requeue settings state)
  | .endSession => some (requeue settings state)

/-- The poll of `drain`: `not self._buffer and self._oldest_pending_mono_ns is None`. -/
def State.idle (state : State π) : Bool :=
  state.buffer.isEmpty && state.oldestPendingMonoNs.isNone

/-- `drain` over the states its polls observe before the deadline. -/
def drain : List (State π) → Bool
  | [] => false
  | state :: rest => if state.idle then true else drain rest

/-- `publish_lag_ms` at the clock reading `now`. -/
def publishLagMs (state : State π) (now : Nat) : ℚ :=
  let oldest := match state.oldestPendingMonoNs with
    | some stamp => some stamp
    | none => state.buffer.head?.map QueuedBatch.submitMonoNs
  match oldest with
  | none => 0
  | some stamp => ((now : ℚ) - stamp) / 1000000

end OpenLaps.Publisher

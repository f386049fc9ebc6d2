import Mathlib.Algebra.Order.Floor.Semiring
import Mathlib.Data.List.Sort
import Mathlib.Data.Rat.Floor
import OpenLaps.Lib.Dict

universe u

/- The conflating limiter of the live decoder and the loop that feeds it. The
value of an update is of any type: no decision reads it. -/
namespace OpenLaps.LiveDecoder

/-- A part of a glob pattern. -/
inductive GlobPart where
  | star
  | any
  | exactly (char : Char)
  | oneOf (negated : Bool) (seq : List Char)

/-- What follows an opening bracket, up to the closing one. The first character is never
the closing one. -/
def bracketed : List Char → Option (List Char × List Char)
  | [] => none
  | first :: rest =>
    match rest.dropWhile (· ≠ ']') with
    | [] => none
    | _ :: after => some (first :: rest.takeWhile (· ≠ ']'), after)

def globParts : Nat → List Char → List GlobPart
  | 0, _ => []
  | _ + 1, [] => []
  | fuel + 1, '*' :: rest => .star :: globParts fuel rest
  | fuel + 1, '?' :: rest => .any :: globParts fuel rest
  | fuel + 1, '[' :: '!' :: rest =>
    match bracketed rest with
    | some (seq, after) => .oneOf true seq :: globParts fuel after
    | none => .exactly '[' :: globParts fuel ('!' :: rest)
  | fuel + 1, '[' :: rest =>
    match bracketed rest with
    | some (seq, after) => .oneOf false seq :: globParts fuel after
    | none => .exactly '[' :: globParts fuel rest
  | fuel + 1, char :: rest => .exactly char :: globParts fuel rest

/-- Membership in the characters and ranges between brackets. -/
def inSeq (char : Char) : List Char → Bool
  | low :: '-' :: high :: rest => (low ≤ char && char ≤ high) || inSeq char rest
  | one :: rest => char == one || inSeq char rest
  | [] => false

def globMatches : List GlobPart → List Char → Bool
  | [], name => name.isEmpty
  | .star :: rest, name => name.tails.any (globMatches rest)
  | .any :: rest, _ :: name => globMatches rest name
  | .exactly char :: rest, first :: name => first == char && globMatches rest name
  | .oneOf negated seq :: rest, first :: name =>
    (inSeq first seq != negated) && globMatches rest name
  | _ :: _, [] => false

def fnmatchcase (name pattern : String) : Bool :=
  globMatches (globParts pattern.length pattern.toList) name.toList

structure LiveDefaults where
  maxHz : ℚ := 10
  totalMaxHz : ℚ := 500
  maxHzNonneg : 0 ≤ maxHz := by decide
  totalMaxHzNonneg : 0 ≤ totalMaxHz := by decide

/-- A glob rule; its pattern is the source's `match`. -/
structure ChannelRule where
  pattern : String
  maxHz : Option ℚ
  nonEmpty : pattern ≠ ""
  maxHzNonneg : ∀ rate, maxHz = some rate → 0 ≤ rate

structure LiveConfig where
  defaults : LiveDefaults := {}
  channels : List ChannelRule
  nonEmpty : channels ≠ []

def LiveConfig.ruleFor (config : LiveConfig) (channel : String) : Option ChannelRule :=
  config.channels.find? fun rule => fnmatchcase channel rule.pattern

def LiveConfig.maxHzFor (config : LiveConfig) (channel : String) : Option ℚ :=
  match config.ruleFor channel with
  | none => none
  | some rule => some (rule.maxHz.getD config.defaults.maxHz)

def epsilon : ℚ := 1 / 1000000000

/-- What the limiter reads of a decoded sample. -/
structure LiveSample (V : Type u) where
  channel : String
  captureUnixMs : ℚ
  value : V

structure LiveUpdate (V : Type u) where
  channel : String
  captureUnixMs : ℚ
  value : V
  conflate : Bool := true

structure ChannelState (V : Type u) where
  intervalS : ℚ
  pending : Option (LiveUpdate V) := none
  nextDue : Option ℚ := none
  lastPublished : Option ℚ := none

structure Limiter (V : Type u) where
  config : LiveConfig
  suppressed : Dict String Nat := .empty
  published : Dict String Nat := .empty
  aggregateSheds : Nat := 0
  states : Dict String (ChannelState V) := .empty
  aggregateAt : Option ℚ := none
  aggregateTokens : ℚ := 0

variable {V : Type u}

/-- A counter of a `defaultdict(int)`. -/
def count (counters : Dict String Nat) (channel : String) : Nat :=
  (counters.get? channel).getD 0

def increment (counters : Dict String Nat) (channel : String) : Dict String Nat :=
  counters.set channel (count counters channel + 1)

def Limiter.suppress (limiter : Limiter V) (channel : String) : Limiter V :=
  { limiter with suppressed := increment limiter.suppressed channel }

def Limiter.putState (limiter : Limiter V) (channel : String) (state : ChannelState V) :
    Limiter V :=
  { limiter with states := limiter.states.set channel state }

/-- The update of a sample of a channel with this rate. -/
def LiveSample.update (sample : LiveSample V) (maxHz : ℚ) : LiveUpdate V :=
  ⟨sample.channel, sample.captureUnixMs, sample.value, maxHz ≠ 0⟩

/-- A channel that has not published is due at once. -/
def isDue (nextDue : Option ℚ) (now : ℚ) : Bool :=
  match nextDue with
  | none => true
  | some due => due ≤ now + epsilon

/-- A pending update that is replaced counts as suppressed. -/
def Limiter.displace (limiter : Limiter V) (channel : String) (state : ChannelState V) :
    Limiter V :=
  if state.pending.isSome then limiter.suppress channel else limiter

/-- The state of a channel, with the source's `setdefault`. -/
def Limiter.known (limiter : Limiter V) (channel : String) : ChannelState V :=
  (limiter.states.get? channel).getD { intervalS := 0 }

/-- A new rate starts a new state. -/
def ChannelState.tune (state : ChannelState V) (interval : ℚ) : ChannelState V :=
  if state.intervalS = interval then state else { intervalS := interval }

def Limiter.offer (limiter : Limiter V) (sample : LiveSample V) (now : ℚ) :
    List (LiveUpdate V) × Limiter V :=
  match limiter.config.maxHzFor sample.channel with
  | none => ([], limiter)
  | some maxHz =>
    let update := sample.update maxHz
    let known := limiter.known sample.channel
    if maxHz = 0 then ([update], limiter.putState sample.channel known)
    else
      let state := known.tune (1 / maxHz)
      let counted := limiter.displace update.channel state
      if isDue state.nextDue now then
        ([update], counted.putState update.channel { state with pending := none })
      else ([], counted.putState update.channel { state with pending := some update })

/-- When the channel of an update last published. -/
def Limiter.lastPublished (limiter : Limiter V) (update : LiveUpdate V) : WithBot ℚ :=
  (limiter.states.get? update.channel).bind ChannelState.lastPublished

/-- Whether an update stays before a later one: its channel published later, or as late and
its name is no smaller. -/
def Limiter.precedes (limiter : Limiter V) (update other : LiveUpdate V) : Bool :=
  limiter.lastPublished other < limiter.lastPublished update ||
    (limiter.lastPublished other = limiter.lastPublished update &&
      other.channel ≤ update.channel)

/-- A stable sort, the latest published first. -/
def Limiter.ranked (limiter : Limiter V) (updates : List (LiveUpdate V)) : List (LiveUpdate V) :=
  updates.insertionSort fun update other => limiter.precedes update other

/-- The pending update of a channel that is due. -/
def ChannelState.ready (state : ChannelState V) (now : ℚ) : Option (LiveUpdate V) :=
  if state.nextDue.isSome && isDue state.nextDue now then state.pending else none

def ChannelState.drained (state : ChannelState V) (now : ℚ) : ChannelState V :=
  if (state.ready now).isSome then { state with pending := none } else state

def Limiter.drain (limiter : Limiter V) (now : ℚ) : List (LiveUpdate V) × Limiter V :=
  let ready := limiter.states.entries.filterMap fun entry => entry.2.ready now
  (limiter.ranked ready,
    { limiter with states := limiter.states.mapValues fun state => state.drained now })

/-- The candidates kept so far and where those of each limited channel stand. -/
structure Conflation (V : Type u) where
  conflated : List (LiveUpdate V) := []
  indexes : Dict String Nat := .empty
  limiter : Limiter V

def Conflation.add (soFar : Conflation V) (update : LiveUpdate V) : Conflation V :=
  if update.conflate then
    match soFar.indexes.get? update.channel with
    | none =>
      { soFar with
        conflated := soFar.conflated ++ [update]
        indexes := soFar.indexes.set update.channel soFar.conflated.length }
    | some index =>
      { soFar with
        conflated := soFar.conflated.set index update
        limiter := soFar.limiter.suppress update.channel }
  else { soFar with conflated := soFar.conflated ++ [update] }

def Limiter.conflateCandidates (limiter : Limiter V) (candidates : List (LiveUpdate V)) :
    List (LiveUpdate V) × Limiter V :=
  let done := candidates.foldl Conflation.add { limiter := limiter }
  (done.conflated, done.limiter)

def Limiter.refillAggregate (limiter : Limiter V) (now limit : ℚ) : Limiter V :=
  if limit = 0 then limiter
  else
    let capacity := max 1 limit
    let tokens := match limiter.aggregateAt with
      | none => capacity
      | some since =>
        if now < since then capacity
        else min capacity (limiter.aggregateTokens + (now - since) * limit)
    { limiter with aggregateTokens := tokens, aggregateAt := some now }

def Limiter.publish (now : ℚ) (limiter : Limiter V) (update : LiveUpdate V) : Limiter V :=
  let counted := { limiter with published := increment limiter.published update.channel }
  match limiter.states.get? update.channel with
  | none => counted
  | some state =>
    counted.putState update.channel
      { state with lastPublished := some now, nextDue := some (now + state.intervalS) }

def Limiter.shed (limiter : Limiter V) (update : LiveUpdate V) : Limiter V :=
  { limiter.suppress update.channel with aggregateSheds := limiter.aggregateSheds + 1 }

/-- The floor is the source's `max(0, int(..))`. -/
def Limiter.available (limiter : Limiter V) (candidates : Nat) (limit : ℚ) : Nat :=
  if limit = 0 then candidates else min candidates ⌊limiter.aggregateTokens + epsilon⌋₊

def Limiter.charge (limiter : Limiter V) (accepted : Nat) (limit : ℚ) : Limiter V :=
  if limit = 0 then limiter
  else { limiter with aggregateTokens := limiter.aggregateTokens - accepted }

def Limiter.admitCandidates (limiter : Limiter V) (candidates : List (LiveUpdate V)) (now : ℚ) :
    List (LiveUpdate V) × Limiter V :=
  let ranked := limiter.ranked candidates
  let limit := limiter.config.defaults.totalMaxHz
  let refilled := limiter.refillAggregate now limit
  let available := refilled.available ranked.length limit
  let accepted := ranked.take available
  let rejected := ranked.drop available
  let published := accepted.foldl (Limiter.publish now) refilled
  let settled := rejected.foldl Limiter.shed published
  (accepted, settled.charge accepted.length limit)

/-- One turn of the consume loop: nothing arrived, or a message did. A registry, a
malformed batch and a batch of an unknown generation hold no samples. -/
inductive Poll (V : Type u) where
  | idle
  | message (samples : List (LiveSample V))

def Limiter.offerAll (limiter : Limiter V) (now : ℚ) :
    List (LiveSample V) → List (LiveUpdate V) × Limiter V
  | [] => ([], limiter)
  | sample :: rest =>
    let first := limiter.offer sample now
    let more := first.2.offerAll now rest
    (first.1 ++ more.1, more.2)

/-- The candidates of a turn, before the budget. -/
def Limiter.gather (limiter : Limiter V) (poll : Poll V) (now : ℚ) :
    List (LiveUpdate V) × Limiter V :=
  match poll with
  | .idle => limiter.drain now
  | .message samples =>
    let offered := limiter.offerAll now samples
    let drained := offered.2.drain now
    drained.2.conflateCandidates (offered.1 ++ drained.1)

def Limiter.handle (limiter : Limiter V) (poll : Poll V) (now : ℚ) :
    List (LiveUpdate V) × Limiter V :=
  let gathered := limiter.gather poll now
  Limiter.admitCandidates gathered.2 gathered.1 now

inductive Event (V : Type u) where
  | offered (update : LiveUpdate V)
  | published (now : ℚ) (update : LiveUpdate V)

/-- The updates a turn offers to the limiter. -/
def Poll.offers (config : LiveConfig) : Poll V → List (LiveUpdate V)
  | .idle => []
  | .message samples => samples.filterMap fun sample =>
    (config.maxHzFor sample.channel).map sample.update

/-- The limiter with the log of what it was offered and what it published. -/
structure Run (V : Type u) where
  limiter : Limiter V
  log : List (Event V) := []

def Run.turn (run : Run V) (event : ℚ × Poll V) : Run V :=
  let handled := run.limiter.handle event.2 event.1
  ⟨handled.2, run.log ++ ((event.2.offers run.limiter.config).map Event.offered ++
    handled.1.map (Event.published event.1))⟩

def Run.consume (config : LiveConfig) (polls : List (ℚ × Poll V)) : Run V :=
  polls.foldl Run.turn { limiter := { config := config } }

end OpenLaps.LiveDecoder

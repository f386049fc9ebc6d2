import Mathlib.Data.List.Chain
import Mathlib.Data.List.Induction
import OpenLaps.Core.Rbe

/- Streams of samples through the filter. Every answer about a channel is the verdict on
its last sent sample, from which the rate, the heartbeat and the deadband follow. -/
namespace OpenLaps.Rbe

/-- The units of `_DURATION_RE`. -/
inductive DurationUnit where
  | ns
  | us
  | ms
  | s
  | m
  | h
deriving DecidableEq, Repr

/-- `_DURATION_FACTORS`. -/
def DurationUnit.factor : DurationUnit → ℚ
  | .ns => 1
  | .us => 1000
  | .ms => 1000000
  | .s => 1000000000
  | .m => 60000000000
  | .h => 3600000000000

/-- The two groups that `_DURATION_RE` finds in a duration. -/
structure Duration where
  value : PyFloat
  unit : DurationUnit

/-- `parse_duration_ns`. -/
def parseDurationNs (text : Duration) : Except PyError Int :=
  match text.value with
  | .finite value =>
    let duration := value * text.unit.factor
    if duration ≤ 0 then .error (.valueError "duration must be greater than zero")
    else .ok (Rounding.halfEven duration)
  | _ => .error (.valueError "duration is too large")

/-- An interval of a policy, where one is set. -/
def parseInterval : Option Duration → Except PyError (Option Int)
  | none => .ok none
  | some text => (parseDurationNs text).map some

/-- `RbeConfig`, from the texts of its intervals. -/
def rbeConfig (deadband : Option PyFloat) (minInterval maxInterval : Option Duration) :
    Except PyError RbeConfig :=
  if nonneg : ∀ band ∈ deadband, band.nonneg = true then
    match parseInterval minInterval, parseInterval maxInterval with
    | .error error, _ => .error error
    | .ok _, .error error => .error error
    | .ok shortest, .ok longest =>
      if ordered : ∀ low ∈ shortest, ∀ high ∈ longest, low ≤ high then
        .ok
          { deadband := deadband
            minIntervalNs := shortest
            maxIntervalNs := longest
            deadbandNonneg := nonneg
            intervalsOrdered := fun low high isLow isHigh => ordered low isLow high isHigh }
      else .error (.valueError "min_interval must not exceed max_interval")
  else .error (.valueError "Input should be greater than or equal to 0")

/-- What `accept` answers about a sample after the last sent one of its channel. -/
def verdict (policy : RbeConfig) (previous : Option SentState) (sample : Sample) :
    Except PyError Bool :=
  match previous with
  | none =>
    match policy.deadband, deadbandValue sample.value with
    | some _, .error error => .error error
    | _, _ => .ok true
  | some previous =>
    let elapsedNs := sample.tMonoNs - previous.tMonoNs
    if policy.maxIntervalNs.any (fun longest => longest ≤ elapsedNs) then .ok true
    else if policy.minIntervalNs.any (fun shortest => elapsedNs < shortest) then .ok false
    else (withinDeadband policy.deadband sample.value previous.value).map fun within => !within

/-- The filter after an answer. -/
def settle (filter : RbeFilter) (channelId : Nat) (sample : Sample) (sent : Bool) : RbeFilter :=
  if sent then record filter channelId sample else suppress filter

theorem accept_verdict (filter : RbeFilter) (channelId : Nat) (sample : Sample) (policy : RbeConfig) :
    accept filter channelId sample (some policy) =
      (verdict policy (filter.sent.get? channelId) sample).map fun sent =>
        (settle filter channelId sample sent, sent) := by
  unfold accept verdict
  cases filter.sent.get? channelId with
  | none =>
    dsimp only
    cases policy.deadband with
    | none => rfl
    | some band => cases deadbandValue sample.value <;> rfl
  | some previous =>
    dsimp only
    split
    · rfl
    · split
      · rfl
      · cases withinDeadband policy.deadband sample.value previous.value with
        | error error => rfl
        | ok within => cases within <;> rfl

theorem settle_own (filter : RbeFilter) (channelId : Nat) (sample : Sample) (sent : Bool) :
    (settle filter channelId sample sent).sent.get? channelId =
      if sent then some ⟨sample.value, sample.tMonoNs⟩ else filter.sent.get? channelId := by
  cases sent with
  | false => rfl
  | true =>
    show (filter.sent.set channelId _).get? channelId = _
    rw [Dict.get?_set, if_pos rfl]
    rfl

theorem settle_other (filter : RbeFilter) {channelId other : Nat} (sample : Sample) (sent : Bool)
    (apart : channelId ≠ other) :
    (settle filter channelId sample sent).sent.get? other = filter.sent.get? other := by
  cases sent with
  | false => rfl
  | true =>
    show (filter.sent.set channelId _).get? other = _
    rw [Dict.get?_set, if_neg apart]

/-- An offered sample and what `accept` came to. -/
structure Answered where
  channelId : Nat
  sample : Sample
  answer : Except PyError Bool

/-- The filter and what it has answered so far. -/
structure Stream where
  filter : RbeFilter
  answered : List Answered

def Stream.fresh : Stream := ⟨.fresh, []⟩

/-- One call of `accept`; a call that raises changes nothing. -/
def Stream.offer (policies : Nat → Option RbeConfig) (stream : Stream) (offered : Nat × Sample) :
    Stream :=
  match accept stream.filter offered.1 offered.2 (policies offered.1) with
  | .error error => { stream with
      answered := stream.answered ++ [⟨offered.1, offered.2, .error error⟩] }
  | .ok (filter, sent) => ⟨filter, stream.answered ++ [⟨offered.1, offered.2, .ok sent⟩]⟩

def Stream.run (policies : Nat → Option RbeConfig) (offers : List (Nat × Sample)) : Stream :=
  offers.foldl (Stream.offer policies) .fresh

/-- The samples that were sent. -/
def sent (answered : List Answered) : List Sample :=
  (answered.filter fun one => one.answer = .ok true).map Answered.sample

def suppressed (answered : List Answered) : Nat :=
  answered.countP fun one => one.answer = .ok false

/-- The answers about one channel. -/
def own (channelId : Nat) (answered : List Answered) : List Answered :=
  answered.filter fun one => one.channelId = channelId

/-- What the filter keeps of a sent sample. -/
def kept (sample : Sample) : SentState := ⟨sample.value, sample.tMonoNs⟩

/-- What the filter keeps after answers about one channel. -/
def lastKept (answered : List Answered) : Option SentState := (sent answered).getLast?.map kept

/-- Every answer is the verdict on what was sent before it. -/
def Coherent (policy : RbeConfig) (answered : List Answered) : Prop :=
  ∀ earlier one later, answered = earlier ++ one :: later →
    one.answer = verdict policy (lastKept earlier) one.sample

section Answers

variable {policy : RbeConfig} {policies : Nat → Option RbeConfig} {answered : List Answered}
  {one : Answered}

@[simp] theorem own_append (channelId : Nat) (first second : List Answered) :
    own channelId (first ++ second) = own channelId first ++ own channelId second :=
  List.filter_append _ _

theorem sent_append (first second : List Answered) :
    sent (first ++ second) = sent first ++ sent second := by
  unfold sent
  rw [List.filter_append, List.map_append]

theorem sent_one (one : Answered) :
    sent [one] = if one.answer = .ok true then [one.sample] else [] := by
  unfold sent
  by_cases here : one.answer = .ok true
  · simp [here]
  · simp [here]

theorem lastKept_append (answered : List Answered) (one : Answered) :
    lastKept (answered ++ [one]) =
      if one.answer = .ok true then some (kept one.sample) else lastKept answered := by
  unfold lastKept
  rw [sent_append, sent_one]
  split
  · rw [List.getLast?_concat]
    rfl
  · rw [List.append_nil]

theorem coherent_nil : Coherent policy [] := by
  intro earlier one later split
  cases earlier <;> cases split

/-- One more answer. -/
theorem coherent_append (coherent : Coherent policy answered)
    (answer : one.answer = verdict policy (lastKept answered) one.sample) :
    Coherent policy (answered ++ [one]) := by
  intro earlier other later split
  rcases List.eq_nil_or_concat later with none | ⟨front, last, ends⟩
  · rw [none] at split
    obtain ⟨same, here⟩ := List.append_inj' split rfl
    cases here
    rw [← same]
    exact answer
  · rw [ends, List.concat_eq_append, ← List.cons_append, ← List.append_assoc] at split
    obtain ⟨same, -⟩ := List.append_inj' split rfl
    exact coherent earlier other front same

theorem coherent_begin {first second : List Answered} (coherent : Coherent policy (first ++ second)) :
    Coherent policy first := by
  intro earlier one later split
  apply coherent earlier one (later ++ second)
  rw [split, List.append_assoc]
  rfl

/-- The samples of a channel settle the answers about it. -/
theorem coherent_unique {first second : List Answered} (coherent : Coherent policy first)
    (coherent' : Coherent policy second)
    (same : first.map (fun one => (one.channelId, one.sample)) =
      second.map fun one => (one.channelId, one.sample)) : first = second := by
  induction first using List.reverseRecOn generalizing second with
  | nil =>
    cases second with
    | nil => rfl
    | cons one rest => cases same
  | append_singleton front last ih =>
    rcases List.eq_nil_or_concat second with none | ⟨front', last', ends⟩
    · rw [none, List.map_append] at same
      exact absurd same (by simp)
    · rw [List.concat_eq_append] at ends
      rw [ends, List.map_append, List.map_append] at same
      obtain ⟨before, here⟩ := List.append_inj' same rfl
      rw [ends] at coherent' ⊢
      have fronts := ih (coherent_begin coherent) (coherent_begin coherent') before
      have answer := coherent front last [] rfl
      have answer' := coherent' front' last' [] rfl
      obtain ⟨channel, sample, value⟩ := last
      obtain ⟨channel', sample', value'⟩ := last'
      simp only [List.map_cons, List.map_nil, List.cons.injEq, Prod.mk.injEq, and_true] at here
      dsimp only at answer answer'
      rw [fronts, answer, answer', fronts, here.1, here.2]

end Answers

/-- A number, as `accept` asks for one. -/
def Numeric (sample : Sample) : Prop := ∃ value, sample.value.number? = some value

/-- The heartbeat is due. -/
def Due (policy : RbeConfig) (previous : SentState) (sample : Sample) : Prop :=
  ∃ longest, policy.maxIntervalNs = some longest ∧ longest ≤ sample.tMonoNs - previous.tMonoNs

/-- Less than the minimal interval after the last sent sample. -/
def TooSoon (policy : RbeConfig) (previous : SentState) (sample : Sample) : Prop :=
  ∃ shortest, policy.minIntervalNs = some shortest ∧ sample.tMonoNs - previous.tMonoNs < shortest

/-- Within the deadband of the last sent value. -/
def Within (policy : RbeConfig) (previous : SentState) (sample : Sample) : Prop :=
  ∃ band, policy.deadband = some band ∧ ∃ value, sample.value.number? = some value ∧
    ∃ last, previous.value.number? = some last ∧ (value.sub last).abs.le band = true

/-- The deadband decides on the sample. -/
def Compared (policy : RbeConfig) (previous : SentState) (sample : Sample) : Prop :=
  ¬Due policy previous sample ∧ ¬TooSoon policy previous sample

/-- The two values can be subtracted, and a change beyond the deadband is not rounded into it. -/
def Sharp (policy : RbeConfig) (previous : SentState) (sample : Sample) : Prop :=
  ∀ band, policy.deadband = some band → ∃ change,
    difference sample.value previous.value = .ok change ∧
      (change.abs.le band = true → Within policy previous sample)

section Verdicts

variable {policy : RbeConfig} {previous : SentState} {sample : Sample}

theorem maxInterval_any (policy : RbeConfig) (previous : SentState) (sample : Sample) :
    (policy.maxIntervalNs.any fun longest => longest ≤ sample.tMonoNs - previous.tMonoNs) = true ↔
      Due policy previous sample := by
  unfold Due
  rw [Option.any_eq_true]
  simp only [decide_eq_true_eq]

theorem minInterval_any (policy : RbeConfig) (previous : SentState) (sample : Sample) :
    (policy.minIntervalNs.any fun shortest => sample.tMonoNs - previous.tMonoNs < shortest) = true ↔
      TooSoon policy previous sample := by
  unfold TooSoon
  rw [Option.any_eq_true]
  simp only [decide_eq_true_eq]

/-- Numbers differ by their difference alone. -/
theorem withinDeadband_numeric (band : PyFloat) (numeric : Numeric sample)
    (numeric' : ∃ last, previous.value.number? = some last) :
    withinDeadband (some band) sample.value previous.value =
      (difference sample.value previous.value).map fun change => change.abs.le band := by
  obtain ⟨value, number⟩ := numeric
  obtain ⟨last, number'⟩ := numeric'
  unfold withinDeadband deadbandValue
  rw [number, number']

/-- The first number of a channel is sent. -/
theorem verdict_first (numeric : Numeric sample) : verdict policy none sample = .ok true := by
  obtain ⟨value, number⟩ := numeric
  unfold verdict deadbandValue
  rw [number]
  cases policy.deadband <;> rfl

/-- What `accept` comes to once the intervals let a sample through to the deadband. -/
theorem verdict_compared (compared : Compared policy previous sample) :
    verdict policy (some previous) sample =
      (withinDeadband policy.deadband sample.value previous.value).map fun within => !within := by
  unfold verdict
  dsimp only
  rw [if_neg fun any => compared.1 ((maxInterval_any policy previous sample).mp any),
    if_neg fun any => compared.2 ((minInterval_any policy previous sample).mp any)]

/-- A number is sent as a heartbeat or once the minimal interval is over, and kept back within
the minimal interval or the deadband, as far as the float difference tells. -/
theorem verdict_numeric (numeric : Numeric sample)
    (numeric' : ∃ last, previous.value.number? = some last)
    (sharp : Compared policy previous sample → Sharp policy previous sample) :
    (verdict policy (some previous) sample = .ok true ∧
        (Due policy previous sample ∨ ¬TooSoon policy previous sample)) ∨
      (verdict policy (some previous) sample = .ok false ∧ ¬Due policy previous sample ∧
        (TooSoon policy previous sample ∨ Within policy previous sample)) := by
  by_cases due : Due policy previous sample
  · left
    unfold verdict
    dsimp only
    rw [if_pos ((maxInterval_any policy previous sample).mpr due)]
    exact ⟨rfl, .inl due⟩
  · by_cases soon : TooSoon policy previous sample
    · right
      unfold verdict
      dsimp only
      rw [if_neg fun any => due ((maxInterval_any policy previous sample).mp any),
        if_pos ((minInterval_any policy previous sample).mpr soon)]
      exact ⟨rfl, due, .inl soon⟩
    · rw [verdict_compared ⟨due, soon⟩]
      cases banded : policy.deadband with
      | none => exact .inl ⟨rfl, .inr soon⟩
      | some band =>
        obtain ⟨change, subtracted, exactly⟩ := sharp ⟨due, soon⟩ band banded
        rw [withinDeadband_numeric band numeric numeric', subtracted]
        cases near : change.abs.le band with
        | true =>
          exact .inr ⟨congrArg (fun within => Except.ok (!within)) near, due, .inr (exactly near)⟩
        | false => exact .inl ⟨congrArg (fun within => Except.ok (!within)) near, .inr soon⟩

/-- An answer that keeps the promise comes from a sharp comparison. -/
theorem sharp_of_verdict (numeric : Numeric sample)
    (numeric' : ∃ last, previous.value.number? = some last)
    (compared : Compared policy previous sample) {sent : Bool}
    (answer : verdict policy (some previous) sample = .ok sent)
    (held : sent = false → TooSoon policy previous sample ∨ Within policy previous sample) :
    Sharp policy previous sample := by
  intro band banded
  rw [verdict_compared compared, banded, withinDeadband_numeric band numeric numeric'] at answer
  cases subtracted : difference sample.value previous.value with
  | error error =>
    rw [subtracted] at answer
    cases answer
  | ok change =>
    refine ⟨change, rfl, ?_⟩
    intro near
    rw [subtracted] at answer
    have kept : sent = false := by
      cases answer
      exact congrArg Bool.not near
    exact (held kept).resolve_left compared.2

end Verdicts

/-- What the filter promises for the samples of one channel. -/
structure Faithful (policy : RbeConfig) (answered : List Answered) : Prop where
  answers : ∀ one ∈ answered, ∃ sent, one.answer = .ok sent
  apart : (sent answered).IsChain fun first second => ∀ shortest,
    policy.minIntervalNs = some shortest → shortest ≤ second.tMonoNs - first.tMonoNs
  fresh : ∀ earlier one later, answered = earlier ++ one :: later → ∀ longest,
    policy.maxIntervalNs = some longest → ∃ last,
      (sent (earlier ++ [one])).getLast? = some last ∧ one.sample.tMonoNs - last.tMonoNs < longest
  suppresses : ∀ earlier one later, answered = earlier ++ one :: later → one.answer = .ok false →
    ∃ last, (sent earlier).getLast? = some last ∧
      (TooSoon policy (kept last) one.sample ∨ Within policy (kept last) one.sample)
  sends : ∀ earlier one later, answered = earlier ++ one :: later →
    (∀ last, (sent earlier).getLast? = some last →
      ¬TooSoon policy (kept last) one.sample ∧ ¬Within policy (kept last) one.sample) →
        one.answer = .ok true

/-- Every comparison with the deadband is sharp. -/
def Resolved (policy : RbeConfig) (answered : List Answered) : Prop :=
  ∀ earlier one later, answered = earlier ++ one :: later → ∀ previous,
    lastKept earlier = some previous → Compared policy previous one.sample →
      Sharp policy previous one.sample

section Streams

variable {policy : RbeConfig} {answered : List Answered}

theorem lastKept_numeric {earlier : List Answered} {previous : SentState}
    (numeric : ∀ one ∈ earlier, Numeric one.sample) (last : lastKept earlier = some previous) :
    ∃ number, previous.value.number? = some number := by
  obtain ⟨newest, found, rfl⟩ := Option.map_eq_some_iff.mp last
  obtain ⟨one, inside, same⟩ := List.mem_map.mp (List.mem_of_getLast? found)
  rw [← same]
  exact numeric one (List.mem_filter.mp inside).1

/-- The verdict on a number after some numbers were sent. -/
theorem verdict_after {earlier : List Answered} {sample : Sample}
    (numeric : ∀ one ∈ earlier, Numeric one.sample) (number : Numeric sample)
    (sharp : ∀ previous, lastKept earlier = some previous → Compared policy previous sample →
      Sharp policy previous sample) :
    (verdict policy (lastKept earlier) sample = .ok true ∧
        ∀ last, (sent earlier).getLast? = some last →
          Due policy (kept last) sample ∨ ¬TooSoon policy (kept last) sample) ∨
      (verdict policy (lastKept earlier) sample = .ok false ∧
        ∃ last, (sent earlier).getLast? = some last ∧ ¬Due policy (kept last) sample ∧
          (TooSoon policy (kept last) sample ∨ Within policy (kept last) sample)) := by
  cases before : (sent earlier).getLast? with
  | none =>
    have nothing : lastKept earlier = none := by rw [lastKept, before]; rfl
    rw [nothing]
    exact .inl ⟨verdict_first number, fun last here => by cases here⟩
  | some last =>
    have newest : lastKept earlier = some (kept last) := by rw [lastKept, before]; rfl
    rw [newest]
    rcases verdict_numeric number (lastKept_numeric numeric newest) (sharp _ newest) with
      ⟨yes, why⟩ | ⟨no, why⟩
    · left
      refine ⟨yes, ?_⟩
      intro other here
      cases here
      exact why
    · exact .inr ⟨no, last, rfl, why⟩

/-- What any one of the answers is. -/
theorem answer_after (coherent : Coherent policy answered)
    (numeric : ∀ one ∈ answered, Numeric one.sample) (resolved : Resolved policy answered)
    {earlier later : List Answered} {one : Answered} (split : answered = earlier ++ one :: later) :
    (one.answer = .ok true ∧ ∀ last, (sent earlier).getLast? = some last →
        Due policy (kept last) one.sample ∨ ¬TooSoon policy (kept last) one.sample) ∨
      (one.answer = .ok false ∧ ∃ last, (sent earlier).getLast? = some last ∧
        ¬Due policy (kept last) one.sample ∧
          (TooSoon policy (kept last) one.sample ∨ Within policy (kept last) one.sample)) := by
  rw [coherent earlier one later split]
  apply verdict_after
  · intro other member
    exact numeric other (split ▸ List.mem_append_left _ member)
  · exact numeric one (by simp [split])
  · exact resolved earlier one later split

theorem resolved_begin {first second : List Answered} (resolved : Resolved policy (first ++ second)) :
    Resolved policy first := by
  intro earlier one later split
  apply resolved earlier one (later ++ second)
  rw [split, List.append_assoc]
  rfl

/-- Sends of coherent answers about numbers are at least the minimal interval apart. -/
theorem sent_apart (coherent : Coherent policy answered)
    (numeric : ∀ one ∈ answered, Numeric one.sample) (resolved : Resolved policy answered) :
    (sent answered).IsChain fun first second => ∀ shortest,
      policy.minIntervalNs = some shortest → shortest ≤ second.tMonoNs - first.tMonoNs := by
  induction answered using List.reverseRecOn with
  | nil => exact List.isChain_nil
  | append_singleton earlier one ih =>
    have before := ih (coherent_begin coherent)
      (fun other member => numeric other (List.mem_append_left _ member)) (resolved_begin resolved)
    have answer := answer_after coherent numeric resolved rfl
    rw [sent_append, sent_one]
    split
    · rename_i accepted
      rw [List.isChain_append]
      refine ⟨before, List.isChain_singleton _, ?_⟩
      intro last newest next here shortest set
      cases here
      rcases answer with ⟨_, why⟩ | ⟨no, _⟩
      · rcases why last newest with ⟨longest, upper, due⟩ | late
        · have ordered := policy.intervalsOrdered shortest longest set upper
          change longest ≤ one.sample.tMonoNs - last.tMonoNs at due
          omega
        · by_contra early
          apply late
          refine ⟨shortest, set, ?_⟩
          change one.sample.tMonoNs - last.tMonoNs < shortest
          omega
      · rw [no] at accepted
        cases accepted
    · rw [List.append_nil]
      exact before

theorem faithful_of_coherent (coherent : Coherent policy answered)
    (numeric : ∀ one ∈ answered, Numeric one.sample) (resolved : Resolved policy answered)
    (positive : ∀ longest, policy.maxIntervalNs = some longest → 0 < longest) :
    Faithful policy answered := by
  refine ⟨?_, sent_apart coherent numeric resolved, ?_, ?_, ?_⟩
  · intro one member
    obtain ⟨earlier, later, split⟩ := List.append_of_mem member
    rcases answer_after coherent numeric resolved split with ⟨yes, _⟩ | ⟨no, _⟩
    · exact ⟨true, yes⟩
    · exact ⟨false, no⟩
  · intro earlier one later split longest set
    rw [sent_append, sent_one]
    rcases answer_after coherent numeric resolved split with ⟨yes, _⟩ | ⟨no, last, newest, fresh, _⟩
    · rw [if_pos yes]
      refine ⟨one.sample, List.getLast?_concat, ?_⟩
      have bound := positive longest set
      omega
    · rw [no, if_neg (by simp), List.append_nil]
      refine ⟨last, newest, ?_⟩
      by_contra late
      apply fresh
      refine ⟨longest, set, ?_⟩
      change longest ≤ one.sample.tMonoNs - last.tMonoNs
      omega
  · intro earlier one later split held
    rcases answer_after coherent numeric resolved split with ⟨yes, _⟩ | ⟨_, last, newest, _, why⟩
    · rw [yes] at held
      cases held
    · exact ⟨last, newest, why⟩
  · intro earlier one later split far
    rcases answer_after coherent numeric resolved split with ⟨yes, _⟩ | ⟨_, last, newest, _, why⟩
    · exact yes
    · obtain ⟨late, beyond⟩ := far last newest
      rcases why with soon | near
      · exact absurd soon late
      · exact absurd near beyond

/-- Only sharp comparisons keep the promise. -/
theorem resolved_of_faithful (coherent : Coherent policy answered)
    (numeric : ∀ one ∈ answered, Numeric one.sample) (faithful : Faithful policy answered) :
    Resolved policy answered := by
  intro earlier one later split previous newest compared
  have inside : one ∈ answered := by simp [split]
  have before : ∀ other ∈ earlier, Numeric other.sample := fun other member =>
    numeric other (split ▸ List.mem_append_left _ member)
  obtain ⟨answer, given⟩ := faithful.answers one inside
  have verdict := coherent earlier one later split
  rw [given, newest] at verdict
  apply sharp_of_verdict (numeric one inside) (lastKept_numeric before newest) compared verdict.symm
  rintro rfl
  obtain ⟨last, found, why⟩ := faithful.suppresses earlier one later split given
  rw [lastKept, found] at newest
  cases newest
  exact why

/-- The first sample after no time at all. -/
theorem positive_of_faithful (faithful : Faithful policy answered) (some' : answered ≠ []) (longest : Int)
    (set : policy.maxIntervalNs = some longest) : 0 < longest := by
  obtain ⟨one, later, split⟩ := List.exists_cons_of_ne_nil some'
  obtain ⟨last, newest, fresh⟩ := faithful.fresh [] one later split longest set
  rw [List.nil_append, sent_one] at newest
  split at newest
  · have here : one.sample = last := Option.some.inj newest
    rw [here] at fresh
    omega
  · cases newest

end Streams

/-- What the answers of a run come to: the samples offered, each with the verdict on its
channel's last sent one. -/
structure Stream.Sound (policies : Nat → Option RbeConfig) (offers : List (Nat × Sample))
    (stream : Stream) : Prop where
  offered : stream.answered.map (fun one => (one.channelId, one.sample)) = offers
  coherent : ∀ channelId policy, policies channelId = some policy →
    Coherent policy (own channelId stream.answered)
  keeps : ∀ channelId policy, policies channelId = some policy →
    stream.filter.sent.get? channelId = lastKept (own channelId stream.answered)
  counts : stream.filter.suppressedCount = suppressed stream.answered

section Runs

variable {policies : Nat → Option RbeConfig} {offers : List (Nat × Sample)} {stream : Stream}

theorem own_append_one (channelId : Nat) (answered : List Answered) (one : Answered) :
    own channelId (answered ++ [one]) =
      if one.channelId = channelId then own channelId answered ++ [one] else own channelId answered := by
  rw [own_append]
  by_cases here : one.channelId = channelId
  · simp [own, here]
  · simp [own, here]

theorem suppressed_append (answered : List Answered) (one : Answered) :
    suppressed (answered ++ [one]) = suppressed answered + if one.answer = .ok false then 1 else 0 := by
  unfold suppressed
  rw [List.countP_append, List.countP_singleton]
  simp

/-- An answer to one more sample. `filter` is what it leaves. -/
theorem Stream.Sound.append (sound : stream.Sound policies offers) (filter : RbeFilter)
    (one : Answered)
    (own' : ∀ policy, policies one.channelId = some policy →
      one.answer = verdict policy (stream.filter.sent.get? one.channelId) one.sample ∧
        filter.sent.get? one.channelId =
          if one.answer = .ok true then some (kept one.sample)
          else stream.filter.sent.get? one.channelId)
    (others : ∀ channelId, one.channelId ≠ channelId →
      filter.sent.get? channelId = stream.filter.sent.get? channelId)
    (count : filter.suppressedCount =
      stream.filter.suppressedCount + if one.answer = .ok false then 1 else 0) :
    Stream.Sound policies (offers ++ [(one.channelId, one.sample)]) ⟨filter, stream.answered ++ [one]⟩ := by
  refine ⟨?_, ?_, ?_, ?_⟩
  · rw [List.map_append, sound.offered]
    rfl
  · intro channelId policy found
    rw [own_append_one]
    split
    · rename_i here
      rw [← here] at found ⊢
      apply coherent_append (sound.coherent one.channelId policy found)
      rw [← sound.keeps one.channelId policy found]
      exact (own' policy found).1
    · exact sound.coherent channelId policy found
  · intro channelId policy found
    show filter.sent.get? channelId = lastKept (own channelId (stream.answered ++ [one]))
    rw [own_append_one]
    split
    · rename_i here
      rw [← here] at found ⊢
      rw [lastKept_append, ← sound.keeps one.channelId policy found]
      exact (own' policy found).2
    · rename_i apart
      rw [others channelId apart]
      exact sound.keeps channelId policy found
  · show filter.suppressedCount = suppressed (stream.answered ++ [one])
    rw [suppressed_append, count, sound.counts]

theorem offer_sound (sound : stream.Sound policies offers) (offered : Nat × Sample) :
    (stream.offer policies offered).Sound policies (offers ++ [offered]) := by
  obtain ⟨channelId, sample⟩ := offered
  unfold Stream.offer
  dsimp only
  cases found : policies channelId with
  | none =>
    apply sound.append stream.filter ⟨channelId, sample, .ok true⟩
    · intro policy set
      rw [found] at set
      cases set
    · exact fun _ _ => rfl
    · rfl
  | some policy =>
    rw [accept_verdict]
    cases answer : verdict policy (stream.filter.sent.get? channelId) sample with
    | error error =>
      apply sound.append stream.filter ⟨channelId, sample, .error error⟩
      · intro policy' set
        rw [found] at set
        cases set
        exact ⟨answer.symm, rfl⟩
      · exact fun _ _ => rfl
      · rfl
    | ok sent =>
      apply sound.append (settle stream.filter channelId sample sent) ⟨channelId, sample, .ok sent⟩
      · intro policy' set
        rw [found] at set
        cases set
        refine ⟨answer.symm, ?_⟩
        rw [settle_own]
        cases sent <;> rfl
      · exact fun other apart => settle_other _ sample sent apart
      · cases sent <;> rfl

theorem run_sound (policies : Nat → Option RbeConfig) (offers : List (Nat × Sample)) :
    (Stream.run policies offers).Sound policies offers := by
  induction offers using List.reverseRecOn with
  | nil => exact ⟨rfl, fun _ _ _ => coherent_nil, fun _ _ _ => rfl, rfl⟩
  | append_singleton earlier offered ih =>
    unfold Stream.run
    rw [List.foldl_append]
    exact offer_sound ih offered

theorem mem_answered {one : Answered} (sound : stream.Sound policies offers)
    (member : one ∈ stream.answered) : (one.channelId, one.sample) ∈ offers := by
  rw [← sound.offered]
  exact List.mem_map.mpr ⟨one, member, rfl⟩

theorem own_ne_nil (sound : stream.Sound policies offers) {channelId : Nat} :
    own channelId stream.answered ≠ [] ↔ channelId ∈ offers.map Prod.fst := by
  rw [← sound.offered, List.map_map]
  constructor
  · intro some'
    obtain ⟨one, member⟩ := List.exists_mem_of_ne_nil _ some'
    obtain ⟨inside, here⟩ := List.mem_filter.mp member
    exact List.mem_map.mpr ⟨one, inside, of_decide_eq_true here⟩
  · intro listed
    obtain ⟨one, inside, here⟩ := List.mem_map.mp listed
    have member : one ∈ own channelId stream.answered :=
      List.mem_filter.mpr ⟨inside, decide_eq_true here⟩
    exact List.ne_nil_of_mem member

/-- The answers about a channel are those to its samples alone. -/
theorem own_run (policies : Nat → Option RbeConfig) (offers : List (Nat × Sample)) {channelId : Nat}
    {policy : RbeConfig} (found : policies channelId = some policy) :
    own channelId (Stream.run policies offers).answered =
      (Stream.run policies (offers.filter fun offered => offered.1 = channelId)).answered := by
  have mixed := run_sound policies offers
  have alone := run_sound policies (offers.filter fun offered => offered.1 = channelId)
  have all : own channelId (Stream.run policies
      (offers.filter fun offered => offered.1 = channelId)).answered =
        (Stream.run policies (offers.filter fun offered => offered.1 = channelId)).answered := by
    apply List.filter_eq_self.mpr
    intro one member
    exact (List.mem_filter.mp (mem_answered alone member)).2
  have coherent := alone.coherent channelId policy found
  rw [all] at coherent
  apply coherent_unique (mixed.coherent channelId policy found) coherent
  rw [alone.offered]
  calc (own channelId (Stream.run policies offers).answered).map
        (fun one => (one.channelId, one.sample))
      = ((Stream.run policies offers).answered.map fun one => (one.channelId, one.sample)).filter
          (fun offered => offered.1 = channelId) := by
        rw [List.filter_map]
        rfl
    _ = offers.filter fun offered => offered.1 = channelId := by rw [mixed.offered]

end Runs

/-- What the filter promises for a stream of samples of many channels. -/
def Fidelity (policies : Nat → Option RbeConfig) (offers : List (Nat × Sample)) : Prop :=
  (Stream.run policies offers).filter.suppressedCount =
      suppressed (Stream.run policies offers).answered ∧
    ∀ channelId policy, policies channelId = some policy →
      own channelId (Stream.run policies offers).answered =
          (Stream.run policies (offers.filter fun offered => offered.1 = channelId)).answered ∧
        Faithful policy (own channelId (Stream.run policies offers).answered)

/-- No heartbeat interval is rounded to nothing, and each sample that reaches the deadband has a
sharp difference to the value that is kept of its channel. -/
structure Comparable (policies : Nat → Option RbeConfig) (offers : List (Nat × Sample)) : Prop where
  positive : ∀ channelId policy, policies channelId = some policy → channelId ∈ offers.map Prod.fst →
    ∀ longest, policy.maxIntervalNs = some longest → 0 < longest
  sharp : ∀ before channelId sample after, offers = before ++ (channelId, sample) :: after →
    ∀ policy, policies channelId = some policy → ∀ previous,
      (Stream.run policies before).filter.sent.get? channelId = some previous →
        Compared policy previous sample → Sharp policy previous sample

section Prefixes

variable (policies : Nat → Option RbeConfig)

theorem offer_answered (stream : Stream) (offered : Nat × Sample) :
    ∃ one, (stream.offer policies offered).answered = stream.answered ++ [one] ∧
      (one.channelId, one.sample) = offered := by
  unfold Stream.offer
  cases accept stream.filter offered.1 offered.2 (policies offered.1) with
  | error error => exact ⟨_, rfl, rfl⟩
  | ok answer => exact ⟨_, rfl, rfl⟩

theorem foldl_answered (stream : Stream) (rest : List (Nat × Sample)) :
    ∃ later, (rest.foldl (Stream.offer policies) stream).answered = stream.answered ++ later := by
  induction rest generalizing stream with
  | nil => exact ⟨[], (List.append_nil _).symm⟩
  | cons offered rest ih =>
    obtain ⟨later, grown⟩ := ih (stream.offer policies offered)
    obtain ⟨one, here, -⟩ := offer_answered policies stream offered
    exact ⟨one :: later, by rw [List.foldl_cons, grown, here, List.append_assoc]; rfl⟩

/-- The answer to a sample comes after those to the samples before it. -/
theorem run_answered (before : List (Nat × Sample)) (offered : Nat × Sample)
    (after : List (Nat × Sample)) :
    ∃ one later, (Stream.run policies (before ++ offered :: after)).answered =
        (Stream.run policies before).answered ++ one :: later ∧
      (one.channelId, one.sample) = offered := by
  obtain ⟨one, here, made⟩ := offer_answered policies (Stream.run policies before) offered
  obtain ⟨later, grown⟩ :=
    foldl_answered policies ((Stream.run policies before).offer policies offered) after
  refine ⟨one, later, ?_, made⟩
  rw [Stream.run, List.foldl_append, List.foldl_cons]
  change (after.foldl (Stream.offer policies)
    ((Stream.run policies before).offer policies offered)).answered = _
  rw [grown, here, List.append_assoc]
  rfl

/-- What is sharp by the answers about each channel is sharp by what the filter keeps. -/
theorem resolved_iff (offers : List (Nat × Sample)) :
    (∀ channelId policy, policies channelId = some policy →
        Resolved policy (own channelId (Stream.run policies offers).answered)) ↔
      ∀ before channelId sample after, offers = before ++ (channelId, sample) :: after →
        ∀ policy, policies channelId = some policy → ∀ previous,
          (Stream.run policies before).filter.sent.get? channelId = some previous →
            Compared policy previous sample → Sharp policy previous sample := by
  constructor
  · intro resolved before channelId sample after split policy found previous stored
    obtain ⟨one, later, answered, made⟩ :=
      run_answered policies before (channelId, sample) after
    have here : one.channelId = channelId := congrArg Prod.fst made
    have same : one.sample = sample := congrArg Prod.snd made
    rw [(run_sound policies before).keeps channelId policy found] at stored
    rw [← same]
    apply resolved channelId policy found _ one (own channelId later) _ previous stored
    rw [split, answered, own_append]
    congr 1
    exact List.filter_cons_of_pos (by simpa using here)
  · intro sharp channelId policy found earlier one later split previous newest
    obtain ⟨first, rest, answered, mine, tail⟩ := List.filter_eq_append_iff.mp split
    obtain ⟨skipped, last, parts, others, here, -⟩ := List.filter_eq_cons_iff.mp tail
    have sound := run_sound policies offers
    have offered : offers = (first ++ skipped).map (fun one => (one.channelId, one.sample)) ++
        (one.channelId, one.sample) :: last.map fun one => (one.channelId, one.sample) := by
      apply sound.offered.symm.trans
      rw [answered, parts]
      simp
    have channel : one.channelId = channelId := of_decide_eq_true here
    obtain ⟨one', later', answered', -⟩ := run_answered policies
      ((first ++ skipped).map fun one => (one.channelId, one.sample)) (one.channelId, one.sample)
      (last.map fun one => (one.channelId, one.sample))
    rw [← offered, answered, parts, ← List.append_assoc] at answered'
    have before := run_sound policies ((first ++ skipped).map fun one => (one.channelId, one.sample))
    have sizes := congrArg List.length before.offered
    rw [List.length_map, List.length_map] at sizes
    obtain ⟨run, -⟩ := List.append_inj answered' sizes.symm
    apply sharp _ one.channelId one.sample _ offered policy (channel ▸ found) previous
    rw [channel, before.keeps channelId policy found, ← run]
    have nothing : own channelId skipped = [] := List.filter_eq_nil_iff.mpr others
    have kept : own channelId first = earlier := mine
    rw [own_append, nothing, List.append_nil, kept]
    exact newest

end Prefixes

/-- Numbers are filtered as promised exactly where no heartbeat interval is rounded to
nothing, and where the deadband sees the change that there is. -/
theorem fidelity_iff (policies : Nat → Option RbeConfig) (offers : List (Nat × Sample))
    (numeric : ∀ offered ∈ offers, (policies offered.1).isSome = true → Numeric offered.2) :
    Fidelity policies offers ↔ Comparable policies offers := by
  have sound := run_sound policies offers
  have numbers : ∀ channelId policy, policies channelId = some policy →
      ∀ one ∈ own channelId (Stream.run policies offers).answered, Numeric one.sample := by
    intro channelId policy found one member
    obtain ⟨inside, here⟩ := List.mem_filter.mp member
    apply numeric _ (mem_answered sound inside)
    rw [of_decide_eq_true here, found]
    rfl
  constructor
  · intro fidelity
    refine ⟨?_, (resolved_iff policies offers).mp ?_⟩
    · intro channelId policy found listed longest set
      have faithful := (fidelity.2 channelId policy found).2
      exact positive_of_faithful faithful ((own_ne_nil sound).mpr listed) longest set
    · intro channelId policy found
      exact resolved_of_faithful (sound.coherent channelId policy found)
        (numbers channelId policy found) (fidelity.2 channelId policy found).2
  · intro comparable
    refine ⟨sound.counts, ?_⟩
    intro channelId policy found
    refine ⟨own_run policies offers found, ?_⟩
    by_cases listed : channelId ∈ offers.map Prod.fst
    · exact faithful_of_coherent (sound.coherent channelId policy found)
        (numbers channelId policy found)
        ((resolved_iff policies offers).mpr comparable.sharp channelId policy found)
        (comparable.positive channelId policy found listed)
    · have empty : own channelId (Stream.run policies offers).answered = [] := by
        by_contra some'
        exact listed ((own_ne_nil sound).mp some')
      rw [empty]
      refine ⟨?_, .nil, ?_, ?_, ?_⟩
      · intro one member
        cases member
      · intro earlier one later split
        exact absurd split (by simp)
      · intro earlier one later split
        exact absurd split (by simp)
      · intro earlier one later split
        exact absurd split (by simp)

/-- A channel sent when it moves by more than one, and at least each ten milliseconds. -/
def moving : RbeConfig where
  deadband := some (.finite 1)
  minIntervalNs := none
  maxIntervalNs := some 10000000
  deadbandNonneg := by
    intro band set
    cases set
    rfl
  intervalsOrdered := by
    intro low high set
    cases set

def reading (value : ℚ) (tMonoNs : Int) : Sample :=
  ⟨"can0:ecu.ENGINE.RPM", tMonoNs, tMonoNs / 1000000, .float (.finite value)⟩

theorem reading_numeric (value : ℚ) (tMonoNs : Int) : Numeric (reading value tMonoNs) := ⟨_, rfl⟩

/-- Readings of one value are told to be so. -/
theorem sharp_still {policy : RbeConfig} {value : ℚ} {previous : SentState} (tMonoNs : Int)
    (nonneg : ∀ band ∈ policy.deadband, (PyFloat.finite 0).le band = true)
    (same : previous.value = .float (.finite value)) : Sharp policy previous (reading value tMonoNs) := by
  have still : difference (reading value tMonoNs).value previous.value = .ok (.finite 0) := by
    rw [same]
    have zero : ((PyFloat.finite value).sub (.finite value)).rounded = .finite 0 := by
      rw [PyFloat.sub, sub_self]
      decide +kernel
    exact congrArg Except.ok zero
  intro band banded
  refine ⟨.finite 0, still, ?_⟩
  intro _
  refine ⟨band, banded, .finite value, rfl, .finite value, by rw [same]; rfl, ?_⟩
  have zero : ((PyFloat.finite value).sub (.finite value)).abs = .finite 0 := by
    rw [PyFloat.sub, PyFloat.abs, sub_self, abs_zero]
  rw [zero]
  exact nonneg band banded

theorem fidelity_iff_moving :
    Fidelity (fun _ => some moving) [(7, reading 10 0), (7, reading 10 1000), (7, reading 10 10000000)] := by
  have nonneg : ∀ band ∈ moving.deadband, (PyFloat.finite 0).le band = true := by
    intro band set
    cases set
    decide +kernel
  apply (fidelity_iff (fun _ => some moving) _ ?_).mpr
  · constructor
    · intro channelId policy found _ longest set
      cases found
      cases set
      decide
    · intro before channelId sample after split policy found previous stored _
      cases found
      match before, split with
      | [], split =>
        cases split
        cases stored
      | [_], split =>
        cases split
        cases stored
        exact sharp_still 1000 nonneg rfl
      | [_, _], split =>
        cases split
        have held : (Stream.run (fun _ => some moving)
            [(7, reading 10 0), (7, reading 10 1000)]).filter.sent.get? 7 =
              some ⟨.float (.finite 10), 0⟩ := by decide +kernel
        rw [held] at stored
        cases stored
        exact sharp_still 10000000 nonneg rfl
      | _ :: _ :: _ :: more, split => cases more <;> cases split
  · intro offered member _
    simp only [List.mem_cons, List.not_mem_nil, or_false] at member
    rcases member with first | second | third
    · rw [first]
      exact reading_numeric 10 0
    · rw [second]
      exact reading_numeric 10 1000
    · rw [third]
      exact reading_numeric 10 10000000

/-- Intervals under half a nanosecond are accepted, and kept as nothing. -/
theorem rounded_heartbeat : ∃ policy,
    rbeConfig none (some ⟨.finite (3 / 10), .ns⟩) (some ⟨.finite (3 / 10), .ns⟩) = .ok policy ∧
      ¬Fidelity (fun _ => some policy) [(7, reading 10 0), (7, reading 10 0)] := by
  have zero : parseInterval (some ⟨.finite (3 / 10), .ns⟩) = .ok (some 0) := by decide +kernel
  have bare : ∀ band ∈ (none : Option PyFloat), band.nonneg = true := by
    intro band set
    cases set
  have ordered : ∀ low ∈ some (0 : Int), ∀ high ∈ some (0 : Int), low ≤ high := by decide
  unfold rbeConfig
  rw [dif_pos bare, zero]
  dsimp only
  rw [dif_pos ordered]
  refine ⟨_, rfl, ?_⟩
  intro fidelity
  have faithful := (fidelity.2 7 _ rfl).2
  have bound := positive_of_faithful faithful ((own_ne_nil (run_sound _ _)).mpr (by simp)) 0 rfl
  exact absurd bound (by decide)

end OpenLaps.Rbe

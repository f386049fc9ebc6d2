import OpenLaps.Core.RbeStreams

/- Samples of mixed kinds under a deadband. Only numbers have a distance, so a word that
reaches the deadband raises, before the filter has changed. -/
namespace OpenLaps.Rbe

/-- An exception of a pure helper, inside a method. -/
def ofExcept {α : Type} : Except PyError α → EStateM PyError RbeFilter α
  | .ok value => pure value
  | .error error => throw error

/-- `RbeFilter._record`, and the answer after it. -/
def recordThen (channelId : Nat) (sample : Sample) : EStateM PyError RbeFilter Bool := do
  modify fun filter => record filter channelId sample
  return true

def suppressThen : EStateM PyError RbeFilter Bool := do
  modify suppress
  return false

/-- `RbeFilter.accept` statement by statement, where an exception leaves what was written
before it. -/
def acceptCall (channelId : Nat) (sample : Sample) (policy : Option RbeConfig) :
    EStateM PyError RbeFilter Bool :=
  match policy with
  | none => return true
  | some policy => do
    match (← get).sent.get? channelId with
    | none =>
      match policy.deadband with
      | none => recordThen channelId sample
      | some _ => do
        let _ ← ofExcept (deadbandValue sample.value)
        recordThen channelId sample
    | some previous => do
      let elapsedNs := sample.tMonoNs - previous.tMonoNs
      if policy.maxIntervalNs.any (fun longest => longest ≤ elapsedNs) then
        recordThen channelId sample
      else if policy.minIntervalNs.any (fun shortest => elapsedNs < shortest) then
        suppressThen
      else
        match policy.deadband with
        | none => recordThen channelId sample
        | some band => do
          let _ ← ofExcept (deadbandValue sample.value)
          let _ ← ofExcept (deadbandValue previous.value)
          let change ← ofExcept (difference sample.value previous.value)
          if change.abs.le band then suppressThen else recordThen channelId sample

/-- What a call leaves, whether it answers or raises. -/
def outcome (filter : RbeFilter) :
    Except PyError (RbeFilter × Bool) → EStateM.Result PyError RbeFilter Bool
  | .ok (filter', sent) => .ok sent filter'
  | .error error => .error error filter

theorem acceptCall_run (filter : RbeFilter) (channelId : Nat) (sample : Sample)
    (policy : Option RbeConfig) :
    (acceptCall channelId sample policy).run filter =
      outcome filter (accept filter channelId sample policy) := by
  cases policy with
  | none => rfl
  | some policy =>
    unfold acceptCall accept
    show (match filter.sent.get? channelId with
      | none => _
      | some previous => _ : EStateM PyError RbeFilter Bool) filter = _
    cases filter.sent.get? channelId with
    | none =>
      dsimp only
      cases policy.deadband with
      | none => rfl
      | some band => cases deadbandValue sample.value <;> rfl
    | some previous =>
      dsimp only
      split
      · rfl
      · split
        · rfl
        · unfold withinDeadband
          cases policy.deadband with
          | none => rfl
          | some band =>
            cases deadbandValue sample.value with
            | error error => rfl
            | ok current =>
              cases deadbandValue previous.value with
              | error error => rfl
              | ok last =>
                cases subtracted : difference sample.value previous.value with
                | error error => rfl
                | ok change =>
                  show (if change.abs.le band then suppressThen
                    else recordThen channelId sample :
                      EStateM PyError RbeFilter Bool) filter = _
                  cases near : change.abs.le band with
                  | true =>
                    rw [if_pos rfl]
                    simp only [Except.map, near]
                    rfl
                  | false =>
                    rw [if_neg Bool.false_ne_true]
                    simp only [Except.map, near]
                    rfl

/-- What is left of the filter. -/
def left : EStateM.Result PyError RbeFilter Bool → RbeFilter
  | .ok _ filter => filter
  | .error _ filter => filter

def RaisesTypeError : EStateM.Result PyError RbeFilter Bool → Prop
  | .error (.typeError _) _ => True
  | _ => False

/-- The filter after the samples of one channel, some of which may have raised. -/
def afterCalls (policy : RbeConfig) (channelId : Nat) (samples : List Sample) : RbeFilter :=
  samples.foldl (fun filter sample => left ((acceptCall channelId sample (some policy)).run filter))
    .fresh

/-- The sample is due, whatever its value. -/
def Heartbeat (policy : RbeConfig) (filter : RbeFilter) (channelId : Nat) (sample : Sample) : Prop :=
  ∃ previous, filter.sent.get? channelId = some previous ∧ ∃ longest,
    policy.maxIntervalNs = some longest ∧ longest ≤ sample.tMonoNs - previous.tMonoNs

/-- The sample is too soon, whatever its value. -/
def RateLimited (policy : RbeConfig) (filter : RbeFilter) (channelId : Nat) (sample : Sample) : Prop :=
  ∃ previous, filter.sent.get? channelId = some previous ∧ ∃ shortest,
    policy.minIntervalNs = some shortest ∧ sample.tMonoNs - previous.tMonoNs < shortest

/-- No heartbeat sends a word. -/
def NoWordSent (policy : RbeConfig) (channelId : Nat) (samples : List Sample) : Prop :=
  ∀ before one after, samples = before ++ one :: after → ¬Numeric one →
    ¬Heartbeat policy (afterCalls policy channelId before) channelId one

/-- The last sent value of the channel is a number. -/
def Clean (filter : RbeFilter) (channelId : Nat) : Prop :=
  ∀ previous, filter.sent.get? channelId = some previous →
    ∃ number, previous.value.number? = some number

/-- Beside an integer too large for a float, the sample and the last sent value are both
integers. -/
def Subtractable (filter : RbeFilter) (channelId : Nat) (sample : Sample) : Prop :=
  ∀ previous, filter.sent.get? channelId = some previous → ∀ huge, PyFloat.limit ≤ |huge| →
    (sample.value = .int huge → ∃ last, previous.value = .int last) ∧
      (previous.value = .int huge → ∃ value, sample.value = .int value)

theorem difference_int_float (exactly : Int) (last : PyFloat) :
    difference (.int exactly) (.float last) =
      (floatOfInt exactly).map fun current => (current.sub last).rounded := by
  simp only [difference, asFloat]
  generalize floatOfInt exactly = number
  cases number <;> rfl

theorem difference_float_int (current : PyFloat) (exactly : Int) :
    difference (.float current) (.int exactly) =
      (floatOfInt exactly).map fun last => (current.sub last).rounded := by
  simp only [difference, asFloat]
  generalize floatOfInt exactly = number
  cases number <;> rfl

/-- What subtracting two numbers comes to. -/
theorem difference_numbers {value previous : SampleValue} {number number' : PyFloat}
    (numeric : value.number? = some number) (numeric' : previous.number? = some number') :
    (∃ change, difference value previous = .ok change) ∨
      ∃ huge : Int, PyFloat.limit ≤ |huge| ∧
        (value = .int huge ∧ (∀ last, previous ≠ .int last) ∨
          previous = .int huge ∧ ∀ exactly, value ≠ .int exactly) ∧
        difference value previous = .error (.overflowError "int too large to convert to float") := by
  cases value with
  | bool flag => cases numeric
  | str text => cases numeric
  | int exactly =>
    cases previous with
    | bool flag => cases numeric'
    | str text => cases numeric'
    | int last => exact .inl ⟨_, rfl⟩
    | float last =>
      rw [difference_int_float]
      by_cases fits : |exactly| < PyFloat.limit
      · left
        rw [floatOfInt_small fits]
        exact ⟨_, rfl⟩
      · right
        refine ⟨exactly, not_lt.mp fits, .inl ⟨rfl, by simp⟩, ?_⟩
        rw [floatOfInt_large fits]
        rfl
  | float current =>
    cases previous with
    | bool flag => cases numeric'
    | str text => cases numeric'
    | float last => exact .inl ⟨_, rfl⟩
    | int last =>
      rw [difference_float_int]
      by_cases fits : |last| < PyFloat.limit
      · left
        rw [floatOfInt_small fits]
        exact ⟨_, rfl⟩
      · right
        refine ⟨last, not_lt.mp fits, .inr ⟨rfl, by simp⟩, ?_⟩
        rw [floatOfInt_large fits]
        rfl

section Calls

variable {policy : RbeConfig} {filter : RbeFilter} {channelId : Nat} {sample : Sample}

theorem heartbeat_any {previous : SentState} (stored : filter.sent.get? channelId = some previous) :
    (policy.maxIntervalNs.any fun longest => longest ≤ sample.tMonoNs - previous.tMonoNs) = true ↔
      Heartbeat policy filter channelId sample := by
  unfold Heartbeat
  rw [Option.any_eq_true, stored]
  simp only [decide_eq_true_eq, Option.some.injEq, exists_eq_left']

theorem rateLimited_any {previous : SentState} (stored : filter.sent.get? channelId = some previous) :
    (policy.minIntervalNs.any fun shortest => sample.tMonoNs - previous.tMonoNs < shortest) = true ↔
      RateLimited policy filter channelId sample := by
  unfold RateLimited
  rw [Option.any_eq_true, stored]
  simp only [decide_eq_true_eq, Option.some.injEq, exists_eq_left']

theorem deadbandValue_word (word : ¬Numeric sample) :
    deadbandValue sample.value = .error (.typeError "deadband requires numeric sample values") := by
  unfold deadbandValue
  cases found : sample.value.number? with
  | none => rfl
  | some number => exact absurd ⟨number, found⟩ word

/-- A word is sent as a heartbeat, suppressed by the rate, or raises. -/
theorem verdict_word (filter : RbeFilter) (channelId : Nat)
    (banded : policy.deadband.isSome = true) (word : ¬Numeric sample) :
    (Heartbeat policy filter channelId sample ∧
        verdict policy (filter.sent.get? channelId) sample = .ok true) ∨
      (¬Heartbeat policy filter channelId sample ∧ RateLimited policy filter channelId sample ∧
        verdict policy (filter.sent.get? channelId) sample = .ok false) ∨
      (¬Heartbeat policy filter channelId sample ∧ ¬RateLimited policy filter channelId sample ∧
        verdict policy (filter.sent.get? channelId) sample =
          .error (.typeError "deadband requires numeric sample values")) := by
  obtain ⟨band, set⟩ := Option.isSome_iff_exists.mp banded
  unfold verdict
  cases stored : filter.sent.get? channelId with
  | none =>
    right
    right
    refine ⟨?_, ?_, ?_⟩
    · rintro ⟨previous, found, _⟩
      rw [stored] at found
      cases found
    · rintro ⟨previous, found, _⟩
      rw [stored] at found
      cases found
    · rw [set, deadbandValue_word word]
  | some previous =>
    dsimp only
    by_cases due : Heartbeat policy filter channelId sample
    · rw [if_pos ((heartbeat_any stored).mpr due)]
      exact .inl ⟨due, rfl⟩
    · rw [if_neg fun any => due ((heartbeat_any stored).mp any)]
      by_cases soon : RateLimited policy filter channelId sample
      · rw [if_pos ((rateLimited_any stored).mpr soon)]
        exact .inr (.inl ⟨due, soon, rfl⟩)
      · rw [if_neg fun any => soon ((rateLimited_any stored).mp any)]
        unfold withinDeadband
        rw [set, deadbandValue_word word]
        exact .inr (.inr ⟨due, soon, rfl⟩)

/-- A number after a number is sent or suppressed, unless the two cannot be subtracted. -/
theorem verdict_number (policy : RbeConfig) (clean : Clean filter channelId) (numeric : Numeric sample) :
    (∃ sent, verdict policy (filter.sent.get? channelId) sample = .ok sent) ∨
      ¬Subtractable filter channelId sample ∧
        verdict policy (filter.sent.get? channelId) sample =
          .error (.overflowError "int too large to convert to float") := by
  cases stored : filter.sent.get? channelId with
  | none => exact .inl ⟨true, verdict_first numeric⟩
  | some previous =>
    have numeric' := clean previous stored
    obtain ⟨number, read⟩ := numeric
    obtain ⟨number', read'⟩ := numeric'
    rcases difference_numbers read read' with ⟨change, subtracted⟩ | ⟨huge, large, pair, raised⟩
    · left
      unfold verdict
      dsimp only
      split
      · exact ⟨true, rfl⟩
      · split
        · exact ⟨false, rfl⟩
        · cases policy.deadband with
          | none => exact ⟨true, rfl⟩
          | some band =>
            rw [withinDeadband_numeric band ⟨number, read⟩ ⟨number', read'⟩, subtracted]
            exact ⟨_, rfl⟩
    · unfold verdict
      dsimp only
      split
      · exact .inl ⟨true, rfl⟩
      · split
        · exact .inl ⟨false, rfl⟩
        · cases policy.deadband with
          | none => exact .inl ⟨true, rfl⟩
          | some band =>
            right
            rw [withinDeadband_numeric band ⟨number, read⟩ ⟨number', read'⟩, raised]
            refine ⟨?_, rfl⟩
            intro subtractable
            obtain ⟨beside, beside'⟩ := subtractable previous stored huge large
            rcases pair with ⟨same, other⟩ | ⟨same, other⟩
            · obtain ⟨last, whole⟩ := beside same
              exact other last whole
            · obtain ⟨exactly, whole⟩ := beside' same
              exact other exactly whole

theorem call_run (policy : RbeConfig) (filter : RbeFilter) (channelId : Nat) (sample : Sample) :
    (acceptCall channelId sample (some policy)).run filter =
      match verdict policy (filter.sent.get? channelId) sample with
      | .ok sent => .ok sent (settle filter channelId sample sent)
      | .error error => .error error filter := by
  rw [acceptCall_run, accept_verdict]
  cases verdict policy (filter.sent.get? channelId) sample <;> rfl

/-- A channel stays clean unless a heartbeat sends a word. -/
theorem call_clean (banded : policy.deadband.isSome = true) (clean : Clean filter channelId)
    (calm : ¬Numeric sample → ¬Heartbeat policy filter channelId sample) :
    Clean (left ((acceptCall channelId sample (some policy)).run filter)) channelId := by
  rw [call_run]
  cases answer : verdict policy (filter.sent.get? channelId) sample with
  | error error => exact clean
  | ok sent =>
    intro previous stored
    rw [show left _ = settle filter channelId sample sent from rfl, settle_own] at stored
    cases sent with
    | false => exact clean previous stored
    | true =>
      cases stored
      by_contra word
      rcases verdict_word filter channelId banded word with
        ⟨due, _⟩ | ⟨_, _, held⟩ | ⟨_, _, raises⟩
      · exact calm word due
      · rw [answer] at held
        cases held
      · rw [answer] at raises
        cases raises

end Calls

theorem afterCalls_clean {policy : RbeConfig} (banded : policy.deadband.isSome = true) (channelId : Nat)
    {samples : List Sample} (calm : NoWordSent policy channelId samples) :
    Clean (afterCalls policy channelId samples) channelId := by
  induction samples using List.reverseRecOn with
  | nil =>
    intro previous stored
    cases stored
  | append_singleton earlier sample ih =>
    unfold afterCalls
    rw [List.foldl_append]
    apply call_clean banded
    · apply ih
      intro before one after split
      apply calm before one (after ++ [sample])
      rw [split, List.append_assoc]
      rfl
    · exact calm earlier sample [] rfl

/-- A word raises unless it is due or too soon, what raises changes nothing, and after a number
a number raises no `TypeError`: it is answered, unless the two cannot be subtracted. -/
theorem typeErrors_local (policy : RbeConfig) (banded : policy.deadband.isSome = true)
    (channelId : Nat) (earlier : List Sample) (sample : Sample) :
    (¬Numeric sample →
      (RaisesTypeError ((acceptCall channelId sample (some policy)).run
          (afterCalls policy channelId earlier)) ↔
        ¬Heartbeat policy (afterCalls policy channelId earlier) channelId sample ∧
          ¬RateLimited policy (afterCalls policy channelId earlier) channelId sample)) ∧
    (∀ error after, (acceptCall channelId sample (some policy)).run
        (afterCalls policy channelId earlier) = .error error after →
      after = afterCalls policy channelId earlier) ∧
    (Clean (afterCalls policy channelId earlier) channelId → Numeric sample →
      ¬RaisesTypeError ((acceptCall channelId sample (some policy)).run
          (afterCalls policy channelId earlier)) ∧
        (Subtractable (afterCalls policy channelId earlier) channelId sample →
          ∃ sent after, (acceptCall channelId sample (some policy)).run
            (afterCalls policy channelId earlier) = .ok sent after)) ∧
    (NoWordSent policy channelId earlier → Clean (afterCalls policy channelId earlier) channelId) := by
  rw [call_run]
  refine ⟨?_, ?_, ?_, afterCalls_clean banded channelId⟩
  · intro word
    rcases verdict_word (afterCalls policy channelId earlier) channelId banded word with
      ⟨due, answer⟩ | ⟨_, soon, answer⟩ | ⟨calm, slow, answer⟩
    · rw [answer]
      constructor
      · exact False.elim
      · exact fun other => other.1 due
    · rw [answer]
      constructor
      · exact False.elim
      · exact fun other => other.2 soon
    · rw [answer]
      constructor
      · exact fun _ => ⟨calm, slow⟩
      · exact fun _ => trivial
  · intro error after raised
    split at raised
    · cases raised
    · cases raised
      rfl
  · intro clean numeric
    rcases verdict_number policy clean numeric with ⟨sent, answer⟩ | ⟨unlike, answer⟩
    · rw [answer]
      exact ⟨id, fun _ => ⟨sent, _, rfl⟩⟩
    · rw [answer]
      exact ⟨id, fun subtractable => absurd subtractable unlike⟩

def word (text : String) (tMonoNs : Int) : Sample :=
  ⟨"can0:ecu.ENGINE.RPM", tMonoNs, tMonoNs / 1000000, .str text⟩

theorem not_numeric_word (text : String) (tMonoNs : Int) : ¬Numeric (word text tMonoNs) := by
  rintro ⟨number, found⟩
  cases found

theorem typeErrors_local_moving :
    RaisesTypeError ((acceptCall 7 (word "off" 1000) (some moving)).run
        (afterCalls moving 7 [reading 10 0])) ∧
      ∃ sent after, (acceptCall 7 (reading 12 2000) (some moving)).run
        (afterCalls moving 7 [reading 10 0, word "off" 1000]) = .ok sent after := by
  constructor
  · apply ((typeErrors_local moving rfl 7 [reading 10 0] (word "off" 1000)).1
      (not_numeric_word "off" 1000)).mpr
    constructor
    · rintro ⟨previous, stored, longest, set, due⟩
      cases stored
      cases set
      exact absurd due (by decide)
    · rintro ⟨previous, stored, shortest, set, _⟩
      cases set
  · have clean : Clean (afterCalls moving 7 [reading 10 0, word "off" 1000]) 7 := by
      intro previous stored
      cases stored
      exact ⟨_, rfl⟩
    apply ((typeErrors_local moving rfl 7 [reading 10 0, word "off" 1000] (reading 12 2000)).2.2.1
      clean (reading_numeric 12 2000)).2
    intro previous stored huge _
    cases stored
    constructor
    · exact fun same => nomatch same
    · exact fun same => nomatch same

/-- An integer that no float is near to. -/
def hugeReading : Sample :=
  ⟨"can0:ecu.ENGINE.RPM", 2000, 2000 / 1000000, .int (10 ^ 400)⟩

/-- A word that is due is sent, and the next number cannot be compared with it. A large integer
is sent after an integer, and raises after a float. -/
theorem heartbeat_word :
    (¬Numeric (word "heartbeat" 10000000) ∧
      ¬RateLimited moving (afterCalls moving 7 [reading 10 0]) 7 (word "heartbeat" 10000000) ∧
      ¬RaisesTypeError ((acceptCall 7 (word "heartbeat" 10000000) (some moving)).run
        (afterCalls moving 7 [reading 10 0]))) ∧
    (Numeric (reading 10 11000000) ∧
      RaisesTypeError ((acceptCall 7 (reading 10 11000000) (some moving)).run
        (afterCalls moving 7 [reading 10 0, word "heartbeat" 10000000]))) ∧
    Numeric hugeReading ∧
      (acceptCall 7 hugeReading (some moving)).run (afterCalls moving 7 [reading 10 0]) =
        .error (.overflowError "int too large to convert to float")
          (afterCalls moving 7 [reading 10 0]) ∧
      ∃ after, (acceptCall 7 hugeReading (some moving)).run
        (afterCalls moving 7 [{ hugeReading with value := .int 1, tMonoNs := 0 }]) =
          .ok true after := by
  refine ⟨⟨not_numeric_word _ _, ?_, ?_⟩, ⟨reading_numeric 10 11000000, ?_⟩, ⟨_, rfl⟩, ?_, ?_⟩
  · rintro ⟨previous, _, shortest, set, _⟩
    cases set
  · exact id
  · trivial
  · rw [call_run]
    have raised : verdict moving ((afterCalls moving 7 [reading 10 0]).sent.get? 7) hugeReading =
        .error (.overflowError "int too large to convert to float") := by decide +kernel
    rw [raised]
  · rw [call_run]
    have accepted : verdict moving ((afterCalls moving 7
        [{ hugeReading with value := .int 1, tMonoNs := 0 }]).sent.get? 7) hugeReading =
          .ok true := by decide +kernel
    rw [accepted]
    exact ⟨_, rfl⟩

end OpenLaps.Rbe

import OpenLaps.Core.Numbers

/- Report-by-exception filtering: only the last sent value of a channel is kept. -/
namespace OpenLaps.Rbe

structure SentState where
  value : SampleValue
  tMonoNs : Int
  deriving DecidableEq

structure RbeFilter where
  sent : Dict Nat SentState
  suppressedCount : Nat

def RbeFilter.fresh : RbeFilter := ⟨.empty, 0⟩

def deadbandValue (value : SampleValue) : Except PyError PyFloat :=
  match value.number? with
  | some number => .ok number
  | none => .error (.typeError "deadband requires numeric sample values")

def record (filter : RbeFilter) (channelId : Nat) (sample : Sample) : RbeFilter :=
  { filter with sent := filter.sent.set channelId ⟨sample.value, sample.tMonoNs⟩ }

def suppress (filter : RbeFilter) : RbeFilter :=
  { filter with suppressedCount := filter.suppressedCount + 1 }

/-- A number beside a float. -/
def asFloat : SampleValue → Except PyError PyFloat
  | .int value => floatOfInt value
  | .float value => .ok value
  | _ => .error (.typeError "deadband requires numeric sample values")

/-- `deadband_value - previous_value`, which is exact between integers only. -/
def difference : SampleValue → SampleValue → Except PyError PyFloat
  | .int value, .int previous => .ok (.finite (value - previous))
  | value, previous =>
    match asFloat value, asFloat previous with
    | .error error, _ => .error error
    | .ok _, .error error => .error error
    | .ok current, .ok last => .ok (current.sub last).rounded

/-- Whether the change since the last sent value stays within the deadband. -/
def withinDeadband (deadband : Option PyFloat) (value previous : SampleValue) :
    Except PyError Bool :=
  match deadband with
  | none => .ok false
  | some band =>
    match deadbandValue value, deadbandValue previous with
    | .error error, _ => .error error
    | .ok _, .error error => .error error
    | .ok _, .ok _ => (difference value previous).map fun change => change.abs.le band

/-- `RbeFilter.accept`; what it raises leaves the filter as it was. -/
def accept (filter : RbeFilter) (channelId : Nat) (sample : Sample) :
    Option RbeConfig → Except PyError (RbeFilter × Bool)
  | none => .ok (filter, true)
  | some policy =>
    match filter.sent.get? channelId with
    | none =>
      match policy.deadband, deadbandValue sample.value with
      | some _, .error error => .error error
      | _, _ => .ok (record filter channelId sample, true)
    | some previous =>
      let elapsedNs := sample.tMonoNs - previous.tMonoNs
      if policy.maxIntervalNs.any (fun longest => longest ≤ elapsedNs) then
        .ok (record filter channelId sample, true)
      else if policy.minIntervalNs.any (fun shortest => elapsedNs < shortest) then
        .ok (suppress filter, false)
      else
        match withinDeadband policy.deadband sample.value previous.value with
        | .error error => .error error
        | .ok true => .ok (suppress filter, false)
        | .ok false => .ok (record filter channelId sample, true)

end OpenLaps.Rbe

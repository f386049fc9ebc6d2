import OpenLaps.Pit.Watch.Rows

/- The counter monitor: how fast a count that should stand still rises. -/
namespace OpenLaps.Watch

def maxCounterHistory : Nat := 3600

structure Counter where
  config : CounterConfig
  frozen : Bool := true
  learned : Nat := 0
  units : Units := []
  sourceSession : Option String := none
  history : List (ℚ × ℚ) := []
  score : ℚ := 0

/-- The history after an observation: no longer than the deque, no older than the window. -/
def Counter.remember (monitor : Counter) (time observed : ℚ) : List (ℚ × ℚ) :=
  (lastOf maxCounterHistory (monitor.history ++ [(time, observed)])).dropWhile fun entry =>
    monitor.config.scoreWindow < time - entry.1

/-- A rise over a window that is long enough. -/
def Counter.judge (monitor : Counter) (time : ℚ) (readings : Readings)
    (observed first span : ℚ) : Outcome Counter :=
  let config := monitor.config
  let rise := max 0 (observed - first)
  let ratePerMin := rise * 60 / span
  let score := min 1 (ratePerMin / config.openFindingAbove)
  let summary : CounterSummary :=
    { target := config.channel
      expected := first
      observed := observed
      unit := readings.unit config.channel
      baselineSession := monitor.sourceSession
      residual := rise
      ratePerMin := ratePerMin
      limitPerMin := config.openFindingAbove
      windowS := span }
  { row :=
      { time := time, score := some score, residual := some rise, expected := some first,
        observed := some observed, baselineStatus := .ready }
    state := { monitor with score := score }
    judgement := some
      ⟨config.openFindingAbove ≤ ratePerMin, score, .counter summary, config.severity⟩ }

/-- The newest observation always stays in the history, so there is a first one. -/
def Counter.evaluate (monitor : Counter) (time : ℚ) (readings : Readings) (valid : Bool) :
    Outcome Counter :=
  if !valid || !holds monitor.config.gates readings then
    { row := { time := time }, state := monitor }
  else
    let observed := readings.value monitor.config.channel
    let history := monitor.remember time observed
    let monitor := { monitor with
      units := readings.units monitor.config.channels, history := history }
    let first := history.headD (time, observed)
    let span := time - first.1
    if span < min monitor.config.scoreWindow 10 then
      { row :=
          { time := time, observed := some observed, expected := some first.2
            baselineStatus := .warming }
        state := monitor }
    else monitor.judge time readings observed first.2 span

structure CounterModel where
  learned : Nat
  units : Units
  history : List (ℚ × ℚ)
  score : ℚ
  sourceSession : Option String

def Counter.snapshot (monitor : Counter) (finding : Option Finding) :
    Checkpoint CounterConfig CounterModel :=
  ⟨1, monitor.config, ⟨monitor.learned, monitor.units, monitor.history, monitor.score,
    monitor.sourceSession⟩, finding⟩

def Counter.restore (monitor : Counter) (model : CounterModel) : Counter :=
  { monitor with
    sourceSession := model.sourceSession
    units := model.units
    history := lastOf maxCounterHistory model.history
    score := model.score }

end OpenLaps.Watch

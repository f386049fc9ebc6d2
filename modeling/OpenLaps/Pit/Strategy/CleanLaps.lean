import OpenLaps.Lib.Attempt
import OpenLaps.Pit.Strategy.Evaluate

/- The laps that the burn is taken from, and a short race that the results about the
strategy are seen on. -/
namespace OpenLaps.Strategy

/-- Every clean lap passed the tests on the lap itself. -/
theorem candidates_measured {rt : Runtime} {stops : List StopFact} {laps found : List LapFact}
    (done : candidates rt stops laps = .ok found) : ∀ lap ∈ found, measured lap = true := by
  induction laps generalizing found with
  | nil =>
    cases done
    intro lap member
    cases member
  | cons first rest ih =>
    rw [candidates] at done
    split at done
    · rename_i fine
      obtain ⟨inPits, -, next⟩ := Attempt.bind_ok.mp done
      obtain ⟨later, remaining, result⟩ := Attempt.bind_ok.mp next
      cases result
      intro lap member
      split at member
      · exact ih remaining lap member
      · rcases List.mem_cons.mp member with here | inside
        · rw [here]
          exact fine
        · exact ih remaining lap inside
    · exact ih done

theorem cleanLaps_measured {rt : Runtime} {stops : List StopFact} {laps clean : List LapFact}
    {policy : StrategyPolicy} (done : cleanLaps rt laps stops policy = .ok clean) :
    ∀ lap ∈ clean, measured lap = true := by
  obtain ⟨found, all, rest⟩ := Attempt.bind_ok.mp done
  split at rest
  · cases rest
    intro lap member
    cases member
  · cases rest
    intro lap member
    exact candidates_measured all lap (List.mem_of_mem_filter member)

theorem measured_burned {lap : LapFact} (fine : measured lap = true) :
    lap.fuelUsedL.any (0 < ·) = true := by
  simp only [measured, Bool.and_eq_true] at fine
  exact fine.1.2

/-- A race to lap four on a tank of some litres. -/
def sprintPlan (usable : ℚ) (positive : 0 < usable) : PlanFacts :=
  { revision := 1, raceEndAt := none, raceEndLaps := some 4, endAuthority := .laps,
    tankL := usable, usableFuelL := usable, refuelMinS := 120, serviceTypicalS := 60,
    driverLimits := .empty, plannedStops := [], usablePositive := positive }

/-- One lap done on two litres. -/
def firstLap : LapFact :=
  { lapNumber := 1, crossedAt := 100, lapTimeS := some 100, valid := true, pitStatus := none,
    stintNumber := some 1, fuelUsedL := some 2, measurementStatus := "clean" }

def sprint (plan : PlanFacts) : RaceInputs :=
  { now := 110, vehicleId := "car", sessionId := "race", sessionStarted := 0, plan := some plan,
    laps := [firstLap], stints := [], stops := [] }

/-- A calendar that is long enough; the deviation of one lap is never asked for. -/
def plainRuntime : Runtime := ⟨fun time seconds => .ok (time + seconds), fun _ => 0⟩

end OpenLaps.Strategy

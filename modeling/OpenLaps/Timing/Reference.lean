import Mathlib.Algebra.Order.Ring.Rat
import Mathlib.Algebra.Order.Field.Basic
import Mathlib.Data.List.Basic

/- Distance along the lap (`timing/distance_model.py`) and the reference lap
(`timing/reference_lap.py`), in exact arithmetic. The track length and the
mini-sectors, which the timing app never reads, are left out. -/
namespace OpenLaps.Timing

/-- `haversine_m`, the great-circle distance of two points in metres; it stays a parameter. -/
abbrev Haversine := ℚ → ℚ → ℚ → ℚ → ℚ

/-- `DistanceState`; `prev` is `prev_lat` with `prev_lon`, which are set together. -/
structure DistanceModel where
  lapDistance : ℚ := 0
  prev : Option (ℚ × ℚ) := none
  deriving DecidableEq, Repr

namespace DistanceModel

/-- Accumulates distance for a new fix. -/
def update (haversine : Haversine) (model : DistanceModel) (lat lon : ℚ) : DistanceModel :=
  let lapDistance := match model.prev with
    | some (prevLat, prevLon) => model.lapDistance + haversine prevLat prevLon lat lon
    | none => model.lapDistance
  ⟨lapDistance, some (lat, lon)⟩

/-- Resets the distance; the next fix has no previous one to measure from. -/
def startLap : DistanceModel := {}

end DistanceModel

/-- A distance to elapsed-time curve of one completed lap. -/
structure ReferenceLap where
  distances : List ℚ
  times : List ℚ
  lapTime : ℚ
  deriving DecidableEq, Repr

/-- `bisect.bisect_right` of an increasing list. -/
def bisectRight (distances : List ℚ) (distance : ℚ) : Nat :=
  (distances.takeWhile fun entry => entry ≤ distance).length

/-- `items[index]`, which counts from the end below zero and raises where it is `none`. -/
def subscript (items : List ℚ) (index : Int) : Option ℚ :=
  if 0 ≤ index then items[index.toNat]?
  else if 0 ≤ items.length + index then items[(items.length + index).toNat]?
  else none

/-- `x / y`, which raises on zero. -/
def divide (x y : ℚ) : Option ℚ := if y = 0 then none else some (x / y)

/-- `time_at` step by step, `none` where a subscript or a division raises. -/
def ReferenceLap.timeAt? (reference : ReferenceLap) (distance : ℚ) : Option ℚ := do
  let d := reference.distances
  let t := reference.times
  if d = [] then pure 0
  else if distance ≤ (← subscript d 0) then subscript t 0
  else if (← subscript d (-1)) ≤ distance then subscript t (-1)
  else
    let i : Int := bisectRight d distance
    let span := (← subscript d i) - (← subscript d (i - 1))
    let frac ← if 0 < span then divide (distance - (← subscript d (i - 1))) span else pure 0
    pure ((← subscript t (i - 1)) + frac * ((← subscript t i) - (← subscript t (i - 1))))

/-- What `time_at` returns on a curve with as many times as distances, which grow. -/
def ReferenceLap.timeAt (reference : ReferenceLap) (distance : ℚ) : ℚ :=
  match reference.distances.head?, reference.distances.getLast? with
  | some first, some last =>
      if distance ≤ first then reference.times.headD 0
      else if last ≤ distance then reference.times.getLastD 0
      else
        let i := bisectRight reference.distances distance
        let before := reference.distances.getD (i - 1) 0
        let span := reference.distances.getD i 0 - before
        let frac := if 0 < span then (distance - before) / span else 0
        let low := reference.times.getD (i - 1) 0
        low + frac * (reference.times.getD i 0 - low)
  | _, _ => 0

/-- The samples of the lap in progress, decimated onto a grid of `gridM` metres. -/
structure LapRecorder where
  dist : List ℚ := []
  time : List ℚ := []
  gridM : ℚ := 5
  deriving DecidableEq, Repr

namespace LapRecorder

def reset (recorder : LapRecorder) : LapRecorder := { recorder with dist := [], time := [] }

def append (recorder : LapRecorder) (distance elapsed : ℚ) : LapRecorder :=
  { recorder with dist := recorder.dist ++ [distance], time := recorder.time ++ [elapsed] }

@[simp] theorem append_dist (recorder : LapRecorder) (distance elapsed : ℚ) :
    (recorder.append distance elapsed).dist = recorder.dist ++ [distance] := rfl

@[simp] theorem append_time (recorder : LapRecorder) (distance elapsed : ℚ) :
    (recorder.append distance elapsed).time = recorder.time ++ [elapsed] := rfl

/-- Records a sample, at most one in a grid bin and only moving forward. -/
def add (recorder : LapRecorder) (distance elapsed : ℚ) : LapRecorder :=
  match recorder.dist.getLast? with
  | some last =>
      if distance ≤ last then recorder
      else if distance - last < recorder.gridM then recorder
      else recorder.append distance elapsed
  | none => recorder.append distance elapsed

/-- Closes the lap; no curve if it is too sparse. -/
def complete (recorder : LapRecorder) (lapTime : ℚ) : Option ReferenceLap :=
  if recorder.dist.length < 10 then none else some ⟨recorder.dist, recorder.time, lapTime⟩

end LapRecorder

structure DeltaTracker where
  reference : Option ReferenceLap := none
  deriving DecidableEq, Repr

namespace DeltaTracker

/-- Adopts the candidate if it is a valid lap faster than the reference. -/
def offer (tracker : DeltaTracker) (candidate : Option ReferenceLap) (valid : Bool) :
    DeltaTracker :=
  match candidate with
  | none => tracker
  | some lap =>
      if ¬ valid ∨ lap.lapTime ≤ 0 then tracker
      else
        match tracker.reference with
        | none => ⟨some lap⟩
        | some reference => if lap.lapTime < reference.lapTime then ⟨some lap⟩ else tracker

def delta (tracker : DeltaTracker) (distance elapsed : ℚ) : Option ℚ :=
  tracker.reference.map fun reference => elapsed - reference.timeAt distance

def predicted (tracker : DeltaTracker) (distance elapsed : ℚ) : Option ℚ :=
  tracker.reference.map fun reference =>
    reference.lapTime + (elapsed - reference.timeAt distance)

/-- An offer keeps the reference or adopts the candidate. -/
theorem offer_cases (tracker : DeltaTracker) (candidate : Option ReferenceLap) (valid : Bool) :
    tracker.offer candidate valid = tracker ∨
      ∃ lap, candidate = some lap ∧ tracker.offer candidate valid = ⟨some lap⟩ := by
  unfold offer
  split
  · exact Or.inl rfl
  · rename_i lap
    split
    · exact Or.inl rfl
    · split
      · exact Or.inr ⟨lap, rfl, rfl⟩
      · split
        · exact Or.inr ⟨lap, rfl, rfl⟩
        · exact Or.inl rfl

end DeltaTracker

end OpenLaps.Timing

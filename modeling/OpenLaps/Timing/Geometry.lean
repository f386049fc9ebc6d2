import Mathlib.Algebra.Order.Ring.Rat
import Mathlib.Algebra.Order.Field.Basic
import Mathlib.Algebra.Order.AbsoluteValue.Basic
import Mathlib.Tactic.Linarith
import Mathlib.Tactic.Positivity

/- Line crossings of `timing/timing_core.py`, in exact arithmetic. -/
namespace OpenLaps.Timing

structure GPSPoint where
  lat : ℚ
  lon : ℚ
  timestamp : ℚ
  deriving DecidableEq, Repr

inductive LineType where
  | startFinish
  | sector
  | pitEntry
  | pitExit
  | unknown
  deriving DecidableEq, Repr

structure TimingLine where
  name : String
  start : GPSPoint
  finish : GPSPoint
  lineType : LineType
  deriving DecidableEq, Repr

/-- `math.cos(math.radians(ref_lat))` as a function of the reference latitude;
all the geometry needs of it is that it is positive. -/
structure Projection where
  cosine : ℚ → ℚ
  positive : ∀ refLat, 0 < cosine refLat

/-- Equirectangular projection to local metres about a reference point. -/
def toMeters (projection : Projection) (lat lon refLat refLon : ℚ) : ℚ × ℚ :=
  ((lon - refLon) * 111320 * projection.cosine refLat, (lat - refLat) * 111320)

/-- The fraction along A(1→2) at which it meets B(3→4), with the signed cross
product that gives the direction; `none` if the segments do not cross. -/
def segmentIntersection (x1 y1 x2 y2 x3 y3 x4 y4 : ℚ) : Option (ℚ × ℚ) :=
  let denom := (x2 - x1) * (y4 - y3) - (y2 - y1) * (x4 - x3)
  if |denom| < 1 / 1000000000000 then
    none
  else
    let t := ((x3 - x1) * (y4 - y3) - (y3 - y1) * (x4 - x3)) / denom
    let u := ((x3 - x1) * (y2 - y1) - (y3 - y1) * (x2 - x1)) / denom
    if 0 ≤ t ∧ t ≤ 1 ∧ 0 ≤ u ∧ u ≤ 1 then
      some (t, (x4 - x3) * (y2 - y1) - (y4 - y3) * (x2 - x1))
    else
      none

inductive Direction where
  | clockwise
  | counterclockwise
  deriving DecidableEq, Repr

/-- What `_crossing` returns: crossing time, direction and its sign. -/
structure Hit where
  time : ℚ
  direction : Direction
  sign : Int
  deriving DecidableEq, Repr

/-- `_crossing`: the hit of the segment `p1 → p2` on a line. It is irreducible so
that the engine's loops unfold without evaluating the geometry. -/
@[irreducible] def crossing (projection : Projection) (p1 p2 : GPSPoint) (line : TimingLine) : Option Hit :=
  let refLat := line.start.lat
  let refLon := line.start.lon
  let a1 := toMeters projection p1.lat p1.lon refLat refLon
  let a2 := toMeters projection p2.lat p2.lon refLat refLon
  let b1 := toMeters projection line.start.lat line.start.lon refLat refLon
  let b2 := toMeters projection line.finish.lat line.finish.lon refLat refLon
  match segmentIntersection a1.1 a1.2 a2.1 a2.2 b1.1 b1.2 b2.1 b2.2 with
  | none => none
  | some (t, cross) =>
      let sign : Int := if 0 ≤ cross then 1 else -1
      some {
        time := p1.timestamp + t * (p2.timestamp - p1.timestamp)
        direction := if 0 < sign then .clockwise else .counterclockwise
        sign := sign }

theorem segmentIntersection_fraction {x1 y1 x2 y2 x3 y3 x4 y4 t cross : ℚ}
    (hit : segmentIntersection x1 y1 x2 y2 x3 y3 x4 y4 = some (t, cross)) : 0 ≤ t ∧ t ≤ 1 := by
  unfold segmentIntersection at hit
  dsimp only at hit
  split at hit
  · cases hit
  · split at hit
    · rename_i inside
      cases hit
      exact ⟨inside.1, inside.2.1⟩
    · cases hit

/-- A crossing happens between the two fixes. -/
theorem crossing_time {projection : Projection} {p1 p2 : GPSPoint} {line : TimingLine} {hit : Hit}
    (found : crossing projection p1 p2 line = some hit) (forward : p1.timestamp ≤ p2.timestamp) :
    p1.timestamp ≤ hit.time ∧ hit.time ≤ p2.timestamp := by
  unfold crossing at found
  dsimp only at found
  split at found
  · cases found
  · rename_i t cross met
    obtain ⟨low, high⟩ := segmentIntersection_fraction met
    cases found
    have span : 0 ≤ p2.timestamp - p1.timestamp := sub_nonneg.mpr forward
    have lower := mul_nonneg low span
    have upper := mul_le_mul_of_nonneg_right high span
    constructor
    · dsimp only
      linarith
    · dsimp only
      linarith

/-- Between positive times no crossing happens at a time that is not. -/
theorem crossing_positive {projection : Projection} {p1 p2 : GPSPoint} {line : TimingLine}
    {hit : Hit} (found : crossing projection p1 p2 line = some hit) (first : 0 < p1.timestamp)
    (second : 0 < p2.timestamp) : 0 < hit.time := by
  unfold crossing at found
  dsimp only at found
  split at found
  · cases found
  · rename_i t cross met
    obtain ⟨low, high⟩ := segmentIntersection_fraction met
    cases found
    have early := mul_nonneg (sub_nonneg.mpr high) (le_of_lt first)
    have late := mul_nonneg low (le_of_lt second)
    dsimp only
    rcases lt_or_eq_of_le low with inside | start
    · have strict := mul_pos inside second
      linarith
    · rw [← start]
      linarith

end OpenLaps.Timing

import Mathlib.Order.Interval.Set.UnorderedInterval
import OpenLaps.Lib.PlaneSegments
import OpenLaps.Timing.Debounce

/- What a crossing says about the plane: when the two segments are reported to meet,
where they do, and what driving the same segment backwards gives. -/
namespace OpenLaps.Timing

open PlaneSegments

/-- `segment_intersection` of A(a→b) with B(c→d), the points as pairs of metres. -/
def intersection (a b c d : ℚ × ℚ) : Option (ℚ × ℚ) :=
  segmentIntersection a.1 a.2 b.1 b.2 c.1 c.2 d.1 d.2

/-- The segments are far enough from parallel for the code to divide. -/
def Transverse (a b c d : ℚ × ℚ) : Prop := 1 / 1000000000000 ≤ |wedge (b - a) (d - c)|

/-- A line as the two points that `_crossing` projects, about its own start. -/
def projected (projection : Projection) (line : TimingLine) (point : GPSPoint) : ℚ × ℚ :=
  toMeters projection point.lat point.lon line.start.lat line.start.lon

/-- The fixes `q1 → q2` drive the segment `p1 → p2` the other way, at any times. -/
structure DrivenBack (p1 p2 q1 q2 : GPSPoint) : Prop where
  firstLat : q1.lat = p2.lat
  firstLon : q1.lon = p2.lon
  lastLat : q2.lat = p1.lat
  lastLon : q2.lon = p1.lon

theorem Transverse.apart {a b c d : ℚ × ℚ} (transverse : Transverse a b c d) :
    wedge (b - a) (d - c) ≠ 0 := by
  apply abs_pos.mp
  exact lt_of_lt_of_le (by norm_num) transverse

theorem transverse_back (a b c d : ℚ × ℚ) : Transverse b a c d ↔ Transverse a b c d := by
  unfold Transverse
  rw [wedge_back, abs_neg]

/-- The cross product that gives the direction is the denominator with its sign turned. -/
theorem intersection_eq_some_iff {a b c d : ℚ × ℚ} {t cross : ℚ} :
    intersection a b c d = some (t, cross) ↔ Transverse a b c d ∧ Inside a b c d ∧
      t = firstFraction a b c d ∧ cross = -wedge (b - a) (d - c) := by
  have turned : (d.1 - c.1) * (b.2 - a.2) - (d.2 - c.2) * (b.1 - a.1) =
      -wedge (b - a) (d - c) := by
    simp only [wedge, Prod.fst_sub, Prod.snd_sub]
    ring
  unfold intersection segmentIntersection
  rw [turned]
  change (if |wedge (b - a) (d - c)| < 1 / 1000000000000 then none
    else if Inside a b c d then some (firstFraction a b c d, -wedge (b - a) (d - c))
      else none) = some (t, cross) ↔ _
  by_cases parallel : |wedge (b - a) (d - c)| < 1 / 1000000000000
  · rw [if_pos parallel]
    constructor
    · intro impossible
      cases impossible
    · rintro ⟨transverse, _⟩
      exact absurd parallel (not_lt.mpr transverse)
  · rw [if_neg parallel]
    by_cases inside : Inside a b c d
    · rw [if_pos inside]
      constructor
      · intro same
        cases same
        exact ⟨not_lt.mp parallel, inside, rfl, rfl⟩
      · rintro ⟨_, _, rfl, rfl⟩
        rfl
    · rw [if_neg inside]
      constructor
      · intro impossible
        cases impossible
      · rintro ⟨_, there, _⟩
        exact absurd there inside

theorem intersection_isSome_iff (a b c d : ℚ × ℚ) :
    (intersection a b c d).isSome ↔
      Transverse a b c d ∧ (segment ℚ a b ∩ segment ℚ c d).Nonempty := by
  constructor
  · intro hit
    obtain ⟨⟨t, cross⟩, found⟩ := Option.isSome_iff_exists.mp hit
    obtain ⟨transverse, inside, _, _⟩ := intersection_eq_some_iff.mp found
    exact ⟨transverse, (segments_meet_iff transverse.apart).mpr inside⟩
  · rintro ⟨transverse, meet⟩
    have inside := (segments_meet_iff transverse.apart).mp meet
    rw [intersection_eq_some_iff.mpr ⟨transverse, inside, rfl, rfl⟩]
    rfl

/-- The fraction of a hit locates the only point that the segments share. -/
theorem intersection_locates {a b c d : ℚ × ℚ} {t cross : ℚ}
    (hit : intersection a b c d = some (t, cross)) :
    segment ℚ a b ∩ segment ℚ c d = {pointAt a b t} := by
  obtain ⟨transverse, inside, rfl, _⟩ := intersection_eq_some_iff.mp hit
  exact segment_inter transverse.apart inside

theorem inside_back {a b c d : ℚ × ℚ} (transverse : Transverse a b c d) :
    Inside b a c d ↔ Inside a b c d := by
  have apart := transverse.apart
  have other := ((transverse_back a b c d).mpr transverse).apart
  rw [← segments_meet_iff apart, ← segments_meet_iff other, segment_symm ℚ b a]

/-- The segment driven backwards is hit just when it is hit forwards, with the rest of
the fraction and the opposite cross product. -/
theorem intersection_back (a b c d : ℚ × ℚ) :
    intersection b a c d = (intersection a b c d).map fun hit => (1 - hit.1, -hit.2) := by
  cases forwards : intersection a b c d with
  | none =>
      cases backwards : intersection b a c d with
      | none => rfl
      | some hit =>
          obtain ⟨t, cross⟩ := hit
          obtain ⟨transverse, inside, _, _⟩ := intersection_eq_some_iff.mp backwards
          have ahead := (transverse_back a b c d).mp transverse
          rw [intersection_eq_some_iff.mpr ⟨ahead, (inside_back ahead).mp inside, rfl, rfl⟩]
            at forwards
          cases forwards
  | some hit =>
      obtain ⟨t, cross⟩ := hit
      obtain ⟨transverse, inside, rfl, rfl⟩ := intersection_eq_some_iff.mp forwards
      apply intersection_eq_some_iff.mpr
      refine ⟨(transverse_back a b c d).mpr transverse, (inside_back transverse).mpr inside, ?_, ?_⟩
      · rw [firstFraction_back transverse.apart]
      · rw [wedge_back a b]

/-- What `_crossing` makes of a hit of the projected segments. -/
theorem crossing_eq (projection : Projection) (p1 p2 : GPSPoint) (line : TimingLine) :
    crossing projection p1 p2 line =
      (intersection (projected projection line p1) (projected projection line p2)
        (projected projection line line.start) (projected projection line line.finish)).map
        fun hit =>
          let sign : Int := if 0 ≤ hit.2 then 1 else -1
          { time := p1.timestamp + hit.1 * (p2.timestamp - p1.timestamp)
            direction := if 0 < sign then .clockwise else .counterclockwise
            sign := sign } := by
  unfold crossing intersection projected
  dsimp only
  cases segmentIntersection _ _ _ _ _ _ _ _ <;> rfl

/-- The crossing divides the time between the two fixes as the common point divides the
segment, so it lies between them, whichever of them is the earlier. -/
theorem crossing_between {projection : Projection} {p1 p2 : GPSPoint} {line : TimingLine}
    {hit : Hit} (found : crossing projection p1 p2 line = some hit) :
    (∃ t cross, intersection (projected projection line p1) (projected projection line p2)
        (projected projection line line.start) (projected projection line line.finish) =
          some (t, cross) ∧
      hit.time = p1.timestamp + t * (p2.timestamp - p1.timestamp)) ∧
      hit.time ∈ Set.uIcc p1.timestamp p2.timestamp := by
  rw [crossing_eq] at found
  obtain ⟨⟨t, cross⟩, met, rfl⟩ := Option.map_eq_some_iff.mp found
  refine ⟨⟨t, cross, met, rfl⟩, ?_⟩
  obtain ⟨_, ⟨low, high, _⟩, rfl, _⟩ := intersection_eq_some_iff.mp met
  rw [← segment_eq_uIcc, segment_eq_image']
  exact ⟨_, ⟨low, high⟩, rfl⟩

theorem crossing_isSome (projection : Projection) (p1 p2 : GPSPoint) (line : TimingLine) :
    (crossing projection p1 p2 line).isSome =
      (intersection (projected projection line p1) (projected projection line p2)
        (projected projection line line.start) (projected projection line line.finish)).isSome := by
  rw [crossing_eq, Option.isSome_map]

/-- The sign of a hit is that of its cross product, and no cross product is zero. -/
theorem crossing_sign {projection : Projection} {p1 p2 : GPSPoint} {line : TimingLine} {hit : Hit}
    (found : crossing projection p1 p2 line = some hit) :
    ∃ t cross, intersection (projected projection line p1) (projected projection line p2)
        (projected projection line line.start) (projected projection line line.finish) =
          some (t, cross) ∧
      ((0 < cross ∧ hit.sign = 1) ∨ (cross < 0 ∧ hit.sign = -1)) := by
  rw [crossing_eq] at found
  obtain ⟨⟨t, cross⟩, met, rfl⟩ := Option.map_eq_some_iff.mp found
  refine ⟨t, cross, met, ?_⟩
  obtain ⟨transverse, _, _, rfl⟩ := intersection_eq_some_iff.mp met
  rcases lt_or_gt_of_ne (neg_ne_zero.mpr transverse.apart) with negative | positive
  · exact Or.inr ⟨negative, if_neg (not_le.mpr negative)⟩
  · exact Or.inl ⟨positive, if_pos (le_of_lt positive)⟩

section Backwards

variable {projection : Projection} {p1 p2 q1 q2 : GPSPoint} (line : TimingLine)
  (turned : DrivenBack p1 p2 q1 q2)

include turned

theorem projected_back :
    projected projection line q1 = projected projection line p2 ∧
      projected projection line q2 = projected projection line p1 := by
  unfold projected
  rw [turned.firstLat, turned.firstLon, turned.lastLat, turned.lastLon]
  exact ⟨rfl, rfl⟩

theorem crossing_back_isSome :
    (crossing projection q1 q2 line).isSome = (crossing projection p1 p2 line).isSome := by
  obtain ⟨start, last⟩ := projected_back line turned
  rw [crossing_isSome, crossing_isSome, start, last, intersection_back (projected projection line p1),
    Option.isSome_map]

/-- The sign of a hit is the other one when the segment is driven backwards. -/
theorem crossing_back_sign {hit back : Hit} (found : crossing projection p1 p2 line = some hit)
    (returned : crossing projection q1 q2 line = some back) : back.sign = -hit.sign := by
  obtain ⟨start, last⟩ := projected_back line turned
  obtain ⟨t, cross, met, signs⟩ := crossing_sign found
  obtain ⟨s, other, against, others⟩ := crossing_sign returned
  rw [start, last, intersection_back (projected projection line p1), met] at against
  cases against
  rcases signs with ⟨positive, one⟩ | ⟨negative, one⟩
  · rcases others with ⟨wrong, _⟩ | ⟨_, two⟩
    · exact absurd positive (by linarith)
    · rw [one, two]
  · rcases others with ⟨_, two⟩ | ⟨wrong, _⟩
    · rw [one, two]
      rfl
    · exact absurd negative (by linarith)

end Backwards

/-- A line whose direction is learned refuses a hit of another sign. -/
theorem accept_gated {config : Config} {state : TimingState} {line : TimingLine} {hit : Hit}
    {learned : Int} (gated : config.gateDirection = true)
    (known : state.lineDirection line.name = some learned) (other : learned ≠ hit.sign) :
    accept config state line hit = none := by
  apply accept_eq_none_iff.mpr
  right
  simp [wrongWay, gated, known, other]

/-- The segments are reported to meet just when they do and are not close to parallel,
where they meet is on the first of them, the crossing is timed between the two fixes, and
a segment driven backwards is hit just when it is hit forwards, with the sign turned, so
that the gate of a line that has learned one direction refuses the other. -/
theorem crossing_geometry (projection : Projection) :
    (∀ a b c d : ℚ × ℚ,
      ((intersection a b c d).isSome ↔
        Transverse a b c d ∧ (segment ℚ a b ∩ segment ℚ c d).Nonempty) ∧
      (∀ t cross, intersection a b c d = some (t, cross) →
        segment ℚ a b ∩ segment ℚ c d = {pointAt a b t}) ∧
      intersection b a c d = (intersection a b c d).map fun hit => (1 - hit.1, -hit.2)) ∧
    (∀ p1 p2 line hit, crossing projection p1 p2 line = some hit →
      (∃ t cross, intersection (projected projection line p1) (projected projection line p2)
          (projected projection line line.start) (projected projection line line.finish) =
            some (t, cross) ∧
        hit.time = p1.timestamp + t * (p2.timestamp - p1.timestamp)) ∧
        hit.time ∈ Set.uIcc p1.timestamp p2.timestamp) ∧
    (∀ p1 p2 q1 q2 line, DrivenBack p1 p2 q1 q2 →
      (crossing projection q1 q2 line).isSome = (crossing projection p1 p2 line).isSome ∧
      ∀ hit back, crossing projection p1 p2 line = some hit →
        crossing projection q1 q2 line = some back →
          back.sign = -hit.sign ∧ back.sign ≠ hit.sign ∧
          ∀ config state, config.gateDirection = true →
            state.lineDirection line.name = some hit.sign →
              accept config state line back = none) := by
  refine ⟨?_, ?_, ?_⟩
  · intro a b c d
    exact ⟨intersection_isSome_iff a b c d, fun t cross => intersection_locates,
      intersection_back a b c d⟩
  · intro p1 p2 line hit
    exact crossing_between
  · intro p1 p2 q1 q2 line turned
    refine ⟨crossing_back_isSome line turned, ?_⟩
    intro hit back found returned
    have sign := crossing_back_sign line turned found returned
    have other : back.sign ≠ hit.sign := by
      obtain ⟨_, _, _, signs⟩ := crossing_sign found
      rcases signs with ⟨_, one⟩ | ⟨_, one⟩ <;> omega
    refine ⟨sign, other, ?_⟩
    intro config state gated known
    exact accept_gated gated known other.symm

/-- A segment across the middle of a line meets it half way. -/
theorem crossing_geometry_middle :
    segment ℚ (0, -1) (0, 1) ∩ segment ℚ (-1, 0) (1, 0) =
      {pointAt ((0, -1) : ℚ × ℚ) (0, 1) (1 / 2)} := by
  have law := crossing_geometry ⟨fun _ => 1, fun _ => one_pos⟩
  exact (law.1 (0, -1) (0, 1) (-1, 0) (1, 0)).2.1 (1 / 2) 4 (by decide +kernel)

end OpenLaps.Timing

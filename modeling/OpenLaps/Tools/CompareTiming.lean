import Mathlib.Algebra.Order.Ring.Rat
import OpenLaps.Lib.Alignment

/- The alignment of two crossing sequences in `compare_timing.py`. Times are exact. -/
namespace OpenLaps.CompareTiming

/-- One line crossing, from either side of the comparison. -/
structure Crossing where
  line : String
  time : ℚ
  lapNumber : Option Int := none
  lapTimeS : Option ℚ := none
  valid : Option Bool := none
  deriving DecidableEq, Repr

abbrev MatchResult := Alignment.Outcome Crossing Crossing

/-- `match`. -/
def matchCrossings (subject reference : List Crossing) (offset tolerance : ℚ) : MatchResult :=
  Alignment.walk (fun crossing => crossing.time - offset) Crossing.time tolerance subject reference

def TimeOrdered (crossings : List Crossing) : Prop :=
  crossings.Pairwise fun earlier later => earlier.time ≤ later.time

instance (crossings : List Crossing) : Decidable (TimeOrdered crossings) :=
  inferInstanceAs (Decidable (crossings.Pairwise _))

/-- Pairs of a subject and a reference crossing that the tolerance allows, each crossing in
one pair at most. -/
def OneToOne (subject reference : List Crossing) (offset tolerance : ℚ)
    (pairs : List (Crossing × Crossing)) : Prop :=
  (pairs.map Prod.fst).Subperm subject ∧ (pairs.map Prod.snd).Subperm reference ∧
    ∀ pair ∈ pairs, |(pair.1.time - offset) - pair.2.time| ≤ tolerance

end OpenLaps.CompareTiming

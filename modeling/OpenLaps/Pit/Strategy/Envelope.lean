import Mathlib.Algebra.Order.BigOperators.Group.List
import OpenLaps.Pit.Strategy.CleanLaps

/- The envelope of the laps to dry. A bound of the fuel that is exactly zero is taken for a
bound that is missing, and the level itself stands in for it. -/
namespace OpenLaps.Strategy

/-- Litres that the engine cannot reach. -/
def PlanFacts.unusableL (plan : PlanFacts) : ℚ := plan.tankL - plan.usableFuelL

/-- Litres burned since the re-base and the laps substituted in them; a level read just now
takes none. -/
def burnedOf (rt : Runtime) (inputs : RaceInputs) (tank : Tank) (rebasedAt : ℚ) :
    Except PyError (ℚ × Nat) :=
  if tank.rebase.confidence = .moving then .ok (0, 0)
  else
    burnedSince rt (inputs.stops.insertionSort fun first second => first.entryAt ≤ second.entryAt)
      tank.burn rebasedAt
      (inputs.laps.insertionSort fun first second => first.crossedAt ≤ second.crossedAt) (0, 0)

/-- What the bounds of the fuel stand off from the level. -/
def marginL (tank : Tank) (substituted : Nat) : ℚ :=
  tank.rebase.confidence.uncertaintyL +
    substituted * orElse tank.burn.sd (tank.burn.mean.getD 0 / 4)

/-- A reading, and what has been burned since. -/
structure Metered (rt : Runtime) (inputs : RaceInputs) (tank : Tank) (reading used : ℚ)
    (substituted : Nat) : Prop where
  level : tank.rebase.levelL = some reading
  burned : ∃ rebasedAt, tank.rebase.at_ = some rebasedAt ∧
    burnedOf rt inputs tank rebasedAt = .ok (used, substituted)

/-- The bounds hold whatever the level and the burn really are. -/
structure Encloses (plan : PlanFacts) (fuel : ℚ × ℚ × ℚ) (slow fast : ℚ)
    (projection : Projection) : Prop where
  level : fuel.2.1 ≤ fuel.1 ∧ fuel.1 ≤ fuel.2.2
  laps : ∃ lapsLo lapsHi, projection.lapsLo = some lapsLo ∧ projection.lapsHi = some lapsHi ∧
    ∀ actual burn, fuel.2.1 ≤ actual → actual ≤ fuel.2.2 → slow ≤ burn → burn ≤ fast →
      lapsLo ≤ max (actual - plan.unusableL) 0 / burn ∧
        max (actual - plan.unusableL) 0 / burn ≤ lapsHi

/-- No bound that is zero is read as missing to any effect. -/
structure NoneSwapped (plan : PlanFacts) (tank : Tank) (reading used : ℚ) (substituted : Nat) :
    Prop where
  lo : reading - used = marginL tank substituted → reading - used ≤ plan.unusableL
  hi : reading - used = -marginL tank substituted → 0 ≤ plan.unusableL

section Quotients

variable {slow fast lo hi litres : ℚ}

/-- A quotient below every quotient of a box is below the one at its corner. -/
theorem below_iff (positive : 0 < slow) (ordered : slow ≤ fast) (inside : lo ≤ hi) (least : ℚ) :
    (∀ actual burn, lo ≤ actual → actual ≤ hi → slow ≤ burn → burn ≤ fast →
      litres / fast ≤ max (actual - least) 0 / burn) ↔ litres ≤ max (lo - least) 0 := by
  have fastPositive : 0 < fast := by linarith
  constructor
  · intro every
    have corner := every lo fast le_rfl inside ordered le_rfl
    exact (div_le_div_iff_of_pos_right fastPositive).mp corner
  · intro bound actual burn above _ slower faster
    have more : litres ≤ max (actual - least) 0 :=
      bound.trans (max_le_max (by linarith) le_rfl)
    exact div_le_div₀ (le_max_right _ _) more (by linarith) faster

/-- A quotient above every quotient of a box is above the one at its other corner. -/
theorem above_iff (positive : 0 < slow) (ordered : slow ≤ fast) (inside : lo ≤ hi) (least : ℚ) :
    (∀ actual burn, lo ≤ actual → actual ≤ hi → slow ≤ burn → burn ≤ fast →
      max (actual - least) 0 / burn ≤ litres / slow) ↔ max (hi - least) 0 ≤ litres := by
  constructor
  · intro every
    have corner := every hi slow inside le_rfl le_rfl ordered
    exact (div_le_div_iff_of_pos_right positive).mp corner
  · intro bound actual burn _ below slower faster
    have less : max (actual - least) 0 ≤ litres :=
      (max_le_max (by linarith) le_rfl).trans bound
    have enough : 0 ≤ litres := (le_max_right _ _).trans less
    exact div_le_div₀ enough less positive slower

end Quotients

/-- The lower bound that is used is no higher than the lower bound. -/
theorem usedLo_iff (unusable : ℚ) {level lo : ℚ} (below : lo < level) :
    max (orElse (some lo) level - unusable) 0 ≤ max (lo - unusable) 0 ↔
      (lo = 0 → level ≤ unusable) := by
  by_cases zero : lo = 0
  · have used : orElse (some lo) level = level := if_pos zero
    rw [used, zero]
    constructor
    · intro bound _
      by_contra dry
      rcases max_le_iff.mp bound with ⟨reached, -⟩
      rcases le_max_iff.mp reached with short | short <;> linarith
    · intro dry
      rw [max_eq_right (by linarith [dry rfl])]
      exact le_max_right _ _
  · have used : orElse (some lo) level = lo := if_neg zero
    rw [used]
    simp [zero]

/-- The upper bound that is used is no lower than the upper bound. -/
theorem usedHi_iff (unusable : ℚ) {level hi : ℚ} (above : level < hi) :
    max (hi - unusable) 0 ≤ max (orElse (some hi) level - unusable) 0 ↔
      (hi = 0 → 0 ≤ unusable) := by
  by_cases zero : hi = 0
  · have used : orElse (some hi) level = level := if_pos zero
    rw [used, zero]
    constructor
    · intro bound _
      by_contra negative
      rcases le_max_iff.mp (max_le_iff.mp bound).1 with short | short <;> linarith
    · intro enough
      rw [max_eq_right (by linarith [enough rfl])]
      exact le_max_right _ _
  · have used : orElse (some hi) level = hi := if_neg zero
    rw [used]
    simp [zero]

section Tanks

variable {rt : Runtime} {inputs : RaceInputs} {policy : StrategyPolicy} {tank : Tank}

theorem fmean_nonneg {values : List ℚ} (every : ∀ value ∈ values, 0 ≤ value) : 0 ≤ fmean values :=
  div_nonneg (List.sum_nonneg every) (Nat.cast_nonneg _)

/-- The mean of the clean laps' burn is not negative, nor is its deviation. -/
theorem burnOf_nonneg (policy : StrategyPolicy) (deviation : ∀ values, 0 ≤ rt.stdev values)
    {clean : List LapFact}
    (fine : ∀ lap ∈ clean, measured lap = true) :
    0 ≤ (burnOf rt clean policy).mean.getD 0 ∧ ∀ sd, (burnOf rt clean policy).sd = some sd → 0 ≤ sd := by
  unfold burnOf
  dsimp only
  split
  · exact ⟨le_rfl, fun sd found => nomatch found⟩
  · constructor
    · apply fmean_nonneg
      intro value member
      obtain ⟨lap, inside, used⟩ := List.mem_filterMap.mp member
      have positive := measured_burned (fine lap (List.mem_of_mem_drop inside))
      rw [used] at positive
      have some : 0 < value := by simpa using positive
      exact some.le
    · intro sd found
      split at found
      · cases found
        exact deviation _
      · cases found

theorem rebaseAfter_known (stints : List StintFact) (plan : Option PlanFacts)
    (now entryAt exitAt : ℚ) :
    (rebaseAfter stints plan now entryAt exitAt).levelL = none ∨
      (rebaseAfter stints plan now entryAt exitAt).confidence ≠ .none := by
  unfold rebaseAfter
  dsimp only
  split
  · split <;> simp
  · split
    · split <;> simp
    · split
      · simp
      · split <;> simp

/-- Every re-base with a level says where it came from. -/
theorem rebaseOf_known (stints : List StintFact) (stops : List StopFact)
    (plan : Option PlanFacts) (sessionStarted now : ℚ) :
    (rebaseOf stints stops plan sessionStarted now).levelL = none ∨
      (rebaseOf stints stops plan sessionStarted now).confidence ≠ .none := by
  unfold rebaseOf
  dsimp only
  split
  · exact rebaseAfter_known _ _ _ _ _
  · split
    · simp
    · split <;> simp

theorem uncertaintyL_pos {confidence : Confidence} (known : confidence ≠ .none) :
    0 < confidence.uncertaintyL := by
  cases confidence with
  | none => exact absurd rfl known
  | keyOn => norm_num [Confidence.uncertaintyL]
  | sessionStart => norm_num [Confidence.uncertaintyL]
  | moving => norm_num [Confidence.uncertaintyL]
  | plan => norm_num [Confidence.uncertaintyL]

/-- What a tank that was worked out is made of. -/
theorem tankOf_ok (filled : tankOf rt inputs policy = .ok tank) :
    ∃ clean, (∀ lap ∈ clean, measured lap = true) ∧ tank.burn = burnOf rt clean policy ∧
      (tank.rebase.levelL = none ∨ tank.rebase.confidence ≠ .none) ∧
      fuelRemaining rt tank.rebase
        (inputs.laps.insertionSort fun first second => first.crossedAt ≤ second.crossedAt)
        (inputs.stops.insertionSort fun first second => first.entryAt ≤ second.entryAt)
        tank.burn = .ok tank.fuel := by
  obtain ⟨clean, done, rest⟩ := Attempt.bind_ok.mp filled
  obtain ⟨fuel, estimated, result⟩ := Attempt.bind_ok.mp rest
  cases result
  exact ⟨clean, cleanLaps_measured done, rfl, rebaseOf_known _ _ _ _ _, estimated⟩

/-- The fuel is what was read less what was burned, give or take the margin. -/
theorem fuel_metered {fuel : ℚ × ℚ × ℚ} (filled : tankOf rt inputs policy = .ok tank)
    (estimated : tank.fuel = some fuel) :
    ∃ reading used substituted, Metered rt inputs tank reading used substituted ∧
      fuel = (reading - used, reading - used - marginL tank substituted,
        reading - used + marginL tank substituted) := by
  obtain ⟨_, -, -, -, remaining⟩ := tankOf_ok filled
  rw [estimated] at remaining
  unfold fuelRemaining at remaining
  cases level : tank.rebase.levelL with
  | none =>
    rw [level] at remaining
    cases remaining
  | some reading =>
    cases since : tank.rebase.at_ with
    | none =>
      rw [level, since] at remaining
      cases remaining
    | some rebasedAt =>
      rw [level, since] at remaining
      dsimp only at remaining
      by_cases moving : tank.rebase.confidence = .moving
      · rw [if_pos moving] at remaining
        have burned : burnedOf rt inputs tank rebasedAt = .ok (0, 0) := if_pos moving
        cases remaining
        exact ⟨reading, 0, 0, ⟨level, rebasedAt, since, burned⟩, by simp [marginL]⟩
      · rw [if_neg moving] at remaining
        obtain ⟨⟨used, substituted⟩, counted, result⟩ := Attempt.bind_ok.mp remaining
        have burned : burnedOf rt inputs tank rebasedAt = .ok (used, substituted) := by
          rw [burnedOf, if_neg moving]
          exact counted
        cases result
        exact ⟨reading, used, substituted, ⟨level, rebasedAt, since, burned⟩, rfl⟩

/-- The margin of a level is positive. -/
theorem marginL_pos (deviation : ∀ values, 0 ≤ rt.stdev values) {reading used : ℚ}
    {substituted : Nat} (filled : tankOf rt inputs policy = .ok tank)
    (metered : Metered rt inputs tank reading used substituted) : 0 < marginL tank substituted := by
  obtain ⟨clean, fine, burn, known, -⟩ := tankOf_ok filled
  have uncertain : 0 < tank.rebase.confidence.uncertaintyL := by
    apply uncertaintyL_pos
    rcases known with missing | known
    · rw [metered.level] at missing
      cases missing
    · exact known
  obtain ⟨mean, sd⟩ := burnOf_nonneg policy deviation fine
  rw [← burn] at mean sd
  have each : 0 ≤ orElse tank.burn.sd (tank.burn.mean.getD 0 / 4) := by
    unfold orElse
    split
    · split
      · linarith
      · exact sd _ ‹_›
    · linarith
  have substitutes : 0 ≤ substituted * orElse tank.burn.sd (tank.burn.mean.getD 0 / 4) :=
    mul_nonneg (Nat.cast_nonneg _) each
  unfold marginL
  linarith

/-- A projection carries the laps to dry on both bounds. -/
theorem project_dry (plan : Option PlanFacts) (lapCount : Int) (fuel : Option (ℚ × ℚ × ℚ))
    (burn : Burn) (now : ℚ) :
    (project plan lapCount fuel burn now).lapsLo = (lapsToDry plan fuel burn).1 ∧
      (project plan lapCount fuel burn now).lapsHi = (lapsToDry plan fuel burn).2 := by
  unfold project
  dsimp only
  split
  · exact ⟨rfl, rfl⟩
  · exact ⟨rfl, rfl⟩

theorem truthy_of_ne {number : ℚ} (some : number ≠ 0) : truthy (.some number) = .some number := by
  simp [truthy, some]

/-- The laps to dry where all is known. -/
theorem lapsToDry_of {plan : PlanFacts} {burn : Burn} {level lo hi mean slow fast : ℚ}
    (burnt : burn.mean = some mean) (slower : burn.lo = some slow) (faster : burn.hi = some fast)
    (positive : 0 < mean) (least : 0 < slow) (ordered : slow ≤ fast) :
    lapsToDry (some plan) (some (level, lo, hi)) burn =
      (some (max (orElse (some lo) level - plan.unusableL) 0 / fast),
        some (max (orElse (some hi) level - plan.unusableL) 0 / slow)) := by
  have most : 0 < fast := least.trans_le ordered
  simp only [lapsToDry, burnt, slower, faster, truthy_of_ne positive.ne', truthy_of_ne least.ne',
    truthy_of_ne most.ne', Option.map_some, PlanFacts.unusableL]

end Tanks

/-- The bounds of the fuel hold always. The laps to dry hold for every level and burn within
the bounds exactly when no bound of the fuel is swapped for the level: the reading less the
burn since is not just the margin, unless the engine reaches none of it, nor just below zero
by the margin, unless some of the tank is out of reach. -/
theorem encloses_iff (rt : Runtime) (inputs : RaceInputs) (policy : StrategyPolicy) (tank : Tank)
    (fuel : ℚ × ℚ × ℚ) (deviation : ∀ values, 0 ≤ rt.stdev values)
    (filled : tankOf rt inputs policy = .ok tank) (estimated : tank.fuel = some fuel) :
    (fuel.2.1 ≤ fuel.1 ∧ fuel.1 ≤ fuel.2.2) ∧
      ∃ reading used substituted, Metered rt inputs tank reading used substituted ∧
        ∀ plan projection mean slow fast, inputs.plan = some plan →
          projectionOf rt inputs policy = .ok projection →
          tank.burn.mean = some mean → 0 < mean →
          tank.burn.lo = some slow → tank.burn.hi = some fast → 0 < slow → slow ≤ fast →
          (Encloses plan fuel slow fast projection ↔
            NoneSwapped plan tank reading used substituted) := by
  obtain ⟨reading, used, substituted, metered, parts⟩ := fuel_metered filled estimated
  have margin := marginL_pos deviation filled metered
  subst parts
  have between : reading - used - marginL tank substituted ≤ reading - used ∧
      reading - used ≤ reading - used + marginL tank substituted := by
    constructor <;> linarith
  refine ⟨between, reading, used, substituted, metered, ?_⟩
  intro plan projection mean slow fast planned projected burnt positive slower faster least ordered
  rw [projectionOf, filled] at projected
  have same : project inputs.plan inputs.laps.length tank.fuel tank.burn inputs.now = projection :=
    Except.ok.inj projected
  obtain ⟨lapsLo, lapsHi⟩ := project_dry inputs.plan inputs.laps.length tank.fuel tank.burn
    inputs.now
  rw [same, planned, estimated, lapsToDry_of burnt slower faster positive least ordered]
    at lapsLo lapsHi
  have inside : reading - used - marginL tank substituted ≤
      reading - used + marginL tank substituted := between.1.trans between.2
  have lower := (below_iff least ordered inside plan.unusableL).trans
    (usedLo_iff plan.unusableL (sub_lt_self (reading - used) margin))
  have upper := (above_iff least ordered inside plan.unusableL).trans
    (usedHi_iff plan.unusableL (lt_add_of_pos_right (reading - used) margin))
  constructor
  · rintro ⟨-, lo, hi, isLo, isHi, every⟩
    cases lapsLo.symm.trans isLo
    cases lapsHi.symm.trans isHi
    constructor
    · intro empty
      apply lower.mp
      · intro actual burn above below slower faster
        exact (every actual burn above below slower faster).1
      · linarith
    · intro negative
      apply upper.mp
      · intro actual burn above below slower faster
        exact (every actual burn above below slower faster).2
      · linarith
  · intro kept
    have lowest := lower.mpr fun zero => kept.lo (by linarith)
    have highest := upper.mpr fun zero => kept.hi (by linarith)
    refine ⟨between, _, _, lapsLo, lapsHi, ?_⟩
    intro actual burn above below slower faster
    exact ⟨lowest actual burn above below slower faster, highest actual burn above below slower faster⟩

/-- A car that does two litres a lap and was last read on the track. -/
def lastRead (level : ℚ) : RaceInputs :=
  { sprint (sprintPlan 4 (by decide)) with stints := [⟨1, "first", 0, none, none, some level⟩] }

theorem encloses_lastRead : ∃ tank projection,
    tankOf plainRuntime (lastRead 3) defaultPolicy = .ok tank ∧
      projectionOf plainRuntime (lastRead 3) defaultPolicy = .ok projection ∧
      Encloses (sprintPlan 4 (by decide)) (3, 1, 5) 2 2 projection := by
  have parts : ((tankOf plainRuntime (lastRead 3) defaultPolicy).toOption.map fun tank =>
      (tank.fuel, tank.burn.mean, tank.burn.lo, tank.burn.hi)) =
      some (some (3, 1, 5), some 2, some 2, some 2) := by decide +kernel
  have based : ((tankOf plainRuntime (lastRead 3) defaultPolicy).toOption.map Tank.rebase) =
      some ⟨some 3, some 110, .moving, none⟩ := by decide +kernel
  have made : ((projectionOf plainRuntime (lastRead 3) defaultPolicy).toOption.map fun _ => ()) =
      some () := by decide +kernel
  obtain ⟨tank, filled, values⟩ := Option.map_eq_some_iff.mp parts
  obtain ⟨projection, projected, -⟩ := Option.map_eq_some_iff.mp made
  simp only [Prod.mk.injEq] at values
  obtain ⟨fuel, mean, slow, fast⟩ := values
  rw [filled] at based
  have rebase : tank.rebase = ⟨some 3, some 110, .moving, none⟩ := Option.some.inj based
  have level : tank.rebase.levelL = some 3 := by rw [rebase]
  have moving : tank.rebase.confidence = .moving := by rw [rebase]
  refine ⟨tank, projection, Attempt.ok_of_toOption filled, Attempt.ok_of_toOption projected, ?_⟩
  obtain ⟨-, reading, used, substituted, metered, exactly⟩ :=
    encloses_iff plainRuntime (lastRead 3) defaultPolicy tank (3, 1, 5) (fun _ => le_rfl)
      (Attempt.ok_of_toOption filled) fuel
  apply (exactly _ projection 2 2 2 rfl (Attempt.ok_of_toOption projected) mean (by norm_num) slow
    fast (by norm_num) le_rfl).mpr
  have read : reading = 3 := Option.some.inj (metered.level.symm.trans level)
  obtain ⟨rebasedAt, -, burned⟩ := metered.burned
  rw [burnedOf, if_pos moving] at burned
  cases burned
  have margin : marginL tank 0 = 2 := by simp [marginL, moving, Confidence.uncertaintyL]
  constructor
  · intro zero
    rw [read, margin] at zero
    norm_num at zero
  · intro zero
    rw [read, margin] at zero
    norm_num at zero

/-- Two litres read, give or take two: an empty tank does no lap, and the pessimistic laps
to dry are one. -/
theorem encloses_drained : ∃ tank projection,
    tankOf plainRuntime (lastRead 2) defaultPolicy = .ok tank ∧
      projectionOf plainRuntime (lastRead 2) defaultPolicy = .ok projection ∧
      tank.fuel = some (2, 0, 4) ∧ tank.burn.mean = some 2 ∧ tank.burn.lo = some 2 ∧
      tank.burn.hi = some 2 ∧ projection.lapsLo = some 1 ∧
      ¬ Encloses (sprintPlan 4 (by decide)) (2, 0, 4) 2 2 projection := by
  have parts : ((tankOf plainRuntime (lastRead 2) defaultPolicy).toOption.map fun tank =>
      (tank.fuel, tank.burn.mean, tank.burn.lo, tank.burn.hi)) =
      some (some (2, 0, 4), some 2, some 2, some 2) := by decide +kernel
  have made : ((projectionOf plainRuntime (lastRead 2) defaultPolicy).toOption.map
      Projection.lapsLo) = some (some 1) := by decide +kernel
  obtain ⟨tank, filled, values⟩ := Option.map_eq_some_iff.mp parts
  obtain ⟨projection, projected, laps⟩ := Option.map_eq_some_iff.mp made
  simp only [Prod.mk.injEq] at values
  obtain ⟨fuel, mean, slow, fast⟩ := values
  refine ⟨tank, projection, Attempt.ok_of_toOption filled, Attempt.ok_of_toOption projected, fuel,
    mean, slow, fast, laps, ?_⟩
  rintro ⟨-, lapsLo, lapsHi, isLo, -, every⟩
  cases laps.symm.trans isLo
  have dry := (every 0 2 le_rfl (by norm_num) le_rfl le_rfl).1
  have least : (sprintPlan 4 (by decide)).unusableL = 0 := by decide +kernel
  rw [least] at dry
  norm_num at dry

end OpenLaps.Strategy

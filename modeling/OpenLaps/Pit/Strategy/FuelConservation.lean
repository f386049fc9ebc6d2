import OpenLaps.Pit.Strategy.Views

/- Whether consecutive laps account for all the fuel that the counter recorded. Each lap
takes the first and the last sample of its own window, so what the counter rises between
the last sample before a crossing and the first one after it belongs to no lap. -/
namespace OpenLaps.Strategy

open Readings (Reading)

/-- Laps of one vehicle, each measured clean and beginning where the one before it ended. -/
structure CleanRun (sql : Sql) (samples : List ChannelSample) (vehicleId : String)
    (laps : List LapView) : Prop where
  vehicle : ∀ lap ∈ laps, lap.vehicleId = vehicleId
  clean : ∀ lap ∈ laps, (vLapFuel sql samples lap).measurementStatus = "clean"
  consecutive : laps.IsChain fun earlier later => later.startsAt sql = some earlier.crossedAt

/-- The counter samples from the start of the first lap to the end of the last one. -/
def spanSamples (sql : Sql) (samples : List ChannelSample) (vehicleId : String)
    (laps : List LapView) : List (Reading ℚ ℚ) :=
  match laps.head?.bind (LapView.startsAt sql), laps.getLast? with
  | some start, some last => Readings.within (fuelCounter samples vehicleId) start last.crossedAt
  | _, _ => []

/-- What the strategy adds up, in litres. -/
def usedL (sql : Sql) (samples : List ChannelSample) (laps : List LapView) : ℚ :=
  (laps.map fun lap => (vLapFuel sql samples lap).fuelUsedL.getD 0).sum

/-- What the counter recorded over a span, in litres. -/
def recordedL (span : List (Reading ℚ ℚ)) : ℚ :=
  ((span.getLast?.map Reading.value).getD 0 - (span.head?.map Reading.value).getD 0) / 1000

/-- The counter does not rise over a crossing: the last sample up to it and the first one
from it on have the same value. -/
def LevelAt (counter : List (Reading ℚ ℚ)) (crossedAt : ℚ) : Prop :=
  (Readings.latest counter crossedAt).map Reading.value =
    (Readings.earliest counter crossedAt).map Reading.value

instance (counter : List (Reading ℚ ℚ)) (crossedAt : ℚ) : Decidable (LevelAt counter crossedAt) :=
  inferInstanceAs (Decidable (_ = _))

theorem sorted_fuelCounter (samples : List ChannelSample) (vehicleId : String) :
    Readings.Sorted (fuelCounter samples vehicleId) :=
  List.pairwise_insertionSort _ _

/-- The counter's value before a time, and the one after it. -/
def before (counter : List (Reading ℚ ℚ)) (time : ℚ) : ℚ :=
  ((Readings.latest counter time).map Reading.value).getD 0

def after (counter : List (Reading ℚ ℚ)) (time : ℚ) : ℚ :=
  ((Readings.earliest counter time).map Reading.value).getD 0

/-- A clean measurement has samples, and takes the last less the first. -/
theorem lapFuel_clean {window : List (Reading ℚ ℚ)}
    (clean : (lapFuel window).measurementStatus = "clean") :
    window ≠ [] ∧ (lapFuel window).fuelUsedL =
      some (((window.getLast?.map Reading.value).getD 0 -
        (window.head?.map Reading.value).getD 0) / 1000) := by
  have nonempty : window ≠ [] := by
    intro empty
    rw [empty] at clean
    exact absurd clean (by decide)
  have steady : counterReset window ≠ true := by
    intro reset
    unfold lapFuel at clean
    dsimp only at clean
    rw [if_neg nonempty, if_pos reset] at clean
    exact absurd clean (by decide)
  refine ⟨nonempty, ?_⟩
  unfold lapFuel
  dsimp only
  rw [if_neg (not_or.mpr ⟨nonempty, steady⟩), List.head?_eq_some_head nonempty,
    List.getLast?_eq_some_getLast nonempty]
  rfl

/-- A window with samples burns the counter's value before its end less that after its
start. -/
theorem recorded_within {counter : List (Reading ℚ ℚ)} (sorted : Readings.Sorted counter)
    {start finish : ℚ} (nonempty : Readings.within counter start finish ≠ []) :
    recordedL (Readings.within counter start finish) =
      (before counter finish - after counter start) / 1000 := by
  unfold recordedL before after
  rw [Readings.head?_within sorted nonempty, Readings.getLast?_within sorted nonempty]

/-- A clean lap has a window with samples, and burns what its window recorded. -/
theorem vLapFuel_clean {sql : Sql} {samples : List ChannelSample} {lap : LapView}
    (clean : (vLapFuel sql samples lap).measurementStatus = "clean") :
    ∃ start, lap.startsAt sql = some start ∧
      Readings.within (fuelCounter samples lap.vehicleId) start lap.crossedAt ≠ [] ∧
      (vLapFuel sql samples lap).fuelUsedL =
        some ((before (fuelCounter samples lap.vehicleId) lap.crossedAt -
          after (fuelCounter samples lap.vehicleId) start) / 1000) := by
  obtain ⟨nonempty, used⟩ := lapFuel_clean clean
  unfold vLapFuel
  unfold counterSamples at nonempty used ⊢
  cases timed : lap.startsAt sql with
  | none =>
    rw [timed] at nonempty
    exact absurd rfl nonempty
  | some start =>
    rw [timed] at nonempty used
    refine ⟨start, rfl, nonempty, used.trans ?_⟩
    exact congrArg some (recorded_within (sorted_fuelCounter samples lap.vehicleId) nonempty)

theorem CleanRun.tail {sql : Sql} {samples : List ChannelSample} {vehicleId : String}
    {first next : LapView} {rest : List LapView}
    (run : CleanRun sql samples vehicleId (first :: next :: rest)) :
    CleanRun sql samples vehicleId (next :: rest) ∧ next.startsAt sql = some first.crossedAt :=
  ⟨⟨fun lap member => run.vehicle lap (List.mem_cons_of_mem first member),
    fun lap member => run.clean lap (List.mem_cons_of_mem first member),
    (List.isChain_cons_cons.mp run.consecutive).2⟩,
    (List.isChain_cons_cons.mp run.consecutive).1⟩

/-- A lap of a clean run: where its window begins, and that it has samples. -/
theorem CleanRun.window {sql : Sql} {samples : List ChannelSample} {vehicleId : String}
    {laps : List LapView} (run : CleanRun sql samples vehicleId laps) {lap : LapView}
    (member : lap ∈ laps) {start : ℚ} (known : lap.startsAt sql = some start) :
    Readings.within (fuelCounter samples vehicleId) start lap.crossedAt ≠ [] ∧
      (vLapFuel sql samples lap).fuelUsedL =
        some ((before (fuelCounter samples vehicleId) lap.crossedAt -
          after (fuelCounter samples vehicleId) start) / 1000) := by
  obtain ⟨other, same, nonempty, used⟩ := vLapFuel_clean (run.clean lap member)
  rw [known] at same
  cases same
  rw [run.vehicle lap member] at nonempty used
  exact ⟨nonempty, used⟩

/-- A window with samples is not turned round. -/
theorem le_of_within {counter : List (Reading ℚ ℚ)} {start finish : ℚ}
    (nonempty : Readings.within counter start finish ≠ []) : start ≤ finish := by
  obtain ⟨reading, member⟩ := List.exists_mem_of_ne_nil _ nonempty
  have bounds := of_decide_eq_true (List.mem_filter.mp member).2
  exact bounds.1.trans bounds.2

/-- The laps of a clean run end no later than the last one. -/
theorem CleanRun.until_last {sql : Sql} {samples : List ChannelSample} {vehicleId : String}
    {first : LapView} {rest : List LapView}
    (run : CleanRun sql samples vehicleId (first :: rest)) :
    first.crossedAt ≤ ((first :: rest).getLast (List.cons_ne_nil _ _)).crossedAt := by
  induction rest generalizing first with
  | nil => exact le_refl _
  | cons next rest ih =>
    obtain ⟨later, begins⟩ := run.tail
    have forward := le_of_within (later.window List.mem_cons_self begins).1
    rw [List.getLast_cons (List.cons_ne_nil _ _)]
    exact forward.trans (ih later)

/-- What the laps add up to, and what the counter rises over the crossings between them,
is what the counter recorded. -/
theorem CleanRun.accounted {sql : Sql} {samples : List ChannelSample} {vehicleId : String}
    {first : LapView} {rest : List LapView} {start : ℚ}
    (run : CleanRun sql samples vehicleId (first :: rest)) (known : first.startsAt sql = some start) :
    usedL sql samples (first :: rest) + ((first :: rest).dropLast.map fun lap =>
        after (fuelCounter samples vehicleId) lap.crossedAt -
          before (fuelCounter samples vehicleId) lap.crossedAt).sum / 1000 =
      (before (fuelCounter samples vehicleId)
          ((first :: rest).getLast (List.cons_ne_nil _ _)).crossedAt -
        after (fuelCounter samples vehicleId) start) / 1000 := by
  induction rest generalizing first start with
  | nil =>
    have used := (run.window List.mem_cons_self known).2
    simp [usedL, used]
  | cons next rest ih =>
    obtain ⟨later, begins⟩ := run.tail
    have used := (run.window List.mem_cons_self known).2
    have total := ih later begins
    have here : usedL sql samples (first :: next :: rest) =
        (before (fuelCounter samples vehicleId) first.crossedAt -
          after (fuelCounter samples vehicleId) start) / 1000 +
          usedL sql samples (next :: rest) := by
      show (vLapFuel sql samples first).fuelUsedL.getD 0 + _ = _
      rw [used]
      rfl
    rw [here, List.dropLast_cons_cons, List.map_cons, List.sum_cons,
      List.getLast_cons (List.cons_ne_nil _ _)]
    linarith

/-- The counter samples next to a crossing inside a clean run lie in its span. -/
theorem CleanRun.beside {sql : Sql} {samples : List ChannelSample} {vehicleId : String}
    {first : LapView} {rest : List LapView} {start : ℚ}
    (run : CleanRun sql samples vehicleId (first :: rest)) (known : first.startsAt sql = some start) :
    ∀ lap ∈ (first :: rest).dropLast, ∃ previous next,
      Readings.latest (fuelCounter samples vehicleId) lap.crossedAt = some previous ∧
      Readings.earliest (fuelCounter samples vehicleId) lap.crossedAt = some next ∧
      previous ∈ fuelCounter samples vehicleId ∧ next ∈ fuelCounter samples vehicleId ∧
      start ≤ previous.time ∧ previous.time ≤ lap.crossedAt ∧ lap.crossedAt ≤ next.time ∧
      next.time ≤ ((first :: rest).getLast (List.cons_ne_nil _ _)).crossedAt := by
  have sorted := sorted_fuelCounter samples vehicleId
  induction rest generalizing first start with
  | nil =>
    intro lap member
    cases member
  | cons second rest ih =>
    obtain ⟨later, begins⟩ := run.tail
    have nonempty := (run.window List.mem_cons_self known).1
    have nonempty' := (later.window List.mem_cons_self begins).1
    intro lap member
    rw [List.getLast_cons (List.cons_ne_nil _ _)]
    rw [List.dropLast_cons_cons] at member
    rcases List.mem_cons.mp member with rfl | inner
    · have last := Readings.getLast?_within sorted nonempty
      have head := Readings.head?_within sorted nonempty'
      rw [List.getLast?_eq_some_getLast nonempty] at last
      rw [List.head?_eq_some_head nonempty'] at head
      obtain ⟨listed, inside⟩ := List.mem_filter.mp (List.getLast_mem nonempty)
      obtain ⟨listed', inside'⟩ := List.mem_filter.mp (List.head_mem nonempty')
      have bounds := of_decide_eq_true inside
      have bounds' := of_decide_eq_true inside'
      exact ⟨_, _, last.symm, head.symm, listed, listed', bounds.1, bounds.2, bounds'.1,
        bounds'.2.trans later.until_last⟩
    · obtain ⟨previous, next, found, found', listed, listed', from_start, rest_bounds⟩ :=
        ih later begins lap inner
      exact ⟨previous, next, found, found', listed, listed',
        (le_of_within nonempty).trans from_start, rest_bounds⟩

/-- In a counter that does not fall, a later sample is no smaller. -/
theorem value_le_of_time_lt {readings : List (Reading ℚ ℚ)} (sorted : Readings.Sorted readings)
    (rising : readings.Pairwise fun first second => first.value ≤ second.value)
    {first second : Reading ℚ ℚ} (member : first ∈ readings) (member' : second ∈ readings)
    (earlier : first.time < second.time) : first.value ≤ second.value := by
  induction readings with
  | nil => cases member
  | cons reading rest ih =>
    obtain ⟨times, sorted'⟩ := List.pairwise_cons.mp sorted
    obtain ⟨values, rising'⟩ := List.pairwise_cons.mp rising
    rcases List.mem_cons.mp member with rfl | inner <;>
      rcases List.mem_cons.mp member' with rfl | inner'
    · exact absurd earlier (lt_irrefl _)
    · exact values second inner'
    · exact absurd (times first inner) (not_le.mpr earlier)
    · exact ih sorted' rising' inner inner'

/-- No two samples at a time have different values. -/
def SingleAt (counter : List (Reading ℚ ℚ)) (crossedAt : ℚ) : Prop :=
  ∀ first ∈ counter, ∀ second ∈ counter, first.time = crossedAt → second.time = crossedAt →
    first.value = second.value

section Run

variable {sql : Sql} {samples : List ChannelSample} {vehicleId : String} {first : LapView}
  {rest : List LapView} {start : ℚ}

theorem spanSamples_cons (samples : List ChannelSample) (vehicleId : String)
    (rest : List LapView) (known : first.startsAt sql = some start) :
    spanSamples sql samples vehicleId (first :: rest) =
      Readings.within (fuelCounter samples vehicleId) start
        ((first :: rest).getLast (List.cons_ne_nil _ _)).crossedAt := by
  unfold spanSamples
  rw [List.getLast?_eq_some_getLast (List.cons_ne_nil first rest), List.head?_cons,
    Option.bind_some, known]

theorem CleanRun.recorded (run : CleanRun sql samples vehicleId (first :: rest))
    (known : first.startsAt sql = some start) :
    recordedL (spanSamples sql samples vehicleId (first :: rest)) =
      (before (fuelCounter samples vehicleId)
          ((first :: rest).getLast (List.cons_ne_nil _ _)).crossedAt -
        after (fuelCounter samples vehicleId) start) / 1000 := by
  rw [spanSamples_cons samples vehicleId rest known]
  apply recorded_within (sorted_fuelCounter samples vehicleId)
  obtain ⟨reading, member⟩ :=
    List.exists_mem_of_ne_nil _ (run.window List.mem_cons_self known).1
  obtain ⟨listed, inside⟩ := List.mem_filter.mp member
  have bounds := of_decide_eq_true inside
  apply List.ne_nil_of_mem
  exact List.mem_filter.mpr ⟨listed, decide_eq_true ⟨bounds.1, bounds.2.trans run.until_last⟩⟩

/-- Nothing is lost when the gaps over the crossings add up to nothing. -/
theorem CleanRun.conserved_iff (run : CleanRun sql samples vehicleId (first :: rest))
    (known : first.startsAt sql = some start) :
    usedL sql samples (first :: rest) =
        recordedL (spanSamples sql samples vehicleId (first :: rest)) ↔
      ((first :: rest).dropLast.map fun lap =>
        after (fuelCounter samples vehicleId) lap.crossedAt -
          before (fuelCounter samples vehicleId) lap.crossedAt).sum = 0 := by
  have total := run.accounted known
  rw [run.recorded known, ← total]
  constructor
  · intro same
    linarith
  · intro zero
    rw [zero]
    linarith

/-- A crossing is level when the gap over it is zero. -/
theorem CleanRun.levelAt_iff (run : CleanRun sql samples vehicleId (first :: rest))
    (known : first.startsAt sql = some start) {lap : LapView}
    (inner : lap ∈ (first :: rest).dropLast) :
    LevelAt (fuelCounter samples vehicleId) lap.crossedAt ↔
      after (fuelCounter samples vehicleId) lap.crossedAt -
        before (fuelCounter samples vehicleId) lap.crossedAt = 0 := by
  obtain ⟨previous, next, found, found', _⟩ := run.beside known lap inner
  unfold LevelAt after before
  rw [found, found']
  show some previous.value = some next.value ↔ next.value - previous.value = 0
  rw [Option.some_inj, sub_eq_zero, eq_comm]

/-- The counter does not fall over a crossing at which it has one value. -/
theorem CleanRun.gap_nonneg (run : CleanRun sql samples vehicleId (first :: rest))
    (known : first.startsAt sql = some start)
    (rising : (spanSamples sql samples vehicleId (first :: rest)).Pairwise
      fun earlier later => earlier.value ≤ later.value) {lap : LapView}
    (inner : lap ∈ (first :: rest).dropLast)
    (single : SingleAt (fuelCounter samples vehicleId) lap.crossedAt) :
    0 ≤ after (fuelCounter samples vehicleId) lap.crossedAt -
      before (fuelCounter samples vehicleId) lap.crossedAt := by
  obtain ⟨previous, next, found, found', listed, listed', from_start, low, high, to_last⟩ :=
    run.beside known lap inner
  rw [spanSamples_cons samples vehicleId rest known] at rising
  unfold after before
  rw [found, found']
  show 0 ≤ next.value - previous.value
  rw [sub_nonneg]
  rcases lt_or_eq_of_le (low.trans high) with apart | together
  · -- Both samples lie in the span, in this order.
    have sorted := (sorted_fuelCounter samples vehicleId).within start
      ((first :: rest).getLast (List.cons_ne_nil _ _)).crossedAt
    apply value_le_of_time_lt sorted rising _ _ apart
    · exact List.mem_filter.mpr ⟨listed,
        decide_eq_true ⟨from_start, (le_of_lt apart).trans to_last⟩⟩
    · exact List.mem_filter.mpr ⟨listed',
        decide_eq_true ⟨from_start.trans (le_of_lt apart), to_last⟩⟩
  · have here : previous.time = lap.crossedAt := le_antisymm low (high.trans together.ge)
    have here' : next.time = lap.crossedAt := together ▸ here
    exact le_of_eq (single previous listed next listed' here here')

end Run

/-- The strategy adds up what the laps burned. -/
theorem burnedSince_clean {sql : Sql} {samples : List ChannelSample} {laps : List LapView}
    (clean : ∀ lap ∈ laps, (vLapFuel sql samples lap).measurementStatus = "clean") (rt : Runtime)
    (stops : List StopFact) (burn : Burn) (rebasedAt : ℚ)
    (since : ∀ lap ∈ laps, rebasedAt < lap.crossedAt) (used : ℚ) (substituted : Nat) :
    burnedSince rt stops burn rebasedAt (laps.map (lapFact sql samples)) (used, substituted) =
      .ok (used + usedL sql samples laps, substituted) := by
  induction laps generalizing used with
  | nil =>
    show Except.ok (used, substituted) = .ok (used + 0, substituted)
    rw [add_zero]
  | cons lap rest ih =>
    have here := clean lap List.mem_cons_self
    obtain ⟨start, _, _, burned⟩ := vLapFuel_clean here
    rw [List.map_cons, burnedSince]
    have later : ¬ (lapFact sql samples lap).crossedAt ≤ rebasedAt :=
      not_le.mpr (since lap List.mem_cons_self)
    have measured : (lapFact sql samples lap).measurementStatus = "clean" := here
    rw [if_neg later, if_pos measured]
    have fuel : (lapFact sql samples lap).fuelUsedL =
        (vLapFuel sql samples lap).fuelUsedL := rfl
    rw [fuel, burned]
    dsimp only
    rw [ih (fun other member => clean other (List.mem_cons_of_mem lap member))
      (fun other member => since other (List.mem_cons_of_mem lap member))]
    have sum : usedL sql samples (lap :: rest) =
        (vLapFuel sql samples lap).fuelUsedL.getD 0 + usedL sql samples rest := rfl
    rw [sum, burned, add_assoc]
    rfl

/-- For a counter that does not fall over the span of the laps: when the counter is level
over every crossing between two laps, no fuel is lost, and only then, provided that the
counter has one value at each of these crossings. What the laps add up to is what the
strategy subtracts. -/
theorem fuel_conserved_iff (sql : Sql) (samples : List ChannelSample) (vehicleId : String)
    (laps : List LapView) (run : CleanRun sql samples vehicleId laps)
    (rising : (spanSamples sql samples vehicleId laps).Pairwise
      fun earlier later => earlier.value ≤ later.value) :
    ((∀ lap ∈ laps.dropLast, LevelAt (fuelCounter samples vehicleId) lap.crossedAt) →
        usedL sql samples laps = recordedL (spanSamples sql samples vehicleId laps)) ∧
      ((∀ lap ∈ laps.dropLast, SingleAt (fuelCounter samples vehicleId) lap.crossedAt) →
        (usedL sql samples laps = recordedL (spanSamples sql samples vehicleId laps) ↔
          ∀ lap ∈ laps.dropLast, LevelAt (fuelCounter samples vehicleId) lap.crossedAt)) ∧
      ∀ rt stops burn rebasedAt, (∀ lap ∈ laps, rebasedAt < lap.crossedAt) →
        burnedSince rt stops burn rebasedAt (laps.map (lapFact sql samples)) (0, 0) =
          .ok (usedL sql samples laps, 0) := by
  have subtracted : ∀ rt stops burn rebasedAt, (∀ lap ∈ laps, rebasedAt < lap.crossedAt) →
      burnedSince rt stops burn rebasedAt (laps.map (lapFact sql samples)) (0, 0) =
        .ok (usedL sql samples laps, 0) := by
    intro rt stops burn rebasedAt since
    rw [burnedSince_clean run.clean rt stops burn rebasedAt since, zero_add]
  cases laps with
  | nil =>
    have nothing : usedL sql samples [] =
        recordedL (spanSamples sql samples vehicleId []) := by
      show (0 : ℚ) = (0 - 0) / 1000
      norm_num
    refine ⟨fun _ => nothing, ?_, subtracted⟩
    intro _
    refine ⟨?_, fun _ => nothing⟩
    intro _ lap member
    cases member
  | cons first rest =>
    obtain ⟨start, known, _⟩ := vLapFuel_clean (run.clean first List.mem_cons_self)
    have enough : (∀ lap ∈ (first :: rest).dropLast,
        LevelAt (fuelCounter samples vehicleId) lap.crossedAt) →
        usedL sql samples (first :: rest) =
          recordedL (spanSamples sql samples vehicleId (first :: rest)) := by
      intro level
      apply (run.conserved_iff known).mpr
      apply List.sum_eq_zero
      intro gap member
      obtain ⟨lap, inner, rfl⟩ := List.mem_map.mp member
      exact (run.levelAt_iff known inner).mp (level lap inner)
    refine ⟨enough, ?_, subtracted⟩
    intro single
    refine ⟨?_, enough⟩
    intro conserved lap inner
    apply (run.levelAt_iff known inner).mpr
    have zero := (run.conserved_iff known).mp conserved
    apply (Readings.sum_eq_zero_iff _).mp zero
    · exact List.mem_map_of_mem inner
    · intro gap member
      obtain ⟨other, inside, rfl⟩ := List.mem_map.mp member
      exact run.gap_nonneg known rising inside (single other inside)

/-- Two laps of a hundred seconds, with the counter sampled as given. -/
def twoLaps (counter : List (ℚ × ℚ)) : List ChannelSample × List LapView :=
  (counter.map fun sample => ⟨sample.1, "car", "car.fuel_total_used", some sample.2, none⟩,
    [⟨"car", 1, 100, some 100, true, some "track", some 1⟩,
      ⟨"car", 2, 200, some 100, true, some "track", some 1⟩])

/-- Every crossing has a sample of its own. -/
def sampledAtCrossing : List ChannelSample × List LapView :=
  twoLaps [(10, 1000), (100, 2000), (190, 3300)]

/-- The counter rises by 300 cc from the last sample of the first lap to the first one of
the second. -/
def sampledAround : List ChannelSample × List LapView :=
  twoLaps [(10, 1000), (90, 2000), (110, 2300), (190, 3300)]

def exactSql : Sql := ⟨fun _ _ => none, id⟩

theorem fuel_conserved_sampled :
    usedL exactSql sampledAtCrossing.1 sampledAtCrossing.2 =
      recordedL (spanSamples exactSql sampledAtCrossing.1 "car" sampledAtCrossing.2) :=
  (fuel_conserved_iff exactSql sampledAtCrossing.1 "car" sampledAtCrossing.2
    ⟨by decide +kernel, by decide +kernel, by decide +kernel⟩ (by decide +kernel)).1
      (by decide +kernel)

/-- The laps burn 2 litres, and the counter recorded 2.3. -/
theorem fuel_lost_between_laps :
    CleanRun exactSql sampledAround.1 "car" sampledAround.2 ∧
      ((spanSamples exactSql sampledAround.1 "car" sampledAround.2).Pairwise
        fun earlier later => earlier.value ≤ later.value) ∧
      usedL exactSql sampledAround.1 sampledAround.2 = 2 ∧
      recordedL (spanSamples exactSql sampledAround.1 "car" sampledAround.2) = 23 / 10 :=
  ⟨⟨by decide +kernel, by decide +kernel, by decide +kernel⟩, by decide +kernel,
    by decide +kernel, by decide +kernel⟩

end OpenLaps.Strategy

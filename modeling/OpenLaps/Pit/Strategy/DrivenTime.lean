import OpenLaps.Lib.Attempt
import OpenLaps.Lib.Uncovered
import OpenLaps.Pit.Strategy.Fuel

/- The driven part of a lap: `_driven_seconds` is the length of the interval that the pit
stops leave uncovered, up to the roundings of its doubles, and the fraction of a lap that
the fuel estimate takes from it. -/
namespace OpenLaps.Strategy

open MeasureTheory Uncovered

/-- The time that a stop covers; an open one covers everything after its entry. -/
def StopFact.span (stop : StopFact) : Set ℝ :=
  match stop.exitAt with
  | some exitAt => Set.Icc (stop.entryAt : ℝ) exitAt
  | none => Set.Ici (stop.entryAt : ℝ)

/-- No two stops share more than an instant. -/
def Separate (stops : List StopFact) : Prop :=
  stops.Pairwise fun first second => AEDisjoint volume first.span second.span

/-- What a stop takes from the interval, as the loop of `_driven_seconds` has it. -/
def overlap (start finish : ℚ) (stop : StopFact) : ℚ :=
  max (min finish (stop.exitAt.getD finish) - max start stop.entryAt) 0

/-- The part of the interval outside all stops. -/
def driven (start finish : ℚ) (stops : List StopFact) : Set ℝ :=
  left (Set.Icc (start : ℝ) finish) StopFact.span stops

/-- A stop that begins when another ends, or later, shares an instant with it at most. -/
theorem aedisjoint_of_le {first second : StopFact} {exitAt : ℚ} (left : first.exitAt = some exitAt)
    (later : exitAt ≤ second.entryAt) : AEDisjoint volume first.span second.span := by
  have within : first.span ∩ second.span ⊆ {(exitAt : ℝ)} := by
    have order : (exitAt : ℝ) ≤ second.entryAt := by exact_mod_cast later
    rintro time ⟨one, two⟩
    have early : time ≤ exitAt := by
      rw [StopFact.span, left] at one
      exact one.2
    have late : (second.entryAt : ℝ) ≤ time := by
      rw [StopFact.span] at two
      split at two
      · exact two.1
      · exact two
    exact le_antisymm early (le_trans order late)
  exact measure_mono_null within (measure_singleton _)

theorem measurableSet_span (stop : StopFact) : MeasurableSet stop.span := by
  unfold StopFact.span
  split
  · exact measurableSet_Icc
  · exact measurableSet_Ici

theorem overlap_nonneg (start finish : ℚ) (stop : StopFact) : 0 ≤ overlap start finish stop :=
  le_max_right _ _

/-- The overlap that the loop computes is the length of what the stop covers. -/
theorem volume_inter_span (start finish : ℚ) (stop : StopFact) :
    volume (Set.Icc (start : ℝ) finish ∩ stop.span) =
      ENNReal.ofReal (overlap start finish stop : ℚ) := by
  have clipped (length : ℝ) : ENNReal.ofReal length = ENNReal.ofReal (max length 0) := by
    rcases le_total length 0 with none | some
    · rw [max_eq_right none, ENNReal.ofReal_of_nonpos none, ENNReal.ofReal_zero]
    · rw [max_eq_left some]
  unfold StopFact.span overlap
  cases stop.exitAt with
  | some exitAt =>
    rw [Set.Icc_inter_Icc, Real.volume_Icc, clipped]
    push_cast
    rfl
  | none =>
    have cut : Set.Icc (start : ℝ) finish ∩ Set.Ici (stop.entryAt : ℝ) =
        Set.Icc (max (start : ℝ) stop.entryAt) finish := by
      ext time
      simp only [Set.mem_inter_iff, Set.mem_Icc, Set.mem_Ici, max_le_iff]
      tauto
    rw [cut, Real.volume_Icc, clipped, Option.getD_none, min_self]
    push_cast
    rfl

theorem sum_ofReal {α : Type} (items : List α) (length : α → ℚ) (nonneg : ∀ item, 0 ≤ length item) :
    (items.map fun item => ENNReal.ofReal (length item)).sum =
      ENNReal.ofReal ((items.map length).sum : ℚ) := by
  induction items with
  | nil => simp
  | cons item rest ih =>
    have first : (0 : ℝ) ≤ length item := by exact_mod_cast nonneg item
    have others : (0 : ℝ) ≤ ((rest.map length).sum : ℚ) := by
      exact_mod_cast List.sum_nonneg (by simpa using fun item _ => nonneg item)
    rw [List.map_cons, List.sum_cons, ih, List.map_cons, List.sum_cons, Rat.cast_add,
      ENNReal.ofReal_add first others]

theorem volume_driven_ne_top (start finish : ℚ) (stops : List StopFact) :
    volume (driven start finish stops) ≠ ⊤ := by
  have within : volume (driven start finish stops) ≤ volume (Set.Icc (start : ℝ) finish) :=
    measure_mono Set.sdiff_subset
  exact ne_top_of_le_ne_top measure_Icc_lt_top.ne within

theorem length_driven_back {start finish : ℚ} (back : finish ≤ start) (stops : List StopFact) :
    volume.real (driven start finish stops) = 0 := by
  have order : (finish : ℝ) ≤ start := by exact_mod_cast back
  have empty : volume (driven start finish stops) = 0 := by
    apply measure_mono_null (Set.sdiff_subset : driven start finish stops ⊆ Set.Icc _ _)
    rw [Real.volume_Icc]
    exact ENNReal.ofReal_of_nonpos (sub_nonpos.mpr order)
  rw [Measure.real, empty, ENNReal.toReal_zero]

/-- What the stops leave uncovered is the interval less the overlaps. -/
theorem length_driven {stops : List StopFact} (separate : Separate stops) {start finish : ℚ}
    (forward : start ≤ finish) :
    volume.real (driven start finish stops) =
      ((finish - start - (stops.map (overlap start finish)).sum : ℚ) : ℝ) := by
  have total : volume (driven start finish stops) +
      (stops.map fun stop => volume (Set.Icc (start : ℝ) finish ∩ stop.span)).sum =
        volume (Set.Icc (start : ℝ) finish) :=
    measure_left_add volume _ _ stops measurableSet_span separate
  simp only [volume_inter_span] at total
  rw [sum_ofReal stops (overlap start finish) (overlap_nonneg start finish), Real.volume_Icc]
    at total
  have order : (0 : ℝ) ≤ finish - start := by
    have : (start : ℝ) ≤ finish := by exact_mod_cast forward
    linarith
  have covered : (0 : ℝ) ≤ ((stops.map (overlap start finish)).sum : ℚ) := by
    exact_mod_cast List.sum_nonneg (by simpa using fun stop _ => overlap_nonneg start finish stop)
  have balance : volume.real (driven start finish stops) +
      ((stops.map (overlap start finish)).sum : ℚ) = finish - start := by
    have lengths := congrArg ENNReal.toReal total
    rwa [ENNReal.toReal_add (volume_driven_ne_top start finish stops) ENNReal.ofReal_ne_top,
      ENNReal.toReal_ofReal covered, ENNReal.toReal_ofReal order] at lengths
  rw [Rat.cast_sub, Rat.cast_sub, ← balance, add_sub_cancel_right]

/-- Stops that are apart take no more than there is. -/
theorem overlaps_le {stops : List StopFact} (separate : Separate stops) {start finish : ℚ}
    (forward : start ≤ finish) : (stops.map (overlap start finish)).sum ≤ finish - start := by
  have real : (0 : ℝ) ≤ volume.real (driven start finish stops) := ENNReal.toReal_nonneg
  rw [length_driven separate forward] at real
  have left : 0 ≤ finish - start - (stops.map (overlap start finish)).sum := by exact_mod_cast real
  linarith

/-- Two intervals that meet in an instant are driven for the time of each. -/
theorem length_driven_add {start middle finish : ℚ} (first : start ≤ middle)
    (second : middle ≤ finish) (stops : List StopFact) :
    volume.real (driven start finish stops) =
      volume.real (driven start middle stops) + volume.real (driven middle finish stops) := by
  have low : (start : ℝ) ≤ middle := by exact_mod_cast first
  have high : (middle : ℝ) ≤ finish := by exact_mod_cast second
  have apart : AEDisjoint volume (driven start middle stops) (driven middle finish stops) := by
    have instant : AEDisjoint volume (Set.Icc (start : ℝ) middle) (Set.Icc (middle : ℝ) finish) := by
      rw [AEDisjoint, Set.Icc_inter_Icc_eq_singleton low high]
      exact measure_singleton _
    exact instant.mono Set.sdiff_subset Set.sdiff_subset
  have joined : driven start finish stops = driven start middle stops ∪ driven middle finish stops := by
    rw [driven, ← Set.Icc_union_Icc_eq_Icc low high, left_union]
    rfl
  have measurable : MeasurableSet (driven middle finish stops) :=
    measurableSet_left stops measurableSet_Icc measurableSet_span
  rw [joined, measureReal_def, measure_union₀ measurable.nullMeasurableSet apart,
    ENNReal.toReal_add (volume_driven_ne_top _ _ stops) (volume_driven_ne_top _ _ stops)]
  rfl

/-- What one rounding changes of a value up to `length`. -/
def roundingOf (length : ℚ) : ℚ := length / 2 ^ 53 + Binary64.least / 2

/-- The roundings of one run of the loop: the first difference, and two for each stop. -/
def slack (start finish : ℚ) (stops : List StopFact) : ℚ :=
  (2 * stops.length + 1) * (1 + 1 / 2 ^ 53) ^ stops.length * roundingOf |finish - start|

section Roundings

variable {start finish driven left error : ℚ}

theorem roundingOf_nonneg {length : ℚ} (nonneg : 0 ≤ length) : 0 ≤ roundingOf length := by
  have least := Binary64.least_pos
  unfold roundingOf
  positivity

theorem abs_round_sub_within {value length : ℚ} (within : |value| ≤ length) :
    |Binary64.round value - value| ≤ roundingOf length := by
  have nearest := Binary64.abs_round_sub_le value
  unfold roundingOf
  linarith

theorem overlap_le (forward : start ≤ finish) (stop : StopFact) :
    overlap start finish stop ≤ finish - start := by
  have early : min finish (stop.exitAt.getD finish) ≤ finish := min_le_left _ _
  have late : start ≤ max start stop.entryAt := le_max_left _ _
  exact max_le (by linarith) (by linarith)

/-- One stop adds a rounding of its overlap and one of the difference. -/
theorem abs_outOfPits_sub (forward : start ≤ finish) (stop : StopFact)
    (near : |driven - left| ≤ error) (enough : overlap start finish stop ≤ left)
    (within : left ≤ finish - start) :
    |outOfPits start finish driven stop - (left - overlap start finish stop)| ≤
      (1 + 1 / 2 ^ 53) * (error + 2 * roundingOf (finish - start)) := by
  have once := roundingOf_nonneg (sub_nonneg.mpr forward)
  have noError : 0 ≤ error := (abs_nonneg _).trans near
  have most := overlap_le forward stop
  have nonneg := overlap_nonneg start finish stop
  obtain ⟨below, above⟩ := abs_le.mp near
  unfold outOfPits
  unfold overlap at most nonneg enough ⊢
  generalize min finish (stop.exitAt.getD finish) - max start stop.entryAt = shared at *
  dsimp only
  split
  · rename_i taken
    have positive : 0 < shared := by
      by_contra none
      have rounded := Binary64.round_mono (not_lt.mp none)
      rw [Binary64.round_zero] at rounded
      exact absurd taken (not_lt.mpr rounded)
    rw [max_eq_left positive.le] at most enough ⊢
    have overlapped : |Binary64.round shared - shared| ≤ roundingOf (finish - start) :=
      abs_round_sub_within (abs_le.mpr ⟨by linarith, most⟩)
    obtain ⟨less, more⟩ := abs_le.mp overlapped
    have size : |driven - Binary64.round shared| ≤
        finish - start + (error + roundingOf (finish - start)) :=
      abs_le.mpr ⟨by linarith, by linarith⟩
    have rounding := abs_round_sub_within size
    obtain ⟨low, high⟩ := abs_le.mp rounding
    have split : roundingOf (finish - start + (error + roundingOf (finish - start))) =
        roundingOf (finish - start) + (error + roundingOf (finish - start)) / 2 ^ 53 := by
      unfold roundingOf
      ring
    rw [split] at low high
    exact abs_le.mpr ⟨by linarith, by linarith⟩
  · rename_i untaken
    have little : max shared 0 ≤ roundingOf (finish - start) := by
      rcases le_total shared 0 with none | some
      · rw [max_eq_right none]
        exact once
      · rw [max_eq_left some] at most ⊢
        have rounding := abs_round_sub_within (abs_le.mpr ⟨by linarith, most⟩)
        have less := (abs_le.mp rounding).1
        linarith [not_lt.mp untaken]
    exact abs_le.mpr ⟨by linarith, by linarith⟩

/-- The roundings of a run add up. -/
theorem abs_foldl_outOfPits_sub (forward : start ≤ finish) (stops : List StopFact)
    (near : |driven - left| ≤ error) (enough : (stops.map (overlap start finish)).sum ≤ left)
    (within : left ≤ finish - start) :
    |stops.foldl (outOfPits start finish) driven -
        (left - (stops.map (overlap start finish)).sum)| ≤
      (1 + 1 / 2 ^ 53) ^ stops.length *
        (error + 2 * stops.length * roundingOf (finish - start)) := by
  have once := roundingOf_nonneg (sub_nonneg.mpr forward)
  induction stops generalizing driven left error with
  | nil => simpa using near
  | cons stop rest ih =>
    rw [List.map_cons, List.sum_cons] at enough ⊢
    have later : 0 ≤ (rest.map (overlap start finish)).sum :=
      List.sum_nonneg (by simpa using fun stop _ => overlap_nonneg start finish stop)
    have taken := overlap_nonneg start finish stop
    have step := abs_outOfPits_sub forward stop near (by linarith) within
    have run := ih step (by linarith) (by linarith)
    rw [List.foldl_cons, ← sub_sub]
    apply run.trans
    have longer : 2 * (rest.length : ℚ) * roundingOf (finish - start) ≤
        (1 + 1 / 2 ^ 53) * (2 * rest.length * roundingOf (finish - start)) :=
      le_mul_of_one_le_left (by positivity) (by norm_num)
    calc _ ≤ (1 + 1 / 2 ^ 53) ^ rest.length *
          ((1 + 1 / 2 ^ 53) * (error + 2 * roundingOf (finish - start)) +
            (1 + 1 / 2 ^ 53) * (2 * rest.length * roundingOf (finish - start))) := by gcongr
      _ = _ := by
        rw [List.length_cons, pow_succ]
        push_cast
        ring

/-- `_driven_seconds` and the time that is left differ by the roundings at most. -/
theorem abs_drivenSeconds_sub {stops : List StopFact} (separate : Separate stops)
    (start finish : ℚ) :
    |volume.real (Set.Icc (start : ℝ) finish \ ⋃ stop ∈ stops, stop.span) -
        drivenSeconds start finish stops| ≤ slack start finish stops := by
  change |volume.real (OpenLaps.Strategy.driven start finish stops) - _| ≤ _
  rcases le_or_gt finish start with back | forward
  · have once := roundingOf_nonneg (abs_nonneg (finish - start))
    have nonneg : 0 ≤ slack start finish stops := by
      unfold slack
      positivity
    rw [length_driven_back back, drivenSeconds, if_pos back, Rat.cast_zero, sub_zero, abs_zero]
    exact_mod_cast nonneg
  · have length : |finish - start| = finish - start := abs_of_nonneg (by linarith)
    have first := abs_round_sub_within length.le
    have taken := overlaps_le separate forward.le
    have run := abs_foldl_outOfPits_sub forward.le stops first taken le_rfl
    have clipped : |finish - start - (stops.map (overlap start finish)).sum -
        drivenSeconds start finish stops| ≤ slack start finish stops := by
      rw [drivenSeconds, if_neg (not_le.mpr forward), abs_sub_comm, slack, length]
      have some : max (finish - start - (stops.map (overlap start finish)).sum) 0 =
          finish - start - (stops.map (overlap start finish)).sum := max_eq_left (by linarith)
      calc _ = |max (stops.foldl (outOfPits start finish) (Binary64.round (finish - start))) 0 -
            max (finish - start - (stops.map (overlap start finish)).sum) 0| := by rw [some]
        _ ≤ _ := (abs_max_sub_max_le_abs _ _ _).trans run
        _ = _ := by ring
    rw [length_driven separate forward.le]
    exact_mod_cast clipped

end Roundings

/-- A whole number of times a power of two. -/
def OnGrid (place : Int) (value : ℚ) : Prop := ∃ count : Int, value = count * 2 ^ place

/-- A stop whose times are on the grid. -/
structure StopFact.OnGrid (place : Int) (stop : StopFact) : Prop where
  entry : Strategy.OnGrid place stop.entryAt
  exit : ∀ exitAt, stop.exitAt = some exitAt → Strategy.OnGrid place exitAt

section Grids

variable {place : Int} {start finish driven : ℚ}

theorem OnGrid.sub {first second : ℚ} (one : OnGrid place first) (two : OnGrid place second) :
    OnGrid place (first - second) := by
  obtain ⟨count, rfl⟩ := one
  obtain ⟨other, rfl⟩ := two
  exact ⟨count - other, by push_cast; ring⟩

theorem OnGrid.round_eq {value : ℚ} (grid : OnGrid place value) (lowest : -1074 ≤ place)
    (small : |value| < 2 ^ 53 * 2 ^ place) : Binary64.round value = value := by
  obtain ⟨count, rfl⟩ := grid
  have power : (0 : ℚ) < 2 ^ place := zpow_pos (by norm_num) _
  rw [abs_mul, abs_of_pos power] at small
  have digits : |(count : ℚ)| < 2 ^ 53 := lt_of_mul_lt_mul_right small power.le
  have double : Binary64.IsDouble (count * 2 ^ place) :=
    ⟨count, place, by exact_mod_cast digits, lowest, rfl⟩
  exact double.round_eq

/-- On a grid that is fine enough nothing is rounded. -/
theorem outOfPits_onGrid (lowest : -1074 ≤ place) (short : finish - start < 2 ^ 53 * 2 ^ place)
    (forward : start ≤ finish) (starts : OnGrid place start) (ends : OnGrid place finish)
    {stop : StopFact} (times : stop.OnGrid place) (grid : OnGrid place driven)
    (enough : overlap start finish stop ≤ driven) (within : driven ≤ finish - start) :
    outOfPits start finish driven stop = driven - overlap start finish stop ∧
      OnGrid place (driven - overlap start finish stop) := by
  have most := overlap_le forward stop
  have whole : OnGrid place
      (min finish (stop.exitAt.getD finish) - max start stop.entryAt) := by
    apply OnGrid.sub
    · rcases min_choice finish (stop.exitAt.getD finish) with same | same <;> rw [same]
      · exact ends
      · cases exit : stop.exitAt with
        | none => exact ends
        | some exitAt => exact times.exit exitAt exit
    · rcases max_choice start stop.entryAt with same | same <;> rw [same]
      · exact starts
      · exact times.entry
  unfold outOfPits
  unfold overlap at most enough ⊢
  generalize min finish (stop.exitAt.getD finish) - max start stop.entryAt = shared at *
  dsimp only
  rcases le_or_gt shared 0 with none | some
  · have rounded := Binary64.round_mono none
    rw [Binary64.round_zero] at rounded
    rw [if_neg (not_lt.mpr rounded), max_eq_right none, sub_zero]
    exact ⟨rfl, grid⟩
  · rw [max_eq_left some.le] at most enough ⊢
    have exactly := whole.round_eq lowest (by rw [abs_of_pos some]; linarith)
    have rest := grid.sub whole
    have rounded := rest.round_eq lowest (by rw [abs_of_nonneg (by linarith)]; linarith)
    rw [exactly, if_pos some, rounded]
    exact ⟨rfl, rest⟩

theorem foldl_outOfPits_onGrid (lowest : -1074 ≤ place)
    (short : finish - start < 2 ^ 53 * 2 ^ place) (forward : start ≤ finish)
    (starts : OnGrid place start) (ends : OnGrid place finish) (stops : List StopFact)
    (times : ∀ stop ∈ stops, stop.OnGrid place) (grid : OnGrid place driven)
    (enough : (stops.map (overlap start finish)).sum ≤ driven) (within : driven ≤ finish - start) :
    stops.foldl (outOfPits start finish) driven =
      driven - (stops.map (overlap start finish)).sum := by
  induction stops generalizing driven with
  | nil => simp
  | cons stop rest ih =>
    rw [List.map_cons, List.sum_cons] at enough ⊢
    have later : 0 ≤ (rest.map (overlap start finish)).sum :=
      List.sum_nonneg (by simpa using fun stop _ => overlap_nonneg start finish stop)
    have taken := overlap_nonneg start finish stop
    obtain ⟨step, whole⟩ := outOfPits_onGrid lowest short forward starts ends
      (times stop List.mem_cons_self) grid (by linarith) within
    rw [List.foldl_cons, step,
      ih (fun other member => times other (List.mem_cons_of_mem _ member)) whole (by linarith)
        (by linarith), sub_sub]

/-- Where all times are on one grid, `_driven_seconds` is the time that is left. -/
theorem drivenSeconds_onGrid {stops : List StopFact} (separate : Separate stops)
    (lowest : -1074 ≤ place) (short : finish - start < 2 ^ 53 * 2 ^ place)
    (starts : OnGrid place start) (ends : OnGrid place finish)
    (times : ∀ stop ∈ stops, stop.OnGrid place) :
    volume.real (Set.Icc (start : ℝ) finish \ ⋃ stop ∈ stops, stop.span) =
      drivenSeconds start finish stops := by
  change volume.real (OpenLaps.Strategy.driven start finish stops) = _
  rcases le_or_gt finish start with back | forward
  · rw [length_driven_back back, drivenSeconds, if_pos back, Rat.cast_zero]
  · have whole := ends.sub starts
    have rounded := whole.round_eq lowest (by rw [abs_of_pos (by linarith)]; exact short)
    have taken := overlaps_le separate forward.le
    rw [length_driven separate forward.le, drivenSeconds, if_neg (not_le.mpr forward), rounded,
      foldl_outOfPits_onGrid lowest short forward.le starts ends stops times whole taken le_rfl,
      max_eq_left (by linarith)]

end Grids

theorem drivenFraction_range {rt : Runtime} {lap : LapFact} {stops : List StopFact}
    {rebasedAt fraction : ℚ} {lapTimeS : Option ℚ}
    (taken : drivenFraction rt lap stops rebasedAt lapTimeS = .ok fraction) :
    0 ≤ fraction ∧ fraction ≤ 1 := by
  unfold drivenFraction at taken
  obtain ⟨window, _, rest⟩ := Attempt.bind_ok.mp taken
  cases window with
  | none =>
    cases rest
    exact ⟨zero_le_one, le_refl _⟩
  | some window =>
    obtain ⟨start, finish⟩ := window
    dsimp only at rest
    split at rest
    · cases rest
      exact ⟨le_min (le_max_right _ _) zero_le_one, min_le_right _ _⟩
    · cases rest
      exact ⟨zero_le_one, le_refl _⟩

/-- For stops that overlap nowhere, `_driven_seconds` is the length of the interval less
the stops up to the roundings of its doubles, and exactly where all times are on a grid that
doubles hold; so it adds up over adjacent intervals and does not depend on the order of the
stops but for roundings. The fraction that the fuel estimate takes of a lap lies between
none and all. -/
theorem driven_time (stops : List StopFact) (separate : Separate stops) :
    (∀ start finish : ℚ,
      |volume.real (Set.Icc (start : ℝ) finish \ ⋃ stop ∈ stops, stop.span) -
        drivenSeconds start finish stops| ≤ slack start finish stops) ∧
    (∀ (place : Int) (start finish : ℚ), -1074 ≤ place → finish - start < 2 ^ 53 * 2 ^ place →
      OnGrid place start → OnGrid place finish → (∀ stop ∈ stops, stop.OnGrid place) →
        volume.real (Set.Icc (start : ℝ) finish \ ⋃ stop ∈ stops, stop.span) =
          drivenSeconds start finish stops) ∧
    (∀ start middle finish, start ≤ middle → middle ≤ finish →
      |drivenSeconds start finish stops -
          (drivenSeconds start middle stops + drivenSeconds middle finish stops)| ≤
        slack start finish stops + slack start middle stops + slack middle finish stops) ∧
    (∀ other, other.Perm stops → ∀ start finish,
      |drivenSeconds start finish other - drivenSeconds start finish stops| ≤
        2 * slack start finish stops) ∧
    ∀ rt lap rebasedAt lapTimeS fraction,
      drivenFraction rt lap stops rebasedAt lapTimeS = .ok fraction → 0 ≤ fraction ∧ fraction ≤ 1 := by
  refine ⟨abs_drivenSeconds_sub separate,
    fun place start finish lowest short starts ends times =>
      drivenSeconds_onGrid separate lowest short starts ends times, ?_, ?_,
    fun _ _ _ _ _ => drivenFraction_range⟩
  · intro start middle finish first second
    have whole := abs_drivenSeconds_sub separate start finish
    have early := abs_drivenSeconds_sub separate start middle
    have late := abs_drivenSeconds_sub separate middle finish
    have lengths := length_driven_add first second stops
    unfold driven left at lengths
    rw [lengths] at whole
    obtain ⟨low, high⟩ := abs_le.mp whole
    obtain ⟨low', high'⟩ := abs_le.mp early
    obtain ⟨low'', high''⟩ := abs_le.mp late
    have apart : |(drivenSeconds start finish stops : ℝ) -
        (drivenSeconds start middle stops + drivenSeconds middle finish stops)| ≤
          slack start finish stops + slack start middle stops + slack middle finish stops :=
      abs_le.mpr ⟨by linarith, by linarith⟩
    exact_mod_cast apart
  · intro other perm start finish
    have also : Separate other :=
      perm.symm.pairwise separate fun apart => apart.symm
    have same : driven start finish other = driven start finish stops :=
      left_congr _ _ fun stop => perm.mem_iff
    have one := abs_drivenSeconds_sub also start finish
    have two := abs_drivenSeconds_sub separate start finish
    have bound : slack start finish other = slack start finish stops := by
      rw [slack, slack, perm.length_eq]
    unfold driven left at same
    rw [same, bound] at one
    obtain ⟨low, high⟩ := abs_le.mp one
    obtain ⟨low', high'⟩ := abs_le.mp two
    have apart : |(drivenSeconds start finish other : ℝ) - drivenSeconds start finish stops| ≤
        2 * slack start finish stops := abs_le.mpr ⟨by linarith, by linarith⟩
    exact_mod_cast apart

/-- A refuelling for one minute, then a stop that is still open. -/
def twoStops : List StopFact := [⟨60, some 120, false, "refuel"⟩, ⟨150, none, true, "service"⟩]

theorem twoStops_separate : Separate twoStops :=
  List.pairwise_pair.mpr (aedisjoint_of_le rfl (by norm_num))

/-- The two stops leave the first minute and the gap between them. -/
theorem driven_time_two :
    volume.real (Set.Icc ((0 : ℚ) : ℝ) (300 : ℚ) \ ⋃ stop ∈ twoStops, stop.span) = (90 : ℚ) ∧
      |drivenSeconds 0 300 twoStops.reverse - drivenSeconds 0 300 twoStops| ≤
        2 * slack 0 300 twoStops := by
  have seconds (count : Int) : OnGrid 0 count := ⟨count, by rw [zpow_zero, mul_one]⟩
  have entries : ∀ stop ∈ twoStops, stop.OnGrid 0 := by
    intro stop member
    rcases List.mem_pair.mp member with rfl | rfl
    · exact ⟨seconds 60, fun exitAt same => Option.some.inj same ▸ seconds 120⟩
    · exact ⟨seconds 150, fun exitAt same => nomatch same⟩
  have facts := driven_time twoStops twoStops_separate
  have ninety : drivenSeconds 0 300 twoStops = 90 := by decide +kernel
  constructor
  · rw [facts.2.1 0 0 300 (by norm_num) (by norm_num) (seconds 0) (seconds 300) entries, ninety]
  · exact facts.2.2.2.1 _ (List.reverse_perm _) 0 300

/-- Two stops of one and of two tenths of a second. -/
def shortStops : List StopFact :=
  [⟨0, some (1 / 10), false, "refuel"⟩, ⟨1 / 10, some (3 / 10), false, "service"⟩]

/-- The doubles of tenths of a second do not add up, the order of two stops shows in the
last place, and stops that cover all of an interval leave something of it. -/
theorem driven_time_rounds :
    (drivenSeconds 0 (3 / 10) [] ≠ drivenSeconds 0 (1 / 10) [] + drivenSeconds (1 / 10) (3 / 10) [] ∧
      drivenSeconds 0 (3 / 10) [] ≠ 3 / 10) ∧
    (Separate shortStops ∧
      drivenSeconds 0 (4 / 10) shortStops ≠ drivenSeconds 0 (4 / 10) shortStops.reverse) ∧
    Separate [⟨0, some (1 / 10), false, "refuel"⟩, ⟨1 / 10, some (2 / 10), false, "service"⟩,
      ⟨2 / 10, some (4 / 10), false, "service"⟩] ∧
    0 < drivenSeconds 0 (4 / 10) [⟨0, some (1 / 10), false, "refuel"⟩,
      ⟨1 / 10, some (2 / 10), false, "service"⟩, ⟨2 / 10, some (4 / 10), false, "service"⟩] := by
  refine ⟨⟨by decide +kernel, by decide +kernel⟩,
    ⟨List.pairwise_pair.mpr (aedisjoint_of_le rfl (by norm_num)), by decide +kernel⟩, ?_,
    by decide +kernel⟩
  refine List.Pairwise.cons ?_ (List.pairwise_pair.mpr (aedisjoint_of_le rfl (by norm_num)))
  intro stop member
  rcases List.mem_pair.mp member with rfl | rfl
  · exact aedisjoint_of_le rfl (by norm_num)
  · exact aedisjoint_of_le rfl (by norm_num)

end OpenLaps.Strategy

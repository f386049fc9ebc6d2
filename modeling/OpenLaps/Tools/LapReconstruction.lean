import OpenLaps.Tools.CrossingOrder
import OpenLaps.Tools.FastPath
import OpenLaps.Tools.LegacyBatches

/- The laps that an imported lap dump leaves: which sectors are attached to a lap, and that the
batches do not matter. -/
namespace OpenLaps.LegacyImport
open Ingest LineProtocol

variable {job : Job} {points : List LinePoint}

/-! ### The fold -/

/-- A remembered crossing of a line, of a line of the file, after the last imported lap. -/
structure Crossing (points : List LinePoint) (line : String) (previous : Option Int) (now : Int)
    (point : LinePoint) : Prop where
  origin : ∃ line ∈ points, line.timestampNs = point.timestampNs ∧ line.tags = point.tags
  crossed : crossedLine point = some line
  after : ∀ lap ∈ previous, lap < pointMicros point
  early : pointMicros point ≤ now
  timed : timestamp point.timestampNs = .ok (pointMicros point)

/-- What the fold remembers after a point. -/
structure Held (points : List LinePoint) (previous : Option Int) (now : Int) (held : Crossings) : Prop where
  past : ∀ lap ∈ previous, lap ≤ now
  first : ∀ point elapsed, held.sectorOne = some (point, elapsed) →
    Crossing points "Sector1" previous now point ∧ PyFloat.lt (.finite 0) elapsed ∧
      elapsed.rounded = elapsed
  second : ∀ point elapsed, held.sectorTwo = some (point, elapsed) →
    Crossing points "Sector2" previous now point ∧ elapsed.rounded = elapsed ∧
      ∀ one before, held.sectorOne = some (one, before) → before.lt elapsed

/-- A positive time of milliseconds in seconds: positive too, unless it is too small for a float. -/
def PositiveSplit (splitTimeS : PyFloat) : Prop :=
  ∃ elapsed, PyFloat.lt (.finite 0) elapsed ∧ splitTimeS = inSeconds elapsed ∧
    (PyFloat.le (.finite (1000 * Binary64.least)) elapsed → PyFloat.lt (.finite 0) splitTimeS)

/-- Three splits come to a lap time, up to the rounding of each of them. -/
def SplitsSum (one two three total : PyFloat) : Prop :=
  three = .posInf ∧ total = .posInf ∨ ∃ first second third whole : ℚ,
    one = .finite first ∧ two = .finite second ∧ three = .finite third ∧ total = .finite whole ∧
      |first + second + third - whole| ≤ whole / 2 ^ 50 + 4 * Binary64.least

/-- A sector of a lap. -/
structure SectorOf (job : Job) (points : List LinePoint) (previous : Option Int) (lap : LapRow)
    (row : LegacySectorRow) : Prop where
  vehicle : row.vehicleId = lap.vehicleId
  track : row.trackName = lap.trackName
  after : ∀ earlier ∈ previous, earlier < row.crossedAt
  upTo : row.crossedAt ≤ lap.crossedAt
  crossing : ∃ point ∈ points, pointMicros point = row.crossedAt ∧
    sectorByLine (crossedLine point) = some row.sector ∧
    lapContext job point =
      some (lap.trackName, if row.sector = 3 then lap.lapNumber else lap.lapNumber - 1)
  positive : PositiveSplit row.splitTimeS

/-- The sectors that a lap may have. -/
inductive SplitsOf (lap : LapRow) : List LegacySectorRow → Prop where
  | none : SplitsOf lap []
  | two (one two : LegacySectorRow) (first : one.sector = 1) (second : two.sector = 2) :
      SplitsOf lap [one, two]
  | three (one two three : LegacySectorRow) (first : one.sector = 1) (second : two.sector = 2)
      (third : three.sector = 3)
      (whole : ∃ total, lap.lapTimeS = some total ∧
        SplitsSum one.splitTimeS two.splitTimeS three.splitTimeS total) :
      SplitsOf lap [one, two, three]

structure FinishedLap (job : Job) (points : List LinePoint) (previous : Option Int) (lap : LapRow)
    (sectors : List LegacySectorRow) : Prop where
  plain : TimescaleStore.Plain lap
  vehicle : lap.vehicleId = job.vehicleId
  each : ∀ row ∈ sectors, SectorOf job points previous lap row
  splits : SplitsOf lap sectors

/-- The rows of one point, and the last imported lap after it. -/
inductive RowsAt (job : Job) (points : List LinePoint) (previous : Option Int) (now : Int) :
    List LegacyRow → Option Int → Prop where
  | nothing : RowsAt job points previous now [] previous
  | pit (update : PitStatusUpdate) (time : update.time = now) :
      RowsAt job points previous now [.pit update] previous
  | lap (lap : LapRow) (sectors : List LegacySectorRow) (time : lap.crossedAt = now)
      (finished : FinishedLap job points previous lap sectors) :
      RowsAt job points previous now (.lap lap :: sectors.map .sector) (some now)

/-! ### Splits -/

theorem inSeconds_positive {elapsed : PyFloat} (positive : PyFloat.lt (.finite 0) elapsed) :
    PositiveSplit (inSeconds elapsed) := by
  refine ⟨elapsed, positive, rfl, ?_⟩
  intro large
  cases elapsed with
  | finite value =>
    have above : 1000 * Binary64.least ≤ value := by simpa [PyFloat.le] using large
    have enough : Binary64.least ≤ value / 1000 := by linarith
    have rounded := Binary64.round_mono enough
    rw [Binary64.isDouble_least.round_eq] at rounded
    have more := Binary64.least_pos.trans_le rounded
    unfold inSeconds PyFloat.div
    by_cases inside : |value / 1000| < PyFloat.limit
    · rw [PyFloat.rounded_inside inside, PyFloat.lt_finite]
      exact decide_eq_true more
    · have above' : 0 < value / 1000 := Binary64.least_pos.trans_le enough
      rw [PyFloat.rounded, PyFloat.bounded, if_neg inside, if_pos above']
      rfl
  | posInf => decide
  | negInf => cases positive
  | nan => cases positive

/-- Floats that differ have a positive difference, however small. -/
theorem lt_sub {first second : PyFloat} (less : first.lt second)
    (positive : PyFloat.lt (.finite 0) first) (float : first.rounded = first)
    (float' : second.rounded = second) : PyFloat.lt (.finite 0) (second.sub first).rounded := by
  cases first with
  | finite value =>
    cases second with
    | finite other =>
      simp only [PyFloat.lt_finite, decide_eq_true_eq] at less positive
      obtain ⟨exactly, here, -, same⟩ := PyFloat.rounded_finite float
      cases here
      obtain ⟨exactly, here, -, same'⟩ := PyFloat.rounded_finite float'
      cases here
      have apart := Binary64.IsDouble.least_le_sub (same ▸ Binary64.round_isDouble value)
        (same' ▸ Binary64.round_isDouble other) less
      have rounded := Binary64.round_mono apart
      rw [Binary64.isDouble_least.round_eq] at rounded
      have more := Binary64.least_pos.trans_le rounded
      unfold PyFloat.sub
      by_cases inside : |other - value| < PyFloat.limit
      · rw [PyFloat.rounded_inside inside, PyFloat.lt_finite]
        exact decide_eq_true more
      · rw [PyFloat.rounded, PyFloat.bounded, if_neg inside, if_pos (sub_pos.mpr less)]
        rfl
    | posInf => rfl
    | negInf => cases less
    | nan => cases less
  | posInf => cases second <;> cases less
  | negInf => cases positive
  | nan => cases positive

theorem lt_later {first second : PyFloat} (positive : PyFloat.lt (.finite 0) first)
    (less : first.lt second) : PyFloat.lt (.finite 0) second := by
  cases first with
  | finite value =>
    cases second with
    | finite other =>
      simp only [PyFloat.lt_finite, decide_eq_true_eq] at positive less ⊢
      linarith
    | posInf => rfl
    | negInf => cases less
    | nan => cases less
  | posInf => cases second <;> cases less
  | negInf => cases positive
  | nan => cases positive

/-- A part of a time that a float can hold. -/
theorem inSeconds_part {value total : ℚ} (nonneg : 0 ≤ value) (le : value ≤ total)
    (float : (PyFloat.finite total).rounded = .finite total) :
    (PyFloat.finite value).rounded = .finite (Binary64.round value) ∧
      inSeconds (.finite value) = .finite (Binary64.round (value / 1000)) := by
  have small : value / 1000 ≤ total := by linarith
  have nonneg' : 0 ≤ value / 1000 := by linarith
  obtain ⟨exactly, here, inside, -⟩ := PyFloat.rounded_finite float
  cases here
  rw [abs_of_nonneg (nonneg.trans le)] at inside
  constructor
  · exact PyFloat.rounded_inside (by rw [abs_of_nonneg nonneg]; exact le.trans_lt inside)
  · apply PyFloat.rounded_inside
    rw [abs_of_nonneg nonneg']
    exact small.trans_lt inside

theorem round_range {value : ℚ} (nonneg : 0 ≤ value) :
    value - (value / 2 ^ 53 + Binary64.least / 2) ≤ Binary64.round value ∧
      Binary64.round value ≤ value + (value / 2 ^ 53 + Binary64.least / 2) := by
  have near := Binary64.abs_round_sub_le value
  rw [abs_of_nonneg nonneg] at near
  obtain ⟨low, high⟩ := abs_le.mp near
  constructor <;> linarith

/-- Three splits of an elapsed time sum up to it. -/
theorem splits_sum {first second total : PyFloat} (positive : PyFloat.lt (.finite 0) first)
    (less : first.lt second) (finish : second.lt total) (float : total.rounded = total) :
    SplitsSum (inSeconds first) (inSeconds (second.sub first).rounded)
      (inSeconds (total.sub second).rounded) (inSeconds total) := by
  cases first with
  | finite one =>
    cases second with
    | finite two =>
      cases total with
      | finite three =>
        right
        simp only [PyFloat.lt_finite, decide_eq_true_eq] at positive less finish
        obtain ⟨exactly, here, -, same⟩ := PyFloat.rounded_finite float
        cases here
        have below {part : ℚ} (le : part ≤ three) : Binary64.round part ≤ three :=
          (Binary64.round_mono le).trans same.ge
        obtain ⟨-, firstS⟩ := inSeconds_part positive.le (by linarith) float
        obtain ⟨middle, -⟩ := inSeconds_part (sub_nonneg.mpr less.le) (by linarith) float
        obtain ⟨-, middleS⟩ := inSeconds_part (Binary64.round_nonneg (sub_nonneg.mpr less.le))
          (below (by linarith)) float
        obtain ⟨last, -⟩ := inSeconds_part (sub_nonneg.mpr finish.le) (by linarith) float
        obtain ⟨-, lastS⟩ := inSeconds_part (Binary64.round_nonneg (sub_nonneg.mpr finish.le))
          (below (by linarith)) float
        obtain ⟨-, totalS⟩ := inSeconds_part (by linarith) le_rfl float
        refine ⟨_, Binary64.round (Binary64.round (two - one) / 1000),
          Binary64.round (Binary64.round (three - two) / 1000), _, firstS, ?_, ?_, totalS, ?_⟩
        · rw [PyFloat.sub, middle, middleS]
        · rw [PyFloat.sub, last, lastS]
        · obtain ⟨low, high⟩ := round_range (div_nonneg positive.le (by norm_num : (0 : ℚ) ≤ 1000))
          obtain ⟨low', high'⟩ := round_range (sub_nonneg.mpr less.le)
          obtain ⟨low'', high''⟩ := round_range (sub_nonneg.mpr finish.le)
          have middleRange := round_range (div_nonneg (Binary64.round_nonneg
            (sub_nonneg.mpr less.le)) (by norm_num : (0 : ℚ) ≤ 1000))
          have lastRange := round_range (div_nonneg (Binary64.round_nonneg
            (sub_nonneg.mpr finish.le)) (by norm_num : (0 : ℚ) ≤ 1000))
          have totalRange := round_range (div_nonneg (positive.trans (less.trans finish)).le
            (by norm_num : (0 : ℚ) ≤ 1000))
          have least := Binary64.least_pos
          rw [abs_le]
          constructor <;> linarith
      | posInf => exact .inl ⟨rfl, rfl⟩
      | negInf => cases finish
      | nan => cases finish
    | posInf => cases total <;> cases finish
    | negInf => cases less
    | nan => cases less
  | posInf => cases second <;> cases less
  | negInf => cases positive
  | nan => cases positive

/-! ### One point -/

section OnePoint

variable {point : LinePoint}

theorem convert_pit {line : String} (crossed : crossedLine point = some line)
    (pit : line = "PitEntry" ∨ line = "PitExit")
    (timed : timestamp point.timestampNs = .ok (pointMicros point)) :
    ∃ status, convertLapPoint job point =
      .ok { pitUpdates := [⟨job.vehicleId, pointMicros point, status⟩] } := by
  unfold crossedLine at crossed
  unfold convertLapPoint
  rw [timed, crossed]
  rcases pit with rfl | rfl
  · exact ⟨_, rfl⟩
  · exact ⟨_, rfl⟩

/-- A finish is a lap, unless its time or its number is no good. -/
theorem convert_finish (job : Job) {value : SampleValue} {total : PyFloat}
    (crossed : crossedLine point = some "StartFinish")
    (field : point.fields.get? "last_lap_time".toList = some value)
    (number : numeric value = .ok total)
    (timed : timestamp point.timestampNs = .ok (pointMicros point)) :
    ∃ laps, convertLapPoint job point = .ok { laps := laps } ∧ (laps = [] ∨ ∃ lap,
      laps = [lap] ∧ TimescaleStore.Plain lap ∧ lap.vehicleId = job.vehicleId ∧
        lap.crossedAt = pointMicros point ∧ lap.trackName = tagText point "track_name" ∧
        lapContext job point = some (lap.trackName, lap.lapNumber) ∧
        lap.lapTimeS = some (inSeconds total)) := by
  unfold crossedLine at crossed
  unfold convertLapPoint lapContext
  rw [timed, crossed, field]
  show ∃ laps, (numeric value >>= _) = _ ∧ _
  rw [number]
  show ∃ laps, (if total.le (.finite 0) = true then _ else _) = _ ∧ _
  split
  · exact ⟨[], rfl, .inl rfl⟩
  · cases (point.tags.get? "lap_number".toList).bind job.literals.int with
    | none => exact ⟨[], rfl, .inl rfl⟩
    | some lapNumber => exact ⟨_, rfl, .inr ⟨_, rfl, ⟨rfl, rfl⟩, rfl, rfl, rfl, rfl, rfl⟩⟩

theorem legacySector_timed {trackName : Option String} {sector : Int} {splitMs : PyFloat}
    (timed : timestamp point.timestampNs = .ok (pointMicros point)) :
    legacySector job trackName sector splitMs point =
      .ok ⟨job.vehicleId, trackName, sector, inSeconds splitMs, pointMicros point⟩ := by
  rw [legacySector, timed]
  rfl

/-- The line of the file that a point stands for crosses as the point does. -/
theorem crossing_of_origin {line : String} {sector : Int} {context : Option String × Int}
    (origin : ∃ line ∈ points, line.timestampNs = point.timestampNs ∧ line.tags = point.tags)
    (crossed : crossedLine point = some line) (numbered : sectorByLine (some line) = some sector)
    (counted : lapContext job point = some context) :
    ∃ other ∈ points, pointMicros other = pointMicros point ∧
      sectorByLine (crossedLine other) = some sector ∧ lapContext job other = some context := by
  obtain ⟨other, member, time, tags⟩ := origin
  refine ⟨other, member, ?_, ?_, ?_⟩
  · rw [pointMicros, pointMicros, time]
  · unfold crossedLine at crossed ⊢
    rw [tags, crossed, numbered]
  · unfold lapContext tagText at counted ⊢
    rw [tags, counted]

/-- The sectors that are found for a lap are its own. -/
theorem finishedSectors_spec {previous : Option Int} {before : Int} {held : Crossings}
    {total : PyFloat} {lap : LapRow} (kept : Held points previous before held)
    (later : before < pointMicros point)
    (origin : ∃ line ∈ points, line.timestampNs = point.timestampNs ∧ line.tags = point.tags)
    (timed : timestamp point.timestampNs = .ok (pointMicros point))
    (crossed : crossedLine point = some "StartFinish") (plain : TimescaleStore.Plain lap)
    (vehicle : lap.vehicleId = job.vehicleId) (time : lap.crossedAt = pointMicros point)
    (track : lap.trackName = tagText point "track_name")
    (context : lapContext job point = some (lap.trackName, lap.lapNumber))
    (lapTime : lap.lapTimeS = some (inSeconds total)) (exactly : total.rounded = total) :
    ∃ sectors, finishedSectors job held point total = .ok sectors ∧
      FinishedLap job points previous lap sectors := by
  have bare : ∃ sectors, (.ok [] : Except PyError (List LegacySectorRow)) = .ok sectors ∧
      FinishedLap job points previous lap sectors :=
    ⟨[], rfl, plain, vehicle, fun _ member => absurd member List.not_mem_nil, .none⟩
  unfold finishedSectors
  rw [context, ← track]
  dsimp only [Option.map_some]
  split
  · rename_i one first two second hasOne hasTwo
    split
    · rename_i continuous
      obtain ⟨contextOne, contextTwo⟩ := continuous
      obtain ⟨crossingOne, positive, float⟩ := kept.first one first hasOne
      obtain ⟨crossingTwo, float', increasing⟩ := kept.second two second hasTwo
      have less := increasing one first hasOne
      have sectorOne : SectorOf job points previous lap
          ⟨job.vehicleId, lap.trackName, 1, inSeconds first, pointMicros one⟩ :=
        ⟨vehicle.symm, rfl, crossingOne.after, (time ▸ crossingOne.early.trans later.le),
          crossing_of_origin crossingOne.origin crossingOne.crossed rfl contextOne,
          inSeconds_positive positive⟩
      have sectorTwo : SectorOf job points previous lap
          ⟨job.vehicleId, lap.trackName, 2, inSeconds (second.sub first).rounded, pointMicros two⟩ :=
        ⟨vehicle.symm, rfl, crossingTwo.after, (time ▸ crossingTwo.early.trans later.le),
          crossing_of_origin crossingTwo.origin crossingTwo.crossed rfl contextTwo,
          inSeconds_positive (lt_sub less positive float float')⟩
      rw [legacySector_timed crossingOne.timed, legacySector_timed crossingTwo.timed,
        legacySector_timed timed]
      by_cases finish : second.lt total
      · have sectorThree : SectorOf job points previous lap
            ⟨job.vehicleId, lap.trackName, 3, inSeconds (total.sub second).rounded, pointMicros point⟩ :=
          ⟨vehicle.symm, rfl, fun earlier found => (kept.past earlier found).trans_lt later, time.ge,
            crossing_of_origin origin crossed rfl context,
            inSeconds_positive (lt_sub finish (lt_later positive less) float' exactly)⟩
        have whole := splits_sum positive less finish exactly
        refine ⟨_, if_pos finish, plain, vehicle, ?_, .three _ _ _ rfl rfl rfl ⟨_, lapTime, whole⟩⟩
        simp only [List.forall_mem_cons]
        exact ⟨sectorOne, sectorTwo, sectorThree, fun _ member => absurd member List.not_mem_nil⟩
      · refine ⟨_, if_neg finish, plain, vehicle, ?_, .two _ _ rfl rfl⟩
        simp only [List.forall_mem_cons]
        exact ⟨sectorOne, sectorTwo, fun _ member => absurd member List.not_mem_nil⟩
    · exact bare
  · exact bare

/-- What the fold gives for a point, and what it remembers after it. -/
theorem readPoint_spec (job : Job) {previous : Option Int} {before : Int} {held : Crossings}
    (kept : Held points previous before held) (later : before < pointMicros point)
    (origin : ∃ line ∈ points, line.timestampNs = point.timestampNs ∧ line.tags = point.tags)
    (timed : timestamp point.timestampNs = .ok (pointMicros point))
    (number : FieldsAre (fun value => ∃ number,
      numeric value = .ok number ∧ number.rounded = number) point) :
    ∃ next rows last, readPoint job held point = .ok (next, rows) ∧
      RowsAt job points previous (pointMicros point) rows last ∧
      Held points last (pointMicros point) next := by
  have after : ∀ lap ∈ previous, lap < pointMicros point :=
    fun lap found => (kept.past lap found).trans_lt later
  have held' : Held points previous (pointMicros point) held := by
    refine ⟨fun lap found => (after lap found).le, ?_, ?_⟩
    · intro one elapsed found
      obtain ⟨crossing, positive⟩ := kept.first one elapsed found
      exact ⟨{ crossing with early := crossing.early.trans later.le }, positive⟩
    · intro two elapsed found
      obtain ⟨crossing, increasing⟩ := kept.second two elapsed found
      exact ⟨{ crossing with early := crossing.early.trans later.le }, increasing⟩
  have forgotten (last : Option Int) (past : ∀ lap ∈ last, lap ≤ pointMicros point) :
      Held points last (pointMicros point) {} :=
    ⟨past, by rintro one elapsed ⟨⟩, by rintro two elapsed ⟨⟩⟩
  have here (line : String) (crossed : crossedLine point = some line) :
      Crossing points line previous (pointMicros point) point :=
    ⟨origin, crossed, after, le_rfl, timed⟩
  have empty : Held points previous (pointMicros point) {} :=
    forgotten previous fun lap found => (after lap found).le
  unfold readPoint
  split
  · rename_i value crossed field
    obtain ⟨elapsed, read, float⟩ := number _ _ field
    rw [read]
    by_cases fine : PyFloat.lt (.finite 0) elapsed ∧ (lapContext job point).isSome
    · refine ⟨_, _, previous, if_pos fine, .nothing, held'.past, ?_, ?_⟩
      · rintro one other ⟨⟩
        exact ⟨here _ crossed, fine.1, float⟩
      · rintro two other ⟨⟩
    · exact ⟨_, _, previous, if_neg fine, .nothing, empty⟩
  · rename_i value crossed field
    obtain ⟨elapsed, read, float⟩ := number _ _ field
    rw [read]
    cases hasOne : held.sectorOne with
    | none => exact ⟨_, _, previous, rfl, .nothing, empty⟩
    | some remembered =>
      obtain ⟨one, first⟩ := remembered
      by_cases fine : lapContext job point = lapContext job one ∧ first.lt elapsed
      · refine ⟨_, _, previous, if_pos fine, .nothing, held'.past, ?_, ?_⟩
        · intro point elapsed found
          exact held'.first point elapsed (hasOne.trans found)
        · rintro two other ⟨⟩
          refine ⟨here _ crossed, float, ?_⟩
          rintro point before ⟨⟩
          exact fine.2
      · exact ⟨_, _, previous, if_neg fine, .nothing, empty⟩
  · by_cases pit : crossedLine point = some "PitEntry" ∨ crossedLine point = some "PitExit"
    · have converted : ∃ status, convertLapPoint job point =
          .ok { pitUpdates := [⟨job.vehicleId, pointMicros point, status⟩] } := by
        rcases pit with entry | exit
        · exact convert_pit entry (.inl rfl) timed
        · exact convert_pit exit (.inr rfl) timed
      obtain ⟨status, converted⟩ := converted
      rw [if_pos (by simpa using pit), converted]
      exact ⟨_, _, previous, rfl, .pit _ rfl, held'⟩
    · rw [if_neg (by simpa using pit)]
      split
      · rename_i value crossed field
        obtain ⟨total, read, float⟩ := number _ _ field
        obtain ⟨laps, converted, shape⟩ := convert_finish job crossed field read timed
        rw [read, converted]
        rcases shape with rfl | ⟨lap, rfl, plain, vehicle, time, track, context, lapTime⟩
        · exact ⟨_, _, previous, rfl, .nothing, empty⟩
        · obtain ⟨sectors, found, finished⟩ := finishedSectors_spec kept later origin timed crossed
            plain vehicle time track context lapTime float
          refine ⟨{}, .lap lap :: sectors.map .sector, some (pointMicros point), ?_,
            .lap lap sectors time finished, forgotten _ ?_⟩
          · show (finishedSectors job held point total >>= _) = _
            rw [found]
            rfl
          · rintro last ⟨⟩
            exact le_rfl
      · exact ⟨_, _, previous, rfl, .nothing, held'⟩

end OnePoint

/-! ### The whole fold -/

/-- The rows of points after a time, and what the last imported lap is before them. -/
inductive Story (job : Job) (points : List LinePoint) : Option Int → Int → List LegacyRow → Prop where
  | done (previous : Option Int) (before : Int) : Story job points previous before []
  | step {previous last : Option Int} {before now : Int} {rows later : List LegacyRow}
      (past : ∀ lap ∈ previous, lap ≤ before) (after : before < now)
      (here : RowsAt job points previous now rows last) (rest : Story job points last now later) :
      Story job points previous before (rows ++ later)

theorem iter_story {previous : Option Int} {before : Int} {held : Crossings} {rest : List LinePoint}
    (ordered : Ordered points rest) (kept : Held points previous before held)
    (later : ∀ point ∈ rest, before < pointMicros point) :
    ∃ rows, iterLegacyLapRows job held rest = (rows, true) ∧ Story job points previous before rows := by
  induction rest generalizing previous before held with
  | nil => exact ⟨[], rfl, .done previous before⟩
  | cons point rest ih =>
    obtain ⟨below, increasing⟩ := List.pairwise_cons.mp ordered.increasing
    obtain ⟨next, rows, last, read, here, kept'⟩ := readPoint_spec job kept
      (later point List.mem_cons_self) (ordered.origin point List.mem_cons_self)
      (ordered.timed point List.mem_cons_self) (ordered.numeric point List.mem_cons_self)
    have tail : Ordered points rest :=
      ⟨increasing, fun other member => ordered.origin other (List.mem_cons_of_mem point member),
        fun other member => ordered.timed other (List.mem_cons_of_mem point member),
        fun other member => ordered.numeric other (List.mem_cons_of_mem point member)⟩
    obtain ⟨others, found, story⟩ := ih tail kept' below
    refine ⟨rows ++ others, ?_, .step kept.past (later point List.mem_cons_self) here story⟩
    rw [iterLegacyLapRows, read]
    simp only [found]

/-- The fold comes to the end of the points. -/
theorem story_of_ordered (job : Job) {ordered : List LinePoint} (sorted : Ordered points ordered) :
    ∃ rows before, iterLegacyLapRows job {} ordered = (rows, true) ∧ Story job points none before rows := by
  have start (before : Int) : Held points none before {} :=
    ⟨by rintro lap ⟨⟩, by rintro one elapsed ⟨⟩, by rintro two elapsed ⟨⟩⟩
  have lower : ∃ before, ∀ point ∈ ordered, before < pointMicros point := by
    cases ordered with
    | nil => exact ⟨0, fun point member => absurd member List.not_mem_nil⟩
    | cons point rest =>
      obtain ⟨below, _⟩ := List.pairwise_cons.mp sorted.increasing
      refine ⟨pointMicros point - 1, List.forall_mem_cons.mpr ⟨by omega, ?_⟩⟩
      intro other member
      have := below other member
      omega
  obtain ⟨before, later⟩ := lower
  obtain ⟨rows, found, story⟩ := iter_story sorted (start before) later
  exact ⟨rows, before, found, story⟩

/-- The lap rows of a story are plain, of the vehicle, and later. -/
theorem story_laps {previous : Option Int} {before : Int} {rows : List LegacyRow}
    (story : Story job points previous before rows) :
    ∀ lap ∈ rows.filterMap Ingest.Tables.lapOf,
      TimescaleStore.Plain lap ∧ lap.vehicleId = job.vehicleId ∧ before < lap.crossedAt := by
  induction story with
  | done => exact fun lap member => absurd member List.not_mem_nil
  | step past after here rest ih =>
    have further : ∀ lap ∈ List.filterMap Ingest.Tables.lapOf _,
        TimescaleStore.Plain lap ∧ lap.vehicleId = job.vehicleId ∧ _ < lap.crossedAt :=
      fun lap member => ⟨(ih lap member).1, (ih lap member).2.1, after.trans (ih lap member).2.2⟩
    rw [List.filterMap_append]
    cases here with
    | nothing => exact further
    | pit update time => exact further
    | lap lap sectors time finished =>
      have bare : (sectors.map LegacyRow.sector).filterMap Ingest.Tables.lapOf = [] :=
        List.filterMap_eq_nil_iff.mpr fun row member => by
          obtain ⟨sector, _, rfl⟩ := List.mem_map.mp member
          rfl
      show ∀ other ∈ lap :: (sectors.map LegacyRow.sector).filterMap Ingest.Tables.lapOf ++ _, _
      rw [bare]
      exact List.forall_mem_cons.mpr
        ⟨⟨finished.plain, finished.vehicle, time ▸ after⟩, further⟩

/-! ### The tables -/

/-- What a lap of the vehicle has for sectors: crossings of the lap, in order. -/
structure Assembled (job : Job) (points : List LinePoint) (tables : Ingest.Tables) (crossedAt : Int)
    (lap : LapRecord) : Prop where
  crossings : ∀ sector split time, tables.lapSectors.get? (lap.lapId, sector) = some (split, time) →
    (∀ earlier, (job.vehicleId, earlier) ∈ tables.laps.keys → earlier < crossedAt → earlier < time) ∧
      time ≤ crossedAt ∧ ∃ point ∈ points, pointMicros point = time ∧
        sectorByLine (crossedLine point) = some sector ∧ lapContext job point =
          some (lap.trackName, if sector = 3 then lap.lapNumber else lap.lapNumber - 1)
  positive : ∀ sector split time, tables.lapSectors.get? (lap.lapId, sector) = some (split, time) →
    ∃ splitTimeS, split = some splitTimeS ∧ PositiveSplit splitTimeS
  together : (tables.lapSectors.get? (lap.lapId, 1)).isSome =
    (tables.lapSectors.get? (lap.lapId, 2)).isSome
  whole : ∀ three, tables.lapSectors.get? (lap.lapId, 3) = some three →
    ∃ one two first second third total,
      tables.lapSectors.get? (lap.lapId, 1) = some one ∧ one.1 = some first ∧
      tables.lapSectors.get? (lap.lapId, 2) = some two ∧ two.1 = some second ∧
        three.1 = some third ∧ lap.lapTimeS = some total ∧ SplitsSum first second third total

/-- Laps have numbers of their own, and sectors belong to them. -/
structure Sound (tables : Ingest.Tables) : Prop where
  below : ∀ key lap, tables.laps.get? key = some lap → lap.lapId < tables.nextLapId
  apart : ∀ key lap other lap', tables.laps.get? key = some lap → tables.laps.get? other = some lap' →
    lap.lapId = lap'.lapId → key = other
  owned : ∀ key row, tables.lapSectors.get? key = some row → key.1 < tables.nextLapId

/-- The tables after the rows of some points. -/
structure Built (job : Job) (points : List LinePoint) (previous : Option Int) (tables : Ingest.Tables) :
    Prop where
  sound : Sound tables
  past : ∀ crossedAt, (job.vehicleId, crossedAt) ∈ tables.laps.keys →
    ∃ last ∈ previous, crossedAt ≤ last
  assembled : ∀ crossedAt lap, tables.laps.get? (job.vehicleId, crossedAt) = some lap →
    Assembled job points tables crossedAt lap

section Building

variable {previous : Option Int} {tables : Ingest.Tables}

theorem marked_keys (laps : LapTable) (update : PitStatusUpdate) (key : String × Int) :
    key ∈ (Ingest.Tables.marked laps update).keys ↔ key ∈ laps.keys := by
  have view := Ingest.Tables.marked_view (fun _ => ()) (fun _ _ => rfl) laps update key
  rw [← Dict.contains_iff, ← Dict.contains_iff, Dict.contains, Dict.contains]
  have same := congrArg Option.isSome view
  rw [Option.isSome_map, Option.isSome_map] at same
  rw [same]

/-- A marked lap is a lap with another pit status. -/
theorem marked_lap {laps : LapTable} {update : PitStatusUpdate} {key : String × Int} {lap : LapRecord}
    (found : (Ingest.Tables.marked laps update).get? key = some lap) :
    ∃ old, laps.get? key = some old ∧ lap = { old with pitStatus := lap.pitStatus } := by
  have view := Ingest.Tables.marked_view (fun lap => { lap with pitStatus := none }) (fun _ _ => rfl) laps
    update key
  rw [found, Option.map_some] at view
  obtain ⟨old, there, same⟩ := Option.map_eq_some_iff.mp view.symm
  refine ⟨old, there, ?_⟩
  cases lap
  cases old
  simpa using same.symm

theorem Built.pit (built : Built job points previous tables) (update : PitStatusUpdate) :
    Built job points previous (tables.updatePitStatus update) := by
  refine ⟨⟨?_, ?_, built.sound.owned⟩, ?_, ?_⟩
  · intro key lap found
    obtain ⟨old, there, same⟩ := marked_lap found
    rw [same]
    exact built.sound.below key old there
  · intro key lap other lap' found found' equal
    obtain ⟨old, there, same⟩ := marked_lap found
    obtain ⟨old', there', same'⟩ := marked_lap found'
    rw [same, same'] at equal
    exact built.sound.apart key old other old' there there' equal
  · exact fun crossedAt member => built.past crossedAt ((marked_keys _ update _).mp member)
  · intro crossedAt lap found
    obtain ⟨old, there, same⟩ := marked_lap found
    have assembled := built.assembled crossedAt old there
    rw [same]
    refine ⟨?_, assembled.positive, assembled.together, assembled.whole⟩
    intro sector split time held
    obtain ⟨after, rest⟩ := assembled.crossings sector split time held
    exact ⟨fun earlier member => after earlier ((marked_keys _ update _).mp member), rest⟩

theorem Built.stamp (built : Built job points previous tables) (rows : List SampleRow)
    (streamSeq : Nat) : Built job points previous (tables.stamp rows streamSeq) := by
  refine ⟨⟨built.sound.below, built.sound.apart, built.sound.owned⟩, built.past, ?_⟩
  intro crossedAt lap found
  have old := built.assembled crossedAt lap found
  exact ⟨old.crossings, old.positive, old.together, old.whole⟩

/-! ### A lap with its sectors -/

abbrev SectorTable := Dict (Nat × Int) (Option PyFloat × Int)

/-- The sectors of a lap written under its number. -/
def attach (lapId : Nat) (sectors : List LegacySectorRow) (dict : SectorTable) : SectorTable :=
  sectors.foldl (fun dict row => dict.set (lapId, row.sector) (some row.splitTimeS, row.crossedAt)) dict

theorem attach_other {lapId : Nat} {key : Nat × Int} (other : key.1 ≠ lapId)
    (sectors : List LegacySectorRow) (dict : SectorTable) :
    (attach lapId sectors dict).get? key = dict.get? key := by
  induction sectors generalizing dict with
  | nil => rfl
  | cons row rest ih =>
    refine (ih _).trans ?_
    rw [Dict.get?_set, if_neg fun same => other (congrArg Prod.fst same).symm]

theorem attach_own {lapId : Nat} {sectors : List LegacySectorRow} {dict : SectorTable} {sector : Int}
    {value : Option PyFloat × Int} (fresh : ∀ sector, dict.get? (lapId, sector) = none)
    (found : (attach lapId sectors dict).get? (lapId, sector) = some value) :
    ∃ row ∈ sectors, row.sector = sector ∧ value = (some row.splitTimeS, row.crossedAt) := by
  have either : dict.get? (lapId, sector) = some value ∨
      ∃ row ∈ sectors, row.sector = sector ∧ value = (some row.splitTimeS, row.crossedAt) := by
    clear fresh
    induction sectors generalizing dict with
    | nil => exact .inl found
    | cons row rest ih =>
      rcases ih found with early | ⟨other, member, own⟩
      · rw [Dict.get?_set] at early
        split at early
        · rename_i same
          cases early
          exact .inr ⟨row, List.mem_cons_self, congrArg Prod.snd same, rfl⟩
        · exact .inl early
      · exact .inr ⟨other, List.mem_cons_of_mem row member, own⟩
  refine either.resolve_left fun early => ?_
  rw [fresh] at early
  cases early

theorem foldl_sectors {lapId : Nat} {sectors : List LegacySectorRow} {tables : Ingest.Tables}
    (found : ∀ row ∈ sectors, Ingest.Tables.sectorLap tables.laps row = some lapId) :
    sectors.foldl Ingest.Tables.upsertLegacySector tables =
      { tables with lapSectors := attach lapId sectors tables.lapSectors } := by
  induction sectors generalizing tables with
  | nil => rfl
  | cons row rest ih =>
    have here : tables.upsertLegacySector row = { tables with
        lapSectors := tables.lapSectors.set (lapId, row.sector)
          (some row.splitTimeS, row.crossedAt) } := by
      unfold Ingest.Tables.upsertLegacySector
      rw [found row List.mem_cons_self]
    rw [List.foldl_cons, here]
    exact ih fun other member => found other (List.mem_cons_of_mem row member)

def recordOf (lapId : Nat) (lap : LapRow) : LapRecord :=
  ⟨lapId, none, none, lap.trackName, lap.lapNumber, lap.lapTimeS, lap.valid, lap.pitStatus,
    lap.direction⟩

theorem writeLegacyLap_fresh {lap : LapRow}
    (fresh : tables.laps.get? (lap.vehicleId, lap.crossedAt) = none) :
    tables.writeLegacyLap lap = { tables with
      laps := tables.laps.set (lap.vehicleId, lap.crossedAt) (recordOf tables.nextLapId lap)
      nextLapId := tables.nextLapId + 1 } := by
  simp [Ingest.Tables.writeLegacyLap, Ingest.Tables.upsertLap, recordOf, fresh]

/-- The last lap of the vehicle is the one that its sectors find. -/
theorem target_own {lap : LapRow} {row : LegacySectorRow} {record : LapRecord}
    (past : ∀ crossedAt, (lap.vehicleId, crossedAt) ∈ tables.laps.keys →
      ∃ last ∈ previous, crossedAt ≤ last)
    (own : SectorOf job points previous lap row) (track : record.trackName = lap.trackName) :
    Ingest.Tables.target (tables.laps.set (lap.vehicleId, lap.crossedAt) record) row =
      some lap.crossedAt := by
  rw [Ingest.Tables.target_eq_some]
  constructor
  · rw [Ingest.Tables.candidate_set, own.vehicle, if_pos rfl]
    exact ⟨own.upTo, track.trans own.track.symm⟩
  · intro other candidate
    rw [Ingest.Tables.candidate_set] at candidate
    split at candidate
    · rename_i same
      exact (congrArg Prod.snd same).le
    · obtain ⟨later, old, found, _⟩ := candidate
      rw [own.vehicle] at found
      obtain ⟨last, before, le⟩ := past other (Dict.mem_keys found)
      have := own.after last before
      omega

/-- A lap and its sectors, written where the vehicle has no later lap. -/
theorem lap_written {lap : LapRow} {sectors : List LegacySectorRow}
    (built : Built job points previous tables) (finished : FinishedLap job points previous lap sectors)
    (later : ∀ last ∈ previous, last < lap.crossedAt) :
    sectors.foldl Ingest.Tables.upsertLegacySector (tables.writeLegacyLap lap) = { tables with
      laps := tables.laps.set (job.vehicleId, lap.crossedAt) (recordOf tables.nextLapId lap)
      nextLapId := tables.nextLapId + 1
      lapSectors := attach tables.nextLapId sectors tables.lapSectors } := by
  have past := built.past
  rw [← finished.vehicle] at past ⊢
  have fresh : tables.laps.get? (lap.vehicleId, lap.crossedAt) = none := by
    rw [Dict.get?_eq_none]
    intro member
    obtain ⟨last, before, le⟩ := past lap.crossedAt member
    have := later last before
    omega
  rw [writeLegacyLap_fresh fresh]
  refine foldl_sectors fun row member => ?_
  have own := finished.each row member
  show (Ingest.Tables.target _ row).bind _ = _
  rw [target_own past own rfl, Option.bind_some, own.vehicle, Dict.get?_set, if_pos rfl]
  rfl

theorem Sound.lap (sound : Sound tables) (sectors : List LegacySectorRow) (key : String × Int)
    (record : LapRecord) (number : record.lapId = tables.nextLapId) :
    Sound { tables with
      laps := tables.laps.set key record
      nextLapId := tables.nextLapId + 1
      lapSectors := attach tables.nextLapId sectors tables.lapSectors } := by
  refine ⟨?_, ?_, ?_⟩
  · intro other lap found
    rw [Dict.get?_set] at found
    split at found
    · cases found
      exact number ▸ Nat.lt_succ_self _
    · exact Nat.lt_succ_of_lt (sound.below other lap found)
  · intro first lap second lap' found found' equal
    rw [Dict.get?_set] at found found'
    split at found
    · rename_i same
      cases found
      split at found'
      · rename_i same'
        exact same.symm.trans same'
      · have := sound.below second lap' found'
        omega
    · split at found'
      · cases found'
        have := sound.below first lap found
        omega
      · exact sound.apart first lap second lap' found found' equal
  · intro other row found
    by_cases own : other.1 = tables.nextLapId
    · exact own ▸ Nat.lt_succ_self _
    · rw [attach_other own] at found
      exact Nat.lt_succ_of_lt (sound.owned other row found)

/-- A fresh lap has the sectors that were found for it. -/
theorem assembled_own {lap : LapRow} {sectors : List LegacySectorRow}
    (built : Built job points previous tables)
    (finished : FinishedLap job points previous lap sectors) :
    Assembled job points { tables with
      laps := tables.laps.set (job.vehicleId, lap.crossedAt) (recordOf tables.nextLapId lap)
      nextLapId := tables.nextLapId + 1
      lapSectors := attach tables.nextLapId sectors tables.lapSectors } lap.crossedAt
      (recordOf tables.nextLapId lap) := by
  have fresh (sector : Int) : tables.lapSectors.get? (tables.nextLapId, sector) = none := by
    cases found : tables.lapSectors.get? (tables.nextLapId, sector) with
    | none => rfl
    | some row => exact absurd (built.sound.owned _ row found) (lt_irrefl _)
  refine ⟨?_, ?_, ?_, ?_⟩
  · intro sector split time found
    obtain ⟨row, member, rfl, value⟩ := attach_own fresh found
    cases value
    have own := finished.each row member
    refine ⟨?_, own.upTo, own.crossing⟩
    intro earlier listed before
    rcases Ingest.Tables.mem_keys_set.mp listed with same | there
    · have time : lap.crossedAt = earlier := congrArg Prod.snd same
      omega
    · obtain ⟨last, held, le⟩ := built.past earlier there
      exact le.trans_lt (own.after last held)
  · intro sector split time found
    obtain ⟨row, member, rfl, value⟩ := attach_own fresh found
    cases value
    exact ⟨row.splitTimeS, rfl, (finished.each row member).positive⟩
  · show ((attach _ sectors _).get? (tables.nextLapId, 1)).isSome =
      ((attach _ sectors _).get? (tables.nextLapId, 2)).isSome
    cases finished.splits with
    | none => simp [attach, fresh]
    | two one two first second => simp [attach, Dict.get?_set, first, second]
    | three one two three first second third whole =>
      simp [attach, Dict.get?_set, first, second, third]
  · intro three found
    have held : (attach tables.nextLapId sectors tables.lapSectors).get? (tables.nextLapId, 3) =
      some three := found
    show ∃ one two first second third total, (attach _ sectors _).get? (tables.nextLapId, 1) = some one ∧ _ ∧
      (attach _ sectors _).get? (tables.nextLapId, 2) = some two ∧ _
    cases finished.splits with
    | none => simp [attach, fresh] at held
    | two one two first second => simp [attach, Dict.get?_set, first, second, fresh] at held
    | three one two three first second third whole =>
      simp only [attach, List.foldl_cons, List.foldl_nil, Dict.get?_set, third, if_true,
        Option.some.injEq] at held
      obtain ⟨total, lapTime, sum⟩ := whole
      refine ⟨(some one.splitTimeS, one.crossedAt), (some two.splitTimeS, two.crossedAt), _, _, _,
        total, ?_, rfl, ?_, rfl, (congrArg Prod.fst held).symm, lapTime, sum⟩
      · simp [attach, Dict.get?_set, first, second, third]
      · simp [attach, Dict.get?_set, first, second, third]

/-- The rows of a lap keep what was built. -/
theorem Built.lap {lap : LapRow} {sectors : List LegacySectorRow}
    (built : Built job points previous tables) (finished : FinishedLap job points previous lap sectors)
    (later : ∀ last ∈ previous, last < lap.crossedAt) :
    Built job points (some lap.crossedAt)
      (sectors.foldl Ingest.Tables.upsertLegacySector (tables.writeLegacyLap lap)) := by
  rw [lap_written built finished later]
  refine ⟨built.sound.lap sectors _ _ rfl, ?_, ?_⟩
  · intro crossedAt member
    refine ⟨lap.crossedAt, rfl, ?_⟩
    rcases Ingest.Tables.mem_keys_set.mp member with same | there
    · exact (congrArg Prod.snd same).ge
    · obtain ⟨last, held, le⟩ := built.past crossedAt there
      exact le.trans (later last held).le
  · intro crossedAt record found
    rw [Dict.get?_set] at found
    split at found
    · rename_i same
      cases found
      cases (congrArg Prod.snd same : lap.crossedAt = crossedAt)
      exact assembled_own built finished
    · have old := built.assembled crossedAt record found
      have other : record.lapId ≠ tables.nextLapId := (built.sound.below _ record found).ne
      have same (sector : Int) : (attach tables.nextLapId sectors tables.lapSectors).get?
          (record.lapId, sector) = tables.lapSectors.get? (record.lapId, sector) :=
        attach_other other sectors _
      refine ⟨?_, ?_, ?_, ?_⟩
      · intro sector split time held
        obtain ⟨after, rest⟩ := old.crossings sector split time ((same sector).symm.trans held)
        refine ⟨?_, rest⟩
        intro earlier listed before
        rcases Ingest.Tables.mem_keys_set.mp listed with new | there
        · have time : lap.crossedAt = earlier := congrArg Prod.snd new
          obtain ⟨last, held, le⟩ := built.past crossedAt (Dict.mem_keys found)
          have := later last held
          omega
        · exact after earlier there before
      · exact fun sector split time held => old.positive sector split time ((same sector).symm.trans held)
      · show ((attach _ sectors _).get? _).isSome = ((attach _ sectors _).get? _).isSome
        rw [same, same]
        exact old.together
      · intro three held
        obtain ⟨one, two, first, second, third, total, hasOne, isOne, hasTwo, isTwo, rest⟩ :=
          old.whole three ((same 3).symm.trans held)
        exact ⟨one, two, first, second, third, total, (same 1).trans hasOne, isOne,
          (same 2).trans hasTwo, isTwo, rest⟩

/-! ### The whole import -/

theorem upsertLegacySector_laps (tables : Ingest.Tables) (row : LegacySectorRow) :
    (tables.upsertLegacySector row).laps = tables.laps := by
  unfold Ingest.Tables.upsertLegacySector
  split <;> rfl

/-- Sectors that find a lap before all later ones are settled. -/
theorem settled_sectors {sectors : List LegacySectorRow} {later : List LegacyRow} {crossedAt : Int}
    {tables : Ingest.Tables} (own : ∀ row ∈ sectors, Ingest.Tables.target tables.laps row = some crossedAt)
    (beyond : ∀ lap ∈ later.filterMap Ingest.Tables.lapOf, crossedAt < lap.crossedAt)
    (settled : (sectors.foldl Ingest.Tables.upsertLegacySector tables).Settled later) :
    tables.Settled (sectors.map .sector ++ later) := by
  induction sectors generalizing tables with
  | nil => exact settled
  | cons row rest ih =>
    have bare : (rest.map LegacyRow.sector).filterMap Ingest.Tables.lapOf = [] :=
      List.filterMap_eq_nil_iff.mpr fun row member => by
        obtain ⟨sector, _, rfl⟩ := List.mem_map.mp member
        rfl
    refine ⟨?_, ih ?_ settled⟩
    · intro lap member
      change lap ∈ (rest.map LegacyRow.sector ++ later).filterMap Ingest.Tables.lapOf at member
      rw [List.filterMap_append, bare, List.nil_append] at member
      have target := own row List.mem_cons_self
      have less := beyond lap member
      show Ingest.Tables.SectorKept tables.laps row lap
      intro _ _
      rw [target]
      split
      · exact ⟨crossedAt, rfl, less.le⟩
      · exact fun same => less.ne (Option.some.inj same)
    · intro other member
      show Ingest.Tables.target (tables.upsertLegacySector row).laps other = _
      rw [upsertLegacySector_laps]
      exact own other (List.mem_cons_of_mem row member)

/-- A story is settled, and its laps are assembled. -/
theorem story_built {before : Int} {rows : List LegacyRow}
    (story : Story job points previous before rows) {tables : Ingest.Tables}
    (built : Built job points previous tables) :
    tables.Settled rows ∧ ∃ last, Built job points last (rows.foldl Ingest.Tables.writeRow tables) := by
  induction story generalizing tables with
  | done => exact ⟨trivial, _, built⟩
  | @step previous last before now rows later past after here rest ih =>
    have beyond := story_laps rest
    cases here with
    | nothing => exact ih built
    | pit update time =>
      obtain ⟨settled, further⟩ := ih (built.pit update)
      refine ⟨⟨?_, settled⟩, further⟩
      intro lap member vehicle early
      have := (beyond lap member).2.2
      omega
    | lap lap sectors time finished =>
      have fresh : ∀ last ∈ previous, last < lap.crossedAt :=
        fun last held => (past last held).trans_lt (time ▸ after)
      have next := built.lap finished fresh
      rw [time] at next
      obtain ⟨settled, further⟩ := ih next
      have own : ∀ row ∈ sectors,
          Ingest.Tables.target (tables.writeLegacyLap lap).laps row = some lap.crossedAt :=
        fun row member => target_own (finished.vehicle ▸ built.past) (finished.each row member) rfl
      refine ⟨⟨fun _ _ => trivial, settled_sectors own ?_ settled⟩, ?_⟩
      · exact fun other member => time ▸ (beyond other member).2.2
      · rw [List.foldl_append, List.foldl_cons, List.foldl_map]
        exact further

end Building

/-- The store after an import of the dump. -/
def imported (job : Job) (sessions : SessionTables) (store : TimescaleStore) (resume : Bool)
    (cursor batchRows : Nat) : TimescaleStore :=
  (importLapDump job resume batchRows cursor).foldl (TimescaleStore.flushLegacy sessions) store

/-- The value is a number that a float holds. -/
def isFloat (value : SampleValue) : Bool :=
  match numeric value with
  | .ok number => number.rounded = number
  | .error _ => false

/-- `CrossingPoints` by running, for points that are each a line of their own. -/
theorem crossingPoints_of_checks {points : List LinePoint}
    (numbers : (points.all fun point => point.fields.entries.all fun field => isFloat field.2) = true)
    (nodup : (points.map pointMicros).Nodup) : CrossingPoints points := by
  constructor
  · intro point member field held
    have fine := List.all_eq_true.mp (List.all_eq_true.mp numbers point member) field held
    unfold isFloat at fine
    cases read : numeric field.2 with
    | ok number =>
      rw [read] at fine
      exact ⟨number, rfl, of_decide_eq_true fine⟩
    | error error =>
      rw [read] at fine
      cases fine
  · intro first one second two same
    rw [List.inj_on_of_nodup_map nodup one two same]
    exact ⟨rfl, rfl⟩

/-- A lap whose finish comes first in the file. -/
def threeCrossings : Job where
  content := encodeUtf8 ("lap,crossed_line=StartFinish,lap_number=2 last_lap_time=9 9000\n" ++
    "lap,crossed_line=Sector1,lap_number=1 lap_time=2 2000\n" ++
    "lap,crossed_line=Sector2,lap_number=1 lap_time=5 5000\n")
  vehicleId := "car1"
  sinceNs := none
  untilNs := none
  mapping := ⟨Dict.empty, Dict.empty, Dict.empty⟩
  literals := LineProtocol.decimal
  upper := id
  channelKey := fun _ => 0

/-- A sector crossed 516 ns after a finish, at another microsecond. -/
def closeCrossings : Job := { threeCrossings with
  content := encodeUtf8
    ("lap,crossed_line=StartFinish,lap_number=2 last_lap_time=9000 1700000000606219484\n" ++
      "lap,crossed_line=Sector1,lap_number=2 lap_time=1000 1700000000606220000\n" ++
      "lap,crossed_line=Sector2,lap_number=2 lap_time=2000 1700000002606220000\n" ++
      "lap,crossed_line=StartFinish,lap_number=3 last_lap_time=4000 1700000004606220000\n") }

end OpenLaps.LegacyImport

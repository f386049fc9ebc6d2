import OpenLaps.Tools.LegacyLapDump

/- The points of a lap dump as the disk-backed sort merges them: in the order of their times,
and each with the tags of a line of the file. -/
namespace OpenLaps.LegacyImport
open Ingest LineProtocol

/-! ### Times -/

theorem microsOf_intCast (seconds : Int) : microsOf seconds = seconds * 1000000 := by
  have whole : wholeSeconds seconds = seconds := by
    unfold wholeSeconds
    rw [Int.floor_intCast, Int.ceil_intCast, ite_self]
  have none : Rounding.halfEven 0 = 0 := by exact_mod_cast Rounding.halfEven_intCast 0
  rw [microsOf, whole, sub_self, zero_mul, Binary64.round_zero, none, add_zero]

/-- The fraction of a second comes to a second at most. -/
theorem fraction_range {fraction : ℚ} (nonneg : 0 ≤ fraction) (less : fraction ≤ 1) :
    0 ≤ Rounding.halfEven (Binary64.round (fraction * 1000000)) ∧
      Rounding.halfEven (Binary64.round (fraction * 1000000)) ≤ 1000000 := by
  have scaled : fraction * 1000000 ≤ ((1000000 : Int) : ℚ) := by
    push_cast
    linarith
  have rounded := Binary64.round_mono scaled
  rw [Binary64.round_intCast (by decide)] at rounded
  refine ⟨Rounding.halfEven_nonneg (Binary64.round_nonneg (by linarith)), ?_⟩
  have most := Rounding.halfEven_mono rounded
  rwa [Rounding.halfEven_intCast] at most

theorem microsOf_pos {seconds : ℚ} (nonneg : 0 ≤ seconds) :
    microsOf seconds = ⌊seconds⌋ * 1000000 +
      Rounding.halfEven (Binary64.round ((seconds - ⌊seconds⌋) * 1000000)) := by
  rw [microsOf, wholeSeconds, if_pos nonneg]

theorem microsOf_nonneg {seconds : ℚ} (nonneg : 0 ≤ seconds) : 0 ≤ microsOf seconds := by
  have whole := Int.floor_nonneg.mpr nonneg
  have fraction := (fraction_range (sub_nonneg.mpr (Int.floor_le seconds))
    (by linarith [Int.lt_floor_add_one seconds])).1
  rw [microsOf_pos nonneg]
  omega

theorem microsOf_neg (seconds : ℚ) : microsOf (-seconds) = -microsOf seconds := by
  have whole : wholeSeconds (-seconds) = -wholeSeconds seconds := by
    unfold wholeSeconds
    rcases lt_trichotomy seconds 0 with neg | rfl | pos
    · rw [if_pos (by linarith), if_neg (not_le.mpr neg), Int.floor_neg]
    · simp
    · rw [if_neg (by linarith), if_pos pos.le, Int.ceil_neg]
  have fraction : (-seconds - ((-wholeSeconds seconds : Int) : ℚ)) * 1000000 =
      -((seconds - wholeSeconds seconds) * 1000000) := by
    push_cast
    ring
  rw [microsOf, whole, fraction, Binary64.round_neg, Binary64.halfEven_neg, microsOf]
  ring

theorem microsOf_mono_of_nonneg {first second : ℚ} (nonneg : 0 ≤ first) (le : first ≤ second) :
    microsOf first ≤ microsOf second := by
  rw [microsOf_pos nonneg, microsOf_pos (nonneg.trans le)]
  rcases (Int.floor_mono le).lt_or_eq with less | same
  · have most := (fraction_range (sub_nonneg.mpr (Int.floor_le first))
      (by linarith [Int.lt_floor_add_one first])).2
    have none := (fraction_range (sub_nonneg.mpr (Int.floor_le second))
      (by linarith [Int.lt_floor_add_one second])).1
    omega
  · rw [same]
    have scaled : (first - ⌊second⌋) * 1000000 ≤ (second - ⌊second⌋) * 1000000 :=
      mul_le_mul_of_nonneg_right (sub_le_sub_right le _) (by norm_num)
    have fraction := Rounding.halfEven_mono (Binary64.round_mono scaled)
    omega

theorem microsOf_mono {first second : ℚ} (le : first ≤ second) : microsOf first ≤ microsOf second := by
  rcases le_total 0 first with nonneg | nonpos
  · exact microsOf_mono_of_nonneg nonneg le
  · rcases le_total 0 second with nonneg' | nonpos'
    · have below := microsOf_nonneg (neg_nonneg.mpr nonpos)
      rw [microsOf_neg] at below
      have above := microsOf_nonneg nonneg'
      omega
    · have turned := microsOf_mono_of_nonneg (neg_nonneg.mpr nonpos') (neg_le_neg le)
      rw [microsOf_neg, microsOf_neg] at turned
      omega

/-- The time of a point in microseconds, as a `datetime` has it. -/
def pointMicros (point : LinePoint) : Int :=
  microsOf (Binary64.round ((point.timestampNs : ℚ) / 1000000000))

/-- Crossing points with numeric fields, whose times differ in microseconds unless they are
parts of one point. -/
structure CrossingPoints (points : List LinePoint) : Prop where
  numeric : ∀ point ∈ points, ∀ field ∈ point.fields.entries,
    ∃ number, numeric field.2 = .ok number ∧ number.rounded = number
  distinct : ∀ first ∈ points, ∀ second ∈ points, pointMicros first = pointMicros second →
    first.timestampNs = second.timestampNs ∧ first.tags = second.tags

theorem pointMicros_mono {first second : LinePoint} (le : first.timestampNs ≤ second.timestampNs) :
    pointMicros first ≤ pointMicros second := by
  have cast : (first.timestampNs : ℚ) ≤ second.timestampNs := by exact_mod_cast le
  exact microsOf_mono (Binary64.round_mono (by linarith))

/-- A timestamp of SQLite is one of the calendar. -/
theorem timestamp_fits {point : LinePoint} (fits : FitsInteger point.timestampNs) :
    timestamp point.timestampNs = .ok (pointMicros point) := by
  obtain ⟨low, high⟩ := fits
  have low : (-9223372036854775808 : ℚ) ≤ point.timestampNs := by exact_mod_cast low
  have high : (point.timestampNs : ℚ) < 9223372036854775808 := by exact_mod_cast high
  have early : ((-10000000000 : Int) : ℚ) ≤ (point.timestampNs : ℚ) / 1000000000 := by
    push_cast
    linarith
  have late : (point.timestampNs : ℚ) / 1000000000 ≤ ((10000000000 : Int) : ℚ) := by
    push_cast
    linarith
  have range := lt_of_le_of_lt (abs_le.mpr ⟨by push_cast at early; linarith, late⟩)
    (show ((10000000000 : Int) : ℚ) < PyFloat.limit by exact_mod_cast (by decide +kernel))
  have early' := Binary64.round_mono early
  have late' := Binary64.round_mono late
  rw [Binary64.round_intCast (by decide)] at early' late'
  have first := microsOf_mono early'
  have last := microsOf_mono late'
  rw [microsOf_intCast] at first last
  push_cast at early' late'
  unfold timestamp
  dsimp only
  rw [if_neg (not_le.mpr range), if_neg (not_not.mpr ⟨by linarith, by linarith⟩),
    if_pos ⟨by omega, by omega⟩]
  rfl

/-! ### Merging -/

section Merging

variable {rows : List PointField}

theorem key_le {first second : PointField} (le : first.key ≤ second.key) :
    first.timestampNs ≤ second.timestampNs := by
  rcases Prod.Lex.toLex_le_toLex.mp le with less | ⟨same, _⟩
  · exact less.le
  · exact same.le

theorem sorted_rows (rows : List PointField) :
    (rows.insertionSort fun first second => first.key ≤ second.key).Pairwise
      fun first second => first.timestampNs ≤ second.timestampNs := by
  have : Std.Total fun first second : PointField => first.key ≤ second.key :=
    ⟨fun first second => le_total first.key second.key⟩
  have : IsTrans PointField fun first second => first.key ≤ second.key :=
    ⟨fun _ _ _ => le_trans⟩
  exact (List.pairwise_insertionSort _ rows).imp key_le

/-- Every merged point has the time and the tags of a row. -/
theorem mergeRows_origin {current : Option LinePoint} {point : LinePoint}
    (merged : point ∈ mergeRows current rows) :
    (∃ start ∈ current, point.timestampNs = start.timestampNs ∧ point.tags = start.tags) ∨
      ∃ row ∈ rows, point.timestampNs = row.timestampNs ∧ point.tags = row.tags := by
  induction rows generalizing current with
  | nil =>
    cases current with
    | none => cases merged
    | some start => exact .inl ⟨start, rfl, by rw [List.mem_singleton.mp merged]; exact ⟨rfl, rfl⟩⟩
  | cons row rest ih =>
    have begun {found : Option LinePoint} (start : found = some row.point)
        (later : point ∈ mergeRows found rest) :
        ∃ row' ∈ row :: rest, point.timestampNs = row'.timestampNs ∧ point.tags = row'.tags := by
      rw [start] at later
      rcases ih later with ⟨same, ⟨⟩, stamped⟩ | ⟨other, member, stamped⟩
      · exact ⟨row, List.mem_cons_self, stamped⟩
      · exact ⟨other, List.mem_cons_of_mem row member, stamped⟩
    cases current with
    | none => exact .inr (begun rfl merged)
    | some start =>
      rw [mergeRows] at merged
      split at merged
      · rcases ih merged with ⟨same, ⟨⟩, stamped⟩ | ⟨other, member, stamped⟩
        · exact .inl ⟨start, rfl, stamped⟩
        · exact .inr ⟨other, List.mem_cons_of_mem row member, stamped⟩
      · rcases List.mem_cons.mp merged with same | later
        · rw [same]
          exact .inl ⟨start, rfl, rfl, rfl⟩
        · exact .inr (begun rfl later)

/-- All fields of a point are good. -/
def FieldsAre (good : SampleValue → Prop) (point : LinePoint) : Prop :=
  ∀ name value, point.fields.get? name = some value → good value

theorem fieldsAre_set {good : SampleValue → Prop} {point : LinePoint} {value : SampleValue}
    (start : FieldsAre good point) (fine : good value) (name : Text) :
    FieldsAre good { point with fields := point.fields.set name value } := by
  intro other found there
  rw [Dict.get?_set] at there
  split at there
  · cases there
    exact fine
  · exact start other found there

theorem fieldsAre_point {good : SampleValue → Prop} {row : PointField} (fine : good row.value) :
    FieldsAre good row.point := by
  intro other found there
  rw [PointField.point, Dict.get?_set] at there
  split at there
  · cases there
    exact fine
  · cases there

/-- What holds of the rows' fields holds of the merged points'. -/
theorem mergeRows_fields {good : SampleValue → Prop} {current : Option LinePoint}
    (start : ∀ point ∈ current, FieldsAre good point) (each : ∀ row ∈ rows, good row.value) :
    ∀ point ∈ mergeRows current rows, FieldsAre good point := by
  induction rows generalizing current with
  | nil =>
    cases current with
    | none => exact fun point member => absurd member List.not_mem_nil
    | some only =>
      intro point member
      rw [List.mem_singleton.mp member]
      exact start only rfl
  | cons row rest ih =>
    have fine := each row List.mem_cons_self
    have later (point : LinePoint) (next : FieldsAre good point) :
        ∀ merged ∈ mergeRows (some point) rest, FieldsAre good merged := by
      refine ih ?_ fun other member => each other (List.mem_cons_of_mem row member)
      rintro _ ⟨⟩
      exact next
    cases current with
    | none => exact later _ (fieldsAre_point fine)
    | some only =>
      rw [mergeRows]
      split
      · exact later _ (fieldsAre_set (start only rfl) fine row.name)
      · exact List.forall_mem_cons.mpr ⟨start only rfl, later _ (fieldsAre_point fine)⟩

/-- The merged points come in the order of their times, each time once. -/
theorem mergeRows_increasing {point : LinePoint}
    (sorted : rows.Pairwise fun first second => first.timestampNs ≤ second.timestampNs)
    (same : ∀ first ∈ rows, ∀ second ∈ rows,
      first.timestampNs = second.timestampNs → first.tags = second.tags)
    (after : ∀ row ∈ rows, point.timestampNs ≤ row.timestampNs ∧
      (row.timestampNs = point.timestampNs → row.tags = point.tags)) :
    (∀ merged ∈ mergeRows (some point) rows, point.timestampNs ≤ merged.timestampNs) ∧
      (mergeRows (some point) rows).Pairwise fun first second =>
        first.timestampNs < second.timestampNs := by
  induction rows generalizing point with
  | nil =>
    refine ⟨?_, List.pairwise_singleton _ _⟩
    intro merged member
    rw [List.mem_singleton.mp member]
  | cons row rest ih =>
    obtain ⟨below, sorted⟩ := List.pairwise_cons.mp sorted
    have same' : ∀ first ∈ rest, ∀ second ∈ rest,
        first.timestampNs = second.timestampNs → first.tags = second.tags :=
      fun first one second two =>
        same first (List.mem_cons_of_mem row one) second (List.mem_cons_of_mem row two)
    rw [mergeRows]
    split
    · exact ih sorted same' fun other member => after other (List.mem_cons_of_mem row member)
    · rename_i apart
      obtain ⟨le, tags⟩ := after row List.mem_cons_self
      have less : point.timestampNs < row.timestampNs := by
        refine lt_of_le_of_ne le fun equal => apart ?_
        rw [PointField.key, equal, tags equal.symm]
      have begun : ∀ other ∈ rest, row.point.timestampNs ≤ other.timestampNs ∧
          (other.timestampNs = row.point.timestampNs → other.tags = row.point.tags) := by
        intro other member
        refine ⟨below other member, fun equal => ?_⟩
        exact same other (List.mem_cons_of_mem row member) row List.mem_cons_self equal
      obtain ⟨later, increasing⟩ := ih sorted same' begun
      have beyond (merged : LinePoint) (member : merged ∈ mergeRows (some row.point) rest) :
          point.timestampNs < merged.timestampNs := less.trans_le (later merged member)
      exact ⟨List.forall_mem_cons.mpr ⟨le_rfl, fun merged member => (beyond merged member).le⟩,
        List.pairwise_cons.mpr ⟨beyond, increasing⟩⟩

end Merging

/-! ### Ordered points -/

/-- What the fold is given: points that are read without an error, in the order of their times,
each of them standing for lines of the file. -/
structure Ordered (points ordered : List LinePoint) : Prop where
  increasing : ordered.Pairwise fun first second => pointMicros first < pointMicros second
  origin : ∀ point ∈ ordered, ∃ line ∈ points,
    line.timestampNs = point.timestampNs ∧ line.tags = point.tags
  timed : ∀ point ∈ ordered, timestamp point.timestampNs = .ok (pointMicros point)
  numeric : ∀ point ∈ ordered,
    FieldsAre (fun value => ∃ number,
      LegacyImport.numeric value = .ok number ∧ number.rounded = number) point

theorem mem_fieldRows {points : List LinePoint} {row : PointField}
    (member : row ∈ points.flatMap fieldRows) : ∃ point ∈ points,
      point.timestampNs = row.timestampNs ∧ point.tags = row.tags ∧
        (row.name, row.value) ∈ point.fields.entries := by
  obtain ⟨point, inside, made⟩ := List.mem_flatMap.mp member
  obtain ⟨⟨name, value⟩, field, rfl⟩ := List.mem_map.mp made
  exact ⟨point, inside, rfl, rfl, field⟩

theorem ordered_points {points : List LinePoint} (crossings : CrossingPoints points)
    (fits : ∀ row ∈ points.flatMap fieldRows, FitsInteger row.timestampNs) :
    Ordered points (orderedLapPoints points) := by
  have listed {row : PointField} (member : row ∈ (points.flatMap fieldRows).insertionSort
      fun first second => first.key ≤ second.key) : row ∈ points.flatMap fieldRows :=
    (List.mem_insertionSort _).mp member
  have sorted := sorted_rows (points.flatMap fieldRows)
  unfold orderedLapPoints
  generalize (points.flatMap fieldRows).insertionSort
    (fun first second => first.key ≤ second.key) = rows at listed sorted ⊢
  have same : ∀ first ∈ rows, ∀ second ∈ rows,
      first.timestampNs = second.timestampNs → first.tags = second.tags := by
    intro first one second two equal
    obtain ⟨line, here, time, tags, _⟩ := mem_fieldRows (listed one)
    obtain ⟨other, there, time', tags', _⟩ := mem_fieldRows (listed two)
    have micros : pointMicros line = pointMicros other := by
      rw [pointMicros, pointMicros, time, time', equal]
    rw [← tags, ← tags', (crossings.distinct line here other there micros).2]
  have origin {point : LinePoint} (merged : point ∈ mergeRows none rows) :
      ∃ row ∈ rows, point.timestampNs = row.timestampNs ∧ point.tags = row.tags :=
    (mergeRows_origin merged).resolve_left (by rintro ⟨start, ⟨⟩, _⟩)
  have lines {point : LinePoint} (merged : point ∈ mergeRows none rows) :
      ∃ line ∈ points, line.timestampNs = point.timestampNs ∧ line.tags = point.tags := by
    obtain ⟨row, member, time, tags⟩ := origin merged
    obtain ⟨line, here, time', tags', _⟩ := mem_fieldRows (listed member)
    exact ⟨line, here, time'.trans time.symm, tags'.trans tags.symm⟩
  have increasing : (mergeRows none rows).Pairwise fun first second =>
      first.timestampNs < second.timestampNs := by
    cases rows with
    | nil => exact List.Pairwise.nil
    | cons row rest =>
      obtain ⟨below, later⟩ := List.pairwise_cons.mp sorted
      refine (mergeRows_increasing later ?_ ?_).2
      · exact fun first one second two =>
          same first (List.mem_cons_of_mem row one) second (List.mem_cons_of_mem row two)
      · intro other member
        refine ⟨below other member, fun equal => ?_⟩
        exact same other (List.mem_cons_of_mem row member) row List.mem_cons_self equal
  constructor
  · refine increasing.imp_of_mem ?_
    intro first second one two less
    refine lt_of_le_of_ne (pointMicros_mono less.le) fun equal => ?_
    obtain ⟨line, here, time, _⟩ := lines one
    obtain ⟨other, there, time', _⟩ := lines two
    have micros : pointMicros line = pointMicros other := by
      rw [pointMicros, pointMicros, time, time']
      exact equal
    have stamps := (crossings.distinct line here other there micros).1
    omega
  · exact fun point merged => lines merged
  · intro point merged
    obtain ⟨row, member, time, _⟩ := origin merged
    exact timestamp_fits (time ▸ fits row (listed member))
  · refine mergeRows_fields (by rintro point ⟨⟩) ?_
    intro row member
    obtain ⟨line, here, _, _, field⟩ := mem_fieldRows (listed member)
    exact crossings.numeric line here (row.name, row.value) field

end OpenLaps.LegacyImport

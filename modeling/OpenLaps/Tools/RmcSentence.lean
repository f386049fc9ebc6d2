import OpenLaps.Collectors.NmeaCounts
import OpenLaps.Collectors.NmeaFields
import OpenLaps.Collectors.NmeaWriting

/- The RMC sentence by which a recorded position is replayed (`tools/_bench.py`), and the fix
that the decoder reads in it. -/
namespace OpenLaps.Bench
open Strings Nmea

def coordDecimals : Nat := 9

/-- `"mm."` plus the decimals. -/
def coordWidth : Nat := coordDecimals + 3

/-- `heading_deg % 360`. -/
def course (heading : ℚ) : ℚ := heading - 360 * ⌊heading / 360⌋

/-- The fields behind the position. -/
def movementText (speed heading : ℚ) : Text :=
  formatFixed 0 2 (speed / (1852 / 1000)) ++ ',' :: (formatFixed 0 1 (course heading) ++
    ',' :: "010126,,,A".toList)

def rmcBody (lat lon speed heading : ℚ) : Text :=
  "GPRMC".toList ++ ',' :: ("000000.00".toList ++ ',' :: 'A' :: ',' ::
    positionText coordWidth coordDecimals lat lon (movementText speed heading))

/-- `rmc_sentence`. -/
def rmcSentence (lat lon speed heading : ℚ) : Bytes :=
  encodeAscii (framedSentence (rmcBody lat lon speed heading))

/-- The speed in km/h as it is written. -/
def writtenSpeed (speed : ℚ) : ℚ :=
  (Rounding.halfEven (speed / (1852 / 1000) * 10 ^ 2) : ℚ) / 10 ^ 2 * (1852 / 1000)

def writtenCourse (heading : ℚ) : ℚ := (Rounding.halfEven (course heading * 10 ^ 1) : ℚ) / 10 ^ 1

theorem course_range (heading : ℚ) : 0 ≤ course heading ∧ course heading < 360 := by
  have below := Int.floor_le (heading / 360)
  have above := Int.lt_floor_add_one (heading / 360)
  unfold course
  constructor <;> linarith

section Text

theorem inner_movementText (speed heading : ℚ) : Inner (movementText speed heading) := by
  have comma : isAscii ',' = true ∧ ',' ≠ '*' := by decide
  refine (inner_plain (plain_formatFixed _ _ _)).append (.cons comma.1 comma.2 ?_)
  refine (inner_plain (plain_formatFixed _ _ _)).append (.cons comma.1 comma.2 ?_)
  exact inner_of_all (by decide)

theorem inner_rmcBody (lat lon speed heading : ℚ) : Inner (rmcBody lat lon speed heading) := by
  have comma : isAscii ',' = true ∧ ',' ≠ '*' := by decide
  refine Inner.append (inner_of_all (by decide)) (.cons comma.1 comma.2 ?_)
  refine Inner.append (inner_of_all (by decide)) (.cons comma.1 comma.2 ?_)
  refine .cons (by decide) (by decide) (.cons comma.1 comma.2 ?_)
  exact inner_positionText _ _ lat lon (inner_movementText speed heading)

/-- The fields of the sentence. -/
theorem split_rmcBody (lat lon speed heading : ℚ) : splitOn ',' (rmcBody lat lon speed heading) =
    ["GPRMC".toList, "000000.00".toList, ['A'],
      coordinateField 2 coordWidth coordDecimals (hemisphere 'N' 'S' lat).2,
      [(hemisphere 'N' 'S' lat).1],
      coordinateField 3 coordWidth coordDecimals (hemisphere 'E' 'W' lon).2,
      [(hemisphere 'E' 'W' lon).1],
      formatFixed 0 2 (speed / (1852 / 1000)), formatFixed 0 1 (course heading),
      "010126".toList, [], [], ['A']] := by
  have rest : splitOn ',' "010126,,,A".toList = ["010126".toList, [], [], ['A']] := by decide
  rw [rmcBody, splitOn_field (by decide), splitOn_field (by decide), splitOn_letter (by decide),
    split_positionText, movementText, splitOn_field (plain_comma (plain_formatFixed _ _ _)),
    splitOn_field (plain_comma (plain_formatFixed _ _ _)), rest]

end Text

section Ranges

variable {places : Nat} {angle : ℚ}

/-- An angle within whole bounds is written within them. -/
theorem writtenAngle_within (bound : Nat) (within : |angle| ≤ bound)
    (below : writtenMinutes places angle < 60) : |writtenAngle places angle| ≤ bound := by
  have nonneg := writtenMinutes_nonneg places angle
  have degrees : (degreesOf angle : ℚ) ≤ |angle| := Int.floor_le |angle|
  have positive : 0 ≤ degreesOf angle := Int.floor_nonneg.mpr (abs_nonneg angle)
  have size : |writtenAngle places angle| = degreesOf angle + writtenMinutes places angle / 60 := by
    have value : (0 : ℚ) ≤ degreesOf angle + writtenMinutes places angle / 60 := by positivity
    unfold writtenAngle
    dsimp only
    split
    · exact abs_of_nonneg value
    · rw [abs_neg, abs_of_nonneg value]
  rw [size]
  by_cases whole : degreesOf angle = bound
  · -- no minutes are left at the bound itself
    have none : minutesOf angle = 0 := by
      have cast : (degreesOf angle : ℚ) = bound := by exact_mod_cast whole
      unfold minutesOf
      linarith [within.antisymm (cast ▸ degrees)]
    have zero : writtenMinutes places angle = 0 := by
      rw [writtenMinutes, none, zero_mul, ← Int.cast_zero, Rounding.halfEven_intCast]
      simp
    rw [zero, whole]
    simp
  · have less : degreesOf angle + 1 ≤ bound := by
      have cast : (degreesOf angle : ℚ) ≤ bound := degrees.trans within
      have most : degreesOf angle ≤ bound := by exact_mod_cast cast
      omega
    have cast : (degreesOf angle : ℚ) + 1 ≤ bound := by exact_mod_cast less
    linarith

theorem writtenCourse_lt_iff (heading : ℚ) :
    writtenCourse heading < 360 ↔ course heading < 360 - 1 / 2 / 10 := by
  have rounded : Rounding.halfEven (course heading * 10 ^ 1) < 3600 ↔
      course heading * 10 ^ 1 < ((3600 : Int) : ℚ) - 1 / 2 := Rounding.halfEven_lt_iff (by decide)
  have left : writtenCourse heading < 360 ↔ Rounding.halfEven (course heading * 10 ^ 1) < 3600 := by
    have scale : (360 : ℚ) * 10 ^ 1 = (3600 : Int) := by norm_num
    rw [writtenCourse, div_lt_iff₀ (by norm_num), scale, Int.cast_lt]
  rw [left, rounded]
  push_cast
  constructor <;> intro below <;> linarith

theorem writtenCourse_near (heading : ℚ) :
    |writtenCourse heading - course heading| ≤ 1 / 2 / 10 := by
  have near := Rounding.abs_halfEven_sub (course heading * 10 ^ 1)
  rw [abs_le] at near ⊢
  unfold writtenCourse
  constructor <;> linarith

theorem writtenCourse_nonneg (heading : ℚ) : 0 ≤ writtenCourse heading := by
  have nonneg := (course_range heading).1
  have rounded : 0 ≤ Rounding.halfEven (course heading * 10 ^ 1) :=
    Rounding.halfEven_nonneg (by positivity)
  have cast : (0 : ℚ) ≤ Rounding.halfEven (course heading * 10 ^ 1) := by exact_mod_cast rounded
  unfold writtenCourse
  positivity

theorem writtenSpeed_near (speed : ℚ) :
    |writtenSpeed speed - speed| ≤ 1 / 2 / 10 ^ 2 * (1852 / 1000) := by
  have near := Rounding.abs_halfEven_sub (speed / (1852 / 1000) * 10 ^ 2)
  rw [abs_le] at near ⊢
  unfold writtenSpeed
  constructor <;> linarith

theorem writtenSpeed_nonneg {speed : ℚ} (nonneg : 0 ≤ speed) : 0 ≤ writtenSpeed speed := by
  have rounded : 0 ≤ Rounding.halfEven (speed / (1852 / 1000) * 10 ^ 2) :=
    Rounding.halfEven_nonneg (by positivity)
  have cast : (0 : ℚ) ≤ Rounding.halfEven (speed / (1852 / 1000) * 10 ^ 2) := by
    exact_mod_cast rounded
  unfold writtenSpeed
  positivity

end Ranges

section RoundTrip

variable {runtime : Runtime}

/-- The decoder finds one fix in the sentence, next to what was written. -/
def CarriesFix (runtime : Runtime) (decoder : NmeaDecoder) (sentence : Sentence)
    (lat lon speed heading : ℚ) : Prop :=
  ∃ lat' lon' speed' heading' mode, (decoder.decode runtime sentence).2 =
      .ok (rmcValues decoder.source
        ⟨.finite lat', .finite lon', .finite speed', .finite heading'⟩ mode) ∧
    |lat' - lat| ≤ halfPlace coordDecimals ∧ |lon' - lon| ≤ halfPlace coordDecimals ∧
    |speed' - speed| ≤ 1 / 2 / 10 ^ 2 * (1852 / 1000) ∧
    ∃ turns : Int, |heading' - (heading - 360 * turns)| ≤ 1 / 2 / 10

/-- Nothing in the sentence is written as a value out of the decoder's range. -/
def Accepted (lat lon heading : ℚ) : Prop :=
  writtenMinutes coordDecimals lat < 60 ∧ writtenMinutes coordDecimals lon < 60 ∧
    writtenCourse heading < 360

/-- What the decoder makes of the fields. -/
theorem rmcFix_written (exact : runtime.double = .finite) {lat lon speed : ℚ}
    (latRange : |lat| ≤ 90) (lonRange : |lon| ≤ 180) (forward : 0 ≤ speed) (heading : ℚ)
    (fix : RmcFix) :
    rmcFix runtime (splitOn ',' (rmcBody lat lon speed heading)) = .ok fix ↔
      Accepted lat lon heading ∧
        fix = ⟨.finite (writtenAngle coordDecimals lat), .finite (writtenAngle coordDecimals lon),
          .finite (writtenSpeed speed), .finite (writtenCourse heading)⟩ := by
  have latFits := degreesOf_fits 90 (by exact_mod_cast latRange)
  have lonFits := degreesOf_fits 180 (by exact_mod_cast lonRange)
  have latLetters : lettersOf 2 = ('N', 'S') := rfl
  have lonLetters : lettersOf 3 = ('E', 'W') := rfl
  have readLat := coordinate_written exact coordWidth coordDecimals (show 0 < 2 by decide)
    (by decide) (show (degreesOf lat).toNat < 10 ^ 2 by omega)
  have readLon := coordinate_written exact coordWidth coordDecimals (show 0 < 3 by decide)
    (by decide) (show (degreesOf lon).toNat < 10 ^ 3 by omega)
  rw [latLetters] at readLat
  rw [lonLetters] at readLon
  dsimp only at readLat readLon
  have knots : runtime.float (formatFixed 0 2 (speed / (1852 / 1000))) =
      .ok (.finite ((Rounding.halfEven (speed / (1852 / 1000) * 10 ^ 2) : ℚ) / 10 ^ 2)) := by
    rw [float_formatFixed 0 2 (by positivity), exact]
  have turned : runtime.float (formatFixed 0 1 (course heading)) =
      .ok (.finite (writtenCourse heading)) := by
    rw [float_formatFixed 0 1 (course_range heading).1, exact]
    rfl
  have kmh : runtime.rounded ((PyFloat.finite
      ((Rounding.halfEven (speed / (1852 / 1000) * 10 ^ 2) : ℚ) / 10 ^ 2)).mul
        (runtime.double (1852 / 1000))) = .finite (writtenSpeed speed) := by
    simp [Runtime.rounded, PyFloat.mul, exact, writtenSpeed]
  rw [rmcFix_ok_iff, split_rmcBody]
  constructor
  · rintro ⟨lat', lon', speed', heading', read, rfl⟩
    obtain ⟨latBelow, latSame⟩ := accepted_unless_iff.mp (readLat.symm.trans read.latitude)
    obtain ⟨lonBelow, lonSame⟩ := accepted_unless_iff.mp (readLon.symm.trans read.longitude)
    obtain ⟨number, isNumber, isSpeed⟩ := read.knots
    cases knots.symm.trans isNumber
    cases turned.symm.trans read.course
    cases kmh.symm.trans isSpeed
    rw [← latSame, ← lonSame]
    exact ⟨⟨latBelow, lonBelow, read.movement.2.2⟩, rfl⟩
  · rintro ⟨⟨latBelow, lonBelow, courseBelow⟩, rfl⟩
    have latWithin := abs_le.mp (writtenAngle_within 90 (by exact_mod_cast latRange) latBelow)
    have lonWithin := abs_le.mp (writtenAngle_within 180 (by exact_mod_cast lonRange) lonBelow)
    rw [if_pos latBelow] at readLat
    rw [if_pos lonBelow] at readLon
    refine ⟨_, _, _, _, ⟨rfl, readLat, readLon, ⟨_, knots, kmh⟩, turned, ?_, ?_⟩, rfl⟩
    · exact ⟨⟨by exact_mod_cast latWithin.1, by exact_mod_cast latWithin.2⟩,
        by exact_mod_cast lonWithin.1, by exact_mod_cast lonWithin.2⟩
    · exact ⟨writtenSpeed_nonneg forward, writtenCourse_nonneg heading, courseBelow⟩

theorem readSentence_framed (runtime : Runtime) (source : String) {body : Text}
    (inner : Inner body) :
    readSentence runtime source (.bytes (encodeAscii (framedSentence body))) =
      decodeFields runtime source (splitOn ',' body) := by
  rw [readSentence, text_encodeAscii (framedSentence_ascii inner)]
  show (validatedBody _ _ >>= fun body => decodeFields _ _ (splitOn ',' body)) = _
  rw [framedSentence_valid runtime inner]
  rfl

/-- Twelve fields behind `GPRMC` are decoded as a fix in the mode of the last one. -/
theorem decodeFields_rmc (runtime : Runtime) (source : String) {fields : List Text}
    (talker : fieldAt fields 0 = "GPRMC".toList) (long : fields.length = 13)
    (mode : fieldAt fields 12 = ['A']) :
    decodeFields runtime source fields =
      (rmcFix runtime fields).map fun fix => (Kind.rmc, rmcValues source fix ['A']) := by
  have last : lastChars 3 "GPRMC".toList = "RMC".toList := by decide
  have full : rmcMode fields = ['A'] := by
    rw [rmcMode, if_pos ⟨by omega, by simp [mode]⟩, mode]
  rw [decodeFields, talker, last, if_neg (by decide), if_neg (by decide),
    if_neg (not_not.mpr rfl), decodeRmc, if_neg (by omega), full]
  cases rmcFix runtime fields <;> rfl

/-- The decoder takes the sentence for an RMC sentence. -/
theorem decode_rmcSentence (runtime : Runtime) (decoder : NmeaDecoder)
    (lat lon speed heading : ℚ) {values : Values} (some : values ≠ []) :
    (decoder.decode runtime (.bytes (rmcSentence lat lon speed heading))).2 = .ok values ↔
      ∃ fix, rmcFix runtime (splitOn ',' (rmcBody lat lon speed heading)) = .ok fix ∧
        values = rmcValues decoder.source fix ['A'] := by
  have inner := inner_rmcBody lat lon speed heading
  have fields := split_rmcBody lat lon speed heading
  have talker : fieldAt (splitOn ',' (rmcBody lat lon speed heading)) 0 = "GPRMC".toList := by
    rw [fields]
    rfl
  have long : (splitOn ',' (rmcBody lat lon speed heading)).length = 13 := by
    rw [fields]
    rfl
  have mode : fieldAt (splitOn ',' (rmcBody lat lon speed heading)) 12 = ['A'] := by
    rw [fields]
    rfl
  rw [decode_values, valuesOf, rmcSentence, readSentence_framed runtime _ inner,
    decodeFields_rmc runtime _ talker long mode]
  cases rmcFix runtime (splitOn ',' (rmcBody lat lon speed heading)) with
  | error error =>
    constructor
    · intro nothing
      exact absurd (Except.ok.inj nothing).symm some
    · rintro ⟨fix, fails, -⟩
      cases fails
  | ok fix =>
    constructor
    · intro same
      exact ⟨fix, rfl, (Except.ok.inj same).symm⟩
    · rintro ⟨fix', same, rfl⟩
      cases same
      rfl

/-- In exact arithmetic the fix comes back within half a unit of the last places, unless its
minutes are that close below a whole degree or its course that close below a full turn. -/
theorem rmc_round_trip (space : Char → Bool) (decimal : Char → Option Nat) (upper : Char → Text)
    (decoder : NmeaDecoder) (lat lon speed heading : ℚ) (latRange : |lat| ≤ 90)
    (lonRange : |lon| ≤ 180) (forward : 0 ≤ speed) :
    CarriesFix ⟨space, decimal, upper, .finite⟩ decoder
        (.bytes (rmcSentence lat lon speed heading)) lat lon speed heading ↔
      minutesOf lat < 60 - 1 / 2 / 10 ^ 9 ∧ minutesOf lon < 60 - 1 / 2 / 10 ^ 9 ∧
        course heading < 360 - 1 / 2 / 10 := by
  have exact : (⟨space, decimal, upper, .finite⟩ : Runtime).double = .finite := rfl
  have written := rmcFix_written exact latRange lonRange forward heading
  have accepted : Accepted lat lon heading ↔
      minutesOf lat < 60 - 1 / 2 / 10 ^ 9 ∧ minutesOf lon < 60 - 1 / 2 / 10 ^ 9 ∧
        course heading < 360 - 1 / 2 / 10 := by
    unfold Accepted
    rw [writtenMinutes_lt_iff, writtenMinutes_lt_iff, writtenCourse_lt_iff]
    rfl
  rw [← accepted]
  constructor
  · rintro ⟨lat', lon', speed', heading', mode, decoded, -⟩
    obtain ⟨fix, read, -⟩ := (decode_rmcSentence _ decoder lat lon speed heading
      (by simp [rmcValues])).mp decoded
    exact ((written fix).mp read).1
  · intro fits
    refine ⟨_, _, _, _, ['A'], (decode_rmcSentence _ decoder lat lon speed heading
      (by simp [rmcValues])).mpr ⟨_, (written _).mpr ⟨fits, rfl⟩, rfl⟩, ?_⟩
    refine ⟨writtenAngle_near _ lat, writtenAngle_near _ lon, writtenSpeed_near speed,
      ⌊heading / 360⌋, ?_⟩
    exact writtenCourse_near heading

theorem rmc_round_trip_greenwich :
    CarriesFix plainRuntime ⟨"gnss", "um980", {}⟩ (.bytes (rmcSentence (103 / 2) (-1 / 8) 100 (-90)))
      (103 / 2) (-1 / 8) 100 (-90) :=
  (rmc_round_trip (fun _ => false) (fun _ => none) (fun char => [char]) ⟨"gnss", "um980", {}⟩
    (103 / 2) (-1 / 8) 100 (-90) (by decide +kernel) (by decide +kernel) (by decide +kernel)).mpr
      ⟨by decide +kernel, by decide +kernel, by decide +kernel⟩

/-- A course of 359.96 degrees is written as 360.0, which the decoder refuses. -/
theorem rmc_refused_below_north :
    ¬CarriesFix plainRuntime ⟨"gnss", "um980", {}⟩
      (.bytes (rmcSentence (103 / 2) (-1 / 8) 100 (35996 / 100))) (103 / 2) (-1 / 8) 100
        (35996 / 100) := by
  rintro ⟨lat', lon', speed', heading', mode, decoded, -⟩
  obtain ⟨fix, read, -⟩ := (decode_rmcSentence _ _ _ _ _ _ (by simp [rmcValues])).mp decoded
  have exact : plainRuntime.double = .finite := rfl
  have fits := ((rmcFix_written exact (by decide +kernel) (by decide +kernel) (by decide +kernel) _
    fix).mp read).1
  exact absurd fits.2.2 (by decide +kernel)

end RoundTrip

end OpenLaps.Bench

import OpenLaps.Collectors.NmeaWriting

/- The GGA sentence that the NTRIP client sends upstream (`pit/ntrip_client/gga.py`), and what
the decoder reads in its position. -/
namespace OpenLaps.Gga
open Strings Nmea

/-- The time of day of a `datetime`. -/
structure When where
  hour : Nat
  minute : Nat
  second : Nat
  microsecond : Nat
  bounds : hour < 24 ∧ minute < 60 ∧ second < 60 ∧ microsecond < 1000000

/-- `when.strftime("%H%M%S") + f".{when.microsecond // 10_000:02d}"`. -/
def timeField (when : When) : Text :=
  formatInt 2 when.hour ++ formatInt 2 when.minute ++ formatInt 2 when.second ++
    '.' :: formatInt 2 (when.microsecond / 10000)

def ggaBody (when : When) (lat lon : ℚ) : Text :=
  "GPGGA".toList ++ ',' :: (timeField when ++ ',' ::
    positionText 7 4 lat lon "1,08,1.0,0.0,M,0.0,M,,".toList)

/-- `build_gga`. -/
def buildGga (when : When) (lat lon : ℚ) : Bytes := encodeAscii (framedSentence (ggaBody when lat lon))

theorem plain_timeField (when : When) : Plain (timeField when) := by
  intro char member
  simp only [timeField, List.mem_append, List.mem_cons] at member
  rcases member with ((hour | minute) | second) | (rfl | hundredth)
  · exact .inl (decimal_formatInt _ _ char hour)
  · exact .inl (decimal_formatInt _ _ char minute)
  · exact .inl (decimal_formatInt _ _ char second)
  · exact .inr rfl
  · exact .inl (decimal_formatInt _ _ char hundredth)

theorem inner_ggaBody (when : When) (lat lon : ℚ) : Inner (ggaBody when lat lon) := by
  have comma : isAscii ',' = true ∧ ',' ≠ '*' := by decide
  refine Inner.append (inner_of_all (by decide)) (.cons comma.1 comma.2 ?_)
  refine (inner_plain (plain_timeField when)).append (.cons comma.1 comma.2 ?_)
  exact inner_positionText 7 4 lat lon (inner_of_all (by decide))

/-- The fields of the sentence. -/
theorem split_ggaBody (when : When) (lat lon : ℚ) : splitOn ',' (ggaBody when lat lon) =
    "GPGGA".toList :: timeField when ::
      coordinateField 2 7 4 (hemisphere 'N' 'S' lat).2 :: [(hemisphere 'N' 'S' lat).1] ::
      coordinateField 3 7 4 (hemisphere 'E' 'W' lon).2 :: [(hemisphere 'E' 'W' lon).1] ::
      splitOn ',' "1,08,1.0,0.0,M,0.0,M,,".toList := by
  rw [ggaBody, splitOn_field (by decide), splitOn_field (plain_comma (plain_timeField when)),
    split_positionText]

/-- The sentence passes the check of its frame, and its position is read next to `lat` and
`lon`. -/
def ReadsBack (runtime : Runtime) (sentence : Sentence) (lat lon : ℚ) : Prop :=
  ∃ text body, sentence.text = .ok text ∧ validatedBody runtime (runtime.strip text) = .ok body ∧
    let fields := splitOn ',' body
    (∃ value, coordinate runtime (fieldAt fields 2) (fieldAt fields 3) 2 = .ok (.finite value) ∧
      |value - lat| ≤ halfPlace 4) ∧
    ∃ value, coordinate runtime (fieldAt fields 4) (fieldAt fields 5) 3 = .ok (.finite value) ∧
      |value - lon| ≤ halfPlace 4

/-- What is read are the four fields that were written. -/
theorem readsBack_iff (runtime : Runtime) (when : When) (lat lon : ℚ) :
    ReadsBack runtime (.bytes (buildGga when lat lon)) lat lon ↔
      (∃ value, coordinate runtime (coordinateField 2 7 4 (hemisphere 'N' 'S' lat).2)
        [(hemisphere 'N' 'S' lat).1] 2 = .ok (.finite value) ∧ |value - lat| ≤ halfPlace 4) ∧
      ∃ value, coordinate runtime (coordinateField 3 7 4 (hemisphere 'E' 'W' lon).2)
        [(hemisphere 'E' 'W' lon).1] 3 = .ok (.finite value) ∧ |value - lon| ≤ halfPlace 4 := by
  have inner := inner_ggaBody when lat lon
  have text := text_encodeAscii (framedSentence_ascii inner)
  have valid := framedSentence_valid runtime inner
  have fields := split_ggaBody when lat lon
  constructor
  · rintro ⟨text', body, read, check, latBack, lonBack⟩
    rw [buildGga, text] at read
    cases read
    rw [valid] at check
    cases check
    rw [fields] at latBack lonBack
    exact ⟨latBack, lonBack⟩
  · rintro ⟨latBack, lonBack⟩
    refine ⟨_, _, text, valid, ?_⟩
    rw [fields]
    exact ⟨latBack, lonBack⟩

/-- In exact arithmetic a position comes back within half a unit of the last place, unless its
minutes are that close below a whole degree. -/
theorem gga_reads_back (space : Char → Bool) (decimal : Char → Option Nat) (upper : Char → Text)
    (when : When) (lat lon : ℚ) (latRange : |lat| ≤ 90) (lonRange : |lon| ≤ 180) :
    ReadsBack ⟨space, decimal, upper, .finite⟩ (.bytes (buildGga when lat lon)) lat lon ↔
      minutesOf lat < 60 - 1 / 2 / 10 ^ 4 ∧ minutesOf lon < 60 - 1 / 2 / 10 ^ 4 := by
  have latFits := degreesOf_fits 90 (by exact_mod_cast latRange)
  have lonFits := degreesOf_fits 180 (by exact_mod_cast lonRange)
  have exact : (⟨space, decimal, upper, .finite⟩ : Runtime).double = .finite := rfl
  have latLetters : lettersOf 2 = ('N', 'S') := rfl
  have lonLetters : lettersOf 3 = ('E', 'W') := rfl
  have readLat := coordinate_near_iff exact 2 7 4 (by decide) (by decide)
    (show (degreesOf lat).toNat < 10 ^ 2 by omega) latLetters
  have readLon := coordinate_near_iff exact 3 7 4 (by decide) (by decide)
    (show (degreesOf lon).toNat < 10 ^ 3 by omega) lonLetters
  rw [readsBack_iff, readLat, readLon]

theorem noon_bounds : 12 < 24 ∧ 0 < 60 ∧ 0 < 60 ∧ 0 < 1000000 := by decide

def noon : When := ⟨12, 0, 0, 0, noon_bounds⟩

theorem gga_reads_back_greenwich : ReadsBack plainRuntime
    (.bytes (buildGga noon (103 / 2) (-1 / 8))) (103 / 2) (-1 / 8) :=
  (gga_reads_back (fun _ => false) (fun _ => none) (fun char => [char]) noon (103 / 2) (-1 / 8)
    (by decide +kernel) (by decide +kernel)).mpr ⟨by decide +kernel, by decide +kernel⟩

/-- A ten-millionth of a degree below 52 is written as 51 degrees and 60.0000 minutes, which the
decoder refuses. -/
theorem gga_refused_below_degree : ¬ReadsBack plainRuntime
    (.bytes (buildGga noon (519999999 / 10000000) 0)) (519999999 / 10000000) 0 := by
  intro back
  obtain ⟨⟨value, read, -⟩, -⟩ := (readsBack_iff _ _ _ _).mp back
  have refused : coordinate plainRuntime
      (coordinateField 2 7 4 (hemisphere 'N' 'S' (519999999 / 10000000)).2)
      [(hemisphere 'N' 'S' (519999999 / 10000000)).1] 2 =
        .error (.valueError "invalid NMEA coordinate minutes") := by
    have exact : plainRuntime.double = .finite := rfl
    have written := coordinate_written exact 7 4 (show 0 < 2 by decide) (by decide)
      (show (degreesOf (519999999 / 10000000)).toNat < 10 ^ 2 by decide +kernel)
    rw [if_neg (by decide +kernel)] at written
    exact written
  rw [refused] at read
  cases read

end OpenLaps.Gga

import OpenLaps.Collectors.NmeaFraming

/- The position of a sentence as the encoders of the repository write it, and what the decoder
reads in it. -/
namespace OpenLaps.Nmea
open Strings

/-- `("N", lat) if lat >= 0 else ("S", -lat)`. -/
def hemisphere (positive negative : Char) (angle : ℚ) : Char × ℚ :=
  if 0 ≤ angle then (positive, angle) else (negative, -angle)

/-- `f"{int(angle):02d}{(angle - int(angle)) * 60:07.4f}"` of an angle that is not negative,
with other widths for other fields. -/
def coordinateField (degreeDigits width places : Nat) (angle : ℚ) : Text :=
  formatInt degreeDigits ⌊angle⌋.toNat ++ formatFixed width places ((angle - ⌊angle⌋) * 60)

/-- `{lat_field},{ns},{lon_field},{ew},` and what follows. -/
def positionText (width places : Nat) (lat lon : ℚ) (rest : Text) : Text :=
  let (ns, alat) := hemisphere 'N' 'S' lat
  let (ew, alon) := hemisphere 'E' 'W' lon
  let latField := coordinateField 2 width places alat
  let lonField := coordinateField 3 width places alon
  latField ++ ',' :: ns :: ',' :: (lonField ++ ',' :: ew :: ',' :: rest)

/-- `sentence.encode("ascii")` of a text that is ASCII. -/
def encodeAscii (text : Text) : Bytes := text.map fun char => UInt8.ofNat char.toNat

/-- `f"${body}*{checksum:02X}\\r\\n"`. -/
def framedSentence (body : Text) : Text :=
  '$' :: (body ++ '*' :: (formatHex 2 (checksum body) ++ ['\r', '\n']))

/-- The whole degrees of an angle. -/
def degreesOf (angle : ℚ) : Int := ⌊|angle|⌋

/-- The minutes of arc beyond the whole degrees. -/
def minutesOf (angle : ℚ) : ℚ := (|angle| - degreesOf angle) * 60

/-- The minutes as they are written. -/
def writtenMinutes (places : Nat) (angle : ℚ) : ℚ :=
  (Rounding.halfEven (minutesOf angle * 10 ^ places) : ℚ) / 10 ^ places

/-- The angle as it is written. -/
def writtenAngle (places : Nat) (angle : ℚ) : ℚ :=
  let size := degreesOf angle + writtenMinutes places angle / 60
  if 0 ≤ angle then size else -size

theorem hemisphere_snd (positive negative : Char) (angle : ℚ) :
    (hemisphere positive negative angle).2 = |angle| := by
  unfold hemisphere
  split
  · rename_i north
    rw [abs_of_nonneg north]
  · rename_i south
    rw [abs_of_neg (not_le.mp south)]

theorem minutesOf_range (angle : ℚ) : 0 ≤ minutesOf angle ∧ minutesOf angle < 60 := by
  have below := Int.floor_le |angle|
  have above := Int.lt_floor_add_one |angle|
  unfold minutesOf degreesOf
  constructor <;> linarith

theorem writtenMinutes_nonneg (places : Nat) (angle : ℚ) : 0 ≤ writtenMinutes places angle := by
  have nonneg := (minutesOf_range angle).1
  have rounded : 0 ≤ Rounding.halfEven (minutesOf angle * 10 ^ places) :=
    Rounding.halfEven_nonneg (by positivity)
  have cast : (0 : ℚ) ≤ Rounding.halfEven (minutesOf angle * 10 ^ places) := by exact_mod_cast rounded
  unfold writtenMinutes
  positivity

/-- Half a unit of the last place of the minutes, in degrees. -/
def halfPlace (places : Nat) : ℚ := 1 / 2 / 10 ^ places / 60

theorem writtenMinutes_near (places : Nat) (angle : ℚ) :
    |writtenMinutes places angle - minutesOf angle| ≤ 1 / 2 / 10 ^ places := by
  have near := Rounding.abs_halfEven_sub (minutesOf angle * 10 ^ places)
  have scale : (0 : ℚ) < 10 ^ places := by positivity
  have same : writtenMinutes places angle - minutesOf angle =
      (Rounding.halfEven (minutesOf angle * 10 ^ places) - minutesOf angle * 10 ^ places) /
        10 ^ places := by
    unfold writtenMinutes
    field_simp
  rw [same, abs_div, abs_of_pos scale]
  exact div_le_div_of_nonneg_right near scale.le

/-- What is written is next to the angle. -/
theorem writtenAngle_near (places : Nat) (angle : ℚ) :
    |writtenAngle places angle - angle| ≤ halfPlace places := by
  have near := writtenMinutes_near places angle
  have split : |angle| = degreesOf angle + minutesOf angle / 60 := by
    unfold minutesOf
    ring
  have size : |degreesOf angle + writtenMinutes places angle / 60 - (|angle|)| ≤
      halfPlace places := by
    have gap : degreesOf angle + writtenMinutes places angle / 60 - |angle| =
        (writtenMinutes places angle - minutesOf angle) / 60 := by
      linarith
    rw [gap, abs_div, abs_of_pos (by norm_num : (0 : ℚ) < 60), halfPlace]
    exact div_le_div_of_nonneg_right near (by norm_num)
  unfold writtenAngle
  dsimp only
  split
  · rename_i north
    rwa [abs_of_nonneg north] at size
  · rename_i south
    rw [abs_of_neg (not_le.mp south)] at size
    rw [← abs_neg]
    convert size using 2
    ring

/-- The last half unit below a whole degree is written as sixty minutes. -/
theorem writtenMinutes_lt_iff (places : Nat) (angle : ℚ) :
    writtenMinutes places angle < 60 ↔ minutesOf angle < 60 - 1 / 2 / 10 ^ places := by
  have scale : (0 : ℚ) < 10 ^ places := by positivity
  have even : (60 * 10 ^ places : Int) % 2 = 0 := by
    rw [show (60 : Int) * 10 ^ places = 2 * (30 * 10 ^ places) by ring]
    exact Int.mul_emod_right 2 _
  have rounded : Rounding.halfEven (minutesOf angle * 10 ^ places) < 60 * 10 ^ places ↔
      minutesOf angle * 10 ^ places < ((60 * 10 ^ places : Int) : ℚ) - 1 / 2 :=
    Rounding.halfEven_lt_iff even
  have left : writtenMinutes places angle < 60 ↔
      Rounding.halfEven (minutesOf angle * 10 ^ places) < 60 * 10 ^ places := by
    unfold writtenMinutes
    rw [div_lt_iff₀ scale]
    exact_mod_cast Iff.rfl
  rw [left, rounded]
  push_cast
  rw [show (60 : ℚ) * 10 ^ places - 1 / 2 = (60 - 1 / 2 / 10 ^ places) * 10 ^ places by field_simp]
  exact mul_lt_mul_iff_left₀ scale

section Reading

variable {runtime : Runtime}

/-- The position fields of the decoder by their number of degree digits. -/
def lettersOf (degreeDigits : Nat) : Char × Char := if degreeDigits = 2 then ('N', 'S') else ('E', 'W')

/-- A written coordinate is accepted unless its minutes came to sixty. -/
theorem coordinate_written (exact : runtime.double = .finite) {degreeDigits : Nat}
    (width places : Nat) {angle : ℚ} (some : 0 < degreeDigits) (few : degreeDigits ≤ maxStrDigits)
    (fits : (degreesOf angle).toNat < 10 ^ degreeDigits) :
    let letters := lettersOf degreeDigits
    let written := hemisphere letters.1 letters.2 angle
    coordinate runtime (coordinateField degreeDigits width places written.2) [written.1]
        degreeDigits =
      if writtenMinutes places angle < 60 then .ok (.finite (writtenAngle places angle))
      else .error (.valueError "invalid NMEA coordinate minutes") := by
  intro letters written
  have length : (formatInt degreeDigits (degreesOf angle).toNat).length = degreeDigits :=
    formatInt_length some fits
  have field : coordinateField degreeDigits width places written.2 =
      formatInt degreeDigits (degreesOf angle).toNat ++ formatFixed width places (minutesOf angle) := by
    rw [show written.2 = |angle| from hemisphere_snd _ _ angle]
    rfl
  have long : ¬(coordinateField degreeDigits width places written.2).length ≤ degreeDigits := by
    rw [field, List.length_append, length, formatFixed, List.length_append, List.length_cons]
    omega
  have degrees : runtime.int (formatInt degreeDigits (degreesOf angle).toNat) =
      .ok (degreesOf angle) := by
    rw [int_digits (decimal_formatInt _ _) (formatInt_ne_nil _ _) (by omega), digitsValue_formatInt]
    have nonneg : 0 ≤ degreesOf angle := Int.floor_nonneg.mpr (abs_nonneg angle)
    rw [Int.toNat_of_nonneg nonneg]
  have minutes : runtime.float (formatFixed width places (minutesOf angle)) =
      .ok (.finite (writtenMinutes places angle)) := by
    rw [float_formatFixed width places (minutesOf_range angle).1, exact]
    rfl
  have nonneg := writtenMinutes_nonneg places angle
  rw [coordinate, if_neg long, field, List.take_left' length, List.drop_left' length, degrees,
    minutes]
  show (if _ then _ else _ : Except PyError PyFloat) = _
  have upper : ((PyFloat.finite (writtenMinutes places angle)).lt (.finite 0) ||
      (PyFloat.finite 60).le (.finite (writtenMinutes places angle))) =
        decide (¬writtenMinutes places angle < 60) := by
    simp [PyFloat.le, nonneg]
  rw [upper]
  by_cases accepted : writtenMinutes places angle < 60
  · rw [if_pos accepted, if_neg (by simp [accepted])]
    have value : runtime.rounded ((PyFloat.finite (degreesOf angle)).add
        (runtime.rounded ((PyFloat.finite (writtenMinutes places angle)).div 60))) =
          .finite (degreesOf angle + writtenMinutes places angle / 60) := by
      simp [Runtime.rounded, PyFloat.div, PyFloat.add, exact]
    rw [value]
    show (if [written.1] = [letters.2] then _ else if [written.1] ≠ [letters.1] then _ else _ :
      Except PyError PyFloat) = _
    have apart : letters.1 ≠ letters.2 := by
      unfold letters lettersOf
      split <;> decide
    unfold written hemisphere writtenAngle
    split_ifs with north <;> simp_all [neg]
  · rw [if_neg accepted, if_pos (by simp [accepted])]

/-- A coordinate reads back next to the angle exactly if its minutes are not written as sixty. -/
theorem coordinate_near_iff (exact : runtime.double = .finite) (degreeDigits width places : Nat)
    {angle : ℚ} (some : 0 < degreeDigits) (few : degreeDigits ≤ maxStrDigits)
    (fits : (degreesOf angle).toNat < 10 ^ degreeDigits) {positive negative : Char}
    (letters : lettersOf degreeDigits = (positive, negative)) :
    (∃ value, coordinate runtime
      (coordinateField degreeDigits width places (hemisphere positive negative angle).2)
      [(hemisphere positive negative angle).1] degreeDigits = .ok (.finite value) ∧
        |value - angle| ≤ halfPlace places) ↔ minutesOf angle < 60 - 1 / 2 / 10 ^ places := by
  have written := coordinate_written exact width places some few fits
  rw [letters] at written
  dsimp only at written
  rw [written, ← writtenMinutes_lt_iff]
  constructor
  · rintro ⟨value, read, -⟩
    by_contra over60
    rw [if_neg over60] at read
    cases read
  · intro below
    refine ⟨writtenAngle places angle, ?_, writtenAngle_near places angle⟩
    rw [if_pos below]

theorem degreesOf_fits {angle : ℚ} (bound : Nat) (within : |angle| ≤ bound) :
    (degreesOf angle).toNat ≤ bound := by
  have floor : degreesOf angle ≤ bound := by
    have cast : (degreesOf angle : ℚ) ≤ bound := (Int.floor_le |angle|).trans within
    exact_mod_cast cast
  omega

end Reading

section Sentences

variable {runtime : Runtime}

/-- A text of ASCII characters that leaves the frame of a sentence alone. -/
structure Inner (text : Text) : Prop where
  ascii : ∀ char ∈ text, isAscii char = true
  star : '*' ∉ text

/-- A literal text, by testing its characters. -/
theorem inner_of_all {text : Text} (all : text.all (fun char => isAscii char && char ≠ '*') = true) :
    Inner text where
  ascii char member := by
    have tested := List.all_eq_true.mp all char member
    exact ((Bool.and_eq_true _ _).mp tested).1
  star member := by
    have tested := List.all_eq_true.mp all '*' member
    revert tested
    decide

theorem Inner.append {first second : Text} (inner : Inner first) (inner' : Inner second) :
    Inner (first ++ second) where
  ascii := by
    intro char member
    rcases List.mem_append.mp member with left | right
    · exact inner.ascii char left
    · exact inner'.ascii char right
  star := by
    intro member
    rcases List.mem_append.mp member with left | right
    · exact inner.star left
    · exact inner'.star right

theorem Inner.cons {char : Char} {text : Text} (ascii : isAscii char = true) (other : char ≠ '*')
    (inner : Inner text) : Inner (char :: text) where
  ascii := by
    intro each member
    rcases List.mem_cons.mp member with rfl | inside
    · exact ascii
    · exact inner.ascii each inside
  star := by
    intro member
    rcases List.mem_cons.mp member with same | inside
    · exact other same.symm
    · exact inner.star inside

theorem inner_plain {text : Text} (plain : Plain text) : Inner text where
  ascii := fun char member => (plain_char (plain char member)).1
  star := by
    intro member
    rcases plain '*' member with digit | point
    · simp at digit
    · simp at point

theorem plain_comma {text : Text} (plain : Plain text) : ',' ∉ text := by
  intro member
  rcases plain ',' member with digit | point
  · simp at digit
  · simp at point

theorem plain_formatFixed (width places : Nat) (value : ℚ) : Plain (formatFixed width places value) := by
  intro char member
  unfold formatFixed at member
  rcases List.mem_append.mp member with whole | rest
  · exact .inl (decimal_formatInt _ _ char whole)
  · rcases List.mem_cons.mp rest with rfl | fraction
    · exact .inr rfl
    · exact .inl (decimal_digits _ _ char fraction)

theorem plain_coordinateField (degreeDigits width places : Nat) (angle : ℚ) :
    Plain (coordinateField degreeDigits width places angle) := by
  intro char member
  rcases List.mem_append.mp member with degrees | minutes
  · exact .inl (decimal_formatInt _ _ char degrees)
  · exact plain_formatFixed _ _ _ char minutes

theorem hemisphere_letter (positive negative : Char) (angle : ℚ) :
    (hemisphere positive negative angle).1 ∈ [positive, negative] := by
  unfold hemisphere
  split <;> simp

/-- The letter of a hemisphere stands for itself in a field. -/
theorem hemisphere_plain {positive negative : Char} (angle : ℚ)
    (letters : (positive, negative) ∈ [('N', 'S'), ('E', 'W')]) :
    isAscii (hemisphere positive negative angle).1 = true ∧
      (hemisphere positive negative angle).1 ≠ '*' ∧
      (hemisphere positive negative angle).1 ≠ ',' := by
  have each : ∀ char ∈ ['N', 'S', 'E', 'W'], isAscii char = true ∧ char ≠ '*' ∧ char ≠ ',' :=
    forall_of_all (by decide)
  apply each
  have letter := hemisphere_letter positive negative angle
  rcases List.mem_pair.mp letters with pair | pair
  · cases pair
    simpa [or_assoc] using List.mem_append_left ['E', 'W'] letter
  · cases pair
    simpa [or_assoc] using List.mem_append_right ['N', 'S'] letter

theorem latitude_plain (lat : ℚ) : isAscii (hemisphere 'N' 'S' lat).1 = true ∧
    (hemisphere 'N' 'S' lat).1 ≠ '*' ∧ (hemisphere 'N' 'S' lat).1 ≠ ',' :=
  hemisphere_plain lat (by simp)

theorem longitude_plain (lon : ℚ) : isAscii (hemisphere 'E' 'W' lon).1 = true ∧
    (hemisphere 'E' 'W' lon).1 ≠ '*' ∧ (hemisphere 'E' 'W' lon).1 ≠ ',' :=
  hemisphere_plain lon (by simp)

theorem inner_positionText (width places : Nat) (lat lon : ℚ) {rest : Text} (inner : Inner rest) :
    Inner (positionText width places lat lon rest) := by
  have comma : isAscii ',' = true ∧ ',' ≠ '*' := by decide
  obtain ⟨nsAscii, nsStar, -⟩ := latitude_plain lat
  obtain ⟨ewAscii, ewStar, -⟩ := longitude_plain lon
  refine (inner_plain (plain_coordinateField _ _ _ _)).append (.cons comma.1 comma.2 ?_)
  refine .cons nsAscii nsStar (.cons comma.1 comma.2 ?_)
  refine (inner_plain (plain_coordinateField _ _ _ _)).append (.cons comma.1 comma.2 ?_)
  exact .cons ewAscii ewStar (.cons comma.1 comma.2 inner)

/-- The four fields of a position. -/
theorem split_positionText (width places : Nat) (lat lon : ℚ) (rest : Text) :
    splitOn ',' (positionText width places lat lon rest) =
      coordinateField 2 width places (hemisphere 'N' 'S' lat).2 :: [(hemisphere 'N' 'S' lat).1] ::
      coordinateField 3 width places (hemisphere 'E' 'W' lon).2 :: [(hemisphere 'E' 'W' lon).1] ::
      splitOn ',' rest := by
  obtain ⟨-, -, ns⟩ := latitude_plain lat
  obtain ⟨-, -, ew⟩ := longitude_plain lon
  unfold positionText
  dsimp only
  rw [splitOn_field (plain_comma (plain_coordinateField _ _ _ _)), splitOn_letter ns,
    splitOn_field (plain_comma (plain_coordinateField _ _ _ _)), splitOn_letter ew]

theorem checksum_lt {body : Text} (ascii : ∀ char ∈ body, isAscii char = true) :
    checksum body < 2 ^ 7 := by
  induction body with
  | nil => decide
  | cons char rest ih =>
      rw [checksum_cons]
      have here : char.toNat < 2 ^ 7 := by simpa [isAscii] using ascii char List.mem_cons_self
      exact Nat.xor_lt_two_pow here (ih fun char member => ascii char (List.mem_cons_of_mem _ member))

/-- The frame around a body is what the decoder checks. -/
theorem framedSentence_valid (runtime : Runtime) {body : Text} (inner : Inner body) :
    validatedBody runtime (runtime.strip (framedSentence body)) = .ok body := by
  have fits : checksum body < 16 ^ 2 := by
    have small := checksum_lt inner.ascii
    omega
  have length : (formatHex 2 (checksum body)).length = 2 := by
    rw [formatHex, List.length_map, Nat.max_eq_right (by decide), Numeral.digits_length (by decide) fits]
  obtain ⟨high, low, pair⟩ := List.length_eq_two.mp length
  have hex {char : Char} (member : char ∈ [high, low]) : char ∈ "0123456789ABCDEF".toList :=
    mem_formatHex (pair ▸ member)
  have each : ∀ char ∈ "0123456789ABCDEF".toList, isAscii char = true ∧ char.toUpper = char ∧
      ¬((9 ≤ char.toNat ∧ char.toNat ≤ 13) ∨ (28 ≤ char.toNat ∧ char.toNat ≤ 32)) :=
    forall_of_all (by decide)
  have framed : Framed runtime (framedSentence body) [] body high low ['\r', '\n'] := by
    refine ⟨?_, fun _ member => absurd member List.not_mem_nil, ?_, ?_, inner.star, ?_⟩
    · rw [framedSentence, pair]
      rfl
    · intro char member
      have line : ∀ char ∈ ['\r', '\n'], isAscii char = true ∧ 9 ≤ char.toNat ∧ char.toNat ≤ 13 :=
        forall_of_all (by decide)
      obtain ⟨ascii, from9, to13⟩ := line char member
      simp [Runtime.isSpace, ascii, from9, to13]
    · obtain ⟨ascii, -, visible⟩ := each low (hex (by simp))
      simpa [Runtime.isSpace, ascii] using visible
    · have upper {char : Char} (member : char ∈ [high, low]) :
          (if isAscii char then [char.toUpper] else runtime.upper char) = [char] := by
        obtain ⟨ascii, same, -⟩ := each char (hex member)
        rw [if_pos ascii, same]
      rw [pair, Runtime.upperText, List.flatMap_cons, List.flatMap_cons, List.flatMap_nil,
        upper (by simp), upper (by simp)]
      rfl
  exact framed.valid

theorem text_encodeAscii {text : Text} (ascii : ∀ char ∈ text, isAscii char = true) :
    (Sentence.bytes (encodeAscii text)).text = .ok text := by
  have small {char : Char} (member : char ∈ text) : (UInt8.ofNat char.toNat).toNat = char.toNat := by
    have bound : char.toNat < 128 := by simpa [isAscii] using ascii char member
    rw [UInt8.toNat_ofNat']
    omega
  have all : (encodeAscii text).all (· < 128) = true := by
    rw [encodeAscii, List.all_map, List.all_eq_true]
    intro char member
    have bound : char.toNat < 128 := by simpa [isAscii] using ascii char member
    have below : (UInt8.ofNat char.toNat) < 128 := by
      rw [UInt8.lt_iff_toNat_lt, small member]
      exact bound
    simpa using below
  have back : (encodeAscii text).map (fun byte => Char.ofNat byte.toNat) = text := by
    rw [encodeAscii, List.map_map]
    calc text.map ((fun byte => Char.ofNat byte.toNat) ∘ fun char => UInt8.ofNat char.toNat) =
        text.map id := List.map_congr_left fun char member => by
          show Char.ofNat (UInt8.ofNat char.toNat).toNat = char
          rw [small member, Char.ofNat_toNat]
      _ = text := List.map_id text
  rw [Sentence.text, if_pos all, back]

theorem framedSentence_ascii {body : Text} (inner : Inner body) :
    ∀ char ∈ framedSentence body, isAscii char = true := by
  have hex : Inner (formatHex 2 (checksum body) ++ ['\r', '\n']) := by
    refine Inner.append ⟨?_, ?_⟩ (inner_of_all (by decide))
    · intro char member
      have each : ∀ char ∈ "0123456789ABCDEF".toList, isAscii char = true :=
        forall_of_all (by decide)
      exact each char (mem_formatHex member)
    · intro member
      exact absurd (mem_formatHex member) (by decide)
  intro char member
  rcases List.mem_cons.mp member with rfl | rest
  · decide
  · rcases List.mem_append.mp rest with inside | behind
    · exact inner.ascii char inside
    · rcases List.mem_cons.mp behind with rfl | last
      · decide
      · exact hex.ascii char last

end Sentences

end OpenLaps.Nmea

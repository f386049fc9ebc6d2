import Mathlib.Data.List.GetD
import OpenLaps.Collectors.Nmea
import OpenLaps.Core.StringRules
import OpenLaps.Lib.Attempt

/- Which fields of a sentence its values come from, and what they come to when the checksum is
read as part of the last one. -/
namespace OpenLaps.Nmea
open Strings

variable {runtime : Runtime} {source : String}

/-- The fields once the star has become `new`: a field of its own for the checksum, or a longer
last one. -/
def joined (fields : List Text) (new : Char) (supplied : Text) : List Text :=
  if new = ',' then fields ++ [supplied]
  else fields.dropLast ++ [fields.getLastD [] ++ new :: supplied]

theorem splitOn_star (body : Text) (new : Char) {supplied : Text} (comma : ',' ∉ supplied) :
    splitOn ',' (body ++ new :: supplied) = joined (splitOn ',' body) new supplied := by
  unfold joined
  by_cases ends : new = ','
  · rw [if_pos ends, ends, splitOn_append_separator, splitOn_absent comma]
  · rw [if_neg ends]
    have absent : ',' ∉ new :: supplied := by simp [comma, Ne.symm ends]
    obtain ⟨parts, last, plain, longer⟩ := splitOn_append body absent
    rw [plain, longer]
    simp

section Joined

variable {fields : List Text} {new : Char} {supplied : Text}

theorem joined_length (new : Char) (supplied : Text) (some : fields ≠ []) :
    (joined fields new supplied).length = fields.length + if new = ',' then 1 else 0 := by
  have positive := List.length_pos_of_ne_nil some
  unfold joined
  split_ifs with comma
  · simp
  · rw [List.length_append, List.length_dropLast, List.length_singleton]
    omega

/-- The fields before the last one stay, the last one too behind a comma. -/
theorem fieldAt_joined {index : Nat} (within : index + 1 < fields.length ∨
    new = ',' ∧ index < fields.length) :
    fieldAt (joined fields new supplied) index = fieldAt fields index := by
  unfold joined fieldAt
  split_ifs with comma
  · rw [List.getD_append _ _ _ _ (by omega)]
  · have early : index < fields.dropLast.length := by
      rw [List.length_dropLast]
      rcases within with before | ⟨same, -⟩
      · omega
      · exact absurd same comma
    rw [List.getD_append _ _ _ _ early, List.getD_eq_getElem _ _ early,
      List.getD_eq_getElem _ _ (by rw [List.length_dropLast] at early; omega),
      List.getElem_dropLast]

theorem fieldAt_joined_last (supplied : Text) {index : Nat} (last : fields.length = index + 1)
    (other : new ≠ ',') :
    fieldAt (joined fields new supplied) index = fieldAt fields index ++ new :: supplied := by
  have some : fields ≠ [] := by
    rintro rfl
    simp at last
  obtain ⟨front, field, rfl⟩ := List.eq_nil_or_concat fields |>.resolve_left some
  have length : front.length = index := by simpa using last
  simp [joined, fieldAt, other, ← length]

theorem fieldAt_joined_comma {index : Nat} (last : fields.length = index) :
    fieldAt (joined fields ',' supplied) index = supplied := by
  simp [joined, fieldAt, ← last]

end Joined

section Rmc

variable {fields fields' : List Text}

theorem rmcFix_congr (same : ∀ index ≤ 8, fieldAt fields' index = fieldAt fields index) :
    rmcFix runtime fields' = rmcFix runtime fields := by
  unfold rmcFix
  rw [same 2 (by omega), same 3 (by omega), same 4 (by omega), same 5 (by omega),
    same 6 (by omega), same 7 (by omega), same 8 (by omega)]

/-- Beyond the ninth field an RMC sentence is read for its mode only. -/
theorem decodeRmc_agree {values : Values} (given : decodeRmc runtime source fields = .ok values) :
    12 ≤ fields.length ∧ ∃ fix, rmcFix runtime fields = .ok fix ∧
      values = rmcValues source fix (rmcMode fields) ∧
      ∀ fields', 12 ≤ fields'.length →
        (∀ index ≤ 8, fieldAt fields' index = fieldAt fields index) →
          decodeRmc runtime source fields' = .ok (rmcValues source fix (rmcMode fields')) := by
  unfold decodeRmc at given
  split at given
  · cases given
  · rename_i enough
    cases read : rmcFix runtime fields with
    | error error =>
        rw [read] at given
        cases given
    | ok fix =>
        rw [read] at given
        cases given
        refine ⟨by omega, fix, rfl, rfl, ?_⟩
        intro fields' long same
        rw [decodeRmc, if_neg (by omega), rmcFix_congr same, read]
        rfl

theorem rmcValues_injective (fix : RmcFix) : Function.Injective (rmcValues source fix) := by
  intro first second same
  simp only [rmcValues, List.cons.injEq, Prod.mk.injEq, SampleValue.str.injEq, true_and,
    and_true] at same
  exact String.ofList_injective same

theorem rmcFix_active {fix : RmcFix} (read : rmcFix runtime fields = .ok fix) :
    fieldAt fields 2 = ['A'] := by
  unfold rmcFix at read
  split at read
  · cases read
  · rename_i active
    exact not_not.mp active

end Rmc

section Reading

variable {β : Type}

theorem refused_unless_iff {condition : Prop} [Decidable condition] {reason : PyError}
    {attempt : Except PyError β} {result : β} :
    (if condition then .error reason else attempt) = .ok result ↔
      ¬condition ∧ attempt = .ok result := by
  by_cases holds : condition <;> simp [holds]

theorem accepted_unless_iff {condition : Prop} [Decidable condition] {reason : PyError}
    {value result : β} : (if condition then (.ok value : Except PyError β) else .error reason) =
      .ok result ↔ condition ∧ value = result := by
  by_cases holds : condition <;> simp [holds]

theorem isFinite_iff {value : PyFloat} :
    isFinite value = true ↔ ∃ number, value = .finite number := by
  cases value <;> simp [isFinite]

end Reading

section RmcFields

variable {fields : List Text}

/-- What the fields of an accepted RMC sentence say, and the ranges that they keep. -/
structure RmcRead (runtime : Runtime) (fields : List Text) (lat lon speed heading : ℚ) : Prop where
  active : fieldAt fields 2 = ['A']
  latitude : coordinate runtime (fieldAt fields 3) (fieldAt fields 4) 2 = .ok (.finite lat)
  longitude : coordinate runtime (fieldAt fields 5) (fieldAt fields 6) 3 = .ok (.finite lon)
  knots : ∃ knots, runtime.float (fieldAt fields 7) = .ok knots ∧
    runtime.rounded (knots.mul (runtime.double (1852 / 1000))) = .finite speed
  course : runtime.float (fieldAt fields 8) = .ok (.finite heading)
  position : (-90 ≤ lat ∧ lat ≤ 90) ∧ -180 ≤ lon ∧ lon ≤ 180
  movement : 0 ≤ speed ∧ 0 ≤ heading ∧ heading < 360

theorem rmcFix_ok_iff {fix : RmcFix} : rmcFix runtime fields = .ok fix ↔
    ∃ lat lon speed heading, RmcRead runtime fields lat lon speed heading ∧
      fix = ⟨.finite lat, .finite lon, .finite speed, .finite heading⟩ := by
  unfold rmcFix
  simp only [refused_unless_iff, Attempt.bind_ok, not_not]
  constructor
  · rintro ⟨active, lat, isLat, lon, isLon, knots, isKnots, heading, isHeading, finite, position,
      movement, same⟩
    cases same
    simp only [Bool.not_eq_true', Bool.not_eq_false, Bool.and_eq_true] at finite
    obtain ⟨⟨⟨latFinite, lonFinite⟩, speedFinite⟩, headingFinite⟩ := finite
    obtain ⟨latNumber, rfl⟩ := isFinite_iff.mp latFinite
    obtain ⟨lonNumber, rfl⟩ := isFinite_iff.mp lonFinite
    obtain ⟨speedNumber, isSpeed⟩ := isFinite_iff.mp speedFinite
    obtain ⟨headingNumber, rfl⟩ := isFinite_iff.mp headingFinite
    rw [isSpeed] at movement ⊢
    refine ⟨latNumber, lonNumber, speedNumber, headingNumber,
      ⟨active, isLat, isLon, ⟨knots, isKnots, isSpeed⟩, isHeading, ?_, ?_⟩, rfl⟩
    · simpa [PyFloat.le, and_assoc] using position
    · simpa [PyFloat.le] using movement
  · rintro ⟨lat, lon, speed, heading, read, rfl⟩
    obtain ⟨knots, isKnots, isSpeed⟩ := read.knots
    refine ⟨read.active, _, read.latitude, _, read.longitude, knots, isKnots, _, read.course, ?_⟩
    rw [isSpeed]
    refine ⟨by simp [isFinite], ?_, ?_, rfl⟩
    · simpa [PyFloat.le, and_assoc] using read.position
    · simpa [PyFloat.le] using read.movement

end RmcFields

section Gga

variable {fields : List Text}

/-- The values of a GGA sentence but for the separation. -/
structure GgaFix where
  quality : Int
  satellites : Int
  hdop : PyFloat
  altitude : PyFloat

def ggaValues (source : String) (fix : GgaFix) (separation : PyFloat) : Values :=
  [(source ++ ".GGA.alt", .float fix.altitude), (source ++ ".GGA.geoid_sep", .float separation),
    (source ++ ".GGA.sats", .int fix.satellites), (source ++ ".GGA.hdop", .float fix.hdop),
    (source ++ ".GGA.quality", .int fix.quality)]

/-- What the seventh to tenth field of an accepted GGA sentence say. -/
structure GgaRead (runtime : Runtime) (fields : List Text) (fix : GgaFix) : Prop where
  quality : runtime.int (fieldAt fields 6) = .ok fix.quality
  fixed : fix.quality ≠ 0
  satellites : runtime.int (fieldAt fields 7) = .ok fix.satellites
  hdop : runtime.float (fieldAt fields 8) = .ok fix.hdop
  altitude : runtime.float (fieldAt fields 9) = .ok fix.altitude
  finite : isFinite fix.hdop = true ∧ isFinite fix.altitude = true
  range : (decide (fix.satellites < 0) || fix.hdop.lt (.finite 0)) = false

theorem decodeGga_ok_iff {values : Values} : decodeGga runtime source fields = .ok values ↔
    12 ≤ fields.length ∧ ∃ fix separation, GgaRead runtime fields fix ∧
      separationOf runtime (fieldAt fields 11) = .ok (.finite separation) ∧
      values = ggaValues source fix (.finite separation) := by
  unfold decodeGga
  simp only [refused_unless_iff, Attempt.bind_ok, not_lt]
  constructor
  · rintro ⟨enough, quality, isQuality, fixed, satellites, isSatellites, hdop, isHdop, altitude,
      isAltitude, separation, isSeparation, finite, range, same⟩
    simp only [Bool.not_eq_true', Bool.not_eq_false, Bool.and_eq_true] at finite
    obtain ⟨number, rfl⟩ := isFinite_iff.mp finite.2
    cases same
    exact ⟨enough, ⟨quality, satellites, hdop, altitude⟩, number,
      ⟨isQuality, fixed, isSatellites, isHdop, isAltitude, finite.1, by simpa using range⟩,
      isSeparation, rfl⟩
  · rintro ⟨enough, fix, separation, read, isSeparation, rfl⟩
    refine ⟨enough, fix.quality, read.quality, read.fixed, fix.satellites, read.satellites,
      fix.hdop, read.hdop, fix.altitude, read.altitude, .finite separation, isSeparation, ?_, ?_,
      rfl⟩
    · rw [read.finite.1, read.finite.2, show isFinite (.finite separation) = true from rfl]
      decide
    · rw [read.range]
      decide

theorem GgaRead.congr {fields' : List Text} {fix : GgaFix} (read : GgaRead runtime fields fix)
    (same : ∀ index ≤ 9, fieldAt fields' index = fieldAt fields index) :
    GgaRead runtime fields' fix where
  quality := by rw [same 6 (by omega), read.quality]
  fixed := read.fixed
  satellites := by rw [same 7 (by omega), read.satellites]
  hdop := by rw [same 8 (by omega), read.hdop]
  altitude := by rw [same 9 (by omega), read.altitude]
  finite := read.finite
  range := read.range

theorem GgaRead.unique {fix fix' : GgaFix} (read : GgaRead runtime fields fix)
    (read' : GgaRead runtime fields fix') : fix' = fix := by
  have quality := read.quality.symm.trans read'.quality
  have satellites := read.satellites.symm.trans read'.satellites
  have hdop := read.hdop.symm.trans read'.hdop
  have altitude := read.altitude.symm.trans read'.altitude
  cases fix
  cases fix'
  cases quality
  cases satellites
  cases hdop
  cases altitude
  rfl

/-- Beyond the tenth field a GGA sentence is read for its separation only. -/
theorem decodeGga_agree {values : Values} (given : decodeGga runtime source fields = .ok values) :
    12 ≤ fields.length ∧ ∃ fix separation,
      separationOf runtime (fieldAt fields 11) = .ok (.finite separation) ∧
      values = ggaValues source fix (.finite separation) ∧
      ∀ fields', 12 ≤ fields'.length →
        (∀ index ≤ 9, fieldAt fields' index = fieldAt fields index) →
          ∀ values', decodeGga runtime source fields' = .ok values' ↔ ∃ separation',
            separationOf runtime (fieldAt fields' 11) = .ok (.finite separation') ∧
              values' = ggaValues source fix (.finite separation') := by
  obtain ⟨enough, fix, separation, read, isSeparation, rfl⟩ := decodeGga_ok_iff.mp given
  refine ⟨enough, fix, separation, isSeparation, rfl, ?_⟩
  intro fields' long same values'
  have kept := read.congr same
  rw [decodeGga_ok_iff]
  constructor
  · rintro ⟨-, fix', separation', read', isSeparation', rfl⟩
    rw [kept.unique read']
    exact ⟨separation', isSeparation', rfl⟩
  · rintro ⟨separation', isSeparation', rfl⟩
    exact ⟨long, fix, separation', kept, isSeparation', rfl⟩

end Gga

section Gst

variable {fields : List Text}

def gstValues (source : String) (stdLat stdLon stdAlt : PyFloat) : Values :=
  [(source ++ ".GST.lat_std", .float stdLat), (source ++ ".GST.lon_std", .float stdLon),
    (source ++ ".GST.alt_std", .float stdAlt)]

/-- An error estimate: a text, read as a number that is not negative. -/
def GstRead (runtime : Runtime) (field : Text) (number : ℚ) : Prop :=
  field ≠ [] ∧ runtime.float field = .ok (.finite number) ∧ 0 ≤ number

theorem decodeGst_ok_iff {values : Values} : decodeGst runtime source fields = .ok values ↔
    9 ≤ fields.length ∧ ∃ stdLat stdLon stdAlt, GstRead runtime (fieldAt fields 6) stdLat ∧
      GstRead runtime (fieldAt fields 7) stdLon ∧ GstRead runtime (fieldAt fields 8) stdAlt ∧
      values = gstValues source (.finite stdLat) (.finite stdLon) (.finite stdAlt) := by
  unfold decodeGst
  simp only [refused_unless_iff, Attempt.bind_ok, not_lt, not_or]
  constructor
  · rintro ⟨enough, ⟨some6, some7, some8⟩, stdLat, isLat, stdLon, isLon, stdAlt, isAlt, range, same⟩
    simp only [List.all_cons, List.all_nil, Bool.and_true, Bool.not_eq_true', Bool.not_eq_false,
      Bool.and_eq_true] at range
    obtain ⟨⟨finiteLat, lat⟩, ⟨finiteLon, lon⟩, ⟨finiteAlt, alt⟩⟩ := range
    obtain ⟨lat', rfl⟩ := isFinite_iff.mp finiteLat
    obtain ⟨lon', rfl⟩ := isFinite_iff.mp finiteLon
    obtain ⟨alt', rfl⟩ := isFinite_iff.mp finiteAlt
    cases same
    simp only [PyFloat.le, decide_eq_true_eq] at lat lon alt
    exact ⟨enough, lat', lon', alt', ⟨some6, isLat, lat⟩, ⟨some7, isLon, lon⟩,
      ⟨some8, isAlt, alt⟩, rfl⟩
  · rintro ⟨enough, lat, lon, alt, ⟨some6, isLat, latFrom0⟩, ⟨some7, isLon, lonFrom0⟩,
      ⟨some8, isAlt, altFrom0⟩, rfl⟩
    refine ⟨enough, ⟨some6, some7, some8⟩, .finite lat, isLat, .finite lon, isLon, .finite alt,
      isAlt, ?_, rfl⟩
    simp [isFinite, PyFloat.le, latFrom0, lonFrom0, altFrom0]

theorem GstRead.unique {field : Text} {first second : ℚ} (read : GstRead runtime field first)
    (read' : GstRead runtime field second) : second = first := by
  have same := read.2.1.symm.trans read'.2.1
  cases same
  rfl

/-- Beyond the eighth field a GST sentence is read for the error of its altitude only. -/
theorem decodeGst_agree {values : Values} (given : decodeGst runtime source fields = .ok values) :
    9 ≤ fields.length ∧ ∃ stdLat stdLon stdAlt, GstRead runtime (fieldAt fields 8) stdAlt ∧
      values = gstValues source (.finite stdLat) (.finite stdLon) (.finite stdAlt) ∧
      ∀ fields', 9 ≤ fields'.length →
        (∀ index ≤ 7, fieldAt fields' index = fieldAt fields index) →
          ∀ values', decodeGst runtime source fields' = .ok values' ↔ ∃ stdAlt',
            GstRead runtime (fieldAt fields' 8) stdAlt' ∧
              values' = gstValues source (.finite stdLat) (.finite stdLon) (.finite stdAlt') := by
  obtain ⟨enough, lat, lon, alt, isLat, isLon, isAlt, rfl⟩ := decodeGst_ok_iff.mp given
  refine ⟨enough, lat, lon, alt, isAlt, rfl, ?_⟩
  intro fields' long same values'
  rw [decodeGst_ok_iff, same 6 (by omega), same 7 (by omega)]
  constructor
  · rintro ⟨-, lat', lon', alt', isLat', isLon', isAlt', rfl⟩
    rw [isLat.unique isLat', isLon.unique isLon']
    exact ⟨alt', isAlt', rfl⟩
  · rintro ⟨alt', isAlt', rfl⟩
    exact ⟨long, lat, lon, alt', isLat, isLon, isAlt', rfl⟩

end Gst

/-- With the star gone the checksum is read as data: as the mode of an RMC sentence, or as
more digits of the last number of a GGA or GST sentence. -/
def Misread (runtime : Runtime) (fields : List Text) (new : Char) (supplied : Text) : Prop :=
  if lastChars 3 (fieldAt fields 0) = "GGA".toList then
    new ≠ ',' ∧ fields.length = 12 ∧ ∃ number : ℚ,
      runtime.float (fieldAt fields 11 ++ new :: supplied) = .ok (.finite number) ∧
        separationOf runtime (fieldAt fields 11) ≠ .ok (.finite number)
  else if lastChars 3 (fieldAt fields 0) = "GST".toList then
    new ≠ ',' ∧ fields.length = 9 ∧ ∃ number : ℚ, 0 ≤ number ∧
      runtime.float (fieldAt fields 8 ++ new :: supplied) = .ok (.finite number) ∧
        runtime.float (fieldAt fields 8) ≠ .ok (.finite number)
  else (new = ',' ∧ fields.length = 12) ∨ (new ≠ ',' ∧ fields.length = 13)

section Star

variable {fields : List Text} {new : Char} {supplied : Text} {kind : Kind} {values : Values}

/-- Either the outcome is the same, or it is another one with values. -/
def SameUnless (condition : Prop) (values : Values) (outcome : Except PyError Values) : Prop :=
  (condition → ∃ values', outcome = .ok values' ∧ values' ≠ [] ∧ values' ≠ values) ∧
    (¬condition → ∀ values', outcome = .ok values' → values' = [] ∨ values' = values)

theorem joined_agree (bound : Nat) (long : bound + 1 < fields.length) :
    ∀ index ≤ bound, fieldAt (joined fields new supplied) index = fieldAt fields index :=
  fun index within => fieldAt_joined (.inl (by omega))

theorem joined_long (bound : Nat) (long : bound + 1 ≤ fields.length) :
    bound + 1 ≤ (joined fields new supplied).length := by
  have some : fields ≠ [] := by
    rintro rfl
    simp at long
  rw [joined_length new supplied some]
  omega

theorem rmc_star (given : decodeRmc runtime source fields = .ok values)
    (pair : supplied.length = 2) :
    SameUnless ((new = ',' ∧ fields.length = 12) ∨ (new ≠ ',' ∧ fields.length = 13)) values
      (decodeRmc runtime source (joined fields new supplied)) := by
  obtain ⟨enough, fix, read, rfl, agree⟩ := decodeRmc_agree given
  have active := rmcFix_active read
  have some : fields ≠ [] := by
    rintro rfl
    simp at enough
  have length := joined_length new supplied some
  have same := agree (joined fields new supplied) (joined_long 11 enough)
    (joined_agree _ (by omega))
  have active' : fieldAt (joined fields new supplied) 2 = ['A'] := by
    rw [joined_agree 8 (by omega) 2 (by omega), active]
  have suppliedSome : supplied ≠ [] := by
    rintro rfl
    simp at pair
  have other (mode : Text) (here : rmcMode (joined fields new supplied) = mode)
      (differs : mode ≠ rmcMode fields) :
      ∃ values', decodeRmc runtime source (joined fields new supplied) = .ok values' ∧
        values' ≠ [] ∧ values' ≠ rmcValues source fix (rmcMode fields) := by
    refine ⟨_, same, by simp [rmcValues], ?_⟩
    rw [here]
    exact fun equal => differs (rmcValues_injective fix equal)
  constructor
  · rintro (⟨rfl, twelve⟩ | ⟨noComma, thirteen⟩)
    · have last : fieldAt (joined fields ',' supplied) 12 = supplied := fieldAt_joined_comma twelve
      refine other supplied ?_ ?_
      · rw [rmcMode, last, if_pos ⟨by rw [length, if_pos rfl]; omega, suppliedSome⟩]
      · rw [rmcMode, if_neg (by omega), active]
        rintro rfl
        simp at pair
    · have last := fieldAt_joined_last supplied (show fields.length = 12 + 1 from thirteen) noComma
      refine other (fieldAt fields 12 ++ new :: supplied) ?_ ?_
      · rw [rmcMode, last, if_pos ⟨by rw [length]; omega, by simp⟩]
      · intro equal
        have sizes := congrArg List.length equal
        rw [List.length_append, List.length_cons, pair, rmcMode] at sizes
        split at sizes
        · omega
        · rw [active] at sizes
          simp at sizes
  · intro neither values' outcome
    right
    rw [same] at outcome
    cases outcome
    have mode : rmcMode (joined fields new supplied) = rmcMode fields := by
      unfold rmcMode
      rw [active, active', length]
      by_cases comma : new = ','
      · have more : 12 < fields.length := by
          by_contra few
          exact neither (.inl ⟨comma, by omega⟩)
        rw [fieldAt_joined (.inr ⟨comma, more⟩), if_pos comma]
        simp only [more, show 12 < fields.length + 1 by omega]
      · rw [if_neg comma, Nat.add_zero]
        by_cases more : 12 < fields.length
        · have far : 12 + 1 < fields.length := by
            by_contra few
            exact neither (.inr ⟨comma, by omega⟩)
          rw [fieldAt_joined (.inl far)]
        · simp only [more, false_and, if_false]
    rw [mode]

theorem gga_star (given : decodeGga runtime source fields = .ok values) :
    SameUnless (new ≠ ',' ∧ fields.length = 12 ∧ ∃ number : ℚ,
      runtime.float (fieldAt fields 11 ++ new :: supplied) = .ok (.finite number) ∧
        separationOf runtime (fieldAt fields 11) ≠ .ok (.finite number)) values
      (decodeGga runtime source (joined fields new supplied)) := by
  obtain ⟨enough, fix, separation, isSeparation, rfl, agree⟩ := decodeGga_agree given
  have same := agree (joined fields new supplied) (joined_long 11 enough)
    (joined_agree _ (by omega))
  constructor
  · rintro ⟨noComma, twelve, number, read, differs⟩
    have last := fieldAt_joined_last supplied (show fields.length = 11 + 1 from twelve) noComma
    refine ⟨_, (same _).mpr ⟨number, ?_, rfl⟩, by simp [ggaValues], ?_⟩
    · rw [last, separationOf, if_pos (by simp), read]
    · intro equal
      have numbers : number = separation := by
        simpa [ggaValues] using equal
      rw [numbers] at differs
      exact differs isSeparation
  · intro fine values' outcome
    obtain ⟨number, read, rfl⟩ := (same values').mp outcome
    right
    by_cases kept : new = ',' ∨ 12 < fields.length
    · have place : 11 + 1 < fields.length ∨ new = ',' ∧ 11 < fields.length := by
        rcases kept with comma | more
        · exact .inr ⟨comma, by omega⟩
        · exact .inl (by omega)
      rw [fieldAt_joined place, isSeparation] at read
      cases read
      rfl
    · have twelve : fields.length = 11 + 1 := by omega
      have noComma : new ≠ ',' := fun comma => kept (.inl comma)
      rw [fieldAt_joined_last supplied twelve noComma, separationOf, if_pos (by simp)] at read
      have agreed : separationOf runtime (fieldAt fields 11) = .ok (.finite number) := by
        by_contra differs
        exact fine ⟨noComma, twelve, number, read, differs⟩
      rw [isSeparation] at agreed
      cases agreed
      rfl

theorem gst_star (given : decodeGst runtime source fields = .ok values) :
    SameUnless (new ≠ ',' ∧ fields.length = 9 ∧ ∃ number : ℚ, 0 ≤ number ∧
      runtime.float (fieldAt fields 8 ++ new :: supplied) = .ok (.finite number) ∧
        runtime.float (fieldAt fields 8) ≠ .ok (.finite number)) values
      (decodeGst runtime source (joined fields new supplied)) := by
  obtain ⟨enough, lat, lon, alt, isAlt, rfl, agree⟩ := decodeGst_agree given
  have same := agree (joined fields new supplied) (joined_long 8 enough)
    (joined_agree _ (by omega))
  constructor
  · rintro ⟨noComma, nine, number, from0, read, differs⟩
    have last := fieldAt_joined_last supplied (show fields.length = 8 + 1 from nine) noComma
    refine ⟨_, (same _).mpr ⟨number, ?_, rfl⟩, by simp [gstValues], ?_⟩
    · rw [last]
      exact ⟨by simp, read, from0⟩
    · intro equal
      have numbers : number = alt := by
        simpa [gstValues] using equal
      rw [numbers] at differs
      exact differs isAlt.2.1
  · intro fine values' outcome
    obtain ⟨number, read, rfl⟩ := (same values').mp outcome
    right
    by_cases kept : new = ',' ∨ 9 < fields.length
    · have place : 8 + 1 < fields.length ∨ new = ',' ∧ 8 < fields.length := by
        rcases kept with comma | more
        · exact .inr ⟨comma, by omega⟩
        · exact .inl (by omega)
      rw [fieldAt_joined place] at read
      rw [isAlt.unique read]
    · have nine : fields.length = 8 + 1 := by omega
      have noComma : new ≠ ',' := fun comma => kept (.inl comma)
      rw [fieldAt_joined_last supplied nine noComma] at read
      have agreed : runtime.float (fieldAt fields 8) = .ok (.finite number) := by
        by_contra differs
        exact fine ⟨noComma, nine, number, read.2.2, read.2.1, differs⟩
      have equal := isAlt.2.1.symm.trans agreed
      cases equal
      rfl

end Star

/-- What the fields come to without the star, where they gave values with it. -/
theorem decodeFields_star {fields : List Text} (new : Char) {supplied : Text} {kind : Kind}
    {values : Values} (given : decodeFields runtime source fields = .ok (kind, values))
    (some : values ≠ []) (pair : supplied.length = 2) :
    SameUnless (Misread runtime fields new supplied) values
      ((decodeFields runtime source (joined fields new supplied)).map Prod.snd) := by
  have mapped (kind : Kind) (outcome : Except PyError Values) :
      (outcome.map (kind, ·)).map Prod.snd = outcome := by
    cases outcome <;> rfl
  have inverted {kind' : Kind} {outcome : Except PyError Values}
      (same : outcome.map (kind', ·) = .ok (kind, values)) : outcome = .ok values := by
    cases outcome with
    | error error => cases same
    | ok values' =>
        cases same
        rfl
  have first (long : 1 < fields.length) :
      fieldAt (joined fields new supplied) 0 = fieldAt fields 0 := fieldAt_joined (.inl long)
  unfold Misread
  unfold decodeFields at given ⊢
  dsimp only at given ⊢
  split_ifs at given with isGga isGst isRmc
  · have read := inverted given
    have enough := (decodeGga_agree read).1
    rw [if_pos isGga, first (by omega), if_pos isGga, mapped]
    exact gga_star read
  · have read := inverted given
    have enough := (decodeGst_agree read).1
    rw [if_neg isGga, if_pos isGst, first (by omega), if_neg isGga, if_pos isGst, mapped]
    exact gst_star read
  · cases given
    exact absurd rfl some
  · have read := inverted given
    have enough := (decodeRmc_agree read).1
    rw [if_neg isGga, if_neg isGst, first (by omega), if_neg isGga, if_neg isGst, if_neg isRmc,
      mapped]
    exact rmc_star read pair

end OpenLaps.Nmea

import OpenLaps.Core.Strings

/- The decoder of NMEA sentences (`collectors/serial/nmea.py`). -/
namespace OpenLaps.Nmea
open Strings

structure NmeaDecodeStats where
  sentences : Nat := 0
  rmcSentences : Nat := 0
  ggaSentences : Nat := 0
  gstSentences : Nat := 0
  ignoredSentences : Nat := 0
  malformedSentences : Nat := 0
  deriving DecidableEq, Repr

structure NmeaDecoder where
  sourceName : String
  device : String
  stats : NmeaDecodeStats := {}

/-- `sentence: bytes | str`. -/
inductive Sentence where
  | bytes (sentence : Bytes)
  | str (sentence : Text)

/-- `sentence.decode("ascii", errors="strict")`, or the text itself. -/
def Sentence.text : Sentence → Except PyError Text
  | .bytes sentence =>
      if sentence.all (· < 128) then .ok (sentence.map fun byte => Char.ofNat byte.toNat)
      else .error (.valueError "'ascii' codec can't decode byte: ordinal not in range(128)")
  | .str sentence => .ok sentence

/-- The exclusive or of the characters' code points. -/
def checksum (body : Text) : Nat := body.foldl (fun checksum char => checksum ^^^ char.toNat) 0

/-- `_validated_body`. -/
def validatedBody (runtime : Runtime) : Text → Except PyError Text
  | '$' :: payload =>
      match partition '*' payload with
      | (body, none) => .ok body
      | (body, some supplied) =>
          if supplied.length ≠ 2 then .error (.valueError "invalid NMEA checksum field")
          else if runtime.upperText supplied ≠ formatHex 2 (checksum body) then
            .error (.valueError "NMEA checksum mismatch")
          else .ok body
  | _ => .error (.valueError "NMEA sentence must begin with '$'")

def isFinite : PyFloat → Bool
  | .finite _ => true
  | _ => false

def neg : PyFloat → PyFloat
  | .finite value => .finite (-value)
  | .posInf => .negInf
  | .negInf => .posInf
  | .nan => .nan

/-- `_coordinate`. -/
def coordinate (runtime : Runtime) (value hemisphere : Text) (degreeDigits : Nat) :
    Except PyError PyFloat :=
  if value.length ≤ degreeDigits then .error (.valueError "invalid NMEA coordinate")
  else do
    let degrees ← runtime.int (value.take degreeDigits)
    let minutes ← runtime.float (value.drop degreeDigits)
    if minutes.lt (.finite 0) || (PyFloat.finite 60).le minutes then
      .error (.valueError "invalid NMEA coordinate minutes")
    else
      let coordinate := runtime.rounded ((PyFloat.finite degrees).add
        (runtime.rounded (minutes.div 60)))
      let (positive, negative) := if degreeDigits = 2 then ('N', 'S') else ('E', 'W')
      if hemisphere = [negative] then .ok (neg coordinate)
      else if hemisphere ≠ [positive] then .error (.valueError "invalid NMEA hemisphere")
      else .ok coordinate

/-- A field that the length of the list lets one read. -/
def fieldAt (fields : List Text) (index : Nat) : Text := fields.getD index []

inductive Kind where
  | rmc
  | gga
  | gst
  | ignored
  deriving DecidableEq, Repr

/-- The values of a sentence under the names of their source. -/
abbrev Values := List (String × SampleValue)

/-- What an RMC sentence says of the movement. -/
structure RmcFix where
  latitude : PyFloat
  longitude : PyFloat
  speed : PyFloat
  heading : PyFloat
  deriving DecidableEq, Repr

/-- The fields of an active fix, with their checks. -/
def rmcFix (runtime : Runtime) (fields : List Text) : Except PyError RmcFix :=
  if fieldAt fields 2 ≠ ['A'] then .error (.valueError "RMC fix is not active")
  else do
    let latitude ← coordinate runtime (fieldAt fields 3) (fieldAt fields 4) 2
    let longitude ← coordinate runtime (fieldAt fields 5) (fieldAt fields 6) 3
    let knots ← runtime.float (fieldAt fields 7)
    let speed := runtime.rounded (knots.mul (runtime.double (1852 / 1000)))
    let heading ← runtime.float (fieldAt fields 8)
    if !(isFinite latitude && isFinite longitude && isFinite speed && isFinite heading) then
      .error (.valueError "RMC contains a non-finite number")
    else if !((PyFloat.finite (-90)).le latitude && latitude.le (.finite 90)) ||
        !((PyFloat.finite (-180)).le longitude && longitude.le (.finite 180)) then
      .error (.valueError "RMC coordinate is out of range")
    else if speed.lt (.finite 0) || !((PyFloat.finite 0).le heading && heading.lt (.finite 360)) then
      .error (.valueError "RMC movement value is out of range")
    else .ok ⟨latitude, longitude, speed, heading⟩

def rmcMode (fields : List Text) : Text :=
  if 12 < fields.length ∧ fieldAt fields 12 ≠ [] then fieldAt fields 12 else fieldAt fields 2

def rmcValues (source : String) (fix : RmcFix) (mode : Text) : Values :=
  [(source ++ ".RMC.lat", .float fix.latitude), (source ++ ".RMC.lon", .float fix.longitude),
    (source ++ ".RMC.speed", .float fix.speed), (source ++ ".RMC.heading", .float fix.heading),
    (source ++ ".RMC.mode", .str (String.ofList mode))]

/-- The part of `decode` for an RMC sentence. -/
def decodeRmc (runtime : Runtime) (source : String) (fields : List Text) :
    Except PyError Values :=
  if fields.length < 12 then .error (.valueError "RMC sentence has too few fields")
  else (rmcFix runtime fields).map fun fix => rmcValues source fix (rmcMode fields)

/-- `float(fields[11]) if fields[11] else 0.0`. -/
def separationOf (runtime : Runtime) (field : Text) : Except PyError PyFloat :=
  if field ≠ [] then runtime.float field else .ok (.finite 0)

/-- `_decode_gga`. -/
def decodeGga (runtime : Runtime) (source : String) (fields : List Text) :
    Except PyError Values :=
  if fields.length < 12 then .error (.valueError "GGA sentence has too few fields")
  else do
    let quality ← runtime.int (fieldAt fields 6)
    if quality = 0 then .error (.valueError "GGA reports no fix")
    else
      let satellites ← runtime.int (fieldAt fields 7)
      let hdop ← runtime.float (fieldAt fields 8)
      let altitude ← runtime.float (fieldAt fields 9)
      let separation ← separationOf runtime (fieldAt fields 11)
      if !(isFinite hdop && isFinite altitude && isFinite separation) then
        .error (.valueError "GGA contains a non-finite number")
      else if satellites < 0 || hdop.lt (.finite 0) then
        .error (.valueError "GGA value is out of range")
      else
        .ok [(source ++ ".GGA.alt", .float altitude), (source ++ ".GGA.geoid_sep", .float separation),
          (source ++ ".GGA.sats", .int satellites), (source ++ ".GGA.hdop", .float hdop),
          (source ++ ".GGA.quality", .int quality)]

/-- `_decode_gst`. -/
def decodeGst (runtime : Runtime) (source : String) (fields : List Text) :
    Except PyError Values :=
  if fields.length < 9 then .error (.valueError "GST sentence has too few fields")
  else if fieldAt fields 6 = [] ∨ fieldAt fields 7 = [] ∨ fieldAt fields 8 = [] then
    .error (.valueError "GST has no error estimate")
  else do
    let stdLat ← runtime.float (fieldAt fields 6)
    let stdLon ← runtime.float (fieldAt fields 7)
    let stdAlt ← runtime.float (fieldAt fields 8)
    if !([stdLat, stdLon, stdAlt].all fun value => isFinite value && (PyFloat.finite 0).le value) then
      .error (.valueError "GST error estimate is out of range")
    else
      .ok [(source ++ ".GST.lat_std", .float stdLat), (source ++ ".GST.lon_std", .float stdLon),
        (source ++ ".GST.alt_std", .float stdAlt)]

/-- The sentence by the last three characters of its first field. -/
def decodeFields (runtime : Runtime) (source : String) (fields : List Text) :
    Except PyError (Kind × Values) :=
  let talkerType := lastChars 3 (fieldAt fields 0)
  if talkerType = "GGA".toList then (decodeGga runtime source fields).map (Kind.gga, ·)
  else if talkerType = "GST".toList then (decodeGst runtime source fields).map (Kind.gst, ·)
  else if talkerType ≠ "RMC".toList then .ok (.ignored, [])
  else (decodeRmc runtime source fields).map (Kind.rmc, ·)

/-- What the `try` of `decode` comes to. -/
def readSentence (runtime : Runtime) (source : String) (sentence : Sentence) :
    Except PyError (Kind × Values) := do
  let text ← sentence.text
  let body ← validatedBody runtime (runtime.strip text)
  decodeFields runtime source (splitOn ',' body)

/-- `except (UnicodeDecodeError, ValueError, IndexError)`. -/
def caught : PyError → Bool
  | .configError _ => true
  | .valueError _ => true
  | _ => false

def NmeaDecodeStats.count (stats : NmeaDecodeStats) : Kind → NmeaDecodeStats
  | .rmc => { stats with rmcSentences := stats.rmcSentences + 1 }
  | .gga => { stats with ggaSentences := stats.ggaSentences + 1 }
  | .gst => { stats with gstSentences := stats.gstSentences + 1 }
  | .ignored => { stats with ignoredSentences := stats.ignoredSentences + 1 }

def NmeaDecoder.source (decoder : NmeaDecoder) : String := decoder.sourceName ++ ":" ++ decoder.device

/-- `NmeaDecoder.decode`. -/
def NmeaDecoder.decode (runtime : Runtime) (decoder : NmeaDecoder) (sentence : Sentence) :
    NmeaDecoder × Except PyError Values :=
  let stats := { decoder.stats with sentences := decoder.stats.sentences + 1 }
  match readSentence runtime decoder.source sentence with
  | .ok (kind, values) => ({ decoder with stats := stats.count kind }, .ok values)
  | .error error =>
      if caught error then
        ({ decoder with stats :=
            { stats with malformedSentences := stats.malformedSentences + 1 } }, .ok [])
      else ({ decoder with stats := stats }, .error error)

end OpenLaps.Nmea

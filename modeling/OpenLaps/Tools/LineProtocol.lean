import Mathlib.Data.List.DropRight
import OpenLaps.Core.Wire
import OpenLaps.Lib.Dict

/- InfluxDB line protocol as the legacy import reads it (`tools/import_legacy.py`).
`none` stands where Python raises `ValueError`. -/
namespace OpenLaps.LineProtocol

/-- A Python string as its characters. -/
abbrev Text := List Char

/-- `int(text)` and `float(text)` of the Python runtime. -/
structure Literals where
  int : Text → Option Int
  float : Text → Option PyFloat

/-- One parsed InfluxDB line-protocol point. -/
structure LinePoint where
  measurement : Text
  tags : Dict Text Text
  fields : Dict Text SampleValue
  timestampNs : Int

/-- A character more in front of the part that a split is at. -/
def extend (character : Char) : List Text → List Text
  | [] => [[character]]
  | part :: parts => (character :: part) :: parts

/-- The loop of `_split_unescaped`. -/
def splitFrom (separator : Char) (quoted : Bool) :
    Bool → Bool → Option Nat → Text → Option (List Text)
  | escaped, inQuotes, _, [] => if escaped || inQuotes then none else some [[]]
  | true, inQuotes, left, character :: rest =>
    (splitFrom separator quoted false inQuotes left rest).map (extend character)
  | false, inQuotes, left, character :: rest =>
    if character = '\\' then
      (splitFrom separator quoted true inQuotes left rest).map (extend character)
    else if quoted && character = '"' then
      (splitFrom separator quoted false (!inQuotes) left rest).map (extend character)
    else if character = separator && !inQuotes && left ≠ some 0 then
      (splitFrom separator quoted false inQuotes (left.map (· - 1)) rest).map ([] :: ·)
    else (splitFrom separator quoted false inQuotes left rest).map (extend character)

/-- `_split_unescaped`; `maxsplit` is `none` for -1. -/
def splitUnescaped (text : Text) (separator : Char) (quoted : Bool) (maxsplit : Option Nat) :
    Option (List Text) := splitFrom separator quoted false false maxsplit text

/-- `_split_sections`. -/
def splitSections (text : Text) : Option (Text × Text × Text) := do
  let sections ← splitUnescaped text ' ' true (some 2)
  match sections with
  | [series, fieldText, timestampText] => some (series, fieldText, timestampText)
  | _ => none

/-- `_split_pair`. -/
def splitPair (text : Text) : Option (Text × Text) := do
  let parts ← splitUnescaped text '=' true (some 1)
  match parts with
  | [key, value] => if key = [] then none else some (key, value)
  | _ => none

/-- The loop of `_unescape`. -/
def unescapeFrom : Bool → Text → Option Text
  | escaped, [] => if escaped then none else some []
  | true, character :: rest => (unescapeFrom false rest).map (character :: ·)
  | false, character :: rest =>
    if character = '\\' then unescapeFrom true rest
    else (unescapeFrom false rest).map (character :: ·)

/-- `_unescape`. -/
def unescape (text : Text) : Option Text := unescapeFrom false text

/-- `_parse_field`. Only ASCII letters lower to the letters of a boolean. -/
def parseField (literals : Literals) (text : Text) : Option SampleValue :=
  if text.head? = some '"' then
    if text.getLast? ≠ some '"' || text.length < 2 then none
    else (unescape text.tail.dropLast).map fun content => .str (String.ofList content)
  else
    let lowered := text.map Char.toLower
    if lowered = "true".toList || lowered = "t".toList then some (.bool true)
    else if lowered = "false".toList || lowered = "f".toList then some (.bool false)
    else if text.getLast? = some 'i' || text.getLast? = some 'u' then
      (literals.int text.dropLast).map .int
    else (literals.float text).map .float

/-- `text.split(" ")` unpacked to three parts. -/
def plainSections (text : Text) : Option (Text × Text × Text) :=
  match text.splitOn ' ' with
  | [series, fieldText, timestampText] => some (series, fieldText, timestampText)
  | _ => none

def keyOf (text : Text) : Text := text.takeWhile (· ≠ '=')

/-- `text.split("=", 1)` unpacked to two parts. -/
def plainPair (text : Text) : Option (Text × Text) :=
  match text.dropWhile (· ≠ '=') with
  | _ :: value => some (keyOf text, value)
  | [] => none

/-- What the two paths of `parse_line_protocol` do differently. -/
structure Reading where
  sections : Text → Option (Text × Text × Text)
  seriesParts : Text → Option (List Text)
  rawFields : Text → Option (List Text)
  pair : Text → Option (Text × Text)
  name : Text → Option Text

def simplePath : Reading where
  sections := plainSections
  seriesParts := fun series => some (series.splitOn ',')
  rawFields := fun fieldText => some (fieldText.splitOn ',')
  pair := plainPair
  name := some

def completePath : Reading where
  sections := splitSections
  seriesParts := fun series => splitUnescaped series ',' false none
  rawFields := fun fieldText => splitUnescaped fieldText ',' true none
  pair := splitPair
  name := unescape

namespace Reading

variable (reading : Reading) (literals : Literals)

def readPair {ν : Type} (readValue : Text → Option ν) (part : Text) : Option (Text × ν) := do
  let (key, value) ← reading.pair part
  return (← reading.name key, ← readValue value)

def readTag (rawTag : Text) : Option (Text × Text) := reading.readPair reading.name rawTag

def readField (rawField : Text) : Option (Text × SampleValue) :=
  reading.readPair (parseField literals) rawField

/-- The loop over the tags or over the fields. -/
def collect {ν : Type} (read : Text → Option (Text × ν)) (parts : List Text) :
    Option (Dict Text ν) :=
  parts.foldlM (fun dict part => do
    let (key, value) ← read part
    return dict.set key value) Dict.empty

def parse (text : Text) : Option LinePoint := do
  let (series, fieldText, timestampText) ← reading.sections text
  let seriesParts ← reading.seriesParts series
  let rawFields ← reading.rawFields fieldText
  let measurement ← seriesParts.head? >>= reading.name
  let tags ← collect reading.readTag (seriesParts.drop 1)
  let fields ← collect (reading.readField literals) rawFields
  let timestampNs ← literals.int timestampText
  return ⟨measurement, tags, fields, timestampNs⟩

end Reading

/-- No backslash and exactly two spaces. -/
def simple (text : Text) : Bool := !text.contains '\\' && text.count ' ' = 2

def parseLineProtocol (literals : Literals) (line : Text) : Option LinePoint :=
  let text := line.rdropWhile fun character => character = '\r' || character = '\n'
  if simple text then simplePath.parse literals text else completePath.parse literals text

end OpenLaps.LineProtocol

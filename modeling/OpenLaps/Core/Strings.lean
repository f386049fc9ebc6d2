import OpenLaps.Core.Numbers
import OpenLaps.Lib.Numeral

/- Python's `str` as the list of its characters: what `strip`, `partition`, `split`, `upper`,
`int` and `float` do with a text, how numbers are formatted, and `bytes` with its UTF-8 codec. -/
namespace OpenLaps

abbrev Bytes := List UInt8

/-- `text.encode("utf-8")`. -/
def encodeUtf8 (text : String) : Bytes := text.toUTF8.data.toList

/-- `data.decode("utf-8")`, `none` where Python raises `UnicodeDecodeError`. -/
def decodeUtf8 (data : Bytes) : Option String := String.fromUTF8? ⟨data.toArray⟩

/-- `data.decode("latin-1")`. -/
def decodeLatin1 (data : Bytes) : String := String.ofList (data.map fun byte => Char.ofNat byte.toNat)

@[simp] theorem decodeUtf8_encodeUtf8 (text : String) :
    decodeUtf8 (encodeUtf8 text) = some text := by
  have same : (⟨(encodeUtf8 text).toArray⟩ : ByteArray) = text.toByteArray := rfl
  rw [decodeUtf8, same, String.fromUTF8?, dif_pos text.isValidUTF8]
  rfl

end OpenLaps

namespace OpenLaps.Strings

abbrev Text := List Char

/-- The Unicode tables beyond ASCII, and the nearest double of a rational number. -/
structure Runtime where
  space : Char → Bool
  decimal : Char → Option Nat
  upper : Char → Text
  double : ℚ → PyFloat

/-- ASCII only, with doubles that hold every number exactly. -/
def plainRuntime : Runtime := ⟨fun _ => false, fun _ => none, fun char => [char], .finite⟩

def isAscii (char : Char) : Bool := char.toNat < 128

namespace Runtime

variable (runtime : Runtime)

/-- `str.isspace` of one character. -/
def isSpace (char : Char) : Bool :=
  if isAscii char then (9 ≤ char.toNat && char.toNat ≤ 13) || (28 ≤ char.toNat && char.toNat ≤ 32)
  else runtime.space char

/-- `str.strip()`. -/
def strip (text : Text) : Text :=
  ((text.dropWhile runtime.isSpace).reverse.dropWhile runtime.isSpace).reverse

/-- `str.upper()`. -/
def upperText (text : Text) : Text :=
  text.flatMap fun char => if isAscii char then [char.toUpper] else runtime.upper char

/-- A character of a number literal: decimal digits of all scripts count as those of ASCII,
and spaces as a blank. -/
def literalChar (char : Char) : Char :=
  if isAscii char then char
  else
    match runtime.decimal char with
    | some digit => Nat.digitChar digit
    | none => if runtime.space char then ' ' else '?'

/-- The float nearest to a finite result. -/
def rounded : PyFloat → PyFloat
  | .finite value => runtime.double value
  | value => value

end Runtime

/-- The white space that number literals may have around them. -/
def blank (char : Char) : Bool := (9 ≤ char.toNat && char.toNat ≤ 13) || char = ' '

/-- Underscores stand between digits only. -/
def underscores : Char → Text → Bool
  | previous, [] => previous ≠ '_'
  | previous, char :: rest =>
    (if char = '_' then previous.isDigit else previous ≠ '_' || char.isDigit) &&
      underscores char rest

/-- The literal without blanks around it and underscores in it. -/
def literal (text : Text) : Option Text :=
  let inner := ((text.dropWhile blank).reverse.dropWhile blank).reverse
  if underscores ' ' inner then some (inner.filter (· ≠ '_')) else none

/-- The sign of a literal, and what it is the sign of. -/
def signed : Text → Bool × Text
  | '-' :: rest => (true, rest)
  | '+' :: rest => (false, rest)
  | rest => (false, rest)

def digitsValue (digits : Text) : Nat := Numeral.value 10 (digits.map fun digit => digit.toNat - 48)

/-- More digits are refused by `int`. -/
def maxStrDigits : Nat := 4300

namespace Runtime

variable (runtime : Runtime)

/-- `int(text)`. -/
def int (text : Text) : Except PyError Int :=
  let refused : Except PyError Int := .error (.valueError "invalid literal for int() with base 10")
  match literal (text.map runtime.literalChar) with
  | none => refused
  | some inner =>
    let (negative, digits) := signed inner
    if digits = [] ∨ ! digits.all Char.isDigit ∨ maxStrDigits < digits.length then refused
    else .ok (if negative then -(digitsValue digits : Int) else digitsValue digits)

end Runtime

/-- `e`, a sign and digits, or nothing. -/
def exponent : Text → Option Int
  | [] => some 0
  | mark :: rest =>
    let (negative, digits) := signed rest
    if (mark = 'e' ∨ mark = 'E') ∧ digits ≠ [] ∧ digits.all Char.isDigit then
      some (if negative then -(digitsValue digits : Int) else digitsValue digits)
    else none

/-- The digits behind a point, and what follows. -/
def fractionOf : Text → Text × Text
  | '.' :: rest => (rest.takeWhile Char.isDigit, rest.dropWhile Char.isDigit)
  | rest => ([], rest)

/-- Digits with a point among them, and an exponent. -/
def decimalValue (text : Text) : Option ℚ :=
  let whole := text.takeWhile Char.isDigit
  let (fraction, rest) := fractionOf (text.dropWhile Char.isDigit)
  if whole = [] ∧ fraction = [] then none
  else (exponent rest).map fun power =>
    (digitsValue (whole ++ fraction) : ℚ) / 10 ^ fraction.length * (10 : ℚ) ^ power

namespace Runtime

variable (runtime : Runtime)

/-- `float(text)`. -/
def float (text : Text) : Except PyError PyFloat :=
  let refused : Except PyError PyFloat := .error (.valueError "could not convert string to float")
  match literal (text.map runtime.literalChar) with
  | none => refused
  | some inner =>
    let (negative, rest) := signed inner
    let word := String.ofList (rest.map Char.toLower)
    if word = "inf" ∨ word = "infinity" then .ok (if negative then .negInf else .posInf)
    else if word = "nan" then .ok .nan
    else
      match decimalValue rest with
      | none => refused
      | some value => .ok (runtime.double (if negative then -value else value))

end Runtime

/-- `str.partition(separator)`, as what stands before it and, if it occurs, after it. -/
def partition (separator : Char) (text : Text) : Text × Option Text :=
  match text.dropWhile (· ≠ separator) with
  | [] => (text, none)
  | _ :: rest => (text.takeWhile (· ≠ separator), some rest)

/-- `str.split(separator)`. -/
def splitOn (separator : Char) : Text → List Text
  | [] => [[]]
  | char :: rest =>
    if char = separator then [] :: splitOn separator rest
    else
      match splitOn separator rest with
      | [] => [[char]]
      | part :: parts => (char :: part) :: parts

/-- `text[-count:]`. -/
def lastChars (count : Nat) (text : Text) : Text := text.drop (text.length - count)

/-- `f"{n:0<width>d}"` of a natural number. -/
def formatInt (width n : Nat) : Text := (Numeral.digits 10 (max 1 width) n).map Nat.digitChar

/-- `f"{n:0<width>X}"` of a natural number. -/
def formatHex (width n : Nat) : Text :=
  (Numeral.digits 16 (max 1 width) n).map fun digit => (Nat.digitChar digit).toUpper

/-- `f"{value:0<width>.<places>f}"` of a number that is not negative, rounded to the nearest. -/
def formatFixed (width places : Nat) (value : ℚ) : Text :=
  let scaled := (Rounding.halfEven (value * 10 ^ places)).toNat
  formatInt (width - (places + 1)) (scaled / 10 ^ places) ++
    '.' :: (Numeral.digits 10 places (scaled % 10 ^ places)).map Nat.digitChar

end OpenLaps.Strings

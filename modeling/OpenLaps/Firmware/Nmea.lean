import Mathlib.Algebra.GroupWithZero.Nat
import Mathlib.Algebra.Ring.Int.Defs
import Mathlib.Data.Rat.Floor
import OpenLaps.Core.Strings

/- The two sentences that the receiver interface reads (`nmea.c`). A C string is the list
of its bytes before the terminating zero. -/
namespace OpenLaps.Firmware

def ascii (char : Char) : UInt8 := UInt8.ofNat char.toNat

/-- A `double`; `special` are the infinities and NaN. -/
inductive Double where
  | finite (value : ℚ)
  | special
  deriving DecidableEq

/-- What the parser takes from the C library and the compiler: `strtod`, as the number and the
text behind it, or nothing where no number begins, and the cast of a number to a 32-bit `int`,
which drops the fraction and is some number where an `int` does not hold the result. -/
structure Libc where
  strtod : Bytes → Option (Double × Bytes)
  toInt : Double → Int
  int32 : ∀ value, -2147483648 ≤ toInt value ∧ toInt value ≤ 2147483647
  truncates : ∀ value : ℚ, |value| < 2147483648 →
    toInt (.finite value) = if 0 ≤ value then ⌊value⌋ else ⌈value⌉

/-- `isspace`. -/
def isSpace (byte : UInt8) : Bool := (9 ≤ byte && byte ≤ 13) || byte = 32

def isDigit (byte : UInt8) : Bool := ascii '0' ≤ byte && byte ≤ ascii '9'

def hexDigit (byte : UInt8) : Option Nat :=
  if isDigit byte then some (byte.toNat - 48)
  else if ascii 'A' ≤ byte && byte ≤ ascii 'F' then some (byte.toNat - 55)
  else if ascii 'a' ≤ byte && byte ≤ ascii 'f' then some (byte.toNat - 87)
  else none

/-- `strtoul(supplied, &end, 16)` on two characters, when it reads them both: two digits,
or one behind a space or a sign. -/
def strtoulPair (first second : UInt8) : Option Nat :=
  match hexDigit first, hexDigit second with
  | some high, some low => some (16 * high + low)
  | none, some low =>
      if isSpace first || first = ascii '+' then some low
      else if first = ascii '-' then some ((2 ^ 32 - low) % 2 ^ 32)
      else none
  | _, none => none

def checksumValid (sentence : Bytes) : Bool :=
  match sentence with
  | [] => false
  | dollar :: body =>
      dollar = ascii '$' &&
        match body.dropWhile (· ≠ ascii '*') with
        | _ :: first :: second :: _ =>
            strtoulPair first second =
              some ((body.takeWhile (· ≠ ascii '*')).foldl (· ^^^ ·) 0).toNat
        | _ => false

/-- The sentence behind its `index`th comma. -/
def field : Bytes → Nat → Option Bytes
  | sentence, 0 => some sentence
  | sentence, index + 1 =>
      match sentence.dropWhile (· ≠ ascii ',') with
      | [] => none
      | _ :: rest => field rest index

/-- `strncmp(line + 3, kind, 3) == 0` on a line of at least six characters. -/
def hasKind (line : Bytes) (kind : String) : Bool :=
  6 ≤ line.length && (line.drop 3).take 3 = kind.toList.map ascii

def nmeaGgaHasFix (sentence : Bytes) : Bool :=
  checksumValid sentence && hasKind sentence "GGA" &&
    match field sentence 6 with
    | some (quality :: next :: _) =>
        ascii '1' ≤ quality && quality ≤ ascii '9' && (next = ascii ',' || next = ascii '*')
    | _ => false

/-- `atoi`, on a 32-bit machine. -/
def atoi (text : Bytes) : Int :=
  let number (digits : Bytes) : Int :=
    ((digits.takeWhile isDigit).foldl (fun value digit => 10 * value + (digit.toNat - 48)) 0 : Nat)
  let clamp (value : Int) : Int := max (-2147483648) (min value 2147483647)
  match text.dropWhile isSpace with
  | [] => 0
  | sign :: rest =>
      if sign = ascii '-' then clamp (-number rest)
      else if sign = ascii '+' then clamp (number rest)
      else clamp (number (sign :: rest))

def leapYear (year : Int) : Bool := year % 4 = 0 && (year % 100 ≠ 0 || year % 400 = 0)

def daysBeforeYear (year : Int) : Int :=
  let y := year - 1
  365 * y + y / 4 - y / 100 + y / 400

def cumulativeDays : List Int := [0, 0, 31, 59, 90, 120, 151, 181, 212, 243, 273, 304, 334]

def unixSecond (year month day hour minute second : Int) : Int :=
  let days := daysBeforeYear year - daysBeforeYear 1970 +
    (cumulativeDays.getD month.toNat 0 + day - 1)
  let days := if 2 < month ∧ leapYear year = true then days + 1 else days
  days * 86400 + hour * 3600 + minute * 60 + second

/-- The four fields of a `ZDA` sentence as numbers: the time as `hhmmss`, day, month and
year. -/
def zdaFields (libc : Libc) (sentence : Bytes) : Option (Double × Int × Int × Int) :=
  match field sentence 1, field sentence 2, field sentence 3, field sentence 4 with
  | some time, some day, some month, some year =>
      match libc.strtod time with
      | some (hhmmss, next :: _) =>
          if next = ascii ',' then some (hhmmss, atoi day, atoi month, atoi year) else none
      | _ => none
  | _, _, _, _ => none

/-- Division and remainder are those of C, towards zero. -/
def nmeaZdaUtcSecond (libc : Libc) (sentence : Bytes) : Option Int :=
  if checksumValid sentence && hasKind sentence "ZDA" then
    (zdaFields libc sentence).bind fun (hhmmss, day, month, year) =>
      let packed := libc.toInt hhmmss
      let hour := packed.tdiv 10000
      let minute := (packed.tdiv 100).tmod 100
      let second := packed.tmod 100
      if year < 1970 ∨ month < 1 ∨ 12 < month ∨ day < 1 ∨ 31 < day ∨ 23 < hour ∨ 59 < minute ∨
          60 < second then
        none
      else some (unixSecond year month day hour minute second)
  else none

end OpenLaps.Firmware

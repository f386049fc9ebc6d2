import OpenLaps.Core.Numbers
import OpenLaps.Lib.Dict
import OpenLaps.Pit.Session.State

/- The feed's XML elements, and how the texts of their attributes are read. -/
namespace OpenLaps.Field

open Session (strip)

inductive Element where
  | node (tag : String) (attributes : Dict String String) (children : List Element)

def Element.tag : Element → String
  | .node tag _ _ => tag

def Element.attrib : Element → Dict String String
  | .node _ attributes _ => attributes

def Element.children : Element → List Element
  | .node _ _ children => children

def Element.get (element : Element) (name : String) : Option String := element.attrib.get? name

mutual

/-- `element.iter(tag)`: the element and everything below it, in document order. -/
def Element.iter (wanted : String) : Element → List Element
  | .node tag attributes children =>
    (if tag = wanted then [.node tag attributes children] else []) ++ iterAll wanted children

def Element.iterAll (wanted : String) : List Element → List Element
  | [] => []
  | element :: rest => element.iter wanted ++ Element.iterAll wanted rest

end

/-- What the feed takes from the Python runtime: `str.lower` and `str.upper`, `int` and
`float` of a text (`none` where they raise `ValueError`), `datetime.fromtimestamp` and the
XML parser. -/
structure Runtime where
  lower : String → String
  upper : String → String
  int : String → Option Int
  float : String → Option PyFloat
  fromTimestamp : PyFloat → Except PyError ℚ
  fromString : String → Except String Element

/-- `int(number)`, which drops the fraction. -/
def truncate : PyFloat → Except PyError Int
  | .finite value => .ok (value.num.tdiv value.den)
  | .posInf => .error (.overflowError "cannot convert float infinity to integer")
  | .negInf => .error (.overflowError "cannot convert float infinity to integer")
  | .nan => .error (.valueError "cannot convert float NaN to integer")

/-- `first == second`: NaN equals nothing. -/
def sameFloat (first second : PyFloat) : Bool := first ≠ .nan && first = second

/-- `total * 60 + part`, where each of the two results may overflow. -/
def sixtyfold (total part : PyFloat) : PyFloat :=
  ((total.mul (.finite 60)).rounded.add part).rounded

/-- `_text`. -/
def text? (value : Option String) : Option String :=
  (value.map strip).filter fun text => !text.isEmpty

/-- `_int` of an attribute. -/
def int? (py : Runtime) (value : Option String) : Except PyError (Option Int) :=
  match text? value with
  | none => .ok none
  | some text =>
    match py.int text with
    | some number => .ok (some number)
    | none =>
      match py.float text with
      | none => .ok none
      | some number => do
        let whole ← truncate number
        pure (if sameFloat number (.finite whole) then some whole else none)

/-- The sum over `h:mm:ss`, unless a part is no number. -/
def sumParts (py : Runtime) : List String → PyFloat → Option PyFloat
  | [], total => some total
  | part :: rest, total =>
    match py.float part with
    | none => none
    | some number => sumParts py rest (sixtyfold total number)

/-- `_seconds` of an attribute. -/
def seconds? (py : Runtime) (value : Option String) : Option PyFloat :=
  match text? value with
  | none => none
  | some text =>
    if text.contains ':' then sumParts py (text.splitOn ":") (.finite 0) else py.float text

/-- `_car_state`. -/
def carState (py : Runtime) (pos : Option String) (inPit : Bool) (outLap : Option String) :
    Except PyError String := do
  let number ← int? py pos
  match text? pos, number with
  | some word, none => pure (py.upper word)
  | _, _ =>
    if inPit then pure "PIT"
    else if py.upper (strip (outLap.getD "")) = "Y" then pure "OUT"
    else pure "RUN"

def flagStates : List (String × String) :=
  [("waitstart", "none"), ("green", "green"), ("yellow", "yellow"), ("red", "red"),
    ("checkered", "chequered"), ("chequered", "chequered"), ("end", "ended"), ("ended", "ended"),
    ("none", "none"), ("white", "white")]

def subStatuses : List (String × String) :=
  [("safetycar", "sc"), ("sc", "sc"), ("fcy", "fcy"), ("vsc", "vsc"), ("code_60", "code_60"),
    ("caution", "caution"), ("slow_zone", "slow_zone")]

/-- The flags of `T71_FLAG_SPLIT`. -/
def t71Flags : List (String × String) :=
  [("sc", "yellow"), ("fcy", "yellow"), ("vsc", "yellow"), ("code_60", "yellow"),
    ("code_60_zone", "yellow"), ("slow_zone", "yellow"), ("caution", "yellow")]

def passingLines : List (Int × String) :=
  [(1, "main"), (41, "main"), (2, "pit_main"), (3, "pit_entry"), (4, "pit_exit"), (5, "int1"),
    (45, "int1"), (6, "int2"), (46, "int2"), (11, "main"), (20, "pit_main")]

def flagState (py : Runtime) (value : String) : Option String :=
  let key := py.lower (strip value)
  if key.isEmpty then none
  else some ((t71Flags.lookup key).getD ((flagStates.lookup key).getD key))

def subStatus (py : Runtime) (value : String) : Option String :=
  let key := py.lower (strip value)
  if key.isEmpty then none else some ((subStatuses.lookup key).getD key)

end OpenLaps.Field

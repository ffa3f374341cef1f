import Reshape.Filter.Arguments
import Reshape.Json.Reader

namespace Reshape.Filter

def finite (f : Binary64) : Except Failure Json :=
  if f.isFinite then .ok (.ofFloat f) else .error (.notFinite f)

/-- A whole number in the range of signed 64-bit integers; `f` is the float it comes from. -/
def inRange (f : Binary64) (n : Int) : Except Failure Json :=
  if minInt64 ≤ n ∧ n ≤ maxInt64 then .ok (.ofInt n) else .error (.outOfRange f)

def numberValue : Json.Number → Binary64
  | .whole n => .ofInt n
  | .float f => f

/-- Whole numbers in text are read as they stand; other numbers lose their fraction. -/
def integerOfText (s : String) : Except Failure Json :=
  let cs := Text.trim s.toList
  match (readInt64? cs).or (readUInt64? cs) with
  | some n => .ok (.ofInt n)
  | none => match (Binary64.read? cs).filter Binary64.isFinite with
    | some f => (inRange f f.truncate).mapError fun _ => .notConvertible (.string s) .integer
    | none => .error (.notConvertible (.string s) .integer)

def toInteger : Filter := fun value _ =>
  match value with
  | .null => .ok .null
  | .bool b => .ok (.ofNat b.toNat)
  | .number (.whole _) => .ok value
  | .number (.float f) => inRange f f.truncate
  | .string s => integerOfText s
  | _ => .error (.notConvertible value .integer)

def toFloat : Filter := fun value _ =>
  match value with
  | .null => .ok .null
  | .bool b => .ok (.ofFloat (.ofNat b.toNat))
  | .number n => finite (numberValue n)
  | .string s => match Binary64.read? (Text.trim s.toList) with
    | some f => finite f
    | none => .error (.notConvertible value .float)
  | _ => .error (.notConvertible value .float)

def trueWords : List String := ["true", "yes", "1", "on"]

def falseWords : List String := ["false", "no", "0", "off", ""]

def toBool : Filter := fun value _ =>
  match value with
  | .null => .ok .null
  | .bool _ => .ok value
  | .number n => .ok (.bool (!(numberValue n).isZero))
  | .string s =>
    let word := String.ofList (Text.lower (Text.trim s.toList))
    if trueWords.contains word then .ok (.bool true)
    else if falseWords.contains word then .ok (.bool false)
    else .error (.notConvertible value .boolean)
  | _ => .error (.notConvertible value .boolean)

def toText : Json → Json
  | .null => .null
  | value => .string (String.ofList (rendered value))

def maxPlaces : Nat := 15

/-- Rounds to whole numbers, or to decimal places; an exact half goes away from zero. -/
def round : Filter := fun value arguments => do
  let places := ((← integer? "round" arguments 0).getD 0).toNat
  match value with
  | .null => return .null
  | .number n =>
    if places = 0 then
      match n with
      | .whole _ => return value
      | .float f => inRange f.round f.roundToInt
    else
      -- fifteen digits are as many as a float is sure to keep
      let factor := Binary64.ofNat (Nat.pow 10 (min places maxPlaces))
      finite (((numberValue n).mul factor).round.div factor)
  | _ => throw (.notRoundable value)

def abs : Filter := fun value _ =>
  match value with
  | .null => .ok .null
  | .number (.whole n) => .ok (.ofNat n.natAbs)
  | .number (.float f) => .ok (.ofFloat f.abs)
  | _ => .error (.noMagnitude value)

def jsonDecode : Filter := fun value _ =>
  match value with
  | .string s => match Json.read? s with
    | some decoded => .ok decoded
    | none => .error (.invalidJson s)
  | _ => .ok value

/-- Text of nothing but white space becomes null. -/
def nullify : Json → Json
  | .string s => if (Text.trim s.toList).isEmpty then .null else .string s
  | value => value

def fillNull : Filter := fun value arguments =>
  .ok (match value with
    | .null => arguments.head?.getD .null
    | _ => value)

def conversions : List (String × Filter) := [
  ("int", toInteger),
  ("float", toFloat),
  ("bool", toBool),
  ("string", plain toText),
  ("round", round),
  ("abs", abs),
  ("json", plain fun value => .string value.write),
  ("json_decode", jsonDecode),
  ("nullify", plain nullify),
  ("default", fillNull)]

end Reshape.Filter

import Reshape.Filter.Failure

namespace Reshape

abbrev Filter := Json → List Json → Except Filter.Failure Json

namespace Filter

/-- Text of a value inside other text: strings as they are, nothing for null, others as JSON. -/
def rendered : Json → List Char
  | .string s => s.toList
  | .null => []
  | value => value.chars

/-- An argument as text; null stands for a missing one. -/
def text? (arguments : List Json) (index : Nat) : Option (List Char) :=
  match arguments[index]? with
  | none | some .null => none
  | some value => some (rendered value)

def text (filter : String) (arguments : List Json) (index : Nat) : Except Failure (List Char) :=
  match text? arguments index with
  | some cs => .ok cs
  | none => .error (.missingArgument (index + 1) filter)

/-- An argument as a signed 64-bit integer, which text may spell; null stands for a missing one. -/
def integer? (filter : String) (arguments : List Json) (index : Nat) :
    Except Failure (Option Int) :=
  match arguments[index]? with
  | none | some .null => .ok none
  | some (.number (.whole n)) =>
    if n ≤ maxInt64 then .ok (some n) else .error (.notInteger (index + 1) filter)
  | some (.number (.float _)) => .error (.notInteger (index + 1) filter)
  | some (.string s) => match readInt64? (Text.trim s.toList) with
    | some n => .ok (some n)
    | none => .error (.notInteger (index + 1) filter)
  | some value => .error (.neverInteger (index + 1) filter value)

def integer (filter : String) (arguments : List Json) (index : Nat) : Except Failure Int :=
  match integer? filter arguments index with
  | .ok (some n) => .ok n
  | .ok none => .error (.missingArgument (index + 1) filter)
  | .error failure => .error failure

def onString (f : List Char → List Char) : Json → Json
  | .string s => .string (String.ofList (f s.toList))
  | value => value

/-- Changes strings and the text of numbers and leaves every other value alone. -/
def onText (f : List Char → List Char) : Json → Json
  | .string s => .string (String.ofList (f s.toList))
  | .number n => .string (String.ofList (f n.chars))
  | value => value

def plain (f : Json → Json) : Filter := fun value _ => .ok (f value)

end Filter

end Reshape
